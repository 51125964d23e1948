import PanelLink.Proofs.Raster.Between
import PanelLink.Proofs.Raster.Dirty
import PanelLink.Proofs.Raster.Scrolling

/-!
# Solid surfaces

Drawing writes all four bytes of a pixel and scrolling moves all four, so a surface that has been
filled once stays solid whatever is done to it.
-/

namespace PanelLink

namespace Surface

variable {surface before after : Surface} {pixels : List (Point × Color)} {point : Point}
  {color : Color} {picture : Point → List UInt8}

/-- The color of a pixel, and black off the surface. -/
def colorAt (surface : Surface) (point : Point) : Color :=
  (surface.pixel? point).getD Color.black

theorem pixel?_eq_some_colorAt (hpoint : surface.bounds.Contains point) :
    surface.pixel? point = some (surface.colorAt point) := by
  rw [colorAt, pixel?, if_pos hpoint]
  rfl

/-- Every pixel has the bytes of some color. -/
def Solid (surface : Surface) : Prop :=
  ∀ point, surface.bounds.Contains point → ∃ color : Color, surface.bytesAt point = color.stored

theorem Solid.bytesAt_eq
    (hsolid : surface.Solid) (hpoint : surface.bounds.Contains point) :
    surface.bytesAt point = (surface.colorAt point).stored := by
  obtain ⟨color, hbytes⟩ := hsolid point hpoint
  rw [colorAt, pixel?_of_bytesAt hpoint hbytes, hbytes]
  rfl

theorem RedrawnAs.solid
    (h : before.RedrawnAs picture after)
    (hpicture : ∀ point, before.bounds.Contains point →
      ∃ color : Color, picture point = color.stored) : after.Solid := by
  intro point hpoint
  rw [h.bounds_eq] at hpoint
  rw [h.bytesAt_eq point hpoint]
  exact hpicture point hpoint

/-- A color over part of an solid surface. -/
theorem Solid.of_redrawnAs
    {region : Point → Prop} [DecidablePred region] (hsolid : before.Solid)
    (h : before.RedrawnAs
      (fun point => if region point then color.stored else before.bytesAt point) after) :
    after.Solid := by
  apply h.solid
  intro point hpoint
  split
  next => exact ⟨color, rfl⟩
  next => exact hsolid point hpoint

theorem Solid.markDirty (hsolid : surface.Solid) (rect : Rect) :
    (surface.markDirty rect).Solid :=
  ((RedrawnAs.refl surface).markDirty rect).solid hsolid

theorem Solid.paint
    (hsolid : surface.Solid) (hpixels : ∀ pixel ∈ pixels, surface.bounds.Contains pixel.1) :
    (surface.paint pixels).Solid := by
  intro point hpoint
  rcases bytesAt_paint_cases hpixels hpoint with ⟨color, -, hbytes⟩ | ⟨-, hbytes⟩
  · exact ⟨color, hbytes⟩
  · rw [hbytes]
    exact hsolid point hpoint

theorem solid_fill (surface : Surface) (color : Color) : (surface.fill color).Solid :=
  (surface.redrawnAs_fill color).solid fun _ _ => ⟨color, rfl⟩

end Surface

namespace Compositor

variable {compositor : Compositor}

theorem solid_blitBuffer
    (hsolid : compositor.surface.Solid) (x1 y1 x2 y2 : Int) (pixels : Array UInt8) :
    (compositor.blitBuffer x1 y1 x2 y2 pixels).2.surface.Solid := by
  unfold blitBuffer
  dsimp only
  split
  next => exact hsolid
  next area hclip =>
    split
    next => exact hsolid
    next =>
      apply Surface.Solid.markDirty
      apply hsolid.paint
      intro pixel hmem
      obtain ⟨point, hpoint, rfl⟩ := List.mem_map.1 hmem
      have harea : area.Contains point :=
        Rect.mem_points.1 ((List.takeWhile_sublist _).subset hpoint)
      exact ((visible_iff_of_clip? hclip point).2 harea).1

theorem solid_drawBitmap
    (hsolid : compositor.surface.Solid) (x y : Int) (bitmap : Bitmap) (scale : UInt8)
    (foreground : Color) (backdrop : Backdrop) :
    (compositor.drawBitmap x y bitmap scale foreground backdrop).2.surface.Solid := by
  unfold drawBitmap
  split
  next => exact hsolid
  next =>
    split
    next => exact hsolid
    next =>
      dsimp only
      split
      next => exact hsolid
      next =>
        apply Surface.Solid.markDirty
        exact hsolid.paint fun pixel hmem => bitmapPixels_mem hmem

theorem solid_scroll (hsolid : compositor.surface.Solid) (lines : Int) :
    (compositor.scroll lines).2.surface.Solid := by
  apply (compositor.redrawnAs_scroll lines).solid
  intro point hpoint
  obtain ⟨hx, hx', -, -⟩ := Surface.mem_bounds_iff.1 hpoint
  split
  next hrow => exact hsolid _ (Surface.mem_bounds_iff.2 ⟨hx, hx', hrow⟩)
  next => exact ⟨compositor.background, rfl⟩

theorem solid_apply (hsolid : compositor.surface.Solid) (command : Command) :
    (compositor.apply command).2.surface.Solid := by
  cases command with
  | fillRect corners color => exact hsolid.of_redrawnAs (compositor.redrawnAs_fillRect ..)
  | drawBitmap x y scale foreground backdrop bitmap => exact solid_drawBitmap hsolid _ _ _ _ _ _
  | blitBuffer corners pixels => exact solid_blitBuffer hsolid _ _ _ _ _
  | scroll lines => exact solid_scroll hsolid _
  | execute data => exact hsolid

end Compositor

theorem Drawing.solid_perform
    {compositor : Compositor} (hsolid : compositor.surface.Solid) (drawing : Drawing) :
    (drawing.perform compositor).surface.Solid := by
  cases drawing with
  | apply command => exact Compositor.solid_apply hsolid command
  | fillRect x1 y1 x2 y2 color => exact hsolid.of_redrawnAs (compositor.redrawnAs_fillRect ..)
  | blitBuffer x1 y1 x2 y2 pixels => exact Compositor.solid_blitBuffer hsolid _ _ _ _ _
  | drawBitmap x y bitmap scale foreground backdrop =>
      exact Compositor.solid_drawBitmap hsolid _ _ _ _ _ _
  | scroll lines => exact Compositor.solid_scroll hsolid lines
  | setBackground color => exact hsolid
  | putPixel point color =>
      exact hsolid.of_redrawnAs (compositor.surface.redrawnAs_putPixel point color)
  | fill color => exact compositor.surface.solid_fill color
  | markDirty rect => exact hsolid.markDirty rect

namespace Watched

variable {watched : Watched}

theorem solid_handle (hsolid : watched.compositor.surface.Solid) (handling : Handling) :
    (watched.handle handling).compositor.surface.Solid := by
  cases handling with
  | draw drawing => exact drawing.solid_perform hsolid
  | takeDirty => exact hsolid

theorem solid_handleAll (hsolid : watched.compositor.surface.Solid)
    (handlings : List Handling) : (watched.handleAll handlings).compositor.surface.Solid := by
  induction handlings generalizing watched with
  | nil => exact hsolid
  | cons handling handlings ih => exact ih (solid_handle hsolid handling)

end Watched

end PanelLink
