import PanelLink.Proofs.Raster.Redrawn
import PanelLink.Raster.Compositor

/-!
# Drawing operations

Every operation of a compositor redraws its surface, and what it draws does not
depend on what is dirty.
-/

namespace PanelLink

namespace Rect

theorem pairwise_interval (low high : Int) :
    (interval low high).Pairwise (· < ·) := by
  unfold interval
  rw [List.pairwise_map]
  apply List.pairwise_lt_range.imp
  intro i j hlt
  omega

/-- Points are listed row by row, and each row from left to right. -/
theorem pairwise_points_rowMajor (rect : Rect) :
    rect.points.Pairwise fun point other =>
      point.y < other.y ∨ point.y = other.y ∧ point.x < other.x := by
  unfold points
  rw [List.pairwise_flatMap]
  constructor
  · intro y _
    rw [List.pairwise_map]
    apply (pairwise_interval rect.minX rect.maxX).imp
    intro x x' hlt
    exact .inr ⟨rfl, hlt⟩
  · apply (pairwise_interval rect.minY rect.maxY).imp
    intro y y' hlt point hpoint other hother
    obtain ⟨x, -, rfl⟩ := List.mem_map.1 hpoint
    obtain ⟨x', -, rfl⟩ := List.mem_map.1 hother
    exact .inl hlt

theorem nodup_points (rect : Rect) : rect.points.Nodup := by
  apply (pairwise_points_rowMajor rect).imp
  rintro point _ hbefore rfl
  omega

/-- The points of a part of a rectangle are listed in the order of the whole. -/
theorem points_eq_filter
    {rect part : Rect} {inside : Point → Bool}
    (hpart : ∀ point, part.Contains point ↔ rect.Contains point ∧ inside point = true) :
    part.points = rect.points.filter inside := by
  apply List.Perm.eq_of_pairwise _ (pairwise_points_rowMajor part)
    ((pairwise_points_rowMajor rect).filter inside)
  · rw [List.perm_ext_iff_of_nodup part.nodup_points (rect.nodup_points.filter inside)]
    intro point
    rw [List.mem_filter, mem_points, mem_points, hpart]
  · intro point other _ _ hbefore hafter
    omega

theorem y_le_of_getLast?_takeWhile
    {rect : Rect} {keep : Point → Bool} {point last : Point}
    (hlast : (rect.points.takeWhile keep).getLast? = some last)
    (hmem : point ∈ rect.points.takeWhile keep) : point.y ≤ last.y := by
  obtain ⟨before, hsplit⟩ := List.getLast?_eq_some_iff.1 hlast
  have hsorted := (pairwise_points_rowMajor rect).sublist (List.takeWhile_sublist keep)
  rw [hsplit, List.pairwise_append] at hsorted
  rw [hsplit, List.mem_append, List.mem_singleton] at hmem
  rcases hmem with hbefore | rfl
  · rcases hsorted.2.2 point hbefore last (List.mem_singleton_self last) with hrow | ⟨hrow, -⟩
    · exact hrow.le
    · exact hrow.le
  · exact le_rfl

end Rect

namespace Compositor

/-! ## Operations redraw the surface -/

theorem redrawn_fillRect
    (compositor : Compositor) (x1 y1 x2 y2 : Int) (color : Color) :
    compositor.surface.Redrawn (compositor.fillRect x1 y1 x2 y2 color).2.surface := by
  unfold fillRect
  split
  next => exact .refl _
  next area hclip =>
    apply Surface.redrawn_paint_markDirty
    intro pixel hmem
    obtain ⟨point, hpoint, rfl⟩ := List.mem_map.1 hmem
    have harea : area.Contains point := Rect.mem_points.1 hpoint
    exact ⟨(((Surface.clip?_eq_some hclip).2 point).1 harea).2, harea⟩

theorem redrawn_blitBuffer
    (compositor : Compositor) (x1 y1 x2 y2 : Int) (pixels : Array UInt8) :
    compositor.surface.Redrawn (compositor.blitBuffer x1 y1 x2 y2 pixels).2.surface := by
  unfold blitBuffer
  dsimp only
  split
  next => exact .refl _
  next area hclip =>
    split
    next => exact .refl _
    next last hlast =>
      apply Surface.redrawn_paint_markDirty
      intro pixel hmem
      obtain ⟨point, hpoint, rfl⟩ := List.mem_map.1 hmem
      have harea : area.Contains point :=
        Rect.mem_points.1 ((List.takeWhile_sublist _).subset hpoint)
      have hbelow := Rect.y_le_of_getLast?_takeWhile hlast hpoint
      refine ⟨(((Surface.clip?_eq_some hclip).2 point).1 harea).2, ?_⟩
      exact ⟨harea.1, harea.2.1, harea.2.2.1, hbelow⟩

theorem mem_places_iff {start limit place : Int} {scale remaining index : Nat} :
    (∃ cell, (cell, place) ∈ places start limit scale remaining index) ↔
      (start + index ≤ place ∧ place < start + index + remaining) ∧ 0 ≤ place ∧ place < limit := by
  induction remaining generalizing index with
  | zero =>
      simp only [places, List.not_mem_nil, exists_false, false_iff]
      omega
  | succ remaining ih =>
      rw [places]
      split
      next hlimit =>
        simp only [List.not_mem_nil, exists_false, false_iff]
        omega
      next hlimit =>
        split
        next hstart =>
          rw [ih]
          omega
        next hstart =>
          simp only [List.mem_cons, Prod.mk.injEq, exists_or, exists_eq_left, ih]
          omega

theorem bitmapPixels_mem
    {surface : Surface} {x y : Int} {bitmap : Bitmap} {scale : UInt8}
    {foreground : Color} {clear : Point → Color} {pixel : Point × Color}
    (hmem : pixel ∈ bitmapPixels surface.width surface.height x y bitmap scale
      foreground clear) :
    surface.bounds.Contains pixel.1 := by
  unfold bitmapPixels at hmem
  obtain ⟨⟨row, py⟩, hrow, hmem⟩ := List.mem_flatMap.1 hmem
  obtain ⟨⟨column, px⟩, hcolumn, rfl⟩ := List.mem_map.1 hmem
  obtain ⟨-, hy, hy'⟩ := mem_places_iff.1 ⟨row, hrow⟩
  obtain ⟨-, hx, hx'⟩ := mem_places_iff.1 ⟨column, hcolumn⟩
  exact Surface.mem_bounds_iff.2 ⟨hx, hx', hy, hy'⟩

theorem redrawn_drawBitmap
    (compositor : Compositor) (x y : Int) (bitmap : Bitmap) (scale : UInt8)
    (foreground : Color) (backdrop : Backdrop) :
    compositor.surface.Redrawn
      (compositor.drawBitmap x y bitmap scale foreground backdrop).2.surface := by
  unfold drawBitmap
  split
  next => exact .refl _
  next =>
    split
    next => exact .refl _
    next visible _ =>
      dsimp only
      split
      next => exact .refl _
      next touched htouched =>
        apply Surface.redrawn_paint_markDirty
        intro pixel hmem
        exact ⟨bitmapPixels_mem hmem,
          (Rect.isHull_of_hull? htouched).contains _ (List.mem_map_of_mem hmem)⟩

theorem redrawn_scroll (compositor : Compositor) (lines : Int) :
    compositor.surface.Redrawn (compositor.scroll lines).2.surface := by
  unfold scroll
  split
  next => exact .refl _
  next =>
    dsimp only
    split
    next => exact Surface.redrawn_markDirty_bounds rfl rfl rfl
    next =>
      split
      next => exact Surface.redrawn_markDirty_bounds rfl rfl rfl
      next => exact Surface.redrawn_markDirty_bounds rfl rfl rfl

theorem redrawn_apply (compositor : Compositor) (command : Command) :
    compositor.surface.Redrawn (compositor.apply command).2.surface := by
  cases command with
  | fillRect corners color => exact redrawn_fillRect ..
  | drawBitmap x y scale foreground backdrop bitmap => exact redrawn_drawBitmap ..
  | blitBuffer corners pixels => exact redrawn_blitBuffer ..
  | scroll lines => exact redrawn_scroll ..
  | execute data => exact .refl _

end Compositor

/-- What can be done to a compositor and to the surface in it, other than taking the dirty
rectangle. -/
inductive Drawing where
  | apply (command : Command)
  | fillRect (x1 y1 x2 y2 : Int) (color : Color)
  | blitBuffer (x1 y1 x2 y2 : Int) (pixels : Array UInt8)
  | drawBitmap (x y : Int) (bitmap : Bitmap) (scale : UInt8) (foreground : Color)
      (backdrop : Backdrop)
  | scroll (lines : Int)
  | setBackground (color : Color)
  | putPixel (point : Point) (color : Color)
  | fill (color : Color)
  | markDirty (rect : Rect)

namespace Drawing

def perform (compositor : Compositor) : Drawing → Compositor
  | apply command => (compositor.apply command).2
  | fillRect x1 y1 x2 y2 color => (compositor.fillRect x1 y1 x2 y2 color).2
  | blitBuffer x1 y1 x2 y2 pixels => (compositor.blitBuffer x1 y1 x2 y2 pixels).2
  | drawBitmap x y bitmap scale foreground backdrop =>
    (compositor.drawBitmap x y bitmap scale foreground backdrop).2
  | scroll lines => (compositor.scroll lines).2
  | setBackground color => compositor.setBackground color
  | putPixel point color => { compositor with surface := (compositor.surface.putPixel point color).2 }
  | fill color => { compositor with surface := compositor.surface.fill color }
  | markDirty rect => { compositor with surface := compositor.surface.markDirty rect }

theorem redrawn_perform (compositor : Compositor) (drawing : Drawing) :
    compositor.surface.Redrawn (drawing.perform compositor).surface := by
  cases drawing with
  | apply command => exact Compositor.redrawn_apply ..
  | fillRect x1 y1 x2 y2 color => exact Compositor.redrawn_fillRect ..
  | blitBuffer x1 y1 x2 y2 pixels => exact Compositor.redrawn_blitBuffer ..
  | drawBitmap x y bitmap scale foreground backdrop => exact Compositor.redrawn_drawBitmap ..
  | scroll lines => exact Compositor.redrawn_scroll ..
  | setBackground color => exact .refl _
  | putPixel point color => exact Surface.redrawn_putPixel ..
  | fill color => exact Surface.redrawn_fill ..
  | markDirty rect => exact Surface.redrawn_markDirty ..

end Drawing

end PanelLink
