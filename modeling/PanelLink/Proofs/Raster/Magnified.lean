import PanelLink.Proofs.Raster.ReadBack

/-!
# Magnified bitmaps

A bitmap covers its box on the surface completely, each bit as a square of pixels.  Under a
transparent one the picture is read before anything is drawn, so its clear bits leave the picture
as it was.
-/

namespace PanelLink

/-- Whether the bit is set that lies at the point when the bitmap is magnified. -/
def Bitmap.magnifiedBit (bitmap : Bitmap) (x y : Int) (scale : UInt8) (point : Point) : Bool :=
  bitmap.bit ((point.y - y).toNat / scale.toNat) ((point.x - x).toNat / scale.toNat)

/-- The color that is seen through clear bits. -/
def Backdrop.over (backdrop : Backdrop) (under : Color) : Color :=
  match backdrop with
  | .solid color => color
  | .transparent => under

namespace Compositor

variable {compositor : Compositor} {visible : Rect} {point : Point} {x y : Int}
  {bitmap : Bitmap} {scale : UInt8} {foreground : Color} {backdrop : Backdrop}

/-! ## The picture below -/

theorem underlay_snapshot
    (hnear : visible.Near) (hpoint : visible.Contains point) :
    underlay backdrop (compositor.snapshot visible backdrop) visible point =
      backdrop.over (compositor.surface.colorAt point) := by
  cases backdrop with
  | solid color => rfl
  | transparent =>
      have hwidth : (visible.maxX - visible.minX).natAbs < 4294967295 := by
        have hspan := hnear.spanX_lt
        have hordered := hnear.x
        omega
      have hheight : (visible.maxY - visible.minY).natAbs < 4294967295 := by
        have hspan := hnear.spanY_lt
        have hordered := hnear.y
        omega
      have hcorners := hnear.ofCorners_eq
      have hpoint' : (Rect.ofCorners visible.minX visible.minY visible.maxX
          visible.maxY).Contains point := by
        rw [hcorners]
        exact hpoint
      have hread := compositor.packedColor_readBuffer hwidth hheight hpoint'
      rw [hcorners] at hread
      exact hread

/-! ## The bits above -/

/-- A row or column of the bitmap is as wide as the scale. -/
theorem cell_of_mem_places
    {start limit place : Int} {scale remaining index cell : Nat}
    (hmem : (cell, place) ∈ places start limit scale remaining index) :
    cell = (place - start).toNat / scale := by
  induction remaining generalizing index with
  | zero => contradiction
  | succ remaining ih =>
      rw [places] at hmem
      split at hmem
      next => contradiction
      next =>
        split at hmem
        next => exact ih hmem
        next =>
          rcases List.mem_cons.1 hmem with hhead | htail
          · rw [Prod.mk.injEq] at hhead
            obtain ⟨rfl, rfl⟩ := hhead
            rw [add_sub_cancel_left, Int.toNat_natCast]
          · exact ih htail

theorem color_of_mem_bitmapPixels
    {width height : Nat} {clear : Point → Color} {pixel : Point × Color}
    (hmem : pixel ∈ bitmapPixels width height x y bitmap scale foreground clear) :
    pixel.2 = if bitmap.magnifiedBit x y scale pixel.1 then foreground else clear pixel.1 := by
  unfold bitmapPixels at hmem
  obtain ⟨⟨row, py⟩, hrow, hmem⟩ := List.mem_flatMap.1 hmem
  obtain ⟨⟨column, px⟩, hcolumn, rfl⟩ := List.mem_map.1 hmem
  rw [cell_of_mem_places hrow, cell_of_mem_places hcolumn]
  rfl

/-- The whole box is drawn, and nothing but the box. -/
theorem redrawnAs_drawBitmap
    (compositor : Compositor) (x y : Int) (bitmap : Bitmap) (scale : UInt8)
    (foreground : Color) (backdrop : Backdrop) :
    compositor.surface.RedrawnAs
      (fun point =>
        if (scale ≠ 0 ∧ bitmap.width ≠ 0 ∧ bitmap.height ≠ 0) ∧
            (footprint x y bitmap scale).Contains point then
          (if bitmap.magnifiedBit x y scale point then foreground
            else backdrop.over (compositor.surface.colorAt point)).stored
        else
          compositor.surface.bytesAt point)
      (compositor.drawBitmap x y bitmap scale foreground backdrop).2.surface := by
  unfold drawBitmap
  split
  next hempty =>
    apply (Surface.RedrawnAs.refl _).congr
    intro point _
    rw [if_neg]
    rintro ⟨⟨hscale, hwidth, hheight⟩, -⟩
    rcases hempty with h | h | h
    · exact hscale h
    · exact hwidth h
    · exact hheight h
  next hsize =>
    have hsize' : scale ≠ 0 ∧ bitmap.width ≠ 0 ∧ bitmap.height ≠ 0 := by
      simpa only [not_or] using hsize
    split
    next hclip =>
      apply (Surface.RedrawnAs.refl _).congr
      intro point hpoint
      rw [if_neg fun hdrawn => not_visible_of_clip? hclip point ⟨hpoint, hdrawn.2⟩]
    next visible hclip =>
      dsimp only
      rw [hull?_bitmapPixels hsize hclip]
      have hnear := Rect.near_of_clip? hclip (ordered_footprint hsize)
      apply Surface.RedrawnAs.markDirty
      apply Surface.redrawnAs_paint
      · intro pixel hmem
        have hinside := bitmapPixels_mem hmem
        have hbox := (mem_bitmapPixels_iff.1 (List.mem_map_of_mem hmem)).1
        have hvisible := (visible_iff_of_clip? hclip pixel.1).1 ⟨hinside, hbox⟩
        refine ⟨hinside, ?_⟩
        rw [color_of_mem_bitmapPixels hmem, underlay_snapshot hnear hvisible]
      · intro point hpoint
        rw [mem_bitmapPixels_iff, and_iff_right hsize']
        apply and_iff_left
        obtain ⟨hx, hx', hy, hy'⟩ := Surface.mem_bounds_iff.1 hpoint
        exact ⟨⟨hx, hx'⟩, hy, hy'⟩

/-- On a solid surface the picture under a clear bit is drawn again as it was. -/
theorem bytesAt_drawBitmap_of_clear
    (hsolid : compositor.surface.Solid) (hpoint : compositor.surface.bounds.Contains point)
    (hclear : bitmap.magnifiedBit x y scale point = false) :
    (compositor.drawBitmap x y bitmap scale foreground .transparent).2.surface.bytesAt point =
      compositor.surface.bytesAt point := by
  rw [(compositor.redrawnAs_drawBitmap ..).bytesAt_eq point hpoint]
  split
  next =>
    rw [hclear, hsolid.bytesAt_eq hpoint]
    rfl
  next => rfl

end Compositor

/-- A bitmap is drawn at every point of its box that is on the surface, each bit as a square as
wide as the scale, and at no other point.  Clear bits show the backdrop, or the color that was
there before; and a compositor keeps all that was there under the clear bits of a transparent
bitmap, whatever has been done to it since it was created. -/
theorem bitmap_drawn_magnified
    (x y : Int) (bitmap : Bitmap) (scale : UInt8) (foreground : Color) (backdrop : Backdrop) :
    (∀ (compositor : Compositor) (point : Point), compositor.surface.bounds.Contains point →
      let drawn := (compositor.drawBitmap x y bitmap scale foreground backdrop).2.surface
      let inside := (scale ≠ 0 ∧ bitmap.width ≠ 0 ∧ bitmap.height ≠ 0) ∧
        (x ≤ point.x ∧ point.x < x + bitmap.width.toNat * scale.toNat) ∧
          y ≤ point.y ∧ point.y < y + bitmap.height.toNat * scale.toNat
      (inside → drawn.pixel? point =
        if bitmap.bit ((point.y - y).toNat / scale.toNat)
            ((point.x - x).toNat / scale.toNat) then
          some foreground
        else
          match backdrop with
          | .solid color => some color
          | .transparent => compositor.surface.pixel? point) ∧
        (¬ inside → drawn.bytesAt point = compositor.surface.bytesAt point)) ∧
    ∀ (surface reference : Surface) (background : Color) (handlings : List Handling),
      let watched : Watched := ⟨Compositor.create surface background, reference⟩
      let compositor := (watched.handleAll handlings).compositor
      ∀ point, compositor.surface.bounds.Contains point →
        bitmap.bit ((point.y - y).toNat / scale.toNat)
            ((point.x - x).toNat / scale.toNat) = false →
          (compositor.drawBitmap x y bitmap scale foreground .transparent).2.surface.bytesAt
              point = compositor.surface.bytesAt point := by
  constructor
  · intro compositor point hpoint drawn inside
    have hdrawn := compositor.redrawnAs_drawBitmap x y bitmap scale foreground backdrop
    have hbytes := hdrawn.bytesAt_eq point hpoint
    have hbox : (Compositor.footprint x y bitmap scale).Contains point ↔
        (x ≤ point.x ∧ point.x < x + bitmap.width.toNat * scale.toNat) ∧
          y ≤ point.y ∧ point.y < y + bitmap.height.toNat * scale.toNat := by
      simp only [Compositor.footprint, Rect.Contains]
      omega
    simp only [hbox] at hbytes
    constructor
    · intro hinside
      rw [if_pos hinside] at hbytes
      have hpoint' : drawn.bounds.Contains point := by rwa [hdrawn.bounds_eq]
      rw [Surface.pixel?_of_bytesAt hpoint' hbytes, Bitmap.magnifiedBit, apply_ite some]
      congr 1
      cases backdrop with
      | solid color => rfl
      | transparent => exact (Surface.pixel?_eq_some_colorAt hpoint).symm
    · intro houtside
      rwa [if_neg houtside] at hbytes
  · intro surface reference background handlings watched compositor point hpoint hclear
    have hstart : watched.compositor.surface.Solid := surface.solid_fill background
    have hsolid : compositor.surface.Solid := Watched.solid_handleAll hstart handlings
    exact Compositor.bytesAt_drawBitmap_of_clear hsolid hpoint hclear

/-- Two by two bits at twice their size, from one point left of and above the surface.  The two bits
that are set are drawn in corners of their box; under a clear bit and right of the box the
background stays. -/
theorem bitmap_drawn_magnified_overlay :
    ∃ surface : Surface,
      let start := Compositor.create surface ⟨1, 2, 3⟩
      let bitmap : Bitmap := ⟨2, 2, #[9]⟩
      let drawn := (start.drawBitmap (-1) (-1) bitmap 2 ⟨200, 100, 0⟩ .transparent).2.surface
      Surface.ofStorage 4 3 (Array.replicate 48 7) = .ok surface ∧
        start.surface.bounds.Contains ⟨0, 0⟩ ∧ drawn.pixel? ⟨0, 0⟩ = some ⟨200, 100, 0⟩ ∧
        start.surface.bounds.Contains ⟨1, 0⟩ ∧ drawn.pixel? ⟨1, 0⟩ = some ⟨1, 2, 3⟩ ∧
        drawn.pixel? ⟨2, 2⟩ = some ⟨200, 100, 0⟩ ∧
        drawn.bytesAt ⟨3, 2⟩ = [1, 2, 3, 255] ∧
        bitmap.bit 0 1 = false ∧ drawn.bytesAt ⟨1, 0⟩ = start.surface.bytesAt ⟨1, 0⟩ := by
  obtain ⟨surface, hsurface⟩ : ∃ surface,
      Surface.ofStorage 4 3 (Array.replicate 48 7) = .ok surface := ⟨_, rfl⟩
  refine ⟨surface, ?_⟩
  intro start bitmap drawn
  obtain ⟨hpixels, hkept⟩ :=
    bitmap_drawn_magnified (-1) (-1) bitmap 2 ⟨200, 100, 0⟩ .transparent
  have hinside : start.surface.bounds.Contains ⟨0, 0⟩ ∧ start.surface.bounds.Contains ⟨1, 0⟩ ∧
      start.surface.bounds.Contains ⟨2, 2⟩ ∧ start.surface.bounds.Contains ⟨3, 2⟩ := by
    have hbounds : start.surface.bounds = surface.bounds :=
      (surface.redrawnAs_fill ⟨1, 2, 3⟩).bounds_eq
    rw [hbounds]
    cases hsurface
    decide
  obtain ⟨hfirst, hsecond, hlast, hright⟩ := hinside
  have hbackground : start.surface.pixel? ⟨1, 0⟩ = some ⟨1, 2, 3⟩ ∧
      start.surface.bytesAt ⟨3, 2⟩ = [1, 2, 3, 255] := by
    cases hsurface
    decide +kernel
  have hfirst' := (hpixels start ⟨0, 0⟩ hfirst).1 (by decide)
  have hsecond' := (hpixels start ⟨1, 0⟩ hsecond).1 (by decide)
  have hlast' := (hpixels start ⟨2, 2⟩ hlast).1 (by decide)
  have hright' := (hpixels start ⟨3, 2⟩ hright).2 (by decide)
  refine ⟨hsurface, hfirst, hfirst'.trans (if_pos (by decide)), hsecond,
    (hsecond'.trans (if_neg (by decide))).trans hbackground.1, hlast'.trans (if_pos (by decide)),
    hright'.trans hbackground.2, by decide, ?_⟩
  exact hkept surface surface ⟨1, 2, 3⟩ [] ⟨1, 0⟩ hsecond (by decide)

end PanelLink
