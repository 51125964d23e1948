import PanelLink.Proofs.Raster.Painting

/-!
# Ways of drawing

A rectangle can be filled at once, copied from a buffer of one color, or drawn point by point in
any order, and a bitmap on a solid backdrop can be expanded to a buffer first.  Every way paints
the same picture, so none can be told from another by what it leaves.
-/

namespace PanelLink

/-- Draws the points one after the other, and says whether any of them is on the surface. -/
def Surface.putPixels (surface : Surface) (color : Color) : List Point → Bool × Surface
  | [] => (false, surface)
  | point :: points =>
    let first := surface.putPixel point color
    let rest := first.2.putPixels color points
    (first.1 || rest.1, rest.2)

/-- The bitmap in its full size, packed row by row. -/
def Bitmap.expanded (bitmap : Bitmap) (scale : UInt8) (foreground background : Color) :
    Array UInt8 :=
  ((List.range (bitmap.height.toNat * scale.toNat)).flatMap fun row =>
    (List.range (bitmap.width.toNat * scale.toNat)).flatMap fun column =>
      (if bitmap.bit (row / scale.toNat) (column / scale.toNat) then foreground
        else background).toPixel).toArray

/-! ## Buffers that are packed rectangles -/

theorem Rect.packed_const (rect : Rect) (color : Color) :
    rect.packed (fun _ => color) = (List.replicate rect.points.length color.toPixel).flatten := by
  rw [packed, List.flatMap_def, List.map_const']

theorem Compositor.packed_footprint
    (x y : Int) (bitmap : Bitmap) (scale : UInt8) (foreground background : Color) :
    ((footprint x y bitmap scale).packed fun point =>
      if bitmap.magnifiedBit x y scale point then foreground else background).toArray =
        bitmap.expanded scale foreground background := by
  have hrows : (y + bitmap.height.toNat * scale.toNat - 1 - y + 1).toNat =
      bitmap.height.toNat * scale.toNat := by
    omega
  have hcolumns : (x + bitmap.width.toNat * scale.toNat - 1 - x + 1).toNat =
      bitmap.width.toNat * scale.toNat := by
    omega
  simp only [Rect.packed, Rect.points, Rect.interval, footprint, hrows, hcolumns, Bitmap.expanded,
    Bitmap.magnifiedBit, List.flatMap_assoc, List.flatMap_map, add_sub_cancel_left,
    Int.toNat_natCast]

/-! ## Points one after the other -/

namespace Compositor

theorem paints_putPixels (compositor : Compositor) (color : Color) (points : List Point) :
    compositor.Paints
      ((compositor.surface.putPixels color points).1,
        { compositor with surface := (compositor.surface.putPixels color points).2 })
      (fun other => compositor.surface.bounds.Contains other ∧ other ∈ points)
      (fun other => if other ∈ points then color.stored else compositor.surface.bytesAt other) := by
  induction points generalizing compositor with
  | nil =>
      have hempty : ∀ other : Point,
          ¬ (compositor.surface.bounds.Contains other ∧ other ∈ ([] : List Point)) := by
        simp
      apply (paints_nothing hempty).congr
      · exact fun _ => Iff.rfl
      · simp
  | cons point points ih =>
      have hfirst := compositor.paints_putPixel point color
      have hbounds := hfirst.redrawn.bounds_eq
      apply (hfirst.andThen (ih _)).congr
      · intro other
        rw [hbounds, ← and_or_left, List.mem_cons]
      · intro other hother
        rw [hfirst.redrawn.bytesAt_eq other hother]
        by_cases hlater : other ∈ points
        · simp [hlater]
        · simp [hlater]

/-- A rectangle filled point by point, in whatever order and however often. -/
theorem putPixels_eq_fillRect
    (compositor : Compositor) (x1 y1 x2 y2 : Int) (color : Color) {points : List Point}
    (hpoints : ∀ point, point ∈ points ↔ (Rect.ofCorners x1 y1 x2 y2).Contains point) :
    compositor.surface.putPixels color points =
      ((compositor.fillRect x1 y1 x2 y2 color).1,
        (compositor.fillRect x1 y1 x2 y2 color).2.surface) := by
  have hfilled := compositor.paints_fillRect x1 y1 x2 y2 color
  have hdrawn := compositor.paints_putPixels color points
  have hsame : ((compositor.surface.putPixels color points).1,
      { compositor with surface := (compositor.surface.putPixels color points).2 }) =
        compositor.fillRect x1 y1 x2 y2 color := by
    refine (hdrawn.congr ?_ ?_).unique hfilled
    · exact fun point => and_congr_right fun _ => hpoints point
    · simp [hpoints]
  rw [← hsame]

theorem blitBuffer_eq_fillRect
    (compositor : Compositor) (x1 y1 x2 y2 : Int) (color : Color)
    (hsize : (x2 - x1).natAbs < 4294967295) :
    compositor.blitBuffer x1 y1 x2 y2
        (List.replicate (((x2 - x1).natAbs + 1) * ((y2 - y1).natAbs + 1))
          color.toPixel).flatten.toArray =
      compositor.fillRect x1 y1 x2 y2 color := by
  rw [← Rect.length_points_ofCorners, ← Rect.packed_const]
  exact (compositor.paints_blitBuffer_packed y1 y2 (fun _ => color) hsize).unique
    (compositor.paints_fillRect x1 y1 x2 y2 color)

/-- A bitmap on a solid backdrop is the same as its expansion. -/
theorem drawBitmap_eq_blitBuffer
    (compositor : Compositor) (x y : Int) {bitmap : Bitmap} {scale : UInt8}
    (foreground background : Color)
    (hdraws : scale ≠ 0 ∧ bitmap.width ≠ 0 ∧ bitmap.height ≠ 0) :
    compositor.drawBitmap x y bitmap scale foreground (.solid background) =
      compositor.blitBuffer x y (x + bitmap.width.toNat * scale.toNat - 1)
        (y + bitmap.height.toNat * scale.toNat - 1)
        (bitmap.expanded scale foreground background) := by
  have hordered : (footprint x y bitmap scale).Ordered :=
    ordered_footprint (by simpa only [not_or] using hdraws)
  have hsize : (x + bitmap.width.toNat * scale.toNat - 1 - x).natAbs < 4294967295 := by
    have hwidth := bitmap.width.toNat_lt
    have hscale := scale.toNat_lt
    have hle : bitmap.width.toNat * scale.toNat ≤ 65536 * 256 :=
      Nat.mul_le_mul hwidth.le hscale.le
    omega
  have hcorners : Rect.ofCorners x y (x + bitmap.width.toNat * scale.toNat - 1)
      (y + bitmap.height.toNat * scale.toNat - 1) = footprint x y bitmap scale :=
    hordered.ofCorners_eq
  have hbuffer := compositor.paints_blitBuffer_packed y
    (y + bitmap.height.toNat * scale.toNat - 1)
    (fun point => if bitmap.magnifiedBit x y scale point then foreground else background) hsize
  rw [hcorners, packed_footprint] at hbuffer
  apply Paints.unique _ hbuffer
  apply (compositor.paints_drawBitmap x y bitmap scale foreground (.solid background)).congr
  · exact fun point => and_iff_right hdraws
  · intro point _
    simp only [hdraws, not_false_eq_true, and_self, true_and, ne_eq, Backdrop.over]

theorem fillRect_eq_fill (compositor : Compositor) (color : Color) :
    compositor.fillRect 0 0 (compositor.surface.width - 1) (compositor.surface.height - 1) color =
      (true, { compositor with surface := compositor.surface.fill color }) := by
  have hcorners : Rect.ofCorners 0 0 (compositor.surface.width - 1)
      (compositor.surface.height - 1) = compositor.surface.bounds :=
    compositor.surface.ordered_bounds.ofCorners_eq
  have hfilled := compositor.paints_fillRect 0 0 (compositor.surface.width - 1)
    (compositor.surface.height - 1) color
  rw [hcorners] at hfilled
  apply Paints.unique _ (compositor.paints_fill color)
  apply hfilled.congr
  · exact fun point => and_self_iff
  · intro point hpoint
    rw [if_pos hpoint]

end Compositor

/-- Filling a rectangle, copying a buffer of one color into it and drawing its points one by one
give the same answer and leave the same bytes and the same dirty rectangle.  So do a bitmap on a
solid backdrop and the buffer that it expands to, and filling the rectangle around the surface is
filling the surface. -/
theorem drawing_ways_agree (compositor : Compositor) :
    (∀ (x1 y1 x2 y2 : Int) (color : Color), (x2 - x1).natAbs < 4294967295 →
      let filled := compositor.fillRect x1 y1 x2 y2 color
      let count := ((x2 - x1).natAbs + 1) * ((y2 - y1).natAbs + 1)
      compositor.blitBuffer x1 y1 x2 y2
          (List.replicate count [color.red, color.green, color.blue]).flatten.toArray = filled ∧
        ∀ points : List Point,
          (∀ point, point ∈ points ↔ (Rect.ofCorners x1 y1 x2 y2).Contains point) →
            compositor.surface.putPixels color points = (filled.1, filled.2.surface)) ∧
    (∀ (x y : Int) (bitmap : Bitmap) (scale : UInt8) (foreground background : Color),
      scale ≠ 0 ∧ bitmap.width ≠ 0 ∧ bitmap.height ≠ 0 →
        compositor.drawBitmap x y bitmap scale foreground (.solid background) =
          compositor.blitBuffer x y (x + bitmap.width.toNat * scale.toNat - 1)
            (y + bitmap.height.toNat * scale.toNat - 1)
            (bitmap.expanded scale foreground background)) ∧
    ∀ color : Color,
      compositor.fillRect 0 0 (compositor.surface.width - 1) (compositor.surface.height - 1) color =
        (true, { compositor with surface := compositor.surface.fill color }) := by
  refine ⟨?_, ?_, compositor.fillRect_eq_fill⟩
  · intro x1 y1 x2 y2 color hsize
    constructor
    · exact compositor.blitBuffer_eq_fillRect x1 y1 x2 y2 color hsize
    · intro points hpoints
      exact compositor.putPixels_eq_fillRect x1 y1 x2 y2 color hpoints
  · intro x y bitmap scale foreground background hdraws
    exact compositor.drawBitmap_eq_blitBuffer x y foreground background hdraws

/-- Six points of which two are left of the surface, drawn from the last to the first, and two bits
at twice their size of which half is left of the surface and half below it. -/
theorem drawing_ways_agree_off_surface :
    ∃ surface : Surface,
      let start : Compositor := ⟨surface, Color.black⟩
      let filled := start.fillRect 1 1 (-1) 0 ⟨9, 8, 7⟩
      let points := (Rect.ofCorners 1 1 (-1) 0).points.reverse
      let bitmap : Bitmap := ⟨2, 1, #[1]⟩
      let drawn := start.drawBitmap (-1) 1 bitmap 2 ⟨9, 8, 7⟩ (.solid ⟨1, 2, 3⟩)
      Surface.ofStorage 3 2 (Array.replicate 25 5) = .ok surface ∧
        (-1 - 1 : Int).natAbs < 4294967295 ∧
        filled.1 = true ∧ filled.2.surface.dirty = some ⟨0, 0, 1, 1⟩ ∧
        start.blitBuffer 1 1 (-1) 0 (List.replicate 6 [9, 8, 7]).flatten.toArray = filled ∧
        (∀ point, point ∈ points ↔ (Rect.ofCorners 1 1 (-1) 0).Contains point) ∧
        surface.putPixels ⟨9, 8, 7⟩ points = (true, filled.2.surface) ∧
        ((2 : UInt8) ≠ 0 ∧ bitmap.width ≠ 0 ∧ bitmap.height ≠ 0) ∧
        drawn.2.surface.bytesAt ⟨0, 1⟩ = [1, 2, 3, 255] ∧
        drawn.2.surface.bytesAt ⟨1, 1⟩ = [9, 8, 7, 255] ∧
        start.blitBuffer (-1) 1 2 2 (bitmap.expanded 2 ⟨9, 8, 7⟩ ⟨1, 2, 3⟩) = drawn := by
  obtain ⟨surface, hsurface⟩ : ∃ surface,
      Surface.ofStorage 3 2 (Array.replicate 25 5) = .ok surface := ⟨_, rfl⟩
  refine ⟨surface, ?_⟩
  intro start filled points bitmap drawn
  obtain ⟨hrectangles, hbitmaps, -⟩ := drawing_ways_agree start
  obtain ⟨hbuffer, hpoints⟩ := hrectangles 1 1 (-1) 0 ⟨9, 8, 7⟩ (by decide)
  have hexpanded := hbitmaps (-1) 1 bitmap 2 ⟨9, 8, 7⟩ ⟨1, 2, 3⟩ (by decide)
  have hfilled : filled.1 = true ∧ filled.2.surface.dirty = some ⟨0, 0, 1, 1⟩ := by
    cases hsurface
    decide +kernel
  have hdrawn : drawn.2.surface.bytesAt ⟨0, 1⟩ = [1, 2, 3, 255] ∧
      drawn.2.surface.bytesAt ⟨1, 1⟩ = [9, 8, 7, 255] := by
    cases hsurface
    decide +kernel
  have hlisted : ∀ point, point ∈ points ↔ (Rect.ofCorners 1 1 (-1) 0).Contains point := by
    simp [points]
  have hputs : surface.putPixels ⟨9, 8, 7⟩ points = (true, filled.2.surface) := by
    rw [← hfilled.1]
    exact hpoints points hlisted
  exact ⟨hsurface, by decide, hfilled.1, hfilled.2, hbuffer, hlisted, hputs, by decide, hdrawn.1,
    hdrawn.2, hexpanded.symm⟩

end PanelLink
