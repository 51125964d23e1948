import PanelLink.Proofs.Raster.Growth
import PanelLink.Proofs.Raster.Stored

/-!
# Between two corners

What filling and copying leave in the rectangle between two corners, whichever way the corners are
named.  A buffer keeps its place in the rectangle even where that is off the surface, and all the
pixels that it has are drawn.
-/

namespace PanelLink

namespace Compositor

theorem redrawnAs_fillRect (compositor : Compositor) (x1 y1 x2 y2 : Int) (color : Color) :
    compositor.surface.RedrawnAs
      (fun point => if (Rect.ofCorners x1 y1 x2 y2).Contains point then color.stored
        else compositor.surface.bytesAt point)
      (compositor.fillRect x1 y1 x2 y2 color).2.surface := by
  unfold fillRect
  split
  next hclip =>
    apply (Surface.RedrawnAs.refl _).congr
    intro point hpoint
    rw [if_neg fun hrect => not_visible_of_clip? hclip point ⟨hpoint, hrect⟩]
  next area hclip =>
    apply Surface.RedrawnAs.markDirty
    exact Surface.redrawnAs_paintRect (fun point => (visible_iff_of_clip? hclip point).symm) color

/-! ## Buffers -/

section Buffers

variable {x1 y1 x2 y2 : Int} {pixels : Array UInt8}

instance (x1 y1 x2 y2 : Int) (pixels : Array UInt8) (point : Point) :
    Decidable (Supplied x1 y1 x2 y2 pixels point) :=
  inferInstanceAs (Decidable (_ ≤ _))

/-- Every pixel is drawn that is on the surface and in the buffer. -/
theorem redrawnAs_blitBuffer
    (compositor : Compositor) (hsize : (x2 - x1).natAbs < 4294967295) :
    compositor.surface.RedrawnAs
      (fun point =>
        if (Rect.ofCorners x1 y1 x2 y2).Contains point ∧ Supplied x1 y1 x2 y2 pixels point then
          (packedColor pixels (packedOffset (Rect.ofCorners x1 y1 x2 y2) point)).stored
        else
          compositor.surface.bytesAt point)
      (compositor.blitBuffer x1 y1 x2 y2 pixels).2.surface := by
  unfold blitBuffer
  dsimp only
  split
  next hclip =>
    apply (Surface.RedrawnAs.refl _).congr
    intro point hpoint
    rw [if_neg fun hdrawn => not_visible_of_clip? hclip point ⟨hpoint, hdrawn.1⟩]
  next area hclip =>
    have hmem : ∀ point, point ∈ area.points.takeWhile (fun point =>
        packedOffset (Rect.ofCorners x1 y1 x2 y2) point + 3 ≤ pixels.size) ↔
          compositor.surface.bounds.Contains point ∧
            (Rect.ofCorners x1 y1 x2 y2).Contains point ∧ Supplied x1 y1 x2 y2 pixels point := by
      intro point
      rw [mem_drawn_iff hsize hclip, ← visible_iff_of_clip? hclip, Visible, and_assoc]
    split
    next hnone =>
      apply (Surface.RedrawnAs.refl _).congr
      intro point hpoint
      rw [if_neg]
      intro hdrawn
      have hlisted := (hmem point).2 ⟨hpoint, hdrawn⟩
      rw [List.getLast?_eq_none_iff.1 hnone] at hlisted
      contradiction
    next last _ =>
      apply Surface.RedrawnAs.markDirty
      apply Surface.redrawnAs_paint
      · intro pixel hpixel
        obtain ⟨point, hpoint, rfl⟩ := List.mem_map.1 hpixel
        exact ⟨((hmem point).1 hpoint).1, rfl⟩
      · intro point hpoint
        simp [List.map_map, Function.comp_def, hmem, hpoint]

theorem blitBuffer_congr
    (compositor : Compositor) {x1' y1' x2' y2' : Int}
    (hcorners : Rect.ofCorners x1' y1' x2' y2' = Rect.ofCorners x1 y1 x2 y2) :
    compositor.blitBuffer x1' y1' x2' y2' pixels = compositor.blitBuffer x1 y1 x2 y2 pixels := by
  rw [blitBuffer, blitBuffer, hcorners]

end Buffers

end Compositor

/-- A buffer is laid out over the rectangle between two corners, with no regard to the surface.
Each pixel on the surface whose three bytes are all there is drawn in them, every other pixel stays
as it was, and it is the same whichever two opposite corners are named. -/
theorem buffer_keeps_aligned
    (compositor : Compositor) (x1 y1 x2 y2 : Int) (pixels : Array UInt8)
    (hsize : (x2 - x1).natAbs < 4294967295) :
    (∀ point, compositor.surface.bounds.Contains point →
      let start := 3 * ((point.y - min y1 y2) * ((x2 - x1).natAbs + 1) + (point.x - min x1 x2))
      (compositor.blitBuffer x1 y1 x2 y2 pixels).2.surface.bytesAt point =
        if (Rect.ofCorners x1 y1 x2 y2).Contains point ∧ start + 3 ≤ pixels.size then
          [pixels.getD start.toNat 0, pixels.getD (start.toNat + 1) 0,
            pixels.getD (start.toNat + 2) 0, 0xFF]
        else
          compositor.surface.bytesAt point) ∧
    compositor.blitBuffer x2 y1 x1 y2 pixels = compositor.blitBuffer x1 y1 x2 y2 pixels ∧
    compositor.blitBuffer x1 y2 x2 y1 pixels = compositor.blitBuffer x1 y1 x2 y2 pixels ∧
    compositor.blitBuffer x2 y2 x1 y1 pixels = compositor.blitBuffer x1 y1 x2 y2 pixels := by
  have hswapX := Rect.ofCorners_swap_x x1 y1 x2 y2
  have hswapY := Rect.ofCorners_swap_y x1 y1 x2 y2
  have hswap := (Rect.ofCorners_swap_x x1 y2 x2 y1).trans hswapY
  refine ⟨?_, compositor.blitBuffer_congr hswapX, compositor.blitBuffer_congr hswapY,
    compositor.blitBuffer_congr hswap⟩
  intro point hpoint start
  rw [(compositor.redrawnAs_blitBuffer hsize).bytesAt_eq point hpoint]
  by_cases hdrawn : (Rect.ofCorners x1 y1 x2 y2).Contains point ∧ start + 3 ≤ pixels.size
  · have hoffset : start.toNat = Compositor.packedOffset (Rect.ofCorners x1 y1 x2 y2) point := by
      rw [← Int.toNat_natCast (Compositor.packedOffset _ point),
        Compositor.packedOffset_eq hsize hdrawn.1]
    rw [if_pos hdrawn, hoffset]
    exact if_pos hdrawn
  · rw [if_neg hdrawn]
    exact if_neg hdrawn

/-- Five pixels for the nine points of a rectangle that begins left of the surface: the second row
has its first two, and its third pixel and the last row are not drawn. -/
theorem buffer_keeps_aligned_short_buffer :
    ∃ surface : Surface,
      let start : Compositor := ⟨surface, Color.black⟩
      let pixels : Array UInt8 := #[10, 11, 12, 20, 21, 22, 30, 31, 32, 40, 41, 42, 50, 51, 52, 60]
      let drawn := (start.blitBuffer 1 2 (-1) 0 pixels).2.surface
      Surface.ofStorage 2 3 (Array.replicate 24 7) = .ok surface ∧
        (-1 - 1 : Int).natAbs < 4294967295 ∧
        surface.bounds.Contains ⟨0, 1⟩ ∧ drawn.bytesAt ⟨0, 1⟩ = [50, 51, 52, 255] ∧
        surface.bounds.Contains ⟨1, 1⟩ ∧ drawn.bytesAt ⟨1, 1⟩ = [7, 7, 7, 7] ∧
        drawn.bytesAt ⟨0, 2⟩ = [7, 7, 7, 7] ∧
        start.blitBuffer (-1) 2 1 0 pixels = start.blitBuffer 1 2 (-1) 0 pixels := by
  obtain ⟨surface, hsurface⟩ : ∃ surface,
      Surface.ofStorage 2 3 (Array.replicate 24 7) = .ok surface := ⟨_, rfl⟩
  refine ⟨surface, ?_⟩
  intro start pixels drawn
  obtain ⟨hpixels, hswap, -⟩ := buffer_keeps_aligned start 1 2 (-1) 0 pixels (by decide)
  have hinside : surface.bounds.Contains ⟨0, 1⟩ ∧ surface.bounds.Contains ⟨1, 1⟩ ∧
      surface.bounds.Contains ⟨0, 2⟩ := by
    cases hsurface
    decide
  have hbytes := hpixels ⟨0, 1⟩ hinside.1
  have hbytes' := hpixels ⟨1, 1⟩ hinside.2.1
  have hbytes'' := hpixels ⟨0, 2⟩ hinside.2.2
  refine ⟨hsurface, by decide, hinside.1, hbytes, hinside.2.1, hbytes'.trans ?_,
    hbytes''.trans ?_, hswap⟩
  · cases hsurface
    decide
  · cases hsurface
    decide

end PanelLink
