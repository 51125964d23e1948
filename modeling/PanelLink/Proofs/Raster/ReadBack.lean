import PanelLink.Proofs.Raster.Packing
import PanelLink.Proofs.Raster.Solid

/-!
# Reading back

A rectangle is read back as its pixels packed, black where it is off the surface.  What a complete
buffer has drawn is read back as that buffer, and drawing what has been read changes no color.
-/

namespace PanelLink

namespace Surface

variable {surface : Surface} {point : Point}

theorem packedPixel_eq (surface : Surface) (point : Point) :
    surface.packedPixel point = (surface.colorAt point).toPixel := by
  rw [packedPixel, colorAt]
  cases surface.pixel? point with
  | none => rfl
  | some color => rfl

theorem colorAt_of_off_surface (hpoint : ¬ surface.bounds.Contains point) :
    surface.colorAt point = Color.black := by
  simp [colorAt, pixel?, hpoint]

theorem pixel?_congr_colorAt
    {other : Surface} (hbounds : surface.bounds = other.bounds)
    (hcolor : surface.bounds.Contains point → surface.colorAt point = other.colorAt point) :
    surface.pixel? point = other.pixel? point := by
  by_cases hpoint : surface.bounds.Contains point
  · have hpoint' : other.bounds.Contains point := by
      rw [← hbounds]
      exact hpoint
    rw [pixel?_eq_some_colorAt hpoint, pixel?_eq_some_colorAt hpoint', hcolor hpoint]
  · have hpoint' : ¬ other.bounds.Contains point := by
      rw [← hbounds]
      exact hpoint
    simp [pixel?, hpoint, hpoint']

end Surface

/-! ## Points between two corners -/

namespace Rect

variable {x1 y1 x2 y2 : Int}

theorem ofCorners_span_lt (y1 y2 : Int) (hsize : (x2 - x1).natAbs < 4294967295) :
    (ofCorners x1 y1 x2 y2).maxX - (ofCorners x1 y1 x2 y2).minX < 4294967295 := by
  simp only [ofCorners]
  omega

theorem length_points_ofCorners (x1 y1 x2 y2 : Int) :
    (ofCorners x1 y1 x2 y2).points.length =
      ((x2 - x1).natAbs + 1) * ((y2 - y1).natAbs + 1) := by
  have hwidth : (max x1 x2 - min x1 x2 + 1).toNat = (x2 - x1).natAbs + 1 := by omega
  have hheight : (max y1 y2 - min y1 y2 + 1).toNat = (y2 - y1).natAbs + 1 := by omega
  rw [length_points (ordered_ofCorners x1 y1 x2 y2)]
  simp only [ofCorners]
  rw [hwidth, hheight, Nat.mul_comm]

theorem ofCorners_contains_place
    {i j : Nat} (hi : i < (x2 - x1).natAbs + 1) (hj : j < (y2 - y1).natAbs + 1) :
    (ofCorners x1 y1 x2 y2).Contains ⟨min x1 x2 + i, min y1 y2 + j⟩ := by
  simp only [Contains, ofCorners]
  omega

end Rect

namespace Compositor

variable {compositor : Compositor} {x1 y1 x2 y2 : Int} {pixels : Array UInt8} {point : Point}

theorem packedOffset_place (hsize : (x2 - x1).natAbs < 4294967295) (i j : Nat) :
    packedOffset (Rect.ofCorners x1 y1 x2 y2) ⟨min x1 x2 + i, min y1 y2 + j⟩ =
      3 * (j * ((x2 - x1).natAbs + 1) + i) := by
  have hwidth : (Rect.ofCorners x1 y1 x2 y2).width = (x2 - x1).natAbs + 1 :=
    extent_ofCorners hsize
  rw [packedOffset, hwidth, Nat.mul_comm]
  simp [Rect.ofCorners]

/-! ## Buffers -/

theorem readBuffer_eq_packed
    (compositor : Compositor) (hwidth : (x2 - x1).natAbs < 4294967295)
    (hheight : (y2 - y1).natAbs < 4294967295) :
    compositor.readBuffer x1 y1 x2 y2 =
      (Rect.ofCorners x1 y1 x2 y2).packed compositor.surface.colorAt := by
  rw [compositor.readBuffer_eq_flatMap hwidth hheight, Rect.packed]
  apply List.flatMap_congr
  intro point _
  exact compositor.surface.packedPixel_eq point

theorem length_readBuffer
    (compositor : Compositor) (hwidth : (x2 - x1).natAbs < 4294967295)
    (hheight : (y2 - y1).natAbs < 4294967295) :
    (compositor.readBuffer x1 y1 x2 y2).length =
      ((x2 - x1).natAbs + 1) * ((y2 - y1).natAbs + 1) * 3 := by
  rw [compositor.readBuffer_eq_packed hwidth hheight, Rect.length_packed,
    Rect.length_points_ofCorners]

theorem packedColor_readBuffer
    (compositor : Compositor) (hwidth : (x2 - x1).natAbs < 4294967295)
    (hheight : (y2 - y1).natAbs < 4294967295)
    (hpoint : (Rect.ofCorners x1 y1 x2 y2).Contains point) :
    packedColor (compositor.readBuffer x1 y1 x2 y2).toArray
      (packedOffset (Rect.ofCorners x1 y1 x2 y2) point) = compositor.surface.colorAt point := by
  rw [compositor.readBuffer_eq_packed hwidth hheight]
  exact packedColor_packed (Rect.ofCorners_span_lt y1 y2 hwidth) hpoint

/-- The three bytes that stand for a point of the rectangle. -/
theorem take_drop_readBuffer
    (hwidth : (x2 - x1).natAbs < 4294967295) (hheight : (y2 - y1).natAbs < 4294967295)
    (hpoint : (Rect.ofCorners x1 y1 x2 y2).Contains point) :
    ((compositor.readBuffer x1 y1 x2 y2).drop
      (packedOffset (Rect.ofCorners x1 y1 x2 y2) point)).take 3 =
        (compositor.surface.colorAt point).toPixel := by
  rw [compositor.readBuffer_eq_packed hwidth hheight]
  exact Rect.take_drop_packed (Rect.ofCorners_span_lt y1 y2 hwidth) hpoint

/-- A complete buffer gives each point of its rectangle on the surface the color that it holds. -/
theorem colorAt_blitBuffer
    (hsize : (x2 - x1).natAbs < 4294967295)
    (hpixels : ((x2 - x1).natAbs + 1) * ((y2 - y1).natAbs + 1) * 3 ≤ pixels.size)
    (hpoint : compositor.surface.bounds.Contains point) :
    (compositor.blitBuffer x1 y1 x2 y2 pixels).2.surface.colorAt point =
      if (Rect.ofCorners x1 y1 x2 y2).Contains point then
        packedColor pixels (packedOffset (Rect.ofCorners x1 y1 x2 y2) point)
      else
        compositor.surface.colorAt point := by
  have hdrawn : compositor.surface.RedrawnAs _
      (compositor.blitBuffer x1 y1 x2 y2 pixels).2.surface :=
    compositor.redrawnAs_blitBuffer hsize
  have hbytes := hdrawn.bytesAt_eq point hpoint
  have hpoint' : (compositor.blitBuffer x1 y1 x2 y2 pixels).2.surface.bounds.Contains point := by
    rw [hdrawn.bounds_eq]
    exact hpoint
  by_cases hrect : (Rect.ofCorners x1 y1 x2 y2).Contains point
  · have hsupplied := supplied_of_complete hsize hpixels hrect
    rw [if_pos ⟨hrect, hsupplied⟩] at hbytes
    rw [if_pos hrect, Surface.colorAt, Surface.pixel?_of_bytesAt hpoint' hbytes]
    rfl
  · rw [if_neg fun hboth => hrect hboth.1] at hbytes
    rw [if_neg hrect, Surface.colorAt, Surface.colorAt,
      Surface.pixel?_congr hdrawn.width_eq hdrawn.height_eq hbytes]

/-- A buffer that is just large enough is the rectangle packed in its own colors. -/
theorem packed_ofCorners
    {source : Array UInt8} (hsize : (x2 - x1).natAbs < 4294967295)
    (hsource : source.size = ((x2 - x1).natAbs + 1) * ((y2 - y1).natAbs + 1) * 3) :
    (Rect.ofCorners x1 y1 x2 y2).packed (fun point =>
      packedColor source (packedOffset (Rect.ofCorners x1 y1 x2 y2) point)) = source.toList := by
  apply packed_packedColor (Rect.ofCorners_span_lt y1 y2 hsize)
  rw [Array.length_toList, hsource, Rect.length_points_ofCorners]

/-- What a complete buffer has drawn is read back, and zeros in place of what was off the surface. -/
theorem readBuffer_blitBuffer
    (compositor : Compositor) (pixels : Array UInt8) (hwidth : (x2 - x1).natAbs < 4294967295)
    (hheight : (y2 - y1).natAbs < 4294967295)
    (hpixels : ((x2 - x1).natAbs + 1) * ((y2 - y1).natAbs + 1) * 3 ≤ pixels.size) :
    (compositor.blitBuffer x1 y1 x2 y2 pixels).2.readBuffer x1 y1 x2 y2 =
      (Rect.ofCorners x1 y1 x2 y2).packed fun point =>
        if compositor.surface.bounds.Contains point then
          packedColor pixels (packedOffset (Rect.ofCorners x1 y1 x2 y2) point)
        else
          Color.black := by
  have hdrawn : compositor.surface.RedrawnAs _
      (compositor.blitBuffer x1 y1 x2 y2 pixels).2.surface :=
    compositor.redrawnAs_blitBuffer hwidth
  rw [readBuffer_eq_packed _ hwidth hheight]
  apply Rect.packed_congr
  intro point hrect
  by_cases hpoint : compositor.surface.bounds.Contains point
  · rw [if_pos hpoint, colorAt_blitBuffer hwidth hpixels hpoint, if_pos hrect]
  · rw [if_neg hpoint]
    apply Surface.colorAt_of_off_surface
    rw [hdrawn.bounds_eq]
    exact hpoint

/-- The three bytes that are read back for a point are the ones that were copied there. -/
theorem take_drop_readBuffer_blitBuffer
    (compositor : Compositor) {source : Array UInt8} {point : Point}
    (hwidth : (x2 - x1).natAbs < 4294967295) (hheight : (y2 - y1).natAbs < 4294967295)
    (hsource : source.size = ((x2 - x1).natAbs + 1) * ((y2 - y1).natAbs + 1) * 3)
    (hpoint : (Rect.ofCorners x1 y1 x2 y2).Contains point) :
    (((compositor.blitBuffer x1 y1 x2 y2 source).2.readBuffer x1 y1 x2 y2).drop
        (packedOffset (Rect.ofCorners x1 y1 x2 y2) point)).take 3 =
      if compositor.surface.bounds.Contains point then
        (source.toList.drop (packedOffset (Rect.ofCorners x1 y1 x2 y2) point)).take 3
      else
        [0, 0, 0] := by
  have hspan := Rect.ofCorners_span_lt y1 y2 hwidth
  have hpacked := packed_ofCorners hwidth hsource
  rw [compositor.readBuffer_blitBuffer source hwidth hheight hsource.ge, Rect.take_drop_packed hspan hpoint,
    ← hpacked, Rect.take_drop_packed hspan hpoint]
  split
  next => rfl
  next => rfl

/-- On the surface a complete buffer is read back as it is. -/
theorem readBuffer_blitBuffer_of_inside
    (compositor : Compositor) {source : Array UInt8} (hwidth : (x2 - x1).natAbs < 4294967295)
    (hheight : (y2 - y1).natAbs < 4294967295)
    (hsource : source.size = ((x2 - x1).natAbs + 1) * ((y2 - y1).natAbs + 1) * 3)
    (hinside : ∀ point, (Rect.ofCorners x1 y1 x2 y2).Contains point →
      compositor.surface.bounds.Contains point) :
    (compositor.blitBuffer x1 y1 x2 y2 source).2.readBuffer x1 y1 x2 y2 = source.toList := by
  rw [compositor.readBuffer_blitBuffer source hwidth hheight hsource.ge,
    ← packed_ofCorners hwidth hsource]
  apply Rect.packed_congr
  intro point hpoint
  rw [if_pos (hinside point hpoint)]

/-- Drawing what has been read changes no color. -/
theorem pixel?_blitBuffer_readBuffer
    (compositor : Compositor) (hwidth : (x2 - x1).natAbs < 4294967295)
    (hheight : (y2 - y1).natAbs < 4294967295) (point : Point) :
    (compositor.blitBuffer x1 y1 x2 y2
        (compositor.readBuffer x1 y1 x2 y2).toArray).2.surface.pixel? point =
      compositor.surface.pixel? point := by
  have hdrawn : compositor.surface.RedrawnAs _ (compositor.blitBuffer x1 y1 x2 y2
      (compositor.readBuffer x1 y1 x2 y2).toArray).2.surface :=
    compositor.redrawnAs_blitBuffer hwidth
  have hpixels : ((x2 - x1).natAbs + 1) * ((y2 - y1).natAbs + 1) * 3 ≤
      (compositor.readBuffer x1 y1 x2 y2).toArray.size := by
    rw [List.size_toArray, compositor.length_readBuffer hwidth hheight]
  apply Surface.pixel?_congr_colorAt hdrawn.bounds_eq
  intro hpoint
  rw [hdrawn.bounds_eq] at hpoint
  rw [colorAt_blitBuffer hwidth hpixels hpoint]
  split
  next hrect => exact compositor.packedColor_readBuffer hwidth hheight hrect
  next => rfl

end Compositor

/-- A rectangle is read as three bytes for each of its points, row by row: the color of the point,
or zeros if the point is off the surface.  What a complete buffer has drawn between the same
corners is read back, but for zeros off the surface.  Drawing what has been read leaves every
color as it was. -/
theorem buffer_reads_back
    (compositor : Compositor) (x1 y1 x2 y2 : Int) (hwidth : (x2 - x1).natAbs < 4294967295)
    (hheight : (y2 - y1).natAbs < 4294967295) :
    let width := (x2 - x1).natAbs + 1
    let height := (y2 - y1).natAbs + 1
    let place := fun (i j : Nat) => (⟨min x1 x2 + i, min y1 y2 + j⟩ : Point)
    let triple := fun (bytes : List UInt8) (i j : Nat) => (bytes.drop (3 * (j * width + i))).take 3
    let picture := compositor.readBuffer x1 y1 x2 y2
    (picture.length = width * height * 3 ∧
      ∀ i j, i < width → j < height →
        (compositor.surface.bounds.Contains (place i j) →
          ∃ color, compositor.surface.pixel? (place i j) = some color ∧
            triple picture i j = [color.red, color.green, color.blue]) ∧
        (¬ compositor.surface.bounds.Contains (place i j) → triple picture i j = [0, 0, 0])) ∧
    (∀ source : Array UInt8, source.size = width * height * 3 →
      let copy := (compositor.blitBuffer x1 y1 x2 y2 source).2.readBuffer x1 y1 x2 y2
      copy.length = width * height * 3 ∧
      (∀ i j, i < width → j < height →
        triple copy i j =
          if compositor.surface.bounds.Contains (place i j) then triple source.toList i j
          else [0, 0, 0]) ∧
      ((∀ point, (Rect.ofCorners x1 y1 x2 y2).Contains point →
          compositor.surface.bounds.Contains point) → copy = source.toList)) ∧
    ∀ point, (compositor.blitBuffer x1 y1 x2 y2 picture.toArray).2.surface.pixel? point =
      compositor.surface.pixel? point := by
  intro width height place triple picture
  have hoffset : ∀ i j, 3 * (j * width + i) =
      Compositor.packedOffset (Rect.ofCorners x1 y1 x2 y2) (place i j) :=
    fun i j => (Compositor.packedOffset_place hwidth i j).symm
  refine ⟨⟨compositor.length_readBuffer hwidth hheight, ?_⟩, ?_,
    compositor.pixel?_blitBuffer_readBuffer hwidth hheight⟩
  · intro i j hi hj
    have hread : triple picture i j = (compositor.surface.colorAt (place i j)).toPixel := by
      simp only [triple, hoffset]
      exact Compositor.take_drop_readBuffer hwidth hheight (Rect.ofCorners_contains_place hi hj)
    constructor
    · intro hpoint
      exact ⟨_, Surface.pixel?_eq_some_colorAt hpoint, hread⟩
    · intro hpoint
      rw [hread, Surface.colorAt_of_off_surface hpoint]
      rfl
  · intro source hsource copy
    refine ⟨Compositor.length_readBuffer _ hwidth hheight, ?_,
      compositor.readBuffer_blitBuffer_of_inside hwidth hheight hsource⟩
    intro i j hi hj
    simp only [triple, hoffset, copy]
    exact compositor.take_drop_readBuffer_blitBuffer hwidth hheight hsource
      (Rect.ofCorners_contains_place hi hj)

/-- Two by two points of which the right two are off the surface, and four that are all on it. -/
theorem buffer_reads_back_over_the_edge :
    ∃ surface : Surface,
      let start : Compositor := ⟨surface, Color.black⟩
      let source : Array UInt8 := #[20, 21, 22, 23, 24, 25, 26, 27, 28, 29, 30, 31]
      let picture := start.readBuffer 2 1 1 0
      let copy := (start.blitBuffer 2 1 1 0 source).2.readBuffer 2 1 1 0
      Surface.ofStorage 2 2 #[1, 2, 3, 9, 4, 5, 6, 9, 7, 8, 9, 9, 10, 11, 12, 9] = .ok surface ∧
        (1 - 2 : Int).natAbs < 4294967295 ∧ (0 - 1 : Int).natAbs < 4294967295 ∧ source.size = 2 * 2 * 3 ∧
        surface.bounds.Contains ⟨1, 1⟩ ∧ (picture.drop 6).take 3 = [10, 11, 12] ∧
        ¬ surface.bounds.Contains ⟨2, 1⟩ ∧ (picture.drop 9).take 3 = [0, 0, 0] ∧
        (copy.drop 6).take 3 = [26, 27, 28] ∧ (copy.drop 9).take 3 = [0, 0, 0] ∧
        (start.blitBuffer 2 1 1 0 picture.toArray).2.surface.pixel? ⟨1, 1⟩ =
          some ⟨10, 11, 12⟩ ∧
        (∀ point, (Rect.ofCorners 1 0 0 1).Contains point → surface.bounds.Contains point) ∧
        (start.blitBuffer 1 0 0 1 source).2.readBuffer 1 0 0 1 = source.toList := by
  obtain ⟨surface, hsurface⟩ : ∃ surface, Surface.ofStorage 2 2
      #[1, 2, 3, 9, 4, 5, 6, 9, 7, 8, 9, 9, 10, 11, 12, 9] = .ok surface := ⟨_, rfl⟩
  refine ⟨surface, ?_⟩
  intro start source picture copy
  have hinside : surface.bounds.Contains ⟨1, 1⟩ := by
    cases hsurface
    decide
  have houtside : ¬ surface.bounds.Contains ⟨2, 1⟩ := by
    cases hsurface
    decide
  have hcolor : surface.pixel? ⟨1, 1⟩ = some ⟨10, 11, 12⟩ := by
    cases hsurface
    decide
  have hwhole : ∀ point, (Rect.ofCorners 1 0 0 1).Contains point →
      surface.bounds.Contains point := by
    intro point hpoint
    cases hsurface
    simp [Rect.ofCorners, Rect.Contains, Surface.bounds] at *
    omega
  obtain ⟨⟨-, hread⟩, hcopied, hkept⟩ := buffer_reads_back start 2 1 1 0 (by decide) (by decide)
  obtain ⟨-, hwritten, -⟩ := hcopied source rfl
  obtain ⟨-, hcopied', -⟩ := buffer_reads_back start 1 0 0 1 (by decide) (by decide)
  have hlast := hread 1 1 (by decide) (by decide)
  have hmiddle := hread 0 1 (by decide) (by decide)
  obtain ⟨color, hpixel, hbytes⟩ := hmiddle.1 hinside
  have hsame : color = ⟨10, 11, 12⟩ := Option.some.inj (hpixel.symm.trans hcolor)
  subst hsame
  refine ⟨hsurface, by decide, by decide, rfl, hinside, hbytes, houtside, hlast.2 houtside,
    (hwritten 0 1 (by decide) (by decide)).trans (if_pos hinside),
    (hwritten 1 1 (by decide) (by decide)).trans (if_neg houtside),
    (hkept ⟨1, 1⟩).trans hcolor, hwhole, (hcopied' source rfl).2.2 hwhole⟩

end PanelLink
