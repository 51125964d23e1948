import PanelLink.Proofs.Raster.Magnified

/-!
# Paintings

A painting is all that an operation does: whether it draws anything, the region around which the
dirty rectangle grows, and the picture that it leaves.  Paintings of one region and one picture
are the same, down to the last byte of the storage, and one after the other they make one painting.
-/

namespace PanelLink

namespace Rect

/-! ## Regions -/

theorem ordered_ofPoint (point : Point) : (ofPoint point).Ordered :=
  ⟨le_refl point.x, le_refl point.y⟩

theorem contains_ofPoint_iff {point other : Point} : (ofPoint point).Contains other ↔ other = point := by
  obtain ⟨x, y⟩ := point
  obtain ⟨x', y'⟩ := other
  simp only [Contains, ofPoint, Point.mk.injEq]
  omega

/-- The smallest rectangle around the region, and none around an empty one. -/
def IsHull? (rect? : Option Rect) (region : Point → Prop) : Prop :=
  match rect? with
  | none => ∀ point, ¬ region point
  | some rect => (∃ point, region point) ∧ rect.IsHull region

variable {rect? other? : Option Rect} {region other : Point → Prop}

theorem IsHull?.unique (hrect : IsHull? rect? region) (hother : IsHull? other? region) :
    rect? = other? := by
  cases rect? with
  | none =>
      cases other? with
      | none => rfl
      | some _ =>
          obtain ⟨⟨point, hpoint⟩, -⟩ := hother
          exact absurd hpoint (hrect point)
  | some rect =>
      cases other? with
      | none =>
          obtain ⟨⟨point, hpoint⟩, -⟩ := hrect
          exact absurd hpoint (hother point)
      | some other => rw [hrect.2.unique hother.2]

theorem IsHull?.congr
    (hrect : IsHull? rect? region) (hiff : ∀ point, region point ↔ other point) :
    IsHull? rect? other := by
  have hsame : region = other := funext fun point => propext (hiff point)
  rw [← hsame]
  exact hrect

theorem IsHull?.merge (hrect : IsHull? rect? region) (hother : IsHull? other? other) :
    IsHull? (rect?.merge union other?) fun point => region point ∨ other point := by
  cases rect? with
  | none =>
      rw [Option.merge_none_left]
      exact hother.congr fun point => (or_iff_right (hrect point)).symm
  | some rect =>
      cases other? with
      | none =>
          rw [Option.merge_none_right]
          exact hrect.congr fun point => (or_iff_left (hother point)).symm
      | some rect' =>
          obtain ⟨⟨point, hpoint⟩, hhull⟩ := hrect
          exact ⟨⟨point, .inl hpoint⟩, hhull.union hother.2⟩

end Rect

theorem Surface.eq_of_fields
    {surface other : Surface} (hwidth : surface.width = other.width)
    (hheight : surface.height = other.height) (hstorage : surface.storage = other.storage)
    (hdirty : surface.dirty = other.dirty) : surface = other := by
  cases surface
  cases other
  simp_all

namespace Compositor

/-- The operation says whether the region has any point, lets the dirty rectangle grow around the
region, and leaves the picture in a storage that is otherwise as it was. -/
structure Paints (before : Compositor) (outcome : Bool × Compositor) (region : Point → Prop)
    (picture : Point → List UInt8) : Prop where
  drawn_iff : outcome.1 = true ↔ ∃ point, region point
  dirty_eq : ∃ rect?, Rect.IsHull? rect? region ∧
    outcome.2.surface.dirty = before.surface.dirty.merge Rect.union rect?
  redrawn : before.surface.RedrawnAs picture outcome.2.surface
  background_eq : outcome.2.background = before.background

variable {before : Compositor} {outcome other : Bool × Compositor} {region region' : Point → Prop}
  {picture picture' : Point → List UInt8}

theorem Paints.congr
    (hpaints : before.Paints outcome region picture)
    (hregion : ∀ point, region point ↔ region' point)
    (hpicture : ∀ point, before.surface.bounds.Contains point → picture point = picture' point) :
    before.Paints outcome region' picture' := by
  have hsame : region = region' := funext fun point => propext (hregion point)
  rw [← hsame]
  exact { hpaints with redrawn := hpaints.redrawn.congr hpicture }

/-- The region and the picture leave no choice. -/
theorem Paints.unique
    (hpaints : before.Paints outcome region picture) (hother : before.Paints other region picture) :
    outcome = other := by
  have hdrawn : outcome.1 = other.1 :=
    Bool.eq_iff_iff.mpr (hpaints.drawn_iff.trans hother.drawn_iff.symm)
  have hdirty : outcome.2.surface.dirty = other.2.surface.dirty := by
    obtain ⟨rect?, hhull, hdirty⟩ := hpaints.dirty_eq
    obtain ⟨rect?', hhull', hdirty'⟩ := hother.dirty_eq
    rw [hdirty, hdirty', hhull.unique hhull']
  have hsurface : outcome.2.surface = other.2.surface :=
    Surface.eq_of_fields (hpaints.redrawn.width_eq.trans hother.redrawn.width_eq.symm)
      (hpaints.redrawn.height_eq.trans hother.redrawn.height_eq.symm)
      (hpaints.redrawn.storage_eq hother.redrawn) hdirty
  have hbackground := hpaints.background_eq.trans hother.background_eq.symm
  obtain ⟨drawn, surface, background⟩ := outcome
  obtain ⟨drawn', surface', background'⟩ := other
  simp_all

theorem Paints.andThen
    {next : Bool × Compositor}
    (hpaints : before.Paints outcome region picture)
    (hnext : outcome.2.Paints next region' picture') :
    before.Paints (outcome.1 || next.1, next.2) (fun point => region point ∨ region' point)
      picture' where
  drawn_iff := by
    simp [hpaints.drawn_iff, hnext.drawn_iff, exists_or]
  dirty_eq := by
    obtain ⟨rect?, hhull, hdirty⟩ := hpaints.dirty_eq
    obtain ⟨rect?', hhull', hdirty'⟩ := hnext.dirty_eq
    refine ⟨rect?.merge Rect.union rect?', hhull.merge hhull', ?_⟩
    rw [hdirty', hdirty]
    exact Std.Associative.assoc ..
  redrawn := hpaints.redrawn.trans hnext.redrawn
  background_eq := hnext.background_eq.trans hpaints.background_eq

theorem paints_nothing (hempty : ∀ point, ¬ region point) :
    before.Paints (false, before) region before.surface.bytesAt where
  drawn_iff := by simp [hempty]
  dirty_eq := ⟨none, hempty, by simp⟩
  redrawn := .refl before.surface
  background_eq := rfl

/-- An operation that adds a rectangle to the dirty one paints the region in that rectangle. -/
theorem Adds.paints
    (hadds : before.Adds outcome region) (hredrawn : before.surface.RedrawnAs picture outcome.2.surface)
    (hbackground : outcome.2.background = before.background) :
    before.Paints outcome region picture := by
  by_cases hregion : ∃ point, region point
  · obtain ⟨hdrawn, area, harea, hdirty⟩ := hadds.something hregion
    have hhull : area.IsHull region := by
      obtain ⟨point, hpoint⟩ := hregion
      exact ((harea point).mpr hpoint).ordered.isHull.congr harea
    refine ⟨by simp [hdrawn, hregion], ⟨some area, ⟨hregion, hhull⟩, ?_⟩, hredrawn, hbackground⟩
    rw [hdirty]
    cases before.surface.dirty with
    | none => rfl
    | some old => rfl
  · have hempty := not_exists.mp hregion
    have hnothing := hadds.nothing hempty
    refine ⟨by simp [hnothing, hempty], ⟨none, hempty, ?_⟩, hredrawn, hbackground⟩
    simp [hnothing]

/-! ## Operations -/

section Operations

variable {x1 x2 : Int}

theorem background_fillRect (compositor : Compositor) (x1 y1 x2 y2 : Int) (color : Color) :
    (compositor.fillRect x1 y1 x2 y2 color).2.background = compositor.background := by
  unfold fillRect
  split
  next => rfl
  next => rfl

theorem background_blitBuffer (compositor : Compositor) (x1 y1 x2 y2 : Int) (pixels : Array UInt8) :
    (compositor.blitBuffer x1 y1 x2 y2 pixels).2.background = compositor.background := by
  unfold blitBuffer
  dsimp only
  split
  next => rfl
  next =>
    split
    next => rfl
    next => rfl

theorem background_drawBitmap
    (compositor : Compositor) (x y : Int) (bitmap : Bitmap) (scale : UInt8) (foreground : Color)
    (backdrop : Backdrop) :
    (compositor.drawBitmap x y bitmap scale foreground backdrop).2.background =
      compositor.background := by
  unfold drawBitmap
  split
  next => rfl
  next =>
    split
    next => rfl
    next =>
      dsimp only
      split
      next => rfl
      next => rfl

theorem paints_fillRect (compositor : Compositor) (x1 y1 x2 y2 : Int) (color : Color) :
    compositor.Paints (compositor.fillRect x1 y1 x2 y2 color)
      (compositor.Visible (Rect.ofCorners x1 y1 x2 y2))
      (fun point => if (Rect.ofCorners x1 y1 x2 y2).Contains point then color.stored
        else compositor.surface.bytesAt point) :=
  (compositor.adds_fillRect x1 y1 x2 y2 color).paints
    (compositor.redrawnAs_fillRect x1 y1 x2 y2 color)
    (compositor.background_fillRect x1 y1 x2 y2 color)

/-- A buffer paints the rows down to the last pixel that it has on the surface. -/
theorem paints_blitBuffer
    (compositor : Compositor) (y1 y2 : Int) (pixels : Array UInt8)
    (hsize : (x2 - x1).natAbs < 4294967295) :
    compositor.Paints (compositor.blitBuffer x1 y1 x2 y2 pixels)
      (fun point => compositor.Visible (Rect.ofCorners x1 y1 x2 y2) point ∧
        ∃ other, compositor.Visible (Rect.ofCorners x1 y1 x2 y2) other ∧
          Supplied x1 y1 x2 y2 pixels other ∧ point.y ≤ other.y)
      (fun point =>
        if (Rect.ofCorners x1 y1 x2 y2).Contains point ∧ Supplied x1 y1 x2 y2 pixels point then
          (packedColor pixels (packedOffset (Rect.ofCorners x1 y1 x2 y2) point)).stored
        else
          compositor.surface.bytesAt point) :=
  (adds_blitBuffer compositor pixels hsize).paints (compositor.redrawnAs_blitBuffer hsize)
    (compositor.background_blitBuffer x1 y1 x2 y2 pixels)

/-- A buffer that is the rectangle packed in some shades paints the rectangle in these. -/
theorem paints_blitBuffer_packed
    (compositor : Compositor) (y1 y2 : Int) (shade : Point → Color)
    (hsize : (x2 - x1).natAbs < 4294967295) :
    compositor.Paints
      (compositor.blitBuffer x1 y1 x2 y2 ((Rect.ofCorners x1 y1 x2 y2).packed shade).toArray)
      (compositor.Visible (Rect.ofCorners x1 y1 x2 y2))
      (fun point => if (Rect.ofCorners x1 y1 x2 y2).Contains point then (shade point).stored
        else compositor.surface.bytesAt point) := by
  have hcomplete : ((x2 - x1).natAbs + 1) * ((y2 - y1).natAbs + 1) * 3 ≤
      ((Rect.ofCorners x1 y1 x2 y2).packed shade).toArray.size := by
    rw [List.size_toArray, Rect.length_packed, Rect.length_points_ofCorners]
  have hadds := compositor.adds_blitBuffer_of_complete hsize hcomplete
  apply (hadds.paints (compositor.redrawnAs_blitBuffer hsize)
    (compositor.background_blitBuffer ..)).congr
  · exact fun _ => Iff.rfl
  · intro point _
    by_cases hpoint : (Rect.ofCorners x1 y1 x2 y2).Contains point
    · have hsupplied := supplied_of_complete hsize hcomplete hpoint
      rw [if_pos ⟨hpoint, hsupplied⟩, if_pos hpoint,
        packedColor_packed (Rect.ofCorners_span_lt y1 y2 hsize) hpoint]
    · simp [hpoint]

theorem paints_drawBitmap
    (compositor : Compositor) (x y : Int) (bitmap : Bitmap) (scale : UInt8) (foreground : Color)
    (backdrop : Backdrop) :
    compositor.Paints (compositor.drawBitmap x y bitmap scale foreground backdrop)
      (fun point => (scale ≠ 0 ∧ bitmap.width ≠ 0 ∧ bitmap.height ≠ 0) ∧
        compositor.Visible (footprint x y bitmap scale) point)
      (fun point =>
        if (scale ≠ 0 ∧ bitmap.width ≠ 0 ∧ bitmap.height ≠ 0) ∧
            (footprint x y bitmap scale).Contains point then
          (if bitmap.magnifiedBit x y scale point then foreground
            else backdrop.over (compositor.surface.colorAt point)).stored
        else
          compositor.surface.bytesAt point) :=
  (compositor.adds_drawBitmap x y bitmap scale foreground backdrop).paints
    (compositor.redrawnAs_drawBitmap x y bitmap scale foreground backdrop)
    (compositor.background_drawBitmap x y bitmap scale foreground backdrop)

theorem paints_scroll (compositor : Compositor) (lines : Int) :
    compositor.Paints (compositor.scroll lines)
      (fun point => lines ≠ 0 ∧ compositor.surface.bounds.Contains point)
      (fun point =>
        if 0 ≤ point.y + lines ∧ point.y + lines < compositor.surface.height then
          compositor.surface.bytesAt ⟨point.x, point.y + lines⟩
        else
          compositor.background.stored) :=
  (compositor.adds_scroll lines).paints (compositor.redrawnAs_scroll lines)
    (compositor.background_scroll lines)

theorem paints_fill (compositor : Compositor) (color : Color) :
    compositor.Paints (true, { compositor with surface := compositor.surface.fill color })
      compositor.surface.bounds.Contains (fun _ => color.stored) := by
  have hadds : compositor.Adds
      (true, { compositor with surface := compositor.surface.fill color })
      compositor.surface.bounds.Contains :=
    adds_markDirty rfl rfl rfl compositor.surface.ordered_bounds fun _ => id
  exact hadds.paints (compositor.surface.redrawnAs_fill color) rfl

theorem paints_putPixel (compositor : Compositor) (point : Point) (color : Color) :
    compositor.Paints
      ((compositor.surface.putPixel point color).1,
        { compositor with surface := (compositor.surface.putPixel point color).2 })
      (fun other => compositor.surface.bounds.Contains other ∧ other = point)
      (fun other => if other = point then color.stored else compositor.surface.bytesAt other) := by
  have hadds : compositor.Adds
      ((compositor.surface.putPixel point color).1,
        { compositor with surface := (compositor.surface.putPixel point color).2 })
      (fun other => compositor.surface.bounds.Contains other ∧ other = point) := by
    by_cases hpoint : compositor.surface.bounds.Contains point
    · have hinside : ∀ other, (Rect.ofPoint point).Contains other →
          compositor.surface.bounds.Contains other := by
        intro other hother
        rw [Rect.contains_ofPoint_iff.mp hother]
        exact hpoint
      have hmarked : compositor.Adds
          (true, ⟨(compositor.surface.paint [(point, color)]).markDirty (Rect.ofPoint point),
            compositor.background⟩) (Rect.ofPoint point).Contains :=
        adds_markDirty (Surface.width_paint ..) (Surface.height_paint ..) (Surface.dirty_paint ..)
          (Rect.ordered_ofPoint point) hinside
      rw [Surface.putPixel, if_pos hpoint]
      apply hmarked.congr
      intro other
      rw [Rect.contains_ofPoint_iff, iff_and_self]
      rintro rfl
      exact hpoint
    · rw [Surface.putPixel, if_neg hpoint]
      apply adds_nothing
      rintro other ⟨hother, rfl⟩
      exact hpoint hother
  exact hadds.paints (compositor.surface.redrawnAs_putPixel point color) rfl

end Operations

end Compositor

end PanelLink
