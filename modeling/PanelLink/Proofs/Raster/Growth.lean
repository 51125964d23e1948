import PanelLink.Proofs.Raster.Footprint

/-!
# Growth of the dirty rectangle

Every operation reaches a region of the surface.  If the region is empty the operation does
nothing and says so; otherwise it says that it has drawn, and the dirty rectangle grows by exactly
the region, also where the drawing stops early for want of pixels.
-/

namespace PanelLink

theorem mem_takeWhile_iff
    {α : Type} {keep : α → Bool} {items : List α} {item : α}
    (hclosed : items.Pairwise fun earlier later => keep later → keep earlier) :
    item ∈ items.takeWhile keep ↔ item ∈ items ∧ keep item := by
  induction items with
  | nil => simp
  | cons first items ih =>
      obtain ⟨hfirst, hclosed⟩ := List.pairwise_cons.1 hclosed
      by_cases hkeep : keep first = true
      · rw [List.takeWhile_cons_of_pos hkeep, List.mem_cons, List.mem_cons, ih hclosed]
        constructor
        · rintro (rfl | ⟨hmem, hitem⟩)
          · exact ⟨.inl rfl, hkeep⟩
          · exact ⟨.inr hmem, hitem⟩
        · rintro ⟨rfl | hmem, hitem⟩
          · exact .inl rfl
          · exact .inr ⟨hmem, hitem⟩
      · rw [List.takeWhile_cons_of_neg hkeep]
        constructor
        · intro hmem
          contradiction
        · rintro ⟨hmem, hitem⟩
          rcases List.mem_cons.1 hmem with rfl | hmem
          · exact absurd hitem hkeep
          · exact absurd (hfirst item hmem hitem) hkeep

namespace Compositor

/-- The operation says whether the region has any point.  If it has none nothing changes, and
otherwise the dirty rectangle grows by the rectangle that has just these points. -/
structure Adds (before : Compositor) (outcome : Bool × Compositor) (region : Point → Prop) :
    Prop where
  nothing : (∀ point, ¬ region point) → outcome = (false, before)
  something : (∃ point, region point) → outcome.1 = true ∧
    ∃ area : Rect, (∀ point, area.Contains point ↔ region point) ∧
      outcome.2.surface.dirty = some (match before.surface.dirty with
        | none => area
        | some old => old.union area)

/-- The point is on the surface and in the rectangle. -/
def Visible (compositor : Compositor) (rect : Rect) (point : Point) : Prop :=
  compositor.surface.bounds.Contains point ∧ rect.Contains point

variable {compositor : Compositor}

theorem Adds.congr
    {outcome : Bool × Compositor} {region other : Point → Prop}
    (hadds : compositor.Adds outcome region) (hiff : ∀ point, region point ↔ other point) :
    compositor.Adds outcome other := by
  have hregion : other = region := funext fun point => propext (hiff point).symm
  rw [hregion]
  exact hadds

theorem adds_nothing {region : Point → Prop} (hempty : ∀ point, ¬ region point) :
    compositor.Adds (false, compositor) region where
  nothing _ := rfl
  something := fun ⟨point, hpoint⟩ => absurd hpoint (hempty point)

/-- What is marked after a change of bytes is added to the dirty rectangle. -/
theorem adds_markDirty
    {changed : Surface} {background : Color} {area : Rect}
    (hwidth : changed.width = compositor.surface.width)
    (hheight : changed.height = compositor.surface.height)
    (hdirty : changed.dirty = compositor.surface.dirty) (harea : area.Ordered)
    (hinside : ∀ point, area.Contains point → compositor.surface.bounds.Contains point) :
    compositor.Adds (true, ⟨changed.markDirty area, background⟩) area.Contains where
  nothing hempty := absurd harea.contains_min (hempty _)
  something _ := by
    have hclip := Surface.clip?_eq_self harea hinside
    refine ⟨rfl, area, fun _ => Iff.rfl, ?_⟩
    dsimp only
    rw [Surface.dirty_markDirty_congr area hwidth hheight hdirty,
      Surface.dirty_markDirty_of_clip?_eq_some hclip]
    cases compositor.surface.dirty with
    | none => rfl
    | some old => rfl

theorem visible_iff_of_clip?
    {rect area : Rect} (hclip : compositor.surface.clip? rect = some area) (point : Point) :
    compositor.Visible rect point ↔ area.Contains point := by
  rw [(Surface.clip?_eq_some hclip).2 point, Visible, and_comm]

theorem not_visible_of_clip?
    {rect : Rect} (hclip : compositor.surface.clip? rect = none) (point : Point) :
    ¬ compositor.Visible rect point := by
  rintro ⟨hbounds, hcontains⟩
  exact Rect.not_contains_of_clip? hclip (Surface.mem_bounds_iff.1 hbounds) hcontains

theorem adds_markDirty_area
    {changed : Surface} {background : Color} {rect area : Rect}
    (hwidth : changed.width = compositor.surface.width)
    (hheight : changed.height = compositor.surface.height)
    (hdirty : changed.dirty = compositor.surface.dirty) (hrect : rect.Ordered)
    (hclip : compositor.surface.clip? rect = some area) :
    compositor.Adds (true, ⟨changed.markDirty area, background⟩) (compositor.Visible rect) := by
  have harea : area.Ordered := hrect.of_clip? hclip
  have hadds : compositor.Adds (true, ⟨changed.markDirty area, background⟩) area.Contains := by
    apply adds_markDirty hwidth hheight hdirty harea
    intro point hpoint
    exact ((visible_iff_of_clip? hclip point).2 hpoint).1
  exact hadds.congr fun point => (visible_iff_of_clip? hclip point).symm

/-- What is visible of a rectangle is added by marking the rectangle. -/
theorem Adds.dirty_eq
    {outcome : Bool × Compositor} {rect : Rect}
    (hadds : compositor.Adds outcome (compositor.Visible rect)) (hrect : rect.Ordered) :
    outcome.2.surface.dirty = (compositor.surface.markDirty rect).dirty := by
  cases hclip : compositor.surface.clip? rect with
  | none =>
      rw [hadds.nothing (not_visible_of_clip? hclip), Surface.markDirty_of_clip?_eq_none hclip]
  | some area =>
      have hvisible := visible_iff_of_clip? hclip
      have harea : area.Ordered := hrect.of_clip? hclip
      have hcorner := (hvisible _).2 harea.contains_min
      obtain ⟨-, added, hadded, hdirty⟩ := hadds.something ⟨_, hcorner⟩
      have hhull : added.IsHull area.Contains :=
        ((hadded _).2 hcorner).ordered.isHull.congr fun point =>
          (hadded point).trans (hvisible point)
      rw [hdirty, hhull.unique harea.isHull, Surface.dirty_markDirty_of_clip?_eq_some hclip]
      cases compositor.surface.dirty with
      | none => rfl
      | some old => rfl

/-! ## Rectangles, bitmaps and scrolling -/

theorem adds_fillRect (compositor : Compositor) (x1 y1 x2 y2 : Int) (color : Color) :
    compositor.Adds (compositor.fillRect x1 y1 x2 y2 color)
      (compositor.Visible (Rect.ofCorners x1 y1 x2 y2)) := by
  unfold fillRect
  split
  next hclip => exact adds_nothing (not_visible_of_clip? hclip)
  next area hclip =>
    exact adds_markDirty_area rfl rfl rfl (Rect.ordered_ofCorners x1 y1 x2 y2) hclip

theorem adds_drawBitmap
    (compositor : Compositor) (x y : Int) (bitmap : Bitmap) (scale : UInt8) (foreground : Color)
    (backdrop : Backdrop) :
    compositor.Adds (compositor.drawBitmap x y bitmap scale foreground backdrop) fun point =>
      (scale ≠ 0 ∧ bitmap.width ≠ 0 ∧ bitmap.height ≠ 0) ∧
        compositor.Visible (footprint x y bitmap scale) point := by
  unfold drawBitmap
  split
  next hsize =>
    apply adds_nothing
    rintro point ⟨⟨hscale, hwidth, hheight⟩, -⟩
    rcases hsize with hzero | hzero | hzero
    · exact hscale hzero
    · exact hwidth hzero
    · exact hheight hzero
  next hsize =>
    have hdraws : scale ≠ 0 ∧ bitmap.width ≠ 0 ∧ bitmap.height ≠ 0 := by
      rw [not_or, not_or] at hsize
      exact hsize
    split
    next hclip => exact adds_nothing fun point hpoint => not_visible_of_clip? hclip point hpoint.2
    next visible hclip =>
      dsimp only
      rw [hull?_bitmapPixels hsize hclip]
      apply Adds.congr
      · exact adds_markDirty_area rfl rfl rfl (ordered_footprint hsize) hclip
      · exact fun point => ⟨fun hpoint => ⟨hdraws, hpoint⟩, fun hpoint => hpoint.2⟩

theorem adds_scroll (compositor : Compositor) (lines : Int) :
    compositor.Adds (compositor.scroll lines) fun point =>
      lines ≠ 0 ∧ compositor.surface.bounds.Contains point := by
  have hbounds := compositor.surface.ordered_bounds
  unfold scroll
  split
  next hlines => exact adds_nothing fun point hpoint => hpoint.1 hlines
  next hlines =>
    apply Adds.congr
    · dsimp only
      split
      next => exact adds_markDirty rfl rfl rfl hbounds fun _ => id
      next =>
        split
        next => exact adds_markDirty rfl rfl rfl hbounds fun _ => id
        next => exact adds_markDirty rfl rfl rfl hbounds fun _ => id
    · exact fun point => ⟨fun hpoint => ⟨hlines, hpoint⟩, fun hpoint => hpoint.2⟩

/-! ## Buffers -/

/-- The buffer has the three bytes of the pixel that belongs at the point. -/
def Supplied (x1 y1 x2 y2 : Int) (pixels : Array UInt8) (point : Point) : Prop :=
  3 * ((point.y - min y1 y2) * ((x2 - x1).natAbs + 1) + (point.x - min x1 x2)) + 3 ≤ pixels.size

section Supply

variable {x1 y1 x2 y2 : Int} {pixels : Array UInt8} {point other : Point} {area : Rect}

theorem packedOffset_eq
    (hsize : (x2 - x1).natAbs < 4294967295)
    (hpoint : (Rect.ofCorners x1 y1 x2 y2).Contains point) :
    (packedOffset (Rect.ofCorners x1 y1 x2 y2) point : Int) =
      3 * ((point.y - min y1 y2) * ((x2 - x1).natAbs + 1) + (point.x - min x1 x2)) := by
  have hwidth : (Rect.ofCorners x1 y1 x2 y2).width = (x2 - x1).natAbs + 1 :=
    extent_ofCorners hsize
  obtain ⟨hminX, -, hminY, -⟩ := hpoint
  rw [packedOffset, hwidth]
  simp only [Rect.ofCorners] at *
  push_cast
  rw [Int.toNat_of_nonneg (by omega), Int.toNat_of_nonneg (by omega), mul_comm]

theorem packedOffset_le_of_before
    (hsize : (x2 - x1).natAbs < 4294967295)
    (hpoint : (Rect.ofCorners x1 y1 x2 y2).Contains point)
    (hother : (Rect.ofCorners x1 y1 x2 y2).Contains other)
    (hbefore : point.y < other.y ∨ point.y = other.y ∧ point.x < other.x) :
    packedOffset (Rect.ofCorners x1 y1 x2 y2) point ≤
      packedOffset (Rect.ofCorners x1 y1 x2 y2) other := by
  have hwidth : (Rect.ofCorners x1 y1 x2 y2).width = (x2 - x1).natAbs + 1 :=
    extent_ofCorners hsize
  obtain ⟨hminX, hmaxX, hminY, -⟩ := hpoint
  obtain ⟨hminX', hmaxX', hminY', -⟩ := hother
  rw [packedOffset, packedOffset, hwidth]
  simp only [Rect.ofCorners] at *
  apply Nat.mul_le_mul_right
  rcases hbefore with hrow | ⟨hrow, hcolumn⟩
  · have hrows : ((point.y - min y1 y2).toNat + 1) * ((x2 - x1).natAbs + 1) ≤
        (other.y - min y1 y2).toNat * ((x2 - x1).natAbs + 1) :=
      Nat.mul_le_mul_right _ (by omega)
    rw [Nat.add_mul, Nat.one_mul] at hrows
    omega
  · rw [hrow]
    omega

/-- The pixels that are drawn before the buffer runs out are all those that it has. -/
theorem mem_drawn_iff
    (hsize : (x2 - x1).natAbs < 4294967295)
    (hclip : compositor.surface.clip? (Rect.ofCorners x1 y1 x2 y2) = some area) :
    point ∈ area.points.takeWhile (fun point =>
        packedOffset (Rect.ofCorners x1 y1 x2 y2) point + 3 ≤ pixels.size) ↔
      area.Contains point ∧ Supplied x1 y1 x2 y2 pixels point := by
  have htarget : ∀ other, area.Contains other → (Rect.ofCorners x1 y1 x2 y2).Contains other :=
    fun other hother => ((visible_iff_of_clip? hclip other).2 hother).2
  rw [mem_takeWhile_iff, Rect.mem_points]
  · apply and_congr_right
    intro hpoint
    have hoffset := packedOffset_eq hsize (htarget point hpoint)
    rw [Supplied, ← hoffset, decide_eq_true_iff]
    omega
  · apply area.pairwise_points_rowMajor.imp_of_mem
    intro point other hpoint hother hbefore hsupplied
    rw [Rect.mem_points] at hpoint hother
    have hle := packedOffset_le_of_before hsize (htarget point hpoint) (htarget other hother)
      hbefore
    rw [decide_eq_true_iff] at hsupplied ⊢
    omega

/-- The rows down to the last pixel drawn are those down to some pixel that the buffer has. -/
theorem contains_drawn_iff
    {last : Point} (hsize : (x2 - x1).natAbs < 4294967295)
    (hclip : compositor.surface.clip? (Rect.ofCorners x1 y1 x2 y2) = some area)
    (hlast : (area.points.takeWhile fun point =>
      packedOffset (Rect.ofCorners x1 y1 x2 y2) point + 3 ≤ pixels.size).getLast? = some last) :
    ({ area with maxY := last.y } : Rect).Contains point ↔
      area.Contains point ∧ ∃ other, area.Contains other ∧
        Supplied x1 y1 x2 y2 pixels other ∧ point.y ≤ other.y := by
  obtain ⟨harea, hsupplied⟩ := (mem_drawn_iff hsize hclip).1 (List.mem_of_getLast? hlast)
  constructor
  · rintro ⟨hminX, hmaxX, hminY, hmaxY⟩
    exact ⟨⟨hminX, hmaxX, hminY, hmaxY.trans harea.2.2.2⟩, last, harea, hsupplied, hmaxY⟩
  · rintro ⟨⟨hminX, hmaxX, hminY, -⟩, other, hother, hsupplied', hle⟩
    have hmem := (mem_drawn_iff hsize hclip).2 ⟨hother, hsupplied'⟩
    exact ⟨hminX, hmaxX, hminY, hle.trans (Rect.y_le_of_getLast?_takeWhile hlast hmem)⟩

/-- A buffer reaches the rows down to the last one for which it has a visible pixel. -/
theorem adds_blitBuffer
    (compositor : Compositor) (pixels : Array UInt8) (hsize : (x2 - x1).natAbs < 4294967295) :
    compositor.Adds (compositor.blitBuffer x1 y1 x2 y2 pixels) fun point =>
      compositor.Visible (Rect.ofCorners x1 y1 x2 y2) point ∧
        ∃ other, compositor.Visible (Rect.ofCorners x1 y1 x2 y2) other ∧
          Supplied x1 y1 x2 y2 pixels other ∧ point.y ≤ other.y := by
  unfold blitBuffer
  dsimp only
  split
  next hclip => exact adds_nothing fun point hpoint => not_visible_of_clip? hclip point hpoint.1
  next area hclip =>
    simp only [visible_iff_of_clip? hclip]
    split
    next hnone =>
      apply adds_nothing
      rintro point ⟨-, other, hother, hsupplied, -⟩
      have hmem := (mem_drawn_iff hsize hclip).2 ⟨hother, hsupplied⟩
      rw [List.getLast?_eq_none_iff.1 hnone] at hmem
      contradiction
    next last hlast =>
      obtain ⟨harea, -⟩ := (mem_drawn_iff hsize hclip).1 (List.mem_of_getLast? hlast)
      have hcut : ({ area with maxY := last.y } : Rect).Ordered :=
        ⟨harea.ordered.x, harea.2.2.1⟩
      have hinside : ∀ point, ({ area with maxY := last.y } : Rect).Contains point →
          compositor.surface.bounds.Contains point := by
        intro point hpoint
        have hpoint' := ((contains_drawn_iff hsize hclip hlast).1 hpoint).1
        exact ((visible_iff_of_clip? hclip point).2 hpoint').1
      apply Adds.congr
      · exact adds_markDirty rfl rfl rfl hcut hinside
      · exact fun point => contains_drawn_iff hsize hclip hlast

theorem supplied_of_complete
    (hsize : (x2 - x1).natAbs < 4294967295)
    (hpixels : ((x2 - x1).natAbs + 1) * ((y2 - y1).natAbs + 1) * 3 ≤ pixels.size)
    (hpoint : (Rect.ofCorners x1 y1 x2 y2).Contains point) : Supplied x1 y1 x2 y2 pixels point := by
  have hoffset := packedOffset_eq hsize hpoint
  have hlt := packedOffset_lt hsize hpoint
  rw [Supplied, ← hoffset]
  omega

/-- A buffer with all its pixels reaches all of its rectangle that is on the surface. -/
theorem adds_blitBuffer_of_complete
    (compositor : Compositor) (hsize : (x2 - x1).natAbs < 4294967295)
    (hpixels : ((x2 - x1).natAbs + 1) * ((y2 - y1).natAbs + 1) * 3 ≤ pixels.size) :
    compositor.Adds (compositor.blitBuffer x1 y1 x2 y2 pixels)
      (compositor.Visible (Rect.ofCorners x1 y1 x2 y2)) := by
  apply (adds_blitBuffer compositor pixels hsize).congr
  intro point
  rw [and_iff_left_iff_imp]
  intro hpoint
  exact ⟨point, hpoint, supplied_of_complete hsize hpixels hpoint.2, le_rfl⟩

end Supply

/-! ## Commands -/

theorem adds_of_footprint?
    {command : Command} {outcome : Bool × Compositor}
    (hnone : command.footprint? compositor.surface.bounds = none → outcome = (false, compositor))
    (hsome : ∀ box, command.footprint? compositor.surface.bounds = some box →
      compositor.Adds outcome (compositor.Visible box)) :
    compositor.Adds outcome (command.Reaches compositor.surface.bounds) := by
  cases hbox : command.footprint? compositor.surface.bounds with
  | none =>
      rw [hnone hbox]
      exact adds_nothing (Command.not_reaches hbox)
  | some box => exact (hsome box hbox).congr fun point => (Command.reaches_iff hbox point).symm

theorem adds_apply (compositor : Compositor) {command : Command} (hcomplete : command.Complete) :
    compositor.Adds (compositor.apply command)
      (command.Reaches compositor.surface.bounds) := by
  apply adds_of_footprint?
  · intro hnone
    cases command with
    | fillRect corners color => contradiction
    | blitBuffer corners pixels => contradiction
    | drawBitmap x y scale foreground backdrop bitmap =>
        rw [Command.footprint?, ite_eq_left_iff] at hnone
        have hsize : scale = 0 ∨ bitmap.width = 0 ∨ bitmap.height = 0 := by
          by_contra hsize
          exact absurd (hnone hsize) (Option.some_ne_none _)
        rw [apply, drawBitmap, if_pos hsize]
    | scroll lines =>
        rw [Command.footprint?, ite_eq_left_iff] at hnone
        have hlines : lines = 0 := by
          by_contra hlines
          exact absurd (hnone hlines) (Option.some_ne_none _)
        rw [hlines]
        rfl
    | execute data => rfl
  · intro box hbox
    cases command with
    | fillRect corners color =>
        cases hbox
        exact compositor.adds_fillRect ..
    | blitBuffer corners pixels =>
        have hleft := corners.x1.toInt_lt
        have hleft' := corners.x1.le_toInt
        have hright := corners.x2.toInt_lt
        have hright' := corners.x2.le_toInt
        cases hbox
        exact compositor.adds_blitBuffer_of_complete (by omega) hcomplete
    | drawBitmap x y scale foreground backdrop bitmap =>
        rw [Command.footprint?, ite_eq_iff] at hbox
        obtain ⟨-, hnone⟩ | ⟨hsize, hbox⟩ := hbox
        · contradiction
        · cases hbox
          apply (compositor.adds_drawBitmap ..).congr
          intro point
          rw [not_or, not_or] at hsize
          exact and_iff_right hsize
    | scroll lines =>
        rw [Command.footprint?, ite_eq_iff] at hbox
        obtain ⟨-, hnone⟩ | ⟨hlines, hbox⟩ := hbox
        · contradiction
        · cases hbox
          apply (compositor.adds_scroll ..).congr
          intro point
          rw [Visible, and_self]
          apply and_iff_right
          intro hzero
          exact hlines (Int16.toInt_inj.1 hzero)
    | execute data => contradiction

theorem dirty_apply (compositor : Compositor) {command : Command} (hcomplete : command.Complete) :
    (compositor.apply command).2.surface.dirty =
      match command.footprint? compositor.surface.bounds with
      | none => compositor.surface.dirty
      | some box => (compositor.surface.markDirty box).dirty := by
  have hadds := compositor.adds_apply hcomplete
  cases hbox : command.footprint? compositor.surface.bounds with
  | none => rw [hadds.nothing (Command.not_reaches hbox)]
  | some box =>
      exact (hadds.congr (Command.reaches_iff hbox)).dirty_eq (Command.ordered_footprint? hbox)

end Compositor

/-- Every operation grows the dirty rectangle by what it reaches on the surface, and says whether
that was anything: the rectangle between two corners, down to the last row for which a buffer has
a pixel; the box of a bitmap that has pixels; the whole surface for a scroll by some lines; and
nothing for other data.  So does every command from a frame, whose buffers are never short. -/
theorem operation_grows_dirty (compositor : Compositor) :
    (∀ x1 y1 x2 y2 color, compositor.Adds (compositor.fillRect x1 y1 x2 y2 color)
      (compositor.Visible (Rect.ofCorners x1 y1 x2 y2))) ∧
    (∀ x1 y1 x2 y2 pixels, (x2 - x1).natAbs < 4294967295 →
      (compositor.Adds (compositor.blitBuffer x1 y1 x2 y2 pixels) fun point =>
        compositor.Visible (Rect.ofCorners x1 y1 x2 y2) point ∧
          ∃ other, compositor.Visible (Rect.ofCorners x1 y1 x2 y2) other ∧
            Compositor.Supplied x1 y1 x2 y2 pixels other ∧ point.y ≤ other.y) ∧
      (((x2 - x1).natAbs + 1) * ((y2 - y1).natAbs + 1) * 3 ≤ pixels.size →
        compositor.Adds (compositor.blitBuffer x1 y1 x2 y2 pixels)
          (compositor.Visible (Rect.ofCorners x1 y1 x2 y2)))) ∧
    (∀ x y bitmap scale foreground backdrop,
      compositor.Adds (compositor.drawBitmap x y bitmap scale foreground backdrop) fun point =>
        (scale ≠ 0 ∧ bitmap.width ≠ 0 ∧ bitmap.height ≠ 0) ∧
          compositor.Visible ⟨x, y, x + bitmap.width.toNat * scale.toNat - 1,
            y + bitmap.height.toNat * scale.toNat - 1⟩ point) ∧
    (∀ lines, compositor.Adds (compositor.scroll lines) fun point =>
      lines ≠ 0 ∧ compositor.surface.bounds.Contains point) ∧
    (∀ data, compositor.Adds (compositor.apply (.execute data)) fun _ => False) ∧
    (∀ frame command, Command.ofFrame frame = .ok command →
      compositor.Adds (compositor.apply command)
        (command.Reaches compositor.surface.bounds)) := by
  refine ⟨compositor.adds_fillRect, ?_, compositor.adds_drawBitmap, compositor.adds_scroll, ?_, ?_⟩
  · intro x1 y1 x2 y2 pixels hsize
    refine ⟨Compositor.adds_blitBuffer compositor pixels hsize, ?_⟩
    intro hpixels
    exact Compositor.adds_blitBuffer_of_complete compositor hsize hpixels
  · intro data
    exact Compositor.adds_nothing fun _ => id
  · intro frame command hframe
    exact compositor.adds_apply (Command.complete_of_ofFrame hframe)

/-- Sixteen bytes are five of the nine pixels, and two of the five are left of the surface.  The
frame behind has all of its four pixels, and one of them is on the surface. -/
theorem operation_grows_dirty_short_buffer :
    ∃ (surface : Surface) (frame : Frame),
      let start : Compositor := ⟨surface, Color.black⟩
      let command : Command := .blitBuffer ⟨2, 2, 3, 3⟩ (Array.replicate 12 200)
      let outcome := start.blitBuffer (-1) 0 1 2 (Array.replicate 16 200)
      Surface.ofStorage 3 3 (Array.replicate 36 0) = .ok surface ∧
        (1 - (-1) : Int).natAbs < 4294967295 ∧
        outcome.1 = true ∧
        (∃ area, outcome.2.surface.dirty = some area ∧
          area.Contains ⟨0, 1⟩ ∧ area.Contains ⟨1, 1⟩ ∧ ¬ area.Contains ⟨0, 2⟩) ∧
        Command.ofFrame frame = .ok command ∧
        (start.apply command).1 = true ∧
        start.Adds (start.blitBuffer 3 3 2 2 (Array.replicate 12 200))
          (start.Visible (Rect.ofCorners 3 3 2 2)) := by
  obtain ⟨surface, hsurface⟩ : ∃ surface,
      Surface.ofStorage 3 3 (Array.replicate 36 0) = .ok surface := ⟨_, rfl⟩
  obtain ⟨frame, hframe⟩ : ∃ frame,
      (Command.blitBuffer ⟨2, 2, 3, 3⟩ (Array.replicate 12 200)).toFrame = .ok frame := ⟨_, rfl⟩
  refine ⟨surface, frame, ?_⟩
  intro start command outcome
  obtain ⟨-, hbuffer, -, -, -, hcommand⟩ := operation_grows_dirty start
  have hdecoded : Command.ofFrame frame = .ok command := by
    cases hframe
    decide
  have hclean : start.surface.dirty = none := by
    cases hsurface
    rfl
  have hvisible : start.Visible (Rect.ofCorners (-1) 0 1 2) ⟨0, 1⟩ ∧
      start.Visible (Rect.ofCorners (-1) 0 1 2) ⟨1, 1⟩ := by
    cases hsurface
    exact ⟨⟨by decide, by decide⟩, by decide, by decide⟩
  have hlast : Compositor.Supplied (-1) 0 1 2 (Array.replicate 16 200) ⟨0, 1⟩ := by
    unfold Compositor.Supplied
    decide
  have hrows : ∀ point, start.Visible (Rect.ofCorners (-1) 0 1 2) point →
      Compositor.Supplied (-1) 0 1 2 (Array.replicate 16 200) point → point.y ≤ 1 := by
    rintro ⟨x, y⟩ ⟨-, hcontains⟩ hsupplied
    simp [Compositor.Supplied, Rect.ofCorners, Rect.Contains] at *
    omega
  obtain ⟨hdrawn, area, harea, hdirty⟩ :=
    (hbuffer (-1) 0 1 2 (Array.replicate 16 200) (by decide)).1.something
      ⟨⟨0, 1⟩, hvisible.1, ⟨0, 1⟩, hvisible.1, hlast, le_rfl⟩
  rw [hclean] at hdirty
  have hreaches : command.Reaches start.surface.bounds ⟨2, 2⟩ := by
    cases hsurface
    exact ⟨by decide, _, rfl, by decide⟩
  refine ⟨hsurface, by decide, hdrawn, ⟨area, hdirty, ?_, ?_, ?_⟩, hdecoded, ?_, ?_⟩
  · exact (harea _).2 ⟨hvisible.1, ⟨0, 1⟩, hvisible.1, hlast, le_rfl⟩
  · exact (harea _).2 ⟨hvisible.2, ⟨0, 1⟩, hvisible.1, hlast, le_rfl⟩
  · intro hbelow
    obtain ⟨-, other, hother, hsupplied, hle⟩ := (harea _).1 hbelow
    have hrow := hrows other hother hsupplied
    simp only at hle
    omega
  · exact ((hcommand frame command hdecoded).something ⟨⟨2, 2⟩, hreaches⟩).1
  · exact (hbuffer 3 3 2 2 (Array.replicate 12 200) (by decide)).2 (by decide)

end PanelLink
