import PanelLink.Proofs.Raster.Stored

/-!
# Scrolling

Scrolling moves whole rows and draws the rows that come in from outside in the background color.
So scrolling on in one direction is like scrolling once, and scrolling back brings back what has
not left the surface.
-/

namespace PanelLink

/-- Rows that are moved and the rest filled, where what is filled is all that is not moved. -/
theorem Surface.redrawnAs_moveRows
    {surface : Surface} {source target count top bottom : Nat} {lines : Int}
    (htarget : target + count ≤ surface.height) (hbottom : bottom ≤ surface.height)
    (hlines : (source : Int) = target + lines)
    (hrows : ∀ row : Int, 0 ≤ row ∧ row < surface.height →
      ((0 ≤ row + lines ∧ row + lines < surface.height) ↔
          target ≤ row ∧ row < (target + count : Nat)) ∧
        ((0 ≤ row + lines ∧ row + lines < surface.height) ↔ ¬ (top ≤ row ∧ row < bottom)))
    (color : Color) :
    surface.RedrawnAs
      (fun point =>
        if 0 ≤ point.y + lines ∧ point.y + lines < surface.height then
          surface.bytesAt ⟨point.x, point.y + lines⟩
        else
          color.stored)
      ((surface.copyRows source target count).fillRows top bottom color) := by
  have hcopied := redrawnAs_copyRows htarget source
  have hbottom' : bottom ≤ (surface.copyRows source target count).height := hbottom
  have hfilled := redrawnAs_fillRows hbottom' top color
  apply (hcopied.trans hfilled).congr
  intro point hpoint
  obtain ⟨-, -, hy⟩ := mem_bounds_iff.1 hpoint
  obtain ⟨hmoved, hkept⟩ := hrows point.y hy
  have hrow : point.y - target + source = point.y + lines := by omega
  by_cases hshown : 0 ≤ point.y + lines ∧ point.y + lines < surface.height
  · rw [if_pos hshown, if_neg (hkept.1 hshown), hcopied.bytesAt_eq point hpoint,
      if_pos (hmoved.1 hshown), hrow]
  · rw [if_neg hshown, if_pos (not_not.1 (hkept.not.1 hshown))]

namespace Compositor

theorem background_scroll (compositor : Compositor) (lines : Int) :
    (compositor.scroll lines).2.background = compositor.background := by
  unfold scroll
  split
  next => rfl
  next => rfl

/-- Each row shows the one that lies `lines` rows below it, if that is on the surface. -/
theorem redrawnAs_scroll (compositor : Compositor) (lines : Int) :
    compositor.surface.RedrawnAs
      (fun point =>
        if 0 ≤ point.y + lines ∧ point.y + lines < compositor.surface.height then
          compositor.surface.bytesAt ⟨point.x, point.y + lines⟩
        else
          compositor.background.stored)
      (compositor.scroll lines).2.surface := by
  obtain ⟨surface, background⟩ := compositor
  dsimp only
  unfold scroll
  split
  next hlines =>
    apply (Surface.RedrawnAs.refl surface).congr
    intro point hpoint
    obtain ⟨-, -, hy, hy'⟩ := Surface.mem_bounds_iff.1 hpoint
    simp [hlines, hy, hy']
  next hlines =>
    apply Surface.RedrawnAs.markDirty
    split
    next hfar =>
      apply (Surface.redrawnAs_fillRows le_rfl 0 background).congr
      intro point hpoint
      obtain ⟨-, -, hy, hy'⟩ := Surface.mem_bounds_iff.1 hpoint
      rw [if_pos ⟨hy, hy'⟩, if_neg (by omega)]
    next hnear =>
      split
      next hup =>
        apply Surface.redrawnAs_moveRows
        · omega
        · exact le_rfl
        · omega
        · intro row hrow
          omega
      next hdown =>
        apply Surface.redrawnAs_moveRows
        · omega
        · omega
        · omega
        · intro row hrow
          omega

/-- A row that has been off the surface once does not come back. -/
theorem redrawnAs_scroll_scroll (compositor : Compositor) (lines more : Int) :
    compositor.surface.RedrawnAs
      (fun point =>
        if (0 ≤ point.y + more ∧ point.y + more < compositor.surface.height) ∧
            0 ≤ point.y + more + lines ∧
              point.y + more + lines < compositor.surface.height then
          compositor.surface.bytesAt ⟨point.x, point.y + more + lines⟩
        else
          compositor.background.stored)
      ((compositor.scroll lines).2.scroll more).2.surface := by
  have hfirst := compositor.redrawnAs_scroll lines
  apply (hfirst.trans ((compositor.scroll lines).2.redrawnAs_scroll more)).congr
  intro point hpoint
  rw [hfirst.height_eq, background_scroll]
  by_cases hrow : 0 ≤ point.y + more ∧ point.y + more < compositor.surface.height
  · obtain ⟨hx, hx', -, -⟩ := Surface.mem_bounds_iff.1 hpoint
    have hsource : compositor.surface.bounds.Contains ⟨point.x, point.y + more⟩ :=
      Surface.mem_bounds_iff.2 ⟨hx, hx', hrow⟩
    rw [if_pos hrow, hfirst.bytesAt_eq _ hsource]
    simp only [hrow, true_and]
  · simp only [hrow, false_and, if_false]

end Compositor

/-- Scrolling shifts the rows, also far past the surface, and leaves the bytes behind the picture
alone.  Scrolling on in the same direction is scrolling once by the sum, and scrolling back
restores every row but those that were pushed off, which get the background color. -/
theorem scroll_shifts_rows (compositor : Compositor) :
    (∀ lines : Int, lines ≠ 0 →
      let scrolled := (compositor.scroll lines).2.surface
      (∀ point, compositor.surface.bounds.Contains point →
        scrolled.bytesAt point =
          if 0 ≤ point.y + lines ∧ point.y + lines < compositor.surface.height then
            compositor.surface.bytesAt ⟨point.x, point.y + lines⟩
          else
            compositor.background.stored) ∧
        (compositor.surface.height ≤ lines.natAbs →
          ∀ point, compositor.surface.bounds.Contains point →
            scrolled.bytesAt point = compositor.background.stored) ∧
        scrolled.storage.size = compositor.surface.storage.size ∧
        ∀ i, storageLength compositor.surface.width compositor.surface.height ≤ i →
          scrolled.storage.getD i 0 = compositor.surface.storage.getD i 0) ∧
    (∀ lines more : Int, 0 ≤ lines ∧ 0 ≤ more ∨ lines ≤ 0 ∧ more ≤ 0 →
      ((compositor.scroll lines).2.scroll more).2.surface.storage =
        (compositor.scroll (lines + more)).2.surface.storage) ∧
    ∀ (lines : Int) (point : Point), compositor.surface.bounds.Contains point →
      let lost := min lines.natAbs compositor.surface.height
      ((compositor.scroll lines).2.scroll (-lines)).2.surface.bytesAt point =
        if 0 < lines ∧ point.y < lost ∨
            lines < 0 ∧ (compositor.surface.height : Int) - lost ≤ point.y then
          compositor.background.stored
        else
          compositor.surface.bytesAt point := by
  refine ⟨?_, ?_, ?_⟩
  · intro lines _ scrolled
    have hscrolled := compositor.redrawnAs_scroll lines
    refine ⟨hscrolled.bytesAt_eq, ?_, hscrolled.size_eq, hscrolled.getD_eq⟩
    intro hfar point hpoint
    obtain ⟨-, -, hy, hy'⟩ := Surface.mem_bounds_iff.1 hpoint
    exact (hscrolled.bytesAt_eq point hpoint).trans (if_neg (by omega))
  · intro lines more hsign
    apply (compositor.redrawnAs_scroll_scroll lines more).storage_eq
    apply (compositor.redrawnAs_scroll (lines + more)).congr
    intro point hpoint
    obtain ⟨-, -, hy, hy'⟩ := Surface.mem_bounds_iff.1 hpoint
    have hrow : point.y + more + lines = point.y + (lines + more) := by omega
    rw [hrow]
    congr 1
    rw [eq_iff_iff]
    omega
  · intro lines point hpoint lost
    obtain ⟨-, -, hy, hy'⟩ := Surface.mem_bounds_iff.1 hpoint
    rw [(compositor.redrawnAs_scroll_scroll lines (-lines)).bytesAt_eq point hpoint,
      Int.neg_add_cancel_right]
    by_cases hlost : 0 < lines ∧ point.y < lost ∨
        lines < 0 ∧ (compositor.surface.height : Int) - lost ≤ point.y
    · rw [if_pos hlost, if_neg (by omega)]
    · rw [if_neg hlost, if_pos (by omega)]

/-- Three rows scrolled up by two and down again keep the last one. -/
theorem scroll_shifts_rows_there_and_back :
    ∃ surface : Surface,
      let storage : Array UInt8 := #[1, 1, 1, 1, 2, 2, 2, 2, 3, 3, 3, 3, 4]
      let start : Compositor := ⟨surface, ⟨7, 8, 9⟩⟩
      Surface.ofStorage 1 3 storage = .ok surface ∧
        surface.bounds.Contains ⟨0, 0⟩ ∧ surface.bounds.Contains ⟨0, 2⟩ ∧
        (start.scroll 2).2.surface.bytesAt ⟨0, 0⟩ = [3, 3, 3, 3] ∧
        (start.scroll 2).2.surface.storage.getD 12 0 = 4 ∧
        ((start.scroll 2).2.scroll (-2)).2.surface.bytesAt ⟨0, 0⟩ = [7, 8, 9, 255] ∧
        ((start.scroll 2).2.scroll (-2)).2.surface.bytesAt ⟨0, 2⟩ = [3, 3, 3, 3] ∧
        ((start.scroll (-1)).2.scroll (-1)).2.surface.storage =
          (start.scroll (-2)).2.surface.storage := by
  obtain ⟨surface, hsurface⟩ : ∃ surface,
      Surface.ofStorage 1 3 #[1, 1, 1, 1, 2, 2, 2, 2, 3, 3, 3, 3, 4] = .ok surface := ⟨_, rfl⟩
  refine ⟨surface, ?_⟩
  intro storage start
  obtain ⟨hshift, htwice, hback⟩ := scroll_shifts_rows start
  obtain ⟨hrows, -, -, hbehind⟩ := hshift 2 (by decide)
  have htop : surface.bounds.Contains ⟨0, 0⟩ := by
    cases hsurface
    decide
  have hbottom : surface.bounds.Contains ⟨0, 2⟩ := by
    cases hsurface
    decide
  refine ⟨hsurface, htop, hbottom, ?_, ?_, ?_, ?_, htwice (-1) (-1) (.inr (by decide))⟩
  · rw [hrows ⟨0, 0⟩ htop]
    cases hsurface
    decide
  · rw [hbehind 12 (by cases hsurface; decide)]
    cases hsurface
    rfl
  · rw [hback 2 ⟨0, 0⟩ htop]
    cases hsurface
    decide
  · rw [hback 2 ⟨0, 2⟩ hbottom]
    cases hsurface
    decide

end PanelLink
