import PanelLink.Proofs.Raster.Ink

/-!
# Commands apart

Commands whose footprints do not meet on the surface can be applied in any order.  None of them
sees what another has drawn, and the dirty rectangle grows around all of them either way.
-/

namespace PanelLink

/-- No point of the surface is in both footprints. -/
def Command.Apart (bounds : Rect) (command other : Command) : Prop :=
  ∀ point, ¬ (command.Reaches bounds point ∧ other.Reaches bounds point)

namespace Command

instance (bounds : Rect) (command : Command) (point : Point) :
    Decidable (command.Reaches bounds point) :=
  decidable_of_iff
    (bounds.Contains point ∧ (command.footprint? bounds).any (·.Contains point) = true)
    (by simp [Reaches, Option.any_eq_true])

instance (bounds : Rect) (command other : Command) : Decidable (command.Apart bounds other) :=
  decidable_of_iff
    (∀ point ∈ bounds.points, ¬ (command.Reaches bounds point ∧ other.Reaches bounds point))
    ⟨fun hpoints point hboth => hpoints point (Rect.mem_points.mpr hboth.1.1) hboth,
      fun hapart point _ => hapart point⟩

variable {bounds : Rect} {command other : Command} {point : Point}

theorem Apart.symm (hapart : command.Apart bounds other) : other.Apart bounds command :=
  fun point hboth => hapart point hboth.symm

/-- Scrolling is apart only from a command that draws nothing. -/
theorem Apart.ne_scroll
    (hapart : command.Apart bounds other) (hcommand : ∃ point, command.Reaches bounds point)
    (hother : ∃ point, other.Reaches bounds point) : ∀ lines, command ≠ .scroll lines := by
  rintro lines rfl
  obtain ⟨point, hpoint⟩ := hcommand
  obtain ⟨place, hplace⟩ := hother
  have hlines := (reaches_scroll_iff.mp hpoint).1
  exact hapart place ⟨reaches_scroll_iff.mpr ⟨hlines, hplace.1⟩, hplace⟩

end Command

namespace Compositor

variable {compositor : Compositor} {command other : Command}

theorem pictureAfter_comm
    {point : Point} (hcommand : ∀ lines, command ≠ .scroll lines)
    (hpoint : compositor.surface.bounds.Contains point)
    (hout : ¬ other.Reaches compositor.surface.bounds point) :
    (compositor.apply command).2.pictureAfter other point =
      (compositor.apply other).2.pictureAfter command point := by
  have hbounds := compositor.bounds_apply command
  have hout' : ¬ other.Reaches (compositor.apply command).2.surface.bounds point := by
    rw [hbounds]
    exact hout
  have hpoint' : (compositor.apply command).2.surface.bounds.Contains point := by
    rw [hbounds]
    exact hpoint
  rw [pictureAfter_of_not_reaches hpoint' hout', bytesAt_apply command hpoint,
    pictureAfter_apply hcommand hpoint hout]

/-- Two commands apart, one after the other in either order. -/
theorem apply_comm (hapart : command.Apart compositor.surface.bounds other) :
    ((compositor.apply command).2.apply other).2 =
      ((compositor.apply other).2.apply command).2 := by
  -- With a point in each footprint neither is a scrolling, and each sees its own points alone.
  by_cases hcommand : ∃ point, command.Reaches compositor.surface.bounds point
  · by_cases hother : ∃ point, other.Reaches compositor.surface.bounds point
    · have hscroll := hapart.ne_scroll hcommand hother
      have hscroll' := hapart.symm.ne_scroll hother hcommand
      have hpicture : ∀ point, compositor.surface.bounds.Contains point →
          (compositor.apply command).2.pictureAfter other point =
            (compositor.apply other).2.pictureAfter command point := by
        intro point hpoint
        by_cases hout : other.Reaches compositor.surface.bounds point
        · have hout' : ¬ command.Reaches compositor.surface.bounds point :=
            fun hreaches => hapart point ⟨hreaches, hout⟩
          exact (pictureAfter_comm hscroll' hpoint hout').symm
        · exact pictureAfter_comm hscroll hpoint hout
      have hforth := (compositor.paints_apply_apply command other).congr
        (fun _ => or_comm) hpicture
      have hback := compositor.paints_apply_apply other command
      rw [← (Prod.mk.inj (hforth.unique hback)).2]
    · rw [not_exists] at hother
      have hother' := hother
      rw [← compositor.bounds_apply command] at hother'
      rw [apply_of_not_reaches hother, apply_of_not_reaches hother']
  · rw [not_exists] at hcommand
    have hcommand' := hcommand
    rw [← compositor.bounds_apply other] at hcommand'
    rw [apply_of_not_reaches hcommand, apply_of_not_reaches hcommand']

theorem applyAll_perm
    {commands permuted : List Command} (hperm : commands.Perm permuted)
    (hapart : commands.Pairwise (Command.Apart compositor.surface.bounds)) :
    compositor.applyAll commands = compositor.applyAll permuted := by
  induction hperm generalizing compositor with
  | nil => rfl
  | cons command _ ih =>
      have hrest := (List.pairwise_cons.mp hapart).2
      rw [← compositor.bounds_apply command] at hrest
      exact ih hrest
  | swap command other commands =>
      have hhead : command.Apart compositor.surface.bounds other :=
        ((List.pairwise_cons.mp hapart).1 command (List.mem_cons_self ..)).symm
      have hcomm := apply_comm hhead
      simp only [applyAll, List.foldl_cons, hcomm]
  | trans hperm _ ih ih' =>
      exact (ih hapart).trans (ih' (hapart.perm hperm Command.Apart.symm))

/-- The answers to commands that are applied one after the other. -/
def answers (compositor : Compositor) : List Command → List Bool
  | [] => []
  | command :: commands =>
    (compositor.apply command).1 :: (compositor.apply command).2.answers commands

/-- Every command is answered as if it were the only one. -/
theorem answers_eq_map (compositor : Compositor) (commands : List Command) :
    compositor.answers commands = commands.map fun command => (compositor.apply command).1 := by
  induction commands generalizing compositor with
  | nil => rfl
  | cons command commands ih =>
      have hrest : ∀ other : Command,
          ((compositor.apply command).2.apply other).1 = (compositor.apply other).1 :=
        compositor.answer_apply command
      simp only [answers, ih, hrest, List.map_cons]

theorem zip_answers_perm
    (compositor : Compositor) {commands permuted : List Command}
    (hperm : commands.Perm permuted) :
    (commands.zip (compositor.answers commands)).Perm
      (permuted.zip (compositor.answers permuted)) := by
  simp only [answers_eq_map, ← List.map_prod_left_eq_zip]
  exact hperm.map _

end Compositor

/-- Commands whose footprints do not meet on the surface leave the same bytes and the same dirty
rectangle in whatever order they are applied, and each gets the same answer. -/
theorem apart_commands_commute
    (compositor : Compositor) (commands permuted : List Command)
    (hperm : commands.Perm permuted)
    (hapart : commands.Pairwise fun command other => ∀ point,
      ¬ (command.Reaches compositor.surface.bounds point ∧
        other.Reaches compositor.surface.bounds point)) :
    compositor.applyAll commands = compositor.applyAll permuted ∧
      (commands.zip (compositor.answers commands)).Perm
        (permuted.zip (compositor.answers permuted)) :=
  ⟨Compositor.applyAll_perm hperm hapart, compositor.zip_answers_perm hperm⟩

/-- A fill over the corner of the surface, a bitmap laid over what is there, a buffer with two of its
four pixels and a command that draws nothing, forth and back. -/
theorem apart_commands_commute_over_the_edge :
    ∃ surface : Surface,
      let start : Compositor := ⟨surface, Color.black⟩
      let fill : Command := .fillRect ⟨-1, -1, 0, 0⟩ ⟨9, 8, 7⟩
      let bitmap : Command := .drawBitmap 1 0 1 ⟨1, 2, 3⟩ .transparent ⟨2, 1, #[2]⟩
      let buffer : Command := .blitBuffer ⟨0, 1, 1, 2⟩ #[10, 11, 12, 20, 21, 22]
      let commands : List Command := [fill, bitmap, buffer, .execute [5]]
      let drawn := (start.applyAll commands).surface
      Surface.ofStorage 3 3 (Array.replicate 36 6) = .ok surface ∧
        commands.Perm commands.reverse ∧
        commands.Pairwise (fun command other => ∀ point,
          ¬ (command.Reaches surface.bounds point ∧ other.Reaches surface.bounds point)) ∧
        start.applyAll commands = start.applyAll commands.reverse ∧
        drawn.dirty = some ⟨0, 0, 2, 1⟩ ∧
        drawn.bytesAt ⟨0, 0⟩ = [9, 8, 7, 255] ∧ drawn.bytesAt ⟨1, 0⟩ = [1, 2, 3, 255] ∧
        drawn.bytesAt ⟨2, 0⟩ = [6, 6, 6, 255] ∧ drawn.bytesAt ⟨1, 1⟩ = [20, 21, 22, 255] ∧
        drawn.bytesAt ⟨0, 2⟩ = [6, 6, 6, 6] ∧
        start.answers commands = [true, true, true, false] ∧
        (commands.zip [true, true, true, false]).Perm
          (commands.reverse.zip (start.answers commands.reverse)) := by
  obtain ⟨surface, hsurface⟩ : ∃ surface,
      Surface.ofStorage 3 3 (Array.replicate 36 6) = .ok surface := ⟨_, rfl⟩
  refine ⟨surface, ?_⟩
  intro start fill bitmap buffer commands drawn
  have hperm : commands.Perm commands.reverse := commands.reverse_perm.symm
  have hapart : commands.Pairwise (Command.Apart surface.bounds) := by
    cases hsurface
    decide +kernel
  obtain ⟨hsame, hanswers⟩ :=
    apart_commands_commute start commands commands.reverse hperm hapart
  have hdirty : drawn.dirty = some ⟨0, 0, 2, 1⟩ := by
    cases hsurface
    decide +kernel
  have hbytes : drawn.bytesAt ⟨0, 0⟩ = [9, 8, 7, 255] ∧ drawn.bytesAt ⟨1, 0⟩ = [1, 2, 3, 255] ∧
      drawn.bytesAt ⟨2, 0⟩ = [6, 6, 6, 255] ∧ drawn.bytesAt ⟨1, 1⟩ = [20, 21, 22, 255] ∧
      drawn.bytesAt ⟨0, 2⟩ = [6, 6, 6, 6] := by
    cases hsurface
    decide +kernel
  obtain ⟨hfill, hset, hclear, hbuffer, hkept⟩ := hbytes
  have hgiven : start.answers commands = [true, true, true, false] := by
    cases hsurface
    decide +kernel
  rw [hgiven] at hanswers
  exact ⟨hsurface, hperm, hapart, hsame, hdirty, hfill, hset, hclear, hbuffer, hkept, hgiven,
    hanswers⟩

end PanelLink
