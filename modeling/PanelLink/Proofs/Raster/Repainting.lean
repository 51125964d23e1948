import PanelLink.Proofs.Raster.Ink

/-!
# Drawing again and drawing over

A command that is applied again finds what it draws already there.  One that draws without looking
hides what has been drawn where it reaches, so nothing is left of an earlier command that has
reached no further.
-/

namespace PanelLink

namespace Command

/-- The command draws at every point that it reaches, whatever is there. -/
def Hides : Command → Prop
  | .fillRect _ _ => True
  | .blitBuffer corners pixels => (Command.blitBuffer corners pixels).Complete
  | .drawBitmap _ _ _ _ backdrop _ => ∃ color, backdrop = .solid color
  | .scroll _ | .execute _ => False

variable {bounds : Rect} {command : Command} {point : Point}

theorem Hides.complete (hhides : command.Hides) : command.Complete := by
  cases command with
  | blitBuffer corners pixels => exact hhides
  | fillRect corners color => trivial
  | drawBitmap x y scale foreground backdrop bitmap => trivial
  | scroll lines => trivial
  | execute data => trivial

theorem Hides.ne_scroll (hhides : command.Hides) : ∀ lines, command ≠ .scroll lines := by
  rintro lines rfl
  exact hhides

theorem Hides.ink?_eq
    (hhides : command.Hides) (hreaches : command.Reaches bounds point) :
    ∃ color, command.ink? point = some (.solid color) := by
  cases command with
  | fillRect corners color =>
      exact ⟨color, if_pos (reaches_fillRect_iff.mp hreaches).2⟩
  | drawBitmap x y scale foreground backdrop bitmap =>
      obtain ⟨color, rfl⟩ := hhides
      obtain ⟨hdraws, -, hpoint⟩ := reaches_drawBitmap_iff.mp hreaches
      rw [ink?, if_pos ⟨hdraws, hpoint⟩, ← apply_ite Backdrop.solid]
      exact ⟨_, rfl⟩
  | blitBuffer corners pixels =>
      have hpoint := (reaches_blitBuffer_iff.mp hreaches).2
      have hsupplied : corners.Supplies pixels point :=
        Compositor.supplied_of_complete corners.span_lt hhides hpoint
      exact ⟨_, if_pos ⟨hpoint, hsupplied⟩⟩
  | scroll lines => exact hhides.elim
  | execute data => exact hhides.elim

end Command

namespace Compositor

variable {compositor : Compositor} {command cover : Command}

/-- A command is forgotten if the next one marks all that it has marked and leaves the picture that
it would have left without it. -/
theorem apply_apply_of_pictureAfter
    (hmarks : ∀ point, command.Marks compositor.surface.bounds point →
      cover.Marks compositor.surface.bounds point)
    (hpicture : ∀ point, compositor.surface.bounds.Contains point →
      (compositor.apply command).2.pictureAfter cover point =
        compositor.pictureAfter cover point) :
    (compositor.apply command).2.apply cover = compositor.apply cover := by
  have hboth := (compositor.paints_apply_apply command cover).congr
    (fun point => or_iff_right_of_imp (hmarks point)) hpicture
  have hsame := hboth.unique (compositor.paints_apply cover)
  exact Prod.ext (compositor.answer_apply command cover) (Prod.ext_iff.mp hsame).2

/-- A retransmitted command. -/
theorem apply_again (hcommand : ∀ lines, command ≠ .scroll lines) :
    (compositor.apply command).2.apply command = compositor.apply command := by
  apply apply_apply_of_pictureAfter
  · exact fun _ => id
  · intro point hpoint
    have hpoint' : (compositor.apply command).2.surface.bounds.Contains point := by
      rw [compositor.bounds_apply command]
      exact hpoint
    have hbytes := bytesAt_apply command hpoint
    rw [pictureAfter_eq_inked hcommand] at hbytes
    rw [pictureAfter_eq_inked hcommand, pictureAfter_eq_inked hcommand]
    exact Surface.inked_again hpoint' hbytes

theorem apply_cover
    (hhides : cover.Hides)
    (hreaches : ∀ point, command.Reaches compositor.surface.bounds point →
      cover.Reaches compositor.surface.bounds point) :
    (compositor.apply command).2.apply cover = compositor.apply cover := by
  apply apply_apply_of_pictureAfter
  · intro point hmarks
    rw [Command.marks_iff_reaches hhides.complete]
    exact hreaches point hmarks.1
  · intro point hpoint
    by_cases hcovered : cover.Reaches compositor.surface.bounds point
    · obtain ⟨color, hink⟩ := hhides.ink?_eq hcovered
      simp only [pictureAfter_eq_inked hhides.ne_scroll, hink, Surface.inked, Backdrop.over]
    · have hout : ¬ command.Reaches compositor.surface.bounds point :=
        fun hpoint => hcovered (hreaches point hpoint)
      exact pictureAfter_apply hhides.ne_scroll hpoint hout

end Compositor

/-- Applying a command again gives the same answer and changes nothing, unless it is a scrolling,
and a command is hidden completely by an opaque one whose footprint contains its own on the
surface. -/
theorem drawing_again_or_over (compositor : Compositor) (command : Command) :
    ((∀ lines, command ≠ .scroll lines) →
      (compositor.apply command).2.apply command = compositor.apply command) ∧
    ∀ cover : Command, cover.Hides →
      (∀ point, command.Reaches compositor.surface.bounds point →
        cover.Reaches compositor.surface.bounds point) →
      (compositor.apply command).2.apply cover = compositor.apply cover :=
  ⟨Compositor.apply_again, fun _ => Compositor.apply_cover⟩

/-- A bitmap laid twice over what is there, and a surface scrolled and then filled. -/
theorem drawing_again_or_over_scrolled :
    ∃ surface : Surface,
      let start : Compositor := ⟨surface, Color.black⟩
      let bitmap : Command := .drawBitmap (-1) 0 2 ⟨1, 2, 3⟩ .transparent ⟨2, 1, #[2]⟩
      let scroll : Command := .scroll 1
      let fill : Command := .fillRect ⟨5, 5, 0, -1⟩ ⟨9, 8, 7⟩
      let drawn := start.apply bitmap
      Surface.ofStorage 3 2 (Array.replicate 24 6) = .ok surface ∧
        (∀ lines, bitmap ≠ .scroll lines) ∧
        drawn.1 = true ∧ drawn.2.surface.bytesAt ⟨0, 0⟩ = [1, 2, 3, 255] ∧
        drawn.2.surface.bytesAt ⟨1, 0⟩ = [6, 6, 6, 255] ∧
        drawn.2.apply bitmap = drawn ∧
        fill.Hides ∧
        (∀ point, scroll.Reaches surface.bounds point → fill.Reaches surface.bounds point) ∧
        (start.apply scroll).2.surface.bytesAt ⟨0, 1⟩ ≠ surface.bytesAt ⟨0, 1⟩ ∧
        (start.apply scroll).2.apply fill = start.apply fill := by
  obtain ⟨surface, hsurface⟩ : ∃ surface,
      Surface.ofStorage 3 2 (Array.replicate 24 6) = .ok surface := ⟨_, rfl⟩
  refine ⟨surface, ?_⟩
  intro start bitmap scroll fill drawn
  have hbitmap : ∀ lines, bitmap ≠ .scroll lines := by simp [bitmap]
  have hreaches : ∀ point, scroll.Reaches surface.bounds point →
      fill.Reaches surface.bounds point := by
    have hrect : (Corners.mk 5 5 0 (-1)).rect = ⟨0, -1, 5, 5⟩ := by decide
    have hsize : surface.width = 3 ∧ surface.height = 2 := by
      cases hsurface
      exact ⟨rfl, rfl⟩
    intro point hpoint
    have hinside := Surface.mem_bounds_iff.mp hpoint.1
    rw [Command.reaches_fillRect_iff, and_iff_right hpoint.1, hrect]
    simp only [Rect.Contains]
    omega
  obtain ⟨hagain, -⟩ := drawing_again_or_over start bitmap
  obtain ⟨-, hover⟩ := drawing_again_or_over start scroll
  have hdrawn : drawn.1 = true ∧ drawn.2.surface.bytesAt ⟨0, 0⟩ = [1, 2, 3, 255] ∧
      drawn.2.surface.bytesAt ⟨1, 0⟩ = [6, 6, 6, 255] := by
    cases hsurface
    decide +kernel
  have hscrolled : (start.apply scroll).2.surface.bytesAt ⟨0, 1⟩ ≠ surface.bytesAt ⟨0, 1⟩ := by
    cases hsurface
    decide +kernel
  exact ⟨hsurface, hbitmap, hdrawn.1, hdrawn.2.1, hdrawn.2.2, hagain hbitmap, trivial, hreaches,
    hscrolled, hover fill trivial hreaches⟩

end PanelLink
