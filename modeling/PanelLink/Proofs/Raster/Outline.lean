import PanelLink.Proofs.Raster.Alike
import PanelLink.Proofs.Raster.Growth

/-!
# Outlines

A surface outlines a region if its dirty rectangle is the smallest one around it, and nothing
is dirty if the region is empty.  A command adds to the region what its footprint has on the
surface.
-/

namespace PanelLink

namespace Surface

def Outlines (surface : Surface) (region : Point → Prop) : Prop :=
  match surface.dirty with
  | none => ∀ point, ¬ region point
  | some rect => (∃ point, region point) ∧ rect.IsHull region

variable {surface : Surface} {region : Point → Prop}

theorem Outlines.of_none (houtlines : surface.Outlines region) (hdirty : surface.dirty = none) :
    ∀ point, ¬ region point := by
  rw [Outlines, hdirty] at houtlines
  exact houtlines

theorem Outlines.of_some
    (houtlines : surface.Outlines region) {rect : Rect} (hdirty : surface.dirty = some rect) :
    (∃ point, region point) ∧ rect.IsHull region := by
  rw [Outlines, hdirty] at houtlines
  exact houtlines

theorem Outlines.congr
    (houtlines : surface.Outlines region) {after : Surface} {other : Point → Prop}
    (hdirty : after.dirty = surface.dirty) (hiff : ∀ point, region point ↔ other point) :
    after.Outlines other := by
  have hregion : other = region := funext fun point => propext (hiff point).symm
  rw [Outlines, hdirty, hregion]
  exact houtlines

theorem isHull_of_clip?
    {rect area : Rect} (hrect : rect.Ordered) (hclip : surface.clip? rect = some area) :
    (∃ point, surface.bounds.Contains point ∧ rect.Contains point) ∧
      area.IsHull fun point => surface.bounds.Contains point ∧ rect.Contains point := by
  have harea : area.Ordered := hrect.of_clip? hclip
  have hmem : ∀ point, area.Contains point ↔
      surface.bounds.Contains point ∧ rect.Contains point := by
    intro point
    rw [(clip?_eq_some hclip).2 point, and_comm]
  exact ⟨⟨_, (hmem _).1 harea.contains_min⟩, harea.isHull.congr hmem⟩

theorem Outlines.markDirty
    (houtlines : surface.Outlines region) {rect : Rect} (hrect : rect.Ordered) :
    (surface.markDirty rect).Outlines fun point =>
      region point ∨ surface.bounds.Contains point ∧ rect.Contains point := by
  cases hclip : surface.clip? rect with
  | none =>
      rw [markDirty_of_clip?_eq_none hclip]
      apply houtlines.congr rfl
      intro point
      constructor
      · exact .inl
      · rintro (hpoint | ⟨hbounds, hcontains⟩)
        · exact hpoint
        · have hvisible := mem_bounds_iff.1 hbounds
          exact absurd hcontains (Rect.not_contains_of_clip? hclip hvisible)
  | some area =>
      obtain ⟨⟨point, hpoint⟩, hhull⟩ := isHull_of_clip? hrect hclip
      rw [Outlines, dirty_markDirty_of_clip?_eq_some hclip]
      refine ⟨⟨point, .inr hpoint⟩, ?_⟩
      cases hold : surface.dirty with
      | none =>
          have hempty := houtlines.of_none hold
          apply hhull.congr
          intro point
          rw [or_iff_right (hempty point)]
      | some old => exact (houtlines.of_some hold).2.union hhull

theorem outlines_fill (hclean : surface.dirty = none) (color : Color) :
    (surface.fill color).Outlines surface.bounds.Contains := by
  have hfilled : (surface.fillRows 0 surface.height color).Outlines fun _ => False := by
    rw [Outlines, fillRows, paintRect, dirty_paint, hclean]
    exact fun _ => id
  apply (hfilled.markDirty surface.ordered_bounds).congr rfl
  intro point
  rw [false_or]
  exact and_self_iff

end Surface

namespace Compositor

variable {compositor : Compositor} {region : Point → Prop}

theorem outlines_apply
    {command : Command} (hcomplete : command.Complete)
    (houtlines : compositor.surface.Outlines region) :
    (compositor.apply command).2.surface.Outlines fun point =>
      region point ∨ command.Reaches compositor.surface.bounds point := by
  have hdirty := compositor.dirty_apply hcomplete
  cases hbox : command.footprint? compositor.surface.bounds with
  | none =>
      rw [hbox] at hdirty
      apply houtlines.congr hdirty
      intro point
      rw [or_iff_left (Command.not_reaches hbox point)]
  | some box =>
      rw [hbox] at hdirty
      apply (houtlines.markDirty (Command.ordered_footprint? hbox)).congr hdirty
      intro point
      rw [Command.reaches_iff hbox]

theorem redrawn_applyAll (compositor : Compositor) (commands : List Command) :
    compositor.surface.Redrawn (compositor.applyAll commands).surface := by
  induction commands generalizing compositor with
  | nil => exact .refl _
  | cons command commands ih => exact (redrawn_apply compositor command).trans (ih _)

end Compositor

end PanelLink
