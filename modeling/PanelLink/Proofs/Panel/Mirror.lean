import PanelLink.Panel.Intermittent
import PanelLink.Proofs.Panel.Shadow

/-!
# Mirrored surfaces

A shadow mirrors the surface that it is flushed from if the pixels where the two
differ are dirty.  Drawing keeps this, and so does a flush, whether the sink takes
it or refuses it.
-/

namespace PanelLink

/-- Both have one size, and where they differ the surface is dirty. -/
structure Mirrors (surface : Surface) (shadow : Shadow) : Prop where
  width_eq : shadow.width = surface.width
  height_eq : shadow.height = surface.height
  size_eq : shadow.pixels.size = shadow.width * shadow.height
  inside : surface.DirtyInside
  dirty_of_ne : ∀ x y : Nat,
    shadow.pixel? x y ≠ surface.pixel? ⟨x, y⟩ → surface.Dirty ⟨x, y⟩

namespace Mirrors

variable {surface after : Surface} {shadow : Shadow}

theorem pixel?_eq
    (hmirrors : Mirrors surface shadow) (hclean : surface.dirty = none) (x y : Nat) :
    shadow.pixel? x y = surface.pixel? ⟨x, y⟩ := by
  by_contra hne
  obtain ⟨rect, hdirty, _⟩ := hmirrors.dirty_of_ne x y hne
  rw [hclean] at hdirty
  contradiction

theorem redrawn
    (hmirrors : Mirrors surface shadow) (hredrawn : surface.Redrawn after) :
    Mirrors after shadow where
  width_eq := hmirrors.width_eq.trans hredrawn.width_eq.symm
  height_eq := hmirrors.height_eq.trans hredrawn.height_eq.symm
  size_eq := hmirrors.size_eq
  inside := hredrawn.inside hmirrors.inside
  dirty_of_ne x y hne := by
    by_cases hpoint : surface.bounds.Contains ⟨x, y⟩
    · by_cases hbytes : after.bytesAt ⟨x, y⟩ = surface.bytesAt ⟨x, y⟩
      · rw [Surface.pixel?_congr hredrawn.width_eq hredrawn.height_eq hbytes] at hne
        exact hredrawn.dirty (hmirrors.dirty_of_ne x y hne)
      · exact hredrawn.dirty_of_bytesAt_ne ⟨x, y⟩ hpoint hbytes
    · have hafter : ¬ after.bounds.Contains ⟨x, y⟩ := by
        rw [hredrawn.bounds_eq]
        exact hpoint
      have hsame : after.pixel? ⟨x, y⟩ = surface.pixel? ⟨x, y⟩ := by
        rw [Surface.pixel?, if_neg hafter, Surface.pixel?, if_neg hpoint]
      rw [hsame] at hne
      exact hredrawn.dirty (hmirrors.dirty_of_ne x y hne)

/-- The dirty rectangle can always be flushed, and then nothing needs to be dirty. -/
theorem exists_flush
    (hmirrors : Mirrors surface shadow) {rect : Rect} (hdirty : surface.dirty = some rect) :
    ∃ next, shadow.flush surface.view rect = (.ok (), next) ∧
      Mirrors surface.takeDirty.2 next := by
  obtain ⟨next, hflush, hwidth, hheight, hsize, hpixels⟩ := Shadow.flush_view
    hmirrors.width_eq hmirrors.height_eq hmirrors.size_eq (hmirrors.inside rect hdirty)
  refine ⟨next, hflush, ?_⟩
  constructor
  · exact hwidth.trans hmirrors.width_eq
  · exact hheight.trans hmirrors.height_eq
  · exact hsize
  · intro _ hnone
    contradiction
  · intro x y hne
    exfalso
    apply hne
    rw [hpixels x y]
    split
    next => rfl
    next hout =>
      by_contra hstale
      obtain ⟨other, hother, hcontains⟩ := hmirrors.dirty_of_ne x y hstale
      rw [hdirty, Option.some.injEq] at hother
      subst hother
      exact hout hcontains

theorem of_fill
    {width height : Nat} (surface : Surface) (color : Color)
    (hwidth : width = surface.width) (hheight : height = surface.height)
    (hclean : surface.dirty = none) :
    Mirrors (surface.fill color) (Shadow.blank width height) where
  width_eq := hwidth.trans (Surface.redrawn_fill surface color).width_eq.symm
  height_eq := hheight.trans (Surface.redrawn_fill surface color).height_eq.symm
  size_eq := by
    simp [Shadow.blank]
  inside := by
    apply (Surface.redrawn_fill surface color).inside
    intro rect hdirty
    rw [hclean] at hdirty
    contradiction
  dirty_of_ne x y hne := by
    by_cases hpoint : surface.bounds.Contains ⟨x, y⟩
    · exact Surface.dirty_markDirty_of_contains hpoint hpoint
    · have hblank : (Shadow.blank width height).pixel? x y = none := by
        rw [Surface.mem_bounds_iff] at hpoint
        rw [Shadow.pixel?]
        apply if_neg
        simp only [Shadow.blank] at *
        omega
      have hfill : (surface.fill color).pixel? ⟨x, y⟩ = none := by
        rw [Surface.pixel?]
        apply if_neg
        rw [(Surface.redrawn_fill surface color).bounds_eq]
        exact hpoint
      rw [hblank, hfill] at hne
      contradiction

end Mirrors

/-! ## Sinks with a shadow behind them -/

/-- A sink that either refuses a flush up front or passes it on to a shadow. -/
class ShadowSink (σ : Type) [Sink σ] where
  shadow : σ → Shadow
  refusal? : σ → Option FlushError
  flush_of_refusal? : ∀ {sink : σ} {failure : FlushError} (view : View) (rect : Rect),
    refusal? sink = some failure →
      ∃ next, Sink.flush sink view rect = (.error failure, next) ∧ shadow next = shadow sink
  flush_of_no_refusal : ∀ {sink : σ} (view : View) (rect : Rect),
    refusal? sink = none →
      ∃ next, Sink.flush sink view rect = (((shadow sink).flush view rect).1, next) ∧
        shadow next = ((shadow sink).flush view rect).2

instance : ShadowSink Shadow where
  shadow sink := sink
  refusal? _ := none
  flush_of_refusal? _ _ hrefusal := by contradiction
  flush_of_no_refusal _ _ _ := ⟨_, rfl, rfl⟩

instance {σ : Type} [Sink σ] [ShadowSink σ] : ShadowSink (Intermittent σ) where
  shadow sink := ShadowSink.shadow sink.inner
  refusal? sink := (sink.schedule sink.attempts).or (ShadowSink.refusal? sink.inner)
  flush_of_refusal? {sink failure} view rect hrefusal := by
    cases hschedule : sink.schedule sink.attempts with
    | some refusal =>
        rw [hschedule, Option.some_or, Option.some.injEq] at hrefusal
        subst hrefusal
        refine ⟨{ sink with attempts := sink.attempts + 1 }, ?_, rfl⟩
        change Intermittent.flush sink view rect = _
        simp only [Intermittent.flush, hschedule]
    | none =>
        rw [hschedule, Option.none_or] at hrefusal
        obtain ⟨next, hnext, hshadow⟩ := ShadowSink.flush_of_refusal? view rect hrefusal
        refine ⟨{ sink with inner := next, attempts := sink.attempts + 1 }, ?_, hshadow⟩
        change Intermittent.flush sink view rect = _
        simp only [Intermittent.flush, hschedule, hnext]
  flush_of_no_refusal {sink} view rect hrefusal := by
    rw [Option.or_eq_none_iff] at hrefusal
    obtain ⟨hschedule, hinner⟩ := hrefusal
    obtain ⟨next, hnext, hshadow⟩ := ShadowSink.flush_of_no_refusal view rect hinner
    cases hanswer : ((ShadowSink.shadow sink.inner).flush view rect).1 with
    | ok _ =>
        rw [hanswer] at hnext
        refine ⟨{ sink with
          inner := next
          attempts := sink.attempts + 1
          accepted := rect :: sink.accepted }, ?_, hshadow⟩
        change Intermittent.flush sink view rect = _
        simp only [Intermittent.flush, hschedule, hnext]
    | error failure =>
        rw [hanswer] at hnext
        refine ⟨{ sink with inner := next, attempts := sink.attempts + 1 }, ?_, hshadow⟩
        change Intermittent.flush sink view rect = _
        simp only [Intermittent.flush, hschedule, hnext]

end PanelLink
