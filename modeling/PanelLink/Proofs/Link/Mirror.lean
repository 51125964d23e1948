import PanelLink.Proofs.Link.Run
import PanelLink.Proofs.Panel.Mirror
import PanelLink.Proofs.Raster.Drawing

/-!
# The shadow behind a link

A link that starts with a black shadow mirrors its surface there for good, whatever
is received, drawn, flushed or refused.
-/

namespace PanelLink

namespace Link

variable {σ : Type} [Sink σ] [ShadowSink σ] {link : Link σ}

def Shown (link : Link σ) (x y : Nat) : Prop :=
  (ShadowSink.shadow link.sink).pixel? x y = link.compositor.surface.pixel? ⟨x, y⟩

def Mirrored (link : Link σ) : Prop :=
  Mirrors link.compositor.surface (ShadowSink.shadow link.sink)

theorem Mirrored.shown
    (hmirrored : link.Mirrored) (hclean : link.compositor.surface.dirty = none) (x y : Nat) :
    link.Shown x y :=
  Mirrors.pixel?_eq hmirrored hclean x y

theorem Mirrored.flush (hmirrored : link.Mirrored) :
    link.flush.2.Mirrored ∧
      (∀ answer, link.flush.1 = .ok answer → link.flush.2.compositor.surface.dirty = none) ∧
      (ShadowSink.refusal? link.sink = none → ∃ answer, link.flush.1 = .ok answer) := by
  cases hdirty : link.compositor.surface.dirty with
  | none =>
      rw [flush_of_clean hdirty]
      exact ⟨hmirrored, fun _ _ => hdirty, fun _ => ⟨false, rfl⟩⟩
  | some rect =>
      cases hrefusal : ShadowSink.refusal? link.sink with
      | some failure =>
          obtain ⟨sink, hsink, hshadow⟩ :=
            ShadowSink.flush_of_refusal? link.compositor.surface.view rect hrefusal
          rw [flush_of_refused hdirty hsink]
          refine ⟨?_, ?_, ?_⟩
          · unfold Mirrored
            rw [hshadow]
            exact hmirrored
          · intro _ hanswer
            contradiction
          · intro hnone
            contradiction
      | none =>
          obtain ⟨sink, hsink, hshadow⟩ :=
            ShadowSink.flush_of_no_refusal link.compositor.surface.view rect hrefusal
          obtain ⟨next, hnext, hmirrors⟩ := Mirrors.exists_flush hmirrored hdirty
          rw [hnext] at hsink hshadow
          rw [flush_of_accepted hdirty hsink]
          refine ⟨?_, fun _ _ => rfl, fun _ => ⟨true, rfl⟩⟩
          unfold Mirrored
          rw [hshadow]
          exact hmirrors

theorem Mirrored.draw (hmirrored : link.Mirrored) (command : Command) :
    (link.draw command).Mirrored :=
  Mirrors.redrawn hmirrored (Compositor.redrawn_apply link.compositor command)

theorem Mirrored.onFrame (hmirrored : link.Mirrored) (frame : Frame) :
    (link.onFrame frame).2.Mirrored :=
  onFrame_invariant (fun _ _ h => h) (fun _ command h => h.draw command) (fun _ h => h.flush.1)
    hmirrored frame

theorem Mirrored.handle (hmirrored : link.Mirrored) (event : LinkEvent) :
    (link.handle event).2.Mirrored :=
  handle_invariant (fun _ _ h => h) (fun _ frame h => h.onFrame frame) hmirrored event

theorem Mirrored.run (hmirrored : link.Mirrored) (events : List LinkEvent) :
    (link.run events).1.Mirrored :=
  run_invariant (fun _ event h => h.handle event) hmirrored events

theorem Mirrored.pump
    {τ ε : Type} [EventSource τ ε] (hmirrored : link.Mirrored) (source : τ) (count : Nat) :
    (link.pump source count).link.Mirrored := by
  obtain ⟨events, outcome, last, hyields⟩ := EventSource.exists_yields source
  rw [pump_eq_run link count hyields]
  exact hmirrored.run events

theorem Mirrored.onFrame_of_everyFrame
    (hmirrored : link.Mirrored) {frame : Frame} (hpolicy : link.policy = .everyFrame)
    (hrefusal : ShadowSink.refusal? link.sink = none)
    (happlied : applied (link.onFrame frame).1) :
    (∃ code, (link.onFrame frame).1 = .ok (some code)) ∧
      (link.onFrame frame).2.compositor.surface.dirty = none := by
  cases hcommand : Command.ofFrame frame with
  | error failure =>
      rw [onFrame_of_error hcommand] at happlied
      contradiction
  | ok command =>
      obtain ⟨_, hclean, hanswer⟩ := (hmirrored.draw command).flush
      obtain ⟨answer, hanswer⟩ := hanswer hrefusal
      rw [Link.onFrame_of_everyFrame hcommand hpolicy, hanswer]
      exact ⟨⟨command.code, rfl⟩, hclean answer hanswer⟩

theorem Mirrored.handle_of_everyFrame
    (hmirrored : link.Mirrored) {event : LinkEvent} (hpolicy : link.policy = .everyFrame)
    (hrefusal : ShadowSink.refusal? link.sink = none)
    (happlied : applied (link.handle event).1) :
    (∃ code, (link.handle event).1 = .ok (some code)) ∧
      (link.handle event).2.compositor.surface.dirty = none := by
  cases event with
  | reset => contradiction
  | byte byte =>
      rw [handle_byte] at happlied ⊢
      split at happlied
      next frame _ =>
        have hreceived : { link with receiver := (link.receiver.feed byte).1 }.Mirrored := hmirrored
        exact hreceived.onFrame_of_everyFrame hpolicy hrefusal happlied
      next => contradiction

theorem mirrored_of_create
    {settings : LinkSettings} {storage : Array UInt8} {sink : σ}
    (hshadow : ShadowSink.shadow sink =
      Shadow.blank settings.width.toNat settings.height.toNat)
    (hcreate : Link.create settings storage sink = .ok link) : link.Mirrored := by
  obtain ⟨surface, hsurface, rfl⟩ := of_create hcreate
  obtain ⟨⟨hwidth, hheight⟩, -, hclean⟩ := Surface.of_ofStorage hsurface
  unfold Mirrored
  rw [hshadow]
  exact Mirrors.of_fill _ _ hwidth.symm hheight.symm hclean

/-! ## Shadows that refuse nothing -/

theorem Mirrored.exists_flush_eq {link : Link Shadow} (hmirrored : link.Mirrored) :
    ∃ answer, link.flush.1 = .ok answer :=
  hmirrored.flush.2.2 rfl

theorem Mirrored.exists_onFrame_eq {link : Link Shadow} (hmirrored : link.Mirrored)
    (frame : Frame) : ∃ answer, (link.onFrame frame).1 = .ok answer := by
  cases hcommand : Command.ofFrame frame with
  | error failure =>
      rw [onFrame_of_error hcommand]
      exact ⟨none, rfl⟩
  | ok command =>
      cases hpolicy : link.policy with
      | manual =>
          rw [onFrame_of_manual hcommand hpolicy]
          exact ⟨some command.code, rfl⟩
      | everyFrame =>
          obtain ⟨answer, hflush⟩ := (hmirrored.draw command).exists_flush_eq
          rw [Link.onFrame_of_everyFrame hcommand hpolicy, hflush]
          exact ⟨some command.code, rfl⟩

theorem Mirrored.exists_handle_eq {link : Link Shadow} (hmirrored : link.Mirrored)
    (event : LinkEvent) : ∃ answer, (link.handle event).1 = .ok answer := by
  cases event with
  | reset => exact ⟨none, rfl⟩
  | byte byte =>
      rw [handle_byte]
      split
      next frame _ =>
        have hreceived : { link with receiver := (link.receiver.feed byte).1 }.Mirrored := hmirrored
        exact hreceived.exists_onFrame_eq frame
      next => exact ⟨none, rfl⟩

theorem Mirrored.run_eq_ok {link : Link Shadow} (hmirrored : link.Mirrored)
    (events : List LinkEvent) :
    ∀ answer ∈ (link.run events).2, ∃ code, answer = .ok code := by
  induction events generalizing link with
  | nil => simp
  | cons event events ih =>
      intro answer hmem
      rw [run_cons] at hmem
      rcases List.mem_cons.1 hmem with rfl | hmem
      · exact hmirrored.exists_handle_eq event
      · exact ih (hmirrored.handle event) answer hmem

end Link

/-! ## Reachable links -/

namespace Link

variable {σ : Type} [Sink σ]

/-- One step of a link whose sink is intermittent: it receives, draws or flushes, or the sink
is given another schedule of refusals. -/
inductive Step : Link (Intermittent σ) → Link (Intermittent σ) → Prop where
  | handle {link : Link (Intermittent σ)} (event : LinkEvent) :
      Step link (link.handle event).2
  | onFrame {link : Link (Intermittent σ)} (frame : Frame) :
      Step link (link.onFrame frame).2
  | pump {τ ε : Type} [EventSource τ ε] {link : Link (Intermittent σ)} (source : τ) :
      Step link (link.pump source).link
  | flush {link : Link (Intermittent σ)} :
      Step link link.flush.2
  | draw {link : Link (Intermittent σ)} (drawing : Drawing) :
      Step link { link with compositor := drawing.perform link.compositor }
  | refuse {link : Link (Intermittent σ)} (schedule : Nat → Option FlushError) :
      Step link { link with sink.schedule := schedule }

theorem Mirrored.step
    [ShadowSink σ] {link next : Link (Intermittent σ)} (hmirrored : link.Mirrored)
    (hstep : Step link next) : next.Mirrored := by
  cases hstep with
  | handle event => exact hmirrored.handle event
  | onFrame frame => exact hmirrored.onFrame frame
  | pump source => exact hmirrored.pump source 0
  | flush => exact hmirrored.flush.1
  | draw drawing => exact Mirrors.redrawn hmirrored (drawing.redrawn_perform link.compositor)
  | refuse schedule => exact hmirrored

theorem Mirrored.steps
    [ShadowSink σ] {link next : Link (Intermittent σ)} (hmirrored : link.Mirrored)
    (hsteps : Relation.ReflTransGen Step link next) : next.Mirrored := by
  induction hsteps with
  | refl => exact hmirrored
  | tail _ hstep ih => exact ih.step hstep

theorem Step.policy_eq
    {link next : Link (Intermittent σ)} (hstep : Step link next) : next.policy = link.policy := by
  cases hstep with
  | handle event => exact policy_handle link event
  | onFrame frame => exact policy_onFrame link frame
  | pump source =>
      obtain ⟨events, outcome, last, hyields⟩ := EventSource.exists_yields source
      rw [pump_eq_run link 0 hyields]
      exact policy_run link events
  | flush => exact policy_flush link
  | draw drawing => rfl
  | refuse schedule => rfl

theorem policy_of_steps
    {link next : Link (Intermittent σ)} (hsteps : Relation.ReflTransGen Step link next) :
    next.policy = link.policy := by
  induction hsteps with
  | refl => rfl
  | tail _ hstep ih => exact hstep.policy_eq.trans ih

end Link

/-- Pixels that the shadow does not show are dirty.  So it shows the whole surface when nothing
is dirty, after each flush that does not fail, and after each frame if it is flushed at once. -/
theorem shadow_mirrors_surface
    (settings : LinkSettings) (storage : Array UInt8) (sink : Intermittent Shadow)
    (start link : Link (Intermittent Shadow))
    (hshadow : sink.inner = Shadow.blank settings.width.toNat settings.height.toNat)
    (hcreate : Link.create settings storage sink = .ok start)
    (hsteps : Relation.ReflTransGen Link.Step start link) :
    (∀ x y, ¬ link.Shown x y → link.compositor.surface.Dirty ⟨x, y⟩) ∧
      (link.compositor.surface.dirty = none → ∀ x y, link.Shown x y) ∧
      (∀ answer, link.flush.1 = .ok answer → ∀ x y, link.flush.2.Shown x y) ∧
      (settings.policy = .everyFrame → link.sink.schedule link.sink.attempts = none →
        ∀ event, Link.applied (link.handle event).1 →
          (∃ code, (link.handle event).1 = .ok (some code)) ∧
            ∀ x y, (link.handle event).2.Shown x y) := by
  have hmirrored : link.Mirrored := (Link.mirrored_of_create hshadow hcreate).steps hsteps
  refine ⟨hmirrored.dirty_of_ne, hmirrored.shown, ?_, ?_⟩
  · intro answer hanswer
    obtain ⟨hflushed, hclean, _⟩ := hmirrored.flush
    exact hflushed.shown (hclean answer hanswer)
  · intro hpolicy hschedule event happlied
    have hevery : link.policy = .everyFrame := by
      rw [Link.policy_of_steps hsteps, Link.policy_of_create hcreate, hpolicy]
    have hrefusal : ShadowSink.refusal? link.sink = none := by
      change (link.sink.schedule link.sink.attempts).or none = none
      rw [hschedule]
      rfl
    obtain ⟨hanswer, hclean⟩ := hmirrored.handle_of_everyFrame hevery hrefusal happlied
    exact ⟨hanswer, (hmirrored.handle event).shown hclean⟩

/-- A refused flush is made up for by the next one, which takes what was drawn in between. -/
theorem shadow_mirrors_surface_after_refusal :
    let settings : LinkSettings := { width := 2, height := 2, background := 0xFF0000 }
    let sink : Intermittent Shadow :=
      { inner := Shadow.blank 2 2
        schedule := fun attempt => if attempt = 0 then some .notReady else none }
    ∃ start link : Link (Intermittent Shadow),
      Link.create settings (Array.replicate 16 0) sink = .ok start ∧
        Relation.ReflTransGen Link.Step start link ∧
        start.flush.1 = .error .notReady ∧
        link.flush.1 = .ok true ∧
        ∀ x y, link.flush.2.Shown x y := by
  intro settings sink
  obtain ⟨start, hcreate⟩ : ∃ start, Link.create settings (Array.replicate 16 0) sink =
      .ok start := ⟨_, rfl⟩
  let refused := start.flush.2
  let link := { refused with
    compositor := (Drawing.putPixel ⟨1, 1⟩ ⟨0, 255, 0⟩).perform refused.compositor }
  have hsteps : Relation.ReflTransGen Link.Step start link :=
    (Relation.ReflTransGen.single .flush).tail (.draw _)
  have hrefused : start.flush.1 = .error .notReady := by
    cases hcreate
    rfl
  have hflushed : link.flush.1 = .ok true := by
    cases hcreate
    rfl
  obtain ⟨_, _, hshown, _⟩ :=
    shadow_mirrors_surface settings (Array.replicate 16 0) sink start link rfl hcreate hsteps
  exact ⟨start, link, hcreate, hsteps, hrefused, hflushed, hshown true hflushed⟩

end PanelLink
