import Mathlib.Tactic
import PanelLink.Event.Capture
import PanelLink.Link
import PanelLink.Proofs.Settings.Valid

/-!
# Runs of a link

What one frame and one event do to a link, and runs over many of them.  Pumping a
source is a run over the events that it yields until it is idle or fails.
-/

namespace PanelLink

/-- A source hands out some events and then is idle or fails. -/
inductive EventSource.Yields {τ ε : Type} [EventSource τ ε] :
    τ → List LinkEvent → Except ε Unit → τ → Prop where
  | idle {source last : τ} (hpoll : poll source = (.ok none, last)) :
      Yields source [] (.ok ()) last
  | failed {source last : τ} {failure : ε} (hpoll : poll source = (.error failure, last)) :
      Yields source [] (.error failure) last
  | event {source next last : τ} {event : LinkEvent} {events : List LinkEvent}
      {outcome : Except ε Unit} (hpoll : poll source = (.ok (some event), next))
      (hyields : Yields next events outcome last) :
      Yields source (event :: events) outcome last

theorem EventSource.exists_yields {τ ε : Type} [EventSource τ ε] (source : τ) :
    ∃ events outcome last, Yields source events outcome last := by
  generalize hcount : remaining source = count
  induction count using Nat.strong_induction_on generalizing source with
  | _ count ih =>
      subst hcount
      rcases hpoll : poll source with ⟨(failure | - | event), next⟩
      · exact ⟨[], .error failure, next, .failed hpoll⟩
      · exact ⟨[], .ok (), next, .idle hpoll⟩
      · obtain ⟨events, outcome, last, hyields⟩ := ih _ (remaining_poll hpoll) next rfl
        exact ⟨event :: events, outcome, last, .event hpoll hyields⟩

theorem Capture.yields {ε : Type} (bytes : List UInt8) (failure : Option ε) :
    EventSource.Yields ({ bytes, failure } : Capture ε)
      (.reset :: bytes.map LinkEvent.byte)
      (match failure with
        | none => .ok ()
        | some failure => .error failure)
      { bytes := [], failure, resetPending := false, delivered := bytes.length } := by
  have hrest : ∀ delivered : Nat, EventSource.Yields
      ({ bytes, failure, resetPending := false, delivered } : Capture ε)
      (bytes.map LinkEvent.byte)
      (match failure with
        | none => .ok ()
        | some failure => .error failure)
      { bytes := [], failure, resetPending := false, delivered := delivered + bytes.length } := by
    induction bytes with
    | nil =>
        intro delivered
        cases failure with
        | none => exact .idle rfl
        | some failure => exact .failed rfl
    | cons byte bytes ih =>
        intro delivered
        have hrest := ih (delivered + 1)
        rw [show delivered + 1 + bytes.length = delivered + (byte :: bytes).length by
          rw [List.length_cons]; omega] at hrest
        exact .event rfl hrest
  have hstart := hrest 0
  rw [Nat.zero_add] at hstart
  exact .event rfl hstart

namespace Link

theorem of_create
    {σ : Type} {settings : LinkSettings} {storage : Array UInt8} {sink : σ} {link : Link σ}
    (hcreate : Link.create settings storage sink = .ok link) :
    ∃ surface, Surface.ofStorage settings.width settings.height storage = .ok surface ∧
      link = {
        receiver := Receiver.withLimit settings.frameLimit.toNat
        compositor := Compositor.create surface settings.backgroundColor
        sink
        policy := settings.policy } := by
  unfold create at hcreate
  split at hcreate
  next => contradiction
  next =>
    split at hcreate
    next => contradiction
    next surface hsurface =>
      cases hcreate
      exact ⟨surface, hsurface, rfl⟩

theorem policy_of_create
    {σ : Type} {settings : LinkSettings} {storage : Array UInt8} {sink : σ} {link : Link σ}
    (hcreate : Link.create settings storage sink = .ok link) :
    link.policy = settings.policy := by
  obtain ⟨surface, -, rfl⟩ := of_create hcreate
  rfl

theorem frameLimit_of_create
    {σ : Type} {settings : LinkSettings} {storage : Array UInt8} {sink : σ} {link : Link σ}
    (hcreate : Link.create settings storage sink = .ok link) :
    Frame.minLength ≤ settings.frameLimit.toNat ∧
      settings.frameLimit.toNat ≤ Frame.maxLength := by
  cases hvalid : settings.validate with
  | error failure =>
      rw [create, hvalid] at hcreate
      contradiction
  | ok =>
      have hsettings := LinkSettings.validate_eq_ok_iff.mp hvalid
      exact ⟨hsettings.minLength_le, hsettings.le_maxLength⟩

variable {σ : Type} [Sink σ]

/-! ## One event -/

theorem flush_of_clean {link : Link σ} (hdirty : link.compositor.surface.dirty = none) :
    link.flush = (.ok false, link) := by
  rw [flush, hdirty]

theorem flush_of_accepted
    {link : Link σ} {rect : Rect} {sink : σ} (hdirty : link.compositor.surface.dirty = some rect)
    (hsink : Sink.flush link.sink link.compositor.surface.view rect = (.ok (), sink)) :
    link.flush = (.ok true, { link with
      sink
      compositor.surface := link.compositor.surface.takeDirty.2
      tally.flushes := link.tally.flushes + 1 }) := by
  rw [flush, hdirty]
  simp only [hsink]
  rfl

theorem flush_of_refused
    {link : Link σ} {rect : Rect} {sink : σ} {failure : FlushError}
    (hdirty : link.compositor.surface.dirty = some rect)
    (hsink : Sink.flush link.sink link.compositor.surface.view rect = (.error failure, sink)) :
    link.flush = (.error failure, { link with
      sink
      tally.flushErrors := link.tally.flushErrors + 1 }) := by
  rw [flush, hdirty]
  simp only [hsink]

/-- What another sink and another dirty rectangle preserve, every flush preserves. -/
theorem flush_invariant
    {Invariant : Link σ → Prop}
    (hsink : ∀ link sink tally, Invariant link → Invariant { link with sink, tally })
    (hclean : ∀ link, Invariant link →
      Invariant { link with compositor.surface := link.compositor.surface.takeDirty.2 })
    {link : Link σ} (hlink : Invariant link) : Invariant link.flush.2 := by
  cases hdirty : link.compositor.surface.dirty with
  | none =>
      rw [flush_of_clean hdirty]
      exact hlink
  | some rect =>
      rcases hanswer : Sink.flush link.sink link.compositor.surface.view rect with
        ⟨(failure | ⟨⟩), sink⟩
      · rw [flush_of_refused hdirty hanswer]
        exact hsink _ _ _ hlink
      · rw [flush_of_accepted hdirty hanswer]
        exact hsink _ _ _ (hclean _ hlink)

theorem onFrame_of_error
    {link : Link σ} {frame : Frame} {failure : FrameError}
    (hcommand : Command.ofFrame frame = .error failure) :
    link.onFrame frame =
      (.ok none, { link with tally.payloadErrors := link.tally.payloadErrors + 1 }) := by
  rw [onFrame, hcommand]

theorem onFrame_of_manual
    {link : Link σ} {frame : Frame} {command : Command}
    (hcommand : Command.ofFrame frame = .ok command) (hpolicy : link.policy = .manual) :
    link.onFrame frame = (.ok (some command.code), link.draw command) := by
  have hdrawn : (link.draw command).policy = .manual := hpolicy
  rw [onFrame, hcommand]
  simp only [hdrawn]

theorem onFrame_of_everyFrame
    {link : Link σ} {frame : Frame} {command : Command}
    (hcommand : Command.ofFrame frame = .ok command) (hpolicy : link.policy = .everyFrame) :
    link.onFrame frame =
      ((link.draw command).flush.1.map fun _ => some command.code,
        (link.draw command).flush.2) := by
  have hdrawn : (link.draw command).policy = .everyFrame := hpolicy
  rw [onFrame, hcommand]
  simp only [hdrawn]
  rcases (link.draw command).flush with ⟨(failure | answer), next⟩
  · rfl
  · rfl

theorem handle_byte (link : Link σ) (byte : UInt8) :
    link.handle (.byte byte) =
      match (link.receiver.feed byte).2 with
      | some frame => { link with receiver := (link.receiver.feed byte).1 }.onFrame frame
      | none => (.ok none, { link with receiver := (link.receiver.feed byte).1 }) := by
  rw [handle, feed]
  rcases link.receiver.feed byte with ⟨receiver, (- | frame)⟩
  · rfl
  · rfl

theorem onFrame_invariant
    {Invariant : Link σ → Prop}
    (htally : ∀ link tally, Invariant link → Invariant { link with tally })
    (hdraw : ∀ link command, Invariant link → Invariant (link.draw command))
    (hflush : ∀ link, Invariant link → Invariant link.flush.2)
    {link : Link σ} (hlink : Invariant link) (frame : Frame) :
    Invariant (link.onFrame frame).2 := by
  cases hcommand : Command.ofFrame frame with
  | error failure =>
      rw [onFrame_of_error hcommand]
      exact htally _ _ hlink
  | ok command =>
      cases hpolicy : link.policy with
      | manual =>
          rw [onFrame_of_manual hcommand hpolicy]
          exact hdraw _ _ hlink
      | everyFrame =>
          rw [onFrame_of_everyFrame hcommand hpolicy]
          exact hflush _ (hdraw _ _ hlink)

/-- What both a new receiver and a frame preserve, every event preserves. -/
theorem handle_invariant
    {Invariant : Link σ → Prop}
    (hreceiver : ∀ link receiver, Invariant link → Invariant { link with receiver })
    (hframe : ∀ link frame, Invariant link → Invariant (link.onFrame frame).2)
    {link : Link σ} (hlink : Invariant link) (event : LinkEvent) :
    Invariant (link.handle event).2 := by
  cases event with
  | byte byte =>
      rw [handle_byte]
      split
      next frame _ => exact hframe _ frame (hreceiver link _ hlink)
      next => exact hreceiver link _ hlink
  | reset => exact hreceiver link _ hlink

@[simp] theorem policy_flush (link : Link σ) : link.flush.2.policy = link.policy :=
  flush_invariant (fun other _ _ (h : other.policy = link.policy) => h) (fun _ h => h) rfl

@[simp] theorem policy_onFrame (link : Link σ) (frame : Frame) :
    (link.onFrame frame).2.policy = link.policy :=
  onFrame_invariant (fun _ _ h => h) (fun _ _ h => h)
    (fun other h => (policy_flush other).trans h) rfl frame

@[simp] theorem policy_handle (link : Link σ) (event : LinkEvent) :
    (link.handle event).2.policy = link.policy :=
  handle_invariant (fun _ _ h => h) (fun other frame h => (policy_onFrame other frame).trans h)
    rfl event

/-! ## Refused flushes -/

theorem flushErrors_flush
    {link : Link σ} {answer : Bool} (hflush : link.flush.1 = .ok answer) :
    link.flush.2.tally.flushErrors = link.tally.flushErrors := by
  cases hdirty : link.compositor.surface.dirty with
  | none => rw [flush_of_clean hdirty]
  | some rect =>
      rcases hanswer : Sink.flush link.sink link.compositor.surface.view rect with
        ⟨(failure | ⟨⟩), sink⟩
      · rw [flush_of_refused hdirty hanswer] at hflush
        contradiction
      · rw [flush_of_accepted hdirty hanswer]

theorem flushErrors_onFrame
    {link : Link σ} {frame : Frame} {answer : Option CommandCode}
    (hframe : (link.onFrame frame).1 = .ok answer) :
    (link.onFrame frame).2.tally.flushErrors = link.tally.flushErrors := by
  cases hcommand : Command.ofFrame frame with
  | error failure => rw [onFrame_of_error hcommand]
  | ok command =>
      cases hpolicy : link.policy with
      | manual =>
          rw [onFrame_of_manual hcommand hpolicy]
          rfl
      | everyFrame =>
          rw [onFrame_of_everyFrame hcommand hpolicy] at hframe ⊢
          cases hflush : (link.draw command).flush.1 with
          | error failure =>
              rw [hflush] at hframe
              contradiction
          | ok flushed => exact flushErrors_flush hflush

theorem flushErrors_handle
    {link : Link σ} {event : LinkEvent} {answer : Option CommandCode}
    (hhandle : (link.handle event).1 = .ok answer) :
    (link.handle event).2.tally.flushErrors = link.tally.flushErrors := by
  cases event with
  | reset => rfl
  | byte byte =>
      rw [handle_byte] at hhandle ⊢
      split at hhandle
      next => exact flushErrors_onFrame hhandle
      next => rfl

/-! ## Many events -/

def run (link : Link σ) :
    List LinkEvent → Link σ × List (Except FlushError (Option CommandCode))
  | [] => (link, [])
  | event :: events =>
    let (answer, next) := link.handle event
    let (last, answers) := next.run events
    (last, answer :: answers)

@[simp] theorem run_nil (link : Link σ) : link.run [] = (link, []) := rfl

theorem run_cons (link : Link σ) (event : LinkEvent) (events : List LinkEvent) :
    link.run (event :: events) =
      (((link.handle event).2.run events).1,
        (link.handle event).1 :: ((link.handle event).2.run events).2) := rfl

theorem run_append (link : Link σ) (events more : List LinkEvent) :
    link.run (events ++ more) =
      (((link.run events).1.run more).1,
        (link.run events).2 ++ ((link.run events).1.run more).2) := by
  induction events generalizing link with
  | nil => rfl
  | cons event events ih =>
      rw [List.cons_append, run_cons, ih, run_cons]
      rfl

theorem run_invariant
    {Invariant : Link σ → Prop}
    (hhandle : ∀ link event, Invariant link → Invariant (link.handle event).2)
    {link : Link σ} (hlink : Invariant link) (events : List LinkEvent) :
    Invariant (link.run events).1 := by
  induction events generalizing link with
  | nil => exact hlink
  | cons event events ih => exact ih (hhandle link event hlink)

@[simp] theorem policy_run (link : Link σ) (events : List LinkEvent) :
    (link.run events).1.policy = link.policy :=
  run_invariant (fun other event h => (policy_handle other event).trans h) rfl events

theorem flushErrors_run
    {link : Link σ} {events : List LinkEvent}
    (hrun : ∀ answer ∈ (link.run events).2, ∃ code, answer = .ok code) :
    (link.run events).1.tally.flushErrors = link.tally.flushErrors := by
  induction events generalizing link with
  | nil => rfl
  | cons event events ih =>
      rw [run_cons] at hrun ⊢
      obtain ⟨code, hhandle⟩ := hrun _ (List.mem_cons_self ..)
      rw [ih fun answer hmem => hrun answer (List.mem_cons_of_mem _ hmem)]
      exact flushErrors_handle hhandle

theorem pump_eq_match
    {τ ε : Type} [EventSource τ ε] (link : Link σ) (source : τ) (count : Nat) :
    link.pump source count =
      match EventSource.poll source with
      | (.ok (some event), next) =>
        (link.handle event).2.pump next
          (if applied (link.handle event).1 then count + 1 else count)
      | (.ok none, next) => ⟨.ok count, link, next⟩
      | (.error failure, next) => ⟨.error failure, link, next⟩ := by
  rw [pump]
  split
  next hpoll => rw [hpoll]
  next hpoll => rw [hpoll]
  next hpoll => rw [hpoll]

/-- Draining a source is handling what it yields. -/
theorem pump_eq_run
    {τ ε : Type} [EventSource τ ε] {source last : τ} {events : List LinkEvent}
    {outcome : Except ε Unit} (link : Link σ) (count : Nat)
    (hyields : EventSource.Yields source events outcome last) :
    link.pump source count = {
      outcome := outcome.map fun () => count + (link.run events).2.countP applied
      link := (link.run events).1
      source := last } := by
  induction hyields generalizing link count with
  | idle hpoll =>
      rw [pump_eq_match, hpoll]
      rfl
  | failed hpoll =>
      rw [pump_eq_match, hpoll]
      rfl
  | @event _ _ _ event events outcome hpoll hyields ih =>
      rw [pump_eq_match, hpoll]
      dsimp only
      rw [ih, run_cons, List.countP_cons]
      congr 1
      cases outcome with
      | error failure => rfl
      | ok _ =>
          simp only [Except.map, Except.ok.injEq]
          split <;> omega

end Link

end PanelLink
