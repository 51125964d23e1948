import PanelLink.Event.Queue
import PanelLink.Proofs.Link.Flushes

/-!
# Pumping

Pumping hands a link what its source yields, one event after the other, and counts the
events that drew something.  A refused flush has no part in that count, and neither does the
place where the events are cut into two pumps.
-/

namespace PanelLink

theorem EventQueue.yields {ε : Type} (events : List LinkEvent) (failure : Option ε) :
    EventSource.Yields ({ pending := events, failure } : EventQueue ε) events
      (match failure with
        | none => .ok ()
        | some failure => .error failure)
      { pending := [], failure } := by
  induction events with
  | nil =>
      cases failure with
      | none => exact .idle rfl
      | some failure => exact .failed rfl
  | cons event events ih => exact .event rfl ih

namespace Link

variable {σ : Type} [Sink σ]

/-! ## One event -/

theorem counts_act (link : Link σ) (action : Action) :
    (link.act action).2.tally.framesApplied =
        link.tally.framesApplied + UInt32.ofNat (link.drawnBy action).length ∧
      (link.act action).2.tally.payloadErrors = link.tally.payloadErrors +
        UInt32.ofNat (rejectedIn (link.receiver.framesOf (eventsIn [action]))).length := by
  by_cases hflushes : link.Flushes action
  · rw [act_of_flushes hflushes]
    exact counts_flush (link.received action)
  · rw [act_of_not_flushes hflushes]
    exact ⟨rfl, rfl⟩

theorem countP_applied_onFrame (link : Link σ) (frame : Frame) :
    [(link.onFrame frame).1].countP applied = (commandsIn [frame]).length := by
  cases hcommand : Command.ofFrame frame with
  | error failure =>
      rw [onFrame_of_error hcommand, (commandsIn_of_error hcommand).1]
      rfl
  | ok command =>
      rw [(commandsIn_of_ok hcommand).1]
      cases hpolicy : link.policy with
      | manual =>
          rw [onFrame_of_manual hcommand hpolicy]
          rfl
      | everyFrame =>
          rw [onFrame_of_everyFrame hcommand hpolicy]
          cases (link.draw command).flush.1 with
          | error failure => rfl
          | ok flushed => rfl

/-- An event counts as applied when a command came with it, flushed or not. -/
theorem countP_applied_handle (link : Link σ) (event : LinkEvent) :
    [(link.handle event).1].countP applied = (link.drawnBy (.event event)).length := by
  have hframes : link.receiver.framesOf (eventsIn [.event event]) =
      (link.receiver.handle event).2.toList := link.receiver.framesOf_singleton event
  rw [drawnBy, hframes]
  cases hframe : (link.receiver.handle event).2 with
  | none =>
      rw [handle_of_none hframe]
      rfl
  | some frame =>
      rw [handle_of_some hframe]
      exact countP_applied_onFrame _ frame

/-! ## Many events -/

theorem run_eq_foldl (link : Link σ) (events : List LinkEvent) :
    (link.run events).1 = events.foldl (fun link event => (link.handle event).2) link := by
  induction events generalizing link with
  | nil => rfl
  | cons event events ih =>
      rw [run_cons, List.foldl_cons]
      exact ih _

/-- What a run over some events has counted, when it started at `link`. -/
structure Counted (link : Link σ) (events : List LinkEvent) : Prop where
  applied_eq : (link.run events).2.countP applied =
    (commandsIn (link.receiver.framesOf events)).length
  framesApplied_eq : (link.run events).1.tally.framesApplied = link.tally.framesApplied +
    UInt32.ofNat (commandsIn (link.receiver.framesOf events)).length
  payloadErrors_eq : (link.run events).1.tally.payloadErrors = link.tally.payloadErrors +
    UInt32.ofNat (rejectedIn (link.receiver.framesOf events)).length

theorem counted (link : Link σ) (events : List LinkEvent) : link.Counted events := by
  induction events generalizing link with
  | nil => exact ⟨rfl, (UInt32.add_zero _).symm, (UInt32.add_zero _).symm⟩
  | cons event events ih =>
      let next := (link.handle event).2
      have hrest : next.Counted events := ih next
      obtain ⟨happlied, hrejected⟩ := link.counts_act (.event event)
      have hreceiver : next.receiver = (link.receiver.handle event).1 :=
        link.receiver_act (.event event)
      have hframes : link.receiver.framesOf (event :: events) =
          link.receiver.framesOf [event] ++ next.receiver.framesOf events := by
        rw [Receiver.framesOf_cons, hreceiver]
      constructor
      · rw [run_cons, ← List.singleton_append, List.countP_append, countP_applied_handle,
          hrest.applied_eq, hframes, commandsIn_append, List.length_append]
        rfl
      · rw [run_cons, hrest.framesApplied_eq, hframes, commandsIn_append, List.length_append,
          UInt32.ofNat_add, ← UInt32.add_assoc]
        exact congrArg (· + _) happlied
      · rw [run_cons, hrest.payloadErrors_eq, hframes, rejectedIn_append, List.length_append,
          UInt32.ofNat_add, ← UInt32.add_assoc]
        exact congrArg (· + _) hrejected

/-! ## What ends a pump -/

/-- Of all that can go wrong with a link, an event fails by a refused flush or not at all. -/
theorem attempt_cases (link : Link σ) (event : LinkEvent) :
    (∃ answer, (link.handle event).1 = .ok answer ∧
        link.attempt event = (.ok answer, (link.handle event).2)) ∨
      ∃ refusal, (link.handle event).1 = .error refusal ∧
        link.attempt event = (.error (.flush refusal), (link.handle event).2) := by
  unfold attempt
  cases (link.handle event).1 with
  | error refusal => exact .inr ⟨refusal, rfl, rfl⟩
  | ok answer => exact .inl ⟨answer, rfl, rfl⟩

/-- No event makes a pump give up. -/
theorem pumpGuarded_eq_match
    {τ ε : Type} [EventSource τ ε] (link : Link σ) (source : τ) (count : Nat) :
    link.pumpGuarded source count =
      match EventSource.poll source with
      | (.ok (some event), next) =>
        (link.handle event).2.pumpGuarded next
          (if applied (link.handle event).1 then count + 1 else count)
      | (.ok none, next) => ⟨.ok count, link, next⟩
      | (.error failure, next) => ⟨.error (.source failure), link, next⟩ := by
  rw [pumpGuarded]
  split
  next event next hpoll =>
    rw [hpoll]
    dsimp only
    rcases link.attempt_cases event with
      ⟨(_ | code), hanswer, hattempt⟩ | ⟨refusal, hanswer, hattempt⟩
    · rw [hattempt, hanswer]
      rfl
    · rw [hattempt, hanswer]
      rfl
    · rw [hattempt, hanswer]
      rfl
  next hpoll => rw [hpoll]
  next hpoll => rw [hpoll]

theorem pumpGuarded_eq
    {τ ε : Type} [EventSource τ ε] {source last : τ} {events : List LinkEvent}
    {outcome : Except ε Unit} (link : Link σ) (count : Nat)
    (hyields : EventSource.Yields source events outcome last) :
    link.pumpGuarded source count = {
      outcome := (link.pump source count).outcome.mapError .source
      link := (link.pump source count).link
      source := (link.pump source count).source } := by
  induction hyields generalizing link count with
  | idle hpoll =>
      rw [pumpGuarded_eq_match, pump_eq_match, hpoll]
      rfl
  | failed hpoll =>
      rw [pumpGuarded_eq_match, pump_eq_match, hpoll]
      rfl
  | event hpoll _ ih =>
      rw [pumpGuarded_eq_match, pump_eq_match, hpoll]
      exact ih _ _

end Link

/-- Pumping handles what the source yields until it is idle or fails, and a refused flush does
not end it.  The count is that of the commands among the frames, with those whose flush was
refused and without the frames that are no command, and only the source makes a pump fail.
Where the events are cut into two pumps does not show. -/
theorem pump_drains_source {σ : Type} [Sink σ] (link : Link σ) :
    (∀ {τ ε : Type} [EventSource τ ε] (source last : τ) (events : List LinkEvent)
        (outcome : Except ε Unit),
      EventSource.Yields source events outcome last →
        let frames := link.receiver.framesOf events
        let count := (commandsIn frames).length
        let drained := link.pump source
        drained.outcome = outcome.map (fun _ => count) ∧
          drained.link = events.foldl (fun link event => (link.handle event).2) link ∧
          drained.source = last ∧
          count = (link.run events).2.countP Link.applied ∧
          drained.link.tally.framesApplied =
            link.tally.framesApplied + UInt32.ofNat count ∧
          drained.link.tally.payloadErrors =
            link.tally.payloadErrors + UInt32.ofNat (rejectedIn frames).length) ∧
    (∀ {τ ε : Type} [EventSource τ ε] (source : τ),
      let drained := link.pump source
      link.pumpGuarded source = {
          outcome := drained.outcome.mapError .source
          link := drained.link
          source := drained.source } ∧
        ∀ failure, drained.outcome = .error failure →
          ∃ events, EventSource.Yields source events (.error failure) drained.source) ∧
    ∀ {τ τ' τ'' ε ε' : Type} [EventSource τ ε] [EventSource τ' ε'] [EventSource τ'' ε]
        (whole last : τ) (first last' : τ') (second last'' : τ'') (events more : List LinkEvent)
        (outcome : Except ε Unit),
      EventSource.Yields whole (events ++ more) outcome last →
      EventSource.Yields first events (.ok ()) last' →
      EventSource.Yields second more outcome last'' →
        let before := link.pump first
        let after := before.link.pump second
        after.link = (link.pump whole).link ∧
          ∃ count, before.outcome = .ok count ∧
            (link.pump whole).outcome = after.outcome.map fun later => count + later := by
  refine ⟨?_, ?_, ?_⟩
  · intro τ ε _ source last events outcome hyields frames count drained
    have hcounted := link.counted events
    have hpump : drained = _ := link.pump_eq_run 0 hyields
    rw [hpump]
    refine ⟨?_, link.run_eq_foldl events, rfl, hcounted.applied_eq.symm,
      hcounted.framesApplied_eq, hcounted.payloadErrors_eq⟩
    rw [hcounted.applied_eq, Nat.zero_add]
  · intro τ ε _ source drained
    obtain ⟨events, outcome, last, hyields⟩ := EventSource.exists_yields source
    have hpump : drained = _ := link.pump_eq_run 0 hyields
    refine ⟨link.pumpGuarded_eq 0 hyields, ?_⟩
    intro failure hfailure
    rw [hpump] at hfailure ⊢
    cases outcome with
    | ok _ => contradiction
    | error other =>
        cases hfailure
        exact ⟨events, hyields⟩
  · intro τ τ' τ'' ε ε' _ _ _ whole last first last' second last'' events more outcome
      hwhole hfirst hsecond before after
    have hbefore : before = _ := link.pump_eq_run 0 hfirst
    have hafter : after = _ := before.link.pump_eq_run 0 hsecond
    rw [link.pump_eq_run 0 hwhole, hafter, hbefore, Link.run_append]
    refine ⟨rfl, _, rfl, ?_⟩
    cases outcome with
    | error failure => rfl
    | ok _ =>
        rw [List.countP_append]
        simp only [Except.map, Nat.zero_add]

/-- The first frame is cut by the end of a pump and its flush is refused, the second one is no
command, and the source fails after the third. -/
theorem pump_drains_source_in_parts :
    let settings : LinkSettings := { width := 2, height := 1 }
    let sink : Intermittent Shadow :=
      { inner := Shadow.blank 2 1
        schedule := fun attempt => if attempt = 0 then some .notReady else none }
    let pixel : List LinkEvent :=
      [0xAA, 0xAA, 0xAA, 0x11, 18, 0, 1, 0, 0, 0, 1, 0, 0, 0, 255, 0, 0, 0x56].map LinkEvent.byte
    let empty : List LinkEvent := [0xAA, 0xAA, 0xAA, 0x11, 7, 0, 0xBC].map LinkEvent.byte
    let events := pixel.drop 10 ++ empty ++ pixel
    let whole : EventQueue Unit := { pending := pixel.take 10 ++ events }
    let first : EventQueue Unit := { pending := pixel.take 10 }
    let second : EventQueue Unit := { pending := events }
    let failing : EventQueue Unit := { whole with failure := some () }
    ∃ start : Link (Intermittent Shadow),
      Link.create settings (Array.replicate 8 0) sink = .ok start ∧
        (start.pump whole).outcome = .ok 2 ∧
        (start.pump whole).link.tally =
          { framesApplied := 2, payloadErrors := 1, flushes := 1, flushErrors := 1 } ∧
        (start.pumpGuarded failing).outcome = .error (.source ()) ∧
        (start.pump first).outcome = .ok 0 ∧
        ((start.pump first).link.pump second).outcome = .ok 2 ∧
        ((start.pump first).link.pump second).link = (start.pump whole).link := by
  intro settings sink pixel empty events whole first second failing
  obtain ⟨start, hcreate⟩ : ∃ start, Link.create settings (Array.replicate 8 0) sink =
      .ok start := ⟨_, rfl⟩
  obtain ⟨hdrains, hends, hparts⟩ := pump_drains_source start
  have hwhole := EventQueue.yields (pixel.take 10 ++ events) (none : Option Unit)
  have hfirst := EventQueue.yields (pixel.take 10) (none : Option Unit)
  have hsecond := EventQueue.yields events (none : Option Unit)
  have hfailing := EventQueue.yields (pixel.take 10 ++ events) (some ())
  obtain ⟨houtcome, hlink, -⟩ := hdrains whole _ _ _ hwhole
  obtain ⟨houtcome', -⟩ := hdrains first _ _ _ hfirst
  obtain ⟨hfailed, -⟩ := hdrains failing _ _ _ hfailing
  obtain ⟨hguarded, -⟩ := hends failing
  obtain ⟨hsame, count, hcount, hsum⟩ :=
    hparts whole _ first _ second _ _ _ _ hwhole hfirst hsecond
  have happlied : (start.pump whole).outcome = .ok 2 := by
    rw [houtcome]
    cases hcreate
    decide +kernel
  have hnone : (start.pump first).outcome = .ok 0 := by
    rw [houtcome']
    cases hcreate
    decide +kernel
  refine ⟨start, hcreate, happlied, ?_, ?_, hnone, ?_, hsame⟩
  · rw [hlink]
    cases hcreate
    decide +kernel
  · rw [hguarded, hfailed]
    rfl
  · rw [hnone] at hcount
    cases hcount
    rw [happlied] at hsum
    cases hlater : ((start.pump first).link.pump second).outcome with
    | error failure =>
        rw [hlater] at hsum
        contradiction
    | ok later =>
        rw [hlater, Except.map, Nat.zero_add] at hsum
        exact hsum.symm

end PanelLink
