import PanelLink.Proofs.Link.Pumping
import PanelLink.Proofs.Link.Recorder

/-!
# Ledgers

A ledger lists what a link was given, what it answered, and what it offered to its sink.  The
counters of the link and of its receiver are counts over the ledger.
-/

namespace PanelLink

/-! ## What a receiver counts -/

namespace Receiver

/-- A frame that is handed out is counted, and a reset pulse is not seen. -/
structure Counts (receiver : Receiver) (fed : Receiver × Option Frame) : Prop where
  frames_eq : fed.1.tally.frames =
    receiver.tally.frames + UInt32.ofNat fed.2.toList.length
  linkResets_eq : fed.1.tally.linkResets = receiver.tally.linkResets

variable {receiver next : Receiver}

theorem counts_of_none
    (hframes : next.tally.frames = receiver.tally.frames)
    (hresets : next.tally.linkResets = receiver.tally.linkResets) :
    receiver.Counts (next, none) :=
  ⟨hframes.trans (UInt32.add_zero _).symm, hresets⟩

theorem tally_of_keep? {byte : UInt8} (hkeep : receiver.keep? byte = some next) :
    next.tally = receiver.tally := by
  rw [eq_of_keep? hkeep]

theorem tally_keep (receiver : Receiver) (byte : UInt8) :
    (receiver.keep byte).tally = receiver.tally := by
  unfold keep
  cases hkeep : receiver.keep? byte with
  | none => rfl
  | some kept => exact tally_of_keep? hkeep

theorem tally_of_readHeader? (hready : receiver.readHeader? = some next) :
    next.tally = receiver.tally := by
  obtain ⟨declared, rfl⟩ := exists_eq_of_readHeader? hready
  rfl

theorem counts_finish (receiver : Receiver) : receiver.Counts receiver.finish := by
  unfold finish
  split
  next => exact counts_of_none rfl rfl
  next =>
    split
    next => exact ⟨rfl, rfl⟩
    next => exact counts_of_none rfl rfl

theorem counts_collect (receiver : Receiver) (byte : UInt8) :
    receiver.Counts (receiver.collect byte) := by
  unfold collect
  split
  next => exact counts_of_none rfl rfl
  next kept hkeep =>
    have hkept := tally_of_keep? hkeep
    split
    next =>
      have hframes := congrArg Tally.frames hkept
      have hresets := congrArg Tally.linkResets hkept
      exact counts_of_none hframes hresets
    next ready hready =>
      have htally : ready.tally = receiver.tally := (tally_of_readHeader? hready).trans hkept
      split
      next =>
        have hfinish := ready.counts_finish
        constructor
        · rw [hfinish.frames_eq, htally]
        · rw [hfinish.linkResets_eq, htally]
      next =>
        exact counts_of_none (congrArg Tally.frames htally) (congrArg Tally.linkResets htally)

theorem counts_feed (receiver : Receiver) (byte : UInt8) :
    receiver.Counts (receiver.feed byte) := by
  have hkeep := receiver.tally_keep byte
  unfold feed
  split
  next =>
    split
    next => exact counts_of_none (congrArg Tally.frames hkeep) (congrArg Tally.linkResets hkeep)
    next =>
      split
      next => exact counts_of_none rfl rfl
      next => exact counts_of_none rfl rfl
  next =>
    split
    next => exact counts_of_none (congrArg Tally.frames hkeep) (congrArg Tally.linkResets hkeep)
    next => exact counts_of_none rfl rfl
  next => exact receiver.counts_collect byte

theorem frames_run (receiver : Receiver) (events : List LinkEvent) :
    (receiver.run events).1.tally.frames =
      receiver.tally.frames + UInt32.ofNat (receiver.framesOf events).length := by
  induction events generalizing receiver with
  | nil => exact (UInt32.add_zero _).symm
  | cons event events ih =>
      have hevent : (receiver.handle event).1.tally.frames = receiver.tally.frames +
          UInt32.ofNat (receiver.framesOf [event]).length := by
        rw [framesOf_singleton]
        cases event with
        | byte byte => exact (receiver.counts_feed byte).frames_eq
        | reset => exact (UInt32.add_zero _).symm
      rw [run_cons, ih, hevent, receiver.framesOf_cons event events, List.length_append,
        UInt32.ofNat_add, ← UInt32.add_assoc]

theorem linkResets_run (receiver : Receiver) (events : List LinkEvent) :
    (receiver.run events).1.tally.linkResets =
      receiver.tally.linkResets + UInt32.ofNat (events.countP LinkEvent.isReset) := by
  induction events generalizing receiver with
  | nil => exact (UInt32.add_zero _).symm
  | cons event events ih =>
      have hevent : (receiver.handle event).1.tally.linkResets = receiver.tally.linkResets +
          UInt32.ofNat (if event.isReset then 1 else 0) := by
        cases event with
        | byte byte =>
            exact (receiver.counts_feed byte).linkResets_eq.trans (UInt32.add_zero _).symm
        | reset => rfl
      rw [run_cons, ih, hevent, List.countP_cons, Nat.add_comm (events.countP _),
        UInt32.ofNat_add, ← UInt32.add_assoc]

end Receiver

theorem length_commandsIn_add_rejectedIn (frames : List Frame) :
    (commandsIn frames).length + (rejectedIn frames).length = frames.length := by
  induction frames with
  | nil => rfl
  | cons frame frames ih =>
      rw [← List.singleton_append, commandsIn_append, rejectedIn_append]
      cases hcommand : Command.ofFrame frame with
      | error failure =>
          obtain ⟨hnone, hall⟩ := commandsIn_of_error hcommand
          rw [hnone, hall]
          simp only [List.length_append, List.length_nil, List.length_singleton]
          omega
      | ok command =>
          obtain ⟨hsome, hnone⟩ := commandsIn_of_ok hcommand
          rw [hsome, hnone]
          simp only [List.length_append, List.length_nil, List.length_singleton]
          omega

namespace Offer

def isAccepted (offer : Offer) : Bool :=
  offer.answer.isOk

def isRefused (offer : Offer) : Bool :=
  !offer.isAccepted

end Offer

/-! ## What a link counts -/

structure Ledger where
  events : List LinkEvent := []
  answers : List (Except FlushError (Option CommandCode)) := []
  offers : List Offer := []

namespace Link

variable {σ : Type} [Sink σ]

/-- The answer to the event in an action, if there is one. -/
def answersTo (link : Link σ) : Action → List (Except FlushError (Option CommandCode))
  | .event event => [(link.handle event).1]
  | .flush => []

theorem countP_applied_answersTo (link : Link σ) (action : Action) :
    (link.answersTo action).countP applied = (link.drawnBy action).length := by
  cases action with
  | event event => exact link.countP_applied_handle event
  | flush => rfl

theorem counts_offers (link : Link σ) (action : Action) :
    (link.act action).2.tally.flushes = link.tally.flushes +
        UInt32.ofNat ((link.offers action).countP Offer.isAccepted) ∧
      (link.act action).2.tally.flushErrors = link.tally.flushErrors +
        UInt32.ofNat ((link.offers action).countP Offer.isRefused) := by
  rcases link.act_cases action with ⟨hoffers, hact, -⟩ |
    ⟨rect, sink, -, -, -, hoffers, hact⟩ | ⟨rect, failure, sink, -, -, -, hoffers, hact⟩
  · rw [hoffers, hact]
    exact ⟨(UInt32.add_zero _).symm, (UInt32.add_zero _).symm⟩
  · rw [hoffers, hact]
    exact ⟨rfl, (UInt32.add_zero _).symm⟩
  · rw [hoffers, hact]
    exact ⟨(UInt32.add_zero _).symm, rfl⟩

end Link

namespace Ledger

variable {σ : Type} [Sink σ]

/-- The ledger with what the link does in an action at its end. -/
def enter (ledger : Ledger) (link : Link σ) (action : Link.Action) : Ledger where
  events := ledger.events ++ Link.eventsIn [action]
  answers := ledger.answers ++ link.answersTo action
  offers := ledger.offers ++ link.offers action

def enterAll (ledger : Ledger) (link : Link σ) : List LinkEvent → Ledger
  | [] => ledger
  | event :: events =>
    (ledger.enter link (.event event)).enterAll (link.handle event).2 events

end Ledger

namespace Link

variable {σ : Type}

/-- The counters agree with the ledger and with each other, as far as 32 bits count. -/
structure Balanced (link : Link σ) (ledger : Ledger) : Prop where
  frames_eq : link.receiver.tally.frames = link.tally.framesApplied + link.tally.payloadErrors
  framesApplied_eq : link.tally.framesApplied = UInt32.ofNat (ledger.answers.countP applied)
  flushes_eq : link.tally.flushes = UInt32.ofNat (ledger.offers.countP Offer.isAccepted)
  flushErrors_eq : link.tally.flushErrors =
    UInt32.ofNat (ledger.offers.countP Offer.isRefused)
  linkResets_eq : link.receiver.tally.linkResets =
    UInt32.ofNat (ledger.events.countP LinkEvent.isReset)

theorem balanced_of_create
    {settings : LinkSettings} {storage : Array UInt8} {sink : σ} {link : Link σ}
    (hcreate : Link.create settings storage sink = .ok link) : link.Balanced {} := by
  obtain ⟨surface, -, rfl⟩ := of_create hcreate
  exact ⟨rfl, rfl, rfl, rfl, rfl⟩

variable [Sink σ]

/-- The link has come from `start` by events, one at a time or pumped out of a source, and by
flushes on request. -/
inductive Driven (start : Link σ) : Ledger → Link σ → Prop where
  | start : Driven start {} start
  | handle {ledger : Ledger} {link : Link σ} (hdriven : Driven start ledger link)
      (event : LinkEvent) :
      Driven start (ledger.enter link (.event event)) (link.handle event).2
  | pump {τ ε : Type} [EventSource τ ε] {ledger : Ledger} {link : Link σ} {source last : τ}
      {events : List LinkEvent} {outcome : Except ε Unit} (hdriven : Driven start ledger link)
      (hyields : EventSource.Yields source events outcome last) :
      Driven start (ledger.enterAll link events) (link.pump source).link
  | flush {ledger : Ledger} {link : Link σ} (hdriven : Driven start ledger link) :
      Driven start (ledger.enter link .flush) link.flush.2

variable {link : Link σ} {ledger : Ledger}

theorem Balanced.act (hbalanced : link.Balanced ledger) (action : Action) :
    (link.act action).2.Balanced (ledger.enter link action) := by
  obtain ⟨happlied, hrejected⟩ := link.counts_act action
  obtain ⟨hflushes, hflushErrors⟩ := link.counts_offers action
  constructor
  · have hsplit := length_commandsIn_add_rejectedIn (link.receiver.framesOf (eventsIn [action]))
    rw [receiver_act, Receiver.frames_run, happlied, hrejected, hbalanced.frames_eq, ← hsplit,
      UInt32.ofNat_add, drawnBy]
    ac_rfl
  · rw [happlied, hbalanced.framesApplied_eq, ← countP_applied_answersTo, ← UInt32.ofNat_add,
      ← List.countP_append]
    rfl
  · rw [hflushes, hbalanced.flushes_eq, ← UInt32.ofNat_add, ← List.countP_append]
    rfl
  · rw [hflushErrors, hbalanced.flushErrors_eq, ← UInt32.ofNat_add, ← List.countP_append]
    rfl
  · rw [receiver_act, Receiver.linkResets_run, hbalanced.linkResets_eq, ← UInt32.ofNat_add,
      ← List.countP_append]
    rfl

theorem Balanced.run (hbalanced : link.Balanced ledger) (events : List LinkEvent) :
    (link.run events).1.Balanced (ledger.enterAll link events) := by
  induction events generalizing link ledger with
  | nil => exact hbalanced
  | cons event events ih => exact ih (hbalanced.act (.event event))

theorem Driven.balanced
    {start : Link σ} (hstart : start.Balanced {}) (hdriven : start.Driven ledger link) :
    link.Balanced ledger := by
  induction hdriven with
  | start => exact hstart
  | handle _ event ih => exact ih.act (.event event)
  | pump _ hyields ih =>
      rw [pump_eq_run _ 0 hyields]
      exact ih.run _
  | flush _ ih => exact ih.act .flush

theorem Driven.policy_eq {start : Link σ} (hdriven : start.Driven ledger link) :
    link.policy = start.policy := by
  induction hdriven with
  | start => rfl
  | handle _ event ih => rw [policy_handle, ih]
  | pump _ hyields ih => rw [pump_eq_run _ 0 hyields, policy_run, ih]
  | flush _ ih => rw [policy_flush, ih]

theorem exists_onFrame_eq_of_manual (hpolicy : link.policy = .manual) (frame : Frame) :
    ∃ answer, (link.onFrame frame).1 = .ok answer := by
  cases hcommand : Command.ofFrame frame with
  | error failure =>
      rw [onFrame_of_error hcommand]
      exact ⟨none, rfl⟩
  | ok command =>
      rw [onFrame_of_manual hcommand hpolicy]
      exact ⟨some command.code, rfl⟩

theorem exists_handle_eq_of_manual (hpolicy : link.policy = .manual) (event : LinkEvent) :
    ∃ answer, (link.handle event).1 = .ok answer := by
  cases hframe : (link.receiver.handle event).2 with
  | none =>
      rw [handle_of_none hframe]
      exact ⟨none, rfl⟩
  | some frame =>
      have hfed : { link with receiver := (link.receiver.handle event).1 }.policy = .manual :=
        hpolicy
      rw [handle_of_some hframe]
      exact exists_onFrame_eq_of_manual hfed frame

end Link

end PanelLink
