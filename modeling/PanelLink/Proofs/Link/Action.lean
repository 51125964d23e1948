import PanelLink.Proofs.Link.Run
import PanelLink.Proofs.Raster.Alike
import PanelLink.Proofs.Wire.Reception

/-!
# Actions

What the owner of a link does with it: it hands over events, and flushes where it likes.
Each action first receives and draws, which the sink has no part in, and then possibly
flushes.
-/

namespace PanelLink

/-- The commands in some frames; a frame whose payload is no command is skipped. -/
def commandsIn (frames : List Frame) : List Command :=
  frames.filterMap fun frame => (Command.ofFrame frame).toOption

/-- The frames whose payload is no command. -/
def rejectedIn (frames : List Frame) : List Frame :=
  frames.filter fun frame => (Command.ofFrame frame).toOption.isNone

theorem commandsIn_append (frames more : List Frame) :
    commandsIn (frames ++ more) = commandsIn frames ++ commandsIn more :=
  List.filterMap_append

theorem rejectedIn_append (frames more : List Frame) :
    rejectedIn (frames ++ more) = rejectedIn frames ++ rejectedIn more :=
  List.filter_append _ _

theorem commandsIn_of_error
    {frame : Frame} {failure : FrameError} (hcommand : Command.ofFrame frame = .error failure) :
    commandsIn [frame] = [] ∧ rejectedIn [frame] = [frame] := by
  simp [commandsIn, rejectedIn, hcommand, Except.toOption]

theorem commandsIn_of_ok
    {frame : Frame} {command : Command} (hcommand : Command.ofFrame frame = .ok command) :
    commandsIn [frame] = [command] ∧ rejectedIn [frame] = [] := by
  simp [commandsIn, rejectedIn, hcommand, Except.toOption]

namespace Receiver

def framesOf (receiver : Receiver) (events : List LinkEvent) : List Frame :=
  (receiver.run events).2.filterMap id

theorem framesOf_append (receiver : Receiver) (events more : List LinkEvent) :
    receiver.framesOf (events ++ more) =
      receiver.framesOf events ++ (receiver.run events).1.framesOf more := by
  rw [framesOf, run_append, List.filterMap_append]
  rfl

theorem framesOf_cons (receiver : Receiver) (event : LinkEvent) (events : List LinkEvent) :
    receiver.framesOf (event :: events) =
      receiver.framesOf [event] ++ (receiver.handle event).1.framesOf events :=
  receiver.framesOf_append [event] events

theorem framesOf_singleton (receiver : Receiver) (event : LinkEvent) :
    receiver.framesOf [event] = (receiver.handle event).2.toList := by
  rw [framesOf, run_cons, run_nil]
  cases (receiver.handle event).2 with
  | none => rfl
  | some frame => rfl

end Receiver

namespace Link

inductive Action where
  | event (event : LinkEvent)
  | flush

def eventsIn (actions : List Action) : List LinkEvent :=
  actions.filterMap fun
    | .event event => some event
    | .flush => none

theorem eventsIn_cons (action : Action) (actions : List Action) :
    eventsIn (action :: actions) = eventsIn [action] ++ eventsIn actions := by
  cases action with
  | event event => rfl
  | flush => rfl

variable {σ : Type}

/-- The link with another receiver, after it has drawn what is in some frames. -/
def drawAll (link : Link σ) (receiver : Receiver) (frames : List Frame) : Link σ :=
  { link with
    receiver
    compositor := link.compositor.applyAll (commandsIn frames)
    tally.framesApplied := link.tally.framesApplied + UInt32.ofNat (commandsIn frames).length
    tally.payloadErrors := link.tally.payloadErrors + UInt32.ofNat (rejectedIn frames).length }

theorem drawAll_nil (link : Link σ) (receiver : Receiver) :
    link.drawAll receiver [] = { link with receiver } := by
  simp [drawAll, commandsIn, rejectedIn, Compositor.applyAll]

theorem drawAll_of_error
    {frame : Frame} {failure : FrameError} (hcommand : Command.ofFrame frame = .error failure)
    (link : Link σ) (receiver : Receiver) :
    link.drawAll receiver [frame] =
      { link with receiver, tally.payloadErrors := link.tally.payloadErrors + 1 } := by
  obtain ⟨hnone, hall⟩ := commandsIn_of_error hcommand
  simp [drawAll, hnone, hall, Compositor.applyAll]

theorem drawAll_of_ok
    {frame : Frame} {command : Command} (hcommand : Command.ofFrame frame = .ok command)
    (link : Link σ) (receiver : Receiver) :
    link.drawAll receiver [frame] = { link with receiver }.draw command := by
  obtain ⟨hsome, hnone⟩ := commandsIn_of_ok hcommand
  simp [drawAll, draw, hsome, hnone, Compositor.applyAll]

def drawnBy (link : Link σ) (action : Action) : List Command :=
  commandsIn (link.receiver.framesOf (eventsIn [action]))

/-- The link when it has received and drawn what an action brings, and not yet flushed. -/
def received (link : Link σ) (action : Action) : Link σ :=
  link.drawAll (link.receiver.run (eventsIn [action])).1
    (link.receiver.framesOf (eventsIn [action]))

theorem received_flush (link : Link σ) : link.received .flush = link :=
  link.drawAll_nil link.receiver

/-- The action makes the link flush. -/
def Flushes (link : Link σ) (action : Action) : Prop :=
  action = .flush ∨ link.policy = .everyFrame ∧ link.drawnBy action ≠ []

/-- An answer of which only the failure is kept. -/
def briefly {α : Type} (answered : Except FlushError α × Link σ) :
    Except FlushError Unit × Link σ :=
  (answered.1.map fun _ => (), answered.2)

theorem briefly_map
    {α β : Type} (answer : Except FlushError α) (value : α → β) (link : Link σ) :
    briefly (answer.map value, link) = briefly (answer, link) := by
  cases answer with
  | error failure => rfl
  | ok _ => rfl

variable [Sink σ]

def act (link : Link σ) : Action → Except FlushError Unit × Link σ
  | .event event => briefly (link.handle event)
  | .flush => briefly link.flush

def actAll (link : Link σ) (actions : List Action) : Link σ :=
  actions.foldl (fun link action => (link.act action).2) link

theorem handle_of_none
    {link : Link σ} {event : LinkEvent} (hframe : (link.receiver.handle event).2 = none) :
    link.handle event = (.ok none, { link with receiver := (link.receiver.handle event).1 }) := by
  cases event with
  | reset => rfl
  | byte byte =>
      rw [Receiver.handle] at hframe
      rw [handle_byte, hframe]
      rfl

theorem handle_of_some
    {link : Link σ} {event : LinkEvent} {frame : Frame}
    (hframe : (link.receiver.handle event).2 = some frame) :
    link.handle event = { link with receiver := (link.receiver.handle event).1 }.onFrame frame := by
  cases event with
  | reset => contradiction
  | byte byte =>
      rw [Receiver.handle] at hframe
      rw [handle_byte, hframe]
      rfl

theorem briefly_onFrame_of_flushes
    {link : Link σ} {frame : Frame} (hpolicy : link.policy = .everyFrame)
    (hdrawn : commandsIn [frame] ≠ []) :
    briefly (link.onFrame frame) = briefly (link.drawAll link.receiver [frame]).flush := by
  cases hcommand : Command.ofFrame frame with
  | error failure => exact absurd (commandsIn_of_error hcommand).1 hdrawn
  | ok command =>
      rw [onFrame_of_everyFrame hcommand hpolicy, drawAll_of_ok hcommand]
      exact briefly_map _ _ _

theorem briefly_onFrame_of_not_flushes
    {link : Link σ} {frame : Frame}
    (hflushes : ¬ (link.policy = .everyFrame ∧ commandsIn [frame] ≠ [])) :
    briefly (link.onFrame frame) = (.ok (), link.drawAll link.receiver [frame]) := by
  cases hcommand : Command.ofFrame frame with
  | error failure =>
      rw [onFrame_of_error hcommand, drawAll_of_error hcommand]
      rfl
  | ok command =>
      have hdrawn : commandsIn [frame] ≠ [] := by
        rw [(commandsIn_of_ok hcommand).1]
        exact List.cons_ne_nil _ _
      cases hpolicy : link.policy with
      | manual =>
          rw [onFrame_of_manual hcommand hpolicy, drawAll_of_ok hcommand]
          rfl
      | everyFrame => exact absurd ⟨hpolicy, hdrawn⟩ hflushes

/-! ## What an action does -/

theorem act_of_flushes
    {link : Link σ} {action : Action} (hflushes : link.Flushes action) :
    link.act action = briefly (link.received action).flush := by
  cases action with
  | flush =>
      rw [received_flush]
      rfl
  | event event =>
      have hframes : link.receiver.framesOf (eventsIn [.event event]) =
          (link.receiver.handle event).2.toList := link.receiver.framesOf_singleton event
      obtain ⟨hpolicy, hdrawn⟩ := hflushes.resolve_left nofun
      rw [drawnBy, hframes] at hdrawn
      rw [act, received, hframes]
      cases hframe : (link.receiver.handle event).2 with
      | none =>
          rw [hframe] at hdrawn
          exact absurd rfl hdrawn
      | some frame =>
          rw [hframe] at hdrawn
          rw [handle_of_some hframe]
          exact briefly_onFrame_of_flushes hpolicy hdrawn

theorem act_of_not_flushes
    {link : Link σ} {action : Action} (hflushes : ¬ link.Flushes action) :
    link.act action = (.ok (), link.received action) := by
  cases action with
  | flush => exact absurd (.inl rfl) hflushes
  | event event =>
      have hframes : link.receiver.framesOf (eventsIn [.event event]) =
          (link.receiver.handle event).2.toList := link.receiver.framesOf_singleton event
      have hdrawn := (not_or.1 hflushes).2
      rw [drawnBy, hframes] at hdrawn
      rw [act, received, hframes]
      cases hframe : (link.receiver.handle event).2 with
      | none =>
          rw [handle_of_none hframe, Option.toList_none, drawAll_nil]
          rfl
      | some frame =>
          rw [hframe] at hdrawn
          rw [handle_of_some hframe]
          exact briefly_onFrame_of_not_flushes hdrawn

/-- What holds when an action's events have been received and drawn, and is kept by every flush,
holds after the action. -/
theorem act_invariant
    {Invariant : Link σ → Prop} (hflush : ∀ link, Invariant link → Invariant link.flush.2)
    {link : Link σ} {action : Action} (hreceived : Invariant (link.received action)) :
    Invariant (link.act action).2 := by
  by_cases hflushes : link.Flushes action
  · rw [act_of_flushes hflushes]
    exact hflush _ hreceived
  · rw [act_of_not_flushes hflushes]
    exact hreceived

end Link

end PanelLink
