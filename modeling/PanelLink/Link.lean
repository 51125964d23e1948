import PanelLink.Event
import PanelLink.Raster.Compositor
import PanelLink.Settings.Link
import PanelLink.Wire.Receiver

/-!
# Display link

Bytes go to the receiver, its frames are read as commands and drawn, and the dirty
rectangle goes to a sink: after every frame, or on request.  What a sink refuses
stays dirty and is offered again with the next flush.
-/

namespace PanelLink

structure LinkTally where
  framesApplied : UInt32 := 0
  payloadErrors : UInt32 := 0
  flushes : UInt32 := 0
  flushErrors : UInt32 := 0
deriving DecidableEq, Repr

inductive SetupError where
  | settings (failure : SettingsError)
  | surface (failure : SurfaceError)
deriving DecidableEq, Repr

/-- All that can go wrong with a link, with `ε` for what can go wrong with a source. -/
inductive LinkError (ε : Type) where
  | flush (failure : FlushError)
  | setup (failure : SetupError)
  | source (failure : ε)
deriving DecidableEq, Repr

/-- A link that has no source yet can have trouble with none. -/
def LinkError.widen {ε : Type} : LinkError Empty → LinkError ε
  | .flush failure => .flush failure
  | .setup failure => .setup failure

structure Link (σ : Type) where
  receiver : Receiver
  compositor : Compositor
  sink : σ
  policy : FlushPolicy
  tally : LinkTally := {}

namespace Link

variable {σ : Type}

def create (settings : LinkSettings) (storage : Array UInt8) (sink : σ) :
    Except SetupError (Link σ) :=
  match settings.validate with
  | .error failure => .error (.settings failure)
  | .ok () =>
    match Surface.ofStorage settings.width settings.height storage with
    | .error failure => .error (.surface failure)
    | .ok surface =>
      .ok {
        receiver := Receiver.withLimit settings.frameLimit.toNat
        compositor := Compositor.create surface settings.backgroundColor
        sink
        policy := settings.policy }

def reset (link : Link σ) : Link σ :=
  { link with receiver := link.receiver.reset }

variable [Sink σ]

/-- Offers the dirty rectangle to the sink.  The answer is `false` when nothing was dirty. -/
def flush (link : Link σ) : Except FlushError Bool × Link σ :=
  match link.compositor.surface.dirty with
  | none => (.ok false, link)
  | some dirty =>
    let view := link.compositor.surface.view
    let { receiver, compositor, sink, policy, tally } := link
    match Sink.flush sink view dirty with
    | (.ok (), sink) =>
      let (_, compositor) := compositor.onSurface Surface.takeDirty
      let tally := { tally with flushes := tally.flushes + 1 }
      (.ok true, { receiver, compositor, sink, policy, tally })
    | (.error failure, sink) =>
      let tally := { tally with flushErrors := tally.flushErrors + 1 }
      (.error failure, { receiver, compositor, sink, policy, tally })

def draw (link : Link σ) (command : Command) : Link σ :=
  let { receiver, compositor, sink, policy, tally } := link
  let (_, compositor) := compositor.apply command
  { receiver, compositor, sink, policy
    tally := { tally with framesApplied := tally.framesApplied + 1 } }

/-- Carries out a frame, and flushes if the policy says so.  The answer is the code of the
command, or `none` if the payload is no command. -/
def onFrame (link : Link σ) (frame : Frame) : Except FlushError (Option CommandCode) × Link σ :=
  match Command.ofFrame frame with
  | .error _ =>
    (.ok none, { link with tally.payloadErrors := link.tally.payloadErrors + 1 })
  | .ok command =>
    let drawn := link.draw command
    match drawn.policy with
    | .manual => (.ok (some command.code), drawn)
    | .everyFrame =>
      match drawn.flush with
      | (.ok _, flushed) => (.ok (some command.code), flushed)
      | (.error failure, flushed) => (.error failure, flushed)

def feed (link : Link σ) (byte : UInt8) : Except FlushError (Option CommandCode) × Link σ :=
  let { receiver, compositor, sink, policy, tally } := link
  match receiver.feed byte with
  | (receiver, some frame) => onFrame { receiver, compositor, sink, policy, tally } frame
  | (receiver, none) => (.ok none, { receiver, compositor, sink, policy, tally })

/-- Handles an event.  Only the sink can make that fail. -/
def handle (link : Link σ) : LinkEvent → Except FlushError (Option CommandCode) × Link σ
  | .byte value => link.feed value
  | .reset => (.ok none, link.reset)

/-- The answer to an event, with its failure among all that can go wrong with a link. -/
def attempt (link : Link σ) (event : LinkEvent) :
    Except (LinkError Empty) (Option CommandCode) × Link σ :=
  ((link.handle event).1.mapError .flush, (link.handle event).2)

def applied : Except FlushError (Option CommandCode) → Bool
  | .ok (some _) => true
  | .ok none => false
  | .error _ => true

structure Drained (σ τ ε : Type) where
  outcome : Except ε Nat
  link : Link σ
  source : τ

/-- Handles the events of a source until it is idle or fails.  A refused flush does not end this. -/
def pump {τ ε : Type} [EventSource τ ε] (link : Link σ) (source : τ) (count : Nat := 0) :
    Drained σ τ ε :=
  match _hpoll : EventSource.poll source with
  | (.ok (some event), next) =>
    let (answer, link) := link.handle event
    pump link next (if applied answer then count + 1 else count)
  | (.ok none, next) => ⟨.ok count, link, next⟩
  | (.error failure, next) => ⟨.error failure, link, next⟩
termination_by EventSource.remaining source
decreasing_by exact EventSource.remaining_poll _hpoll

/-- Pumping that gives up when an event fails in any other way than by a refused flush. -/
def pumpGuarded {τ ε : Type} [EventSource τ ε] (link : Link σ) (source : τ) (count : Nat := 0) :
    Drained σ τ (LinkError ε) :=
  match _hpoll : EventSource.poll source with
  | (.ok (some event), next) =>
    match link.attempt event with
    | (.ok (some _), link) => pumpGuarded link next (count + 1)
    | (.error (.flush _), link) => pumpGuarded link next (count + 1)
    | (.ok none, link) => pumpGuarded link next count
    | (.error failure, link) => ⟨.error failure.widen, link, next⟩
  | (.ok none, next) => ⟨.ok count, link, next⟩
  | (.error failure, next) => ⟨.error (.source failure), link, next⟩
termination_by EventSource.remaining source
decreasing_by all_goals exact EventSource.remaining_poll _hpoll

end Link

end PanelLink
