/-!
# Link events

The link delivers bytes and reset pulses.  A source hands them out one at a time
in arrival order; it may be idle, and it may fail.
-/

namespace PanelLink

inductive LinkEvent where
  | byte (value : UInt8)
  | reset
deriving DecidableEq, Repr

namespace LinkEvent

def byte? : LinkEvent → Option UInt8
  | .byte value => some value
  | .reset => none

def isReset : LinkEvent → Bool
  | .byte _ => false
  | .reset => true

end LinkEvent

/-- A source of events that fails with errors in `ε`.  It holds finitely many
events: each one handed out leaves fewer of them. -/
class EventSource (σ : Type) (ε : outParam Type) where
  poll : σ → Except ε (Option LinkEvent) × σ
  remaining : σ → Nat
  remaining_poll : ∀ {source next : σ} {event : LinkEvent},
    poll source = (.ok (some event), next) → remaining next < remaining source

structure Batch (σ ε : Type) where
  outcome : Except ε Nat
  buffer : List LinkEvent
  source : σ

namespace EventSource

variable {σ ε : Type} [EventSource σ ε]

def pollInto (source : σ) : List LinkEvent → Batch σ ε
  | [] => ⟨.ok 0, [], source⟩
  | slot :: slots =>
    match poll source with
    | (.ok (some event), next) =>
      let batch := pollInto next slots
      ⟨batch.outcome.map (· + 1), event :: batch.buffer, batch.source⟩
    | (.ok none, next) => ⟨.ok 0, slot :: slots, next⟩
    | (.error failure, next) => ⟨.error failure, slot :: slots, next⟩

end EventSource

end PanelLink
