import PanelLink.Event

/-!
# Event queues

A list of events as a source.  After the last one the queue stays idle, or fails
at every further poll if it was given a failure to end with.
-/

namespace PanelLink

structure EventQueue (ε : Type) where
  pending : List LinkEvent
  failure : Option ε := none

namespace EventQueue

variable {ε : Type}

def poll (queue : EventQueue ε) : Except ε (Option LinkEvent) × EventQueue ε :=
  match queue.pending, queue.failure with
  | event :: events, _ => (.ok (some event), { queue with pending := events })
  | [], none => (.ok none, queue)
  | [], some failure => (.error failure, queue)

instance : EventSource (EventQueue ε) ε where
  poll := poll
  remaining queue := queue.pending.length
  remaining_poll := by
    intro queue next event h
    unfold poll at h
    split at h
    · next pending _ hpending =>
      cases h
      simp [hpending]
    · cases h
    · cases h

end EventQueue

end PanelLink
