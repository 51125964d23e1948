import PanelLink.Event

/-!
# Captures

A capture is a record of the bytes seen on the link.  It does not hold the reset
line, so its replay starts with a reset pulse.
-/

namespace PanelLink

/-- A capture under replay.  Its bytes may end in a failure, as when the medium cannot be read further. -/
structure Capture (ε : Type) where
  bytes : List UInt8
  failure : Option ε := none
  resetPending : Bool := true
  delivered : Nat := 0

namespace Capture

variable {ε : Type}

def poll (capture : Capture ε) : Except ε (Option LinkEvent) × Capture ε :=
  if capture.resetPending then
    (.ok (some .reset), { capture with resetPending := false })
  else
    match capture.bytes, capture.failure with
    | byte :: bytes, _ =>
      (.ok (some (.byte byte)), { capture with bytes, delivered := capture.delivered + 1 })
    | [], none => (.ok none, capture)
    | [], some failure => (.error failure, capture)

instance : EventSource (Capture ε) ε where
  poll := poll
  remaining capture := capture.bytes.length + if capture.resetPending then 1 else 0
  remaining_poll := by
    intro capture next event h
    unfold poll at h
    split at h
    · next hreset =>
      cases h
      simp [hreset]
    · next hreset =>
      split at h
      · next byte bytes _ hbytes =>
        cases h
        simp [hbytes, hreset]
      · cases h
      · cases h

end Capture

end PanelLink
