import PanelLink.Proofs.Wire.Reception

/-!
# Sessions

A session is a reset pulse and then bytes.  Its frames are those that a new receiver
finds in the bytes, whatever came before the pulse.
-/

namespace PanelLink

def session (bytes : List UInt8) : List LinkEvent :=
  .reset :: bytes.map LinkEvent.byte

namespace Receiver

def framesIn (limit : Nat) (bytes : List UInt8) : List Frame :=
  ((withLimit limit).run (bytes.map LinkEvent.byte)).2.filterMap id

theorem answers_eq_of_holding_nil
    {limit : Nat} (hmin : Frame.minLength ≤ limit) (hmax : limit ≤ Frame.maxLength)
    (tally other : Tally) (bytes : List UInt8) :
    ((holding limit tally []).run (bytes.map LinkEvent.byte)).2 =
      ((holding limit other []).run (bytes.map LinkEvent.byte)).2 := by
  obtain ⟨⟨tokens, tail⟩, hsplits, _⟩ := existsUnique_splits hmin hmax bytes
  rw [run_of_splits hmax tally hsplits, run_of_splits hmax other hsplits]

theorem frames_session (limit : Nat) (history : List LinkEvent) (bytes : List UInt8) :
    (((withLimit limit).run history).1.run (session bytes)).2.filterMap id =
      framesIn limit bytes := by
  obtain ⟨tail, tally, _, hrun⟩ := exists_run_eq_holding limit history
  have hmin := minLength_le_limit limit
  have hmax := limit_le_maxLength limit
  have hstart : withLimit limit = holding (withLimit limit).limit {} [] := by
    rw [← withLimit_eq_holding hmin hmax, withLimit_withLimit_limit]
  have hframes : framesIn limit bytes =
      ((holding (withLimit limit).limit {} []).run (bytes.map LinkEvent.byte)).2.filterMap id := by
    rw [framesIn, ← hstart]
  rw [hrun, session, run_cons, handle, reset_holding, List.filterMap_cons, hframes,
    answers_eq_of_holding_nil hmin hmax _ {}]
  rfl

/-- What is left unfinished at the end of a session has no influence on the next one. -/
theorem frames_sessions
    (limit : Nat) (history : List LinkEvent) (captures : List (List UInt8)) :
    (((withLimit limit).run history).1.run (captures.flatMap session)).2.filterMap id =
      captures.flatMap (framesIn limit) := by
  induction captures generalizing history with
  | nil => rfl
  | cons bytes captures ih =>
      have hnext : (((withLimit limit).run history).1.run (session bytes)).1 =
          ((withLimit limit).run (history ++ session bytes)).1 := by
        rw [run_append]
      rw [List.flatMap_cons, run_append, List.filterMap_append, frames_session, hnext, ih,
        List.flatMap_cons]

end Receiver

end PanelLink
