import PanelLink.Event.Capture
import PanelLink.Event.Queue
import PanelLink.Proofs.Wire.Session

/-!
# Delivery of events

A source is asked for one event at a time or to fill a buffer.  However a queue is asked, it hands
out its events from the front and keeps the others.  A capture hands out a reset and then its
bytes, and counts the bytes.
-/

namespace PanelLink

/-- What can be asked of a source. -/
inductive Request where
  | poll
  | fill (buffer : List LinkEvent)

inductive Reply (ε : Type) where
  | polled (answer : Except ε (Option LinkEvent))
  | filled (outcome : Except ε Nat) (buffer : List LinkEvent)

/-- The most events that a request takes. -/
def Request.room : Request → Nat
  | .poll => 1
  | .fill buffer => buffer.length

/-- The events that a reply brings.  Of a filled buffer, the count says how many of its entries
are new. -/
def Reply.delivered {ε : Type} : Reply ε → List LinkEvent
  | .polled (.ok (some event)) => [event]
  | .polled _ => []
  | .filled (.ok count) buffer => buffer.take count
  | .filled (.error _) _ => []

namespace EventSource

variable {σ ε : Type} [EventSource σ ε]

def serve (source : σ) : Request → Reply ε × σ
  | .poll =>
    let (answer, next) := poll source
    (.polled answer, next)
  | .fill buffer =>
    let batch := pollInto source buffer
    (.filled batch.outcome batch.buffer, batch.source)

def serveAll (source : σ) : List Request → List (Reply ε) × σ
  | [] => ([], source)
  | request :: requests =>
    let (reply, next) := serve source request
    let (replies, last) := serveAll next requests
    (reply :: replies, last)

theorem serveAll_cons (source : σ) (request : Request) (requests : List Request) :
    serveAll source (request :: requests) =
      ((serve source request).1 :: (serveAll (serve source request).2 requests).1,
        (serveAll (serve source request).2 requests).2) := rfl

end EventSource

/-! ## Queues -/

namespace EventQueue

variable {ε : Type}

/-- A queue of events that never fails. -/
def ofList (events : List LinkEvent) : EventQueue ε := ⟨events, none⟩

theorem poll_ofList (events : List LinkEvent) :
    EventSource.poll (ofList events : EventQueue ε) = (.ok events.head?, ofList events.tail) := by
  cases events with
  | nil => rfl
  | cons event events => rfl

theorem pollInto_ofList (events buffer : List LinkEvent) :
    let count := min buffer.length events.length
    EventSource.pollInto (ofList events : EventQueue ε) buffer =
      ⟨.ok count, events.take count ++ buffer.drop count, ofList (events.drop count)⟩ := by
  induction buffer generalizing events with
  | nil => simp [EventSource.pollInto]
  | cons slot slots ih =>
      cases events with
      | nil => simp [EventSource.pollInto, poll_ofList]
      | cons event events =>
          simp [EventSource.pollInto, poll_ofList, ih, Except.map, Nat.add_min_add_right]

theorem serve_ofList (events : List LinkEvent) (request : Request) :
    let served := EventSource.serve (ofList events : EventQueue ε) request
    served.1.delivered = events.take (min request.room events.length) ∧
      served.2 = ofList (events.drop (min request.room events.length)) := by
  cases request with
  | poll =>
      rw [EventSource.serve, poll_ofList]
      cases events with
      | nil => exact ⟨rfl, rfl⟩
      | cons event events => simp [Reply.delivered, Request.room]
  | fill buffer =>
      rw [EventSource.serve, pollInto_ofList]
      have hlength : (events.take (min buffer.length events.length)).length =
          min buffer.length events.length := by
        rw [List.length_take]
        omega
      exact ⟨List.take_left' hlength, rfl⟩

theorem serveAll_ofList (events : List LinkEvent) (requests : List Request) :
    let served := EventSource.serveAll (ofList events : EventQueue ε) requests
    ∃ left, served.2 = ofList left ∧ served.1.flatMap Reply.delivered ++ left = events := by
  induction requests generalizing events with
  | nil => exact ⟨events, rfl, rfl⟩
  | cons request requests ih =>
      obtain ⟨hdelivered, hnext⟩ := @serve_ofList ε events request
      obtain ⟨left, hlast, hevents⟩ := ih (events.drop (min request.room events.length))
      refine ⟨left, ?_, ?_⟩
      · rw [EventSource.serveAll_cons, hnext]
        exact hlast
      · rw [EventSource.serveAll_cons, hnext, List.flatMap_cons, hdelivered, List.append_assoc,
          hevents, List.take_append_drop]

end EventQueue

/-! ## Captures -/

namespace Capture

variable {ε : Type}

/-- What a capture answers when it has no more bytes. -/
def ending : Option ε → Except ε (Option LinkEvent)
  | none => .ok none
  | some failure => .error failure

/-- The answer to a poll, by how many polls came before it. -/
def answerAt (bytes : List UInt8) (failure : Option ε) (index : Nat) :
    Except ε (Option LinkEvent) :=
  match (session bytes)[index]? with
  | some event => .ok (some event)
  | none => ending failure

/-- The capture after some polls. -/
def after (bytes : List UInt8) (failure : Option ε) (polls : Nat) : Capture ε where
  bytes := bytes.drop (polls - 1)
  failure := failure
  resetPending := polls = 0
  delivered := min (polls - 1) bytes.length

theorem after_zero (bytes : List UInt8) (failure : Option ε) :
    after bytes failure 0 = { bytes, failure } := by
  simp [after]

theorem after_succ (bytes : List UInt8) (failure : Option ε) (read : Nat) :
    after bytes failure (read + 1) =
      ⟨bytes.drop read, failure, false, min read bytes.length⟩ := by
  simp [after]

theorem poll_of_nil (failure : Option ε) (delivered : Nat) :
    EventSource.poll (⟨[], failure, false, delivered⟩ : Capture ε) =
      (ending failure, ⟨[], failure, false, delivered⟩) := by
  cases failure with
  | none => rfl
  | some failure => rfl

theorem poll_of_cons
    (byte : UInt8) (bytes : List UInt8) (failure : Option ε) (delivered : Nat) :
    EventSource.poll (⟨byte :: bytes, failure, false, delivered⟩ : Capture ε) =
      (.ok (some (.byte byte)), ⟨bytes, failure, false, delivered + 1⟩) := rfl

theorem answerAt_succ (bytes : List UInt8) (failure : Option ε) (read : Nat) :
    answerAt bytes failure (read + 1) =
      match bytes[read]? with
      | some byte => .ok (some (.byte byte))
      | none => ending failure := by
  rw [answerAt, session, List.getElem?_cons_succ, List.getElem?_map]
  cases bytes[read]? with
  | none => rfl
  | some byte => rfl

theorem poll_after (bytes : List UInt8) (failure : Option ε) (polls : Nat) :
    EventSource.poll (after bytes failure polls) =
      (answerAt bytes failure polls, after bytes failure (polls + 1)) := by
  cases polls with
  | zero =>
      rw [after_zero, after_succ, Nat.zero_min, List.drop_zero]
      rfl
  | succ read =>
      rw [after_succ, after_succ, answerAt_succ]
      by_cases hmore : read < bytes.length
      · have hcount : min read bytes.length + 1 = min (read + 1) bytes.length := by omega
        rw [List.drop_eq_getElem_cons hmore, poll_of_cons, List.getElem?_eq_getElem hmore, hcount]
      · have hend : bytes.length ≤ read := Nat.le_of_not_lt hmore
        have hend' : bytes.length ≤ read + 1 := Nat.le_succ_of_le hend
        rw [List.drop_eq_nil_of_le hend, List.drop_eq_nil_of_le hend', poll_of_nil,
          List.getElem?_eq_none hend, Nat.min_eq_right hend, Nat.min_eq_right hend']

theorem serveAll_after (bytes : List UInt8) (failure : Option ε) (polls more : Nat) :
    EventSource.serveAll (after bytes failure polls) (List.replicate more .poll) =
      ((List.range' polls more).map fun index => .polled (answerAt bytes failure index),
        after bytes failure (polls + more)) := by
  induction more generalizing polls with
  | zero => rfl
  | succ more ih =>
      rw [List.replicate_succ, EventSource.serveAll_cons, EventSource.serve, poll_after]
      simp only [ih, List.range'_succ, List.map_cons]
      rw [Nat.add_right_comm, Nat.add_assoc]

end Capture

/-- However a queue is polled and buffers are filled from it, the events that it delivers and those
that are left are the events it was given, in order.  A fill takes as many as there are room and
events for, and leaves the rest of the buffer as it was.  A capture answers with a reset, its bytes
and then its end or its failure for ever, and counts the bytes it has delivered. -/
theorem sources_deliver_in_order {ε : Type} :
    (∀ (events : List LinkEvent) (requests : List Request),
      let served := EventSource.serveAll (EventQueue.ofList events : EventQueue ε) requests
      let left := served.2.pending
      served.1.flatMap Reply.delivered ++ left = events ∧
        (EventSource.poll served.2).1 = .ok left.head? ∧
        ∀ buffer,
          let batch := EventSource.pollInto served.2 buffer
          let count := min buffer.length left.length
          batch.outcome = .ok count ∧ batch.buffer = left.take count ++ buffer.drop count) ∧
    ∀ (bytes : List UInt8) (failure : Option ε) (polls : Nat),
      let served := EventSource.serveAll ({ bytes, failure } : Capture ε)
        (List.replicate polls .poll)
      served.1 = (List.range polls).map
          (fun index => .polled (Capture.answerAt bytes failure index)) ∧
        served.2.delivered = min (polls - 1) bytes.length := by
  constructor
  · intro events requests served left
    obtain ⟨rest, hlast, hevents⟩ := @EventQueue.serveAll_ofList ε events requests
    have hleft : left = rest := congrArg EventQueue.pending hlast
    have hserved : served.2 = EventQueue.ofList left := by
      rw [hleft]
      exact hlast
    refine ⟨?_, ?_, ?_⟩
    · rw [hleft]
      exact hevents
    · rw [hserved, EventQueue.poll_ofList]
    · intro buffer
      rw [hserved, EventQueue.pollInto_ofList]
      exact ⟨rfl, rfl⟩
  · intro bytes failure polls
    rw [← Capture.after_zero, Capture.serveAll_after, List.range_eq_range', Nat.zero_add]
    exact ⟨rfl, rfl⟩

end PanelLink
