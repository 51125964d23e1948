import PanelLink.Proofs.Link.Action

/-!
# Recorded offers

A recorder passes every flush on to the sink behind it and notes which rectangle was offered
and what the answer was.  A link cannot tell a recorder from the sink itself, so what is
noted is what the link offers to that sink.
-/

namespace PanelLink

structure Offer where
  rect : Rect
  answer : Except FlushError Unit
deriving DecidableEq

structure Recorder (σ : Type) where
  sink : σ
  offers : List Offer := []

namespace Recorder

variable {σ : Type} [Sink σ]

def flush (recorder : Recorder σ) (view : View) (rect : Rect) :
    Except FlushError Unit × Recorder σ :=
  let answered := Sink.flush recorder.sink view rect
  (answered.1, { sink := answered.2, offers := recorder.offers ++ [⟨rect, answered.1⟩] })

instance : Sink (Recorder σ) where
  flush := flush

end Recorder

namespace Link

variable {σ : Type}

def recorded (link : Link σ) : Link (Recorder σ) where
  receiver := link.receiver
  compositor := link.compositor
  sink := { sink := link.sink }
  policy := link.policy
  tally := link.tally

def unrecorded (link : Link (Recorder σ)) : Link σ where
  receiver := link.receiver
  compositor := link.compositor
  sink := link.sink.sink
  policy := link.policy
  tally := link.tally

variable [Sink σ]

/-- What the link offers to its sink in the course of an action. -/
def offers (link : Link σ) (action : Action) : List Offer :=
  (link.recorded.act action).2.sink.offers

theorem sink_flush_recorded (link : Link σ) (view : View) (rect : Rect) :
    Sink.flush link.recorded.sink view rect =
      ((Sink.flush link.sink view rect).1, {
        sink := (Sink.flush link.sink view rect).2
        offers := [⟨rect, (Sink.flush link.sink view rect).1⟩] }) := rfl

theorem flush_recorded (link : Link σ) :
    link.recorded.flush.1 = link.flush.1 ∧ link.recorded.flush.2.unrecorded = link.flush.2 ∧
      link.recorded.flush.2.sink.offers =
        match link.compositor.surface.dirty with
        | none => []
        | some rect =>
          [⟨rect, (Sink.flush link.sink link.compositor.surface.view rect).1⟩] := by
  cases hdirty : link.compositor.surface.dirty with
  | none =>
      have hdirty' : link.recorded.compositor.surface.dirty = none := hdirty
      rw [flush_of_clean hdirty, flush_of_clean hdirty']
      exact ⟨rfl, rfl, rfl⟩
  | some rect =>
      have hdirty' : link.recorded.compositor.surface.dirty = some rect := hdirty
      have hnoted := link.sink_flush_recorded link.compositor.surface.view rect
      rcases hanswer : Sink.flush link.sink link.compositor.surface.view rect with
        ⟨(failure | ⟨⟩), sink⟩
      · rw [hanswer] at hnoted
        rw [flush_of_refused hdirty hanswer, flush_of_refused hdirty' hnoted]
        simp only [hanswer]
        exact ⟨trivial, rfl, trivial⟩
      · rw [hanswer] at hnoted
        rw [flush_of_accepted hdirty hanswer, flush_of_accepted hdirty' hnoted]
        simp only [hanswer]
        exact ⟨trivial, rfl, trivial⟩

/-- Recording changes neither the answer to an action nor what the link becomes. -/
theorem act_recorded (link : Link σ) (action : Action) :
    (link.recorded.act action).1 = (link.act action).1 ∧
      (link.recorded.act action).2.unrecorded = (link.act action).2 := by
  by_cases hflushes : link.Flushes action
  · have hflushes' : link.recorded.Flushes action := hflushes
    obtain ⟨hanswer, hlink, -⟩ := flush_recorded (link.received action)
    rw [act_of_flushes hflushes, act_of_flushes hflushes']
    exact ⟨congrArg (Except.map fun _ => ()) hanswer, hlink⟩
  · have hflushes' : ¬ link.recorded.Flushes action := hflushes
    rw [act_of_not_flushes hflushes, act_of_not_flushes hflushes']
    exact ⟨rfl, rfl⟩

theorem offers_of_not_flushes
    {link : Link σ} {action : Action} (hflushes : ¬ link.Flushes action) :
    link.offers action = [] := by
  have hflushes' : ¬ link.recorded.Flushes action := hflushes
  rw [offers, act_of_not_flushes hflushes']
  rfl

theorem offers_of_clean
    {link : Link σ} {action : Action}
    (hdirty : (link.received action).compositor.surface.dirty = none) :
    link.offers action = [] := by
  by_cases hflushes : link.Flushes action
  · have hflushes' : link.recorded.Flushes action := hflushes
    have hnoted := (flush_recorded (link.received action)).2.2
    rw [hdirty] at hnoted
    rw [offers, act_of_flushes hflushes']
    exact hnoted
  · exact offers_of_not_flushes hflushes

theorem offers_of_dirty
    {link : Link σ} {action : Action} {rect : Rect} (hflushes : link.Flushes action)
    (hdirty : (link.received action).compositor.surface.dirty = some rect) :
    link.offers action = [⟨rect,
      (Sink.flush link.sink (link.received action).compositor.surface.view rect).1⟩] := by
  have hflushes' : link.recorded.Flushes action := hflushes
  have hnoted := (flush_recorded (link.received action)).2.2
  rw [hdirty] at hnoted
  rw [offers, act_of_flushes hflushes']
  exact hnoted

/-- An action offers nothing, or one rectangle that is accepted, or one that is refused. -/
theorem act_cases (link : Link σ) (action : Action) :
    (link.offers action = [] ∧ link.act action = (.ok (), link.received action) ∧
        (link.Flushes action → (link.received action).compositor.surface.dirty = none)) ∨
      (∃ rect sink, link.Flushes action ∧
        (link.received action).compositor.surface.dirty = some rect ∧
        Sink.flush link.sink (link.received action).compositor.surface.view rect =
          (.ok (), sink) ∧
        link.offers action = [⟨rect, .ok ()⟩] ∧
        link.act action = (.ok (), { link.received action with
          sink
          compositor.surface := (link.received action).compositor.surface.takeDirty.2
          tally.flushes := link.tally.flushes + 1 })) ∨
      ∃ rect failure sink, link.Flushes action ∧
        (link.received action).compositor.surface.dirty = some rect ∧
        Sink.flush link.sink (link.received action).compositor.surface.view rect =
          (.error failure, sink) ∧
        link.offers action = [⟨rect, .error failure⟩] ∧
        link.act action = (.error failure, { link.received action with
          sink
          tally.flushErrors := link.tally.flushErrors + 1 }) := by
  by_cases hflushes : link.Flushes action
  · cases hdirty : (link.received action).compositor.surface.dirty with
    | none =>
        left
        rw [act_of_flushes hflushes, flush_of_clean hdirty]
        exact ⟨offers_of_clean hdirty, rfl, fun _ => rfl⟩
    | some rect =>
        right
        have hoffers := offers_of_dirty hflushes hdirty
        rw [act_of_flushes hflushes]
        rcases hanswer : Sink.flush link.sink (link.received action).compositor.surface.view rect
          with ⟨(failure | ⟨⟩), sink⟩
        · right
          rw [hanswer] at hoffers
          rw [flush_of_refused hdirty hanswer]
          exact ⟨rect, failure, sink, hflushes, rfl, hanswer, hoffers, rfl⟩
        · left
          rw [hanswer] at hoffers
          rw [flush_of_accepted hdirty hanswer]
          exact ⟨rect, sink, hflushes, rfl, hanswer, hoffers, rfl⟩
  · left
    rw [act_of_not_flushes hflushes]
    exact ⟨offers_of_not_flushes hflushes, rfl, fun h => absurd h hflushes⟩

end Link

end PanelLink
