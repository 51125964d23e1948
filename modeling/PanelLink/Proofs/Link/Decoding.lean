import PanelLink.Proofs.Link.Action

/-!
# Decoding and drawing

A link is its receiver and its compositor side by side: the one takes the events, the
other draws the commands in the frames that come out.  Flushing shows in neither.
-/

namespace PanelLink

namespace Link

variable {σ : Type} [Sink σ]

theorem receiver_flush (link : Link σ) : link.flush.2.receiver = link.receiver :=
  flush_invariant (fun other _ _ (h : other.receiver = link.receiver) => h) (fun _ h => h) rfl

theorem alike_flush (link : Link σ) : link.flush.2.compositor.Alike link.compositor :=
  flush_invariant (fun other _ _ (h : other.compositor.Alike link.compositor) => h)
    (fun _ h => ⟨h.surface.takeDirty, h.background_eq⟩) (.refl _)

theorem receiver_act (link : Link σ) (action : Action) :
    (link.act action).2.receiver = (link.receiver.run (eventsIn [action])).1 :=
  act_invariant
    (fun other (h : other.receiver = (link.receiver.run (eventsIn [action])).1) =>
      (receiver_flush other).trans h)
    rfl

theorem alike_act
    {link : Link σ} {drawn : Compositor} (halike : link.compositor.Alike drawn)
    (action : Action) :
    (link.act action).2.compositor.Alike (drawn.applyAll (link.drawnBy action)) :=
  act_invariant
    (fun other (h : other.compositor.Alike (drawn.applyAll (link.drawnBy action))) =>
      (alike_flush other).trans h)
    (halike.applyAll (link.drawnBy action))

theorem receiver_run (link : Link σ) (events : List LinkEvent) :
    (link.run events).1.receiver = (link.receiver.run events).1 := by
  induction events generalizing link with
  | nil => rfl
  | cons event events ih =>
      have hnext : (link.handle event).2.receiver = (link.receiver.handle event).1 :=
        link.receiver_act (.event event)
      rw [run_cons, ih, hnext, Receiver.run_cons]

theorem alike_run
    {link : Link σ} {drawn : Compositor} (halike : link.compositor.Alike drawn)
    (events : List LinkEvent) :
    (link.run events).1.compositor.Alike
      (drawn.applyAll (commandsIn (link.receiver.framesOf events))) := by
  induction events generalizing link drawn with
  | nil => exact halike
  | cons event events ih =>
      have hnext : (link.handle event).2.compositor.Alike
          (drawn.applyAll (commandsIn (link.receiver.framesOf [event]))) :=
        alike_act halike (.event event)
      have hreceiver : (link.handle event).2.receiver = (link.receiver.run [event]).1 :=
        link.receiver_act (.event event)
      rw [← List.singleton_append, Receiver.framesOf_append, commandsIn_append,
        Compositor.applyAll_append, ← hreceiver]
      exact ih hnext

end Link

end PanelLink
