import PanelLink.Panel.Intermittent
import PanelLink.Panel.Shadow
import PanelLink.Proofs.Link.Decoding

/-!
# Flushes between events

A link is flushed on request anywhere between its events, and by itself if the policy says
so.  What it has received and drawn depends on the events alone, whatever the sink answers
and however often it is asked.
-/

namespace PanelLink

namespace Link

variable {σ : Type}

/-- The link has received the events and drawn each command in them once. -/
structure Decoded
    (link : Link σ) (receiver : Receiver) (blank : Compositor) (events : List LinkEvent) :
    Prop where
  receiver_eq : link.receiver = (receiver.run events).1
  alike : link.compositor.Alike (blank.applyAll (commandsIn (receiver.framesOf events)))
  framesApplied_eq : link.tally.framesApplied =
    UInt32.ofNat (commandsIn (receiver.framesOf events)).length
  payloadErrors_eq : link.tally.payloadErrors =
    UInt32.ofNat (rejectedIn (receiver.framesOf events)).length

/-- A new link is as if it had a storage of its own cleared to the background. -/
theorem decoded_of_create
    {link : Link σ} {settings : LinkSettings} {storage fresh : Array UInt8} {sink : σ}
    {surface : Surface} (hcreate : Link.create settings storage sink = .ok link)
    (hfresh : Surface.ofStorage settings.width settings.height fresh = .ok surface) :
    link.Decoded (Receiver.withLimit settings.frameLimit.toNat)
      (Compositor.create surface settings.backgroundColor) [] := by
  obtain ⟨own, hown, rfl⟩ := of_create hcreate
  obtain ⟨⟨hwidth, hheight⟩, -⟩ := Surface.of_ofStorage hown
  obtain ⟨⟨hwidth', hheight'⟩, -⟩ := Surface.of_ofStorage hfresh
  constructor
  · rfl
  · exact Compositor.alike_create (hwidth.trans hwidth'.symm) (hheight.trans hheight'.symm) _
  · rfl
  · rfl

variable {link : Link σ} {receiver : Receiver} {blank : Compositor} {events : List LinkEvent}

theorem Decoded.received (hdecoded : link.Decoded receiver blank events) (action : Action) :
    (link.received action).Decoded receiver blank (events ++ eventsIn [action]) := by
  have hframes : receiver.framesOf (events ++ eventsIn [action]) =
      receiver.framesOf events ++ link.receiver.framesOf (eventsIn [action]) := by
    rw [Receiver.framesOf_append, hdecoded.receiver_eq]
  constructor
  · rw [Receiver.run_append, ← hdecoded.receiver_eq]
    rfl
  · rw [hframes, commandsIn_append, Compositor.applyAll_append]
    exact hdecoded.alike.applyAll (link.drawnBy action)
  · rw [hframes, commandsIn_append, List.length_append, UInt32.ofNat_add,
      ← hdecoded.framesApplied_eq]
    rfl
  · rw [hframes, rejectedIn_append, List.length_append, UInt32.ofNat_add,
      ← hdecoded.payloadErrors_eq]
    rfl

variable [Sink σ]

theorem counts_flush (link : Link σ) :
    link.flush.2.tally.framesApplied = link.tally.framesApplied ∧
      link.flush.2.tally.payloadErrors = link.tally.payloadErrors := by
  cases hdirty : link.compositor.surface.dirty with
  | none =>
      rw [flush_of_clean hdirty]
      exact ⟨rfl, rfl⟩
  | some rect =>
      rcases hanswer : Sink.flush link.sink link.compositor.surface.view rect with
        ⟨(failure | ⟨⟩), sink⟩
      · rw [flush_of_refused hdirty hanswer]
        exact ⟨rfl, rfl⟩
      · rw [flush_of_accepted hdirty hanswer]
        exact ⟨rfl, rfl⟩

theorem Decoded.flush (hdecoded : link.Decoded receiver blank events) :
    link.flush.2.Decoded receiver blank events where
  receiver_eq := (receiver_flush link).trans hdecoded.receiver_eq
  alike := (alike_flush link).trans hdecoded.alike
  framesApplied_eq := (counts_flush link).1.trans hdecoded.framesApplied_eq
  payloadErrors_eq := (counts_flush link).2.trans hdecoded.payloadErrors_eq

theorem Decoded.act (hdecoded : link.Decoded receiver blank events) (action : Action) :
    (link.act action).2.Decoded receiver blank (events ++ eventsIn [action]) :=
  act_invariant (fun other (h : other.Decoded receiver blank _) => h.flush)
    (hdecoded.received action)

theorem Decoded.actAll (hdecoded : link.Decoded receiver blank events) (actions : List Action) :
    (link.actAll actions).Decoded receiver blank (events ++ eventsIn actions) := by
  induction actions generalizing link events with
  | nil =>
      rw [eventsIn, List.filterMap_nil, List.append_nil]
      exact hdecoded
  | cons action actions ih =>
      rw [eventsIn_cons, ← List.append_assoc]
      exact ih (hdecoded.act action)

end Link

/-- A link shows what the commands among its frames draw on a cleared surface, each once.  So
two links that are given the same events show the same picture, whatever their policies are,
their sinks answer, and wherever they are flushed. -/
theorem link_draws_decoded_commands
    {σ τ : Type} [Sink σ] [Sink τ] (settings : LinkSettings) (policy : FlushPolicy)
    (storage storage' fresh : Array UInt8) (sink : σ) (sink' : τ) (surface : Surface)
    (start : Link σ) (start' : Link τ) (actions actions' : List Link.Action)
    (hcreate : Link.create settings storage sink = .ok start)
    (hcreate' : Link.create { settings with policy } storage' sink' = .ok start')
    (hfresh : Surface.ofStorage settings.width settings.height fresh = .ok surface)
    (hevents : Link.eventsIn actions' = Link.eventsIn actions) :
    let receiver := Receiver.withLimit settings.frameLimit.toNat
    let frames := receiver.framesOf (Link.eventsIn actions)
    let blank := Compositor.create surface settings.backgroundColor
    let link := start.actAll actions
    let link' := start'.actAll actions'
    (link.compositor.surface.view = (blank.applyAll (commandsIn frames)).surface.view ∧
        link.receiver = (receiver.run (Link.eventsIn actions)).1 ∧
        link.tally.framesApplied = UInt32.ofNat (commandsIn frames).length ∧
        link.tally.payloadErrors = UInt32.ofNat (rejectedIn frames).length) ∧
      link'.compositor.surface.view = link.compositor.surface.view ∧
      link'.receiver = link.receiver ∧
      link'.tally.framesApplied = link.tally.framesApplied ∧
      link'.tally.payloadErrors = link.tally.payloadErrors := by
  intro receiver frames blank link link'
  have hlink : link.Decoded receiver blank (Link.eventsIn actions) :=
    (Link.decoded_of_create hcreate hfresh).actAll actions
  have hlink' : link'.Decoded receiver blank (Link.eventsIn actions) := by
    rw [← hevents]
    exact (Link.decoded_of_create hcreate' hfresh).actAll actions'
  refine ⟨⟨hlink.alike.surface.view_eq, hlink.receiver_eq, hlink.framesApplied_eq,
    hlink.payloadErrors_eq⟩, ?_, ?_, ?_, ?_⟩
  · rw [hlink'.alike.surface.view_eq, hlink.alike.surface.view_eq]
  · rw [hlink'.receiver_eq, hlink.receiver_eq]
  · rw [hlink'.framesApplied_eq, hlink.framesApplied_eq]
  · rw [hlink'.payloadErrors_eq, hlink.payloadErrors_eq]

/-- A link that flushes after every frame and one whose sink refuses everything, both given a
frame that draws and one that is no command. -/
theorem link_draws_decoded_commands_refused :
    let settings : LinkSettings := { width := 2, height := 1 }
    let refusing : Intermittent Shadow :=
      { inner := Shadow.blank 2 1, schedule := fun _ => some .notReady }
    let pixel : List Link.Action :=
      [0xAA, 0xAA, 0xAA, 0x11, 18, 0, 1, 0, 0, 0, 1, 0, 0, 0, 255, 0, 0, 0x56].map fun byte =>
        .event (.byte byte)
    let empty : List Link.Action :=
      [0xAA, 0xAA, 0xAA, 0x11, 7, 0, 0xBC].map fun byte => .event (.byte byte)
    ∃ (start : Link Shadow) (start' : Link (Intermittent Shadow)),
      Link.create settings (Array.replicate 8 0) (Shadow.blank 2 1) = .ok start ∧
        Link.create { settings with policy := .manual } (Array.replicate 12 7) refusing =
          .ok start' ∧
        let link := start.actAll (pixel ++ empty)
        let link' := start'.actAll (.flush :: pixel ++ .flush :: empty)
        link.tally.flushes = 1 ∧
          link'.tally.flushErrors = 2 ∧
          link.compositor.surface.view.bytes = #[0, 0, 0, 255, 0, 0, 255, 255] ∧
          link'.compositor.surface.view = link.compositor.surface.view ∧
          link'.tally.framesApplied = 1 ∧
          link'.tally.payloadErrors = 1 := by
  intro settings refusing pixel empty
  obtain ⟨start, hcreate⟩ : ∃ start, Link.create settings (Array.replicate 8 0)
      (Shadow.blank 2 1) = .ok start := ⟨_, rfl⟩
  obtain ⟨start', hcreate'⟩ : ∃ start', Link.create { settings with policy := .manual }
      (Array.replicate 12 7) refusing = .ok start' := ⟨_, rfl⟩
  obtain ⟨surface, hfresh⟩ : ∃ surface, Surface.ofStorage settings.width settings.height
      (Array.replicate 8 0) = .ok surface := ⟨_, rfl⟩
  obtain ⟨⟨-, -, happlied, hrejected⟩, hview, -, happlied', hrejected'⟩ :=
    link_draws_decoded_commands settings .manual (Array.replicate 8 0) (Array.replicate 12 7)
      (Array.replicate 8 0) (Shadow.blank 2 1) refusing surface start start' (pixel ++ empty)
      (.flush :: pixel ++ .flush :: empty) hcreate hcreate' hfresh rfl
  refine ⟨start, start', hcreate, hcreate', ?_, ?_, ?_, hview, ?_, ?_⟩
  · cases hcreate
    decide +kernel
  · cases hcreate'
    decide +kernel
  · cases hcreate
    decide +kernel
  · rw [happlied', happlied]
    decide +kernel
  · rw [hrejected', hrejected]
    decide +kernel

end PanelLink
