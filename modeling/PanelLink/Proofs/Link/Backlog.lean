import PanelLink.Proofs.Link.Decoding
import PanelLink.Proofs.Link.Mirror
import PanelLink.Proofs.Link.Recorder
import PanelLink.Proofs.Raster.Outline

/-!
# The backlog of a link

What a link has drawn and not yet brought to its sink: the footprints of the commands since the
last flush that went through, or the whole surface while none has.  A flush offers the smallest
rectangle around the backlog, and a refusal leaves the backlog as it is.
-/

namespace PanelLink

inductive Happening where
  | drawn (command : Command)
  | offered (offer : Offer)

/-- A flush has gone through. -/
def Settled (history : List Happening) : Prop :=
  ∃ rect, .offered ⟨rect, .ok ()⟩ ∈ history

/-- No flush has gone through at all, or none since a command whose footprint has the point. -/
def Outstanding (bounds : Rect) (history : List Happening) (point : Point) : Prop :=
  (¬ Settled history ∧ bounds.Contains point) ∨
    ∃ before command after, history = before ++ .drawn command :: after ∧
      ¬ Settled after ∧ command.Reaches bounds point

theorem settled_concat (history : List Happening) (happening : Happening) :
    Settled (history ++ [happening]) ↔
      Settled history ∨ ∃ rect, happening = .offered ⟨rect, .ok ()⟩ := by
  simp only [Settled, List.mem_append, List.mem_singleton, exists_or, eq_comm]

theorem outstanding_concat
    {bounds : Rect} {history : List Happening} {happening : Happening} {point : Point} :
    Outstanding bounds (history ++ [happening]) point ↔
      (Outstanding bounds history point ∧ ∀ rect, happening ≠ .offered ⟨rect, .ok ()⟩) ∨
        ∃ command, happening = .drawn command ∧ command.Reaches bounds point := by
  constructor
  · rintro (⟨hsettled, hpoint⟩ | ⟨before, command, after, hsplit, hsettled, hreaches⟩)
    · rw [settled_concat, not_or, not_exists] at hsettled
      exact .inl ⟨.inl ⟨hsettled.1, hpoint⟩, hsettled.2⟩
    · rcases List.eq_nil_or_concat' after with rfl | ⟨after, last, rfl⟩
      · obtain ⟨-, hlast⟩ := List.append_inj' hsplit rfl
        rw [List.cons.injEq] at hlast
        exact .inr ⟨command, hlast.1, hreaches⟩
      · rw [← List.cons_append, ← List.append_assoc] at hsplit
        obtain ⟨hhistory, hlast⟩ := List.append_inj' hsplit rfl
        rw [List.cons.injEq] at hlast
        rw [settled_concat, not_or, not_exists, ← hlast.1] at hsettled
        exact .inl ⟨.inr ⟨before, command, after, hhistory, hsettled.1, hreaches⟩, hsettled.2⟩
  · rintro (⟨houtstanding, hlast⟩ | ⟨command, rfl, hreaches⟩)
    · have hkeeps : ∀ {part : List Happening},
          ¬ Settled part → ¬ Settled (part ++ [happening]) := by
        intro part hpart
        rw [settled_concat, not_or, not_exists]
        exact ⟨hpart, hlast⟩
      rcases houtstanding with
        ⟨hsettled, hpoint⟩ | ⟨before, command, after, rfl, hsettled, hreaches⟩
      · exact .inl ⟨hkeeps hsettled, hpoint⟩
      · exact .inr ⟨before, command, after ++ [happening], by simp, hkeeps hsettled, hreaches⟩
    · refine .inr ⟨history, command, [], rfl, ?_, hreaches⟩
      rintro ⟨rect, hmem⟩
      contradiction

theorem outlines_applyAll
    {compositor : Compositor} {bounds : Rect} {history : List Happening}
    {commands : List Command} (hcomplete : ∀ command ∈ commands, command.Complete)
    (hbounds : compositor.surface.bounds = bounds)
    (houtlines : compositor.surface.Outlines (Outstanding bounds history)) :
    (compositor.applyAll commands).surface.Outlines
      (Outstanding bounds (history ++ commands.map .drawn)) := by
  induction commands generalizing compositor history with
  | nil =>
      rw [List.map_nil, List.append_nil]
      exact houtlines
  | cons command commands ih =>
      have hdrawn : (compositor.apply command).2.surface.Outlines
          (Outstanding bounds (history ++ [.drawn command])) := by
        apply (Compositor.outlines_apply (hcomplete command (List.mem_cons_self ..))
          houtlines).congr rfl
        intro point
        rw [hbounds, outstanding_concat]
        simp
      have hbounds' : (compositor.apply command).2.surface.bounds = bounds :=
        (compositor.redrawn_apply command).bounds_eq.trans hbounds
      have hrest := ih (fun other hmem => hcomplete other (List.mem_cons_of_mem _ hmem))
        hbounds' hdrawn
      rw [List.append_assoc] at hrest
      exact hrest

theorem complete_of_mem_commandsIn
    {frames : List Frame} {command : Command} (hmem : command ∈ commandsIn frames) :
    command.Complete := by
  obtain ⟨frame, -, hcommand⟩ := List.mem_filterMap.1 hmem
  cases hread : Command.ofFrame frame with
  | error failure =>
      rw [hread] at hcommand
      contradiction
  | ok other =>
      rw [hread, Except.toOption, Option.some.injEq] at hcommand
      subst hcommand
      exact Command.complete_of_ofFrame hread

namespace Link

variable {σ : Type}

/-- What is dirty is the outline of the backlog. -/
structure Owes (link : Link σ) (bounds : Rect) (past : List Happening) : Prop where
  bounds_eq : link.compositor.surface.bounds = bounds
  outlines : link.compositor.surface.Outlines (Outstanding bounds past)

variable {link : Link σ} {bounds : Rect} {past : List Happening}

theorem owes_of_create
    {settings : LinkSettings} {storage : Array UInt8} {sink : σ}
    (hcreate : Link.create settings storage sink = .ok link) :
    link.Owes ⟨0, 0, settings.width.toNat - 1, settings.height.toNat - 1⟩ [] := by
  obtain ⟨surface, hsurface, rfl⟩ := of_create hcreate
  obtain ⟨⟨hwidth, hheight⟩, -, hclean⟩ := Surface.of_ofStorage hsurface
  have hbounds : surface.bounds =
      ⟨0, 0, settings.width.toNat - 1, settings.height.toNat - 1⟩ := by
    rw [Surface.bounds, hwidth, hheight]
  constructor
  · exact (Surface.redrawn_fill surface _).bounds_eq.trans hbounds
  · apply (Surface.outlines_fill hclean settings.backgroundColor).congr rfl
    intro point
    rw [hbounds]
    simp [Outstanding, Settled]

theorem Owes.received (howes : link.Owes bounds past) (action : Action) :
    (link.received action).Owes bounds (past ++ (link.drawnBy action).map .drawn) where
  bounds_eq := (Compositor.redrawn_applyAll _ _).bounds_eq.trans howes.bounds_eq
  outlines := outlines_applyAll (fun _ => complete_of_mem_commandsIn) howes.bounds_eq
    howes.outlines

variable [Sink σ]

/-- What an action brings to the history of a link.  It draws before it flushes. -/
def happenings (link : Link σ) (action : Action) : List Happening :=
  (link.drawnBy action).map .drawn ++ (link.offers action).map .offered

def history (link : Link σ) : List Action → List Happening
  | [] => []
  | action :: actions => link.happenings action ++ (link.act action).2.history actions

theorem Owes.act (howes : link.Owes bounds past) (action : Action) :
    (link.act action).2.Owes bounds (past ++ link.happenings action) := by
  have hreceived := howes.received action
  rw [happenings, ← List.append_assoc]
  rcases link.act_cases action with ⟨hoffers, hact, -⟩ |
    ⟨rect, sink, -, -, -, hoffers, hact⟩ | ⟨rect, failure, sink, -, -, -, hoffers, hact⟩
  · rw [hoffers, hact, List.map_nil, List.append_nil]
    exact hreceived
  · rw [hoffers, hact, List.map_cons, List.map_nil]
    refine ⟨hreceived.bounds_eq, ?_⟩
    intro point houtstanding
    rw [outstanding_concat] at houtstanding
    simp at houtstanding
  · rw [hoffers, hact, List.map_cons, List.map_nil]
    refine ⟨hreceived.bounds_eq, ?_⟩
    apply hreceived.outlines.congr rfl
    intro point
    rw [outstanding_concat]
    simp

theorem Owes.actAll (howes : link.Owes bounds past) (actions : List Action) :
    (link.actAll actions).Owes bounds (past ++ link.history actions) := by
  induction actions generalizing link past with
  | nil =>
      rw [history, List.append_nil]
      exact howes
  | cons action actions ih =>
      rw [history, ← List.append_assoc]
      exact ih (howes.act action)

theorem policy_act (link : Link σ) (action : Action) :
    (link.act action).2.policy = link.policy :=
  act_invariant (fun other (h : other.policy = link.policy) => (policy_flush other).trans h) rfl

theorem policy_actAll (link : Link σ) (actions : List Action) :
    (link.actAll actions).policy = link.policy := by
  induction actions generalizing link with
  | nil => rfl
  | cons action actions ih => exact (ih _).trans (policy_act link action)

/-! ## One action -/

theorem act_outcome (link : Link σ) (action : Action) :
    let drawn := link.compositor.applyAll (link.drawnBy action)
    let answer := (link.act action).1
    let next := (link.act action).2
    (link.offers action = [] ∧ answer = .ok () ∧
        next.compositor = drawn ∧
        next.tally.flushes = link.tally.flushes ∧
        next.tally.flushErrors = link.tally.flushErrors) ∨
      (∃ rect, link.offers action = [⟨rect, .ok ()⟩] ∧ answer = .ok () ∧
        next.compositor.surface.dirty = none ∧
        next.compositor.surface.view = drawn.surface.view ∧
        next.tally.flushes = link.tally.flushes + 1 ∧
        next.tally.flushErrors = link.tally.flushErrors) ∨
      ∃ rect failure, link.offers action = [⟨rect, .error failure⟩] ∧ answer = .error failure ∧
        next.compositor = drawn ∧
        next.tally.flushes = link.tally.flushes ∧
        next.tally.flushErrors = link.tally.flushErrors + 1 := by
  rcases link.act_cases action with ⟨hoffers, hact, -⟩ |
    ⟨rect, sink, -, -, -, hoffers, hact⟩ | ⟨rect, failure, sink, -, -, -, hoffers, hact⟩
  · left
    rw [hact]
    exact ⟨hoffers, rfl, rfl, rfl, rfl⟩
  · right
    left
    rw [hact]
    exact ⟨rect, hoffers, rfl, rfl, rfl, rfl, rfl⟩
  · right
    right
    rw [hact]
    exact ⟨rect, failure, hoffers, rfl, rfl, rfl, rfl⟩

theorem Owes.offers (howes : link.Owes bounds past) (action : Action) :
    let backlog := Outstanding bounds (past ++ (link.drawnBy action).map .drawn)
    (∀ offer ∈ link.offers action, (∃ point, backlog point) ∧ offer.rect.IsHull backlog) ∧
      ((∃ offer, link.offers action = [offer]) ↔
        link.Flushes action ∧ ∃ point, backlog point) := by
  intro backlog
  have houtlines : (link.received action).compositor.surface.Outlines backlog :=
    (howes.received action).outlines
  have hsingle : ∀ {offer : Offer}, link.offers action = [offer] → link.Flushes action →
      (link.received action).compositor.surface.dirty = some offer.rect →
      (∀ other ∈ link.offers action, (∃ point, backlog point) ∧ other.rect.IsHull backlog) ∧
        ((∃ other, link.offers action = [other]) ↔
          link.Flushes action ∧ ∃ point, backlog point) := by
    intro offer hoffers hflushes hdirty
    obtain ⟨hpoint, hhull⟩ := houtlines.of_some hdirty
    rw [hoffers]
    refine ⟨?_, iff_of_true ⟨offer, rfl⟩ ⟨hflushes, hpoint⟩⟩
    intro other hmem
    rw [List.mem_singleton.1 hmem]
    exact ⟨hpoint, hhull⟩
  rcases link.act_cases action with ⟨hoffers, -, hclean⟩ |
    ⟨rect, sink, hflushes, hdirty, -, hoffers, -⟩ |
    ⟨rect, failure, sink, hflushes, hdirty, -, hoffers, -⟩
  · rw [hoffers]
    refine ⟨nofun, iff_of_false (fun ⟨offer, hoffer⟩ => nomatch hoffer) ?_⟩
    rintro ⟨hflushes, point, hpoint⟩
    exact houtlines.of_none (hclean hflushes) point hpoint
  · exact hsingle hoffers hflushes hdirty
  · exact hsingle hoffers hflushes hdirty

/-! ## Shadows -/

section Shadows

variable [ShadowSink σ]

theorem Mirrored.act (hmirrored : link.Mirrored) (action : Action) :
    (link.act action).2.Mirrored := by
  cases action with
  | event event => exact hmirrored.handle event
  | flush => exact hmirrored.flush.1

theorem Mirrored.actAll (hmirrored : link.Mirrored) (actions : List Action) :
    (link.actAll actions).Mirrored := by
  induction actions generalizing link with
  | nil => exact hmirrored
  | cons action actions ih => exact ih (hmirrored.act action)

/-- A shadow never refuses by itself. -/
theorem Mirrored.refusal?_eq
    (hmirrored : link.Mirrored) {action : Action} {rect : Rect} {sink : σ} {failure : FlushError}
    (hdirty : (link.received action).compositor.surface.dirty = some rect)
    (hsink : Sink.flush link.sink (link.received action).compositor.surface.view rect =
      (.error failure, sink)) :
    ShadowSink.refusal? link.sink = some failure := by
  have hmirrors : Mirrors (link.received action).compositor.surface
      (ShadowSink.shadow link.sink) :=
    Mirrors.redrawn hmirrored (Compositor.redrawn_applyAll _ _)
  cases hrefusal : ShadowSink.refusal? link.sink with
  | some refusal =>
      obtain ⟨next, hnext, -⟩ := ShadowSink.flush_of_refusal?
        (link.received action).compositor.surface.view rect hrefusal
      rw [hsink, Prod.mk.injEq, Except.error.injEq] at hnext
      rw [hnext.1]
  | none =>
      obtain ⟨next, hnext, -⟩ := ShadowSink.flush_of_no_refusal
        (link.received action).compositor.surface.view rect hrefusal
      obtain ⟨shadow, hshadow, -⟩ := hmirrors.exists_flush hdirty
      rw [hsink, hshadow, Prod.mk.injEq] at hnext
      obtain ⟨hanswer, -⟩ := hnext
      contradiction

theorem Mirrored.offers (hmirrored : link.Mirrored) (action : Action) :
    (∀ rect, ⟨rect, .ok ()⟩ ∈ link.offers action → ∀ x y, (link.act action).2.Shown x y) ∧
      ∀ rect failure, ⟨rect, .error failure⟩ ∈ link.offers action →
        ShadowSink.refusal? link.sink = some failure := by
  have hnext := hmirrored.act action
  rcases link.act_cases action with ⟨hoffers, -, -⟩ |
    ⟨rect, sink, -, -, -, hoffers, hact⟩ | ⟨rect, failure, sink, -, hdirty, hsink, hoffers, -⟩
  · rw [hoffers]
    exact ⟨nofun, nofun⟩
  · rw [hoffers]
    refine ⟨fun _ _ => hnext.shown ?_, ?_⟩
    · rw [hact]
      rfl
    · simp
  · rw [hoffers]
    refine ⟨by simp, ?_⟩
    intro other refusal hmem
    rw [List.mem_singleton, Offer.mk.injEq, Except.error.injEq] at hmem
    rw [hmem.2]
    exact hmirrored.refusal?_eq hdirty hsink

end Shadows

end Link

/-- Each action offers the sink at most one rectangle, the smallest one around the backlog, and
does so if it is to flush and the backlog is not empty.  A refusal leaves everything as it is for
the next flush.  An acceptance settles the backlog, and then a shadow shows the whole surface. -/
theorem flush_offers_backlog
    {σ : Type} [Sink σ] (settings : LinkSettings) (storage : Array UInt8) (sink : σ)
    (start : Link σ) (actions : List Link.Action) (action : Link.Action)
    (hcreate : Link.create settings storage sink = .ok start) :
    let bounds : Rect := ⟨0, 0, settings.width.toNat - 1, settings.height.toNat - 1⟩
    let link := start.actAll actions
    let drawn := link.drawnBy action
    let backlog := Outstanding bounds (start.history actions ++ drawn.map .drawn)
    let answer := (link.act action).1
    let next := (link.act action).2
    ((link.recorded.act action).1 = answer ∧ (link.recorded.act action).2.unrecorded = next) ∧
      (∀ offer ∈ link.offers action, (∃ point, backlog point) ∧ offer.rect.IsHull backlog) ∧
      ((∃ offer, link.offers action = [offer]) ↔
        (action = .flush ∨ settings.policy = .everyFrame ∧ drawn ≠ []) ∧
          ∃ point, backlog point) ∧
      next.receiver = (link.receiver.run (Link.eventsIn [action])).1 ∧
      ((link.offers action = [] ∧ answer = .ok () ∧
          next.compositor = link.compositor.applyAll drawn ∧
          next.tally.flushes = link.tally.flushes ∧
          next.tally.flushErrors = link.tally.flushErrors) ∨
        (∃ rect, link.offers action = [⟨rect, .ok ()⟩] ∧ answer = .ok () ∧
          next.compositor.surface.dirty = none ∧
          next.compositor.surface.view = (link.compositor.applyAll drawn).surface.view ∧
          next.tally.flushes = link.tally.flushes + 1 ∧
          next.tally.flushErrors = link.tally.flushErrors) ∨
        ∃ rect failure, link.offers action = [⟨rect, .error failure⟩] ∧ answer = .error failure ∧
          next.compositor = link.compositor.applyAll drawn ∧
          next.tally.flushes = link.tally.flushes ∧
          next.tally.flushErrors = link.tally.flushErrors + 1) ∧
      ∀ [ShadowSink σ], ShadowSink.shadow sink =
          Shadow.blank settings.width.toNat settings.height.toNat →
        (∀ x y, ¬ next.Shown x y → next.compositor.surface.Dirty ⟨x, y⟩) ∧
          (∀ rect, ⟨rect, .ok ()⟩ ∈ link.offers action → ∀ x y, next.Shown x y) ∧
          ∀ rect failure, ⟨rect, .error failure⟩ ∈ link.offers action →
            ShadowSink.refusal? link.sink = some failure := by
  intro bounds link drawn backlog answer next
  have howes : link.Owes bounds (start.history actions) :=
    (Link.owes_of_create hcreate).actAll actions
  obtain ⟨hhull, hsingle⟩ := howes.offers action
  have hflushes : link.Flushes action ↔
      action = .flush ∨ settings.policy = .everyFrame ∧ drawn ≠ [] := by
    have hpolicy : link.policy = settings.policy :=
      (Link.policy_actAll start actions).trans (Link.policy_of_create hcreate)
    rw [Link.Flushes, hpolicy]
  rw [hflushes] at hsingle
  refine ⟨link.act_recorded action, hhull, hsingle, link.receiver_act action,
    link.act_outcome action, ?_⟩
  intro _ hshadow
  have hmirrored := (Link.mirrored_of_create hshadow hcreate).actAll actions
  obtain ⟨hshown, hrefused⟩ := hmirrored.offers action
  exact ⟨(hmirrored.act action).dirty_of_ne, hshown, hrefused⟩

/-- A frame whose flush is refused is offered again with the next one. -/
theorem flush_offers_backlog_after_refusal :
    let settings : LinkSettings := { width := 3, height := 1 }
    let sink : Intermittent Shadow :=
      { inner := Shadow.blank 3 1
        schedule := fun attempt => if attempt = 1 then some .communication else none }
    let pixel : List Link.Action :=
      [0xAA, 0xAA, 0xAA, 0x11, 18, 0, 1, 0, 0, 0, 1, 0, 0, 0, 255, 0, 0, 0x56].map fun byte =>
        .event (.byte byte)
    ∃ start : Link (Intermittent Shadow),
      Link.create settings (Array.replicate 12 0) sink = .ok start ∧
        let link := start.actAll (.flush :: pixel)
        link.tally.flushes = 1 ∧ link.tally.flushErrors = 1 ∧
          link.offers .flush = [⟨⟨1, 0, 1, 0⟩, .ok ()⟩] ∧
          (⟨1, 0, 1, 0⟩ : Rect).IsHull
            (Outstanding ⟨0, 0, 2, 0⟩ (start.history (.flush :: pixel))) ∧
          ∀ x y, (link.act .flush).2.Shown x y := by
  intro settings sink pixel
  obtain ⟨start, hcreate⟩ : ∃ start, Link.create settings (Array.replicate 12 0) sink =
      .ok start := ⟨_, rfl⟩
  obtain ⟨-, hhull, -, -, -, hshadow⟩ := flush_offers_backlog settings (Array.replicate 12 0) sink
    start (.flush :: pixel) .flush hcreate
  have hoffers : (start.actAll (.flush :: pixel)).offers .flush =
      [⟨⟨1, 0, 1, 0⟩, .ok ()⟩] := by
    cases hcreate
    decide +kernel
  rw [hoffers] at hhull hshadow
  have hmem : (⟨⟨1, 0, 1, 0⟩, .ok ()⟩ : Offer) ∈ [⟨⟨1, 0, 1, 0⟩, .ok ()⟩] :=
    List.mem_singleton_self _
  refine ⟨start, hcreate, ?_, ?_, hoffers, ?_, (hshadow rfl).2.1 _ hmem⟩
  · cases hcreate
    decide +kernel
  · cases hcreate
    decide +kernel
  · have hrect := (hhull _ hmem).2
    have hdrawn : (start.actAll (.flush :: pixel)).drawnBy .flush = [] := rfl
    rw [hdrawn, List.map_nil, List.append_nil] at hrect
    exact hrect

end PanelLink
