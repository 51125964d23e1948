import PanelLink.Panel.Intermittent
import PanelLink.Panel.Shadow
import PanelLink.Proofs.Link.Decoding
import PanelLink.Proofs.Link.Recorder
import PanelLink.Proofs.Wire.RoundTrip

/-!
# Damage between frames

Resets, noise, false starts, damaged frames and frames whose payload is no command may come in
wherever a link is between frames.  They are counted and nothing else comes of them: the link
goes on as if they had not come.
-/

namespace PanelLink

/-! ## Receivers with other counts -/

namespace Receiver

def recounted (receiver : Receiver) (tally : Tally) : Receiver :=
  { receiver with tally }

variable (receiver : Receiver) (tally : Tally) (byte : UInt8)

theorem keep?_recounted :
    (receiver.recounted tally).keep? byte =
      (receiver.keep? byte).map fun kept => kept.recounted tally := by
  unfold keep? recounted
  dsimp only
  split
  next => rfl
  next => rfl

theorem keep_recounted :
    (receiver.recounted tally).keep byte = (receiver.keep byte).recounted tally := by
  rw [keep, keep, keep?_recounted]
  cases receiver.keep? byte with
  | none => rfl
  | some kept => rfl

theorem readHeader?_recounted :
    (receiver.recounted tally).readHeader? =
      receiver.readHeader?.map fun ready => ready.recounted tally := by
  unfold readHeader? recounted
  dsimp only
  split
  next =>
    split
    next => rfl
    next => rfl
  next => rfl

theorem exists_finish_recounted :
    ∃ counted, (receiver.recounted tally).finish =
      (receiver.finish.1.recounted counted, receiver.finish.2) := by
  unfold finish recounted
  dsimp only
  split
  next => exact ⟨_, rfl⟩
  next =>
    cases CommandCode.ofByte? (receiver.buffer.getD Frame.preambleLength 0) with
    | none => exact ⟨_, rfl⟩
    | some code => exact ⟨_, rfl⟩

theorem exists_collect_recounted :
    ∃ counted, (receiver.recounted tally).collect byte =
      ((receiver.collect byte).1.recounted counted, (receiver.collect byte).2) := by
  rw [collect, collect, keep?_recounted]
  cases receiver.keep? byte with
  | none => exact ⟨_, rfl⟩
  | some kept =>
      simp only [Option.map_some, readHeader?_recounted]
      cases kept.readHeader? with
      | none => exact ⟨_, rfl⟩
      | some ready =>
          dsimp only [Option.map_some]
          have hlength : (ready.recounted tally).declared =
              some (ready.recounted tally).buffer.size ↔
                ready.declared = some ready.buffer.size := Iff.rfl
          by_cases hready : ready.declared = some ready.buffer.size
          · rw [if_pos hready, if_pos (hlength.2 hready)]
            exact ready.exists_finish_recounted tally
          · rw [if_neg hready, if_neg (mt hlength.1 hready)]
            exact ⟨tally, rfl⟩

/-- A receiver takes a byte the same way whatever it has counted so far. -/
theorem exists_feed_recounted :
    ∃ counted, (receiver.recounted tally).feed byte =
      ((receiver.feed byte).1.recounted counted, (receiver.feed byte).2) := by
  have hphase : (receiver.recounted tally).phase = receiver.phase := rfl
  rw [feed, feed, hphase, keep_recounted]
  cases receiver.phase with
  | preamble matched =>
      dsimp only
      split
      next => exact ⟨tally, rfl⟩
      next =>
        split
        next => exact ⟨_, rfl⟩
        next => exact ⟨_, rfl⟩
  | command =>
      cases CommandCode.ofByte? byte with
      | none => exact ⟨_, rfl⟩
      | some code => exact ⟨tally, rfl⟩
  | collecting => exact receiver.exists_collect_recounted tally byte

theorem exists_handle_recounted (event : LinkEvent) :
    ∃ counted, (receiver.recounted tally).handle event =
      ((receiver.handle event).1.recounted counted, (receiver.handle event).2) := by
  cases event with
  | byte byte => exact receiver.exists_feed_recounted tally byte
  | reset => exact ⟨_, rfl⟩

end Receiver

namespace Link

/-! ## Links with other counts -/

variable {σ : Type}

def recounted (link : Link σ) (counted : Tally) (rejected : UInt32) : Link σ :=
  { link with
    receiver := link.receiver.recounted counted
    tally.payloadErrors := rejected }

/-- The links differ at most in what their receivers have counted and in how many payloads they
have rejected. -/
def Agrees (link other : Link σ) : Prop :=
  ∃ counted rejected, other = link.recounted counted rejected

variable {link other last : Link σ}

theorem Agrees.refl (link : Link σ) : link.Agrees link :=
  ⟨link.receiver.tally, link.tally.payloadErrors, rfl⟩

theorem Agrees.trans (hagrees : link.Agrees other) (hlast : other.Agrees last) :
    link.Agrees last := by
  obtain ⟨_, _, rfl⟩ := hagrees
  obtain ⟨counted, rejected, rfl⟩ := hlast
  exact ⟨counted, rejected, rfl⟩

theorem Agrees.eq (hagrees : link.Agrees other) :
    other = link.recounted other.receiver.tally other.tally.payloadErrors := by
  obtain ⟨counted, rejected, rfl⟩ := hagrees
  rfl

theorem Agrees.draw (hagrees : link.Agrees other) (command : Command) :
    (link.draw command).Agrees (other.draw command) := by
  obtain ⟨counted, rejected, rfl⟩ := hagrees
  exact ⟨counted, rejected, rfl⟩

/-- The receiver of the link is one that was made for frames up to a limit and then fed. -/
def Fed (requested : Nat) (link : Link σ) : Prop :=
  ∃ history, link.receiver = ((Receiver.withLimit requested).run history).1

theorem Agrees.exists_holding
    {requested : Nat} (hagrees : link.Agrees other) (hfed : link.Fed requested)
    (hstage : link.receiver.stage = 0) :
    ∃ tally, other.receiver = Receiver.holding (Receiver.withLimit requested).limit tally [] := by
  obtain ⟨history, hreceiver⟩ := hfed
  obtain ⟨tally, hholding⟩ := Receiver.exists_clean (.inl ⟨hreceiver, hstage⟩)
  obtain ⟨counted, rejected, rfl⟩ := hagrees
  refine ⟨counted, ?_⟩
  rw [recounted, hholding]
  rfl

variable [Sink σ]

theorem Agrees.flush (hagrees : link.Agrees other) :
    other.flush.1 = link.flush.1 ∧ link.flush.2.Agrees other.flush.2 := by
  obtain ⟨counted, rejected, rfl⟩ := hagrees
  cases hdirty : link.compositor.surface.dirty with
  | none =>
      have hdirty' : (link.recounted counted rejected).compositor.surface.dirty = none := hdirty
      rw [flush_of_clean hdirty, flush_of_clean hdirty']
      exact ⟨rfl, counted, rejected, rfl⟩
  | some rect =>
      have hdirty' : (link.recounted counted rejected).compositor.surface.dirty = some rect :=
        hdirty
      rcases hanswer : Sink.flush link.sink link.compositor.surface.view rect with
        ⟨(failure | ⟨⟩), sink⟩
      · rw [flush_of_refused hdirty hanswer, flush_of_refused hdirty' hanswer]
        exact ⟨rfl, counted, rejected, rfl⟩
      · rw [flush_of_accepted hdirty hanswer, flush_of_accepted hdirty' hanswer]
        exact ⟨rfl, counted, rejected, rfl⟩

theorem Agrees.onFrame (hagrees : link.Agrees other) (frame : Frame) :
    (other.onFrame frame).1 = (link.onFrame frame).1 ∧
      (link.onFrame frame).2.Agrees (other.onFrame frame).2 := by
  have hpolicy : other.policy = link.policy := by
    obtain ⟨_, _, rfl⟩ := hagrees
    rfl
  cases hcommand : Command.ofFrame frame with
  | error failure =>
      obtain ⟨counted, rejected, rfl⟩ := hagrees
      rw [onFrame_of_error hcommand, onFrame_of_error hcommand]
      exact ⟨rfl, counted, rejected + 1, rfl⟩
  | ok command =>
      cases hlink : link.policy with
      | manual =>
          rw [hlink] at hpolicy
          rw [onFrame_of_manual hcommand hlink, onFrame_of_manual hcommand hpolicy]
          exact ⟨rfl, hagrees.draw command⟩
      | everyFrame =>
          rw [hlink] at hpolicy
          obtain ⟨hanswer, hflushed⟩ := (hagrees.draw command).flush
          rw [onFrame_of_everyFrame hcommand hlink, onFrame_of_everyFrame hcommand hpolicy,
            hanswer]
          exact ⟨rfl, hflushed⟩

theorem Agrees.handle (hagrees : link.Agrees other) (event : LinkEvent) :
    (other.handle event).1 = (link.handle event).1 ∧
      (link.handle event).2.Agrees (other.handle event).2 := by
  obtain ⟨tally, rejected, rfl⟩ := hagrees
  obtain ⟨counted, hhandle⟩ := link.receiver.exists_handle_recounted tally event
  have hreceiver : (link.recounted tally rejected).receiver.handle event =
      ((link.receiver.handle event).1.recounted counted, (link.receiver.handle event).2) :=
    hhandle
  cases hframe : (link.receiver.handle event).2 with
  | none =>
      rw [hframe] at hreceiver
      rw [handle_of_none hframe, handle_of_none (congrArg Prod.snd hreceiver), hreceiver]
      exact ⟨rfl, counted, rejected, rfl⟩
  | some frame =>
      rw [hframe] at hreceiver
      rw [handle_of_some hframe, handle_of_some (congrArg Prod.snd hreceiver), hreceiver]
      apply Agrees.onFrame
      exact ⟨counted, rejected, rfl⟩

/-! ## Calls -/

/-- What the owner of a link can do with it: hand over an event or a frame, flush, and change the
picture or the sink at will. -/
inductive Call (σ : Type) where
  | handle (event : LinkEvent)
  | onFrame (frame : Frame)
  | flush
  | edit (change : Compositor → σ → Compositor × σ)

inductive Answer where
  | handled (answer : Except FlushError (Option CommandCode))
  | flushed (answer : Except FlushError Bool)
  | edited

def call (link : Link σ) : Call σ → Answer × Link σ
  | .handle event => (.handled (link.handle event).1, (link.handle event).2)
  | .onFrame frame => (.handled (link.onFrame frame).1, (link.onFrame frame).2)
  | .flush => (.flushed link.flush.1, link.flush.2)
  | .edit change =>
    let (compositor, sink) := change link.compositor link.sink
    (.edited, { link with compositor, sink })

def callAll (link : Link σ) : List (Call σ) → Link σ × List Answer
  | [] => (link, [])
  | call :: calls =>
    let (answer, next) := link.call call
    let (last, answers) := next.callAll calls
    (last, answer :: answers)

theorem callAll_cons (link : Link σ) (call : Call σ) (calls : List (Call σ)) :
    link.callAll (call :: calls) =
      (((link.call call).2.callAll calls).1,
        (link.call call).1 :: ((link.call call).2.callAll calls).2) := rfl

theorem Agrees.call (hagrees : link.Agrees other) (call : Call σ) :
    (other.call call).1 = (link.call call).1 ∧
      (link.call call).2.Agrees (other.call call).2 := by
  cases call with
  | handle event =>
      obtain ⟨hanswer, hnext⟩ := hagrees.handle event
      exact ⟨congrArg Answer.handled hanswer, hnext⟩
  | onFrame frame =>
      obtain ⟨hanswer, hnext⟩ := hagrees.onFrame frame
      exact ⟨congrArg Answer.handled hanswer, hnext⟩
  | flush =>
      obtain ⟨hanswer, hnext⟩ := hagrees.flush
      exact ⟨congrArg Answer.flushed hanswer, hnext⟩
  | edit change =>
      obtain ⟨counted, rejected, rfl⟩ := hagrees
      exact ⟨rfl, counted, rejected, rfl⟩

theorem Fed.handle {requested : Nat} (hfed : link.Fed requested) (event : LinkEvent) :
    (link.handle event).2.Fed requested := by
  obtain ⟨history, hreceiver⟩ := hfed
  refine ⟨history ++ [event], ?_⟩
  have hnext : (link.handle event).2.receiver = (link.receiver.handle event).1 :=
    link.receiver_act (.event event)
  rw [hnext, hreceiver, Receiver.run_append]
  rfl

theorem Fed.call {requested : Nat} (hfed : link.Fed requested) (call : Call σ) :
    (link.call call).2.Fed requested := by
  cases call with
  | handle event => exact hfed.handle event
  | onFrame frame =>
      have hflush : ∀ link : Link σ, link.Fed requested → link.flush.2.Fed requested := by
        rintro link ⟨history, hreceiver⟩
        exact ⟨history, (receiver_flush link).trans hreceiver⟩
      exact onFrame_invariant (fun _ _ h => h) (fun _ _ h => h) hflush hfed frame
  | flush =>
      obtain ⟨history, hreceiver⟩ := hfed
      exact ⟨history, (receiver_flush link).trans hreceiver⟩
  | edit change => exact hfed

theorem Fed.callAll {requested : Nat} (hfed : link.Fed requested) (calls : List (Call σ)) :
    (link.callAll calls).1.Fed requested := by
  induction calls generalizing link with
  | nil => exact hfed
  | cons call calls ih => exact ih (hfed.call call)

end Link

/-! ## Damage -/

/-- What may come in between two frames without a command in it: a reset, or a token. -/
inductive Damage where
  | reset
  | heard (token : Token)

namespace Damage

def events : Damage → List LinkEvent
  | .reset => [.reset]
  | .heard token => token.bytes.map LinkEvent.byte

/-- The token is one for this limit, and if it is a sound frame then its payload is no command. -/
def Valid (limit : Nat) : Damage → Prop
  | .reset => True
  | .heard token => token.Valid limit ∧
      ∀ frame, token.frame? = some frame → ∃ failure, Command.ofFrame frame = .error failure

end Damage

theorem Receiver.run_damage
    {limit : Nat} (hmax : limit ≤ Frame.maxLength) (tally : Tally) {damage : Damage}
    (hvalid : damage.Valid limit) :
    (∃ counted, ((holding limit tally []).run damage.events).1 = holding limit counted []) ∧
      ∀ frame ∈ (holding limit tally []).framesOf damage.events,
        ∃ failure, Command.ofFrame frame = .error failure := by
  cases damage with
  | reset =>
      rw [framesOf, Damage.events, run_cons, handle, reset_holding]
      constructor
      · exact ⟨_, rfl⟩
      · intro frame hmem
        contradiction
  | heard token =>
      obtain ⟨htoken, hframe⟩ := hvalid
      rw [framesOf, Damage.events, run_token hmax tally htoken]
      constructor
      · exact ⟨_, rfl⟩
      · intro frame hmem
        have hsome : some frame = token.frame? := by
          simpa [Token.answers] using hmem
        exact hframe frame hsome.symm

namespace Link

variable {σ : Type} [Sink σ] {link other : Link σ}

/-- Events of which the link rejects every frame change its receiver and a counter, and each is
answered with nothing. -/
theorem exists_run_of_rejected
    {events : List LinkEvent}
    (hrejected : ∀ frame ∈ link.receiver.framesOf events,
      ∃ failure, Command.ofFrame frame = .error failure) :
    ∃ rejected, link.run events =
      ({ link with
          receiver := (link.receiver.run events).1
          tally.payloadErrors := rejected },
        List.replicate events.length (.ok none)) := by
  induction events generalizing link with
  | nil => exact ⟨link.tally.payloadErrors, rfl⟩
  | cons event events ih =>
      rw [← List.singleton_append, Receiver.framesOf_append, Receiver.framesOf_singleton]
        at hrejected
      have hlater : ∀ frame ∈ (link.receiver.handle event).1.framesOf events,
          ∃ failure, Command.ofFrame frame = .error failure :=
        fun frame hmem => hrejected frame (List.mem_append_right _ hmem)
      rw [run_cons]
      cases hframe : (link.receiver.handle event).2 with
      | none =>
          rw [handle_of_none hframe]
          obtain ⟨rejected, hrun⟩ :=
            @ih { link with receiver := (link.receiver.handle event).1 } hlater
          rw [hrun]
          exact ⟨rejected, rfl⟩
      | some frame =>
          obtain ⟨failure, hfailure⟩ := hrejected frame (by simp [hframe])
          rw [handle_of_some hframe, onFrame_of_error hfailure]
          obtain ⟨rejected, hrun⟩ :=
            @ih { link with
              receiver := (link.receiver.handle event).1
              tally.payloadErrors := link.tally.payloadErrors + 1 } hlater
          dsimp only at hrun ⊢
          rw [hrun]
          exact ⟨rejected, rfl⟩

/-- Damage between frames is counted, and that is all. -/
theorem run_damage
    {limit : Nat} {tally : Tally} (hmax : limit ≤ Frame.maxLength)
    (hreceiver : link.receiver = Receiver.holding limit tally []) {damage : Damage}
    (hvalid : damage.Valid limit) :
    link.Agrees (link.run damage.events).1 ∧
      ∀ answer ∈ (link.run damage.events).2, answer = .ok none := by
  obtain ⟨⟨counted, hcounted⟩, hrejected⟩ := Receiver.run_damage hmax tally hvalid
  rw [← hreceiver] at hcounted hrejected
  obtain ⟨rejected, hrun⟩ := exists_run_of_rejected hrejected
  rw [hrun, hcounted]
  constructor
  · refine ⟨counted, rejected, ?_⟩
    rw [recounted, hreceiver]
    rfl
  · intro answer hmem
    exact List.eq_of_mem_replicate hmem

theorem offers_run_damage
    {limit : Nat} {tally : Tally} (hmax : limit ≤ Frame.maxLength)
    (hreceiver : link.receiver = Receiver.holding limit tally []) {damage : Damage}
    (hvalid : damage.Valid limit) : (link.recorded.run damage.events).1.sink.offers = [] := by
  have hreceiver' : link.recorded.receiver = Receiver.holding limit tally [] := hreceiver
  obtain ⟨⟨_, _, hlink⟩, -⟩ := run_damage hmax hreceiver' hvalid
  rw [hlink]
  rfl

/-! ## Damaged traffic -/

inductive Traffic (σ : Type) where
  | call (call : Call σ)
  | damage (damage : Damage)

def callsIn (traffic : List (Traffic σ)) : List (Call σ) :=
  traffic.filterMap fun
    | .call call => some call
    | .damage _ => none

/-- Lets calls and damage come in one after the other.  The answers are those to the calls. -/
def carry (link : Link σ) : List (Traffic σ) → Link σ × List Answer
  | [] => (link, [])
  | .call call :: traffic =>
    let (answer, next) := link.call call
    let (last, answers) := next.carry traffic
    (last, answer :: answers)
  | .damage damage :: traffic => (link.run damage.events).1.carry traffic

theorem carry_call (link : Link σ) (call : Call σ) (traffic : List (Traffic σ)) :
    link.carry (.call call :: traffic) =
      (((link.call call).2.carry traffic).1,
        (link.call call).1 :: ((link.call call).2.carry traffic).2) := rfl

/-- Damage comes in only where the calls so far leave the receiver between frames. -/
def DamagedBetweenFrames (link : Link σ) (limit : Nat) (traffic : List (Traffic σ)) : Prop :=
  ∀ before damage after, traffic = before ++ .damage damage :: after →
    damage.Valid limit ∧ (link.callAll (callsIn before)).1.receiver.stage = 0

theorem DamagedBetweenFrames.of_append
    {limit : Nat} {traffic more : List (Traffic σ)}
    (hdamaged : link.DamagedBetweenFrames limit (traffic ++ more)) :
    link.DamagedBetweenFrames limit traffic := by
  rintro before damage after rfl
  apply hdamaged before damage (after ++ more)
  rw [List.append_assoc, List.cons_append]

theorem damagedBetweenFrames_nil {limit : Nat} : link.DamagedBetweenFrames limit [] := by
  intro before damage after hsplit
  have hlength := congrArg List.length hsplit
  simp at hlength

theorem damagedBetweenFrames_call
    {limit : Nat} {call : Call σ} {traffic : List (Traffic σ)} :
    link.DamagedBetweenFrames limit (.call call :: traffic) ↔
      (link.call call).2.DamagedBetweenFrames limit traffic := by
  constructor
  · rintro hdamaged before damage after rfl
    exact hdamaged (.call call :: before) damage after rfl
  · intro hdamaged before damage after hsplit
    cases before with
    | nil =>
        rw [List.nil_append, List.cons.injEq] at hsplit
        exact absurd hsplit.1 (by simp)
    | cons item before =>
        rw [List.cons_append, List.cons.injEq] at hsplit
        obtain ⟨rfl, rfl⟩ := hsplit
        exact hdamaged before damage after rfl

theorem damagedBetweenFrames_damage
    {limit : Nat} {damage : Damage} {traffic : List (Traffic σ)} :
    link.DamagedBetweenFrames limit (.damage damage :: traffic) ↔
      (damage.Valid limit ∧ link.receiver.stage = 0) ∧
        link.DamagedBetweenFrames limit traffic := by
  constructor
  · intro hdamaged
    constructor
    · exact hdamaged [] damage traffic rfl
    · rintro before other after rfl
      exact hdamaged (.damage damage :: before) other after rfl
  · rintro ⟨hfirst, hdamaged⟩ before other after hsplit
    cases before with
    | nil =>
        rw [List.nil_append, List.cons.injEq, Traffic.damage.injEq] at hsplit
        obtain ⟨rfl, -⟩ := hsplit
        exact hfirst
    | cons item before =>
        rw [List.cons_append, List.cons.injEq] at hsplit
        obtain ⟨rfl, rfl⟩ := hsplit
        exact hdamaged before other after rfl

/-- Beside a link that only gets the calls, one that is damaged in between stays the same but for
its counts, and gives the same answers. -/
theorem Agrees.carry
    {requested : Nat} (hagrees : link.Agrees other) (hfed : link.Fed requested)
    {traffic : List (Traffic σ)}
    (hdamaged : link.DamagedBetweenFrames (Receiver.withLimit requested).limit traffic) :
    (link.callAll (callsIn traffic)).1.Agrees (other.carry traffic).1 ∧
      (other.carry traffic).2 = (link.callAll (callsIn traffic)).2 := by
  -- `Fed` is kept for the undamaged link only; `exists_holding` carries over to the other what
  -- it says where damage comes in.
  induction traffic generalizing link other with
  | nil => exact ⟨hagrees, rfl⟩
  | cons item traffic ih =>
      cases item with
      | call call =>
          obtain ⟨hanswer, hnext⟩ := hagrees.call call
          obtain ⟨hlast, hanswers⟩ := ih hnext (hfed.call call) (damagedBetweenFrames_call.1 hdamaged)
          have hcalls : callsIn (.call call :: traffic) = call :: callsIn traffic := rfl
          rw [hcalls, callAll_cons, carry_call, hanswer, hanswers]
          exact ⟨hlast, rfl⟩
      | damage damage =>
          obtain ⟨⟨hvalid, hstage⟩, hlater⟩ := damagedBetweenFrames_damage.1 hdamaged
          obtain ⟨tally, hreceiver⟩ := hagrees.exists_holding hfed hstage
          obtain ⟨hnext, -⟩ :=
            run_damage (Receiver.limit_le_maxLength requested) hreceiver hvalid
          exact ih (hagrees.trans hnext) hfed hlater

end Link

/-- Resets, noise, false starts, damaged frames and frames that are no command may come in wherever
the calls so far leave the receiver between frames.  They are answered with nothing and offer
nothing to the sink; every call is answered as it would be without them; and in the end the link
is the same but for what its receiver has counted and for the payloads it has rejected. -/
theorem damage_is_invisible
    {σ : Type} [Sink σ] {settings : LinkSettings} {storage : Array UInt8} {sink : σ}
    {start : Link σ} (hcreate : Link.create settings storage sink = .ok start)
    {traffic : List (Link.Traffic σ)}
    (hdamaged : start.DamagedBetweenFrames settings.frameLimit.toNat traffic) :
    let clean := start.callAll (Link.callsIn traffic)
    let damaged := start.carry traffic
    damaged.1 = { clean.1 with
        receiver.tally := damaged.1.receiver.tally
        tally.payloadErrors := damaged.1.tally.payloadErrors } ∧
      damaged.2 = clean.2 ∧
      ∀ before damage after, traffic = before ++ .damage damage :: after →
        let link := (start.carry before).1
        (∀ answer ∈ (link.run damage.events).2, answer = .ok none) ∧
          (link.recorded.run damage.events).1.sink.offers = [] := by
  obtain ⟨hmin, hmax⟩ := Link.frameLimit_of_create hcreate
  have hlimit : (Receiver.withLimit settings.frameLimit.toNat).limit =
      settings.frameLimit.toNat := by
    rw [Receiver.withLimit_limit]
    omega
  have hfed : start.Fed settings.frameLimit.toNat := by
    obtain ⟨_, -, rfl⟩ := Link.of_create hcreate
    exact ⟨[], rfl⟩
  have hagrees := Link.Agrees.refl start
  rw [← hlimit] at hdamaged hmax
  intro clean damaged
  obtain ⟨hlink, hanswers⟩ := hagrees.carry hfed hdamaged
  refine ⟨hlink.eq, hanswers, ?_⟩
  rintro before damage after rfl
  obtain ⟨hvalid, hstage⟩ := hdamaged before damage after rfl
  obtain ⟨hbefore, -⟩ := hagrees.carry hfed hdamaged.of_append
  obtain ⟨tally, hreceiver⟩ := hbefore.exists_holding (hfed.callAll _) hstage
  constructor
  · exact (Link.run_damage hmax hreceiver hvalid).2
  · exact Link.offers_run_damage hmax hreceiver hvalid

theorem damage_is_invisible_before_retry :
    let settings : LinkSettings := { width := 3, height := 1 }
    let sink : Intermittent Shadow :=
      { inner := Shadow.blank 3 1
        schedule := fun attempt => if attempt = 0 then some .communication else none }
    let damages : List (Link.Traffic (Intermittent Shadow)) :=
      [.damage (.heard (.brokenPreamble 2 0)), .damage .reset,
        .damage (.heard (.badLength .fillRect 6 0)),
        .damage (.heard (.badChecksum .fillRect 7 0 [1])),
        .damage (.heard (.frame .fillRect 7 0 [0xBC]))]
    let pixel : List (Link.Traffic (Intermittent Shadow)) :=
      [0xAA, 0xAA, 0xAA, 0x11, 18, 0, 1, 0, 0, 0, 1, 0, 0, 0, 255, 0, 0, 0x56].map fun byte =>
        .call (.handle (.byte byte))
    let traffic := damages ++ pixel ++ damages ++ [.call .flush]
    ∃ start : Link (Intermittent Shadow),
      Link.create settings (Array.replicate 12 0) sink = .ok start ∧
        start.DamagedBetweenFrames 2990 traffic ∧
        let clean := start.callAll (Link.callsIn traffic)
        let damaged := start.carry traffic
        damaged.2 = clean.2 ∧ damaged.1.compositor = clean.1.compositor ∧
          damaged.1.sink = clean.1.sink ∧ damaged.1.sink.accepted = [⟨0, 0, 2, 0⟩] ∧
          damaged.1.tally =
            { framesApplied := 1, payloadErrors := 2, flushes := 1, flushErrors := 1 } ∧
          clean.1.tally = { framesApplied := 1, flushes := 1, flushErrors := 1 } ∧
          damaged.1.receiver.tally ≠ clean.1.receiver.tally := by
  intro settings sink damages pixel traffic
  obtain ⟨start, hcreate⟩ : ∃ start, Link.create settings (Array.replicate 12 0) sink =
      .ok start := ⟨_, rfl⟩
  have hdamaged : start.DamagedBetweenFrames 2990 traffic := by
    simp only [traffic, damages, pixel, List.map_cons, List.map_nil, List.cons_append,
      List.nil_append, Link.damagedBetweenFrames_call, Link.damagedBetweenFrames_damage]
    have hvalid : (Damage.heard (.brokenPreamble 2 0)).Valid 2990 ∧
        (Damage.heard (.badLength .fillRect 6 0)).Valid 2990 ∧
        (Damage.heard (.badChecksum .fillRect 7 0 [1])).Valid 2990 ∧
        (Damage.heard (.frame .fillRect 7 0 [0xBC])).Valid 2990 := by
      have hcomplete : ∀ last, Token.Complete 2990 7 0 [last] :=
        fun last => ⟨by decide, by decide, by rfl⟩
      refine ⟨⟨⟨.inr rfl, by decide⟩, nofun⟩, ⟨.inl (by decide), nofun⟩,
        ⟨⟨hcomplete 1, by decide⟩, nofun⟩, ⟨hcomplete 0xBC, by decide⟩, ?_⟩
      rintro _ ⟨rfl⟩
      exact ⟨_, rfl⟩
    obtain ⟨hpreamble, hlength, hchecksum, hframe⟩ := hvalid
    have hreset : Damage.reset.Valid 2990 := trivial
    simp only [hpreamble, hlength, hchecksum, hframe, hreset, true_and,
      Link.damagedBetweenFrames_nil, and_true]
    cases hcreate
    decide +kernel
  have hcounts : (start.carry traffic).1.sink.accepted = [⟨0, 0, 2, 0⟩] ∧
      (start.carry traffic).1.tally =
        { framesApplied := 1, payloadErrors := 2, flushes := 1, flushErrors := 1 } ∧
      (start.callAll (Link.callsIn traffic)).1.tally =
        { framesApplied := 1, flushes := 1, flushErrors := 1 } ∧
      (start.carry traffic).1.receiver.tally ≠
        (start.callAll (Link.callsIn traffic)).1.receiver.tally := by
    cases hcreate
    decide +kernel
  obtain ⟨haccepted, hdamagedTally, hcleanTally, hreceiver⟩ := hcounts
  obtain ⟨hlink, hanswers, -⟩ := damage_is_invisible hcreate hdamaged
  refine ⟨start, hcreate, hdamaged, hanswers, ?_, ?_, haccepted, hdamagedTally, hcleanTally,
    hreceiver⟩
  · rw [hlink]
  · rw [hlink]

end PanelLink
