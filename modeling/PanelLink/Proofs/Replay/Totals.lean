import PanelLink.Event.Queue
import PanelLink.Panel.Intermittent
import PanelLink.Proofs.Link.Ledger
import PanelLink.Proofs.Link.Mirror
import PanelLink.Proofs.Replay.Steps

/-!
# The totals of a replay

A replay pumps its captures one after the other.  What it counts for each of them adds up to
what the link has counted in the end.
-/

namespace PanelLink

theorem countP_isReset_session (bytes : List UInt8) :
    (session bytes).countP LinkEvent.isReset = 1 := by
  have hbytes : (bytes.map LinkEvent.byte).countP LinkEvent.isReset = 0 := by
    rw [List.countP_map, List.countP_eq_zero]
    exact fun byte _ => Bool.false_ne_true
  rw [session, List.countP_cons, hbytes]
  rfl

theorem countP_isReset_sessions (captures : List (List UInt8)) :
    (captures.flatMap session).countP LinkEvent.isReset = captures.length := by
  induction captures with
  | nil => rfl
  | cons bytes captures ih =>
      rw [List.flatMap_cons, List.countP_append, countP_isReset_session, ih, List.length_cons,
        Nat.add_comm]

namespace Link

variable {σ : Type} [Sink σ]

/-- Pumps the captures one after the other. -/
def pumpAll (link : Link σ) :
    List (List UInt8) → Link σ × List (Drained σ (Capture Unit) Unit)
  | [] => (link, [])
  | bytes :: captures =>
    let drained := link.pump ({ bytes } : Capture Unit)
    let (last, drains) := drained.link.pumpAll captures
    (last, drained :: drains)

theorem pumpAll_cons (link : Link σ) (bytes : List UInt8) (captures : List (List UInt8)) :
    link.pumpAll (bytes :: captures) =
      (((link.run (session bytes)).1.pumpAll captures).1, {
          outcome := .ok ((link.run (session bytes)).2.countP applied)
          link := (link.run (session bytes)).1
          source := { bytes := [], resetPending := false, delivered := bytes.length } } ::
        ((link.run (session bytes)).1.pumpAll captures).2) := by
  have hpump := link.pump_eq_run 0 (Capture.yields bytes (none : Option Unit))
  rw [Nat.zero_add] at hpump
  rw [pumpAll, hpump]
  rfl

theorem pumpAll_eq_run (link : Link σ) (captures : List (List UInt8)) :
    (link.pumpAll captures).1 = (link.run (captures.flatMap session)).1 := by
  induction captures generalizing link with
  | nil => rfl
  | cons bytes captures ih => rw [pumpAll_cons, ih, List.flatMap_cons, run_append]

theorem delivered_pumpAll (link : Link σ) (captures : List (List UInt8)) :
    (link.pumpAll captures).2.map (fun drained => drained.source.delivered) =
      captures.map List.length := by
  induction captures generalizing link with
  | nil => rfl
  | cons bytes captures ih => rw [pumpAll_cons, List.map_cons, ih, List.map_cons]

theorem exists_counts_pumpAll (link : Link σ) (captures : List (List UInt8)) :
    ∃ counts : List Nat,
      (link.pumpAll captures).2.map Drained.outcome = counts.map .ok ∧
        counts.sum = (link.run (captures.flatMap session)).2.countP applied := by
  induction captures generalizing link with
  | nil => exact ⟨[], rfl, rfl⟩
  | cons bytes captures ih =>
      obtain ⟨counts, houtcomes, hsum⟩ := ih (link.run (session bytes)).1
      refine ⟨(link.run (session bytes)).2.countP applied :: counts, ?_, ?_⟩
      · rw [pumpAll_cons, List.map_cons, houtcomes, List.map_cons]
      · rw [List.sum_cons, hsum, List.flatMap_cons, run_append, List.countP_append]

end Link

/-- A link that is driven by events and flushes counts every frame as applied or as no command,
every applied frame as an answer, every flush as the sink took it and every reset pulse, with
counters of 32 bits.  In a replay on a lawful host each capture brings one reset pulse, is delivered
to its last byte, and adds its own count of frames to the total. -/
theorem counters_balance :
    (∀ {σ : Type} [Sink σ] (settings : LinkSettings) (storage : Array UInt8) (sink : σ)
        (start link : Link σ) (ledger : Ledger),
      Link.create settings storage sink = .ok start →
      start.Driven ledger link →
        link.receiver.tally.frames = link.tally.framesApplied + link.tally.payloadErrors ∧
          link.tally.framesApplied = UInt32.ofNat (ledger.answers.countP Link.applied) ∧
          link.tally.flushes = UInt32.ofNat (ledger.offers.countP Offer.isAccepted) ∧
          link.tally.flushErrors = UInt32.ofNat (ledger.offers.countP Offer.isRefused) ∧
          link.receiver.tally.linkResets =
            UInt32.ofNat (ledger.events.countP LinkEvent.isReset) ∧
          (ledger.events.countP LinkEvent.isReset < 2 ^ 32 →
            link.receiver.tally.linkResets.toNat = ledger.events.countP LinkEvent.isReset) ∧
          (settings.policy = .manual →
            ∀ event, ∃ answer, (link.handle event).1 = .ok answer)) ∧
    ∀ {m : Type → Type} [Monad m] [LawfulMonad m] [Host m] (host : LawfulHost m)
        (world : host.World) (filter : LogFilter) (settings : LinkSettings)
        (start : Link Shadow) (paths : List String) (captures : List (List UInt8)),
      Replay.startLink settings = .ok start →
      Replay.Reads host (host.files world) paths captures →
        let drains := (start.pumpAll captures).2
        let link := (start.pumpAll captures).1.flush.2
        Replay.Ends host filter (host.files world) (Replay.playAll settings paths) (.ok link) ∧
          link.receiver.tally.linkResets = UInt32.ofNat captures.length ∧
          drains.map (fun drained => drained.source.delivered) = captures.map List.length ∧
          ∃ counts : List Nat,
            drains.map Link.Drained.outcome = counts.map .ok ∧
              link.tally.framesApplied = UInt32.ofNat counts.sum := by
  refine ⟨?_, ?_⟩
  · intro σ _ settings storage sink start link ledger hcreate hdriven
    have hbalanced : link.Balanced ledger :=
      hdriven.balanced (Link.balanced_of_create hcreate)
    refine ⟨hbalanced.frames_eq, hbalanced.framesApplied_eq, hbalanced.flushes_eq,
      hbalanced.flushErrors_eq, hbalanced.linkResets_eq, ?_, ?_⟩
    · intro hlt
      rw [hbalanced.linkResets_eq, UInt32.toNat_ofNat_of_lt' hlt]
    · intro hmanual
      have hpolicy : link.policy = .manual := by
        rw [hdriven.policy_eq, Link.policy_of_create hcreate, hmanual]
      exact Link.exists_handle_eq_of_manual hpolicy
  · intro m _ _ _ host world filter settings start paths captures hstart hreads drains link
    have hbalanced := Link.balanced_of_create hstart
    have hmirrored := Link.mirrored_of_create rfl hstart
    obtain ⟨answer, hflush⟩ := (hmirrored.run (captures.flatMap session)).exists_flush_eq
    have hends : Replay.Ends host filter (host.files world) (Replay.playAll settings paths)
        (.ok link) := by
      have hlink : link = (start.run (captures.flatMap session)).1.flush.2 := by
        rw [← start.pumpAll_eq_run]
      rw [hlink]
      exact Replay.ends_playAll hstart hreads hflush
    obtain ⟨counts, houtcomes, hsum⟩ := start.exists_counts_pumpAll captures
    refine ⟨hends, ?_, start.delivered_pumpAll captures, counts, houtcomes, ?_⟩
    · rw [Link.receiver_flush, start.pumpAll_eq_run, Link.receiver_run, Receiver.linkResets_run,
        hbalanced.linkResets_eq, countP_isReset_sessions]
      exact UInt32.zero_add _
    · rw [(Link.counts_flush _).1, start.pumpAll_eq_run,
        (start.counted (captures.flatMap session)).framesApplied_eq, hbalanced.framesApplied_eq,
        hsum, (start.counted (captures.flatMap session)).applied_eq]
      exact UInt32.zero_add _

/-- A link whose first flush is refused and that then gets a frame that draws and one that is no
command, the same link with flushes on request only, and a replay of a capture of either frame. -/
theorem counters_balance_after_refusal :
    let settings : LinkSettings := { width := 2, height := 1 }
    let sink : Intermittent Shadow :=
      { inner := Shadow.blank 2 1
        schedule := fun attempt => if attempt = 0 then some .notReady else none }
    let pixel : List UInt8 :=
      [0xAA, 0xAA, 0xAA, 0x11, 18, 0, 1, 0, 0, 0, 1, 0, 0, 0, 255, 0, 0, 0x56]
    let empty : List UInt8 := [0xAA, 0xAA, 0xAA, 0x11, 7, 0, 0xBC]
    let source : EventQueue Unit := { pending := (pixel ++ empty).map LinkEvent.byte }
    let bench : Bench := ⟨[(["a"], .file empty), (["b"], .file pixel)], []⟩
    (∃ start link : Link (Intermittent Shadow), ∃ ledger,
      Link.create settings (Array.replicate 8 0) sink = .ok start ∧
        start.Driven ledger link ∧
        link = ((start.handle .reset).2.flush.2.pump source).link ∧
        link.receiver.tally.frames = 1 + link.tally.payloadErrors ∧
        link.tally.flushes = 1 ∧
        link.tally.flushErrors = 1 ∧
        link.receiver.tally.linkResets = 1) ∧
    (∃ start : Link (Intermittent Shadow),
      Link.create { settings with policy := .manual } (Array.replicate 8 0) sink = .ok start ∧
        ∀ event, ∃ answer, (start.handle event).1 = .ok answer) ∧
    ∃ start link : Link Shadow,
      Replay.startLink settings = .ok start ∧
        Replay.Ends Bench.lawfulHost .standard bench.entries
          (Replay.playAll settings ["a", "b"]) (.ok link) ∧
        (start.pumpAll [empty, pixel]).2.map (fun drained => drained.source.delivered) =
          [7, 18] ∧
        link.tally.framesApplied = 1 ∧
        link.receiver.tally.linkResets = 2 := by
  intro settings sink pixel empty source bench
  obtain ⟨hdriving, hreplaying⟩ := counters_balance
  refine ⟨?_, ?_, ?_⟩
  · obtain ⟨start, hcreate⟩ : ∃ start, Link.create settings (Array.replicate 8 0) sink =
        .ok start := ⟨_, rfl⟩
    have hyields := EventQueue.yields ((pixel ++ empty).map LinkEvent.byte) (none : Option Unit)
    have hdriven := ((Link.Driven.start.handle .reset).flush.pump hyields : start.Driven _ _)
    obtain ⟨hframes, happlied, hflushes, hflushErrors, hresets, -⟩ :=
      hdriving _ _ _ _ _ _ hcreate hdriven
    refine ⟨start, _, _, hcreate, hdriven, rfl, ?_, ?_, ?_, ?_⟩
    · rw [hframes, happlied]
      cases hcreate
      decide +kernel
    · rw [hflushes]
      cases hcreate
      decide +kernel
    · rw [hflushErrors]
      cases hcreate
      decide +kernel
    · rw [hresets]
      cases hcreate
      decide +kernel
  · obtain ⟨start, hcreate⟩ : ∃ start, Link.create { settings with policy := .manual }
        (Array.replicate 8 0) sink = .ok start := ⟨_, rfl⟩
    obtain ⟨-, -, -, -, -, -, hmanual⟩ := hdriving _ _ _ _ _ _ hcreate .start
    exact ⟨start, hcreate, hmanual rfl⟩
  · obtain ⟨start, hstart⟩ : ∃ start, Replay.startLink settings = .ok start := ⟨_, rfl⟩
    have hfirst : bench.locate "a" = some ["a"] := by
      have hplain : "a".contains '\x00' = false := by simp
      rw [Bench.locate, hplain]
      decide +kernel
    have hsecond : bench.locate "b" = some ["b"] := by
      have hplain : "b".contains '\x00' = false := by simp
      rw [Bench.locate, hplain]
      decide +kernel
    have hreads : Replay.Reads Bench.lawfulHost bench.entries ["a", "b"] [empty, pixel] :=
      .cons (Bench.openCapture_of_file hfirst rfl)
        (.cons (Bench.openCapture_of_file hsecond rfl) .nil)
    obtain ⟨hends, hresets, hdelivered, counts, houtcomes, happlied⟩ :=
      hreplaying Bench.lawfulHost bench .standard settings start _ _ hstart hreads
    have hdrains : (start.pumpAll [empty, pixel]).2.map Link.Drained.outcome =
        [0, 1].map Except.ok := by
      rw [Link.pumpAll_cons, Link.pumpAll_cons]
      cases hstart
      decide +kernel
    have hcounts : [0, 1] = counts :=
      List.map_injective_iff.2 (fun _ _ h => Except.ok.inj h) (hdrains.symm.trans houtcomes)
    refine ⟨start, _, hstart, hends, hdelivered, ?_, hresets⟩
    rw [happlied, ← hcounts]
    rfl

end PanelLink
