import Mathlib
import PanelLink.Proofs.Link.Decoding
import PanelLink.Proofs.Link.Mirror
import PanelLink.Proofs.Replay.Steps
import PanelLink.Proofs.Settings.Valid

/-!
# The picture of a replay

A replay saves what the commands in its captures draw on a new surface, whenever the
link flushes.
-/

namespace PanelLink

structure Shadow.Shows (shadow : Shadow) (surface : Surface) : Prop where
  width_eq : shadow.width = surface.width
  height_eq : shadow.height = surface.height
  pixel?_eq : ∀ x y : Nat, shadow.pixel? x y = surface.pixel? ⟨x, y⟩

/-- What the commands draw that a new receiver finds in each of the captures. -/
def Surface.drawCaptures
    (surface : Surface) (background : Color) (limit : Nat) (captures : List (List UInt8)) :
    Surface :=
  ((Compositor.create surface background).applyAll
    (commandsIn (captures.flatMap (Receiver.framesIn limit)))).surface

namespace Replay

def zeroStorage (settings : LinkSettings) : Array UInt8 :=
  Array.replicate (storageLength settings.width.toNat settings.height.toNat) 0

theorem exists_surface {settings : LinkSettings} (hvalid : settings.validate = .ok ()) :
    ∃ surface, Surface.ofStorage settings.width settings.height (zeroStorage settings) =
      .ok surface := by
  rcases LinkSettings.validate_eq_ok_iff.mp hvalid with ⟨hwidth, hheight, -, -⟩
  apply Surface.exists_ofStorage hwidth hheight
  simp [zeroStorage]

theorem startLink_eq
    {settings : LinkSettings} {surface : Surface} (hvalid : settings.validate = .ok ())
    (hsurface : Surface.ofStorage settings.width settings.height (zeroStorage settings) =
      .ok surface) :
    startLink settings = .ok {
      receiver := Receiver.withLimit settings.frameLimit.toNat
      compositor := Compositor.create surface settings.backgroundColor
      sink := Shadow.blank settings.width.toNat settings.height.toNat
      policy := settings.policy } := by
  unfold startLink
  rw [Link.create, hvalid]
  dsimp only
  rw [zeroStorage] at hsurface
  rw [hsurface]

theorem shows_drawCaptures
    {start : Link Shadow} {surface : Surface} {background : Color} {limit : Nat}
    (hreceiver : start.receiver = Receiver.withLimit limit)
    (hcompositor : start.compositor = Compositor.create surface background)
    (hmirrored : start.Mirrored) (captures : List (List UInt8)) :
    (start.run (captures.flatMap session)).1.flush.2.sink.Shows
      (surface.drawCaptures background limit captures) := by
  let played := (start.run (captures.flatMap session)).1
  have hplayed : played.Mirrored := hmirrored.run _
  obtain ⟨hflushed, hclean, _⟩ := hplayed.flush
  obtain ⟨answer, hanswer⟩ := hplayed.exists_flush_eq
  have hframes : (start.receiver.run (captures.flatMap session)).2.filterMap id =
      captures.flatMap (Receiver.framesIn limit) := by
    rw [hreceiver]
    exact Receiver.frames_sessions limit [] captures
  have hdrawn : played.compositor.Alike ((Compositor.create surface background).applyAll
      (commandsIn (captures.flatMap (Receiver.framesIn limit)))) := by
    rw [← hframes]
    apply Link.alike_run
    rw [hcompositor]
    exact .refl _
  have halike : played.flush.2.compositor.Alike ((Compositor.create surface background).applyAll
      (commandsIn (captures.flatMap (Receiver.framesIn limit)))) :=
    (Link.alike_flush played).trans hdrawn
  constructor
  · exact hflushed.width_eq.trans halike.surface.width_eq
  · exact hflushed.height_eq.trans halike.surface.height_eq
  · intro x y
    exact (hflushed.shown (hclean answer hanswer) x y).trans (halike.surface.pixel?_eq ⟨x, y⟩)

/-- Playing captures that can be read never fails, and no flush is refused.  The policy decides
when the picture reaches the shadow, not what it is in the end. -/
theorem exists_played
    {m : Type → Type} [Monad m] [LawfulMonad m] [Host m] {host : LawfulHost m}
    {filter : LogFilter} {files : host.Files} {settings : LinkSettings}
    {surface : Surface} {paths : List String} {captures : List (List UInt8)}
    (hvalid : settings.validate = .ok ())
    (hsurface : Surface.ofStorage settings.width settings.height (zeroStorage settings) =
      .ok surface)
    (hreads : Reads host files paths captures) :
    ∃ start : Link Shadow, startLink settings = .ok start ∧
      let played := start.run (captures.flatMap session)
      Ends host filter files (playAll settings paths) (.ok played.1.flush.2) ∧
        (∀ answer ∈ played.2, ∃ code, answer = .ok code) ∧
        (∃ answer, played.1.flush.1 = .ok answer) ∧
        played.1.flush.2.tally.flushErrors = 0 ∧
        played.1.flush.2.sink.Shows
          (surface.drawCaptures settings.backgroundColor settings.frameLimit.toNat captures) := by
  have hstart := startLink_eq hvalid hsurface
  have hmirrored := Link.mirrored_of_create rfl hstart
  have hanswers := hmirrored.run_eq_ok (captures.flatMap session)
  obtain ⟨answer, hflush⟩ := (hmirrored.run (captures.flatMap session)).exists_flush_eq
  refine ⟨_, hstart, ends_playAll hstart hreads hflush, hanswers, ⟨answer, hflush⟩, ?_, ?_⟩
  · rw [Link.flushErrors_flush hflush, Link.flushErrors_run hanswers]
  · exact shows_drawCaptures rfl rfl hmirrored captures

end Replay

/-- On a lawful host, captures that can be read are played to the end, and the shadow then has the
picture that the commands in them draw, whatever the policy; that picture is saved if there is a
place for it.  With a capture that cannot be read the run fails and nothing is saved. -/
theorem replay_draws_captures
    {m : Type → Type} [Monad m] [LawfulMonad m] [Host m] (host : LawfulHost m)
    (world : host.World) (logFilter : Option String) :
    let files := host.files world
    let filter := Replay.filterOf logFilter
    (∀ (settings : LinkSettings) (paths : List String) (captures : List (List UInt8)),
      settings.validate = .ok () →
      Replay.Reads host files paths captures →
      ∃ surface, Surface.ofStorage settings.width settings.height
          (Replay.zeroStorage settings) = .ok surface ∧
        ∀ policy, ∃ start : Link Shadow,
          Replay.startLink { settings with policy } = .ok start ∧
          let played := start.run (captures.flatMap session)
          let link := played.1.flush.2
          Replay.Ends host filter files
              (Replay.playAll { settings with policy } paths) (.ok link) ∧
            (∀ answer ∈ played.2, ∃ code, answer = .ok code) ∧
            (∃ answer, played.1.flush.1 = .ok answer) ∧
            link.tally.flushErrors = 0 ∧
            link.sink.Shows (surface.drawCaptures settings.backgroundColor
              settings.frameLimit.toNat captures)) ∧
    (∀ (commandLine : List String) (arguments : Arguments) (settings : ReplaySettings)
        (captures : List (List UInt8)),
      let output := arguments.output.getD settings.output
      Arguments.parse commandLine = .ok arguments →
      Replay.Ends host filter files (Replay.loadSettings arguments.settings) (.ok settings) →
      settings.link.validate = .ok () →
      Replay.Reads host files arguments.captures captures →
      Replay.Writable host files output →
      ∃ surface shadow complaints next,
        Surface.ofStorage settings.link.width settings.link.height
            (Replay.zeroStorage settings.link) = .ok surface ∧
          host.perform (Replay.run commandLine logFilter) world = (⟨0, complaints⟩, next) ∧
          host.files next = host.saved files output shadow ∧
          host.picture? (host.files next) output = some shadow ∧
          shadow.Shows (surface.drawCaptures settings.link.backgroundColor
            settings.link.frameLimit.toNat captures)) ∧
    (∀ (commandLine : List String) (arguments : Arguments),
      Arguments.parse commandLine = .ok arguments →
      Replay.Unreadable host files arguments.captures →
      ∃ complaints next,
        host.perform (Replay.run commandLine logFilter) world = (⟨1, complaints⟩, next) ∧
          host.files next = files) := by
  intro files filter
  refine ⟨?_, ?_, ?_⟩
  · intro settings paths captures hvalid hreads
    obtain ⟨surface, hsurface⟩ := Replay.exists_surface hvalid
    refine ⟨surface, hsurface, ?_⟩
    intro policy
    have hvalid' : ({ settings with policy } : LinkSettings).validate = .ok () := hvalid
    exact Replay.exists_played hvalid' hsurface hreads
  · intro commandLine arguments settings captures output harguments hload hvalid hreads hwritable
    obtain ⟨surface, hsurface⟩ := Replay.exists_surface hvalid
    obtain ⟨start, _, hplay, _, _, _, hshows⟩ := Replay.exists_played hvalid hsurface hreads
    obtain ⟨next, hreplay, hsaved⟩ :=
      Replay.leads_replay harguments hload hplay hwritable world rfl
    obtain ⟨complaints, hrun⟩ := Replay.run_eq hreplay
    refine ⟨surface, _, complaints, next, hsurface, hrun, hsaved, ?_, hshows⟩
    rw [hsaved]
    exact host.picture?_saved files output _ hwritable.2
  · intro commandLine arguments harguments hunreadable
    obtain ⟨failure, hfails⟩ := Replay.exists_ends_replay_error harguments hunreadable
    obtain ⟨next, hreplay, hkept⟩ := hfails world rfl
    obtain ⟨complaints, hrun⟩ := Replay.run_eq hreplay
    exact ⟨complaints, next, hrun, hkept⟩

/-- A frame that breaks off at the end of a capture does not spoil the next one.  Without the
damaged capture the picture is saved, and with it nothing is. -/
theorem replay_draws_captures_unfinished :
    let frame : List UInt8 :=
      [0xAA, 0xAA, 0xAA, 0x11, 18, 0, 1, 0, 0, 0, 1, 0, 0, 0, 255, 0, 0, 0x56]
    let unfinished : List UInt8 := [0xAA, 0xAA, 0xAA, 0x11]
    let bench : Bench :=
      ⟨[(["a"], .file unfinished), (["b"], .file frame), (["c"], .damaged frame)], []⟩
    let settings : LinkSettings := { width := 2, height := 1 }
    (∃ link, Replay.Ends Bench.lawfulHost (Replay.filterOf none) bench.entries
        (Replay.playAll settings ["a", "b"]) (.ok link) ∧
      link.sink.pixel? 1 0 = some ⟨0, 0, 255⟩) ∧
    (∃ shadow complaints next,
      (Replay.run ["a", "b"] none : StateM Bench Replay.Outcome).run bench =
          (⟨0, complaints⟩, next) ∧
        next.find? ["pixlink.png"] = some (.picture shadow) ∧
        Bench.picture? ⟨next.entries, []⟩ "pixlink.png" = some shadow) ∧
    ∃ complaints next,
      (Replay.run ["a", "b", "c"] none : StateM Bench Replay.Outcome).run bench =
          (⟨1, complaints⟩, next) ∧
        next.entries = bench.entries := by
  intro frame unfinished bench settings
  obtain ⟨hplayed, hsaved, hfailed⟩ := replay_draws_captures Bench.lawfulHost bench none
  have hreads : Replay.Reads Bench.lawfulHost bench.entries ["a", "b"] [unfinished, frame] :=
    .cons (by cbv) (.cons (by cbv) .nil)
  refine ⟨?_, ?_, ?_⟩
  · obtain ⟨surface, hsurface, hpolicies⟩ := hplayed settings _ _ rfl hreads
    obtain ⟨start, _, hends, _, _, _, hshows⟩ := hpolicies .everyFrame
    refine ⟨_, hends, (hshows.pixel?_eq 1 0).trans ?_⟩
    cases hsurface
    cbv
  · have hload : Replay.Ends Bench.lawfulHost (Replay.filterOf none) bench.entries
        (Replay.loadSettings none) (.ok {}) :=
      (Replay.ends_report _ _ _).bind (.pure _)
    have hplace : bench.locate "pixlink.png" = some ["pixlink.png"] := by cbv
    have hfree : bench.IsFree ["pixlink.png"] := ⟨by cbv, by decide⟩
    have hwritable : Replay.Writable Bench.lawfulHost bench.entries "pixlink.png" :=
      ⟨by cbv, ["pixlink.png"], hplace, hfree⟩
    obtain ⟨_, shadow, complaints, next, _, hrun, hentries, hpicture, _⟩ :=
      hsaved ["a", "b"] { captures := ["a", "b"] } {} _ rfl hload rfl hreads hwritable
    refine ⟨shadow, complaints, next, hrun, ?_, hpicture⟩
    have hkept : next.entries = Bench.withPicture bench.entries ["pixlink.png"] shadow :=
      hentries.trans (congrArg (fun saved => saved.2.entries)
        (Bench.savePicture_of_isFree hplace hfree shadow))
    change next.entries.lookup ["pixlink.png"] = some (.picture shadow)
    rw [hkept]
    exact List.lookup_cons_self
  · have hunreadable : Replay.Unreadable Bench.lawfulHost bench.entries ["a", "b", "c"] := by
      refine ⟨"c", by simp, ?_⟩
      intro bytes heq
      have hopen : bench.openCapture "c" = some { bytes := frame, failure := some () } := by
        cbv
      have heq' : bench.openCapture "c" = some { bytes } := heq
      rw [hopen, Option.some.injEq, Capture.mk.injEq] at heq'
      obtain ⟨_, hfailure, _⟩ := heq'
      contradiction
    exact hfailed _ { captures := ["a", "b", "c"] } rfl hunreadable

end PanelLink
