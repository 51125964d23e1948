import Mathlib.Tactic
import PanelLink.Proofs.Link.Pumping
import PanelLink.Proofs.Replay.Host
import PanelLink.Proofs.Wire.Session
import PanelLink.Replay.Run

/-!
# Steps on a host

On a lawful host, what a step of a replay comes to depends on the files and on nothing else in the
world.  Almost all steps leave the files alone.
-/

namespace PanelLink.Replay

variable {m : Type → Type} [Monad m] [LawfulMonad m] [Host m] {α β : Type} {host : LawfulHost m}
  {filter : LogFilter} {files after : host.Files}

def perform (host : LawfulHost m) (filter : LogFilter) (world : host.World) (step : Step m α) :
    Except ReplayError α × host.World :=
  host.perform (step.run filter).run world

/-- In every world with these files the step ends this way, and leaves those. -/
def Leads
    (host : LawfulHost m) (filter : LogFilter) (files : host.Files) (step : Step m α)
    (outcome : Except ReplayError α) (after : host.Files) : Prop :=
  ∀ world, host.files world = files →
    ∃ next, perform host filter world step = (outcome, next) ∧ host.files next = after

/-- In every world with these files the step ends this way, and leaves the files alone. -/
def Ends
    (host : LawfulHost m) (filter : LogFilter) (files : host.Files) (step : Step m α)
    (outcome : Except ReplayError α) : Prop :=
  Leads host filter files step outcome files

theorem perform_bind (world : host.World) (step : Step m α) (rest : α → Step m β) :
    perform host filter world (step >>= rest) =
      match perform host filter world step with
      | (.ok result, next) => perform host filter next (rest result)
      | (.error failure, next) => (.error failure, next) := by
  simp only [perform, ReaderT.run_bind, ExceptT.run_bind, host.perform_bind]
  rcases host.perform (step.run filter).run world with ⟨(failure | result), next⟩
  · exact host.perform_pure _ next
  · rfl

theorem perform_onHost (world : host.World) (operation : m α) :
    perform host filter world (onHost operation) =
      (.ok (host.perform operation world).1, (host.perform operation world).2) :=
  host.perform_map Except.ok operation world

theorem Ends.pure (result : α) : Ends host filter files (pure result) (.ok result) :=
  fun world hfiles => ⟨world, host.perform_pure _ world, hfiles⟩

theorem Ends.throw (failure : ReplayError) :
    Ends host filter files (throw failure : Step m α) (.error failure) :=
  fun world hfiles => ⟨world, host.perform_pure _ world, hfiles⟩

theorem Ends.unique
    {world : host.World} {step : Step m α} {outcome other : Except ReplayError α}
    (hends : Ends host filter (host.files world) step outcome)
    (hother : Ends host filter (host.files world) step other) : outcome = other := by
  rcases hends world rfl with ⟨next, hnext, -⟩
  rcases hother world rfl with ⟨next', hnext', -⟩
  rw [hnext] at hnext'
  exact congrArg Prod.fst hnext'

theorem Ends.bind_leads
    {step : Step m α} {rest : α → Step m β} {result : α} {outcome : Except ReplayError β}
    (hstep : Ends host filter files step (.ok result))
    (hrest : Leads host filter files (rest result) outcome after) :
    Leads host filter files (step >>= rest) outcome after := by
  intro world hfiles
  rcases hstep world hfiles with ⟨middle, hstep, hkept⟩
  rw [perform_bind, hstep]
  exact hrest middle hkept

theorem Ends.bind
    {step : Step m α} {rest : α → Step m β} {result : α} {outcome : Except ReplayError β}
    (hstep : Ends host filter files step (.ok result))
    (hrest : Ends host filter files (rest result) outcome) :
    Ends host filter files (step >>= rest) outcome :=
  hstep.bind_leads hrest

theorem Ends.bind_error
    {step : Step m α} {rest : α → Step m β} {failure : ReplayError}
    (hstep : Ends host filter files step (.error failure)) :
    Ends host filter files (step >>= rest) (.error failure) := by
  intro world hfiles
  rcases hstep world hfiles with ⟨next, hstep, hkept⟩
  refine ⟨next, ?_, hkept⟩
  rw [perform_bind, hstep]

/-! ## Operations of the host -/

theorem ends_logRecord (record : LogRecord) :
    Ends host filter files (logRecord record) (.ok ()) := by
  have hread : Ends host filter files read (.ok filter) :=
    fun world hfiles => ⟨world, host.perform_pure _ world, hfiles⟩
  apply hread.bind
  split
  next =>
    intro world hfiles
    refine ⟨_, perform_onHost world _, ?_⟩
    rw [host.perform_log, hfiles]
  next => exact .pure ()

theorem ends_report (level : LogLevel) (target message : String) :
    Ends host filter files (report level target message) (.ok ()) :=
  ends_logRecord _

theorem ends_reportFlushes (before : Nat) (shadow : Shadow) :
    Ends host filter files (reportFlushes before shadow) (.ok ()) := by
  unfold reportFlushes
  induction (shadow.history.take (shadow.flushes - before)).reverse with
  | nil => exact .pure ()
  | cons rect rects ih => exact (ends_logRecord _).bind ih

theorem ends_openCapture (path : String) :
    Ends host filter files (onHost (Host.openCapture path)) (.ok (host.capture? files path)) := by
  intro world hfiles
  rcases host.perform_openCapture path world with ⟨next, hnext, hkept⟩
  refine ⟨next, ?_, hkept.trans hfiles⟩
  rw [perform_onHost, hnext, hfiles]

theorem ends_readText (path : String) :
    Ends host filter files (onHost (Host.readText path)) (.ok (host.text files path)) := by
  intro world hfiles
  rcases host.perform_readText path world with ⟨next, hnext, hkept⟩
  refine ⟨next, ?_, hkept.trans hfiles⟩
  rw [perform_onHost, hnext, hfiles]

/-! ## Captures -/

def Reads
    (host : LawfulHost m) (files : host.Files) (paths : List String)
    (captures : List (List UInt8)) : Prop :=
  List.Forall₂ (fun path bytes => host.capture? files path = some { bytes }) paths captures

/-- One of the captures cannot be opened, or not be read. -/
def Unreadable (host : LawfulHost m) (files : host.Files) (paths : List String) : Prop :=
  ∃ path ∈ paths, ∀ bytes, host.capture? files path ≠ some { bytes }

theorem pumpGuarded_capture (link : Link Shadow) (bytes : List UInt8) (failure : Option Unit) :
    ∃ count, link.pumpGuarded ({ bytes, failure } : Capture Unit) = {
      outcome :=
        match failure with
        | none => .ok count
        | some failure => .error (.source failure)
      link := (link.run (session bytes)).1
      source := { bytes := [], failure, resetPending := false, delivered := bytes.length } } := by
  have hyields := Capture.yields bytes failure
  have hpump := link.pump_eq_run 0 hyields
  refine ⟨0 + (link.run (session bytes)).2.countP Link.applied, ?_⟩
  rw [link.pumpGuarded_eq 0 hyields, hpump]
  cases failure with
  | none => rfl
  | some failure => rfl

theorem ends_playCapture
    {path : String} {bytes : List UInt8} (link : Link Shadow)
    (hopen : host.capture? files path = some { bytes }) :
    Ends host filter files (playCapture link path) (.ok (link.run (session bytes)).1) := by
  have hopened : Ends host filter files (onHost (Host.openCapture path))
      (.ok (some { bytes })) := by
    rw [← hopen]
    exact ends_openCapture path
  rcases pumpGuarded_capture link bytes none with ⟨count, hpump⟩
  unfold playCapture
  apply hopened.bind
  dsimp only
  rw [hpump]
  dsimp only
  apply (ends_reportFlushes _ _).bind
  apply (ends_report _ _ _).bind
  split
  next => exact (ends_report _ _ _).bind (.pure _)
  next => exact .pure _

theorem exists_ends_playCapture_error
    {path : String} (link : Link Shadow)
    (hopen : ∀ bytes, host.capture? files path ≠ some { bytes }) :
    ∃ failure, Ends host filter files (playCapture link path) (.error failure) := by
  have hopened : Ends host filter files (onHost (Host.openCapture path))
      (.ok (host.capture? files path)) := ends_openCapture path
  rcases host.capture?_cases files path with hnone | ⟨bytes, hsome⟩ | ⟨bytes, hdamaged⟩
  · rw [hnone] at hopened
    exact ⟨.openCapture path, hopened.bind (.throw _)⟩
  · exact absurd hsome (hopen bytes)
  · rw [hdamaged] at hopened
    rcases pumpGuarded_capture link bytes (some ()) with ⟨count, hpump⟩
    refine ⟨.readCapture path, ?_⟩
    unfold playCapture
    apply hopened.bind
    dsimp only
    rw [hpump]
    dsimp only
    exact (ends_reportFlushes _ _).bind (.throw _)

/-! ## All captures -/

theorem ends_playCaptures
    {paths : List String} {captures : List (List UInt8)} (link : Link Shadow)
    (hreads : Reads host files paths captures) :
    Ends host filter files (paths.foldlM playCapture link)
      (.ok (link.run (captures.flatMap session)).1) := by
  induction hreads generalizing link with
  | nil => exact .pure link
  | @cons path bytes paths captures hpath _ ih =>
      rw [List.foldlM_cons, List.flatMap_cons, Link.run_append]
      exact (ends_playCapture link hpath).bind (ih _)

theorem exists_ends_playCaptures_error
    {paths : List String} (link : Link Shadow)
    (hunreadable : Unreadable host files paths) :
    ∃ failure, Ends host filter files (paths.foldlM playCapture link) (.error failure) := by
  induction paths generalizing link with
  | nil =>
      obtain ⟨path, hmem, _⟩ := hunreadable
      contradiction
  | cons path paths ih =>
      rw [List.foldlM_cons]
      by_cases hopen : ∃ bytes, host.capture? files path = some { bytes }
      · obtain ⟨bytes, hopen⟩ := hopen
        have hrest : Unreadable host files paths := by
          obtain ⟨other, hmem, hother⟩ := hunreadable
          rcases List.mem_cons.1 hmem with rfl | hmem
          · exact absurd hopen (hother bytes)
          · exact ⟨other, hmem, hother⟩
        obtain ⟨failure, hfails⟩ := ih (link.run (session bytes)).1 hrest
        exact ⟨failure, (ends_playCapture link hopen).bind hfails⟩
      · obtain ⟨failure, hfails⟩ :=
          exists_ends_playCapture_error link fun bytes heq => hopen ⟨bytes, heq⟩
        exact ⟨failure, hfails.bind_error⟩

theorem ends_finalFlush
    {link : Link Shadow} {answer : Bool} (hflush : link.flush.1 = .ok answer) :
    Ends host filter files (finalFlush link) (.ok link.flush.2) := by
  unfold finalFlush
  generalize link.flush = flushed at hflush ⊢
  obtain ⟨outcome, next⟩ := flushed
  apply (ends_reportFlushes _ _).bind
  simp only at hflush
  subst hflush
  exact .pure next

theorem ends_playAll
    {settings : LinkSettings} {paths : List String} {captures : List (List UInt8)}
    {start : Link Shadow} {answer : Bool} (hstart : startLink settings = .ok start)
    (hreads : Reads host files paths captures)
    (hflush : (start.run (captures.flatMap session)).1.flush.1 = .ok answer) :
    Ends host filter files (playAll settings paths)
      (.ok (start.run (captures.flatMap session)).1.flush.2) := by
  unfold playAll
  rw [hstart]
  exact (Ends.pure start).bind ((ends_playCaptures start hreads).bind (ends_finalFlush hflush))

theorem exists_ends_playAll_error
    {paths : List String} (settings : LinkSettings)
    (hunreadable : Unreadable host files paths) :
    ∃ failure, Ends host filter files (playAll settings paths) (.error failure) := by
  unfold playAll
  cases startLink settings with
  | error failure => exact ⟨.setup failure, (Ends.throw _).bind_error⟩
  | ok start =>
      obtain ⟨failure, hfails⟩ := exists_ends_playCaptures_error start hunreadable
      exact ⟨failure, (Ends.pure start).bind hfails.bind_error⟩

/-! ## Whole replays -/

/-- What comes of loading settings where these files are. -/
def loadedSettings (host : LawfulHost m) (files : host.Files) :
    Option String → Except ReplayError ReplaySettings
  | none => .ok {}
  | some path =>
    match host.text files path with
    | .absent => .ok {}
    | .unreadable => .error (.readSettings path)
    | .text content =>
      match ReplaySettings.parse content with
      | .error _ => .error (.loadSettings path)
      | .ok settings => .ok settings

theorem ends_loadSettings (path : Option String) :
    Ends host filter files (loadSettings path) (loadedSettings host files path) := by
  cases path with
  | none => exact (ends_report _ _ _).bind (.pure _)
  | some path =>
      have hread : Ends host filter files (onHost (Host.readText path))
          (.ok (host.text files path)) := ends_readText path
      unfold loadSettings
      rw [loadedSettings]
      cases htext : host.text files path with
      | absent =>
          rw [htext] at hread
          exact hread.bind ((ends_report _ _ _).bind (.pure _))
      | unreadable =>
          rw [htext] at hread
          exact hread.bind (.throw _)
      | text content =>
          rw [htext] at hread
          apply hread.bind
          dsimp only
          cases ReplaySettings.parse content with
          | error failure => exact .throw _
          | ok settings => exact (ends_report _ _ _).bind ((ends_report _ _ _).bind (.pure _))

theorem exists_ends_replay_error
    {commandLine : List String} {arguments : Arguments}
    (harguments : Arguments.parse commandLine = .ok arguments)
    (hunreadable : Unreadable host files arguments.captures) :
    ∃ failure, Ends host filter files (replay commandLine) (.error failure) := by
  have hload : Ends host filter files (loadSettings arguments.settings)
      (loadedSettings host files arguments.settings) := ends_loadSettings _
  unfold replay
  rw [harguments]
  cases hloaded : loadedSettings host files arguments.settings with
  | error failure =>
      rw [hloaded] at hload
      exact ⟨failure, (Ends.pure arguments).bind hload.bind_error⟩
  | ok settings =>
      rw [hloaded] at hload
      obtain ⟨failure, hfails⟩ := exists_ends_playAll_error settings.link hunreadable
      exact ⟨failure, (Ends.pure arguments).bind
        (hload.bind ((ends_report _ _ _).bind hfails.bind_error))⟩

/-- A picture can be saved under the name. -/
def Writable (host : LawfulHost m) (files : host.Files) (path : String) : Prop :=
  isPictureName path = true ∧ host.HasPlace files path

theorem leads_savePicture
    {path : String} (hwritable : Writable host files path) (shadow : Shadow) :
    Leads host filter files (savePicture path shadow) (.ok ()) (host.saved files path shadow) := by
  intro world hfiles
  rcases hwritable with ⟨hname, hplace⟩
  rw [← hfiles] at hplace
  rcases host.perform_savePicture path shadow world hplace with ⟨middle, hsave, hsaved⟩
  rw [hfiles] at hsaved
  unfold savePicture
  rw [if_pos hname]
  dsimp only
  rw [perform_bind, perform_onHost, hsave]
  exact ends_report _ _ _ middle hsaved

theorem leads_replay
    {commandLine : List String} {arguments : Arguments} {settings : ReplaySettings}
    {link : Link Shadow} (harguments : Arguments.parse commandLine = .ok arguments)
    (hload : Ends host filter files (loadSettings arguments.settings) (.ok settings))
    (hplay : Ends host filter files (playAll settings.link arguments.captures) (.ok link))
    (hwritable : Writable host files (arguments.output.getD settings.output)) :
    Leads host filter files (replay commandLine) (.ok ())
      (host.saved files (arguments.output.getD settings.output) link.sink) := by
  unfold replay
  rw [harguments]
  apply (Ends.pure arguments).bind_leads
  apply hload.bind_leads
  apply (ends_report _ _ _).bind_leads
  apply hplay.bind_leads
  apply (ends_report _ _ _).bind_leads
  apply (ends_report _ _ _).bind_leads
  apply (ends_report _ _ _).bind_leads
  exact leads_savePicture hwritable link.sink

def filterOf (logFilter : Option String) : LogFilter :=
  (logFilter.map LogFilter.parse).getD LogFilter.standard

theorem run_eq
    {commandLine : List String} {logFilter : Option String} {world next : host.World}
    {outcome : Except ReplayError Unit}
    (hreplay : perform host (filterOf logFilter) world (replay commandLine) = (outcome, next)) :
    ∃ complaints, host.perform (run commandLine logFilter : m Outcome) world =
      (⟨if outcome.isOk then 0 else 1, complaints⟩, next) := by
  rw [perform, filterOf] at hreplay
  unfold run
  dsimp only
  rw [host.perform_bind, hreplay]
  cases outcome with
  | error failure => exact ⟨_, host.perform_pure _ next⟩
  | ok _ => exact ⟨_, host.perform_pure _ next⟩

end PanelLink.Replay
