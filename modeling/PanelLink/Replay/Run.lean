import PanelLink.Link
import PanelLink.Replay.Arguments
import PanelLink.Replay.Host
import PanelLink.Replay.LogFilter
import PanelLink.Settings.Replay
import PanelLink.Text.Quoted

/-!
# Replay

Plays captures one after the other through a link with a shadow behind it, and
saves the shadow as a picture.
-/

namespace PanelLink

def FlushError.name : FlushError → String
  | .communication => "Communication"
  | .notReady => "NotReady"

def SurfaceError.name : SurfaceError → String
  | .zeroSize => "ZeroSize"
  | .bufferTooSmall => "BufferTooSmall"

def FlushPolicy.name : FlushPolicy → String
  | .everyFrame => "EveryFrame"
  | .manual => "Manual"

def SetupError.describe : SetupError → String
  | .settings failure => s!"Config({failure.name})"
  | .surface failure => s!"Surface({failure.name})"

def LinkError.describe : LinkError Empty → String
  | .flush failure => s!"Flush({failure.name})"
  | .setup failure => failure.describe

inductive ReplayError where
  | usage (failure : UsageError)
  | readSettings (path : String)
  | loadSettings (path : String)
  | setup (failure : SetupError)
  | openCapture (path : String)
  | readCapture (path : String)
  | playCapture (path : String) (failure : LinkError Empty)
  | finalFlush (failure : LinkError Empty)
  | savePicture (path : String)
deriving DecidableEq, Repr

def ReplayError.message : ReplayError → String
  | .usage failure => failure.message
  | .readSettings path => s!"Failed to read config file {path}"
  | .loadSettings path => s!"Failed to load config file {path}"
  | .setup failure => s!"Failed to build display pipeline: {failure.describe}"
  | .openCapture path => s!"Failed to open capture {path}"
  | .readCapture path => s!"Failed to read capture {path}"
  | .playCapture path failure => s!"{path}: pipeline error: {failure.describe}"
  | .finalFlush failure => s!"Final flush failed: {failure.describe}"
  | .savePicture path => s!"Failed to write {path}"

namespace Replay

/-! ## Texts -/

def describeLink (settings : LinkSettings) : String :=
  s!"LinkConfig \x7b width: {settings.width}, height: {settings.height}, " ++
    s!"background: {settings.background}, max_frame_len: {settings.frameLimit}, " ++
    s!"flush: {settings.policy.name} \x7d"

def describe (settings : ReplaySettings) : String :=
  s!"HostConfig \x7b output: {Quoted.quote settings.output}, " ++
    s!"link: {describeLink settings.link} \x7d"

def describeRect (rect : Rect) : String :=
  s!"Rect \x7b min_x: {rect.minX}, min_y: {rect.minY}, " ++
    s!"max_x: {rect.maxX}, max_y: {rect.maxY} \x7d"

def describeLinkTally (tally : LinkTally) : String :=
  s!"Link: {tally.framesApplied} frames applied, {tally.payloadErrors} payload errors, " ++
    s!"{tally.flushes} flushes, {tally.flushErrors} flush errors"

def describeTally (tally : Tally) : String :=
  s!"Decoder: {tally.frames} frames, {tally.checksumErrors} checksum errors, " ++
    s!"{tally.syncLosses} sync losses, {tally.lengthErrors} length errors, " ++
    s!"{tally.linkResets} resets, {tally.discardedBytes} bytes discarded"

/-- Whether a picture can be saved under a name: the part after its last dot says so. -/
def isPictureName (path : String) : Bool :=
  let name := ((path.toList.splitOn '/').filter fun part => part ≠ [] ∧ part ≠ ['.']).getLastD []
  let ending := (name.reverse.takeWhile (· ≠ '.')).reverse
  let kind := String.ofList (ending.map Char.toLower)
  ending.length + 1 < name.length && (kind = "png" || kind = "apng")

/-! ## Steps -/

/-- A step of a replay on a host: it reads the log filter and may end the replay. -/
abbrev Step (m : Type → Type) := ReaderT LogFilter (ExceptT ReplayError m)

variable {m : Type → Type} [Monad m] [Host m]

def onHost {α : Type} (operation : m α) : Step m α :=
  liftM operation

def logRecord (record : LogRecord) : Step m Unit := do
  if (← read).allows record then onHost (Host.log record)

def report (level : LogLevel) (target message : String) : Step m Unit :=
  logRecord ⟨level, target, message, ["message"]⟩

def mainTarget : String := "pixlink_host"

def settingsTarget : String := "pixlink_host::config"

def shadowTarget : String := "pixlink_host::shadow"

/-- The settings in a file.  Without a file, or where there is none of that name, the settings are
the defaults. -/
def loadSettings : Option String → Step m ReplaySettings
  | none => do
    report .debug settingsTarget "No config file given, using defaults"
    return {}
  | some path => do
    match ← onHost (Host.readText path) with
    | .absent =>
      report .info settingsTarget
        s!"Config file not found at {Quoted.quote path}, using defaults"
      return {}
    | .unreadable => throw (.readSettings path)
    | .text content =>
      match ReplaySettings.parse content with
      | .error _ => throw (.loadSettings path)
      | .ok settings =>
        report .info settingsTarget s!"Configuration loaded from {Quoted.quote path}"
        report .debug settingsTarget s!"Config: {describe settings}"
        return settings

def startLink (settings : LinkSettings) : Except SetupError (Link Shadow) :=
  let width := settings.width.toNat
  let height := settings.height.toNat
  Link.create settings (Array.replicate (storageLength width height) 0) (Shadow.blank width height)

def reportFlushes (before : Nat) (shadow : Shadow) : Step m Unit :=
  (shadow.history.take (shadow.flushes - before)).reverse.forM fun rect =>
    logRecord ⟨.trace, shadowTarget, s!"Flushed region dirty={describeRect rect}",
      ["message", "dirty"]⟩

def playCapture (link : Link Shadow) (path : String) : Step m (Link Shadow) := do
  let some capture ← onHost (Host.openCapture path) | throw (.openCapture path)
  let flushErrors := link.tally.flushErrors
  let flushes := link.sink.flushes
  let drained := link.pumpGuarded capture
  reportFlushes flushes drained.link.sink
  match drained.outcome with
  | .error (.source ()) => throw (.readCapture path)
  | .error (.flush failure) => throw (.playCapture path (.flush failure))
  | .error (.setup failure) => throw (.playCapture path (.setup failure))
  | .ok applied =>
    report .info mainTarget
      s!"{path}: {drained.source.delivered} bytes, {applied} frames applied"
    let failed := drained.link.tally.flushErrors - flushErrors
    if failed > 0 then
      report .warn mainTarget s!"{path}: {failed} flushes failed, region kept for retry"
    return drained.link

def finalFlush (link : Link Shadow) : Step m (Link Shadow) := do
  let flushes := link.sink.flushes
  let (outcome, link) := link.flush
  reportFlushes flushes link.sink
  match outcome with
  | .error failure => throw (.finalFlush (.flush failure))
  | .ok _ => return link

def playAll (settings : LinkSettings) (captures : List String) : Step m (Link Shadow) := do
  let link ← match startLink settings with
    | .ok link => pure link
    | .error failure => throw (.setup failure)
  let link ← captures.foldlM playCapture link
  finalFlush link

def savePicture (path : String) (shadow : Shadow) : Step m Unit := do
  unless isPictureName path do throw (.savePicture path)
  unless ← onHost (Host.savePicture path shadow) do throw (.savePicture path)
  report .info shadowTarget
    (s!"Saved {shadow.width}x{shadow.height} shadow to {Quoted.quote path} " ++
      s!"after {shadow.flushes} flushes")

def replay (commandLine : List String) : Step m Unit := do
  let arguments ← match Arguments.parse commandLine with
    | .ok arguments => pure arguments
    | .error failure => throw (.usage failure)
  let settings ← loadSettings arguments.settings
  report .info mainTarget
    (s!"Starting pixlink replay: {settings.link.width}x{settings.link.height} surface, " ++
      s!"{arguments.captures.length} capture(s)")
  let link ← playAll settings.link arguments.captures
  report .info mainTarget (describeLinkTally link.tally)
  report .info mainTarget (describeTally link.receiver.tally)
  report .info mainTarget s!"Copied {link.sink.copied} pixels to the shadow"
  savePicture (arguments.output.getD settings.output) link.sink

structure Outcome where
  code : UInt32
  complaints : List String
deriving DecidableEq, Repr

def run (commandLine : List String) (logFilter : Option String) : m Outcome := do
  let filter := (logFilter.map LogFilter.parse).getD LogFilter.standard
  let notes := filter.complaints
  match ← ((replay commandLine).run filter).run with
  | .ok () => return ⟨0, notes⟩
  | .error failure => return ⟨1, notes ++ [s!"Error: {failure.message}"]⟩

end Replay

end PanelLink
