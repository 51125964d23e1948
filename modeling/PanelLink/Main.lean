import PanelLink.Replay.Png
import PanelLink.Replay.Run

/-!
# Command line

Replays the captures named on the command line and saves the picture.
-/

namespace PanelLink

def printRecord (record : LogRecord) : IO Unit :=
  IO.println record.print

/-- The bytes of an open file.  What can be opened but not read fails at its first byte. -/
def captureOf (handle : IO.FS.Handle) : IO (Capture Unit) := do
  try
    return { bytes := (← handle.readBinToEnd).toList }
  catch _ =>
    return { bytes := [], failure := some () }

def captureAt (path : String) : IO (Option (Capture Unit)) := do
  try
    return some (← captureOf (← IO.FS.Handle.mk path .read))
  catch _ =>
    return none

def textOf (handle : IO.FS.Handle) : IO TextFile := do
  try
    return .text (← handle.readToEnd)
  catch _ =>
    return .unreadable

def textAt (path : String) : IO TextFile := do
  try
    textOf (← IO.FS.Handle.mk path .read)
  catch
    | .noFileOrDirectory .. => return .absent
    | .inappropriateType .. => return .absent
    | _ => return .unreadable

def writePicture (path : String) (shadow : Shadow) : IO Bool := do
  if path.contains '\x00' then return false
  try
    IO.FS.writeBinFile path ⟨(Png.encode shadow).toArray⟩
    return true
  catch _ =>
    return false

instance : Host IO where
  readText := textAt
  openCapture := captureAt
  savePicture := writePicture
  log := printRecord

end PanelLink

def main (commandLine : List String) : IO UInt32 := do
  let outcome ← PanelLink.Replay.run commandLine (← IO.getEnv "RUST_LOG")
  outcome.complaints.forM fun line => IO.eprintln line
  return outcome.code
