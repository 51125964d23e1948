import PanelLink.Replay.Host

/-!
# Bench

A host in memory: a folder with files in it, the log as a list of lines, and the
pictures that were saved.
-/

namespace PanelLink

inductive BenchEntry where
  | file (bytes : List UInt8)
  /-- A file that can be opened, but not be read any further than these bytes. -/
  | damaged (bytes : List UInt8)
  | folder
  | picture (shadow : Shadow)

/-- A place in the file system: names from the bench's folder on.  A place that starts with `..`
lies outside, and one that starts with `/` at the root. -/
abbrev Location := List String

structure Bench where
  entries : List (Location × BenchEntry)
  log : List String := []

namespace Bench

def find? (bench : Bench) (place : Location) : Option BenchEntry :=
  bench.entries.lookup place

/-- The folders above: nothing else is known of what lies outside. -/
def isAncestor (place : Location) : Bool :=
  place = ["/"] || place.all (· = "..")

/-- The folder itself and those above, an empty folder, or whatever holds something. -/
def isFolder (bench : Bench) (place : Location) : Bool :=
  isAncestor place ||
    (match bench.find? place with
      | some .folder => true
      | _ => false) ||
    bench.entries.any fun entry => place.isPrefixOf entry.1 && place ≠ entry.1

def parent (place : Location) : Location :=
  if place = ["/"] then place
  else if isAncestor place then ".." :: place
  else place.dropLast

def maxName : Nat := 255

def maxPath : Nat := 4095

/-- Goes from a folder along the parts of a path.  All but the last must be folders. -/
def walk (bench : Bench) (place : Location) : List String → Option Location
  | [] => some place
  | part :: parts =>
    if !bench.isFolder place || maxName < part.utf8ByteSize then
      none
    else if part = "" ∨ part = "." then
      walk bench place parts
    else if part = ".." then
      walk bench (parent place) parts
    else
      walk bench (place ++ [part]) parts

def locate (bench : Bench) (path : String) : Option Location :=
  if path.isEmpty || maxPath < path.utf8ByteSize || path.contains '\x00' then none
  else
    bench.walk (if path.startsWith "/" then ["/"] else [])
      ((path.toList.splitOn '/').map String.ofList)

def readText (bench : Bench) (path : String) : TextFile :=
  match bench.locate path with
  | none => .absent
  | some place =>
    match bench.find? place with
    | some (.file bytes) =>
      match String.fromUTF8? ⟨bytes.toArray⟩ with
      | some content => .text content
      | none => .unreadable
    | some (.damaged _) => .unreadable
    | some (.picture _) => .unreadable
    | some .folder => .unreadable
    | none => if bench.isFolder place then .unreadable else .absent

def openCapture (bench : Bench) (path : String) : Option (Capture Unit) := do
  let place ← bench.locate path
  match bench.find? place with
  | some (.file bytes) => some { bytes }
  | some (.damaged bytes) => some { bytes, failure := some () }
  | some (.picture _) => none
  | _ => if bench.isFolder place then some { bytes := [], failure := some () } else none

def savePicture (bench : Bench) (path : String) (shadow : Shadow) : Bool × Bench :=
  match bench.locate path with
  | none => (false, bench)
  | some place =>
    if bench.isFolder place || place.head? = some "/" then
      (false, bench)
    else
      let others := bench.entries.filter fun entry => entry.1 ≠ place
      (true, { bench with entries := (place, .picture shadow) :: others })

def picture? (bench : Bench) (path : String) : Option Shadow := do
  match bench.find? (← bench.locate path) with
  | some (.picture shadow) => some shadow
  | _ => none

instance : Host (StateM Bench) where
  readText path := return (← get).readText path
  openCapture path := return (← get).openCapture path
  savePicture path shadow := modifyGet fun bench => bench.savePicture path shadow
  log record := modify fun bench => { bench with log := record.lines.reverse ++ bench.log }

end Bench

end PanelLink
