import PanelLink.Event.Capture
import PanelLink.Panel.Shadow

/-!
# Hosts

What a replay needs of the system it runs on: files to read, a place for the
picture, and somewhere to write the log.  Records of the log have a level, a target
and fields, one of which is the message.
-/

namespace PanelLink

/-! ## Text for terminals

A terminal obeys some control characters.  In text that is only meant to be read
they are written as escapes, so that no text can give a terminal orders.
-/

namespace Terminal

def isOrder (c : Char) : Bool :=
  ['\x07', '\x08', '\x0c', '\x1b', '\x7f'].contains c

def isLateControl (c : Char) : Bool :=
  '\u0080' ≤ c && c ≤ '\u009f'

def escape (c : Char) : List Char :=
  let digits := Nat.toDigits 16 c.toNat
  if isOrder c then
    ['\\', 'x'] ++ List.replicate (2 - digits.length) '0' ++ digits
  else if isLateControl c then
    ['\\', 'u', '{'] ++ digits ++ ['}']
  else
    [c]

def harmless (text : String) : String :=
  String.ofList (text.toList.flatMap escape)

end Terminal

/-! ## Log -/

inductive LogLevel where
  | error
  | warn
  | info
  | debug
  | trace
deriving DecidableEq, Repr

namespace LogLevel

def rank : LogLevel → Nat
  | .error => 1
  | .warn => 2
  | .info => 3
  | .debug => 4
  | .trace => 5

def name : LogLevel → String
  | .error => "ERROR"
  | .warn => "WARN"
  | .info => "INFO"
  | .debug => "DEBUG"
  | .trace => "TRACE"

end LogLevel

structure LogRecord where
  level : LogLevel
  target : String
  /-- The message, with the values of the other fields behind it. -/
  text : String
  fields : List String
deriving DecidableEq, Repr

namespace LogRecord

def print (record : LogRecord) : String :=
  s!"{record.level.name} {record.target}: {Terminal.harmless record.text}"

def lines (record : LogRecord) : List String :=
  record.print.splitOn "\n"

end LogRecord

/-! ## The system -/

inductive TextFile where
  | absent
  | unreadable
  | text (content : String)
deriving DecidableEq, Repr

class Host (m : Type → Type) where
  readText : String → m TextFile
  /-- A capture by its name, or `none` if it cannot be opened.  It may fail when it is read. -/
  openCapture : String → m (Option (Capture Unit))
  savePicture : String → Shadow → m Bool
  log : LogRecord → m Unit

end PanelLink
