import PanelLink.Replay.Host
import PanelLink.Text.Characters
import PanelLink.Text.Pattern

/-!
# Log filters

A filter is a list of directives with commas between them.  A directive names a
target, a span in brackets or a field in braces, and after an equals sign a level;
it lets the records through that it is about, up to that level.  Of several
directives about a record the most specific one decides.
-/

namespace PanelLink

/-- Lets records through up to a rank, if their target starts with the given one and they have the
given field. -/
structure LogDirective where
  target : List Char := []
  field : Option String := none
  limit : Nat := LogLevel.trace.rank
deriving DecidableEq, Repr

inductive DirectiveError where
  | malformed
  | unknownLevel
  | badPattern
deriving DecidableEq, Repr

def DirectiveError.message : DirectiveError → String
  | .malformed => "invalid filter directive"
  | .unknownLevel =>
    "error parsing level filter: expected one of \"off\", \"error\", \"warn\", \"info\", " ++
      "\"debug\", \"trace\", or a number 0-5"
  | .badPattern => "invalid field filter: error building NFA"

namespace LogDirective

/-! ## Levels -/

def rankOfNumber? (text : List Char) : Option Nat :=
  let digits := match text with
    | '+' :: rest => rest
    | text => text
  let number := digits.foldl (fun n c => 10 * n + (c.toNat - '0'.toNat)) 0
  if digits.isEmpty || !digits.all Char.isDigit || LogLevel.trace.rank < number then none
  else some number

def rankOfName? (text : List Char) : Option Nat :=
  match String.ofList (text.map Char.toLower) with
  | "off" => some 0
  | "error" => some LogLevel.error.rank
  | "warn" => some LogLevel.warn.rank
  | "info" => some LogLevel.info.rank
  | "debug" => some LogLevel.debug.rank
  | "trace" => some LogLevel.trace.rank
  | _ => none

def rank? (text : List Char) : Option Nat :=
  (rankOfNumber? text).or (rankOfName? text)

def withLevel (directive : LogDirective) (text : List Char) : Except DirectiveError LogDirective :=
  if text.isEmpty then
    .ok directive
  else
    match rank? text with
    | some limit => .ok { directive with limit }
    | none => .error .unknownLevel

def ofWord (text : List Char) : LogDirective :=
  match rank? text with
  | some limit => { limit }
  | none => { target := text }

/-! ## Reading -/

/-- The text between two places.  Places are counted without the blanks around a directive and the
text is cut with them, so blanks in front shift what is read. -/
def cut (text : List Char) (start stop : Nat) : List Char :=
  (text.take stop).drop start

def placeOf (isEnd : Char → Bool) (body : List Char) (start : Nat) : Nat :=
  start + ((body.drop start).takeWhile fun c => !isEnd c).length

def isTargetStart (c : Char) : Bool :=
  c = '-' || c = ':' || c = '_' || Text.isAlphanumeric c

def fieldOf (text : List Char) : Except DirectiveError (Option String) :=
  match text.span (· ≠ '=') with
  | ([], []) => .error .malformed
  | (name, []) => .ok (some (String.ofList name))
  | (_, _ :: value) =>
    if Pattern.isWellFormed (value.takeWhile (· ≠ '=')) then .ok none else .error .badPattern

def afterBracket (directive : LogDirective) (text body : List Char) (place : Nat) :
    Except DirectiveError LogDirective :=
  match body.drop place with
  | [] => .ok directive
  | '=' :: _ => directive.withLevel (text.drop (place + 1))
  | _ => .error .malformed

/-- What comes after the opening bracket.  A directive about spans or about values of fields lets
no record through. -/
def inBracket (target text body : List Char) (start : Nat) :
    Except DirectiveError (Option LogDirective) := do
  let stop := placeOf (fun c => c = ']' || c = '{') body start
  match body.drop stop with
  | ']' :: _ =>
    let _ ← afterBracket { target } text body (stop + 1)
    return none
  | _ :: _ =>
    let close := placeOf (· = '}') body (stop + 1)
    if body.length ≤ close then throw .malformed
    let field ← fieldOf (cut text (stop + 1) close)
    if (body.drop (close + 1)).head? ≠ some ']' then throw .malformed
    let directive ← afterBracket { target, field } text body (close + 2)
    return if field.isSome && start = stop then some directive else none
  | [] => throw .malformed

def ofText (text : List Char) : Except DirectiveError (Option LogDirective) :=
  let body := Text.trim text
  match body with
  | [] => .error .malformed
  | '[' :: _ => inBracket [] text body 1
  | c :: _ =>
    if isTargetStart c then
      let stop := placeOf (fun c => c = '=' || c = '[') body 0
      let target := cut text 0 stop
      match body.drop stop with
      | [] => .ok (some (ofWord text))
      | '[' :: _ => inBracket target text body (stop + 1)
      | _ => (withLevel { target } (text.drop (stop + 1))).map some
    else
      .error .malformed

/-! ## Deciding -/

def concerns (directive : LogDirective) (record : LogRecord) : Bool :=
  directive.target.isPrefixOf record.target.toList &&
    directive.field.all record.fields.contains

/-- Whether a directive is at most as specific as another one: by the length of the target, then by
having a field, then by the field's name. -/
def atMostAsSpecific (directive other : LogDirective) : Bool :=
  if directive.target.length ≠ other.target.length then
    directive.target.length < other.target.length
  else
    match directive.field, other.field with
    | none, _ => true
    | some _, none => false
    | some name, some otherName => name ≤ otherName

def preferred (directive other : LogDirective) : LogDirective :=
  if directive.atMostAsSpecific other then other else directive

end LogDirective

structure LogFilter where
  directives : List LogDirective
  ignored : List (String × DirectiveError) := []
deriving DecidableEq, Repr

namespace LogFilter

def readings (text : String) : List (String × Except DirectiveError (Option LogDirective)) :=
  ((text.splitOn ",").filter fun part => !part.isEmpty).map fun part =>
    (part, LogDirective.ofText part.toList)

/-- Where there is no directive at all, errors come through. -/
def parse (text : String) : LogFilter :=
  let found := (readings text).filterMap fun (_, reading) => reading.toOption
  let ignored := (readings text).filterMap fun (part, reading) =>
    match reading with
    | .error failure => some (part, failure)
    | .ok _ => none
  ⟨if found.isEmpty then [{ limit := LogLevel.error.rank }] else found.filterMap id, ignored⟩

def standard : LogFilter :=
  parse "info"

def directiveFor? (filter : LogFilter) (record : LogRecord) : Option LogDirective :=
  match filter.directives.filter fun directive => directive.concerns record with
  | [] => none
  | first :: others => some (others.foldl LogDirective.preferred first)

def allows (filter : LogFilter) (record : LogRecord) : Bool :=
  match filter.directiveFor? record with
  | some directive => record.level.rank ≤ directive.limit
  | none => false

def complaints (filter : LogFilter) : List String :=
  filter.ignored.map fun (part, failure) => s!"ignoring `{part}`: {failure.message}"

end LogFilter

end PanelLink
