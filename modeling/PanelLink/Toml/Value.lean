import PanelLink.Toml.Moment
import PanelLink.Toml.Node

/-!
# Keys and values

Keys with dots, scalars, arrays and inline tables.  As in TOML 1.1, an inline table
may run over several lines and end in a comma.
-/

namespace PanelLink.Toml

/-! ## Keys -/

def simpleKey (text : List Char) : Option (String × List Char) :=
  match text.span isBareKeyChar with
  | ([], rest) => quoted rest
  | (key, rest) => some (String.ofList key, rest)

def dottedKey (text : List Char) : Option (Option String × List Char) :=
  match skipBlanks text with
  | '.' :: rest => do
    let (key, rest) ← simpleKey (skipBlanks rest)
    return (some key, rest)
  | rest => some (none, rest)

/-- The deepest nesting: of arrays and inline tables, and of the tables that a key leads through. -/
def maxDepth : Nat := 80

def keyPath (text : List Char) : Option (KeyPath × List Char) := do
  let (first, rest) ← simpleKey text
  let (others, rest) ← collect dottedKey rest
  let keys := first :: others
  if others.length < maxDepth then some (⟨keys.dropLast, keys.getLastD first⟩, rest) else none

/-! ## Scalars -/

/-- The characters of a scalar.  A date may be followed by a blank and a time. -/
def scalarToken (text : List Char) : List Char × List Char :=
  let (token, rest) := text.span isScalarChar
  match rest with
  | ' ' :: c :: more =>
    if isDate token && c.isDigit then
      let (time, rest) := (c :: more).span isScalarChar
      (token ++ ' ' :: time, rest)
    else
      (token, rest)
  | _ => (token, rest)

def scalarOf? (token : List Char) : Option Scalar :=
  if token = ['t', 'r', 'u', 'e'] then
    some (.boolean true)
  else if token = ['f', 'a', 'l', 's', 'e'] then
    some (.boolean false)
  else
    match integer? token with
    | some numeral => some (.integer numeral)
    | none =>
      match fraction? token with
      | some value => some (.fraction value)
      | none => if isMoment token then some .moment else none

def scalar (text : List Char) : Option (Node × List Char) := do
  let (token, rest) := scalarToken text
  return (.scalar (← scalarOf? token), rest)

/-! ## Arrays and inline tables -/

def arrayItem (value : Parser Node) (text : List Char) : Option (Option Node × List Char) :=
  match text with
  | ']' :: rest => some (none, rest)
  | _ => do
    let (item, rest) ← value text
    match skipLines false rest with
    | ',' :: rest => return (some item, skipLines false rest)
    | ']' :: rest => return (some item, ']' :: rest)
    | _ => none

def array (value : Parser Node) (text : List Char) : Option (Node × List Char) := do
  let (items, rest) ← collect (arrayItem value) (skipLines false text)
  return (.array items, rest)

def assignment (skip : List Char → List Char) (value : Parser Node) (text : List Char) :
    Option ((KeyPath × Node) × List Char) := do
  let (key, rest) ← keyPath text
  match skip rest with
  | '=' :: rest =>
    let (item, rest) ← value (skip rest)
    return ((key, item), rest)
  | _ => none

def inlineEntry (value : Parser Node) (text : List Char) :
    Option (Option (KeyPath × Node) × List Char) :=
  match text with
  | '}' :: rest => some (none, rest)
  | _ => do
    let (entry, rest) ← assignment (skipLines false) value text
    match skipLines false rest with
    | ',' :: rest => return (some entry, skipLines false rest)
    | '}' :: rest => return (some entry, '}' :: rest)
    | _ => none

def inlineTable (value : Parser Node) (text : List Char) : Option (Node × List Char) := do
  let (entries, rest) ← collect (inlineEntry value) (skipLines false text)
  let table ← entries.foldlM
    (fun (table : Table) (key, item) => table.assign key item) { kind := .inline }
  return (table.node, rest)

def valueWithin : Nat → Parser Node
  | _, '"' :: rest => (anyQuoted ('"' :: rest)).map fun (text, rest) => (.scalar (.string text), rest)
  | _, '\'' :: rest =>
    (anyQuoted ('\'' :: rest)).map fun (text, rest) => (.scalar (.string text), rest)
  | 0, '[' :: _ => none
  | 0, '{' :: _ => none
  | depth + 1, '[' :: rest => array (valueWithin depth) rest
  | depth + 1, '{' :: rest => inlineTable (valueWithin depth) rest
  | _, text => scalar text

def value : Parser Node :=
  valueWithin maxDepth

end PanelLink.Toml
