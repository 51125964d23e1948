import PanelLink.Toml.Document

/-!
# Readers

What is read of a document by its users: the fields of a structure, texts, numbers
below a bound and choices by their names.  Values that nobody asks for are passed
over, if they can be read at all.  The reader here takes documents of TOML 1.1; its
users rely on less, and may be given another one.
-/

namespace PanelLink.Toml

/-- A library for documents: it parses a text, and reads values of a type from the nodes. -/
structure Reader where
  parse? : String → Option Node
  /-- The values for a structure with these keys, each with its key. -/
  fields? : List String → Node → Option (List (String × Node))
  string? : Node → Option String
  natBelow? : Nat → Node → Option Nat
  /-- The name of a choice that has no content. -/
  choice? : Node → Option String
  isPassable : Node → Bool

namespace Reader

def uint16? (reader : Reader) (node : Node) : Option UInt16 :=
  (reader.natBelow? 65536 node).map UInt16.ofNat

def uint32? (reader : Reader) (node : Node) : Option UInt32 :=
  (reader.natBelow? 4294967296 node).map UInt32.ofNat

end Reader

/-! ## Ignored values -/

/-- An integer must have digits of its base only and fit in 128 bits, with a sign or without. -/
def Numeral.inRange (numeral : Numeral) : Bool :=
  match numeral.value? with
  | some value => -Int.pow 2 127 ≤ value && value < Int.pow 2 128
  | none => false

def Scalar.inRange : Scalar → Bool
  | .integer numeral => numeral.inRange
  | .fraction value => value.inRange
  | _ => true

mutual

/-- Whether every number in a value can be read.  That is asked of ignored values too. -/
def Node.inRange : Node → Bool
  | .scalar value => value.inRange
  | .array items => allInRange items
  | .table _ entries => entriesInRange entries
  | .tables items => tablesInRange items

def allInRange : List Node → Bool
  | [] => true
  | item :: items => item.inRange && allInRange items

def entriesInRange : List (String × Node) → Bool
  | [] => true
  | (_, value) :: entries => value.inRange && entriesInRange entries

def tablesInRange : List (List (String × Node)) → Bool
  | [] => true
  | entries :: items => entriesInRange entries && tablesInRange items

end

/-! ## Values of a type -/

namespace Node

/-- A structure is a table, or a list of values in the order of its keys.  Such a list may be
short, and what it has beyond the last key is ignored.  A date reads as a table without known
keys. -/
def fields? (keys : List String) : Node → Option (List (String × Node))
  | .table _ entries => some entries
  | .array items => some (keys.zip items)
  | .tables items => some (keys.zip (items.map (Node.table .header)))
  | .scalar .moment => some []
  | .scalar _ => none

def string? : Node → Option String
  | .scalar (.string text) => some text
  | _ => none

def natBelow? (bound : Nat) : Node → Option Nat
  | .scalar (.integer numeral) => do
    let value ← numeral.value?
    if 0 ≤ value ∧ value < bound then some value.toNat else none
  | _ => none

def isEmpty : Node → Bool
  | .array items => items.isEmpty
  | .table _ entries => entries.isEmpty
  | .tables items => items.isEmpty
  | .scalar _ => false

/-- A choice is written by its name, or as a table with the name as its only key and nothing in
it. -/
def choice? : Node → Option String
  | .scalar (.string name) => some name
  | .table _ [(name, value)] => if value.isEmpty then some name else none
  | _ => none

end Node

def reader : Reader where
  parse? text := (parse? text).map Table.node
  fields? := Node.fields?
  string? := Node.string?
  natBelow? := Node.natBelow?
  choice? := Node.choice?
  isPassable := Node.inRange

end PanelLink.Toml
