import PanelLink.Toml.Number

/-!
# Values and tables

What a document says, as a tree.  A table remembers how it came about, because that
decides which later statements may still add to it.
-/

namespace PanelLink.Toml

inductive Scalar where
  | string (text : String)
  | integer (numeral : Numeral)
  | fraction (value : Magnitude)
  | boolean (value : Bool)
  | moment
deriving DecidableEq, Repr

inductive TableKind where
  | implicit
  | dotted
  | header
  | inline
deriving DecidableEq, Repr

inductive Node where
  | scalar (value : Scalar)
  | array (items : List Node)
  | table (kind : TableKind) (entries : List (String × Node))
  | tables (items : List (List (String × Node)))

structure Table where
  kind : TableKind
  entries : List (String × Node) := []

structure KeyPath where
  parents : List String
  last : String
deriving DecidableEq, Repr

namespace Table

def node (table : Table) : Node :=
  .table table.kind table.entries

def find? (table : Table) (key : String) : Option Node :=
  table.entries.lookup key

def set (table : Table) (key : String) (value : Node) : Table :=
  if (table.find? key).isSome then
    { table with
      entries := table.entries.map fun entry => if entry.1 = key then (key, value) else entry }
  else
    { table with entries := table.entries ++ [(key, value)] }

/-- Whether one may go through a table of this kind.  Dotted keys do not reopen a table that has
a header. -/
def passable (dotted : Bool) : TableKind → Bool
  | .implicit => true
  | .dotted => true
  | .header => !dotted
  | .inline => false

/-- Changes the table at the end of a path, and makes the tables on the way that are missing.  A
path leads through the last of the tables under a repeated header. -/
def update (dotted : Bool) (change : Table → Option Table) (table : Table) :
    List String → Option Table
  | [] => change table
  | key :: path =>
    match table.find? key with
    | none => do
      let kind := if dotted then TableKind.dotted else TableKind.implicit
      let child ← update dotted change { kind } path
      return table.set key child.node
    | some (.table kind entries) =>
      if passable dotted kind then do
        let child ← update dotted change { kind, entries } path
        return table.set key child.node
      else
        none
    | some (.tables items) => do
      let child ← update dotted change { kind := .header, entries := ← items.getLast? } path
      return table.set key (.tables (items.dropLast ++ [child.entries]))
    | some _ => none

def add (key : String) (value : Node) (table : Table) : Option Table :=
  if (table.find? key).isSome then none else some (table.set key value)

/-- The statement that gives a key its value.  The table it lands in must have come about by dotted
keys exactly if the key is dotted. -/
def assign (table : Table) (key : KeyPath) (value : Node) : Option Table :=
  table.update true
    (fun parent =>
      if (parent.kind = .dotted) ↔ key.parents = [] then none else parent.add key.last value)
    key.parents

/-- The header of a table, which must be new or have stood only on the way to others. -/
def openTable (table : Table) (key : KeyPath) : Option Table :=
  table.update false
    (fun parent =>
      match parent.find? key.last with
      | none => some (parent.set key.last (.table .header []))
      | some (.table .implicit entries) => some (parent.set key.last (.table .header entries))
      | some _ => none)
    key.parents

def appendTable (table : Table) (key : KeyPath) : Option Table :=
  table.update false
    (fun parent =>
      match parent.find? key.last with
      | none => some (parent.set key.last (.tables [[]]))
      | some (.tables items) => some (parent.set key.last (.tables (items ++ [[]])))
      | some _ => none)
    key.parents

end Table

end PanelLink.Toml
