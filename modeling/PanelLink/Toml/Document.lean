import PanelLink.Toml.Value

/-!
# Documents

A document is a list of statements, one on a line, and stands for the table they
build: headers open tables, and assignments go into the table opened last.  The
values may have the forms of TOML 1.1.
-/

namespace PanelLink.Toml

inductive Statement where
  | header (key : KeyPath)
  | repeatedHeader (key : KeyPath)
  | assign (key : KeyPath) (value : Node)

def statement (text : List Char) : Option (Option Statement × List Char) :=
  match skipLines false text with
  | [] => some (none, [])
  | '[' :: '[' :: rest => do
    let (key, rest) ← keyPath (skipBlanks rest)
    match skipBlanks rest with
    | ']' :: ']' :: rest => return (some (.repeatedHeader key), ← lineEnd? rest)
    | _ => none
  | '[' :: rest => do
    let (key, rest) ← keyPath (skipBlanks rest)
    match skipBlanks rest with
    | ']' :: rest => return (some (.header key), ← lineEnd? rest)
    | _ => none
  | text => do
    let ((key, item), rest) ← assignment skipBlanks value text
    return (some (.assign key item), ← lineEnd? rest)

def dropMark : List Char → List Char
  | '\uFEFF' :: rest => rest
  | text => text

def statements? (text : List Char) : Option (List Statement) := do
  let (found, rest) ← collect statement (dropMark text)
  if rest = [] then some found else none

structure Draft where
  root : Table := { kind := .header }
  current : List String := []

namespace Draft

def path (key : KeyPath) : List String :=
  key.parents ++ [key.last]

def step (draft : Draft) : Statement → Option Draft
  | .header key => return ⟨← draft.root.openTable key, path key⟩
  | .repeatedHeader key => return ⟨← draft.root.appendTable key, path key⟩
  | .assign key item => do
    let root ← draft.root.update false (fun table => table.assign key item) draft.current
    return { draft with root }

end Draft

def parse? (text : String) : Option Table := do
  let draft ← (← statements? text.toList).foldlM Draft.step {}
  return draft.root

end PanelLink.Toml
