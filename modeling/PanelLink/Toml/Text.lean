/-!
# Text of a TOML document

Parsers take characters from the front of a list and leave the rest.  Together they
read TOML 1.1: all of 1.0, and the forms that 1.1 has added to strings, times and
inline tables.  This module holds the loop they share, the classes of characters,
and what lies between tokens: blanks, line ends and comments.
-/

namespace PanelLink.Toml

abbrev Parser (α : Type) := List Char → Option (α × List Char)

/-- Repeats a step until it finds nothing more.  A step that finds something has to consume some
of the text, or the loop fails. -/
def collect {α : Type} (step : Parser (Option α)) (text : List Char) :
    Option (List α × List Char) :=
  match step text with
  | none => none
  | some (none, rest) => some ([], rest)
  | some (some found, rest) =>
    if rest.length < text.length then do
      let (others, rest) ← collect step rest
      return (found :: others, rest)
    else
      none
termination_by text.length

/-! ## Characters -/

def isBlank (c : Char) : Bool :=
  c = ' ' || c = '\t'

def isPlain (c : Char) : Bool :=
  c = '\t' || (' ' ≤ c && c ≠ '\x7f')

def isBareKeyChar (c : Char) : Bool :=
  c.isAlphanum || c = '_' || c = '-'

def isScalarChar (c : Char) : Bool :=
  c ∉ ['=', ',', '[', ']', '{', '}', ' ', '\t', '#', '\r', '\n']

/-! ## Between tokens -/

def skipBlanks (text : List Char) : List Char :=
  text.dropWhile isBlank

def skipLines (inComment : Bool) : List Char → List Char
  | [] => []
  | '\n' :: rest => skipLines false rest
  | '\r' :: '\n' :: rest => skipLines false rest
  | c :: rest =>
    if inComment then
      if isPlain c then skipLines true rest else c :: rest
    else if isBlank c then
      skipLines false rest
    else if c = '#' then
      skipLines true rest
    else
      c :: rest

def newline? : List Char → Option (List Char)
  | [] => some []
  | '\n' :: rest => some rest
  | '\r' :: '\n' :: rest => some rest
  | _ => none

def lineEnd? (text : List Char) : Option (List Char) :=
  match skipBlanks text with
  | '#' :: rest => newline? (rest.dropWhile isPlain)
  | rest => newline? rest

end PanelLink.Toml
