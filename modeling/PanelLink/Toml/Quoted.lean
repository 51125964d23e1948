import PanelLink.Toml.Text

/-!
# Quoted strings

Basic strings stand in double quotes and have escapes, literal strings stand in
single quotes and have none.  Either kind may run over several lines when its
quotes are tripled.  The escapes `\e` and `\xHH` are from TOML 1.1.
-/

namespace PanelLink.Toml

def hexDigit? (c : Char) : Option Nat :=
  if c.isDigit then
    some (c.toNat - '0'.toNat)
  else if 'a' ≤ c ∧ c ≤ 'f' then
    some (c.toNat - 'a'.toNat + 10)
  else if 'A' ≤ c ∧ c ≤ 'F' then
    some (c.toNat - 'A'.toNat + 10)
  else
    none

def codePoint? (digits : List Char) : Option Char := do
  let number ← digits.foldlM (fun n c => return 16 * n + (← hexDigit? c)) 0
  if number.isValidChar then some (Char.ofNat number) else none

def escaped? : Char → Option Char
  | 'b' => some '\x08'
  | 'e' => some '\x1b'
  | 't' => some '\t'
  | 'n' => some '\n'
  | 'f' => some '\x0c'
  | 'r' => some '\r'
  | '"' => some '"'
  | '\\' => some '\\'
  | _ => none

def found (c : Char) (result : Option (List Char × List Char)) : Option (List Char × List Char) :=
  result.map fun (content, rest) => (c :: content, rest)

def basicContent : Parser (List Char)
  | [] => none
  | '"' :: rest => some ([], rest)
  | '\\' :: 'x' :: a :: b :: rest => do
    found (← codePoint? [a, b]) (basicContent rest)
  | '\\' :: 'u' :: a :: b :: c :: d :: rest => do
    found (← codePoint? [a, b, c, d]) (basicContent rest)
  | '\\' :: 'U' :: a :: b :: c :: d :: e :: f :: g :: h :: rest => do
    found (← codePoint? [a, b, c, d, e, f, g, h]) (basicContent rest)
  | '\\' :: c :: rest => do found (← escaped? c) (basicContent rest)
  | c :: rest => if isPlain c && c ≠ '\\' then found c (basicContent rest) else none

def literalContent : Parser (List Char)
  | [] => none
  | '\'' :: rest => some ([], rest)
  | c :: rest => if isPlain c then found c (literalContent rest) else none

/-- The content of a basic string over several lines.  Two quotes may stand right before the three
closing ones.  A backslash at the end of a line joins it to what comes next: while `joining`,
blanks and line ends are left out. -/
def multilineBasicContent (joining : Bool) : Parser (List Char)
  | [] => none
  | '"' :: '"' :: '"' :: '"' :: '"' :: rest => some (['"', '"'], rest)
  | '"' :: '"' :: '"' :: '"' :: rest => some (['"'], rest)
  | '"' :: '"' :: '"' :: rest => some ([], rest)
  | '\n' :: rest =>
    if joining then multilineBasicContent true rest
    else found '\n' (multilineBasicContent false rest)
  | '\r' :: '\n' :: rest =>
    if joining then multilineBasicContent true rest
    else found '\r' (found '\n' (multilineBasicContent false rest))
  | '\\' :: 'x' :: a :: b :: rest => do
    found (← codePoint? [a, b]) (multilineBasicContent false rest)
  | '\\' :: 'u' :: a :: b :: c :: d :: rest => do
    found (← codePoint? [a, b, c, d]) (multilineBasicContent false rest)
  | '\\' :: 'U' :: a :: b :: c :: d :: e :: f :: g :: h :: rest => do
    found (← codePoint? [a, b, c, d, e, f, g, h]) (multilineBasicContent false rest)
  | '\\' :: c :: rest =>
    if isBlank c || c = '\n' || c = '\r' then
      -- the backslash has to be the last thing on its line
      match skipBlanks (c :: rest) with
      | '\n' :: _ => multilineBasicContent true (c :: rest)
      | '\r' :: '\n' :: _ => multilineBasicContent true (c :: rest)
      | _ => none
    else do
      found (← escaped? c) (multilineBasicContent false rest)
  | c :: rest =>
    if joining && isBlank c then multilineBasicContent true rest
    else if isPlain c && c ≠ '\\' then found c (multilineBasicContent false rest)
    else none

def multilineLiteralContent : Parser (List Char)
  | [] => none
  | '\'' :: '\'' :: '\'' :: '\'' :: '\'' :: rest => some (['\'', '\''], rest)
  | '\'' :: '\'' :: '\'' :: '\'' :: rest => some (['\''], rest)
  | '\'' :: '\'' :: '\'' :: rest => some ([], rest)
  | '\n' :: rest => found '\n' (multilineLiteralContent rest)
  | '\r' :: '\n' :: rest => found '\r' (found '\n' (multilineLiteralContent rest))
  | c :: rest => if isPlain c then found c (multilineLiteralContent rest) else none

def dropFirstNewline : List Char → List Char
  | '\n' :: rest => rest
  | '\r' :: '\n' :: rest => rest
  | text => text

def asString (result : Option (List Char × List Char)) : Option (String × List Char) :=
  result.map fun (content, rest) => (String.ofList content, rest)

def quoted : Parser String
  | '"' :: rest => asString (basicContent rest)
  | '\'' :: rest => asString (literalContent rest)
  | _ => none

def anyQuoted : Parser String
  | '"' :: '"' :: '"' :: rest => asString (multilineBasicContent false (dropFirstNewline rest))
  | '\'' :: '\'' :: '\'' :: rest => asString (multilineLiteralContent (dropFirstNewline rest))
  | text => quoted text

end PanelLink.Toml
