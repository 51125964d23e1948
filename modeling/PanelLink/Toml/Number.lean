import PanelLink.Toml.Quoted

/-!
# Numbers

Integers in four bases and decimal fractions.  Underscores may stand between
digits, and a decimal number does not start with a zero it could do without.  An
integer is recognised by its first digits; whether the others belong to its base
shows when it is read.
-/

namespace PanelLink.Toml

def digit? (base : Nat) (c : Char) : Option Nat :=
  (hexDigit? c).filter (· < base)

def isDigitOf (base : Nat) (c : Char) : Bool :=
  (digit? base c).isSome

def ofDigits? (base : Nat) (digits : List Char) : Option Nat :=
  if digits.isEmpty then none
  else digits.foldlM (fun n c => return base * n + (← digit? base c)) 0

def splitSign : List Char → Option Char × List Char
  | '+' :: rest => (some '+', rest)
  | '-' :: rest => (some '-', rest)
  | text => (none, text)

def signed (sign : Option Char) (n : Nat) : Int :=
  if sign = some '-' then -n else n

/-! ## Underscores -/

/-- Whether every underscore has a digit on both sides.  `afterDigit` stands for what comes before
the text. -/
def underscoresFit (isDigit : Char → Bool) (afterDigit : Bool) : List Char → Bool
  | [] => true
  | '_' :: c :: rest => afterDigit && isDigit c && underscoresFit isDigit afterDigit (c :: rest)
  | c :: rest => c ≠ '_' && underscoresFit isDigit (isDigit c) rest

def dropUnderscores (text : List Char) : List Char :=
  text.filter (· ≠ '_')

def hasLeadingZero (run : List Char) : Bool :=
  run.head? = some '0' && 1 < (run.filter Char.isDigit).length

/-! ## Integers -/

structure Numeral where
  sign : Option Char
  base : Nat
  digits : List Char
deriving DecidableEq, Repr

namespace Numeral

def value? (numeral : Numeral) : Option Int :=
  (ofDigits? numeral.base numeral.digits).map (signed numeral.sign)

def ofBase? (base : Nat) (text : List Char) : Option Numeral :=
  if text.all (fun c => c = '_' || isDigitOf base c) &&
      underscoresFit (isDigitOf 16) false text then
    some ⟨none, base, dropUnderscores text⟩
  else
    none

/-- A decimal number after its sign.  After the first underscore only what stands next to
underscores is looked at, and the letters of hexadecimal digits pass there. -/
def ofDecimal? (sign : Option Char) (text : List Char) : Option Numeral :=
  match text.dropWhile Char.isDigit with
  | [] =>
    if text.isEmpty || hasLeadingZero text then none else some ⟨sign, 10, text⟩
  | '_' :: rest =>
    if text.head? = some '0' || rest.any (fun c => c = '.' || c = 'e' || c = 'E') ||
        !underscoresFit (isDigitOf 16) sign.isSome text then
      none
    else
      some ⟨sign, 10, dropUnderscores text⟩
  | _ => none

end Numeral

def integer? : List Char → Option Numeral
  | '0' :: 'x' :: rest => Numeral.ofBase? 16 rest
  | '0' :: 'o' :: rest => Numeral.ofBase? 8 rest
  | '0' :: 'b' :: rest => Numeral.ofBase? 2 rest
  | text =>
    let (sign, rest) := splitSign text
    Numeral.ofDecimal? sign rest

/-! ## Fractions -/

inductive Magnitude where
  | finite (coefficient : Nat) (exponent : Int)
  | nonFinite
deriving DecidableEq, Repr

def digitRun (text : List Char) : Option (List Char × List Char) :=
  let (run, rest) := text.span fun c => c.isDigit || c = '_'
  let digits := run.filter Char.isDigit
  if digits.isEmpty then none else some (digits, rest)

def decimals : Parser (List Char)
  | '.' :: rest => digitRun rest
  | text => some ([], text)

def exponent (text : List Char) : Option (Int × List Char) :=
  match text with
  | [] => some (0, [])
  | c :: rest =>
    if c = 'e' ∨ c = 'E' then do
      let (sign, rest) := splitSign rest
      let (digits, rest) ← digitRun rest
      return (signed sign (← ofDigits? 10 digits), rest)
    else
      some (0, text)

def fraction? (text : List Char) : Option Magnitude := do
  let (sign, text) := splitSign text
  if text = ['i', 'n', 'f'] ∨ text = ['n', 'a', 'n'] then
    return .nonFinite
  if hasLeadingZero (text.takeWhile fun c => c.isDigit || c = '_') ||
      !underscoresFit Char.isDigit sign.isSome text then
    none
  let (whole, rest) ← digitRun text
  let (part, tail) ← decimals rest
  let (power, tail) ← exponent tail
  if rest = [] ∨ tail ≠ [] then
    none
  return .finite (← ofDigits? 10 (whole ++ part)) (power - part.length)

/-- Whether a magnitude lies in the range of numbers of 64 bits.  A finite one does unless it is
nearer to `2 ^ 1024` than to the greatest number below. -/
def Magnitude.inRange : Magnitude → Bool
  | .nonFinite => true
  | .finite coefficient exponent =>
    let limit := Nat.pow 2 1024 - Nat.pow 2 970
    -- the size in digits settles all but the close cases, and keeps the powers small
    let size := (Nat.toDigits 10 coefficient).length + exponent
    if coefficient = 0 ∨ size < 300 then
      true
    else if size > 320 then
      false
    else if 0 ≤ exponent then
      coefficient * Nat.pow 10 exponent.toNat < limit
    else
      coefficient < limit * Nat.pow 10 (-exponent).toNat

end PanelLink.Toml
