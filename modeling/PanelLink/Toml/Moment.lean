import PanelLink.Toml.Text

/-!
# Dates and times

A date, a time of day, or both, and then possibly an offset from universal time.
TOML 1.1 lets a time do without seconds.
-/

namespace PanelLink.Toml

def twoDigits : Parser Nat
  | a :: b :: rest =>
    if a.isDigit ∧ b.isDigit then
      some (10 * (a.toNat - '0'.toNat) + (b.toNat - '0'.toNat), rest)
    else
      none
  | _ => none

def literally (c : Char) : List Char → Option (List Char)
  | [] => none
  | d :: rest => if c = d then some rest else none

def isLeapYear (year : Nat) : Bool :=
  year % 4 = 0 && (year % 100 ≠ 0 || year % 400 = 0)

def daysInMonth (year month : Nat) : Nat :=
  if month = 2 then
    if isLeapYear year then 29 else 28
  else if month = 4 ∨ month = 6 ∨ month = 9 ∨ month = 11 then
    30
  else
    31

def date? (text : List Char) : Option (List Char) := do
  let (century, rest) ← twoDigits text
  let (year, rest) ← twoDigits rest
  let (month, rest) ← twoDigits (← literally '-' rest)
  let (day, rest) ← twoDigits (← literally '-' rest)
  if 1 ≤ month ∧ month ≤ 12 ∧ 1 ≤ day ∧ day ≤ daysInMonth (100 * century + year) month then
    some rest
  else
    none

def fractionOfSecond? : List Char → Option (List Char)
  | '.' :: c :: rest => if c.isDigit then some (rest.dropWhile Char.isDigit) else none
  | '.' :: [] => none
  | text => some text

/-- The seconds of a time of day, which may be left out.  There may be a leap second. -/
def seconds? : List Char → Option (List Char)
  | ':' :: rest => do
    let (second, rest) ← twoDigits rest
    if second ≤ 60 then fractionOfSecond? rest else none
  | text => some text

def time? (text : List Char) : Option (List Char) := do
  let (hour, rest) ← twoDigits text
  let (minute, rest) ← twoDigits (← literally ':' rest)
  if hour ≤ 23 ∧ minute ≤ 59 then seconds? rest else none

def isOffset : List Char → Bool
  | [] => true
  | ['Z'] => true
  | ['z'] => true
  | sign :: rest =>
    (sign = '+' || sign = '-') &&
      match twoDigits rest with
      | some (hours, ':' :: rest) =>
        match twoDigits rest with
        | some (minutes, []) => hours ≤ 23 && minutes ≤ 59
        | _ => false
      | _ => false

def isDate (text : List Char) : Bool :=
  date? text = some []

def isMoment (text : List Char) : Bool :=
  time? text = some [] ||
    match date? text with
    | none => false
    | some [] => true
    | some (separator :: rest) =>
      (separator = 'T' || separator = 't' || separator = ' ') &&
        match time? rest with
        | some rest => isOffset rest
        | none => false

end PanelLink.Toml
