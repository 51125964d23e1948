/-!
# Patterns

Whether a text is a regular expression: groups and classes are closed, whatever is
repeated is there, and backslashes stand before characters that they change.
Counted repetition is not among the forms, because braces end the patterns of log
filters.
-/

namespace PanelLink.Pattern

inductive Place where
  | expression
  | escape
  | groupStart
  | groupOptions
  | groupName
  /-- The start of a class, where a closing bracket stands for itself. -/
  | classStart
  | classBody
  | classEscape
deriving DecidableEq, Repr

structure Progress where
  place : Place := .expression
  repeatable : Bool := false
  openGroups : Nat := 0
  openClasses : Nat := 0
deriving DecidableEq, Repr

def escapable (c : Char) : Bool :=
  c ≤ '\x7f' && (!c.isAlphanum || "ABDPSUWabdfnprstuvwxz".toList.contains c)

namespace Progress

def closeGroup? (progress : Progress) (repeatable : Bool) : Option Progress :=
  if progress.openGroups = 0 then none
  else some { progress with place := .expression, repeatable, openGroups := progress.openGroups - 1 }

def openClass (progress : Progress) : Progress :=
  { progress with place := .classStart, openClasses := progress.openClasses + 1 }

def closeClass (progress : Progress) : Progress :=
  { progress with
    place := if progress.openClasses ≤ 1 then .expression else .classBody
    repeatable := true
    openClasses := progress.openClasses - 1 }

def inExpression (progress : Progress) (c : Char) : Option Progress :=
  match c with
  | '\\' => some { progress with place := .escape }
  | '(' =>
    some { progress with
      place := .groupStart, repeatable := false, openGroups := progress.openGroups + 1 }
  | ')' => progress.closeGroup? true
  | '[' => some progress.openClass
  | '{' => none
  | '|' => some { progress with place := .expression, repeatable := false }
  | _ =>
    if ['*', '+', '?'].contains c && !progress.repeatable then none
    else some { progress with place := .expression, repeatable := true }

def inClass (progress : Progress) (c : Char) : Progress :=
  match c with
  | '\\' => { progress with place := .classEscape }
  | '[' => progress.openClass
  | _ => { progress with place := .classBody }

def step (progress : Progress) (c : Char) : Option Progress :=
  match progress.place with
  | .expression => progress.inExpression c
  | .escape =>
    if escapable c then some { progress with place := .expression, repeatable := true } else none
  | .groupStart =>
    if c = '?' then some { progress with place := .groupOptions } else progress.inExpression c
  | .groupOptions =>
    if c = ':' then some { progress with place := .expression }
    else if c = 'P' || c = '<' then some { progress with place := .groupName }
    else if c = ')' then progress.closeGroup? false
    else if "imsUuxR-".toList.contains c then some progress
    else none
  | .groupName =>
    if c = '>' then some { progress with place := .expression }
    else if c.isAlphanum || c = '_' || c = '<' then some progress
    else none
  | .classStart => some (if c = '^' then progress else progress.inClass c)
  | .classBody => some (if c = ']' then progress.closeClass else progress.inClass c)
  | .classEscape => if escapable c then some { progress with place := .classBody } else none

def isComplete (progress : Progress) : Bool :=
  progress.place = .expression && progress.openGroups = 0

end Progress

def isRegular (text : List Char) : Bool :=
  ((text.foldlM Progress.step {}).map Progress.isComplete).getD false

/-- A number with a plus sign, which is a value and no pattern. -/
def isPositive : List Char → Bool
  | '+' :: c :: rest => c.isDigit && rest.all fun c => c.isDigit || c = '.'
  | _ => false

def isWellFormed (text : List Char) : Bool :=
  isPositive text || isRegular text

end PanelLink.Pattern
