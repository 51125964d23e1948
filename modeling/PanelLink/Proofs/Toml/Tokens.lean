import Mathlib
import PanelLink.Toml.Value

/-!
# Tokens

Bare keys, decimal integers and strings without escapes are read as what they spell, and reading
stops right behind them.
-/

namespace PanelLink.Toml

/-! ## Spans -/

/-- The rest is empty or starts with a character outside the class. -/
def Stops (isInside : Char → Bool) (rest : List Char) : Prop :=
  ∀ c ∈ rest.head?, isInside c = false

variable {isInside : Char → Bool} {front rest : List Char}

theorem stops_nil : Stops isInside [] := by
  simp [Stops]

theorem stops_cons {c : Char} : Stops isInside (c :: rest) ↔ isInside c = false := by
  simp [Stops]

theorem Stops.dropWhile_eq (hrest : Stops isInside rest) : rest.dropWhile isInside = rest := by
  cases rest with
  | nil => rfl
  | cons c rest =>
      have hc := stops_cons.mp hrest
      simp [hc]

theorem Stops.takeWhile_eq (hrest : Stops isInside rest) : rest.takeWhile isInside = [] := by
  cases rest with
  | nil => rfl
  | cons c rest =>
      have hc := stops_cons.mp hrest
      simp [hc]

theorem span_append
    (hfront : ∀ c ∈ front, isInside c = true) (hrest : Stops isInside rest) :
    (front ++ rest).span isInside = (front, rest) := by
  rw [List.span_eq_takeWhile_dropWhile, List.takeWhile_append_of_pos hfront,
    List.dropWhile_append_of_pos hfront, hrest.takeWhile_eq, hrest.dropWhile_eq, List.append_nil]

/-! ## Blanks -/

def Blanks (text : List Char) : Prop :=
  ∀ c ∈ text, isBlank c = true

variable {blanks : List Char}

theorem isBlank_iff {c : Char} : isBlank c = true ↔ c = ' ' ∨ c = '\t' := by
  simp [isBlank]

theorem Blanks.skipBlanks_append (hblanks : Blanks blanks) (hrest : Stops isBlank rest) :
    skipBlanks (blanks ++ rest) = rest := by
  rw [skipBlanks, List.dropWhile_append_of_pos hblanks, hrest.dropWhile_eq]

theorem Stops.skipBlanks_eq (hrest : Stops isBlank rest) : skipBlanks rest = rest :=
  hrest.dropWhile_eq

/-- Blanks stop whatever does not go over them. -/
theorem Blanks.stops_append
    (hblanks : Blanks blanks) (hspace : isInside ' ' = false) (htab : isInside '\t' = false)
    (hrest : Stops isInside rest) : Stops isInside (blanks ++ rest) := by
  cases blanks with
  | nil => exact hrest
  | cons c blanks =>
      rw [List.cons_append, stops_cons]
      rcases isBlank_iff.mp (hblanks c (by simp)) with rfl | rfl
      · exact hspace
      · exact htab

/-! ## Keys -/

structure BareKey (key : List Char) : Prop where
  ne_nil : key ≠ []
  bare : key.all isBareKeyChar = true

variable {key : List Char}

theorem BareKey.isBareKeyChar_of_mem (hkey : BareKey key) {c : Char} (hc : c ∈ key) :
    isBareKeyChar c = true :=
  List.all_eq_true.mp hkey.bare c hc

theorem BareKey.simpleKey_append (hkey : BareKey key) (hrest : Stops isBareKeyChar rest) :
    simpleKey (key ++ rest) = some (String.ofList key, rest) := by
  rw [simpleKey, span_append (fun _ => hkey.isBareKeyChar_of_mem) hrest]
  cases key with
  | nil => exact absurd rfl hkey.ne_nil
  | cons c key => rfl

theorem collect_of_none
    {α : Type} {step : Parser (Option α)} {text : List Char} (hstep : step text = some (none, rest)) :
    collect step text = some ([], rest) := by
  rw [collect, hstep]

theorem collect_of_some
    {α : Type} {step : Parser (Option α)} {text rest' : List Char} {found : α} {others : List α}
    (hstep : step text = some (some found, rest)) (hlt : rest.length < text.length)
    (hrest : collect step rest = some (others, rest')) :
    collect step text = some (found :: others, rest') := by
  rw [collect, hstep]
  simp [hlt, hrest]

/-- A bare key stands before an equals sign or a closing bracket. -/
theorem BareKey.keyPath_append
    (hkey : BareKey key) (hblanks : Blanks blanks) {c : Char} (hc : c = '=' ∨ c = ']') :
    keyPath (key ++ (blanks ++ c :: rest)) = some (⟨[], String.ofList key⟩, c :: rest) := by
  have hbare : Stops isBareKeyChar (blanks ++ c :: rest) := by
    apply hblanks.stops_append (by decide) (by decide)
    rcases hc with rfl | rfl <;> exact stops_cons.mpr (by decide)
  have hblank : Stops isBlank (c :: rest) := by
    rcases hc with rfl | rfl <;> exact stops_cons.mpr (by decide)
  have hdotted : dottedKey (blanks ++ c :: rest) = some (none, c :: rest) := by
    rw [dottedKey, hblanks.skipBlanks_append hblank]
    rcases hc with rfl | rfl <;> rfl
  rw [keyPath, hkey.simpleKey_append hbare]
  simp [collect_of_none hdotted, maxDepth]

/-! ## Decimal integers -/

inductive Sign where
  | bare
  | plus
  | minus
deriving DecidableEq, Repr

def Sign.char? : Sign → Option Char
  | .bare => none
  | .plus => some '+'
  | .minus => some '-'

/-- An integer as it is written, without leading zeros. -/
structure Decimal where
  sign : Sign
  magnitude : Nat
deriving DecidableEq, Repr

namespace Decimal

def digits (decimal : Decimal) : List Char :=
  Nat.toDigits 10 decimal.magnitude

def chars (decimal : Decimal) : List Char :=
  decimal.sign.char?.toList ++ decimal.digits

def value (decimal : Decimal) : Int :=
  match decimal.sign with
  | .bare => decimal.magnitude
  | .plus => decimal.magnitude
  | .minus => -decimal.magnitude

def numeral (decimal : Decimal) : Numeral :=
  ⟨decimal.sign.char?, 10, decimal.digits⟩

end Decimal

theorem digit?_of_isDigit {c : Char} (hc : c.isDigit = true) :
    digit? 10 c = some (c.toNat - '0'.toNat) := by
  have hrange : 48 ≤ c.toNat ∧ c.toNat ≤ 57 := by
    simpa [Char.isDigit, UInt32.le_iff_toNat_le] using hc
  have hlt : c.toNat - 48 < 10 := by omega
  simp [digit?, hexDigit?, hc, hlt]

theorem ofDigits?_of_isDigit
    {digits : List Char} (hdigits : ∀ c ∈ digits, c.isDigit = true) (hne : digits ≠ []) :
    ofDigits? 10 digits = some (Nat.ofDigitChars 10 digits 0) := by
  have hfold : ∀ n, digits.foldlM (fun n c => return 10 * n + (← digit? 10 c)) n =
      some (Nat.ofDigitChars 10 digits n) := by
    clear hne
    induction digits with
    | nil =>
        intro n
        rfl
    | cons c digits ih =>
        intro n
        have hc := digit?_of_isDigit (hdigits c (by simp))
        have htail := ih fun c hc => hdigits c (by simp [hc])
        rw [List.foldlM_cons, hc, Nat.ofDigitChars_cons]
        exact htail _
  rw [ofDigits?, if_neg (by simpa using hne), hfold]

theorem head?_toDigits {n : Nat} (hhead : (Nat.toDigits 10 n).head? = some '0') : n = 0 := by
  induction n using Nat.strongRecOn with
  | ind n ih =>
      rw [Nat.toDigits_eq_if (by omega)] at hhead
      split at hhead
      next hlt => simpa using hhead
      next hle =>
        -- A longer number has the first digit of the number without its last one.
        rw [List.head?_append_of_ne_nil _ Nat.toDigits_ne_nil] at hhead
        have := ih (n / 10) (by omega) hhead
        omega

namespace Decimal

variable (decimal : Decimal)

theorem isDigit_of_mem {c : Char} (hc : c ∈ decimal.digits) : c.isDigit = true :=
  Nat.isDigit_of_mem_toDigits (by omega) (by omega) hc

theorem digits_ne_nil : decimal.digits ≠ [] :=
  Nat.toDigits_ne_nil

theorem value?_numeral : decimal.numeral.value? = some decimal.value := by
  have hdigits := ofDigits?_of_isDigit (fun _ => decimal.isDigit_of_mem) decimal.digits_ne_nil
  rw [digits, Nat.ofDigitChars_ten_toDigits] at hdigits
  rw [Numeral.value?, numeral, digits, hdigits]
  cases hsign : decimal.sign <;> simp [signed, value, Sign.char?, hsign]

theorem hasLeadingZero_digits : hasLeadingZero decimal.digits = false := by
  rw [hasLeadingZero]
  by_cases hhead : decimal.digits.head? = some '0'
  · have hzero := head?_toDigits hhead
    simp [digits, hzero]
  · simp [hhead]

theorem ofDecimal?_digits (sign : Option Char) :
    Numeral.ofDecimal? sign decimal.digits = some ⟨sign, 10, decimal.digits⟩ := by
  have hdrop : decimal.digits.dropWhile Char.isDigit = [] :=
    List.dropWhile_eq_nil_iff.mpr fun _ => decimal.isDigit_of_mem
  have hempty : decimal.digits.isEmpty = false := by
    simpa using decimal.digits_ne_nil
  rw [Numeral.ofDecimal?, hdrop]
  simp [hempty, decimal.hasLeadingZero_digits]

theorem isDigit_or_sign_of_mem {c : Char} (hc : c ∈ decimal.chars) :
    c.isDigit = true ∨ c = '+' ∨ c = '-' := by
  rw [chars, List.mem_append] at hc
  rcases hc with hsign | hdigit
  · right
    cases hkind : decimal.sign <;> simp_all [Sign.char?]
  · exact .inl (decimal.isDigit_of_mem hdigit)

theorem not_mem_chars {c : Char} (hdigit : c.isDigit = false) (hplus : c ≠ '+') (hminus : c ≠ '-') :
    c ∉ decimal.chars := by
  intro hc
  rcases decimal.isDigit_or_sign_of_mem hc with h | h | h
  · rw [hdigit] at h
    contradiction
  · exact hplus h
  · exact hminus h

theorem chars_ne_nil : decimal.chars ≠ [] := by
  simp [chars, decimal.digits_ne_nil]

theorem splitSign_chars : splitSign decimal.chars = (decimal.sign.char?, decimal.digits) := by
  cases hsign : decimal.sign with
  | bare =>
      rw [chars, hsign]
      cases hchars : decimal.digits with
      | nil => rfl
      | cons c digits =>
          have hc : c.isDigit = true := decimal.isDigit_of_mem (by simp [hchars])
          have hplus : c ≠ '+' := by
            rintro rfl
            contradiction
          have hminus : c ≠ '-' := by
            rintro rfl
            contradiction
          simp [Sign.char?, splitSign, hplus, hminus]
  | plus => simp [chars, hsign, Sign.char?, splitSign]
  | minus => simp [chars, hsign, Sign.char?, splitSign]

theorem integer?_chars : integer? decimal.chars = some decimal.numeral := by
  -- Another base is announced by a letter, and a decimal has none.
  have hbase : ∀ c ∈ ['x', 'o', 'b'], c ∉ decimal.chars := by
    intro c hc
    simp only [List.mem_cons, List.not_mem_nil, or_false] at hc
    rcases hc with rfl | rfl | rfl <;> exact decimal.not_mem_chars (by decide) (by decide) (by decide)
  unfold integer?
  split
  next rest heq => exact absurd (by simp [heq]) (hbase 'x' (by simp))
  next rest heq => exact absurd (by simp [heq]) (hbase 'o' (by simp))
  next rest heq => exact absurd (by simp [heq]) (hbase 'b' (by simp))
  next =>
    rw [splitSign_chars]
    exact decimal.ofDecimal?_digits _

end Decimal

/-! ## Scalars -/

theorem twoDigits_eq_some {text : List Char} {n : Nat} (htwo : twoDigits text = some (n, rest)) :
    ∃ a b, text = a :: b :: rest := by
  unfold twoDigits at htwo
  split at htwo
  next a b rest =>
    split at htwo
    next =>
      cases htwo
      exact ⟨a, b, rfl⟩
    next => contradiction
  next => contradiction

theorem literally_eq_some {text : List Char} {c : Char} (hc : literally c text = some rest) :
    text = c :: rest := by
  unfold literally at hc
  split at hc
  next => contradiction
  next d rest =>
    split at hc
    next heq =>
      cases hc
      rw [heq]
    next => contradiction

theorem dash_mem_of_date? {text : List Char} (hdate : date? text = some rest) : '-' ∈ text := by
  unfold date? at hdate
  rcases Option.bind_eq_some_iff.mp hdate with ⟨⟨century, behind⟩, hcentury, hdate⟩
  rcases Option.bind_eq_some_iff.mp hdate with ⟨⟨year, behind'⟩, hyear, hdate⟩
  rcases Option.bind_eq_some_iff.mp hdate with ⟨behind'', hdash, -⟩
  rcases twoDigits_eq_some hcentury with ⟨a, b, rfl⟩
  rcases twoDigits_eq_some hyear with ⟨c, d, rfl⟩
  simp [literally_eq_some hdash]

theorem date?_of_not_isDigit {c : Char} (hc : c.isDigit = false) (text : List Char) :
    date? (c :: text) = none := by
  have htwo : twoDigits (c :: text) = none := by
    cases text with
    | nil => rfl
    | cons d text => simp [twoDigits, hc]
  rw [date?, htwo]
  rfl

namespace Decimal

variable (decimal : Decimal)

theorem isDate_chars : isDate decimal.chars = false := by
  have hdate : date? decimal.chars = none := by
    cases hsign : decimal.sign with
    | bare =>
        rw [chars, hsign, Sign.char?, Option.toList_none, List.nil_append,
          Option.eq_none_iff_forall_ne_some]
        intro rest hdate
        have hdash := decimal.isDigit_of_mem (dash_mem_of_date? hdate)
        contradiction
    | plus | minus =>
        rw [chars, hsign]
        exact date?_of_not_isDigit (by decide) _
  simp [isDate, hdate]

theorem isScalarChar_of_mem {c : Char} (hc : c ∈ decimal.chars) : isScalarChar c = true := by
  rcases decimal.isDigit_or_sign_of_mem hc with hdigit | rfl | rfl
  · simp only [isScalarChar, decide_eq_true_eq]
    intro hmem
    simp only [List.mem_cons, List.not_mem_nil, or_false] at hmem
    rcases hmem with rfl | rfl | rfl | rfl | rfl | rfl | rfl | rfl | rfl | rfl | rfl <;>
      contradiction
  · decide
  · decide

theorem scalarOf?_chars : scalarOf? decimal.chars = some (.integer decimal.numeral) := by
  have ht : 't' ∉ decimal.chars := decimal.not_mem_chars (by decide) (by decide) (by decide)
  have hf : 'f' ∉ decimal.chars := decimal.not_mem_chars (by decide) (by decide) (by decide)
  have htrue : decimal.chars ≠ ['t', 'r', 'u', 'e'] := by
    intro heq
    simp [heq] at ht
  have hfalse : decimal.chars ≠ ['f', 'a', 'l', 's', 'e'] := by
    intro heq
    simp [heq] at hf
  rw [scalarOf?, if_neg htrue, if_neg hfalse, integer?_chars]

theorem scalar_append (hrest : Stops isScalarChar rest) :
    scalar (decimal.chars ++ rest) = some (.scalar (.integer decimal.numeral), rest) := by
  have htoken : scalarToken (decimal.chars ++ rest) = (decimal.chars, rest) := by
    rw [scalarToken, span_append (fun _ => decimal.isScalarChar_of_mem) hrest]
    dsimp only
    split
    -- Only a date goes on behind a blank, with its time.
    next => simp [decimal.isDate_chars]
    next => rfl
  rw [scalar, htoken]
  dsimp only
  rw [scalarOf?_chars]
  rfl

end Decimal

/-! ## Strings -/

/-- A text that can stand between quotes as it is. -/
structure PlainText where
  text : String
  plain : ∀ c ∈ text.toList, isPlain c = true ∧ c ≠ '"' ∧ c ≠ '\\'

theorem isPlain_of_isAlphanum {c : Char} (hc : c.isAlphanum = true) : isPlain c = true := by
  have hdelete : c ≠ '\x7f' := by
    rintro rfl
    contradiction
  have hspace : ' ' ≤ c := by
    simp only [Char.isAlphanum, Char.isAlpha, Char.isUpper, Char.isLower, Char.isDigit,
      Bool.or_eq_true, Bool.and_eq_true, decide_eq_true_eq, ge_iff_le, UInt32.le_iff_toNat_le,
      Char.le_def] at *
    simp at *
    omega
  simp [isPlain, hspace, hdelete]

/-- Letters, digits, dots, slashes, dashes and underscores stand for themselves. -/
def PlainText.ofName
    (text : String)
    (hname : text.toList.all (fun c => c.isAlphanum || c ∈ ['.', '/', '-', '_']) = true) :
    PlainText where
  text
  plain c hc := by
    have hclass := List.all_eq_true.mp hname c hc
    rw [Bool.or_eq_true, decide_eq_true_eq] at hclass
    rcases hclass with halphanum | hmem
    · have hquote : c ≠ '"' := by
        rintro rfl
        contradiction
      have hescape : c ≠ '\\' := by
        rintro rfl
        contradiction
      exact ⟨isPlain_of_isAlphanum halphanum, hquote, hescape⟩
    · simp only [List.mem_cons, List.not_mem_nil, or_false] at hmem
      rcases hmem with rfl | rfl | rfl | rfl <;> decide

theorem basicContent_append
    {text : List Char} (hplain : ∀ c ∈ text, isPlain c = true ∧ c ≠ '"' ∧ c ≠ '\\') :
    basicContent (text ++ '"' :: rest) = some (text, rest) := by
  induction text with
  | nil => rfl
  | cons c text ih =>
      rcases hplain c (by simp) with ⟨hc, hquote, hescape⟩
      have htail := ih fun c hc => hplain c (by simp [hc])
      rw [List.cons_append, basicContent]
      · simp [hc, hescape, htail, found]
      all_goals simp_all

/-- Two quotes are the empty string as long as there is no third. -/
theorem PlainText.anyQuoted_append (plain : PlainText) (hrest : Stops isScalarChar rest) :
    anyQuoted ('"' :: (plain.text.toList ++ '"' :: rest)) = some (plain.text, rest) := by
  have hcontent := @basicContent_append rest plain.text.toList plain.plain
  have hsingle : quoted ('"' :: (plain.text.toList ++ '"' :: rest)) = some (plain.text, rest) := by
    simp [quoted, asString, hcontent]
  unfold anyQuoted
  split
  next behind heq =>
    cases htext : plain.text.toList with
    | nil =>
        simp only [htext, List.nil_append, List.cons.injEq, true_and] at heq
        rw [heq, stops_cons] at hrest
        contradiction
    | cons c text =>
        simp only [htext, List.cons_append, List.cons.injEq, true_and] at heq
        exact absurd heq.1 (plain.plain c (by simp [htext])).2.1
  next heq => simp at heq
  next => exact hsingle

/-! ## Literals -/

inductive Literal where
  | integer (decimal : Decimal)
  | string (plain : PlainText)

namespace Literal

def chars : Literal → List Char
  | .integer decimal => decimal.chars
  | .string plain => '"' :: (plain.text.toList ++ ['"'])

def node : Literal → Node
  | .integer decimal => .scalar (.integer decimal.numeral)
  | .string plain => .scalar (.string plain.text)

theorem stops_isBlank (literal : Literal) (rest : List Char) :
    Stops isBlank (literal.chars ++ rest) := by
  cases literal with
  | string plain => exact stops_cons.mpr (by decide)
  | integer decimal =>
      rw [chars]
      cases hchars : decimal.chars with
      | nil => exact absurd hchars decimal.chars_ne_nil
      | cons c chars =>
          rw [List.cons_append, stops_cons]
          have hc : c ∈ decimal.chars := by simp [hchars]
          rcases decimal.isDigit_or_sign_of_mem hc with hdigit | rfl | rfl
          · have hspace : c ≠ ' ' := by
              rintro rfl
              contradiction
            have htab : c ≠ '\t' := by
              rintro rfl
              contradiction
            simp [isBlank, hspace, htab]
          · decide
          · decide

theorem valueWithin_quote (depth : Nat) (rest : List Char) :
    valueWithin depth ('"' :: rest) =
      (anyQuoted ('"' :: rest)).map fun (text, rest) => (.scalar (.string text), rest) := by
  cases depth <;> rfl

theorem valueWithin_scalar
    {c : Char} (hquotes : c ≠ '"' ∧ c ≠ '\'') (hbrackets : c ≠ '[' ∧ c ≠ '{') (depth : Nat) :
    valueWithin depth (c :: rest) = scalar (c :: rest) := by
  cases depth <;> rw [valueWithin] <;> simp [hquotes, hbrackets]

theorem value_append (literal : Literal) (hrest : Stops isScalarChar rest) :
    value (literal.chars ++ rest) = some (literal.node, rest) := by
  cases literal with
  | string plain =>
      have hquoted := plain.anyQuoted_append hrest
      rw [value, chars, List.cons_append, List.append_assoc, List.singleton_append,
        valueWithin_quote, hquoted]
      rfl
  | integer decimal =>
      have hscalar := decimal.scalar_append hrest
      have hhead : ∀ c ∈ ['"', '\'', '[', '{'], c ∉ decimal.chars := by
        intro c hc
        simp only [List.mem_cons, List.not_mem_nil, or_false] at hc
        rcases hc with rfl | rfl | rfl | rfl <;>
          exact decimal.not_mem_chars (by decide) (by decide) (by decide)
      rw [chars, node, ← hscalar]
      cases hchars : decimal.chars with
      | nil => exact absurd hchars decimal.chars_ne_nil
      | cons c chars =>
          have hquotes : c ≠ '"' ∧ c ≠ '\'' := by
            constructor <;> rintro rfl <;> simp [hchars] at hhead
          have hbrackets : c ≠ '[' ∧ c ≠ '{' := by
            constructor <;> rintro rfl <;> simp [hchars] at hhead
          rw [value, List.cons_append, valueWithin_scalar hquotes hbrackets]

end Literal

end PanelLink.Toml
