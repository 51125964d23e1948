import PanelLink.Proofs.Toml.Tokens
import PanelLink.Toml.Document

/-!
# Lines

A document of headers with one bare key and of assignments to bare keys, one on a line.  Blanks may
stand between the tokens of a line and empty lines between the lines, and the last line may do
without an end.
-/

namespace PanelLink.Toml

variable {text rest : List Char}

/-! ## Between lines -/

/-- Blanks and whole line ends. -/
inductive Gap : List Char → Prop
  | nil : Gap []
  | blank {c : Char} {gap : List Char} (hblank : isBlank c = true) (hgap : Gap gap) : Gap (c :: gap)
  | newline {gap : List Char} (hgap : Gap gap) : Gap ('\n' :: gap)
  | returned {gap : List Char} (hgap : Gap gap) : Gap ('\r' :: '\n' :: gap)

/-- What a line ends with in front of the rest of a document. -/
inductive Ending : List Char → List Char → Prop
  | newline {rest : List Char} : Ending ['\n'] rest
  | returned {rest : List Char} : Ending ['\r', '\n'] rest
  | last : Ending [] []

/-- A line does not begin with what may stand before it. -/
def StartsLine (c : Char) : Prop :=
  isBlank c = false ∧ c ≠ '\n' ∧ c ≠ '\r' ∧ c ≠ '#'

theorem Gap.skipLines_append {gap : List Char} (hgap : Gap gap) :
    skipLines false (gap ++ rest) = skipLines false rest := by
  induction hgap with
  | nil => rfl
  | newline _ ih | returned _ ih => simpa [skipLines] using ih
  | blank hblank _ ih =>
      rw [← ih]
      rcases isBlank_iff.mp hblank with rfl | rfl <;> simp [skipLines, isBlank]

theorem StartsLine.skipLines_cons {c : Char} (hc : StartsLine c) :
    skipLines false (c :: rest) = c :: rest := by
  rcases hc with ⟨hblank, hnewline, hreturn, hcomment⟩
  rw [skipLines] <;> simp_all

theorem Ending.stops {isInside : Char → Bool} {ending : List Char} (hending : Ending ending rest)
    (hnewline : isInside '\n' = false) (hreturn : isInside '\r' = false) :
    Stops isInside (ending ++ rest) := by
  cases hending with
  | newline => exact stops_cons.mpr hnewline
  | returned => exact stops_cons.mpr hreturn
  | last => exact stops_nil

theorem Ending.lineEnd?_append
    {blanks ending : List Char} (hblanks : Blanks blanks) (hending : Ending ending rest) :
    lineEnd? (blanks ++ (ending ++ rest)) = some rest := by
  rw [lineEnd?, hblanks.skipBlanks_append (hending.stops (by decide) (by decide))]
  cases hending <;> rfl

/-! ## Statements -/

/-- The statement that gives a key its value. -/
def assigned (entry : String × Node) : Statement :=
  .assign ⟨[], entry.1⟩ entry.2

/-- The text spells a statement, without what stands around it on its line. -/
inductive Spells : Statement → List Char → Prop
  | header {key : String} {before after : List Char} (hbefore : Blanks before)
      (hkey : BareKey key.toList) (hafter : Blanks after) :
      Spells (.header ⟨[], key⟩) ('[' :: (before ++ (key.toList ++ (after ++ [']']))))
  | assign {key : String} {before after : List Char} (hkey : BareKey key.toList)
      (hbefore : Blanks before) (hafter : Blanks after) (literal : Literal) :
      Spells (assigned (key, literal.node))
        (key.toList ++ (before ++ '=' :: (after ++ literal.chars)))

theorem BareKey.stops_append
    {isInside : Char → Bool} {key : List Char} (hkey : BareKey key)
    (hbare : ∀ c, isBareKeyChar c = true → isInside c = false) (rest : List Char) :
    Stops isInside (key ++ rest) := by
  cases key with
  | nil => exact absurd rfl hkey.ne_nil
  | cons c key => exact stops_cons.mpr (hbare c (hkey.isBareKeyChar_of_mem (by simp)))

theorem ne_of_isBareKeyChar
    {c d : Char} (hc : isBareKeyChar c = true) (hd : isBareKeyChar d = false) : c ≠ d := by
  rintro rfl
  rw [hd] at hc
  contradiction

theorem startsLine_of_isBareKeyChar {c : Char} (hc : isBareKeyChar c = true) : StartsLine c := by
  have hblank : isBlank c = false := by
    have hspace : c ≠ ' ' := ne_of_isBareKeyChar hc (by decide)
    have htab : c ≠ '\t' := ne_of_isBareKeyChar hc (by decide)
    simp [isBlank, hspace, htab]
  exact ⟨hblank, ne_of_isBareKeyChar hc (by decide), ne_of_isBareKeyChar hc (by decide),
    ne_of_isBareKeyChar hc (by decide)⟩

theorem statement_header
    {key : String} {before after behind : List Char} (hbefore : Blanks before)
    (hkey : BareKey key.toList) (hafter : Blanks after) (hend : lineEnd? behind = some rest) :
    statement ('[' :: (before ++ (key.toList ++ (after ++ ']' :: behind)))) =
      some (some (.header ⟨[], key⟩), rest) := by
  have hstart : StartsLine '[' := ⟨by decide, by decide, by decide, by decide⟩
  have hsingle : Stops (· == '[') (before ++ (key.toList ++ (after ++ ']' :: behind))) := by
    apply hbefore.stops_append (by decide) (by decide)
    apply hkey.stops_append
    intro c hc
    simpa using ne_of_isBareKeyChar hc (by decide)
  have hskip : skipBlanks (before ++ (key.toList ++ (after ++ ']' :: behind))) =
      key.toList ++ (after ++ ']' :: behind) := by
    apply hbefore.skipBlanks_append
    apply hkey.stops_append
    intro c hc
    exact (startsLine_of_isBareKeyChar hc).1
  have hkeyPath := @BareKey.keyPath_append behind after key.toList hkey hafter ']' (.inr rfl)
  rw [String.ofList_toList] at hkeyPath
  rw [statement, hstart.skipLines_cons]
  split
  next heq => contradiction
  next tail heq =>
    simp only [List.cons.injEq, true_and] at heq
    rw [heq, stops_cons] at hsingle
    contradiction
  next tail _ heq =>
    simp only [List.cons.injEq, true_and] at heq
    subst heq
    rw [hskip, hkeyPath]
    simp [skipBlanks, isBlank, hend]
  next hnot => exact absurd rfl (hnot _)

theorem statement_assign
    {key : String} {before after behind : List Char} (hkey : BareKey key.toList)
    (hbefore : Blanks before) (hafter : Blanks after) (literal : Literal)
    (hstops : Stops isScalarChar behind) (hend : lineEnd? behind = some rest) :
    statement (key.toList ++ (before ++ '=' :: (after ++ (literal.chars ++ behind)))) =
      some (some (assigned (key, literal.node)), rest) := by
  have hkeyPath := @BareKey.keyPath_append
    (after ++ (literal.chars ++ behind)) before key.toList hkey hbefore '=' (.inl rfl)
  rw [String.ofList_toList] at hkeyPath
  have hskip : skipBlanks (after ++ (literal.chars ++ behind)) = literal.chars ++ behind :=
    hafter.skipBlanks_append (literal.stops_isBlank behind)
  have hassign : assignment skipBlanks value
      (key.toList ++ (before ++ '=' :: (after ++ (literal.chars ++ behind)))) =
        some ((⟨[], key⟩, literal.node), behind) := by
    have hequals : Stops isBlank ('=' :: (after ++ (literal.chars ++ behind))) :=
      stops_cons.mpr (by decide)
    rw [assignment, hkeyPath]
    simp [hequals.skipBlanks_eq, hskip, literal.value_append hstops]
  cases hchars : key.toList with
  | nil => exact absurd hchars hkey.ne_nil
  | cons c chars =>
      have hc : isBareKeyChar c = true := hkey.isBareKeyChar_of_mem (by simp [hchars])
      have hbracket : c ≠ '[' := ne_of_isBareKeyChar hc (by decide)
      rw [statement, List.cons_append, (startsLine_of_isBareKeyChar hc).skipLines_cons]
      split
      next heq => contradiction
      next heq =>
        simp [hbracket] at heq
      next heq =>
        simp [hbracket] at heq
      next =>
        rw [← List.cons_append, ← hchars, hassign]
        simp [hend, assigned]

/-! ## Documents -/

/-- The text spells the statements, one on a line. -/
inductive Lines : List Statement → List Char → Prop
  | done {gap : List Char} (hgap : Gap gap) : Lines [] gap
  | next {found : Statement} {others : List Statement} {gap text blanks ending rest : List Char}
      (hgap : Gap gap) (hspells : Spells found text) (hblanks : Blanks blanks)
      (hending : Ending ending rest) (hrest : Lines others rest) :
      Lines (found :: others) (gap ++ (text ++ (blanks ++ (ending ++ rest))))

/-- An assignment with single blanks around its equals sign. -/
def assignmentLine (key : String) (literal : Literal) : List Char :=
  key.toList ++ ' ' :: '=' :: ' ' :: (literal.chars ++ ['\n'])

theorem Lines.assignmentLine_append
    {key : String} {others : List Statement} (hkey : BareKey key.toList) (literal : Literal)
    (hrest : Lines others rest) :
    Lines (assigned (key, literal.node) :: others) (assignmentLine key literal ++ rest) := by
  have hblank : Blanks [' '] := by
    simp [Blanks, isBlank]
  have hblanks : Blanks [] := by
    simp [Blanks]
  have hlines := Lines.next .nil (.assign hkey hblank hblank literal) hblanks .newline hrest
  simpa [assignmentLine] using hlines

theorem Spells.statement_append
    {found : Statement} {gap blanks ending : List Char} (hgap : Gap gap)
    (hspells : Spells found text) (hblanks : Blanks blanks) (hending : Ending ending rest) :
    statement (gap ++ (text ++ (blanks ++ (ending ++ rest)))) = some (some found, rest) := by
  have hend := hending.lineEnd?_append hblanks
  have hstops : Stops isScalarChar (blanks ++ (ending ++ rest)) :=
    hblanks.stops_append (by decide) (by decide) (hending.stops (by decide) (by decide))
  have hgapless : statement (gap ++ (text ++ (blanks ++ (ending ++ rest)))) =
      statement (text ++ (blanks ++ (ending ++ rest))) := by
    rw [statement, statement, hgap.skipLines_append]
  rw [hgapless]
  cases hspells with
  | header hbefore hkey hafter =>
      simpa using statement_header hbefore hkey hafter hend
  | assign hkey hbefore hafter literal =>
      simpa using statement_assign hkey hbefore hafter literal hstops hend

theorem Spells.ne_nil {found : Statement} (hspells : Spells found text) : text ≠ [] := by
  cases hspells with
  | header => simp
  | assign hkey => simp

theorem Lines.collect_eq {found : List Statement} (hlines : Lines found text) :
    collect statement text = some (found, []) := by
  induction hlines with
  | @done gap hgap =>
      apply collect_of_none
      have hskip : skipLines false gap = [] := by
        simpa [skipLines] using @Gap.skipLines_append [] gap hgap
      rw [statement, hskip]
  | @next found others gap text blanks ending rest hgap hspells hblanks hending hrest ih =>
      apply collect_of_some (hspells.statement_append hgap hblanks hending) _ ih
      have hpos := List.length_pos_iff.mpr hspells.ne_nil
      simp only [List.length_append]
      omega

theorem simpleKey_mark (rest : List Char) : simpleKey ('\uFEFF' :: rest) = none := by
  have hspan := @span_append isBareKeyChar [] ('\uFEFF' :: rest) (by simp)
    (stops_cons.mpr (by decide))
  rw [List.nil_append] at hspan
  rw [simpleKey, hspan]
  rfl

/-- No statement begins with a byte order mark, so where statements are found there is none. -/
theorem dropMark_of_collect {result : List Statement × List Char}
    (hcollect : collect statement text = some result) : dropMark text = text := by
  unfold dropMark
  split
  next rest =>
    have hstart : StartsLine '\uFEFF' := ⟨by decide, by decide, by decide, by decide⟩
    have hnone : statement ('\uFEFF' :: rest) = none := by
      rw [statement, hstart.skipLines_cons]
      simp [assignment, keyPath, simpleKey_mark]
    rw [collect, hnone] at hcollect
    contradiction
  next => rfl

theorem Lines.statements?_eq {found : List Statement} (hlines : Lines found text) :
    statements? text = some found := by
  rw [statements?, dropMark_of_collect hlines.collect_eq, hlines.collect_eq]
  simp

end PanelLink.Toml
