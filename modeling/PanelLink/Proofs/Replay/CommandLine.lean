import Mathlib.Data.List.Induction
import PanelLink.Replay.Arguments

/-!
# Command lines

A command line is a row of items: options, each with the file that follows it whatever that is
called, and captures.  It has no other reading.  Of the order of its items only that of the
captures and that of the options of one kind counts.
-/

namespace PanelLink.Arguments

/-! ## Items -/

inductive OptionKind where
  | settings
  | output
deriving DecidableEq

inductive OptionForm where
  | long
  | short
deriving DecidableEq

def optionWord : OptionKind → OptionForm → String
  | .settings, .long => "--config"
  | .settings, .short => "-c"
  | .output, .long => "--output"
  | .output, .short => "-o"

/-- The word stands for a capture.  A dash may begin it only if there is nothing else in it. -/
def NamesCapture (word : String) : Prop :=
  word.toList.head? ≠ some '-' ∨ word = "-"

instance (word : String) : Decidable (NamesCapture word) :=
  inferInstanceAs (Decidable (word.toList.head? ≠ some '-' ∨ word = "-"))

inductive Item where
  | option (kind : OptionKind) (form : OptionForm) (file : String)
  | capture (path : String) (hpath : NamesCapture path)

namespace Item

def words : Item → List String
  | .option kind form file => [optionWord kind form, file]
  | .capture path _ => [path]

def file? (kind : OptionKind) : Item → Option String
  | .option given _ file => if given = kind then some file else none
  | .capture _ _ => none

def path? : Item → Option String
  | .option _ _ _ => none
  | .capture path _ => some path

end Item

/-- The files of the options of a kind, as they follow each other. -/
def files (kind : OptionKind) (items : List Item) : List String :=
  items.filterMap (Item.file? kind)

def paths (items : List Item) : List String :=
  items.filterMap Item.path?

/-- What some items ask for: the last file of each kind, and all captures. -/
def ofItems (items : List Item) : Arguments where
  settings := (files .settings items).getLast?
  output := (files .output items).getLast?
  captures := paths items

def add (taken : Arguments) : Item → Arguments
  | .option .settings _ file => { taken with settings := some file }
  | .option .output _ file => { taken with output := some file }
  | .capture path _ => { taken with captures := taken.captures ++ [path] }

theorem ofItems_concat (items : List Item) (item : Item) :
    ofItems (items ++ [item]) = (ofItems items).add item := by
  cases item with
  | option kind form file =>
      cases kind with
      | settings => simp [ofItems, files, paths, add, Item.file?, Item.path?]
      | output => simp [ofItems, files, paths, add, Item.file?, Item.path?]
  | capture path hpath => simp [ofItems, files, paths, add, Item.file?, Item.path?]

theorem foldl_add (items : List Item) : items.foldl add {} = ofItems items := by
  induction items using List.reverseRecOn with
  | nil => rfl
  | append_singleton items item ih =>
      rw [List.foldl_append, ih, ofItems_concat]
      rfl

/-! ## Words -/

theorem optionWord_inj {kind kind' : OptionKind} {form form' : OptionForm} :
    optionWord kind form = optionWord kind' form' ↔ kind = kind' ∧ form = form' := by
  cases kind <;> cases kind' <;> cases form <;> cases form' <;> decide

theorem exists_form {word : String} {kind : OptionKind} :
    (∃ form, word = optionWord kind form) ↔
      word = optionWord kind .long ∨ word = optionWord kind .short := by
  constructor
  · rintro ⟨form, rfl⟩
    cases form with
    | long => exact .inl rfl
    | short => exact .inr rfl
  · rintro (hlong | hshort)
    · exact ⟨.long, hlong⟩
    · exact ⟨.short, hshort⟩

theorem isSettingsOption_iff {word : String} :
    isSettingsOption word = true ↔ ∃ form, word = optionWord .settings form := by
  rw [exists_form]
  simp [isSettingsOption, optionWord]

theorem isOutputOption_iff {word : String} :
    isOutputOption word = true ↔ ∃ form, word = optionWord .output form := by
  rw [exists_form]
  simp [isOutputOption, optionWord]

theorem namesCapture_iff {word : String} :
    NamesCapture word ↔ looksLikeOption word = false := by
  have hdash : word = "-" ↔ word.toList = ['-'] := String.toList_inj.symm
  rw [NamesCapture, hdash, looksLikeOption]
  cases word.toList with
  | nil => simp
  | cons first rest =>
      by_cases hfirst : first = '-'
      · subst hfirst
        cases rest with
        | nil => simp
        | cons second rest => simp
      · simp [hfirst]

theorem not_namesCapture_optionWord (kind : OptionKind) (form : OptionForm) :
    ¬ NamesCapture (optionWord kind form) := by
  cases kind <;> cases form <;> decide

theorem looksLikeOption_of_isOption {word : String}
    (hword : isSettingsOption word = true ∨ isOutputOption word = true ∨
      isHelpOption word = true) : looksLikeOption word = true := by
  simp only [isSettingsOption, isOutputOption, isHelpOption, Bool.or_eq_true,
    decide_eq_true_eq] at hword
  rcases hword with (rfl | rfl) | (rfl | rfl) | (rfl | rfl) <;> decide

theorem NamesCapture.not_isOption {word : String} (hword : NamesCapture word) :
    isSettingsOption word = false ∧ isOutputOption word = false ∧ isHelpOption word = false := by
  have hnone : ¬ (isSettingsOption word = true ∨ isOutputOption word = true ∨
      isHelpOption word = true) := by
    intro hoption
    have hplain := namesCapture_iff.mp hword
    rw [looksLikeOption_of_isOption hoption] at hplain
    contradiction
  simpa only [not_or, Bool.not_eq_true] using hnone

/-! ## Reading items -/

theorem take_capture
    {path : String} (taken : Arguments) (hpath : NamesCapture path) (rest : List String) :
    take taken (path :: rest) =
      take { taken with captures := taken.captures ++ [path] } rest := by
  obtain ⟨hsettings, houtput, hhelp⟩ := hpath.not_isOption
  have hoption := namesCapture_iff.mp hpath
  cases rest with
  | nil => simp [take, hsettings, houtput, hhelp, hoption]
  | cons file rest => simp [take, hsettings, houtput, hhelp, hoption]

theorem take_words (taken : Arguments) (item : Item) (rest : List String) :
    take taken (item.words ++ rest) = take (taken.add item) rest := by
  cases item with
  | option kind form file =>
      cases kind with
      | settings =>
          have hsettings := isSettingsOption_iff.mpr ⟨form, rfl⟩
          simp [Item.words, take, add, hsettings]
      | output =>
          have houtput := isOutputOption_iff.mpr ⟨form, rfl⟩
          have hsettings : isSettingsOption (optionWord .output form) = false := by
            rw [Bool.eq_false_iff]
            intro hoption
            obtain ⟨other, hother⟩ := isSettingsOption_iff.mp hoption
            exact absurd (optionWord_inj.mp hother).1 (by decide)
          simp [Item.words, take, add, hsettings, houtput]
  | capture path hpath => exact take_capture taken hpath rest

theorem take_items (taken : Arguments) (items : List Item) :
    take taken (items.flatMap Item.words) = .ok (items.foldl add taken) := by
  induction items generalizing taken with
  | nil => rfl
  | cons item items ih => rw [List.flatMap_cons, take_words, ih, List.foldl_cons]

/-- What is read to its end is a row of items. -/
theorem exists_items
    {taken parsed : Arguments} {arguments : List String}
    (htake : take taken arguments = .ok parsed) :
    ∃ items : List Item, arguments = items.flatMap Item.words := by
  fun_induction take taken arguments with
  | case1 => exact ⟨[], rfl⟩
  | case2 => contradiction
  | case3 => contradiction
  | case4 => contradiction
  | case5 taken argument hoption hhelp hcapture =>
      have hpath := namesCapture_iff.mpr (Bool.eq_false_iff.mpr hcapture)
      exact ⟨[.capture argument hpath], rfl⟩
  | case6 taken argument file rest hsettings ih =>
      obtain ⟨form, rfl⟩ := isSettingsOption_iff.mp hsettings
      obtain ⟨items, rfl⟩ := ih htake
      exact ⟨.option .settings form file :: items, rfl⟩
  | case7 taken argument file rest hsettings houtput ih =>
      obtain ⟨form, rfl⟩ := isOutputOption_iff.mp houtput
      obtain ⟨items, rfl⟩ := ih htake
      exact ⟨.option .output form file :: items, rfl⟩
  | case8 => contradiction
  | case9 => contradiction
  | case10 taken argument file rest hsettings houtput hhelp hcapture ih =>
      have hpath := namesCapture_iff.mpr (Bool.eq_false_iff.mpr hcapture)
      obtain ⟨items, hitems⟩ := ih htake
      exact ⟨.capture argument hpath :: items, congrArg (argument :: ·) hitems⟩

theorem parse_items (items : List Item) :
    parse (items.flatMap Item.words) =
      if paths items = [] then .error .noCaptures else .ok (ofItems items) := by
  rw [parse, take_items, foldl_add]
  rfl

theorem parse_eq_ok_iff {arguments : List String} {parsed : Arguments} :
    parse arguments = .ok parsed ↔
      ∃ items : List Item, arguments = items.flatMap Item.words ∧ paths items ≠ [] ∧
        parsed = ofItems items := by
  constructor
  · intro hparse
    cases htake : take {} arguments with
    | error failure =>
        rw [parse, htake] at hparse
        contradiction
    | ok taken =>
        obtain ⟨items, rfl⟩ := exists_items htake
        rw [parse_items] at hparse
        split at hparse
        next => contradiction
        next hpaths => exact ⟨items, rfl, hpaths, (Except.ok.inj hparse).symm⟩
  · rintro ⟨items, rfl, hpaths, rfl⟩
    rw [parse_items, if_neg hpaths]

/-! ## One reading -/

theorem words_append_inj
    {item other : Item} {rest rest' : List String}
    (hwords : item.words ++ rest = other.words ++ rest') : item = other ∧ rest = rest' := by
  cases item with
  | option kind form file =>
      cases other with
      | option kind' form' file' =>
          obtain ⟨hoption, hfile⟩ := List.cons.inj hwords
          obtain ⟨rfl, rfl⟩ := optionWord_inj.mp hoption
          obtain ⟨rfl, hrest⟩ := List.cons.inj hfile
          exact ⟨rfl, hrest⟩
      | capture path hpath =>
          obtain ⟨rfl, -⟩ := List.cons.inj hwords
          exact (not_namesCapture_optionWord kind form hpath).elim
  | capture path hpath =>
      cases other with
      | option kind form file =>
          obtain ⟨rfl, -⟩ := List.cons.inj hwords
          exact (not_namesCapture_optionWord kind form hpath).elim
      | capture path' hpath' =>
          obtain ⟨rfl, hrest⟩ := List.cons.inj hwords
          exact ⟨rfl, hrest⟩

theorem words_ne_nil (item : Item) : item.words ≠ [] := by
  cases item with
  | option kind form file => exact List.cons_ne_nil _ _
  | capture path hpath => exact List.cons_ne_nil _ _

theorem items_unique
    {items others : List Item}
    (hwords : items.flatMap Item.words = others.flatMap Item.words) : items = others := by
  induction items generalizing others with
  | nil =>
      cases others with
      | nil => rfl
      | cons other others =>
          have hnil := (List.append_eq_nil_iff.mp hwords.symm).1
          exact (words_ne_nil other hnil).elim
  | cons item items ih =>
      cases others with
      | nil => exact (words_ne_nil item (List.append_eq_nil_iff.mp hwords).1).elim
      | cons other others =>
          obtain ⟨rfl, hrest⟩ := words_append_inj hwords
          rw [ih hrest]

/-- A command line is accepted exactly if it is a row of items with a capture in it.  There is only
one such row, and what is taken from it are the last file of each kind and the captures in order.
So options may be moved past captures and past options of the other kind. -/
theorem parse_follows_grammar :
    (∀ (arguments : List String) (parsed : Arguments),
      parse arguments = .ok parsed ↔
        ∃ items : List Item, arguments = items.flatMap Item.words ∧ paths items ≠ [] ∧
          parsed = ⟨(files .settings items).getLast?, (files .output items).getLast?,
            paths items⟩) ∧
    (∀ items others : List Item,
      items.flatMap Item.words = others.flatMap Item.words → items = others) ∧
    ∀ items others : List Item,
      (∀ kind, files kind items = files kind others) → paths items = paths others →
        parse (items.flatMap Item.words) = parse (others.flatMap Item.words) := by
  refine ⟨fun arguments parsed => parse_eq_ok_iff, fun items others => items_unique, ?_⟩
  intro items others hfiles hpaths
  have hitems : ofItems items = ofItems others := by
    rw [ofItems, ofItems, hfiles .settings, hfiles .output, hpaths]
  rw [parse_items, parse_items, hpaths, hitems]

/-- A file may be called like an option, the last option of a kind counts, and a lone dash and an
empty word are captures. -/
theorem parse_follows_grammar_like_options :
    let items : List Item :=
      [.option .settings .short "--output", .capture "-" (by decide),
        .option .output .long "-c", .capture "" (by decide), .option .settings .long "b"]
    let others : List Item :=
      [.capture "-" (by decide), .capture "" (by decide), .option .output .short "-c",
        .option .settings .short "--output", .option .settings .short "b"]
    parse ["-c", "--output", "-", "--output", "-c", "", "--config", "b"] =
        .ok ⟨some "b", some "-c", ["-", ""]⟩ ∧
      parse (others.flatMap Item.words) = parse (items.flatMap Item.words) := by
  intro items others
  obtain ⟨haccepted, -, hmoved⟩ := parse_follows_grammar
  refine ⟨(haccepted _ _).mpr ⟨items, rfl, by decide, rfl⟩, hmoved others items ?_ rfl⟩
  intro kind
  cases kind with
  | settings => rfl
  | output => rfl

end PanelLink.Arguments
