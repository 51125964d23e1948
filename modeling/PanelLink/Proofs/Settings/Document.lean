import PanelLink.Proofs.Settings.Entries

/-!
# Settings in a document

A document gives some of the settings, in any order, and the others keep their defaults.  A value
that does not fit its key spoils the document; whether the settings are valid is asked after that.
-/

namespace PanelLink

open Toml (Literal Node PlainText)

/-! ## Documents -/

structure SettingsDocument where
  output : Option PlainText
  /-- What stands below the header of the link, if there is one. -/
  link : Option (List LinkEntry)
  nodup : ∀ entries ∈ link, (entries.map LinkEntry.key).Nodup

namespace SettingsDocument

def entries (document : SettingsDocument) : List LinkEntry :=
  document.link.getD []

/-- What stands above the header of the link. -/
def above (document : SettingsDocument) : List (String × Node) :=
  document.output.toList.map fun name => ("output", (Literal.string name).node)

def sections (document : SettingsDocument) : List Toml.Section :=
  document.link.toList.map fun entries => ⟨"link", entries.map LinkEntry.node⟩

def statements (document : SettingsDocument) : List Toml.Statement :=
  document.above.map Toml.assigned ++ document.sections.flatMap Toml.Section.statements

/-- The text is the document, one statement on a line. -/
def Spelling (document : SettingsDocument) (text : String) : Prop :=
  Toml.Lines document.statements text.toList

/-- The document as one would write it down. -/
def print (document : SettingsDocument) : String :=
  String.ofList <|
    (document.output.toList.flatMap fun name => Toml.assignmentLine "output" (.string name)) ++
      match document.link with
      | none => []
      | some entries =>
        "[link]\n".toList ++
          entries.flatMap fun entry => Toml.assignmentLine entry.key entry.literal

/-- What the document gives for a key, or the default. -/
def number (document : SettingsDocument) (key : NumberKey) : Int :=
  (document.entries.findSome? (LinkEntry.number? key)).getD key.standard

def flush (document : SettingsDocument) : String :=
  (document.entries.findSome? LinkEntry.flush?).getD "every_frame"

def outputName (document : SettingsDocument) : String :=
  (document.output.map PlainText.text).getD "pixlink.png"

def Fits (document : SettingsDocument) : Prop :=
  ∀ entry ∈ document.entries, entry.Fits

instance (document : SettingsDocument) : Decidable document.Fits :=
  inferInstanceAs (Decidable (∀ entry ∈ document.entries, entry.Fits))

/-- The settings are what the document gives, and otherwise the defaults. -/
structure Describes (document : SettingsDocument) (settings : ReplaySettings) : Prop where
  output_eq : settings.output = document.outputName
  number_eq : ∀ key : NumberKey, key.read settings.link = document.number key
  flush_eq : settings.link.policy.keyword = document.flush

end SettingsDocument

/-! ## Whole documents -/

namespace SettingsDocument

variable {reader : Toml.Reader} {document : SettingsDocument} {text : String}

theorem nodup_entries (document : SettingsDocument) :
    (document.entries.map LinkEntry.key).Nodup := by
  rw [entries]
  cases hlink : document.link with
  | none => exact List.nodup_nil
  | some entries => exact document.nodup entries hlink

theorem lines_entries (entries : List LinkEntry) :
    Toml.Lines ((entries.map LinkEntry.node).map Toml.assigned)
      (entries.flatMap fun entry => Toml.assignmentLine entry.key entry.literal) := by
  induction entries with
  | nil => exact .done .nil
  | cons entry entries ih => exact ih.assignmentLine_append entry.bareKey entry.literal

/-- Every document can be written down. -/
theorem spelling_print (document : SettingsDocument) : document.Spelling document.print := by
  have hlink : Toml.Lines (document.sections.flatMap Toml.Section.statements)
      (match document.link with
        | none => []
        | some entries =>
          "[link]\n".toList ++
            entries.flatMap fun entry => Toml.assignmentLine entry.key entry.literal) := by
    rw [sections]
    cases document.link with
    | none => exact .done .nil
    | some entries =>
        have hblanks : Toml.Blanks [] := by
          simp [Toml.Blanks]
        have hkey : Toml.BareKey "link".toList := ⟨by decide, by decide⟩
        have hlines := Toml.Lines.next .nil (.header hblanks hkey hblanks) hblanks .newline
          (lines_entries entries)
        simpa [Toml.Section.statements] using hlines
  rw [Spelling, print, String.toList_ofList, statements, above]
  cases document.output with
  | none => exact hlink
  | some name =>
      have hkey : Toml.BareKey "output".toList := ⟨by decide, by decide⟩
      simpa using hlink.assignmentLine_append hkey (.string name)

def linkSettings (document : SettingsDocument) : LinkSettings :=
  LinkEntry.writeAll document.entries {}

/-- What the statements of the document add to its table. -/
def table (document : SettingsDocument) : List (String × Node) :=
  document.above ++ document.sections.map Toml.Section.entry

theorem nodup_table (document : SettingsDocument) : (document.table.map Prod.fst).Nodup := by
  rw [table, above, sections]
  cases document.output with
  | none | some name => cases document.link <;> simp [Toml.Section.entry]

theorem nodup_sections (document : SettingsDocument) :
    ∀ found ∈ document.sections, (found.entries.map Prod.fst).Nodup := by
  intro found hfound
  rw [sections] at hfound
  cases hlink : document.link with
  | none => simp [hlink] at hfound
  | some entries =>
      have hnodup := document.nodup entries hlink
      simp only [hlink, Option.toList_some, List.map_singleton, List.mem_singleton] at hfound
      subst hfound
      simpa [LinkEntry.node, Function.comp_def] using hnodup

theorem parse?_of_spelling (hlawful : reader.Lawful) (hspelling : document.Spelling text) :
    reader.parse? text = some (.table .header document.table) :=
  hlawful.parse?_lines _ _ _ hspelling document.nodup_table document.nodup_sections

theorem ofNode?_table (hlawful : reader.Lawful) (document : SettingsDocument) :
    ReplaySettings.ofNode? reader (.table .header document.table) =
      if document.Fits then some ⟨document.outputName, document.linkSettings⟩ else none := by
  have houtput : ReplaySettings.ofNode? reader (.table .header document.above) =
      some { output := document.outputName } := by
    rw [ReplaySettings.ofNode?, hlawful.fields?_table, above, outputName]
    cases document.output with
    | none => rfl
    | some name => simp [ReplaySettings.set?, Literal.node, hlawful.string?_string]
  rw [ReplaySettings.ofNode?, hlawful.fields?_table] at houtput ⊢
  simp only [Option.bind_eq_bind, Option.bind_some] at houtput ⊢
  rw [table, List.foldlM_append, houtput, sections]
  cases hlink : document.link with
  | none => simp [Fits, linkSettings, entries, hlink, LinkEntry.writeAll]
  | some entries =>
      have hfits : document.Fits ↔ ∀ entry ∈ entries, entry.Fits := by
        rw [Fits, SettingsDocument.entries, hlink, Option.getD_some]
      have hsettings : document.linkSettings = LinkEntry.writeAll entries {} := by
        rw [linkSettings, SettingsDocument.entries, hlink, Option.getD_some]
      have hnode := LinkEntry.ofNode?_node hlawful .header entries
      by_cases hall : ∀ entry ∈ entries, entry.Fits
      · rw [if_pos hall] at hnode
        rw [if_pos (hfits.mpr hall), hsettings]
        simp [Toml.Section.entry, ReplaySettings.set?, hnode]
      · rw [if_neg hall] at hnode
        rw [if_neg (hfits.not.mpr hall)]
        simp [Toml.Section.entry, ReplaySettings.set?, hnode]

theorem parse_of_spelling (hlawful : reader.Lawful) (hspelling : document.Spelling text) :
    ReplaySettings.parse text reader =
      if document.Fits then
        match document.linkSettings.defect? with
        | some failure => .error (.invalid failure)
        | none => .ok ⟨document.outputName, document.linkSettings⟩
      else
        .error .malformed := by
  rw [ReplaySettings.parse, parse?_of_spelling hlawful hspelling, Option.bind_some,
    ofNode?_table hlawful]
  cases hdefect : document.linkSettings.defect? with
  | none | some failure => by_cases hfits : document.Fits <;> simp [hfits, hdefect]

theorem describes_linkSettings (hfits : document.Fits) :
    document.Describes ⟨document.outputName, document.linkSettings⟩ := by
  constructor
  case output_eq => rfl
  case number_eq =>
    intro key
    have hread := LinkEntry.read_writeAll (LinkEntry.read_write key)
      (fun _ _ => LinkEntry.key_of_number?) hfits
      document.nodup_entries {}
    rwa [NumberKey.read_standard] at hread
  case flush_eq =>
    exact @LinkEntry.read_writeAll _ _ (fun settings => settings.policy.keyword) _ _
      LinkEntry.keyword_write (fun _ _ => LinkEntry.key_of_flush?) hfits document.nodup_entries {}

theorem defect?_linkSettings (hfits : document.Fits) :
    document.linkSettings.defect? =
      if document.number .width = 0 ∨ document.number .height = 0 then some .zeroDimension
      else if document.number .frameLimit < 7 ∨ 2990 < document.number .frameLimit then
        some .frameLimitOutOfRange
      else none := by
  have hnumber := (document.describes_linkSettings hfits).number_eq
  have hwidth := hnumber .width
  have hheight := hnumber .height
  have hlimit := hnumber .frameLimit
  simp only [NumberKey.read] at hwidth hheight hlimit
  have hzero : document.linkSettings.width = 0 ∨ document.linkSettings.height = 0 ↔
      document.number .width = 0 ∨ document.number .height = 0 := by
    rw [← UInt16.toNat_inj, ← UInt16.toNat_inj, UInt16.toNat_zero]
    omega
  have hrange : document.linkSettings.frameLimit.toNat < Frame.minLength ∨
      Frame.maxLength < document.linkSettings.frameLimit.toNat ↔
        document.number .frameLimit < 7 ∨ 2990 < document.number .frameLimit := by
    simp only [Frame.minLength, Frame.headerLength, Frame.maxLength]
    omega
  simp only [LinkSettings.defect?, hzero, hrange]

end SettingsDocument

namespace ReplaySettings

variable {reader : Toml.Reader} {text : String}

/-- Reading the text as settings fails with this message. -/
def FailsWith (reader : Toml.Reader) (text message : String) : Prop :=
  ∃ failure, parse text reader = .error failure ∧ failure.message = message

theorem failsWith_of_error
    {failure : ReplaySettingsError} (hparse : parse text reader = .error failure)
    (message : String) : FailsWith reader text message ↔ message = failure.message := by
  simp [FailsWith, hparse, eq_comm]

theorem not_failsWith_of_ok
    {settings : ReplaySettings} (hparse : parse text reader = .ok settings)
    (message : String) : ¬ FailsWith reader text message := by
  simp [FailsWith, hparse]

end ReplaySettings

open ReplaySettings (FailsWith)

theorem SettingsDocument.failsWith_iff
    {reader : Toml.Reader} {document : SettingsDocument} {text : String}
    (hlawful : reader.Lawful) (hspelling : document.Spelling text) (message : String) :
    FailsWith reader text message ↔
      (¬ document.Fits ∧ message = "Failed to parse TOML") ∨
      (document.Fits ∧ (document.number .width = 0 ∨ document.number .height = 0) ∧
        message = "Invalid link configuration: ZeroDimension") ∨
      document.Fits ∧ ¬ (document.number .width = 0 ∨ document.number .height = 0) ∧
        (document.number .frameLimit < 7 ∨ 2990 < document.number .frameLimit) ∧
        message = "Invalid link configuration: FrameLimitOutOfRange" := by
  have hparse := parse_of_spelling hlawful hspelling
  have hmalformed : ReplaySettingsError.malformed.message = "Failed to parse TOML" := rfl
  have hzero : (ReplaySettingsError.invalid .zeroDimension).message =
      "Invalid link configuration: ZeroDimension" := by decide
  have hrange : (ReplaySettingsError.invalid .frameLimitOutOfRange).message =
      "Invalid link configuration: FrameLimitOutOfRange" := by decide
  by_cases hfits : document.Fits
  · rw [if_pos hfits, document.defect?_linkSettings hfits] at hparse
    by_cases hsize : document.number .width = 0 ∨ document.number .height = 0
    · rw [if_pos hsize] at hparse
      rw [ReplaySettings.failsWith_of_error hparse, hzero]
      simp [hfits, hsize]
    · rw [if_neg hsize] at hparse
      by_cases hlimit : document.number .frameLimit < 7 ∨ 2990 < document.number .frameLimit
      · rw [if_pos hlimit] at hparse
        rw [ReplaySettings.failsWith_of_error hparse, hrange]
        simp [hfits, hsize, hlimit]
      · rw [if_neg hlimit] at hparse
        have hnot := ReplaySettings.not_failsWith_of_ok hparse message
        simp [hnot, hfits, hsize, hlimit]
  · rw [if_neg hfits] at hparse
    rw [ReplaySettings.failsWith_of_error hparse, hmalformed]
    simp [hfits]

/-- Through a lawful reader, a document with a value that does not fit its key is not read, then
one without pixels is refused, and then one whose frame limit is out of range.  Of any other
document every value is taken as it is, and what is not given has its default.  The order below the
header does not matter. -/
theorem settings_document_honoured
    {reader : Toml.Reader} (hlawful : reader.Lawful) (document : SettingsDocument) (text : String)
    (hspelling : document.Spelling text) :
    (FailsWith reader text "Failed to parse TOML" ↔ ∃ entry ∈ document.entries, ¬ entry.Fits) ∧
    (FailsWith reader text "Invalid link configuration: ZeroDimension" ↔
      document.Fits ∧ (document.number .width = 0 ∨ document.number .height = 0)) ∧
    (FailsWith reader text "Invalid link configuration: FrameLimitOutOfRange" ↔
      document.Fits ∧ document.number .width ≠ 0 ∧ document.number .height ≠ 0 ∧
        (document.number .frameLimit < 7 ∨ 2990 < document.number .frameLimit)) ∧
    (document.Fits → document.number .width ≠ 0 → document.number .height ≠ 0 →
      7 ≤ document.number .frameLimit → document.number .frameLimit ≤ 2990 →
        ∃ settings, ReplaySettings.parse text reader = .ok settings ∧
          document.Describes settings) ∧
    ∀ (other : SettingsDocument) (text' : String), other.Spelling text' →
      other.output = document.output → other.entries.Perm document.entries →
        ReplaySettings.parse text' reader = ReplaySettings.parse text reader := by
  have hparse := SettingsDocument.parse_of_spelling hlawful hspelling
  have hfails := SettingsDocument.failsWith_iff hlawful hspelling
  constructor
  · rw [hfails]
    simp [SettingsDocument.Fits]
  constructor
  · rw [hfails]
    simp
  constructor
  · rw [hfails]
    simp [not_or, and_assoc]
  constructor
  · intro hfits hwidth hheight hmin hmax
    have hsize : ¬ (document.number .width = 0 ∨ document.number .height = 0) := by
      simp [hwidth, hheight]
    have hlimit : ¬ (document.number .frameLimit < 7 ∨ 2990 < document.number .frameLimit) := by
      omega
    rw [if_pos hfits, document.defect?_linkSettings hfits, if_neg hsize, if_neg hlimit] at hparse
    exact ⟨_, hparse, document.describes_linkSettings hfits⟩
  · intro other text' hspelling' houtput hperm
    have hparse' := SettingsDocument.parse_of_spelling hlawful hspelling'
    have hfits : other.Fits ↔ document.Fits := by
      simp only [SettingsDocument.Fits, hperm.mem_iff]
    have hlink : other.linkSettings = document.linkSettings :=
      LinkEntry.writeAll_perm hperm other.nodup_entries {}
    simp only [hparse, hparse', hfits, hlink, SettingsDocument.outputName, houtput]

/-- Not all keys are given, and not in the usual order. -/
theorem settings_document_honoured_in_part :
    ∃ settings,
      ReplaySettings.parse
        "output = \"out/frame.png\"\n[link]\nflush = \"manual\"\nwidth = 128\n" = .ok settings ∧
      settings.output = "out/frame.png" ∧ NumberKey.width.read settings.link = 128 ∧
      NumberKey.height.read settings.link = 240 ∧ settings.link.policy.keyword = "manual" := by
  let document : SettingsDocument := {
    output := some (.ofName "out/frame.png" (by decide))
    link := some [.flush (.ofName "manual" (by decide)), .number .width ⟨.bare, 128⟩]
    nodup := by decide }
  have hprint : document.print =
      "output = \"out/frame.png\"\n[link]\nflush = \"manual\"\nwidth = 128\n" := by
    decide
  rcases settings_document_honoured Toml.lawful_reader document _
    (hprint ▸ document.spelling_print) with ⟨-, -, -, hread, -⟩
  rcases hread (by decide) (by decide) (by decide) (by decide) (by decide) with
    ⟨settings, hparse, houtput, hnumber, hflush⟩
  exact ⟨settings, hparse, houtput, hnumber .width, hnumber .height, hflush⟩

end PanelLink
