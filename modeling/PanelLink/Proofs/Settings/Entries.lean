import PanelLink.Proofs.Settings.Valid
import PanelLink.Proofs.Toml.Sections

/-!
# Entries of a document

An entry gives one of the link settings.  It is taken if its value fits the key, and then nothing
but that setting changes, so entries with different keys may stand in any order.
-/

namespace PanelLink

open Toml (Decimal Literal Node PlainText)

/-! ## Keys and values -/

/-- The keys below the header of the link that have a number. -/
inductive NumberKey where
  | width
  | height
  | background
  | frameLimit
deriving DecidableEq, Repr

namespace NumberKey

def name : NumberKey → String
  | .width => "width"
  | .height => "height"
  | .background => "background"
  | .frameLimit => "max_frame_len"

theorem bareKey (key : NumberKey) : Toml.BareKey key.name.toList := by
  cases key <;> exact ⟨by decide, by decide⟩

def greatest : NumberKey → Int
  | .background => 4294967295
  | _ => 65535

def standard : NumberKey → Int
  | .width => 320
  | .height => 240
  | .background => 0
  | .frameLimit => 2990

def read (key : NumberKey) (settings : LinkSettings) : Int :=
  match key with
  | .width => settings.width.toNat
  | .height => settings.height.toNat
  | .background => settings.background.toNat
  | .frameLimit => settings.frameLimit.toNat

def write (key : NumberKey) (value : Int) (settings : LinkSettings) : LinkSettings :=
  match key with
  | .width => { settings with width := UInt16.ofNat value.toNat }
  | .height => { settings with height := UInt16.ofNat value.toNat }
  | .background => { settings with background := UInt32.ofNat value.toNat }
  | .frameLimit => { settings with frameLimit := UInt16.ofNat value.toNat }

end NumberKey

inductive LinkEntry where
  | number (key : NumberKey) (decimal : Decimal)
  | flush (name : PlainText)

namespace LinkEntry

def key : LinkEntry → String
  | .number key _ => key.name
  | .flush _ => "flush"

def literal : LinkEntry → Literal
  | .number _ decimal => .integer decimal
  | .flush name => .string name

def Fits : LinkEntry → Prop
  | .number key decimal => 0 ≤ decimal.value ∧ decimal.value ≤ key.greatest
  | .flush name => name.text = "every_frame" ∨ name.text = "manual"

instance : DecidablePred Fits
  | .number key decimal =>
    inferInstanceAs (Decidable (0 ≤ decimal.value ∧ decimal.value ≤ key.greatest))
  | .flush name =>
    inferInstanceAs (Decidable (name.text = "every_frame" ∨ name.text = "manual"))

theorem bareKey (entry : LinkEntry) : Toml.BareKey entry.key.toList := by
  cases entry with
  | number key decimal => exact key.bareKey
  | flush name =>
      have hflush : Toml.BareKey "flush".toList := ⟨by decide, by decide⟩
      exact hflush

def number? (key : NumberKey) : LinkEntry → Option Int
  | .number key' decimal => if key' = key then some decimal.value else none
  | .flush _ => none

def flush? : LinkEntry → Option String
  | .number _ _ => none
  | .flush name => some name.text

/-- The node that the entry adds to the table of the link. -/
def node (entry : LinkEntry) : String × Node :=
  (entry.key, entry.literal.node)

end LinkEntry

/-- The name of a policy in a document. -/
def FlushPolicy.keyword : FlushPolicy → String
  | .everyFrame => "every_frame"
  | .manual => "manual"

/-! ## One entry -/

namespace NumberKey

variable {reader : Toml.Reader} {key other : NumberKey} {value : Int} {settings : LinkSettings}

theorem read_write_self (hmin : 0 ≤ value) (hmax : value ≤ key.greatest) :
    key.read (key.write value settings) = value := by
  cases key <;> simp only [read, write, greatest, UInt16.toNat_ofNat', UInt32.toNat_ofNat'] at * <;>
    omega

theorem read_write_of_ne (hne : other ≠ key) :
    other.read (key.write value settings) = other.read settings := by
  cases key <;> cases other <;> first | rfl | contradiction

theorem read_standard : key.read {} = key.standard := by
  cases key <;> rfl

theorem set?_name (node : Node) :
    settings.set? reader key.name node =
      (reader.natBelow? (key.greatest.toNat + 1) node).map
        fun n : Nat => key.write n settings := by
  cases hn : reader.natBelow? (key.greatest.toNat + 1) node with
  | none | some n =>
      cases key <;>
        simp_all [name, LinkSettings.set?, Toml.Reader.uint16?, Toml.Reader.uint32?, greatest,
          write]

end NumberKey

theorem FlushPolicy.ofName?_of_not_keyword
    {name : String} (hframe : name ≠ "every_frame") (hmanual : name ≠ "manual") :
    ofName? name = none := by
  unfold ofName?
  split <;> simp_all

namespace LinkEntry

variable {reader : Toml.Reader} {entries : List LinkEntry}

def write (entry : LinkEntry) (settings : LinkSettings) : LinkSettings :=
  match entry with
  | .number key decimal => key.write decimal.value settings
  | .flush name => { settings with policy := (FlushPolicy.ofName? name.text).getD settings.policy }

theorem set?_node
    (hlawful : reader.Lawful) (entry : LinkEntry) (settings : LinkSettings) :
    settings.set? reader entry.node.1 entry.node.2 =
      if entry.Fits then some (entry.write settings) else none := by
  cases entry with
  | number key decimal =>
      have hbound : decimal.value < (key.greatest.toNat + 1 : Nat) ↔
          decimal.value ≤ key.greatest := by
        cases key <;> simp only [NumberKey.greatest] <;> omega
      rw [node, LinkEntry.key, literal, NumberKey.set?_name, Literal.node,
        hlawful.natBelow?_integer _ _ _ decimal.value?_numeral]
      simp only [hbound]
      by_cases hfits : 0 ≤ decimal.value ∧ decimal.value ≤ key.greatest
      · have hvalue : (decimal.value.toNat : Int) = decimal.value := by omega
        simp [hfits, Fits, write, hvalue]
      · simp [hfits, Fits]
  | flush name =>
      by_cases hfits : name.text = "every_frame" ∨ name.text = "manual"
      · rcases hfits with hname | hname <;>
          simp [node, LinkEntry.key, literal, Literal.node, LinkSettings.set?,
            hlawful.choice?_string, FlushPolicy.ofName?, Fits, write, hname]
      · rw [not_or] at hfits
        have hnone := FlushPolicy.ofName?_of_not_keyword hfits.1 hfits.2
        simp [node, LinkEntry.key, literal, Literal.node, LinkSettings.set?,
          hlawful.choice?_string, Fits, hnone, hfits]

/-- The settings after all entries, one after the other. -/
def writeAll (entries : List LinkEntry) (settings : LinkSettings) : LinkSettings :=
  entries.foldl (fun settings entry => entry.write settings) settings

theorem foldlM_set?_node
    (hlawful : reader.Lawful) (entries : List LinkEntry) (settings : LinkSettings) :
    (entries.map node).foldlM (fun settings (key, value) => settings.set? reader key value)
        settings =
      if ∀ entry ∈ entries, entry.Fits then some (writeAll entries settings) else none := by
  induction entries generalizing settings with
  | nil => simp [writeAll]
  | cons entry entries ih =>
      rw [List.map_cons, List.foldlM_cons]
      have hentry := entry.set?_node hlawful settings
      by_cases hfits : entry.Fits <;> simp_all [writeAll]

theorem ofNode?_node
    (hlawful : reader.Lawful) (kind : Toml.TableKind) (entries : List LinkEntry) :
    LinkSettings.ofNode? reader (.table kind (entries.map node)) =
      if ∀ entry ∈ entries, entry.Fits then some (writeAll entries {}) else none := by
  rw [LinkSettings.ofNode?, hlawful.fields?_table]
  exact foldlM_set?_node hlawful entries {}

/-! ## All entries -/

/-- What is read back is what the one entry with the key has written, if there is one. -/
theorem read_writeAll
    {α : Type} {read : LinkSettings → α} {pick : LinkEntry → Option α} {key : String}
    (hread : ∀ entry settings, entry.Fits →
      read (entry.write settings) = (pick entry).getD (read settings))
    (hpick : ∀ entry value, pick entry = some value → entry.key = key)
    (hfits : ∀ entry ∈ entries, entry.Fits) (hnodup : (entries.map LinkEntry.key).Nodup)
    (settings : LinkSettings) :
    read (writeAll entries settings) = (entries.findSome? pick).getD (read settings) := by
  induction entries generalizing settings with
  | nil => rfl
  | cons entry entries ih =>
      rw [List.map_cons, List.nodup_cons] at hnodup
      have hrest := ih (fun other hother => hfits other (by simp [hother])) hnodup.2
        (entry.write settings)
      have hentry := hread entry settings (hfits entry (by simp))
      rw [writeAll, List.foldl_cons, ← writeAll, hrest, hentry, List.findSome?_cons]
      cases hvalue : pick entry with
      | none => rfl
      | some value =>
          -- No later entry has the key, so none writes over the value.
          have hnone : entries.findSome? pick = none := by
            rw [List.findSome?_eq_none_iff]
            intro other hother
            rw [Option.eq_none_iff_forall_ne_some]
            intro value' hvalue'
            apply hnodup.1
            rw [hpick entry value hvalue, ← hpick other value' hvalue']
            exact List.mem_map_of_mem hother
          rw [hnone]
          rfl

theorem key_of_number?
    {key : NumberKey} {entry : LinkEntry} {value : Int} (hvalue : entry.number? key = some value) :
    entry.key = key.name := by
  cases entry with
  | number key' decimal =>
      rw [number?] at hvalue
      split at hvalue
      next hkey => rw [LinkEntry.key, hkey]
      next => contradiction
  | flush name => contradiction

theorem key_of_flush? {entry : LinkEntry} {name : String} (hname : entry.flush? = some name) :
    entry.key = "flush" := by
  cases entry with
  | number key decimal => contradiction
  | flush name => rfl

theorem read_write (key : NumberKey) (entry : LinkEntry) (settings : LinkSettings)
    (hfits : entry.Fits) :
    key.read (entry.write settings) = (entry.number? key).getD (key.read settings) := by
  cases entry with
  | number key' decimal =>
      by_cases hkey : key' = key
      · subst hkey
        simp [write, number?, NumberKey.read_write_self hfits.1 hfits.2]
      · simp [write, number?, hkey, NumberKey.read_write_of_ne (Ne.symm hkey)]
  | flush name => cases key <;> rfl

theorem keyword_write (entry : LinkEntry) (settings : LinkSettings) (hfits : entry.Fits) :
    (entry.write settings).policy.keyword = entry.flush?.getD settings.policy.keyword := by
  cases entry with
  | number key decimal => cases key <;> rfl
  | flush name =>
      rcases hfits with hname | hname <;>
        simp [write, flush?, hname, FlushPolicy.ofName?, FlushPolicy.keyword]

theorem write_comm {entry other : LinkEntry} (hne : entry.key ≠ other.key) (settings : LinkSettings) :
    other.write (entry.write settings) = entry.write (other.write settings) := by
  cases entry with
  | number key decimal =>
      cases other with
      | number key' decimal' =>
          cases key <;> cases key' <;> first | rfl | exact absurd rfl hne
      | flush name => cases key <;> rfl
  | flush name =>
      cases other with
      | number key' decimal' => cases key' <;> rfl
      | flush name' => exact absurd rfl hne

theorem writeAll_perm
    {others : List LinkEntry} (hperm : entries.Perm others)
    (hnodup : (entries.map LinkEntry.key).Nodup) (settings : LinkSettings) :
    writeAll entries settings = writeAll others settings := by
  apply hperm.foldl_eq'
  intro entry hentry other hother settings
  by_cases hsame : entry = other
  · rw [hsame]
  · apply write_comm
    intro hkey
    exact hsame (List.inj_on_of_nodup_map hnodup hentry hother hkey)

end LinkEntry

end PanelLink
