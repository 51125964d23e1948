import PanelLink.Proofs.Toml.Lines
import PanelLink.Toml.Reader

/-!
# Sections

An assignment to a new key puts it at the end of the table that it goes into: the document itself,
or the table whose header came last.  So a reader finds what stands above the headers and below each
of them, and this is all that is asked of one.
-/

namespace PanelLink.Toml

variable {entries found more : List (String × Node)} {key name : String} {item : Node}

theorem lookup_of_new (hnew : key ∉ entries.map Prod.fst) : entries.lookup key = none := by
  rw [List.lookup_eq_none_iff]
  intro entry hentry
  have hne : key ≠ entry.1 := by
    rintro rfl
    exact hnew (List.mem_map_of_mem hentry)
  simpa using hne

theorem not_mem_keys_of_nodup
    {entry : String × Node} (hnodup : ((entries ++ entry :: more).map Prod.fst).Nodup) :
    entry.1 ∉ entries.map Prod.fst := by
  rw [List.map_append] at hnodup
  intro hentry
  exact List.disjoint_of_nodup_append hnodup hentry (by simp)

namespace Table

theorem set_of_new {kind : TableKind} (hnew : key ∉ entries.map Prod.fst) :
    (Table.mk kind entries).set key item = ⟨kind, entries ++ [(key, item)]⟩ := by
  simp [set, find?, lookup_of_new hnew]

theorem set_last {kind : TableKind} (hnew : key ∉ entries.map Prod.fst) (other : Node) :
    (Table.mk kind (entries ++ [(key, item)])).set key other =
      ⟨kind, entries ++ [(key, other)]⟩ := by
  have hkept : (entries.map fun entry => if entry.1 = key then (key, other) else entry) =
      entries := by
    calc
      _ = entries.map id := by
        apply List.map_congr_left
        intro entry hentry
        have hne : entry.1 ≠ key := by
          rintro rfl
          exact hnew (List.mem_map_of_mem hentry)
        rw [if_neg hne, id]
      _ = entries := List.map_id entries
  simp [set, find?, List.lookup_append, lookup_of_new hnew, hkept]

theorem assign_of_new (hnew : key ∉ entries.map Prod.fst) :
    (Table.mk .header entries).assign ⟨[], key⟩ item =
      some ⟨.header, entries ++ [(key, item)]⟩ := by
  simp [assign, update, add, find?, lookup_of_new hnew, set_of_new hnew]

end Table

/-! ## Drafts -/

namespace Draft

/-- The document is at its last table, which has a header. -/
def opened (entries : List (String × Node)) (name : String) (found : List (String × Node)) : Draft :=
  ⟨⟨.header, entries ++ [(name, .table .header found)]⟩, [name]⟩

theorem step_assigned (hnew : key ∉ entries.map Prod.fst) :
    step ⟨⟨.header, entries⟩, []⟩ (assigned (key, item)) =
      some ⟨⟨.header, entries ++ [(key, item)]⟩, []⟩ := by
  simp [step, assigned, Table.update, Table.assign_of_new hnew]

theorem step_header (hname : name ∉ entries.map Prod.fst) (current : List String) :
    step ⟨⟨.header, entries⟩, current⟩ (.header ⟨[], name⟩) = some (opened entries name []) := by
  simp [step, path, opened, Table.openTable, Table.update, Table.find?, lookup_of_new hname,
    Table.set_of_new hname]

theorem step_opened (hname : name ∉ entries.map Prod.fst) (hnew : key ∉ found.map Prod.fst) :
    (opened entries name found).step (assigned (key, item)) =
      some (opened entries name (found ++ [(key, item)])) := by
  simp [step, opened, assigned, Table.update, Table.find?, List.lookup_append,
    lookup_of_new hname, Table.passable, Table.assign_of_new hnew, Table.node,
    Table.set_last hname]

theorem foldlM_step_opened
    (hname : name ∉ entries.map Prod.fst) (hnodup : ((found ++ more).map Prod.fst).Nodup) :
    (more.map assigned).foldlM step (opened entries name found) =
      some (opened entries name (found ++ more)) := by
  induction more generalizing found with
  | nil => simp
  | cons entry more ih =>
      have hnew := not_mem_keys_of_nodup hnodup
      have hnodup' : ((found ++ [entry] ++ more).map Prod.fst).Nodup := by
        simpa using hnodup
      rw [List.map_cons, List.foldlM_cons, step_opened hname hnew]
      simpa using ih hnodup'

theorem foldlM_step_above (hnodup : ((entries ++ more).map Prod.fst).Nodup) :
    (more.map assigned).foldlM step ⟨⟨.header, entries⟩, []⟩ =
      some ⟨⟨.header, entries ++ more⟩, []⟩ := by
  induction more generalizing entries with
  | nil => simp
  | cons entry more ih =>
      have hnew := not_mem_keys_of_nodup hnodup
      have hnodup' : ((entries ++ [entry] ++ more).map Prod.fst).Nodup := by
        simpa using hnodup
      rw [List.map_cons, List.foldlM_cons, step_assigned hnew]
      simpa using ih hnodup'

end Draft

/-! ## Documents in sections -/

/-- A header, and what is assigned below it. -/
structure Section where
  name : String
  entries : List (String × Node)

namespace Section

def statements (found : Section) : List Statement :=
  .header ⟨[], found.name⟩ :: found.entries.map assigned

/-- The entry that the section adds to the document. -/
def entry (found : Section) : String × Node :=
  (found.name, .table .header found.entries)

end Section

theorem foldlM_step_sections
    {sections : List Section} (hnodup : ((entries ++ sections.map Section.entry).map Prod.fst).Nodup)
    (hsections : ∀ found ∈ sections, (found.entries.map Prod.fst).Nodup) (current : List String) :
    ∃ path, (sections.flatMap Section.statements).foldlM Draft.step ⟨⟨.header, entries⟩, current⟩ =
      some ⟨⟨.header, entries ++ sections.map Section.entry⟩, path⟩ := by
  induction sections generalizing entries current with
  | nil => exact ⟨current, by simp⟩
  | cons first sections ih =>
      have hname : first.name ∉ entries.map Prod.fst := not_mem_keys_of_nodup hnodup
      have hfirst : (([] ++ first.entries).map Prod.fst).Nodup := hsections first (by simp)
      have hnodup' : ((entries ++ [first.entry] ++ sections.map Section.entry).map
          Prod.fst).Nodup := by
        simpa using hnodup
      rcases ih hnodup' (fun found hfound => hsections found (by simp [hfound])) [first.name] with
        ⟨path, hpath⟩
      refine ⟨path, ?_⟩
      rw [List.flatMap_cons, Section.statements, List.cons_append, List.foldlM_cons,
        Draft.step_header hname]
      simp only [Option.bind_eq_bind, Option.bind_some, List.foldlM_append,
        Draft.foldlM_step_opened hname hfirst, List.nil_append]
      rw [Draft.opened, ← Section.entry, hpath]
      simp

/-! ## Lawful readers -/

/-- What the users of a library for documents rely on.  A document of assignments and sections is
the table of what stands in it, a structure is read from the entries of its table, and texts,
choices and numbers are read as they stand, numbers if they are in the range. -/
structure Reader.Lawful (reader : Reader) : Prop where
  parse?_lines : ∀ (above : List (String × Node)) (sections : List Section) (text : String),
    Lines (above.map assigned ++ sections.flatMap Section.statements) text.toList →
    ((above ++ sections.map Section.entry).map Prod.fst).Nodup →
    (∀ found ∈ sections, (found.entries.map Prod.fst).Nodup) →
      reader.parse? text = some (.table .header (above ++ sections.map Section.entry))
  fields?_table : ∀ keys kind entries, reader.fields? keys (.table kind entries) = some entries
  string?_string : ∀ text, reader.string? (.scalar (.string text)) = some text
  choice?_string : ∀ name, reader.choice? (.scalar (.string name)) = some name
  natBelow?_integer : ∀ bound numeral (value : Int), numeral.value? = some value →
    reader.natBelow? bound (.scalar (.integer numeral)) =
      if 0 ≤ value ∧ value < bound then some value.toNat else none

theorem lawful_reader : reader.Lawful := by
  constructor
  case parse?_lines =>
    intro above sections text hlines hnodup hsections
    have habove : (([] ++ above).map Prod.fst).Nodup := by
      rw [List.map_append] at hnodup
      exact (List.nodup_append.mp hnodup).1
    rcases foldlM_step_sections hnodup hsections [] with ⟨path, hfold⟩
    have hdraft : (above.map assigned ++ sections.flatMap Section.statements).foldlM Draft.step {} =
        some ⟨⟨.header, above ++ sections.map Section.entry⟩, path⟩ := by
      rw [List.foldlM_append, Draft.foldlM_step_above habove]
      exact hfold
    change (parse? text).map Table.node = _
    rw [parse?, hlines.statements?_eq]
    simp [hdraft, Table.node]
  case fields?_table | string?_string | choice?_string =>
    intros
    rfl
  case natBelow?_integer =>
    intro bound numeral value hvalue
    simp [reader, Node.natBelow?, hvalue]

end PanelLink.Toml
