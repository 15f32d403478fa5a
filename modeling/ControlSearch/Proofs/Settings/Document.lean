import ControlSearch.Proofs.Toml.Document
import ControlSearch.Settings.Loading

/-!
# Settings read back

A document of tables is read as the tables. So settings are read back from the document that
is written for them, whatever the log level, unless a count is too great for a document; then
nothing is written.
-/
namespace ControlSearch.Settings

open Toml (Value Node Place IsBareKey Denotes)

/-! ## Documents of tables -/

/-- A line of a table: a key, and the text of its value. -/
structure Field where
  key : String
  text : Text
  value : Value
  bare : IsBareKey key.toList
  denotes : Denotes text value

namespace Field

def line (f : Field) : Text := f.key.toList ++ ' ' :: '=' :: ' ' :: (f.text ++ ['\n'])

def entry (f : Field) : Text × Node := (f.key.toList, .value f.value)

end Field

/-- A table with its lines. -/
structure Table where
  name : String
  fields : List Field
  bare : IsBareKey name.toList
  distinct : (fields.map fun f => f.key.toList).Nodup

namespace Table

def written (g : Table) : Text := writeTable g.name (g.fields.map fun f => (f.key, f.text))

def entry (g : Table) : Text × Node :=
  (g.name.toList, .table .header (g.fields.map Field.entry))

/-- The table as it is read. -/
def value (g : Table) : Text × Value :=
  (g.name.toList, .table (g.fields.map fun f => (f.key.toList, f.value)))

theorem written_eq (g : Table) :
    g.written = '[' :: (g.name.toList ++ ']' :: '\n' :: g.fields.flatMap Field.line) := by
  simp only [written, writeTable, List.flatMap_map, List.cons_append, List.append_assoc]
  rfl

theorem finish_entry (g : Table) : (g.entry.1, g.entry.2.finish) = g.value := by
  simp [entry, value, Node.finish, Node.finishEntries_eq_map, Field.entry]

end Table

variable {name : Text} {entries : List (Text × Node)}

/-- Reading the lines of a table puts their keys behind those that are in it. -/
theorem leads_fields (hname : name ∉ entries.map (·.1)) (present : List (Text × Node))
    (fields : List Field)
    (hdistinct : (present.map (·.1) ++ fields.map fun f => f.key.toList).Nodup)
    (rest : Text) :
    Place.Leads
      ⟨[name], .table .header (entries ++ [(name, .table .header present)]),
        fields.flatMap Field.line ++ rest⟩
      ⟨[name],
        .table .header
          (entries ++ [(name, .table .header (present ++ fields.map Field.entry))]),
          rest⟩ := by
  induction fields generalizing present with
  | nil =>
      rw [List.map_nil, List.append_nil]
      exact .refl _
  | cons f fields ih =>
      have hkey : f.key.toList ∉ present.map (·.1) := fun hmem =>
        (List.nodup_append.mp hdistinct).2.2 _ hmem _ List.mem_cons_self rfl
      have hstep :=
        Place.leads_assignment f.bare f.denotes (Node.assign_last hname hkey f.value)
          (fields.flatMap Field.line ++ rest)
      have hrest := ih (present ++ [f.entry]) (by simpa [Field.entry] using hdistinct)
      rw [List.append_assoc, List.singleton_append, ← List.map_cons] at hrest
      simpa [Field.line] using hstep.trans hrest

/-- Reading a table puts it behind those that are there. -/
theorem leads_table (g : Table) (hname : g.name.toList ∉ entries.map (·.1))
    (header : List Text) (rest : Text) :
    Place.Leads ⟨header, .table .header entries, g.written ++ rest⟩
      ⟨[g.name.toList], .table .header (entries ++ [g.entry]), rest⟩ := by
  have hbegin := Place.leads_header g.bare (Node.beginTable_of_not_mem hname) header
    (g.fields.flatMap Field.line ++ rest)
  have hfields := leads_fields hname [] g.fields (by simpa using g.distinct) rest
  rw [g.written_eq]
  simpa [Table.entry] using hbegin.trans hfields

/-- Reading the rest of a document puts its tables behind those that are there. -/
theorem leads_tables (entries : List (Text × Node)) (header : List Text) (tables : List Table)
    (hdistinct : (entries.map (·.1) ++ tables.map fun g => g.name.toList).Nodup) :
    ∃ last, Place.Leads
      ⟨header, .table .header entries, Text.join ['\n'] (tables.map Table.written)⟩
      ⟨last, .table .header (entries ++ tables.map Table.entry), []⟩ := by
  induction tables generalizing entries header with
  | nil =>
      rw [List.map_nil, List.map_nil, List.append_nil]
      exact ⟨header, .refl _⟩
  | cons g tables ih =>
      have hname : g.name.toList ∉ entries.map (·.1) := fun hmem =>
        (List.nodup_append.mp hdistinct).2.2 _ hmem _ List.mem_cons_self rfl
      cases tables with
      | nil =>
          have hlast := leads_table g hname header []
          exact ⟨[g.name.toList], by simpa using hlast⟩
      | cons next tables =>
          have hfirst := leads_table g hname header
            ('\n' :: Text.join ['\n'] ((next :: tables).map Table.written))
          have hblank :=
            Place.leads_blank [g.name.toList] (.table .header (entries ++ [g.entry]))
              (Text.join ['\n'] ((next :: tables).map Table.written))
          obtain ⟨last, hrest⟩ := ih (entries ++ [g.entry]) [g.name.toList]
            (by simpa [Table.entry] using hdistinct)
          have hall := hfirst.trans (hblank.trans hrest)
          rw [List.append_assoc, List.singleton_append, ← List.map_cons] at hall
          exact ⟨last, by simpa using hall⟩

/-- A document of tables is read as the tables. -/
theorem read_join_written (tables : List Table)
    (hdistinct : (tables.map fun g => g.name.toList).Nodup) :
    Toml.read (Text.join ['\n'] (tables.map Table.written)) =
      some (.table (tables.map Table.value)) := by
  obtain ⟨last, hleads⟩ := leads_tables [] [] tables hdistinct
  rw [Place.read_of_leads _ hleads]
  · simp [Node.finish, Node.finishEntries_eq_map, Table.finish_entry]
  · -- A document begins with the bracket of a header, or is empty.
    cases tables with
    | nil => nofun
    | cons g tables => cases tables <;> simp [g.written_eq]

/-! ## Fields by name -/

/-- The value of one of several distinct names is found by the name. -/
theorem find?_eq_of_nodup {α : Type} {name : α → String} {items : List α}
    (h : (items.map fun a => (name a).toList).Nodup) {a : α} (ha : a ∈ items) :
    items.find? (fun b => (name b).toList == (name a).toList) = some a := by
  obtain ⟨before, behind, rfl⟩ := List.append_of_mem ha
  rw [List.find?_eq_some_iff_append]
  refine ⟨beq_self_eq_true _, before, behind, rfl, fun b hb => ?_⟩
  rw [List.map_append, List.nodup_append] at h
  have hne := h.2.2 _ (List.mem_map_of_mem hb) _ List.mem_cons_self
  simpa using hne

/-- The fields of a table are found by their names. -/
theorem fields?_table {α : Type} (name : α → String) (value : α → Value) (items : List α)
    (h : (items.map fun a => (name a).toList).Nodup) :
    fields? (items.map name) (.table (items.map fun a => ((name a).toList, value a))) =
      some (items.map fun a => some (value a)) := by
  rw [fields?, List.map_map]
  congr 1
  refine List.map_congr_left fun a ha => ?_
  have hfind :=
    congrArg (Option.map fun a => ((name a).toList, value a)) (find?_eq_of_nodup h ha)
  rw [Function.comp_apply, Value.get?, List.find?_map]
  exact congrArg (Option.map (·.2)) hfind

theorem Table.fields?_value (g : Table) :
    fields? (g.fields.map (·.key)) g.value.2 = some (g.fields.map fun f => some f.value) :=
  fields?_table Field.key Field.value g.fields g.distinct

/-! ## The tables of settings -/

/-- A field whose value is a number that a document can hold. -/
def countField (key : String) (n : Nat) (h : n ≤ maxInteger)
    (bare : IsBareKey key.toList := by decide) :
    Field where
  key := key
  text := Text.ofNat n
  value := .integer n
  bare := bare
  denotes := Toml.denotes_integer (Nat.lt_of_le_pred (by decide) h)

def boolField (key : String) (b : Bool) (bare : IsBareKey key.toList := by decide) :
    Field where
  key := key
  text := writeBool b
  value := .boolean b
  bare := bare
  denotes := by
    cases b
    · exact Toml.denotes_false
    · exact Toml.denotes_true

def textField (key : String) (t : Text) (bare : IsBareKey key.toList := by decide) :
    Field where
  key := key
  text := Toml.quoted t
  value := .string t
  bare := bare
  denotes := Toml.denotes_string t

def patternTable (p : PatternSettings) (hcapacity : p.cacheCapacity ≤ maxInteger)
    (hlimit : p.sizeLimit ≤ maxInteger) : Table where
  name := "pattern"
  fields := [countField "cache_capacity" p.cacheCapacity hcapacity,
    countField "dfa_size_limit" p.sizeLimit hlimit,
    boolField "dot_matches_new_line" p.dotMatchesNewLine]
  bare := by decide
  distinct := by simp [countField, boolField]

theorem pattern?_patternTable (p : PatternSettings) (hcapacity : p.cacheCapacity ≤ maxInteger)
    (hlimit : p.sizeLimit ≤ maxInteger) :
    pattern? (patternTable p hcapacity hlimit).value.2 = some p := by
  have hfields := (patternTable p hcapacity hlimit).fields?_value
  simp only [patternTable, List.map_cons, List.map_nil, countField, boolField] at hfields
  simp [pattern?, patternTable, hfields, countField, boolField, field, count?, bool?]

def searchTable (r : SearchSettings) (workers : Nat) (hworkers : workers ≤ maxInteger)
    (helements : r.minParallelElements ≤ maxInteger) : Table where
  name := "resolver"
  fields := [boolField "parallel" r.parallel, countField "worker_threads" workers hworkers,
    countField "min_parallel_elements" r.minParallelElements helements]
  bare := by decide
  distinct := by simp [countField, boolField]

theorem search?_searchTable (r : SearchSettings) (workers : Nat)
    (hworkers : workers ≤ maxInteger) (helements : r.minParallelElements ≤ maxInteger) :
    search? (searchTable r workers hworkers helements).value.2 =
      some { r with workers := some workers } := by
  have hfields := (searchTable r workers hworkers helements).fields?_value
  simp only [searchTable, List.map_cons, List.map_nil, countField, boolField] at hfields
  simp [search?, searchTable, hfields, countField, boolField, field, count?, bool?]

def loggingTable (l : LoggingSettings) : Table where
  name := "logging"
  fields := [textField "level" l.level, boolField "json_format" l.jsonFormat,
    boolField "with_thread_ids" l.withThreadIds]
  bare := by decide
  distinct := by simp [textField, boolField]

theorem logging?_loggingTable (l : LoggingSettings) :
    logging? (loggingTable l).value.2 = some l := by
  have hfields := (loggingTable l).fields?_value
  simp only [loggingTable, List.map_cons, List.map_nil, textField, boolField] at hfields
  simp [logging?, loggingTable, hfields, textField, boolField, field, text?, bool?]

/-! ## Settings as tables -/

/-- The counts of settings on a machine with some processors. -/
def counts (processors : Nat) (s : Settings) : List Nat :=
  [s.pattern.cacheCapacity, s.pattern.sizeLimit, s.search.workers.getD processors,
    s.search.minParallelElements]

variable {processors : Nat} {s : Settings}

/-- The tables that settings are written as, where a document can hold all counts. -/
def tables (h : ∀ n ∈ s.counts processors, n ≤ maxInteger) : List Table :=
  [patternTable s.pattern (h _ (by simp [counts])) (h _ (by simp [counts])),
    searchTable s.search (s.search.workers.getD processors) (h _ (by simp [counts]))
      (h _ (by simp [counts])),
    loggingTable s.logging]

theorem nodup_tables (h : ∀ n ∈ s.counts processors, n ≤ maxInteger) :
    ((tables h).map fun g => g.name.toList).Nodup := by
  simp [tables, patternTable, searchTable, loggingTable]

theorem writeCount_of_le {n : Nat} (h : n ≤ maxInteger) :
    writeCount n = .ok (Text.ofNat n) := if_pos h

theorem writeCount_of_lt {n : Nat} (h : maxInteger < n) :
    writeCount n = .error (.configuration "Failed to serialize config to TOML") :=
  if_neg (Nat.not_le_of_lt h)

/-- Settings with the number of workers written out. -/
def completed (processors : Nat) (s : Settings) : Settings :=
  { s with search := { s.search with workers := some (s.search.workers.getD processors) } }

theorem completed_eq_self (h : s.search.workers.isSome) : s.completed processors = s := by
  obtain ⟨n, hn⟩ := Option.isSome_iff_exists.mp h
  rw [completed, hn, Option.getD_some, ← hn]

/-- A number of workers that is not given is written as if it were. -/
theorem write_completed (hgiven : s.search.workers = none →
      processors ≤ maxInteger) (t : Text) :
    (s.completed processors).write t = s.write (Text.ofNat processors) := by
  cases hw : s.search.workers with
  | none =>
      have hcount := writeCount_of_le (hgiven hw)
      simp only [write, completed, hw, Option.getD_none, hcount]
      rfl
  | some n =>
      simp only [write, completed, hw, Option.getD_some]

/-- Settings whose counts fit are written as their tables. -/
theorem write_eq (h : ∀ n ∈ s.counts processors, n ≤ maxInteger) :
    s.write (Text.ofNat processors) =
      .ok (Text.join ['\n'] ((tables h).map Table.written)) := by
  have hcapacity := writeCount_of_le (h s.pattern.cacheCapacity (by simp [counts]))
  have hlimit := writeCount_of_le (h s.pattern.sizeLimit (by simp [counts]))
  have hworkers := writeCount_of_le (h (s.search.workers.getD processors) (by simp [counts]))
  have helements := writeCount_of_le (h s.search.minParallelElements (by simp [counts]))
  rw [← write_completed (fun hw => h _ (by simp [counts, hw])) []]
  simp only [write, completed, hcapacity, hlimit, hworkers, helements]
  rfl

/-- Settings with a count that does not fit are not written, whichever it is. -/
theorem write_eq_error (hgiven : s.search.workers = none → processors ≤ maxInteger)
    (h : ∃ n ∈ s.counts processors, maxInteger < n) : s.write (Text.ofNat processors) =
      .error (.configuration "Failed to serialize config to TOML") := by
  rw [← write_completed hgiven []]
  rcases Nat.lt_or_ge maxInteger s.pattern.cacheCapacity with hlt | hcapacity
  · simp only [write, completed, writeCount_of_lt hlt]
    rfl
  rcases Nat.lt_or_ge maxInteger s.pattern.sizeLimit with hlt | hlimit
  · simp only [write, completed, writeCount_of_le hcapacity, writeCount_of_lt hlt]
    rfl
  rcases Nat.lt_or_ge maxInteger (s.search.workers.getD processors) with hlt | hworkers
  · simp only [write, completed, writeCount_of_le hcapacity, writeCount_of_le hlimit,
      writeCount_of_lt hlt]
    rfl
  have hlt : maxInteger < s.search.minParallelElements := by
    obtain ⟨n, hmem, hn⟩ := h
    simp only [counts, List.mem_cons, List.not_mem_nil, or_false] at hmem
    omega
  simp only [write, completed, writeCount_of_le hcapacity, writeCount_of_le hlimit,
    writeCount_of_le hworkers, writeCount_of_lt hlt]
  rfl

/-! ## Settings from tables -/

theorem ofValue?_tables (h : ∀ n ∈ s.counts processors, n ≤ maxInteger) :
    ofValue? (.table ((tables h).map Table.value)) = some (s.completed processors) := by
  have hfields := fields?_table Table.name (fun g => g.value.2) (tables h) (nodup_tables h)
  have hvalue : (tables h).map Table.value = (tables h).map fun g =>
      (g.name.toList, g.value.2) := rfl
  have hnames : (tables h).map Table.name = ["pattern", "resolver", "logging"] := rfl
  rw [← hvalue, hnames] at hfields
  rw [ofValue?, hfields]
  simp [tables, field, pattern?_patternTable, search?_searchTable,
    logging?_loggingTable, completed]

/-- Settings are read back from the document that is written for them; but if any count is too
great for a document, there is none, and nothing is written. -/
theorem document_read_back (processors : Nat) (s : Settings)
    (hgiven : s.search.workers = none → processors ≤ maxInteger) :
    ((∀ n ∈ s.counts processors, n ≤ maxInteger) →
      ∃ t, s.write (Text.ofNat processors) = .ok t ∧ read t = .ok (s.completed processors) ∧
        (s.search.workers.isSome → read t = .ok s)) ∧
    ((∃ n ∈ s.counts processors, maxInteger < n) →
      s.write (Text.ofNat processors) =
          .error (.configuration "Failed to serialize config to TOML") ∧
        ∀ hasPlace, s.save (Text.ofNat processors) hasPlace =
          .error (.configuration "Failed to serialize config to TOML")) := by
  refine ⟨fun h => ?_, fun h => ?_⟩
  · have hread : read (Text.join ['\n'] ((tables h).map Table.written)) =
        .ok (s.completed processors) := by
      rw [read, read_join_written (tables h) (nodup_tables h), Option.bind_some,
        ofValue?_tables]
      rfl
    refine ⟨_, write_eq h, hread, fun hsome => ?_⟩
    rwa [completed_eq_self hsome] at hread
  · have hwrite := write_eq_error hgiven h
    refine ⟨hwrite, fun hasPlace => ?_⟩
    rw [save, hwrite]
    rfl

/-- A level with quotes of both kinds, a backslash, the end of a line and a control character,
and the greatest number of workers; and a limit that is too great by one. -/
theorem document_read_back_odd_level :
    let s : Settings :=
      { search := { workers := some 9223372036854775807 }
        logging := { level := ['"', '"', '"', '\\', '\'', '\n', '\x00'] } }
    (∃ t, s.write (Text.ofNat 4) = .ok t ∧ read t = .ok s) ∧
      save (Text.ofNat 4) true { s with pattern := { sizeLimit := 9223372036854775808 } } =
        .error (.configuration "Failed to serialize config to TOML") := by
  intro s
  obtain ⟨t, hwrite, -, hread⟩ := (document_read_back 4 s nofun).1 (by decide)
  have hgreat :=
    (document_read_back 4 { s with pattern := { sizeLimit := 9223372036854775808 } } nofun).2
    ⟨9223372036854775808, by simp [counts], by decide⟩
  exact ⟨⟨t, hwrite, hread rfl⟩, hgreat.2 true⟩

end ControlSearch.Settings
