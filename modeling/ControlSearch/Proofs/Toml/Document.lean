import ControlSearch.Proofs.Toml.Value

/-!
# Tables of a TOML document read back

A document is read line by line. A header begins a table behind those that are there, and an
assignment puts a key behind those of the table, as long as neither was there before.
-/
namespace ControlSearch.Toml

/-! ## Tables -/

namespace Node

variable {key name : Text} {change : Option Node → Option Node}
  {entries fields : List (Text × Node)}
  {node : Node} {v : Value}

theorem alter_of_not_mem (h : key ∉ entries.map (·.1)) :
    alter key change entries = (change none).map fun node => entries ++ [(key, node)] := by
  induction entries with
  | nil => rfl
  | cons entry entries ih =>
      obtain ⟨k, first⟩ := entry
      rw [List.map_cons, List.mem_cons, not_or] at h
      rw [alter, if_neg (Ne.symm h.1), ih h.2]
      cases change none <;> rfl

theorem alter_last (h : key ∉ entries.map (·.1)) :
    alter key change (entries ++ [(key, node)]) =
    (change (some node)).map fun node => entries ++ [(key, node)] := by
  induction entries with
  | nil => exact if_pos rfl
  | cons entry entries ih =>
      obtain ⟨k, first⟩ := entry
      rw [List.map_cons, List.mem_cons, not_or] at h
      rw [List.cons_append, alter, if_neg (Ne.symm h.1), ih h.2]
      cases change (some node) <;> rfl

/-- A header begins a table behind the others. -/
theorem beginTable_of_not_mem (h : name ∉ entries.map (·.1)) :
    beginTable [] name (table .header entries) =
      some (table .header (entries ++ [(name, table .header [])])) := by
  rw [beginTable, within, descend, alter_of_not_mem h]
  rfl

/-- A key goes behind the others in the table that was begun last. -/
theorem assign_last (hname : name ∉ entries.map (·.1))
    (hkey : key ∉ fields.map (·.1)) (v : Value) :
    assign [name] [] key v (table .header (entries ++ [(name, table .header fields)])) =
      some (table .header
        (entries ++ [(name, table .header (fields ++ [(key, value v)]))])) := by
  rw [assign, within, descend, alter_last hname]
  simp [descend, alter_of_not_mem hkey]

theorem finishEntries_eq_map (entries : List (Text × Node)) :
    finishEntries entries = entries.map fun entry => (entry.1, entry.2.finish) := by
  induction entries with
  | nil => rfl
  | cons entry entries ih =>
      obtain ⟨key, node⟩ := entry
      rw [finishEntries, ih, List.map_cons]

end Node

/-! ## Keys -/

variable {c : Char} {t rest : Text} {key name : Text} {fuel : Nat} {v : Value} {doc : Node}
  {header : List Text}

/-- A key that needs no quotes. -/
structure IsBareKey (key : Text) : Prop where
  ne_nil : key ≠ []
  bare : ∀ c ∈ key, isBare c = true

instance (key : Text) : Decidable (IsBareKey key) :=
  decidable_of_iff (key ≠ [] ∧ key.all isBare = true)
    ⟨fun h => ⟨h.1, List.all_eq_true.mp h.2⟩,
      fun h => ⟨h.ne_nil, List.all_eq_true.mpr h.bare⟩⟩

theorem skipSpaces_cons (h : isSpace c = false) (t : Text) :
    skipSpaces (c :: t) = c :: t := by
  rw [skipSpaces, List.dropWhile_cons_of_neg (by simp [h])]

theorem isSpace_of_isBare (h : isBare c = true) : isSpace c = false := by
  simp [isSpace, Text.ne_of_kind h (d := ' ') rfl, Text.ne_of_kind h (d := '\t') rfl]

theorem IsBareKey.exists_eq_cons (h : IsBareKey key) :
    ∃ c u, key = c :: u ∧ isBare c = true := by
  obtain ⟨c, u, rfl⟩ := List.exists_cons_of_ne_nil h.ne_nil
  exact ⟨c, u, rfl, h.bare c List.mem_cons_self⟩

/-- A key that needs no quotes does not begin like anything else in a document. -/
theorem IsBareKey.append_ne_cons (h : IsBareKey key) (hc : isBare c = false) :
    key ++ rest ≠ c :: t := by
  obtain ⟨d, u, rfl, hd⟩ := h.exists_eq_cons
  exact fun heq => Text.ne_of_kind hd hc (List.cons_eq_cons.mp heq).1

theorem readKey_append (h : IsBareKey key) (hrest : Text.StopsAt isBare rest) :
    readKey (key ++ rest) = some (key, rest) := by
  have hempty : key.isEmpty = false := by simpa using h.ne_nil
  have htake := Text.takeWhile_append_of_stopsAt h.bare hrest
  have hdrop := Text.dropWhile_append_of_stopsAt h.bare hrest
  rw [readKey]
  · rw [htake, hdrop, hempty]
    rfl
  · exact fun _ => h.append_ne_cons (by decide)
  · exact fun _ => h.append_ne_cons (by decide)

theorem skipSpaces_append (h : IsBareKey key) (rest : Text) :
    skipSpaces (key ++ rest) = key ++ rest := by
  obtain ⟨c, u, rfl, hc⟩ := h.exists_eq_cons
  exact skipSpaces_cons (isSpace_of_isBare hc) _

/-- A single key is read as a path of its own. -/
theorem readPath_append (h : IsBareKey key) (hrest : Text.StopsAt isBare rest)
    (hdot : Text.StopsAt (· == '.') (skipSpaces rest)) :
    readPath (key ++ rest) = some ([], key, skipSpaces rest) := by
  have hkeys (fuel : Nat) :
      readKeys (fuel + 1) (key ++ rest) = some ([key], skipSpaces rest) := by
    rw [readKeys, skipSpaces_append h, readKey_append h hrest]
    simp only [Option.bind_eq_bind, Option.bind_some]
    split
    · rename_i heq
      rw [heq, Text.stopsAt_cons] at hdot
      exact absurd hdot (by decide)
    · rfl
  rw [readPath, hkeys]
  rfl

/-! ## Lines -/

theorem lineEnd?_newline (rest : Text) : lineEnd? ('\n' :: rest) = some rest := rfl

/-- A header in brackets begins its table. -/
theorem readHeader_append {begun : Node} (h : IsBareKey name)
    (hbegin : doc.beginTable [] name = some begun) (rest : Text) :
    readHeader doc (name ++ ']' :: '\n' :: rest) = some ([name], begun, rest) := by
  have hpath := readPath_append h
    (show Text.StopsAt isBare (']' :: '\n' :: rest) from Text.stopsAt_cons.mpr rfl)
    (Text.stopsAt_cons.mpr rfl)
  rw [readHeader]
  · rw [hpath, skipSpaces_cons (by decide)]
    simp [hbegin, lineEnd?_newline]
  · exact fun _ => h.append_ne_cons (by decide)

theorem skipSpaces_value (hv : Denotes t v) (rest : Text) :
    skipSpaces (' ' :: (t ++ '\n' :: rest)) = t ++ '\n' :: rest := by
  have hstops : Text.StopsAt isSpace (t ++ '\n' :: rest) := by
    cases t with
    | nil => exact Text.stopsAt_cons.mpr rfl
    | cons c t => exact Text.stopsAt_cons.mpr (Text.stopsAt_cons.mp hv.stops)
  exact Text.dropWhile_append_of_stopsAt (t :=
    [' ']) (List.forall_mem_singleton.mpr rfl) hstops

/-- A key and its value are assigned in the table of the last header. -/
theorem readAssignment_append {assigned : Node} (h : IsBareKey key) (hv : Denotes t v)
    (hassign : doc.assign header [] key v = some assigned) (rest : Text) :
    readAssignment header doc (key ++ ' ' :: '=' :: ' ' :: (t ++ '\n' :: rest)) =
      some (assigned, rest) := by
  have hpath := readPath_append h
    (show Text.StopsAt isBare (' ' :: '=' :: ' ' :: (t ++ '\n' :: rest)) from
      Text.stopsAt_cons.mpr rfl)
    (Text.stopsAt_cons.mpr rfl)
  have hskip : skipSpaces (' ' :: '=' :: ' ' :: (t ++ '\n' :: rest)) =
      '=' :: ' ' :: (t ++ '\n' :: rest) := rfl
  rw [readAssignment, hpath, hskip]
  simp [skipSpaces_value hv, hv.read, hassign, lineEnd?_newline]

/-! ## Reading on -/

/-- Where a reader of lines stands: the table of the last header, the document so far, and the
rest. -/
structure Place where
  header : List Text
  doc : Node
  rest : Text

namespace Place

variable {p q r : Place}

/-- A reader that has fuel for the rest comes from one place to another, and has still fuel
for the rest there. -/
def Leads (p q : Place) : Prop :=
  ∀ fuel, p.rest.length < fuel → ∃ left, q.rest.length < left ∧
    readOn fuel p.header p.doc p.rest = readOn left q.header q.doc q.rest

theorem Leads.refl (p : Place) : p.Leads p := fun fuel hfuel => ⟨fuel, hfuel, rfl⟩

theorem Leads.trans (h : p.Leads q) (h' : q.Leads r) : p.Leads r := by
  intro fuel hfuel
  obtain ⟨left, hleft, heq⟩ := h fuel hfuel
  obtain ⟨left', hleft', heq'⟩ := h' left hleft
  exact ⟨left', hleft', heq.trans heq'⟩

/-- A place leads to where the reader of a line stands behind it. -/
theorem leads_of_line (hlength : q.rest.length < p.rest.length)
    (h : ∀ fuel,
      readOn (fuel + 1) p.header p.doc p.rest = readOn fuel q.header q.doc q.rest) :
    p.Leads q := by
  intro fuel hfuel
  obtain ⟨left, rfl⟩ := Nat.exists_eq_add_one.mpr (Nat.zero_lt_of_lt hfuel)
  exact ⟨left, by omega, h left⟩

theorem leads_blank (header : List Text) (doc : Node) (rest : Text) :
    Leads ⟨header, doc, '\n' :: rest⟩ ⟨header, doc, rest⟩ :=
  leads_of_line (Nat.lt_succ_self _) fun _ => rfl

theorem leads_header {begun : Node} (h : IsBareKey name)
    (hbegin : doc.beginTable [] name = some begun) (header : List Text) (rest : Text) :
    Leads ⟨header, doc, '[' :: (name ++ ']' :: '\n' :: rest)⟩ ⟨[name], begun, rest⟩ := by
  refine leads_of_line (by simp; omega) fun fuel => ?_
  rw [readOn, skipSpaces_cons (by decide)]
  simp [readHeader_append h hbegin]

theorem leads_assignment {assigned : Node} (h : IsBareKey key) (hv : Denotes t v)
    (hassign : doc.assign header [] key v = some assigned) (rest : Text) :
    Leads ⟨header, doc, key ++ ' ' :: '=' :: ' ' :: (t ++ '\n' :: rest)⟩
      ⟨header, assigned, rest⟩ := by
  refine leads_of_line (by simp; omega) fun fuel => ?_
  have hassignment := readAssignment_append h hv hassign rest
  have hskip := skipSpaces_append h (' ' :: '=' :: ' ' :: (t ++ '\n' :: rest))
  obtain ⟨c, u, rfl, hc⟩ := h.exists_eq_cons
  rw [List.cons_append] at hassignment hskip ⊢
  have hne (d : Char) (hd : isBare d = false) : c ≠ d := Text.ne_of_kind hc hd
  rw [readOn, hskip]
  simp [hne '[' rfl, hne '#' rfl, newline?_cons (hne '\n' rfl) (hne '\r' rfl), hassignment]

/-- Where a reader comes to the end of a text, its document is complete. -/
theorem read_of_leads {header : List Text} (hmark : t.head? ≠ some '\ufeff')
    (h : Leads ⟨[], .root, t⟩ ⟨header, doc, []⟩) : read t = some doc.finish := by
  obtain ⟨left, hleft, heq⟩ := h (t.length + 1) (Nat.lt_succ_self _)
  obtain ⟨left, rfl⟩ := Nat.exists_eq_add_one.mpr (Nat.zero_lt_of_lt hleft)
  have hstart : readOn (t.length + 1) [] .root t = some doc := heq
  rw [read]
  · rw [hstart, Option.map_some]
  · rintro rest rfl
    exact hmark rfl

end Place

end ControlSearch.Toml
