import ControlSearch.Page.Json
import ControlSearch.Proofs.Json
import ControlSearch.Proofs.Page.DocumentOrder

/-!
# Descriptions read back

A description that is written as text is read back as it was, unless the text is nested too
deep. So the text describes the same page as the description itself.
-/
namespace ControlSearch

namespace Json

/-! ## Nesting -/

mutual

/-- The deepest nesting of arrays and objects in a value. -/
def levels : Json → Nat
  | array items => levelsOfItems items + 1
  | object members => levelsOfMembers members + 1
  | _ => 0

def levelsOfItems : List Json → Nat
  | [] => 0
  | item :: items => max item.levels (levelsOfItems items)

def levelsOfMembers : List (Option Text × Json) → Nat
  | [] => 0
  | (_, value) :: members => max value.levels (levelsOfMembers members)

end

variable {n : Nat}

theorem levelsOfMembers_le_iff {members : List (Option Text × Json)} :
    levelsOfMembers members ≤ n ↔ ∀ m ∈ members, m.2.levels ≤ n := by
  induction members with
  | nil => simp [levelsOfMembers]
  | cons m members ih =>
      obtain ⟨name, value⟩ := m
      rw [levelsOfMembers, Nat.max_le, ih, List.forall_mem_cons]

end Json

/-- Steps that each give a result give all results together. -/
theorem mapM_eq_some_map {α β : Type} {f : α → Option β} {g : α → β} {l : List α}
    (h : ∀ a ∈ l, f a = some (g a)) : l.mapM f = some (l.map g) := by
  induction l with
  | nil => rfl
  | cons a l ih =>
      obtain ⟨ha, hl⟩ := List.forall_mem_cons.mp h
      rw [List.mapM_cons, ha, ih hl]
      rfl

/-- The number of the form that an element belongs to has 32 bits. -/
def ElementSpec.HasFormWord (e : ElementSpec) : Prop := ∀ n ∈ e.form, n < 2 ^ 32

namespace PageDescription

variable {levels n : Nat} {members : List (String × Json)}

/-! ## Objects -/

theorem isKnown_jsonObject : (jsonObject members).IsKnown ↔ ∀ m ∈ members, m.2.IsKnown := by
  rw [jsonObject, Json.IsKnown, Json.areKnownMembers_iff, List.forall_mem_map]
  exact forall₂_congr fun m _ => and_iff_right rfl

theorem levels_jsonObject_le_iff :
    (jsonObject members).levels ≤ n + 1 ↔ ∀ m ∈ members, m.2.levels ≤ n := by
  rw [jsonObject, Json.levels, Nat.add_le_add_iff_right, Json.levelsOfMembers_le_iff,
    List.forall_mem_map]

theorem filter_name_eq_nil {name : String} (h : name ∉ members.map (·.1)) :
    (members.map fun m => (some m.1.toList, m.2)).filter (·.1 == some name.toList) = [] := by
  rw [List.filter_eq_nil_iff, List.forall_mem_map]
  intro m hm heq
  have hname : m.1 = name := String.toList_inj.mp (Option.some_inj.mp (eq_of_beq heq))
  exact h (hname ▸ List.mem_map_of_mem hm)

/-- There is one member under each name. -/
theorem filter_name_eq_singleton (h : (members.map (·.1)).Nodup) {m : String × Json}
    (hm : m ∈ members) : (members.map fun m => (some m.1.toList, m.2)).filter
      (·.1 == some m.1.toList) = [(some m.1.toList, m.2)] := by
  obtain ⟨before, behind, rfl⟩ := List.append_of_mem hm
  rw [List.map_append, List.map_cons, List.nodup_append, List.nodup_cons] at h
  obtain ⟨-, ⟨hbehind, -⟩, hapart⟩ := h
  have hbefore : m.1 ∉ before.map (·.1) := fun hmem =>
    hapart m.1 hmem m.1 List.mem_cons_self rfl
  rw [List.map_append, List.map_cons, List.filter_append, List.filter_cons,
    if_pos (beq_self_eq_true _), filter_name_eq_nil hbefore, filter_name_eq_nil hbehind,
    List.nil_append]

/-- The fields of an object that has a member for each of them and no others. -/
theorem fields?_jsonObject (hlevels : 0 < levels) (h : (members.map (·.1)).Nodup) :
    fields? levels (members.map (·.1)) (jsonObject members) =
      some (members.map fun m => some m.2) := by
  have hnames : ¬(levels = 0 ∨
      (members.map fun m => (some m.1.toList, m.2)).any (·.1.isNone) = true) := by
    simp
    omega
  rw [jsonObject, fields?, if_neg hnames, List.mapM_map]
  refine mapM_eq_some_map fun m hm => ?_
  simp only [Function.comp_apply, filter_name_eq_singleton h hm]

/-! ## Fields -/

variable {α : Type} {read? : Json → Option α} {write : α → Json}

@[simp]
theorem text?_ofText (t : Text) : text? (Json.ofText t) = some t := rfl

/-- An optional field is read back, where what may stand in it is read back and is not
null. -/
theorem nullable?_getD {o : Option α}
    (h : ∀ a ∈ o, read? (write a) = some a ∧ write a ≠ .null) :
    nullable? read? ((o.map write).getD .null) = some o := by
  cases o with
  | none => rfl
  | some a =>
      obtain ⟨hread, hne⟩ := h a rfl
      rw [Option.map_some, Option.getD_some, nullable?, hread, Option.map_some]
      exact hne

@[simp]
theorem nullable?_jsonText? (t : Option Text) : nullable? text? (jsonText? t) = some t :=
  nullable?_getD fun _ _ => ⟨rfl, by simp [Json.ofText]⟩

@[simp]
theorem array?_map {as : List α} (hlevels : 0 < levels)
    (h : ∀ a ∈ as, read? (write a) = some a) :
    array? levels read? (.array (as.map write)) = some as := by
  rw [array?, if_neg hlevels.ne', List.mapM_map]
  exact (mapM_eq_some_map h).trans (by rw [List.map_id'])

theorem capability?_name (levels : Nat) (c : Capability) :
    capability? levels (Json.ofText c.name.toList) = some c := by
  rw [Json.ofText, capability?, String.ofList_toList, Capability.ofName?_name]

theorem word?_number {n : Nat} (h : n < 2 ^ 32) :
    word? (.number (some n)) = some n := if_pos h

/-! ## Elements and labels -/

def jsonForm (form : Option Nat) : Json := (form.map fun n => .number (some n)).getD .null

theorem nullable?_jsonForm {e : ElementSpec} (h : e.HasFormWord) :
    nullable? word? (jsonForm e.form) = some e.form :=
  nullable?_getD fun n hn => ⟨word?_number (h n hn), by simp⟩

def jsonCapabilities (capabilities : List Capability) : Json :=
  .array (capabilities.map fun c => Json.ofText c.name.toList)

theorem array?_jsonCapabilities (h : 2 ≤ levels) (capabilities : List Capability) :
    array? (levels - 1) (capability? (levels - 2)) (jsonCapabilities capabilities) =
      some capabilities :=
  array?_map (by omega) fun c _ => capability?_name (levels - 2) c

/-- The members of an element in the order in which they are written. -/
def elementMembers (e : ElementSpec) : List (String × Json) :=
  [("id", jsonText? e.id), ("name", jsonText? e.name),
    ("capabilities", jsonCapabilities e.capabilities),
    ("text", jsonText? e.text), ("title", jsonText? e.title),
    ("placeholder", jsonText? e.placeholder), ("value", jsonText? e.value),
    ("aria-label", jsonText? e.ariaLabel), ("visible", .bool e.visible),
    ("form", jsonForm e.form)]

theorem jsonElement_eq (e : ElementSpec) : jsonElement e = jsonObject (elementMembers e) := by
  rw [jsonElement, elementMembers]
  cases e.form <;> rfl

theorem isKnown_jsonText? (t : Option Text) : (jsonText? t).IsKnown := by
  cases t
  · trivial
  · rfl

theorem isKnown_jsonElement (e : ElementSpec) : (jsonElement e).IsKnown := by
  have hform : (jsonForm e.form).IsKnown := by
    cases e.form
    · trivial
    · rfl
  have hcapabilities : (jsonCapabilities e.capabilities).IsKnown := by
    rw [jsonCapabilities, Json.IsKnown, Json.areKnown_iff, List.forall_mem_map]
    exact fun _ _ => rfl
  rw [jsonElement_eq, isKnown_jsonObject]
  simp [elementMembers, isKnown_jsonText?, hform, hcapabilities, Json.IsKnown]

/-- An element opens an array inside its object. -/
theorem two_le_of_levels_jsonElement_le {e : ElementSpec}
    (h : (jsonElement e).levels ≤ levels) :
    2 ≤ levels := by
  by_contra hlt
  rw [jsonElement_eq] at h
  have hmembers := levels_jsonObject_le_iff.mp (h.trans (show levels ≤ 0 + 1 by omega))
  have hmem : ("capabilities", jsonCapabilities e.capabilities) ∈ elementMembers e := by
    simp [elementMembers]
  exact Nat.not_succ_le_zero _ (hmembers _ hmem)

/-- An element is read back. -/
theorem element?_jsonElement {e : ElementSpec} (hlevels : (jsonElement e).levels ≤ levels)
    (hform : e.HasFormWord) : element? levels (jsonElement e) = some e := by
  have htwo := two_le_of_levels_jsonElement_le hlevels
  have hfields := fields?_jsonObject (show 0 < levels by omega)
    (show ((elementMembers e).map (·.1)).Nodup by simp [elementMembers])
  simp only [elementMembers, List.map_cons, List.map_nil] at hfields
  rw [element?, jsonElement_eq, elementMembers, hfields]
  simp [given?, bool?, array?_jsonCapabilities htwo, nullable?_jsonForm hform]

def jsonControl (control : Option ElementSpec) : Json := (control.map jsonElement).getD .null

/-- The members of a label in the order in which they are written. -/
def labelMembers (l : LabelSpec) : List (String × Json) :=
  [("text", Json.ofText l.text), ("for", jsonText? l.target),
    ("control", jsonControl l.control)]

theorem jsonLabel_eq (l : LabelSpec) : jsonLabel l = jsonObject (labelMembers l) := rfl

theorem isKnown_jsonLabel (l : LabelSpec) : (jsonLabel l).IsKnown := by
  have hcontrol : (jsonControl l.control).IsKnown := by
    cases l.control with
    | none => trivial
    | some e => exact isKnown_jsonElement e
  rw [jsonLabel_eq, isKnown_jsonObject]
  simp [labelMembers, isKnown_jsonText?, hcontrol, Json.IsKnown, Json.ofText]

/-- The element inside a label is read back. -/
theorem nullable?_jsonControl {l : LabelSpec} (hlevels : (jsonLabel l).levels ≤ levels + 1)
    (hform : ∀ e ∈ l.control, e.HasFormWord) :
    nullable? (element? levels) (jsonControl l.control) = some l.control := by
  rw [jsonLabel_eq, levels_jsonObject_le_iff] at hlevels
  refine nullable?_getD fun e he => ⟨element?_jsonElement ?_ (hform e he), ?_⟩
  · have hcontrol := hlevels ("control", jsonControl l.control) (by simp [labelMembers])
    rwa [he] at hcontrol
  · simp [jsonElement_eq, jsonObject]

/-- A label is read back. -/
theorem label?_jsonLabel {l : LabelSpec} (hlevels : (jsonLabel l).levels ≤ levels)
    (hform : ∀ e ∈ l.control, e.HasFormWord) : label? levels (jsonLabel l) = some l := by
  obtain ⟨inner, rfl⟩ :=
    Nat.exists_eq_add_one.mpr (Nat.lt_of_lt_of_le (Nat.succ_pos _) hlevels)
  have hcontrol := nullable?_jsonControl hlevels hform
  have hfields := fields?_jsonObject (Nat.succ_pos inner)
    (show ((labelMembers l).map (·.1)).Nodup by simp [labelMembers])
  simp only [labelMembers, List.map_cons, List.map_nil] at hfields
  rw [label?, jsonLabel_eq, labelMembers, hfields]
  simp [given?, hcontrol]

/-! ## Nodes -/

variable {value : Json}

theorem node?_text :
    node? (levels + 1) (jsonObject [("text", value)]) = (text? value).map .text := by
  simp [jsonObject, node?]

theorem node?_element : node? (levels + 1) (jsonObject [("element", value)]) =
    (element? levels value).map .element := by
  simp [jsonObject, node?]

theorem node?_label : node? (levels + 1) (jsonObject [("label", value)]) =
    (label? levels value).map .label := by
  simp [jsonObject, node?]

theorem node?_group {items : List Json} :
    node? (levels + 2) (jsonObject [("group", .array items)]) =
    (items.mapM (node? levels)).map .group := by
  simp [jsonObject, node?]

mutual

theorem isKnown_jsonNode (node : PageNode) : (jsonNode node).IsKnown := by
  cases node with
  | text t => exact isKnown_jsonObject.mpr (by simp [Json.ofText, Json.IsKnown])
  | element e => exact isKnown_jsonObject.mpr (by simpa using isKnown_jsonElement e)
  | label l => exact isKnown_jsonObject.mpr (by simpa using isKnown_jsonLabel l)
  | group children =>
      exact isKnown_jsonObject.mpr (by simpa [Json.IsKnown] using areKnown_jsonNodes children)

theorem areKnown_jsonNodes (nodes : List PageNode) : Json.AreKnown (jsonNodes nodes) := by
  cases nodes with
  | nil => trivial
  | cons node rest => exact ⟨isKnown_jsonNode node, areKnown_jsonNodes rest⟩

end

/-- An object of one member opens a level for what is in the member. -/
theorem exists_of_levels_singleton_le {name : String}
    (h : (jsonObject [(name, value)]).levels ≤ levels) :
    ∃ inner, levels = inner + 1 ∧ value.levels ≤ inner := by
  obtain ⟨inner, rfl⟩ := Nat.exists_eq_add_one.mpr (Nat.lt_of_lt_of_le (Nat.succ_pos _) h)
  exact ⟨inner, rfl, levels_jsonObject_le_iff.mp h (name, value) (List.mem_singleton_self _)⟩

mutual

/-- A node is read back. -/
theorem node?_jsonNode (node : PageNode) (levels : Nat)
    (hlevels : (jsonNode node).levels ≤ levels) (hform : ∀ e ∈ node.elements, e.HasFormWord) :
    node? levels (jsonNode node) = some node := by
  cases node with
  | text t =>
      obtain ⟨inner, rfl, -⟩ := exists_of_levels_singleton_le hlevels
      rw [jsonNode, node?_text, text?_ofText, Option.map_some]
  | element e =>
      obtain ⟨inner, rfl, hinner⟩ := exists_of_levels_singleton_le hlevels
      have hread := element?_jsonElement hinner (hform e (List.mem_singleton_self e))
      rw [jsonNode, node?_element, hread, Option.map_some]
  | label l =>
      obtain ⟨inner, rfl, hinner⟩ := exists_of_levels_singleton_le hlevels
      have hread := label?_jsonLabel hinner fun e he => hform e (Option.mem_toList.mpr he)
      rw [jsonNode, node?_label, hread, Option.map_some]
  | group children =>
      obtain ⟨outer, rfl, houter⟩ := exists_of_levels_singleton_le hlevels
      obtain ⟨inner, rfl⟩ :=
        Nat.exists_eq_add_one.mpr (Nat.lt_of_lt_of_le (Nat.succ_pos _) houter)
      have hread := nodes?_jsonNodes children inner (Nat.le_of_succ_le_succ houter) hform
      rw [jsonNode, node?_group, hread, Option.map_some]

theorem nodes?_jsonNodes (nodes : List PageNode) (levels : Nat)
    (hlevels : Json.levelsOfItems (jsonNodes nodes) ≤ levels)
    (hform : ∀ e ∈ PageNode.elementsOf nodes, e.HasFormWord) :
    (jsonNodes nodes).mapM (node? levels) = some nodes := by
  cases nodes with
  | nil => rfl
  | cons node rest =>
      rw [jsonNodes, Json.levelsOfItems, Nat.max_le] at hlevels
      rw [PageNode.elementsOf, List.forall_mem_append] at hform
      rw [jsonNodes, List.mapM_cons, node?_jsonNode node levels hlevels.1 hform.1,
        nodes?_jsonNodes rest levels hlevels.2 hform.2]
      rfl

end

/-! ## Descriptions -/

variable {d : PageDescription}

theorem isKnown_toJson (d : PageDescription) : d.toJson.IsKnown :=
  isKnown_jsonObject.mpr (by simpa [Json.IsKnown] using areKnown_jsonNodes d.nodes)

/-- A description is read back from its value. -/
theorem ofJson?_toJson (hlevels : d.toJson.levels ≤ maxLevels)
    (hform : ∀ e ∈ PageNode.elementsOf d.nodes, e.HasFormWord) :
    ofJson? d.toJson = some d := by
  have hitems : Json.levelsOfItems (jsonNodes d.nodes) + 1 ≤ maxLevels - 1 :=
    levels_jsonObject_le_iff.mp hlevels ("nodes", .array (jsonNodes d.nodes))
      (List.mem_singleton_self _)
  have hnodes : array? (maxLevels - 1) (node? (maxLevels - 2)) (.array (jsonNodes d.nodes)) =
      some d.nodes := by
    rw [array?, if_neg (by decide)]
    exact nodes?_jsonNodes d.nodes (maxLevels - 2) (Nat.le_of_succ_le_succ hitems) hform
  have hfields := fields?_jsonObject (show 0 < maxLevels by decide)
    (show ([("nodes", Json.array (jsonNodes d.nodes))].map (·.1)).Nodup by simp)
  simp only [List.map_cons, List.map_nil] at hfields
  rw [ofJson?, toJson, hfields]
  simp [hnodes]

/-- A description is read back from its text, if that is nested no deeper than a reader goes;
and if there are any nodes in it, the text describes the same page as the description. -/
theorem same_page_read_back (d : PageDescription) (hlevels : d.toJson.levels ≤ maxLevels)
    (hform : ∀ e ∈ PageNode.elementsOf d.nodes, e.HasFormWord) :
    read d.write = .ok d ∧
      (d.nodes ≠ [] → StaticPage.ofText d.write = .ok (.ofDescription d)) := by
  have hread : read d.write = .ok d := by
    rw [read, write, Json.read_write d.toJson (isKnown_toJson d), Option.bind_some,
      ofJson?_toJson hlevels hform]
    rfl
  refine ⟨hread, fun hne => ?_⟩
  have hnodes : ¬d.nodes.isEmpty = true := by simpa using hne
  rw [StaticPage.ofText, hread]
  simp only [bind, Except.bind, if_neg hnodes]
  rfl

/-- A group with a text full of escapes, a hidden element of the last form that there is, and
labels with and without an element inside. -/
theorem same_page_read_back_group :
    let hidden : ElementSpec :=
      { ElementSpec.textInput with
        id := some ['n', '\x00'], visible := false, form := some 4294967295 }
    let d : PageDescription := ⟨[.group [.text ['"', '\\', '\n', '😀'], .element hidden,
      .label ⟨"Name".toList, some ['n', '\x00'], none⟩,
      .label ⟨"Yes".toList, none, some ElementSpec.checkbox⟩]]⟩
    d.nodes ≠ [] ∧ d.toJson.levels = 8 ∧
      read d.write = .ok d ∧ StaticPage.ofText d.write = .ok (.ofDescription d) := by
  intro hidden d
  have hne : d.nodes ≠ [] := List.cons_ne_nil _ _
  have hform : ∀ e ∈ PageNode.elementsOf d.nodes, e.HasFormWord := by
    simp [PageNode.elementsOf, PageNode.elements, ElementSpec.HasFormWord, d, hidden,
      ElementSpec.checkbox, ElementSpec.withCapabilities]
  have hback := same_page_read_back d (by decide) hform
  exact ⟨hne, rfl, hback.1, hback.2 hne⟩

end PageDescription
end ControlSearch
