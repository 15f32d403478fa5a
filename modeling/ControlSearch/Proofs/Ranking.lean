import Mathlib.Data.List.Lex
import Mathlib.Data.List.MinMax
import Mathlib.Data.List.Nodup
import Mathlib.Data.Prod.Lex
import Mathlib.Order.Compare
import ControlSearch.Ranking

/-!
# What rankings keep and how they are listed

Of the entries of one element a ranking keeps the one of least cost, and the first of these.
Entries of different elements have different places in a listing, so a listing is told by what
is kept, in whatever order the entries are held.
-/
namespace ControlSearch

/-! ## The order of listings -/

/-- Comparing the first parts, and the second ones where these are equal, is lexicographic. -/
theorem compares_then {α β : Type} [LinearOrder α] [LinearOrder β] {o o' : Ordering} {a b : α}
    {c d : β} (h : o.Compares a b) (h' : o'.Compares c d) :
    (o.then o').Compares (toLex (a, c)) (toLex (b, d)) := by
  cases o with
  | lt =>
      have hlt : a < b := h
      exact Prod.Lex.toLex_lt_toLex.mpr (.inl hlt)
  | eq =>
      obtain rfl : a = b := h
      cases o' with
      | lt => exact Prod.Lex.toLex_lt_toLex.mpr (.inr ⟨rfl, h'⟩)
      | eq =>
          obtain rfl : c = d := h'
          rfl
      | gt => exact Prod.Lex.toLex_lt_toLex.mpr (.inr ⟨rfl, h'⟩)
  | gt =>
      have hlt : b < a := h
      exact Prod.Lex.toLex_lt_toLex.mpr (.inl hlt)

theorem compares_compare (m n : ℕ) : (compare m n).Compares m n := (compare_iff m n).mp rfl

/-- Document order is the lexicographic order of child numbers. -/
theorem Hierarchy.compares_order (a b : Hierarchy) : (order a b).Compares (a : List ℕ) b := by
  induction a generalizing b with
  | nil =>
      cases b with
      | nil => rfl
      | cons n b => exact List.nil_lt_cons n b
  | cons m a ih =>
      cases b with
      | nil => exact List.nil_lt_cons m a
      | cons n b =>
          have hhead := compares_compare m n
          have htail := ih b
          rw [order]
          cases hmn : compare m n with
          | lt =>
              rw [hmn] at hhead
              exact List.cons_lt_cons_iff.mpr (.inl hhead)
          | eq =>
              rw [hmn] at hhead
              obtain rfl : m = n := hhead
              cases hab : order a b with
              | lt =>
                  rw [hab] at htail
                  exact List.cons_lt_cons_iff.mpr (.inr ⟨rfl, htail⟩)
              | eq =>
                  rw [hab] at htail
                  obtain rfl : a = b := htail
                  rfl
              | gt =>
                  rw [hab] at htail
                  exact List.cons_lt_cons_iff.mpr (.inr ⟨rfl, htail⟩)
          | gt =>
              rw [hmn] at hhead
              exact List.cons_lt_cons_iff.mpr (.inl hhead)

namespace Entry

variable {a b : Entry}

/-- The bytes around a hit and, among equals, the bytes in front of it. The less a hit costs,
the better it is. -/
def cost (e : Entry) : ℕ ×ₗ ℕ := toLex (e.coverage, e.distance)

/-- The place of an entry in listings. -/
def place (e : Entry) : ℕ ×ₗ ℕ ×ₗ List ℕ ×ₗ ℕ ×ₗ ℕ :=
  toLex (e.coverage, toLex (e.distance, toLex (e.hierarchy, toLex (e.index, e.element))))

theorem isBetter_iff : a.isBetter b = true ↔ a.cost < b.cost := by
  simp [isBetter, cost, Prod.Lex.toLex_lt_toLex]

theorem compares_order (a b : Entry) : (a.order b).Compares a.place b.place :=
  compares_then (compares_compare _ _) <| compares_then (compares_compare _ _) <|
    compares_then (Hierarchy.compares_order _ _) <|
      compares_then (compares_compare _ _) (compares_compare _ _)

theorem isLE_order_iff : (a.order b).isLE = true ↔ a.place ≤ b.place := by
  rw [Ordering.isLE_iff_ne_gt]
  exact (compares_order a b).ne_gt

/-- Entries with the same place are entries of one element. -/
theorem element_eq_of_place_eq (h : a.place = b.place) : a.element = b.element :=
  congrArg (fun p => (ofLex (ofLex (ofLex (ofLex p).2).2).2).2) h

/-- The same entries can be listed in ascending order in one way only. -/
theorem eq_of_perm {es es' : List Entry} (hperm : es.Perm es')
    (h : es.Pairwise fun a b => a.place < b.place)
    (h' : es'.Pairwise fun a b => a.place < b.place) :
    es = es' := by
  refine hperm.eq_of_pairwise ?_ h h'
  intro a b _ _ hab hba
  exact absurd hab (not_lt.mpr hba.le)

end Entry

/-! ## Hits of one element -/

/-- What is kept of an entry, if there is one, and a hit that comes later. -/
def keep (old : Option Entry) (e : Entry) : Option Entry :=
  List.argAux (fun b c => b.cost < c.cost) old e

/-- What is kept of an entry, if there is one, and hits that come one after the other. -/
def keepAll (old : Option Entry) (es : List Entry) : Option Entry := es.foldl keep old

variable {old m : Option Entry} {c e k : Entry} {es es' : List Entry}

@[simp] theorem keepAll_nil : keepAll old [] = old := rfl
@[simp] theorem keepAll_cons : keepAll old (e :: es) = keepAll (keep old e) es := rfl

/-- Of hits alone the first one of least cost is kept. -/
theorem keepAll_none : keepAll none es = es.argmin Entry.cost := rfl

theorem keepAll_some : keepAll (some k) es = (k :: es).argmin Entry.cost := rfl

theorem exists_eq_some_of_argmin_cons (h : (e :: es).argmin Entry.cost = m) :
    ∃ c, m = some c := by
  cases m with
  | none => simp at h
  | some c => exact ⟨c, rfl⟩

theorem argmin_cost_cons_iff : (e :: es).argmin Entry.cost = some c ↔
    (c = e ∧ ∀ h ∈ es, e.cost ≤ h.cost) ∨
    (es.argmin Entry.cost = some c ∧ c.cost < e.cost) := by
  rw [List.argmin_cons]
  cases hmin : es.argmin Entry.cost with
  | none =>
      obtain rfl := List.argmin_eq_none.mp hmin
      simp [eq_comm]
  | some b =>
      have hle : ∀ h ∈ es, b.cost ≤ h.cost := fun h hh => List.le_of_mem_argmin hh hmin
      have hmem : b ∈ es := List.argmin_mem hmin
      by_cases hlt : b.cost < e.cost
      · simp only [hlt, if_true, Option.some.injEq]
        constructor
        · intro h
          subst h
          exact .inr ⟨rfl, hlt⟩
        · rintro (⟨rfl, hall⟩ | ⟨rfl, -⟩)
          · exact absurd hlt (not_lt.mpr (hall b hmem))
          · rfl
      · simp only [hlt, if_false, Option.some.injEq]
        constructor
        · intro h
          subst h
          exact .inl ⟨rfl, fun h hh => (not_lt.mp hlt).trans (hle h hh)⟩
        · rintro (⟨rfl, -⟩ | ⟨rfl, hce⟩)
          · rfl
          · exact absurd hce hlt

/-- Where two series of hits come to the same, a hit of one series may as well come before the
other one. So it does not matter that the same hits come twice, nor how the two series are
mixed. -/
theorem keepAll_keep (h : keepAll old (e :: es) = m) (h' : keepAll old es' = m) :
    keepAll (keep old e) es' = m := by
  have hfirst (hc : (e :: es).argmin Entry.cost = m) (hc' : es'.argmin Entry.cost = m) :
      (e :: es').argmin Entry.cost = m := by
    obtain ⟨c, rfl⟩ := exists_eq_some_of_argmin_cons hc
    rcases argmin_cost_cons_iff.mp hc with ⟨rfl, -⟩ | ⟨-, hlt⟩
    · exact argmin_cost_cons_iff.mpr (.inl ⟨rfl, fun h hh => List.le_of_mem_argmin hh hc'⟩)
    · exact argmin_cost_cons_iff.mpr (.inr ⟨hc', hlt⟩)
  cases old with
  | none => exact hfirst h h'
  | some k =>
      by_cases hek : e.cost < k.cost
      · have hkeep : keep (some k) e = some e := if_pos hek
        rw [keepAll_cons, hkeep, keepAll_some] at h
        rw [hkeep, keepAll_some]
        refine hfirst h ?_
        obtain ⟨c, rfl⟩ := exists_eq_some_of_argmin_cons h
        have hce : c.cost ≤ e.cost := List.le_of_mem_argmin List.mem_cons_self h
        -- what is left in the end is better than the old entry, so it is one of the hits
        rcases argmin_cost_cons_iff.mp h' with ⟨rfl, -⟩ | ⟨hc', -⟩
        · exact absurd hek (not_lt.mpr hce)
        · exact hc'
      · have hkeep : keep (some k) e = some k := if_neg hek
        rwa [hkeep]

/-! ## What a ranking keeps -/

namespace Ranking

variable {r s : Ranking} {x : ElementId}

/-- One entry is held for each element. -/
def Distinct (r : Ranking) : Prop := (r.entries.map (·.element)).Nodup

theorem distinct_empty : empty.Distinct := List.nodup_nil

theorem find?_eq_none_iff : r.find? x = none ↔ x ∉ r.entries.map (·.element) := by
  simp [find?]

theorem element_of_find? (h : r.find? x = some e) : e.element = x := by
  simpa using List.find?_some h

/-- An entry that takes the place of another one keeps the element. -/
theorem element_replace (e k : Entry) :
    (if k.element = e.element then e else k).element = k.element := by
  split
  · rename_i h
    exact h.symm
  · rfl

theorem Distinct.insert (h : r.Distinct) (e : Entry) : (r.insert e).Distinct := by
  unfold Ranking.insert offer
  split
  · rename_i hnone
    have hnew := find?_eq_none_iff.mp hnone
    simp only [Distinct, List.map_append, List.map_singleton]
    exact List.Nodup.append h (List.nodup_singleton _) (by simpa using hnew)
  · split
    · simpa [Distinct, Function.comp_def, element_replace] using h
    · exact h

/-- Of the entry that is held for an element and one that comes in, the better one is held,
and the old one if neither is better. -/
theorem find?_insert (r : Ranking) (e : Entry) (x : ElementId) :
    (r.insert e).find? x = if e.element = x then keep (r.find? x) e else r.find? x := by
  by_cases hx : e.element = x
  · subst hx
    rw [if_pos rfl]
    unfold Ranking.insert offer
    cases hfind : r.find? e.element with
    | none =>
        have hnone : r.entries.find? (·.element == e.element) = none := hfind
        simp [find?, List.find?_append, hnone, keep, List.argAux]
    | some k =>
        have hk : k.element = e.element := element_of_find? hfind
        have hsome : r.entries.find? (·.element == e.element) = some k := hfind
        simp only [Entry.isBetter_iff, keep, List.argAux]
        split
        · simp only [find?, List.find?_map, Function.comp_def, element_replace, hsome]
          simp [hk]
        · exact hfind
  · rw [if_neg hx, find?_insert_ne r e x hx]

/-- An entry is admitted if it is better than the one that is held for its element, if there
is one. -/
theorem admits_eq_all (r : Ranking) (e : Entry) :
    r.admits e = (r.find? e.element).all e.isBetter := by
  unfold admits offer
  cases r.find? e.element with
  | none => rfl
  | some k =>
      cases hbetter : e.isBetter k <;> simp [hbetter]

/-- What is admitted is held from then on, and nothing else comes to be held. -/
theorem admits_iff_held (r : Ranking) (e : Entry) :
    r.admits e = true ↔ (r.insert e).find? e.element = some e ∧
    r.find? e.element ≠ some e := by
  rw [admits_eq_all, find?_insert, if_pos rfl]
  cases r.find? e.element with
  | none => simp [keep, List.argAux]
  | some k =>
      rw [Option.all_some, Entry.isBetter_iff]
      by_cases hlt : e.cost < k.cost
      · have hkeep : keep (some k) e = some e := if_pos hlt
        have hne : k ≠ e := by
          rintro rfl
          exact lt_irrefl _ hlt
        simp [hlt, hkeep, hne]
      · have hkeep : keep (some k) e = some k := if_neg hlt
        simp [hlt, hkeep]

theorem mem_entries_iff (h : r.Distinct) : e ∈ r.entries ↔ r.find? e.element = some e := by
  constructor
  · intro he
    cases hfind : r.find? e.element with
    | none => exact absurd (List.mem_map_of_mem he) (find?_eq_none_iff.mp hfind)
    | some k =>
        have hk : k ∈ r.entries := List.mem_of_find?_eq_some hfind
        rw [List.inj_on_of_nodup_map h hk he (element_of_find? hfind)]
  · exact List.mem_of_find?_eq_some

/-- Rankings that hold the same entry for every element differ at most in the order in which
they hold the entries. -/
theorem perm_of_find?_eq (hr : r.Distinct) (hs : s.Distinct)
    (h : ∀ x, r.find? x = s.find? x) :
    r.entries.Perm s.entries := by
  apply (List.perm_ext_iff_of_nodup (List.Nodup.of_map _ hr) (List.Nodup.of_map _ hs)).mpr
  intro e
  rw [mem_entries_iff hr, mem_entries_iff hs, h]

/-! ## Listings -/

theorem perm_sorted (r : Ranking) : r.sorted.Perm r.entries := List.mergeSort_perm _ _

theorem mem_sorted_iff (h : r.Distinct) : e ∈ r.sorted ↔ r.find? e.element = some e := by
  rw [r.perm_sorted.mem_iff, mem_entries_iff h]

theorem nodup_sorted (h : r.Distinct) : (r.sorted.map (·.element)).Nodup :=
  (r.perm_sorted.map _).nodup_iff.mpr h

theorem pairwise_sorted (r : Ranking) : r.sorted.Pairwise fun a b => a.place ≤ b.place := by
  have htrans (a b c : Entry) (hab : (a.order b).isLE = true)
      (hbc : (b.order c).isLE = true) :
      (a.order c).isLE = true := by
    rw [Entry.isLE_order_iff] at hab hbc ⊢
    exact hab.trans hbc
  have htotal (a b : Entry) : ((a.order b).isLE || (b.order a).isLE) = true := by
    rw [Bool.or_eq_true, Entry.isLE_order_iff, Entry.isLE_order_iff]
    exact le_total _ _
  have hsorted := List.pairwise_mergeSort htrans htotal r.entries
  simp only [Entry.isLE_order_iff] at hsorted
  exact hsorted

/-- No two entries of a listing have the same place. -/
theorem ascending_sorted (h : r.Distinct) :
    r.sorted.Pairwise fun a b => a.place < b.place := by
  have hdistinct := List.pairwise_map.mp (nodup_sorted h)
  refine (r.pairwise_sorted.and hdistinct).imp ?_
  rintro a b ⟨hle, hne⟩
  exact lt_of_le_of_ne hle fun heq => hne (Entry.element_eq_of_place_eq heq)

/-- The order in which the entries are held does not matter to a listing. -/
theorem sorted_eq_of_perm (h : r.Distinct) (hperm : r.entries.Perm s.entries) :
    r.sorted = s.sorted := by
  have hall : r.sorted.Perm s.sorted :=
    r.perm_sorted.trans (hperm.trans s.perm_sorted.symm)
  have hs : s.Distinct := (hperm.map _).nodup_iff.mp h
  exact Entry.eq_of_perm hall (ascending_sorted h) (ascending_sorted hs)

end Ranking
end ControlSearch
