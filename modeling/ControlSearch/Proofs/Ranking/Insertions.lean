import Mathlib.Data.Finset.Card
import ControlSearch.Proofs.Ranking

/-!
# Rankings of what was inserted

Whatever is inserted into a ranking one after the other, it keeps for each element the first
of the best entries. An entry is admitted if it is better than all that came before it for its
element. A ranking has one listing, which does not depend on the order in which the entries
are held.
-/
namespace ControlSearch

variable {es found found' : List Entry} {e : Entry} {x : ElementId}

/-- The first entry of least cost: none of those in front of it is as good, and none of those
behind it is better. -/
theorem argmin_cost_eq_some_iff : es.argmin Entry.cost = some e ↔
    ∃ front back, es = front ++ e :: back ∧ (∀ k ∈ front, e.cost < k.cost) ∧
      ∀ k ∈ back, e.cost ≤ k.cost := by
  induction es with
  | nil => simp
  | cons k es ih =>
      rw [argmin_cost_cons_iff, ih]
      constructor
      · rintro (⟨rfl, hback⟩ | ⟨⟨front, back, rfl, hfront, hback⟩, hk⟩)
        · exact ⟨[], es, rfl, by simp, hback⟩
        · exact ⟨k :: front, back, rfl, List.forall_mem_cons.mpr ⟨hk, hfront⟩, hback⟩
      · rintro ⟨front, back, hes, hfront, hback⟩
        cases front with
        | nil =>
            obtain ⟨rfl, rfl⟩ := List.cons_eq_cons.mp hes
            exact .inl ⟨rfl, hback⟩
        | cons k' front =>
            obtain ⟨rfl, rfl⟩ := List.cons_eq_cons.mp hes
            obtain ⟨hk, hfront⟩ := List.forall_mem_cons.mp hfront
            exact .inr ⟨⟨front, back, rfl, hfront, hback⟩, hk⟩

/-- The first of the best entries for an element in a series. -/
def IsFirstBest (es : List Entry) (x : ElementId) (e : Entry) : Prop :=
  e.element = x ∧ ∃ front back, es = front ++ e :: back ∧
    (∀ k ∈ front, k.element = x → e.cost < k.cost) ∧ ∀ k ∈ back, k.element = x →
    e.cost ≤ k.cost

/-- Among the entries for an element, the first best one is the first of least cost. -/
theorem argmin_filter_eq_some_iff :
    (es.filter (·.element = x)).argmin Entry.cost = some e ↔ IsFirstBest es x e := by
  have hall {part : List Entry} {P : Entry → Prop} :
      (∀ k ∈ part.filter (·.element = x), P k) ↔ ∀ k ∈ part, k.element = x → P k := by
    simp [List.mem_filter]
  rw [argmin_cost_eq_some_iff]
  constructor
  · rintro ⟨front, back, hes, hfront, hback⟩
    obtain ⟨first, rest, rfl, rfl, hrest⟩ := List.filter_eq_append_iff.mp hes
    obtain ⟨skipped, last, rfl, hskipped, he, rfl⟩ := List.filter_eq_cons_iff.mp hrest
    refine ⟨by simpa using he, first ++ skipped, last, by simp, ?_, hall.mp hback⟩
    intro k hk hkx
    rcases List.mem_append.mp hk with hk | hk
    · exact hall.mp hfront k hk hkx
    · exact absurd hkx (by simpa using hskipped k hk)
  · rintro ⟨rfl, front, back, rfl, hfront, hback⟩
    refine ⟨front.filter (·.element = e.element),
      back.filter (·.element = e.element), by simp, ?_, ?_⟩
    · exact hall.mpr hfront
    · exact hall.mpr hback

namespace Ranking

/-! ## What insertions keep -/

theorem insertAll_cons (r : Ranking) (e : Entry) (es : List Entry) :
    r.insertAll (e :: es) = (r.insert e).insertAll es := rfl

theorem Distinct.insertAll {r : Ranking} (h : r.Distinct) (es : List Entry) :
    (r.insertAll es).Distinct := by
  induction es generalizing r with
  | nil => exact h
  | cons e es ih => exact ih (h.insert e)

/-- For each element, insertions keep what is kept of its own entries. -/
theorem find?_insertAll (r : Ranking) (es : List Entry) (x : ElementId) :
    (r.insertAll es).find? x = keepAll (r.find? x) (es.filter (·.element = x)) := by
  induction es generalizing r with
  | nil => rfl
  | cons e es ih =>
      rw [insertAll_cons, ih, find?_insert]
      by_cases hx : e.element = x
      · simp [hx]
      · simp [hx]

theorem find?_insertAll_empty :
    (empty.insertAll es).find? x = some e ↔ IsFirstBest es x e := by
  rw [find?_insertAll, find?_empty, keepAll_none, argmin_filter_eq_some_iff]

theorem find?_insertAll_eq_none_iff :
    (empty.insertAll es).find? x = none ↔ ∀ e ∈ es, e.element ≠ x := by
  rw [find?_insertAll, find?_empty, keepAll_none, List.argmin_eq_none]
  simp

/-- An entry is admitted if it is better than every entry for its element that was inserted
before. -/
theorem admits_insertAll_iff : (empty.insertAll es).admits e = true ↔
    ∀ k ∈ es, k.element = e.element → e.cost < k.cost := by
  cases hfind : (empty.insertAll es).find? e.element with
  | none =>
      have hnew := find?_insertAll_eq_none_iff.mp hfind
      simp only [admits_eq_all, hfind, Option.all_none, true_iff]
      exact fun k hk hke => absurd hke (hnew k hk)
  | some best =>
      obtain ⟨hbest, front, back, rfl, hfront, hback⟩ := find?_insertAll_empty.mp hfind
      simp only [admits_eq_all, hfind, Option.all_some, Entry.isBetter_iff]
      constructor
      · intro hlt k hk hke
        rcases List.mem_append.mp hk with hk | hk
        · exact hlt.trans (hfront k hk hke)
        rcases List.mem_cons.mp hk with rfl | hk
        · exact hlt
        · exact hlt.trans_le (hback k hk hke)
      · exact fun hall => hall best (by simp) hbest

/-- As many entries are held as there are different elements. -/
theorem size_insertAll (es : List Entry) :
    (empty.insertAll es).size = (es.map (·.element)).toFinset.card := by
  have hdistinct := distinct_empty.insertAll es
  have hsame : ((empty.insertAll es).entries.map (·.element)).toFinset =
      (es.map (·.element)).toFinset := by
    ext x
    rw [List.mem_toFinset, List.mem_toFinset, ← not_iff_not, ← find?_eq_none_iff,
      find?_insertAll_eq_none_iff]
    simp
  rw [← hsame, List.toFinset_card_of_nodup hdistinct, List.length_map, size]

/-! ## The listing -/

/-- A list shows the first best entry of each element, each once and in the order of
listings. -/
structure IsListOf (es found : List Entry) : Prop where
  mem_iff : ∀ e, e ∈ found ↔ IsFirstBest es e.element e
  once : (found.map (·.element)).Nodup
  ascending : found.Pairwise fun a b => a.place < b.place

theorem IsListOf.unique (h : IsListOf es found) (h' : IsListOf es found') :
    found = found' := by
  have hperm : found.Perm found' := by
    apply (List.perm_ext_iff_of_nodup (List.Nodup.of_map _ h.once)
      (List.Nodup.of_map _ h'.once)).mpr
    exact fun e => (h.mem_iff e).trans (h'.mem_iff e).symm
  exact Entry.eq_of_perm hperm h.ascending h'.ascending

theorem isListOf_sorted (es : List Entry) : IsListOf es (empty.insertAll es).sorted where
  mem_iff e := by rw [mem_sorted_iff (distinct_empty.insertAll es), find?_insertAll_empty]
  once := nodup_sorted (distinct_empty.insertAll es)
  ascending := ascending_sorted (distinct_empty.insertAll es)

/-- Insertions keep the first best entry of each element and admit what is better than all
before it. There is one list of what they keep, and it is found however the entries are
held. -/
theorem first_best_of_insertions (es : List Entry) :
    (∀ x e, (empty.insertAll es).find? x = some e ↔ IsFirstBest es x e) ∧
    (∀ x, (empty.insertAll es).find? x = none ↔ ∀ e ∈ es, e.element ≠ x) ∧
    (∀ front e back, es = front ++ e :: back →
      ((empty.insertAll front).admits e = true ↔
        ∀ k ∈ front, k.element = e.element → e.cost < k.cost)) ∧
    (empty.insertAll es).size = (es.map (·.element)).toFinset.card ∧
    ∀ held, held.Perm (empty.insertAll es).entries →
      ∀ found, found = (Ranking.mk held).sorted ↔ IsListOf es found := by
  refine ⟨fun _ _ => find?_insertAll_empty, fun _ => find?_insertAll_eq_none_iff,
    fun _ _ _ _ => admits_insertAll_iff, size_insertAll es, ?_⟩
  intro held hheld found
  have hsorted : (empty.insertAll es).sorted = (Ranking.mk held).sorted :=
    sorted_eq_of_perm (distinct_empty.insertAll es) hheld.symm
  rw [← hsorted]
  constructor
  · rintro rfl
    exact isListOf_sorted es
  · exact fun h => h.unique (isListOf_sorted es)

end Ranking
end ControlSearch
