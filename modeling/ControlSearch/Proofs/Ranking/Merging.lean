import ControlSearch.Proofs.Ranking.Insertions

/-!
# Merged rankings

A ranking that is merged into another one has dropped entries and lost their order. Neither is
missed: of the entries of one element that come later only the first best one can take the
place of what is kept. So entries may be divided among rankings that are merged in the end,
and each element keeps the entry that it would have kept without the division.
-/
namespace ControlSearch

variable {xs ys zs es es' : List Entry}

/-- The first best of one entry, if there is one, is this entry. -/
theorem argmin_toList (o : Option Entry) : o.toList.argmin Entry.cost = o := by
  cases o with
  | none => rfl
  | some e => exact List.argmin_singleton

/-- Of entries that come later, only the first best one matters. -/
theorem keepAll_argmin (old : Option Entry) (es : List Entry) :
    keepAll old (es.argmin Entry.cost).toList = keepAll old es := by
  cases old with
  | none => rw [keepAll_none, keepAll_none, argmin_toList]
  | some k =>
      rw [keepAll_some, keepAll_some, List.argmin_cons, List.argmin_cons, argmin_toList]

theorem keepAll_append (old : Option Entry) (es es' : List Entry) :
    keepAll old (es ++ es') = keepAll (keepAll old es) es' := List.foldl_append

/-- The least cost among entries does not depend on their order. -/
theorem map_cost_argmin_of_perm (h : es.Perm es') :
    (es.argmin Entry.cost).map Entry.cost = (es'.argmin Entry.cost).map Entry.cost := by
  cases hmin : es.argmin Entry.cost with
  | none =>
      obtain rfl := List.argmin_eq_none.mp hmin
      rw [List.nil_perm.mp h]
      rfl
  | some a =>
      have ha : a ∈ es := List.argmin_mem hmin
      cases hmin' : es'.argmin Entry.cost with
      | none =>
          rw [List.argmin_eq_none.mp hmin'] at h
          rw [List.perm_nil.mp h] at ha
          cases ha
      | some b =>
          have hb : b ∈ es' := List.argmin_mem hmin'
          have hab : a.cost ≤ b.cost := List.le_of_mem_argmin (h.mem_iff.mpr hb) hmin
          have hba : b.cost ≤ a.cost := List.le_of_mem_argmin (h.mem_iff.mp ha) hmin'
          exact congrArg some (hab.antisymm hba)

namespace Ranking

variable {r s t u : Ranking}

/-- A ranking has no entry for an element but the one that it holds. -/
theorem filter_entries (h : r.Distinct) (x : ElementId) :
    r.entries.filter (·.element = x) = (r.find? x).toList := by
  have hhead : (r.entries.filter (·.element = x)).head? = r.find? x := List.head?_filter
  have hown : ∀ k ∈ r.entries.filter (·.element = x), k.element = x :=
    fun k hk => of_decide_eq_true (List.mem_filter.mp hk).2
  have hdistinct : ((r.entries.filter (·.element = x)).map (·.element)).Nodup :=
    h.sublist (List.filter_sublist.map _)
  rw [← hhead]
  cases hentries : r.entries.filter (·.element = x) with
  | nil => rfl
  | cons k rest =>
      rw [hentries] at hown hdistinct
      cases rest with
      | nil => rfl
      | cons k' rest =>
          have hsame : k.element = k'.element :=
            (hown k List.mem_cons_self).trans (hown k' (by simp)).symm
          simp [hsame] at hdistinct

/-- What is kept of a merge is the better one of two entries, and the one that was there if
neither is. -/
theorem find?_merge (r : Ranking) (hs : s.Distinct) (x : ElementId) :
    (r.merge s).find? x = keepAll (r.find? x) (s.find? x).toList := by
  rw [merge, find?_insertAll, filter_entries hs]

/-- A ranking into which entries have gone, in this order: one by one, or with a ranking that
was merged into it. The order in which the ranking holds what it has kept may be any. -/
inductive Gathers : List Entry → Ranking → Prop
  | empty : Gathers [] .empty
  | insert {es : List Entry} {r : Ranking} (e : Entry) : Gathers es r →
        Gathers (es ++ [e]) (r.insert e)
  | merge {xs ys : List Entry} {r s : Ranking} : Gathers xs r → Gathers ys s →
      Gathers (xs ++ ys) (r.merge s)
  | reorder {es : List Entry} {r s : Ranking} : Gathers es r →
        s.entries.Perm r.entries → Gathers es s

/-- Reordering what is held changes nothing that is found. -/
theorem find?_eq_of_perm (hr : r.Distinct) (h : s.entries.Perm r.entries) (x : ElementId) :
    s.find? x = r.find? x := by
  have hs : s.Distinct := (h.map _).nodup_iff.mpr hr
  have hfilter := h.filter (·.element = x)
  rw [filter_entries hs, filter_entries hr] at hfilter
  cases hfind : r.find? x with
  | none => simpa [hfind] using hfilter
  | some e => simpa [hfind, Option.toList_eq_singleton_iff] using hfilter

/-- A ranking holds the first best entry of all that have gone into it, once for each
element. -/
theorem Gathers.keeps (h : Gathers es r) :
    r.Distinct ∧ ∀ x, r.find? x = (es.filter (·.element = x)).argmin Entry.cost := by
  induction h with
  | empty => exact ⟨distinct_empty, fun _ => rfl⟩
  | insert e _ ih =>
      obtain ⟨hdistinct, hkept⟩ := ih
      refine ⟨hdistinct.insert e, fun x => ?_⟩
      rw [find?_insert, hkept, List.filter_append, ← keepAll_none, ← keepAll_none,
        keepAll_append]
      by_cases hx : e.element = x
      · simp [hx]
      · simp [hx]
  | merge _ _ ih ih' =>
      -- Of what has gone into the second ranking only the first best entry is left, and no
      -- other is needed.
      obtain ⟨hdistinct, hkept⟩ := ih
      obtain ⟨hdistinct', hkept'⟩ := ih'
      refine ⟨hdistinct.insertAll _, fun x => ?_⟩
      rw [find?_merge _ hdistinct', hkept, hkept', keepAll_argmin, List.filter_append,
        ← keepAll_none, ← keepAll_none, keepAll_append]
  | reorder _ hperm ih =>
      obtain ⟨hdistinct, hkept⟩ := ih
      refine ⟨(hperm.map _).nodup_iff.mpr hdistinct, fun x => ?_⟩
      rw [find?_eq_of_perm hdistinct hperm, hkept]

theorem gathers_insertAll (es : List Entry) : Gathers es (empty.insertAll es) := by
  induction es using List.reverseRecOn with
  | nil => exact .empty
  | append_singleton es e ih =>
      rw [insertAll, List.foldl_append]
      exact .insert e ih

/-- Rankings into which the same entries have gone in the same order hold the same entries. -/
theorem Gathers.find?_eq (h : Gathers es r) (h' : Gathers es s) (x : ElementId) :
    r.find? x = s.find? x := by
  rw [h.keeps.2, h'.keeps.2]

/-- To merge a ranking is to insert what has gone into it, behind what has gone into the other
one. So it does not matter which rankings are merged first, in what order a ranking is walked,
or, but for the choice among equally good entries, how entries are divided among rankings. -/
theorem merge_as_insertions (hr : Gathers xs r) (hs : Gathers ys s) (ht : Gathers zs t) :
    (∀ x, (r.merge s).find? x = (empty.insertAll (xs ++ ys)).find? x) ∧
    (r.merge s).sorted = (empty.insertAll (xs ++ ys)).sorted ∧
    (∀ u, u.entries.Perm (s.merge t).entries →
      ∀ x, ((r.merge s).merge t).find? x = (r.merge u).find? x) ∧
    ∀ es u, Gathers es u → es.Perm (xs ++ ys) →
      ∀ x, (u.find? x).map Entry.cost = ((r.merge s).find? x).map Entry.cost := by
  have hmerged : Gathers (xs ++ ys) (r.merge s) := hr.merge hs
  have hinserted := gathers_insertAll (xs ++ ys)
  refine ⟨hmerged.find?_eq hinserted, ?_, ?_, ?_⟩
  · have hperm :=
      perm_of_find?_eq hmerged.keeps.1 hinserted.keeps.1 (hmerged.find?_eq hinserted)
    exact sorted_eq_of_perm hmerged.keeps.1 hperm
  · intro u hu
    have hright : Gathers (xs ++ (ys ++ zs)) (r.merge u) :=
      hr.merge ((hs.merge ht).reorder hu)
    rw [← List.append_assoc] at hright
    exact (hmerged.merge ht).find?_eq hright
  · intro es u hu hperm x
    rw [hu.keeps.2, hmerged.keeps.2]
    exact map_cost_argmin_of_perm (hperm.filter _)

/-- Of two equally good entries the one that went in first is kept, and the ranking of the
other one, which is walked from its end, brings in its second entry. -/
theorem merge_as_insertions_tie :
    ∃ first tie other : Entry, first ≠ tie ∧ first.cost = tie.cost ∧
    Gathers [first] (empty.insertAll [first]) ∧ Gathers [tie, other] ⟨[other, tie]⟩ ∧
    ((empty.insertAll [first]).merge ⟨[other, tie]⟩).find? 7 = some first ∧
    ((empty.insertAll [first]).merge ⟨[other, tie]⟩).find? 8 = some other := by
  let first : Entry := ⟨7, .name, 3, 3, [0], 0⟩
  let tie : Entry := ⟨7, .id, 3, 3, [0], 0⟩
  let other : Entry := ⟨8, .id, 1, 5, [1], 1⟩
  have hs : Gathers [tie, other] ⟨[other, tie]⟩ :=
    (gathers_insertAll [tie, other]).reorder (.swap tie other [])
  obtain ⟨hfind, -⟩ := merge_as_insertions (gathers_insertAll [first]) hs .empty
  refine ⟨first, tie, other, by decide, rfl, gathers_insertAll _, hs, ?_, ?_⟩
  · rw [hfind 7]
    decide
  · rw [hfind 8]
    decide

end Ranking
end ControlSearch
