import Mathlib.Order.Bounds.Basic
import ControlSearch.Proofs.Regex.Run

/-!
# Where an expression occurs

The occurrences of an expression are told by the matches of its runs: every start of a match
has its least and its greatest end, and the starts ascend.
-/
namespace ControlSearch.Regex

/-! ## Ascending numbers -/

theorem head?_eq_some_iff_isLeast {ns : List Nat} (h : ns.Pairwise (· < ·)) {n : Nat} :
    ns.head? = some n ↔ IsLeast {m | m ∈ ns} n := by
  cases ns with
  | nil =>
      simp only [List.head?_nil, reduceCtorEq, false_iff]
      exact fun h => List.not_mem_nil h.1
  | cons a ns =>
      have hleast : IsLeast {m | m ∈ a :: ns} a := by
        refine ⟨List.mem_cons_self, ?_⟩
        intro m hm
        rcases List.mem_cons.mp hm with rfl | hm
        · exact Nat.le_refl _
        · exact Nat.le_of_lt ((List.pairwise_cons.mp h).1 m hm)
      rw [List.head?_cons, Option.some.injEq]
      constructor
      · intro h'
        subst h'
        exact hleast
      · exact fun h => hleast.unique h

theorem getLast?_eq_some_iff_isGreatest {ns : List Nat} (h : ns.Pairwise (· < ·)) {n : Nat} :
    ns.getLast? = some n ↔ IsGreatest {m | m ∈ ns} n := by
  rcases List.eq_nil_or_concat ns with rfl | ⟨front, a, rfl⟩
  · simp only [List.getLast?_nil, reduceCtorEq, false_iff]
    exact fun h => List.not_mem_nil h.1
  · rw [List.concat_eq_append] at h ⊢
    have hgreatest : IsGreatest {m | m ∈ front ++ [a]} a := by
      refine ⟨List.mem_append_right _ (List.mem_singleton_self a), ?_⟩
      intro m hm
      rcases List.mem_append.mp hm with hm | hm
      · exact Nat.le_of_lt
          ((List.pairwise_append.mp h).2.2 m hm a (List.mem_singleton_self a))
      · exact Nat.le_of_eq (List.mem_singleton.mp hm)
    rw [List.getLast?_append_cons, List.getLast?_singleton, Option.some.injEq]
    constructor
    · intro h'
      subst h'
      exact hgreatest
    · exact fun h => hgreatest.unique h

/-! ## Ends -/

theorem offset_le_of_mem_endsFrom {threads : List Regex} {offset e : Nat} {last : Option Char}
    {t : Text} (h : e ∈ endsFrom threads offset last t) : offset ≤ e := by
  obtain ⟨-, -, u, -, -, rfl, -⟩ := language_of_mem_endsFrom h
  omega

theorem pairwise_endsFrom (threads : List Regex) (offset : Nat)
    (last : Option Char) (t : Text) :
    (endsFrom threads offset last t).Pairwise (· < ·) := by
  induction t generalizing threads offset last with
  | nil =>
      rw [endsFrom]
      split
      · exact List.pairwise_singleton _ _
      · exact .nil
  | cons c t ih =>
      have hsize := c.utf8Size_pos
      rw [endsFrom_cons]
      refine List.pairwise_append.mpr ⟨?_, ih _ _ _, fun m hm e he => ?_⟩
      · split
        · exact List.pairwise_singleton _ _
        · exact .nil
      · split at hm
        · obtain rfl := List.mem_singleton.mp hm
          have := offset_le_of_mem_endsFrom he
          omega
        · simp at hm

theorem pairwise_ends (r : Regex) (b : Text.Boundary) : (r.ends b).Pairwise (· < ·) :=
  pairwise_endsFrom _ _ _ _

/-! ## Matches -/

/-- A run that starts at one offset of a text ends at another. -/
def Matches (r : Regex) (t : Text) (start stop : Nat) : Prop :=
  ∃ b ∈ t.boundaries, b.offset = start ∧ stop ∈ r.ends b

variable {r : Regex} {t : Text}

theorem occurrenceAt?_eq_some_iff {b : Text.Boundary} {o : Occurrence} :
    r.occurrenceAt? b = some o ↔ o.start = b.offset ∧
      IsLeast {e | e ∈ r.ends b} o.shortestStop ∧
      IsGreatest {e | e ∈ r.ends b} o.longestStop := by
  rw [← head?_eq_some_iff_isLeast (pairwise_ends r b),
    ← getLast?_eq_some_iff_isGreatest (pairwise_ends r b)]
  simp only [occurrenceAt?, shortestEnd?_eq_head?, longestEnd?, Option.pure_def,
    Option.bind_eq_bind, Option.bind_eq_some_iff, Option.some.injEq]
  constructor
  · intro h
    rcases h with ⟨m, hm, n, hn, rfl⟩
    exact ⟨rfl, hm, hn⟩
  · intro h
    rcases h with ⟨hstart, hm, hn⟩
    exact ⟨_, hm, _, hn, by rw [← hstart]⟩

/-- Boundaries are told apart by their offsets. -/
theorem boundary_unique {a b : Text.Boundary} (ha : a ∈ t.boundaries) (hb : b ∈ t.boundaries)
    (h : a.offset = b.offset) : a = b := by
  obtain ⟨u, hu, hua, hla⟩ := Text.mem_boundaries_iff.mp ha
  obtain ⟨v, hv, hvb, hlb⟩ := Text.mem_boundaries_iff.mp hb
  obtain ⟨rfl, hrest⟩ := Text.append_inj_of_size (hu.symm.trans hv) (by omega)
  cases a
  cases b
  simp_all

theorem matches_iff {b : Text.Boundary} (hb : b ∈ t.boundaries) {e : Nat} :
    r.Matches t b.offset e ↔ e ∈ r.ends b := by
  constructor
  · intro h
    rcases h with ⟨a, ha, hab, he⟩
    rwa [boundary_unique ha hb hab] at he
  · exact fun he => ⟨b, hb, rfl, he⟩

/-- An occurrence is a start with its least and its greatest end. -/
theorem mem_occurrences_iff {o : Occurrence} : o ∈ r.occurrences t ↔
    IsLeast {e | r.Matches t o.start e} o.shortestStop ∧
      IsGreatest {e | r.Matches t o.start e} o.longestStop := by
  rw [occurrences_eq, List.mem_filterMap]
  constructor
  · intro h
    rcases h with ⟨b, hb, ho⟩
    obtain ⟨hstart, hleast, hgreatest⟩ := occurrenceAt?_eq_some_iff.mp ho
    simp only [hstart, matches_iff hb]
    exact ⟨hleast, hgreatest⟩
  · intro h
    rcases h with ⟨hleast, hgreatest⟩
    obtain ⟨b, hb, hstart, -⟩ : r.Matches t o.start o.shortestStop := hleast.1
    refine ⟨b, hb, occurrenceAt?_eq_some_iff.mpr ⟨hstart.symm, ?_⟩⟩
    simp only [← hstart, matches_iff hb] at hleast hgreatest
    exact ⟨hleast, hgreatest⟩

/-- Every match starts with an occurrence. -/
theorem exists_occurrence {start stop : Nat} (h : r.Matches t start stop) :
    ∃ o ∈ r.occurrences t, o.start = start := by
  obtain ⟨b, hb, rfl, he⟩ := h
  obtain ⟨e, es, hes⟩ := List.exists_cons_of_ne_nil (List.ne_nil_of_mem he)
  have ho : ∃ o, r.occurrenceAt? b = some o := by
    simp [occurrenceAt?, shortestEnd?_eq_head?, longestEnd?, hes, List.getLast?_cons]
  obtain ⟨o, ho⟩ := ho
  rw [occurrences_eq]
  exact ⟨o, List.mem_filterMap.mpr ⟨b, hb, ho⟩, (occurrenceAt?_eq_some_iff.mp ho).1⟩

theorem pairwise_occurrences (r : Regex) (t : Text) :
    (r.occurrences t).Pairwise fun o o' => o.start < o'.start := by
  rw [occurrences_eq]
  refine (Text.pairwise_boundaries t).filterMap _ ?_
  intro a b hab o ho o' ho'
  rw [(occurrenceAt?_eq_some_iff.mp ho).1, (occurrenceAt?_eq_some_iff.mp ho').1]
  exact hab

theorem not_matches_of_occurrences_eq_nil (h : r.occurrences t = []) (start stop : Nat) :
    ¬r.Matches t start stop := by
  intro hm
  obtain ⟨o, ho, -⟩ := exists_occurrence hm
  rw [h] at ho
  exact List.not_mem_nil ho

/-- The first one listed from an offset on has the least start of those. -/
theorem isLeast_of_find?_occurrences {o : Occurrence} {n : Nat}
    (h : (r.occurrences t).find? (n ≤ ·.start) = some o) :
    IsLeast {start | n ≤ start ∧ ∃ stop, r.Matches t start stop} o.start := by
  obtain ⟨hn, front, back, hall, hfront⟩ := List.find?_eq_some_iff_append.mp h
  have hleast := (mem_occurrences_iff.mp (List.mem_of_find?_eq_some h)).1
  refine ⟨⟨of_decide_eq_true hn, o.shortestStop, hleast.1⟩, ?_⟩
  rintro start ⟨hstart, stop, hm⟩
  obtain ⟨o', ho', rfl⟩ := exists_occurrence hm
  have hsorted := pairwise_occurrences r t
  rw [hall] at ho' hsorted
  rcases List.mem_append.mp ho' with ho' | ho'
  · have hbefore := hfront o' ho'
    simp [hstart] at hbefore
  · rcases List.mem_cons.mp ho' with rfl | ho'
    · exact Nat.le_refl _
    · have hrest := (List.pairwise_append.mp hsorted).2.1
      exact Nat.le_of_lt (List.rel_of_pairwise_cons hrest ho')

/-- The last occurrence has the greatest start. -/
theorem isGreatest_of_getLast?_occurrences {o : Occurrence}
    (h : (r.occurrences t).getLast? = some o) :
    IsGreatest {start | ∃ stop, r.Matches t start stop} o.start := by
  have hstarts : ((r.occurrences t).map (·.start)).getLast? = some o.start := by
    rw [List.getLast?_map, h]
    rfl
  have hgreatest := (getLast?_eq_some_iff_isGreatest
    (List.pairwise_map.mpr (pairwise_occurrences r t))).mp hstarts
  refine ⟨?_, ?_⟩
  · have hleast := (mem_occurrences_iff.mp (List.mem_of_getLast? h)).1
    exact ⟨o.shortestStop, hleast.1⟩
  · intro start h'
    rcases h' with ⟨stop, hm⟩
    obtain ⟨o', ho', rfl⟩ := exists_occurrence hm
    exact hgreatest.2 (List.mem_map_of_mem ho')

/-- No match is wider than the widest of the longest ones. -/
theorem isGreatest_of_max?_occurrences {width : Nat}
    (h : ((r.occurrences t).map fun o => o.longestStop - o.start).max? = some width) :
    IsGreatest {n | ∃ start stop, r.Matches t start stop ∧ n = stop - start} width := by
  obtain ⟨hmem, hle⟩ := List.max?_eq_some_iff.mp h
  obtain ⟨o, ho, rfl⟩ := List.mem_map.mp hmem
  refine ⟨⟨o.start, o.longestStop, (mem_occurrences_iff.mp ho).2.1, rfl⟩, ?_⟩
  intro n h'
  rcases h' with ⟨start, stop, hm, rfl⟩
  obtain ⟨o', ho', rfl⟩ := exists_occurrence hm
  have hstop : stop ≤ o'.longestStop := (mem_occurrences_iff.mp ho').2.2 hm
  have hwidth := hle _ (List.mem_map_of_mem ho')
  omega

end ControlSearch.Regex
