import Mathlib.Data.List.Basic
import ControlSearch.Text

/-!
# Boundaries and slices

A boundary of a text is a way to cut it in two. Its offset is the size of the part in front,
so the boundaries of a text, taken from left to right, have ascending offsets, and an offset
belongs to one of them at most. Slices are what lies between two cuts.
-/
namespace ControlSearch.Text

@[simp] theorem size_eq_zero_iff {t : Text} : t.size = 0 ↔ t = [] := by
  cases t with
  | nil => simp
  | cons c t =>
      have := c.utf8Size_pos
      simp only [size_cons, reduceCtorEq, iff_false]
      omega

/-- The character in front of a place, where a part of the text lies between. -/
theorem getLast?_cons_or (c : Char) (u : Text) (last : Option Char) :
    (c :: u).getLast?.or last = u.getLast?.or (some c) := by
  rw [List.getLast?_cons]
  cases u.getLast? <;> rfl

/-- The character behind a place, where two parts of the text follow it. -/
theorem head?_append_or (u v : Text) (next : Option Char) :
    (u ++ v).head?.or next = u.head?.or (v.head?.or next) := by
  rw [List.head?_append, Option.or_assoc]

/-- A part that is as big as the whole leaves nothing. -/
theorem eq_nil_of_size_append_le {u v : Text} (h : (u ++ v).size ≤ u.size) : v = [] := by
  rw [size_append] at h
  exact size_eq_zero_iff.mp (by omega)

/-- Beginnings of one text are equal as soon as they have the same size. -/
theorem append_inj_of_size {u u' v v' : Text} (h : u ++ v = u' ++ v')
    (hs : u.size = u'.size) :
    u = u' ∧ v = v' := by
  induction u generalizing u' with
  | nil =>
      have hu' : u' = [] := size_eq_zero_iff.mp hs.symm
      subst hu'
      exact ⟨rfl, h⟩
  | cons c u ih =>
      cases u' with
      | nil => exact absurd (size_eq_zero_iff.mp hs) (by simp)
      | cons d u' =>
          simp only [List.cons_append, List.cons.injEq] at h
          obtain ⟨rfl, h⟩ := h
          obtain ⟨rfl, rfl⟩ := ih h (by simpa using hs)
          exact ⟨rfl, rfl⟩

/-! ## Slices -/

theorem splitAt?_eq_some_iff {t u v : Text} {n : Nat} :
    t.splitAt? n = some (u, v) ↔ t = u ++ v ∧ u.size = n := by
  fun_induction splitAt? t n generalizing u with
  | case1 t =>
      simp only [Option.some.injEq, Prod.mk.injEq, size_eq_zero_iff]
      constructor
      · intro h'
        rcases h' with ⟨rfl, rfl⟩
        exact ⟨rfl, rfl⟩
      · intro h'
        rcases h' with ⟨h, rfl⟩
        exact ⟨rfl, h⟩
  | case2 n =>
      simp only [reduceCtorEq, false_iff, not_and]
      intro h hs
      obtain ⟨rfl, -⟩ := List.append_eq_nil_iff.mp h.symm
      simp at hs
  | case3 n c t hc ih =>
      constructor
      · intro h
        obtain ⟨⟨u', v'⟩, hs, he⟩ := Option.map_eq_some_iff.mp h
        obtain ⟨rfl, rfl⟩ := Prod.mk.injEq .. ▸ he
        obtain ⟨rfl, hn⟩ := ih.mp hs
        exact ⟨rfl, by simp only [size_cons]; omega⟩
      · intro h'
        rcases h' with ⟨h, hs⟩
        cases u with
        | nil => simp at hs
        | cons d u =>
            simp only [List.cons_append, List.cons.injEq] at h
            obtain ⟨rfl, h⟩ := h
            simp only [size_cons] at hs
            rw [ih.mpr ⟨h, by omega⟩]
            rfl
  | case4 n c t hc =>
      simp only [reduceCtorEq, false_iff, not_and]
      intro h hs
      cases u with
      | nil => simp at hs
      | cons d u =>
          simp only [List.cons_append, List.cons.injEq] at h
          obtain ⟨rfl, h⟩ := h
          simp only [size_cons] at hs
          omega

theorem drop?_eq_some_iff {t v : Text} {n : Nat} :
    t.drop? n = some v ↔ ∃ u, t = u ++ v ∧ u.size = n := by
  simp only [drop?, Option.map_eq_some_iff, Prod.exists, splitAt?_eq_some_iff]
  constructor
  · intro h'
    rcases h' with ⟨u, _, h, rfl⟩
    exact ⟨u, h⟩
  · intro h'
    rcases h' with ⟨u, h⟩
    exact ⟨u, v, h, rfl⟩

theorem take?_eq_some_iff {t u : Text} {n : Nat} :
    t.take? n = some u ↔ ∃ v, t = u ++ v ∧ u.size = n := by
  simp only [take?, Option.map_eq_some_iff, Prod.exists, splitAt?_eq_some_iff]
  constructor
  · intro h'
    rcases h' with ⟨_, v, h, rfl⟩
    exact ⟨v, h⟩
  · intro h'
    rcases h' with ⟨v, h⟩
    exact ⟨u, v, h, rfl⟩

/-- A slice is what lies between a part in front of its start and a part behind its end. -/
theorem slice?_eq_some_iff {t u : Text} {start stop : Nat} :
    t.slice? start stop = some u ↔
      ∃ v w, t = v ++ (u ++ w) ∧ v.size = start ∧ start + u.size = stop := by
  simp only [slice?]
  split
  · simp only [Option.bind_eq_some_iff, drop?_eq_some_iff, take?_eq_some_iff]
    constructor
    · intro h'
      rcases h' with ⟨_, ⟨v, rfl, rfl⟩, w, rfl, hu⟩
      exact ⟨v, w, rfl, rfl, by omega⟩
    · intro h'
      rcases h' with ⟨v, w, rfl, rfl, rfl⟩
      exact ⟨_, ⟨v, rfl, rfl⟩, w, rfl, by omega⟩
  · simp only [reduceCtorEq, false_iff, not_exists]
    intro v w h'
    rcases h' with ⟨-, -, h⟩
    omega

/-- A slice up to the end is all that lies behind its start. -/
theorem slice?_size (t : Text) (start : Nat) : t.slice? start t.size = t.drop? start := by
  ext u
  rw [slice?_eq_some_iff, drop?_eq_some_iff]
  constructor
  · rintro ⟨v, w, ht, rfl, hsize⟩
    rw [ht] at hsize
    simp only [size_append] at hsize
    obtain rfl : w = [] := size_eq_zero_iff.mp (by omega)
    exact ⟨v, by simpa using ht, rfl⟩
  · rintro ⟨v, rfl, rfl⟩
    exact ⟨v, [], by simp, rfl, (size_append v u).symm⟩

/-! ## Boundaries -/

/-- A boundary cuts a text in two; its offset and its last character are those of the part in
front. -/
theorem mem_boundariesFrom_iff {b : Boundary} {offset : Nat} {last : Option Char} {t : Text} :
    b ∈ boundariesFrom offset last t ↔
      ∃ u, t = u ++ b.rest ∧ b.offset = offset + u.size ∧ b.last = u.getLast?.or last := by
  induction t generalizing offset last with
  | nil =>
      obtain ⟨o, l, r⟩ := b
      simp only [boundariesFrom, List.mem_singleton, Boundary.mk.injEq]
      constructor
      · intro h'
        rcases h' with ⟨rfl, rfl, rfl⟩
        exact ⟨[], by simp⟩
      · intro h'
        rcases h' with ⟨u, h, ho, hl⟩
        obtain ⟨rfl, rfl⟩ := List.append_eq_nil_iff.mp h.symm
        exact ⟨by simpa using ho, by simpa using hl, rfl⟩
  | cons c t ih =>
      obtain ⟨o, l, r⟩ := b
      simp only [boundariesFrom, List.mem_cons, Boundary.mk.injEq, ih]
      constructor
      · intro h'
        rcases h' with ⟨rfl, rfl, rfl⟩ | ⟨u, h, ho, hl⟩
        · exact ⟨[], by simp⟩
        · refine ⟨c :: u, by simp [h], by simp only [size_cons]; omega, ?_⟩
          rw [hl, getLast?_cons_or]
      · intro h'
        rcases h' with ⟨u, h, ho, hl⟩
        cases u with
        | nil => exact .inl ⟨by simpa using ho, by simpa using hl, by simpa using h.symm⟩
        | cons d u =>
            simp only [List.cons_append, List.cons.injEq] at h
            obtain ⟨rfl, h⟩ := h
            refine .inr ⟨u, h, by simp only [size_cons] at ho; omega, ?_⟩
            rw [hl, getLast?_cons_or]

theorem mem_boundaries_iff {b : Boundary} {t : Text} :
    b ∈ t.boundaries ↔ ∃ u, t = u ++ b.rest ∧ b.offset = u.size ∧ b.last = u.getLast? := by
  simp [boundaries, mem_boundariesFrom_iff]

theorem offset_le_of_mem_boundariesFrom {b : Boundary} {offset : Nat} {last : Option Char}
    {t : Text} (h : b ∈ boundariesFrom offset last t) :
    offset ≤ b.offset ∧ b.offset + b.rest.size = offset + t.size := by
  obtain ⟨u, rfl, ho, -⟩ := mem_boundariesFrom_iff.mp h
  simp only [size_append]
  omega

theorem pairwise_boundariesFrom (offset : Nat) (last : Option Char) (t : Text) :
    (boundariesFrom offset last t).Pairwise fun a b => a.offset < b.offset := by
  induction t generalizing offset last with
  | nil => exact List.pairwise_singleton _ _
  | cons c t ih =>
      refine List.pairwise_cons.mpr ⟨?_, ih _ _⟩
      intro b hb
      have := offset_le_of_mem_boundariesFrom hb
      have := c.utf8Size_pos
      simp only
      omega

/-- From left to right, the offsets of the boundaries ascend. -/
theorem pairwise_boundaries (t : Text) :
    t.boundaries.Pairwise fun a b => a.offset < b.offset := pairwise_boundariesFrom 0 none t

/-! ## Parts of a text -/

variable {t u : Text} {start stop : Nat}

theorem subset_of_take? (h : t.take? stop = some u) : u ⊆ t := by
  obtain ⟨w, rfl, -⟩ := take?_eq_some_iff.mp h
  exact List.subset_append_left u w

theorem subset_of_slice? (h : t.slice? start stop = some u) : u ⊆ t := by
  obtain ⟨v, w, rfl, -⟩ := slice?_eq_some_iff.mp h
  exact List.Subset.trans (List.subset_append_left u w) (List.subset_append_right v _)

theorem trimEnd_subset (t : Text) : t.trimEnd ⊆ t := by
  intro c hc
  have hc := (List.dropWhile_sublist _).subset (List.mem_reverse.mp hc)
  exact List.mem_reverse.mp hc

end ControlSearch.Text
