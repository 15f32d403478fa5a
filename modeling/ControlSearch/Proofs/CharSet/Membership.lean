import Mathlib.Data.List.Basic
import ControlSearch.CharSet

/-!
# Membership in sets of characters

What the operations on sets do to their members. A set is proper when its intervals ascend and
do not meet; every set that is built by uniting intervals is, and on proper sets complements
are what they are called.
-/
namespace ControlSearch

namespace Interval

/-- Whether a code point lies in one of some intervals. -/
def Covers (rs : List Interval) (n : Nat) : Prop := ∃ r ∈ rs, r.first ≤ n ∧ n ≤ r.last

@[simp] theorem covers_nil (n : Nat) : ¬Covers [] n := by simp [Covers]

@[simp] theorem covers_cons (r : Interval) (rs : List Interval) (n : Nat) :
    Covers (r :: rs) n ↔ (r.first ≤ n ∧ n ≤ r.last) ∨ Covers rs n := by simp [Covers]

@[simp] theorem covers_append (rs ss : List Interval) (n : Nat) :
    Covers (rs ++ ss) n ↔ Covers rs n ∨ Covers ss n := by
  simp only [Covers, List.mem_append, or_and_right, exists_or]

theorem covers_flatMap {α : Type} (f : α → List Interval) (xs : List α) (n : Nat) :
    Covers (xs.flatMap f) n ↔ ∃ x ∈ xs, Covers (f x) n := by
  simp only [Covers, List.mem_flatMap]
  constructor
  · intro h
    rcases h with ⟨r, ⟨x, hx, hr⟩, hn⟩
    exact ⟨x, hx, r, hr, hn⟩
  · intro h
    rcases h with ⟨x, hx, r, hr, hn⟩
    exact ⟨r, ⟨x, hx, hr⟩, hn⟩

theorem any_contains_iff (rs : List Interval) (n : Nat) :
    rs.any (·.contains n) = true ↔ Covers rs n := by
  simp [Covers, contains]

/-- The parts on either side of the surrogates hold the code points that are characters. -/
theorem covers_scalars (r : Interval) (n : Nat) :
    Covers r.scalars n ↔ (r.first ≤ n ∧ n ≤ r.last) ∧ n.isValidChar := by
  simp only [scalars, covers_append, Nat.isValidChar]
  split <;> split <;> simp <;> omega

theorem first_le_last_of_mem_scalars {r s : Interval} (h : s ∈ r.scalars) :
    s.first ≤ s.last := by
  simp only [scalars, List.mem_append] at h
  rcases h with h | h
  · split at h
    · simp only [List.mem_singleton] at h
      subst h
      assumption
    · simp at h
  · split at h
    · simp only [List.mem_singleton] at h
      subst h
      assumption
    · simp at h

/-! ## Uniting -/

/-- Intervals in ascending order that have members and do not meet. -/
structure Apart (rs : List Interval) : Prop where
  first_le_last : ∀ r ∈ rs, r.first ≤ r.last
  pairwise : rs.Pairwise fun r s => r.last < s.first

theorem Apart.tail {r : Interval} {rs : List Interval} (h : Apart (r :: rs)) : Apart rs :=
  ⟨fun s hs => h.first_le_last s (List.mem_cons_of_mem _ hs),
    (List.pairwise_cons.mp h.pairwise).2⟩

theorem covers_unite {rs : List Interval}
    (h : rs.Pairwise fun r s => r.first ≤ s.first) (n : Nat) :
    Covers (unite rs) n ↔ Covers rs n := by
  fun_induction unite rs with
  | case1 => rfl
  | case2 r => rfl
  | case3 r s rest hle ih =>
      have hrs : r.first ≤ s.first := (List.pairwise_cons.mp h).1 s List.mem_cons_self
      rw [ih]
      · simp only [covers_cons]
        grind
      · simp only [List.pairwise_cons, List.mem_cons, forall_eq_or_imp] at h ⊢
        exact ⟨h.1.2, h.2.2⟩
  | case4 r s rest hlt ih =>
      rw [covers_cons, ih (List.pairwise_cons.mp h).2, ← covers_cons]

/-- Uniting ordered intervals with members leaves intervals that do not meet. The first one
begins where the first of the old ones did. -/
theorem apart_unite {rs : List Interval} (h : rs.Pairwise fun r s => r.first ≤ s.first)
    (hm : ∀ r ∈ rs, r.first ≤ r.last) :
    Apart (unite rs) ∧ ∀ m, (∀ r ∈ rs, m ≤ r.first) → ∀ r ∈ unite rs, m ≤ r.first := by
  fun_induction unite rs with
  | case1 => exact ⟨⟨by simp, List.Pairwise.nil⟩, by simp⟩
  | case2 r => exact ⟨⟨hm, List.pairwise_singleton _ _⟩, fun m hr => hr⟩
  | case3 r s rest hle ih =>
      simp only [List.pairwise_cons, List.mem_cons, forall_eq_or_imp] at h hm ih
      obtain ⟨hap, hlow⟩ := ih ⟨h.1.2, h.2.2⟩ ⟨by omega, hm.2.2⟩
      exact ⟨hap, fun m hr => hlow m ⟨hr r (by simp), fun a ha => hr a (by simp [ha])⟩⟩
  | case4 r s rest hlt ih =>
      have hs := List.pairwise_cons.mp h
      obtain ⟨hap, hlow⟩ := ih hs.2 fun a ha => hm a (List.mem_cons_of_mem _ ha)
      -- All that is left begins at `s` or behind it, and so behind `r`.
      have hbehind : ∀ a ∈ unite (s :: rest), r.last < a.first := by
        intro a ha
        have := hlow s.first (by simpa using (List.pairwise_cons.mp hs.2).1) a ha
        omega
      refine ⟨⟨?_, List.pairwise_cons.mpr ⟨hbehind, hap.pairwise⟩⟩, ?_⟩
      · intro a ha
        rcases List.mem_cons.mp ha with rfl | ha
        · exact hm _ List.mem_cons_self
        · exact hap.first_le_last a ha
      · intro m hr a ha
        rcases List.mem_cons.mp ha with rfl | ha
        · exact hr _ List.mem_cons_self
        · exact hlow m (fun b hb => hr b (List.mem_cons_of_mem _ hb)) a ha

/-! ## Gaps -/

theorem covers_gaps {rs : List Interval} (h : Apart rs) {start n : Nat}
    (hstart : ∀ r ∈ rs, start ≤ r.first) (hn : n ≤ 0x10FFFF) :
    Covers (gaps start rs) n ↔ start ≤ n ∧ ¬Covers rs n := by
  induction rs generalizing start with
  | nil =>
      simp only [gaps]
      split <;> simp <;> omega
  | cons r rs ih =>
      have hr := h.first_le_last r List.mem_cons_self
      have hs := hstart r List.mem_cons_self
      have hnext : ∀ s ∈ rs, r.last + 1 ≤ s.first := (List.pairwise_cons.mp h.pairwise).1
      have hlow : n ≤ r.last → ¬Covers rs n := by
        intro hle h'
        rcases h' with ⟨s, hs, hf, -⟩
        have := hnext s hs
        omega
      rw [gaps, covers_append, ih h.tail hnext, covers_cons]
      split <;> simp only [covers_cons, covers_nil, or_false, false_or] <;> grind

end Interval

namespace CharSet

open ControlSearch.Interval

theorem contains_iff (s : CharSet) (c : Char) :
    s.contains c = true ↔ Covers s.intervals c.toNat := any_contains_iff _ _

/-- The intervals of the set ascend, do not meet, and hold no surrogate. -/
structure Proper (s : CharSet) : Prop where
  apart : Apart s.intervals
  isValidChar : ∀ n, Covers s.intervals n → n.isValidChar

theorem pairwise_sorted (rs : List Interval) :
    (rs.mergeSort fun r s => r.first ≤ s.first).Pairwise fun r s => r.first ≤ s.first := by
  have h := @List.pairwise_mergeSort _ (fun r s : Interval => decide (r.first ≤ s.first))
    (by simp; omega) (by simp; omega) rs
  simpa using h

/-- A set built from intervals, however they come, holds the characters in them. -/
theorem covers_ofIntervals (rs : List Interval) (n : Nat) :
    Covers (ofIntervals rs).intervals n ↔ Covers rs n ∧ n.isValidChar := by
  have hsorted : Covers (ofIntervals rs).intervals n ↔
      Covers (rs.flatMap Interval.scalars) n := by
    rw [ofIntervals, covers_unite (pairwise_sorted _)]
    simp only [Covers, List.mem_mergeSort]
  rw [hsorted, covers_flatMap]
  simp only [covers_scalars]
  constructor
  · intro h
    rcases h with ⟨r, hr, hn, hv⟩
    exact ⟨⟨r, hr, hn⟩, hv⟩
  · intro h
    rcases h with ⟨⟨r, hr, hn⟩, hv⟩
    exact ⟨r, hr, hn, hv⟩

theorem contains_ofIntervals (rs : List Interval) (c : Char) :
    (ofIntervals rs).contains c = true ↔ Covers rs c.toNat := by
  rw [contains_iff, covers_ofIntervals]
  exact and_iff_left c.valid

theorem proper_ofIntervals (rs : List Interval) : (ofIntervals rs).Proper := by
  refine ⟨(apart_unite (pairwise_sorted _) fun s hs => ?_).1, fun n hn => ?_⟩
  · obtain ⟨r, -, hs⟩ := List.mem_flatMap.mp (List.mem_mergeSort.mp hs)
    exact first_le_last_of_mem_scalars hs
  · exact ((covers_ofIntervals rs n).mp hn).2

theorem proper_ofTable (table : String) : (ofTable table).Proper := proper_ofIntervals _

theorem proper_empty : empty.Proper :=
  ⟨⟨by simp [empty], List.Pairwise.nil⟩, fun n hn => absurd hn (covers_nil n)⟩

theorem proper_singleton (c : Char) : (singleton c).Proper := by
  refine ⟨⟨by simp [singleton], List.pairwise_singleton _ _⟩, ?_⟩
  intro n hn
  have hn : c.toNat ≤ n ∧ n ≤ c.toNat := by simpa [singleton] using hn
  obtain rfl : c.toNat = n := by omega
  exact c.valid

theorem proper_all : all.Proper := by
  refine ⟨⟨by simp [all], by simp [all]⟩, ?_⟩
  intro n hn
  simp only [all, covers_cons, covers_nil, or_false] at hn
  simp only [Nat.isValidChar]
  omega

/-! ## Operations -/

theorem contains_union (s t : CharSet) (c : Char) :
    (s.union t).contains c = true ↔ s.contains c = true ∨ t.contains c = true := by
  rw [union, contains_ofIntervals, covers_append, contains_iff, contains_iff]

theorem contains_complement {s : CharSet} (h : s.Proper) (c : Char) :
    s.complement.contains c = true ↔ ¬s.contains c = true := by
  have hc : c.toNat ≤ 0x10FFFF := by
    have hv : c.toNat.isValidChar := c.valid
    simp only [Nat.isValidChar] at hv
    omega
  rw [complement, contains_ofIntervals,
    covers_gaps h.apart (fun _ _ => Nat.zero_le _) hc, contains_iff]
  simp

theorem proper_union (s t : CharSet) : (s.union t).Proper := proper_ofIntervals _

theorem proper_complement (s : CharSet) : s.complement.Proper := proper_ofIntervals _

theorem contains_intersection {s t : CharSet} (hs : s.Proper) (ht : t.Proper) (c : Char) :
    (s.intersection t).contains c = true ↔ s.contains c = true ∧ t.contains c = true := by
  rw [intersection, contains_complement (proper_union _ _), contains_union,
    contains_complement hs, contains_complement ht]
  tauto

theorem contains_difference {s t : CharSet} (hs : s.Proper) (ht : t.Proper) (c : Char) :
    (s.difference t).contains c = true ↔ s.contains c = true ∧ ¬t.contains c = true := by
  rw [difference, contains_intersection hs (proper_complement t), contains_complement ht]

theorem contains_symmetricDifference {s t : CharSet} (hs : s.Proper)
    (ht : t.Proper) (c : Char) :
    (s.symmetricDifference t).contains c = true ↔
      ¬(s.contains c = true ↔ t.contains c = true) := by
  rw [symmetricDifference, contains_union, contains_difference hs ht,
    contains_difference ht hs]
  tauto

/-! ## Sizes -/

theorem width_toNat (c : Char) : width c.toNat = c.utf8Size := by
  simp only [width, Char.utf8Size, Char.toNat, UInt32.le_iff_toNat_le]
  grind

theorem width_pos (n : Nat) : 0 < width n := by grind [width]

theorem width_mono {m n : Nat} (h : m ≤ n) : width m ≤ width n := by grind [width]

/-- The least size of a proper set is a lower bound for the sizes of its members. -/
theorem minSize?_le {s : CharSet} (h : s.Proper) {c : Char} (hc : s.contains c = true) :
    ∃ n, s.minSize? = some n ∧ n ≤ c.utf8Size := by
  obtain ⟨r, hr, hle, -⟩ := (contains_iff s c).mp hc
  obtain ⟨rs⟩ := s
  cases rs with
  | nil => simp at hr
  | cons f rs =>
      refine ⟨width f.first, rfl, ?_⟩
      rw [← width_toNat c]
      apply width_mono
      rcases List.mem_cons.mp hr with rfl | hr
      · exact hle
      · have hf : f.first ≤ f.last := h.apart.first_le_last f List.mem_cons_self
        have hlt : f.last < r.first := (List.pairwise_cons.mp h.apart.pairwise).1 r hr
        omega

theorem minSize?_eq_none_iff {s : CharSet} : s.minSize? = none ↔ s.isEmpty = true := by
  simp [minSize?, isEmpty]

end CharSet
end ControlSearch
