import Mathlib.Data.List.Chain
import ControlSearch.Page.RunningText
import ControlSearch.Proofs.Text.Boundary

/-!
# Tidy texts

Running text has no blanks but plain ones, none of them in front and no two in a row. So where
it ends with a blank, cutting that one off is the same as trimming.
-/
namespace ControlSearch.RunningText

/-- Two neighbours that are not both plain blanks. -/
def NotBothBlank (c d : Char) : Prop := c = ' ' → d ≠ ' '

/-- Blanks are plain and single, and none is in front. -/
structure IsTidy (t : Text) : Prop where
  plain : ∀ c ∈ t, Text.isBlank c = true → c = ' '
  /-- A blank in front would be one of two in a row behind another blank. -/
  apart : (' ' :: t).IsChain NotBothBlank

variable {t u : Text} {c : Char}

theorem ne_blank_of_not_isBlank (h : Text.isBlank c = false) : c ≠ ' ' := by
  rintro rfl
  exact absurd h (by decide)

theorem endsBlank_concat (t : Text) (c : Char) : endsBlank (t ++ [c]) = (c == ' ') := by
  simp [endsBlank]

/-! ## What appending preserves -/

theorem isTidy_nil : IsTidy [] := ⟨by simp, .singleton _⟩

/-- A text stays tidy if what is appended goes with its last character. -/
theorem IsTidy.append (h : IsTidy t) (hplain : ∀ c ∈ u, Text.isBlank c = true → c = ' ')
    (hu : ∀ c, (c = ' ' → endsBlank t = true) → (c :: u).IsChain NotBothBlank) :
    IsTidy (t ++ u) := by
  constructor
  · intro c hc
    rcases List.mem_append.mp hc with hc | hc
    · exact h.plain c hc
    · exact hplain c hc
  · rcases List.eq_nil_or_concat t with rfl | ⟨front, last, rfl⟩
    · exact hu ' ' fun _ => rfl
    · have hlast : (last :: u).IsChain NotBothBlank := by
        refine hu last fun hblank => ?_
        simp [List.concat_eq_append, endsBlank_concat, hblank]
      have hfront := h.apart
      simp only [List.concat_eq_append, List.append_assoc, List.singleton_append] at hfront ⊢
      rw [← List.cons_append] at hfront ⊢
      exact List.isChain_split.mpr ⟨hfront, hlast⟩

theorem plain_of_mem_collapse {blank : Bool} (h : c ∈ collapse blank t)
    (hc : Text.isBlank c = true) : c = ' ' := by
  induction blank, t using collapse.induct with
  | case1 blank => cases h
  | case2 d rest hd ih => exact ih (by simpa [collapse, hd] using h)
  | case3 blank d rest hd hblank ih =>
      simp only [collapse, hd, hblank, if_true, if_false, Bool.false_eq_true] at h
      rcases List.mem_cons.mp h with rfl | h
      · rfl
      · exact ih h
  | case4 blank d rest hd ih =>
      simp only [collapse, hd, if_false, Bool.false_eq_true] at h
      rcases List.mem_cons.mp h with rfl | h
      · exact absurd hc hd
      · exact ih h

/-- Behind any character a collapsed text has no two blanks in a row, if it is told of a
blank. -/
theorem isChain_collapse {blank : Bool} (t : Text) (h : c = ' ' → blank = true) :
    (c :: collapse blank t).IsChain NotBothBlank := by
  induction blank, t using collapse.induct generalizing c with
  | case1 blank => exact .singleton c
  | case2 d rest hd ih => simpa [collapse, hd] using ih fun _ => rfl
  | case3 blank d rest hd hblank ih =>
      simp only [collapse, hd, hblank, if_true, if_false, Bool.false_eq_true]
      refine List.isChain_cons_cons.mpr ⟨fun hc => absurd (h hc) hblank, ?_⟩
      exact ih fun _ => rfl
  | case4 blank d rest hd ih =>
      have hne : d ≠ ' ' := ne_blank_of_not_isBlank (by simpa using hd)
      simp only [collapse, hd, if_false, Bool.false_eq_true]
      refine List.isChain_cons_cons.mpr ⟨fun _ => hne, ?_⟩
      exact ih fun hc => absurd hc hne

/-- What is collapsed for the end of a tidy text keeps it tidy. -/
theorem isTidy_collapse (h : IsTidy t) (u : Text) : IsTidy (t ++ collapse (endsBlank t) u) :=
  h.append (fun _ hc => plain_of_mem_collapse hc) fun _ hc => isChain_collapse u hc

theorem isTidy_append {r : RunningText} (h : IsTidy r.content) (raw : Text) :
    IsTidy (r.append raw).content := isTidy_collapse h raw.composed

theorem isTidy_appendBlank {r : RunningText} (h : IsTidy r.content) :
    IsTidy r.appendBlank.content := by
  by_cases hends : endsBlank r.content = true
  · simpa [appendBlank, hends] using h
  · simp only [appendBlank, hends, Bool.false_eq_true, if_false]
    refine h.append (by simp) fun c hc => ?_
    exact List.isChain_cons_cons.mpr ⟨fun hblank => absurd (hc hblank) hends, .singleton _⟩

theorem endsBlank_appendBlank (r : RunningText) : endsBlank r.appendBlank.content = true := by
  by_cases hends : endsBlank r.content = true
  · simp [appendBlank, hends]
  · simp [appendBlank, hends, endsBlank_concat]

theorem prefix_append (r : RunningText) (raw : Text) : r.content <+: (r.append raw).content :=
  List.prefix_append _ _

theorem prefix_appendBlank (r : RunningText) : r.content <+: r.appendBlank.content := by
  by_cases hends : endsBlank r.content = true
  · simp [appendBlank, hends]
  · simp [appendBlank, hends]

/-! ## Cutting off blanks -/

theorem dropBlank_subset (t : Text) : dropBlank t ⊆ t := by
  unfold dropBlank
  split
  · exact List.subset_cons_self _ _
  · exact List.Subset.refl t

theorem dropBlankEnd_subset (t : Text) : dropBlankEnd t ⊆ t := by
  intro c hc
  have hc := dropBlank_subset _ (List.mem_reverse.mp hc)
  exact List.mem_reverse.mp hc

theorem between_subset (t : Text) (start stop : Nat) : between t start stop ⊆ t := by
  unfold between
  split
  · exact List.nil_subset t
  · apply List.Subset.trans (dropBlankEnd_subset _)
    apply List.Subset.trans (dropBlank_subset _)
    cases hslice : t.slice? start stop with
    | none => exact List.nil_subset t
    | some u => exact Text.subset_of_slice? hslice

/-! ## What tidy texts look like -/

namespace IsTidy

/-- There is no line feed, which would be a blank that is not plain. -/
theorem ne_newLine (h : IsTidy t) (hc : c ∈ t) : c ≠ '\n' := by
  rintro rfl
  exact absurd (h.plain _ hc (by decide)) (by decide)

theorem of_prefix (h : IsTidy t) (hu : u <+: t) : IsTidy u := by
  obtain ⟨v, rfl⟩ := hu
  refine ⟨fun c hc => h.plain c (List.mem_append_left v hc), ?_⟩
  have hall : ((' ' :: u) ++ v).IsChain NotBothBlank := h.apart
  exact hall.left_of_append

theorem dropBlank_eq (h : IsTidy t) : dropBlank t = t := by
  cases t with
  | nil => rfl
  | cons c t =>
      have hc : c ≠ ' ' := (List.isChain_cons_cons.mp h.apart).1 rfl
      rw [dropBlank]
      intro rest heq
      exact hc (List.cons_eq_cons.mp heq).1

/-- A blank at the end is the only one there. -/
theorem trimEnd_concat (h : IsTidy (t ++ [' '])) : Text.trimEnd (t ++ [' ']) = t := by
  have hblank : Text.isBlank ' ' = true := by decide
  rw [Text.trimEnd, List.reverse_concat, List.dropWhile_cons_of_pos hblank]
  rcases List.eq_nil_or_concat t with rfl | ⟨front, last, rfl⟩
  · rfl
  · have hapart := h.apart
    simp only [List.concat_eq_append, List.append_assoc, List.singleton_append] at hapart
    rw [← List.cons_append, List.isChain_split] at hapart
    have hlast : Text.isBlank last ≠ true := by
      intro hlast
      have heq := h.plain last (by simp) hlast
      exact (List.isChain_cons_cons.mp hapart.2).1 heq rfl
    rw [List.concat_eq_append, List.reverse_concat, List.dropWhile_cons_of_neg hlast]
    simp

/-- The text in front of an offset, if it ends with a blank, is read without that blank. -/
theorem between_zero (h : IsTidy t) {w : Text} (ht : t = u ++ ' ' :: w) :
    between t 0 (Text.size (u ++ [' '])) = u := by
  have hprefix : u ++ [' '] <+: t := ⟨w, by simp [ht]⟩
  have hslice : t.slice? 0 (Text.size (u ++ [' '])) = some (u ++ [' ']) :=
    Text.slice?_eq_some_iff.mpr ⟨[], w, by simp [ht], rfl, by simp⟩
  have hpos : ¬Text.size (u ++ [' ']) ≤ 0 := by
    have := Char.utf8Size_pos ' '
    simp only [Text.size_append, Text.size_cons]
    omega
  simp only [between, hpos, if_false, hslice, Option.getD_some,
    (h.of_prefix hprefix).dropBlank_eq]
  simp [dropBlankEnd, dropBlank]

end IsTidy
end ControlSearch.RunningText
