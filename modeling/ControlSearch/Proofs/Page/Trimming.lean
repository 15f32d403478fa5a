import ControlSearch.Proofs.Page.RunningText

/-!
# Slices of running text

Whatever is appended to a running text, in whatever pieces and however these are composed, its
blanks stay plain and single and none comes to stand in front. A slice of it has at most one
blank at either end, so to remove one there is to trim it.
-/
namespace ControlSearch

namespace RunningText

/-- What may be appended to a running text. -/
inductive Piece where
  | text (raw : Text)
  | blank

/-- Appends a piece, where `compose` brings raw texts into composed form. -/
def write (compose : Text → Text) (r : RunningText) : Piece → RunningText
  | .text raw => ⟨r.content ++ collapse (endsBlank r.content) (compose raw)⟩
  | .blank => r.appendBlank

/-- The running text of some pieces. -/
def written (compose : Text → Text) (pieces : List Piece) : RunningText :=
  pieces.foldl (write compose) empty

theorem write_composed (r : RunningText) (raw : Text) :
    r.write Text.composed (.text raw) = r.append raw := rfl

variable {t u v : Text} {c : Char}

theorem isTidy_write {compose : Text → Text} {r : RunningText}
    (h : IsTidy r.content) (p : Piece) :
    IsTidy (r.write compose p).content := by
  cases p with
  | text raw => exact isTidy_collapse h (compose raw)
  | blank => exact isTidy_appendBlank h

theorem isTidy_written (compose : Text → Text) (pieces : List Piece) :
    IsTidy (written compose pieces).content := by
  refine List.foldlRecOn (motive := fun r :
    RunningText => IsTidy r.content) pieces _ isTidy_nil ?_
  intro r h p _
  exact isTidy_write h p

/-! ## Blanks in slices -/

/-- Blanks are plain and single, but there may be one in front. -/
structure IsSpaced (t : Text) : Prop where
  plain : ∀ c ∈ t, Text.isBlank c = true → c = ' '
  apart : t.IsChain NotBothBlank

theorem IsTidy.ne_blank (h : IsTidy (c :: t)) : c ≠ ' ' :=
  (List.isChain_cons_cons.mp h.apart).1 rfl

theorem IsTidy.isSpaced (h : IsTidy t) (hu : u <:+: t) : IsSpaced u where
  plain c hc := h.plain c (hu.subset hc)
  apart := by
    obtain ⟨s, v, rfl⟩ := hu
    exact (List.isChain_of_isChain_cons h.apart).left_of_append.right_of_append

namespace IsSpaced

theorem reverse (h : IsSpaced t) : IsSpaced t.reverse where
  plain c hc := h.plain c (List.mem_reverse.mp hc)
  apart := by
    refine List.isChain_reverse.mpr (h.apart.imp ?_)
    intro c d hcd hd hc
    exact hcd hc hd

/-- Two blanks do not stand side by side. -/
theorem not_blank_blank : ¬IsSpaced (' ' :: ' ' :: t) :=
  fun h => (List.isChain_cons_cons.mp h.apart).1 rfl rfl

theorem tail (h : IsSpaced (c :: t)) : IsSpaced t where
  plain d hd := h.plain d (List.mem_cons_of_mem c hd)
  apart := List.isChain_of_isChain_cons h.apart

/-- There is no more than one blank to remove in front. -/
theorem dropBlank_eq (h : IsSpaced t) : dropBlank t = t.trimStart := by
  cases t with
  | nil => rfl
  | cons c t =>
      by_cases hc : c = ' '
      · subst hc
        cases t with
        | nil => rfl
        | cons d t =>
            have hd : Text.isBlank d ≠ true := by
              intro hd
              obtain rfl := h.plain d (by simp) hd
              exact not_blank_blank h
            have hblank : Text.isBlank ' ' = true := by decide
            simp [dropBlank, Text.trimStart, hblank, hd]
      · have hblank : Text.isBlank c ≠ true := fun hblank => hc (h.plain c (by simp) hblank)
        simp [dropBlank, Text.trimStart, hc, hblank]

theorem dropBlankEnd_eq (h : IsSpaced t) : dropBlankEnd t = t.trimEnd := by
  rw [dropBlankEnd, h.reverse.dropBlank_eq, Text.trimStart, Text.trimEnd]

theorem dropBlank (h : IsSpaced t) : IsSpaced (dropBlank t) := by
  unfold RunningText.dropBlank
  split
  · exact h.tail
  · exact h

/-- To remove a blank at either end is to trim. -/
theorem dropBlankEnd_dropBlank (h : IsSpaced t) :
    dropBlankEnd (RunningText.dropBlank t) = t.trim := by
  rw [h.dropBlank.dropBlankEnd_eq, h.dropBlank_eq, Text.trim]

end IsSpaced

/-- What lies between two offsets is trimmed when it is read. -/
theorem IsTidy.between_eq_trim (h : IsTidy (u ++ (t ++ v))) :
    between (u ++ (t ++ v)) u.size (u.size + t.size) = t.trim := by
  have hslice : (u ++ (t ++ v)).slice? u.size (u.size + t.size) = some t :=
    Text.slice?_eq_some_iff.mpr ⟨u, v, rfl, rfl, rfl⟩
  by_cases hle : u.size + t.size ≤ u.size
  · obtain rfl : t = [] := Text.size_eq_zero_iff.mp (by omega)
    simp [between, Text.trim, Text.trimStart, Text.trimEnd]
  · have hspaced : IsSpaced t := h.isSpaced ⟨u, v, by simp⟩
    rw [between, if_neg hle, hslice, Option.getD_some, hspaced.dropBlankEnd_dropBlank]

/-- Nothing is read between offsets that are out of order, or one of which is not a
boundary. -/
theorem between_eq_nil {start stop : Nat}
    (h : ¬∃ u m v, t = u ++ (m ++ v) ∧ u.size = start ∧ start + m.size = stop) :
    between t start stop = [] := by
  have hslice : t.slice? start stop = none := by
    cases hslice : t.slice? start stop with
    | none => rfl
    | some m =>
        obtain ⟨u, v, hcut⟩ := Text.slice?_eq_some_iff.mp hslice
        exact absurd ⟨u, m, v, hcut⟩ h
  simp [between, hslice, dropBlank, dropBlankEnd]

/-- What is read between two offsets is the slice there, if there is one, without blanks at
its ends. -/
theorem IsTidy.between_eq (h : IsTidy t) (start stop : Nat) :
    between t start stop = ((t.slice? start stop).map Text.trim).getD [] := by
  cases hslice : t.slice? start stop with
  | none =>
      refine between_eq_nil ?_
      rintro ⟨u, m, v, hcut⟩
      rw [Text.slice?_eq_some_iff.mpr ⟨u, v, hcut⟩] at hslice
      cases hslice
  | some m =>
      obtain ⟨u, v, rfl, rfl, rfl⟩ := Text.slice?_eq_some_iff.mp hslice
      exact h.between_eq_trim

/-- A running text, in whatever pieces it was written, never begins with a blank, has no two
blanks side by side and no blanks but plain ones. A slice of it is read trimmed, and nothing
is read where there is no slice. None of this depends on how texts are composed. -/
theorem blanks_of_written (compose : Text → Text) (pieces : List Piece) :
    (∀ (r : RunningText) raw, r.write Text.composed (.text raw) = r.append raw) ∧
    (written compose pieces).content.head? ≠ some ' ' ∧
    ¬[' ', ' '] <:+: (written compose pieces).content ∧
    (∀ c ∈ (written compose pieces).content, Text.isBlank c = true → c = ' ') ∧
    ∀ start stop,
      (∀ u m v, (written compose pieces).content = u ++ (m ++ v) →
        u.size = start → start + m.size = stop →
        between (written compose pieces).content start stop = m.trim) ∧
      ((¬∃ u m v, (written compose pieces).content = u ++ (m ++ v) ∧
          u.size = start ∧ start + m.size = stop) →
        between (written compose pieces).content start stop = []) := by
  have htidy := isTidy_written compose pieces
  refine ⟨write_composed, ?_, ?_, htidy.plain, ?_⟩
  · cases hcontent : (written compose pieces).content with
    | nil => simp
    | cons c t =>
        rw [hcontent] at htidy
        simpa using htidy.ne_blank
  · exact fun hblanks => IsSpaced.not_blank_blank (htidy.isSpaced hblanks)
  · refine fun start stop => ⟨?_, between_eq_nil⟩
    rintro u m v hcontent rfl rfl
    rw [hcontent] at htidy ⊢
    exact htidy.between_eq_trim

example : (written id [.text [' ', '\t', 'a'], .blank, .text ['\n', 'b']]).content =
    ['a', ' ', 'b'] := by decide

end RunningText

end ControlSearch
