import Mathlib.Data.List.DropRight
import ControlSearch.Text

/-!
# Blanks at the ends of a text

To trim a text takes the blanks away that it begins and ends with, and nothing else: what is
left keeps its place between them, and neither of its own ends is blank.
-/
namespace ControlSearch.Text

variable {t u front back : Text}

/-- Blanks at the end do not count. -/
theorem trimEnd_append (hback : ∀ c ∈ back, isBlank c = true) :
    (t ++ back).trimEnd = t.trimEnd := by
  have hreverse : ∀ c ∈ back.reverse, isBlank c = true :=
    fun c hc => hback c (List.mem_reverse.mp hc)
  rw [trimEnd, List.reverse_append, List.dropWhile_append_of_pos hreverse, trimEnd]

/-- Blanks around a text do not count. -/
theorem trim_append (hfront : ∀ c ∈ front, isBlank c = true)
    (hback : ∀ c ∈ back, isBlank c = true) :
    (front ++ (t ++ back)).trim = t.trim := by
  rw [trim, trimStart, List.dropWhile_append_of_pos hfront, List.dropWhile_append,
    trim, trimStart]
  split
  · rename_i hempty
    have hblank : back.dropWhile isBlank = [] := List.dropWhile_eq_nil_iff.mpr hback
    rw [hblank, List.isEmpty_iff.mp hempty]
  · exact trimEnd_append hback

/-- What is left of a text stands between the blanks that were taken away. -/
theorem exists_eq_trim (t : Text) : ∃ front back, t = front ++ (t.trim ++ back) ∧
    (∀ c ∈ front, isBlank c = true) ∧ ∀ c ∈ back, isBlank c = true := by
  refine ⟨t.takeWhile isBlank, t.trimStart.rtakeWhile isBlank, ?_, ?_, ?_⟩
  · have hend : t.trim ++ t.trimStart.rtakeWhile isBlank = t.trimStart :=
      List.rdropWhile_append_rtakeWhile
    rw [hend, trimStart, List.takeWhile_append_dropWhile]
  · exact fun c hc => List.mem_takeWhile_imp hc
  · exact fun c hc => List.mem_rtakeWhile_imp hc

theorem length_trim_le (t : Text) : t.trim.length ≤ t.length := by
  obtain ⟨front, back, ht, -, -⟩ := exists_eq_trim t
  have hlength := congrArg List.length ht
  simp only [List.length_append] at hlength
  omega

/-- There is nothing to trim if neither end is blank. -/
theorem trim_eq_self_iff : t.trim = t ↔
    (∀ c ∈ t.head?, isBlank c = false) ∧ ∀ c ∈ t.getLast?, isBlank c = false := by
  constructor
  · intro h
    constructor
    · intro c hc
      obtain ⟨u, rfl⟩ := List.head?_eq_some_iff.mp hc
      refine Bool.eq_false_iff.mpr fun hblank => ?_
      have hrest : trim (c :: u) = trim u := by
        simpa using trim_append (t :=
          u) (List.forall_mem_singleton.mpr hblank) (List.forall_mem_nil _)
      have hle := length_trim_le u
      rw [← hrest, h, List.length_cons] at hle
      omega
    · intro c hc
      obtain ⟨u, rfl⟩ := List.getLast?_eq_some_iff.mp hc
      refine Bool.eq_false_iff.mpr fun hblank => ?_
      have hrest : trim (u ++ [c]) = trim u :=
        trim_append (List.forall_mem_nil _) (List.forall_mem_singleton.mpr hblank)
      have hle := length_trim_le u
      rw [← hrest, h, List.length_append, List.length_singleton] at hle
      omega
  · rintro ⟨hhead, hlast⟩
    have hstart : t.trimStart = t := by
      refine List.dropWhile_eq_self_iff.mpr fun hpos => ?_
      have hfirst := hhead _ (List.head?_eq_getElem? .. ▸ List.getElem?_eq_getElem hpos)
      simp [hfirst]
    have hend : t.trimEnd = t := by
      refine List.rdropWhile_eq_self_iff.mpr fun hne => ?_
      have hfinal := hlast _ (List.getLast?_eq_some_getLast hne)
      simp [hfinal]
    rw [trim, hstart, hend]

/-! ## The words at both ends -/

/-- The word at the end of a text, behind its last blank. -/
theorem exists_eq_append_word (t : Text) : ∃ front w, t = front ++ w ∧
    (∀ c ∈ front.getLast?, isBlank c = true) ∧ ∀ c ∈ w, isBlank c = false := by
  refine ⟨t.rdropWhile (!isBlank ·), t.rtakeWhile (!isBlank ·),
    List.rdropWhile_append_rtakeWhile.symm, fun c hc => ?_, fun c hc => ?_⟩
  · have hne : t.rdropWhile (!isBlank ·) ≠ [] := by
      rintro hnil
      simp [hnil] at hc
    have hstop := List.rdropWhile_last_not (!isBlank ·) t hne
    rw [List.getLast?_eq_some_getLast hne, Option.mem_some_iff] at hc
    rw [hc] at hstop
    simpa using hstop
  · simpa using List.mem_rtakeWhile_imp hc

/-- The word at the start of a text, in front of its first blank. -/
theorem exists_eq_word_append (t : Text) : ∃ w back, t = w ++ back ∧
    (∀ c ∈ w, isBlank c = false) ∧ ∀ c ∈ back.head?, isBlank c = true := by
  refine ⟨t.takeWhile (!isBlank ·), t.dropWhile (!isBlank ·),
    List.takeWhile_append_dropWhile.symm, fun c hc => ?_, fun c hc => ?_⟩
  · simpa using List.mem_takeWhile_imp hc
  · have hstop := List.head?_dropWhile_not (!isBlank ·) t
    rw [Option.mem_def.mp hc] at hstop
    simpa using hstop

end ControlSearch.Text
