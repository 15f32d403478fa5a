import ControlSearch.Proofs.Pattern.FirstOccurrence
import ControlSearch.Proofs.Pattern.Segments

/-!
# Runs at the end of a spec

A star at the end of a spec lets every occurrence go on as far as the text goes. So wherever
the spec occurs, the last occurrence, taken as long as possible, leaves nothing behind it.
-/
namespace ControlSearch

namespace Wildcard

variable {dotNewLine : Bool} {parts : List Wildcard} {s u w : Text}

/-- The last parts of a spec end with a run. -/
def EndsOpen (parts : List Wildcard) : Prop := ∃ front, parts = front ++ [.anyRun]

/-- Even if a backslash escapes the first of two stars at the end, the second one is a run. -/
theorem endsOpen_two_stars (s : Text) : EndsOpen (ofSpec (s ++ ['*'] ++ ['*'])) := by
  have hdangles : dangles (s ++ ['*']) = false := by
    rw [dangles_concat]
    rfl
  exact ⟨ofSpec (s ++ ['*']), ofSpec_append hdangles ['*']⟩

/-- A run at the end takes in whatever follows. -/
theorem EndsOpen.accepts_append (h : EndsOpen parts) (hu : Accepts dotNewLine parts u)
    (hw : ∀ c ∈ w, Covers dotNewLine c) : Accepts dotNewLine parts (u ++ w) := by
  obtain ⟨front, rfl⟩ := h
  obtain ⟨x, y, rfl, hx, hy⟩ := Wildcard.accepts_append.mp hu
  obtain ⟨run, rest, rfl, hrun, rfl⟩ := hy
  refine Wildcard.accepts_append.mpr ⟨x, run ++ w, by simp, hx, run ++ w,
    [], by simp, ?_, rfl⟩
  exact List.forall_mem_append.mpr ⟨hrun, hw⟩

end Wildcard

namespace Pattern
open Wildcard

variable {settings : PatternSettings} {dotNewLine : Bool} {spec t : Text}
  {p : Pattern} {b e n : Nat}

/-- From every start an occurrence reaches the end of the text. -/
theorem Occurs.to_end (h : Occurs dotNewLine spec t b e) (hspec : EndsOpen (ofSpec spec))
    (ht : ∀ c ∈ t, Covers dotNewLine c) : Occurs dotNewLine spec t b t.size := by
  obtain ⟨v, u, w, rfl, rfl, -, hu⟩ := occurs_iff.mp h
  have hw : ∀ c ∈ w, Covers dotNewLine c := fun c hc => ht c (by simp [hc])
  exact occurs_iff.mpr ⟨v, u ++ w, [], by simp, rfl, by simp, hspec.accepts_append hu hw⟩

/-- Nothing is left behind the last occurrence, if there is one. -/
theorem sizeAfterLast?_of_endsOpen (h : compile settings spec = .ok p)
    (hp : p.isEverything = false) (hspec : EndsOpen (ofSpec spec))
    (ht : ∀ c ∈ t, Covers settings.dotMatchesNewLine c) :
    p.sizeAfterLast? t = some n ↔
      n = 0 ∧ ∃ b e, Occurs settings.dotMatchesNewLine spec t b e := by
  have hlast := isLast_lastLongest h hp t
  simp only [sizeAfterLast?, hp, Bool.false_eq_true, if_false]
  cases hspan : p.lastLongest t with
  | notFound =>
      rw [hspan] at hlast
      have hnone : ∀ b e, ¬Occurs settings.dotMatchesNewLine spec t b e := hlast
      simp [Span.stop?, hnone]
  | range b e =>
      rw [hspan] at hlast
      obtain ⟨-, hstop⟩ := hlast
      have hocc : Occurs settings.dotMatchesNewLine spec t b e := hstop.1
      have hend : e = t.size := le_antisymm hocc.stop_le (hstop.2 (hocc.to_end hspec ht))
      have hexists : ∃ b e, Occurs settings.dotMatchesNewLine spec t b e := ⟨b, e, hocc⟩
      simp [Span.stop?, hend, hexists, eq_comm]

end Pattern
end ControlSearch
