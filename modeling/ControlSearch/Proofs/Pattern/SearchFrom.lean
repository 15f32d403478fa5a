import ControlSearch.Proofs.Pattern.Offsets

/-!
# Searches from an offset

The offset that a search begins at need not be a boundary of the text. An automaton is run
from the boundaries behind it. A word is looked up in what the text has left there, and inside
a character that is nothing: the word is missed, though it may stand behind that character.
-/
namespace ControlSearch

theorem Text.drop?_eq_none_iff {t : Text} {n : Nat} : t.drop? n = none ↔ ¬t.IsBoundary n := by
  rw [Option.eq_none_iff_forall_ne_some, isBoundary_iff]
  simp only [ne_eq, drop?_eq_some_iff, not_exists]
  exact forall_comm

namespace Pattern

open Wildcard

variable {dotNewLine : Bool} {spec t w : Text} {p : Pattern} {start : Nat}

/-- From inside a character on, no word is found. -/
theorem firstFrom_eq_notFound (hp : p.matcher = .word w) (hstart : ¬t.IsBoundary start) :
    p.firstFrom t start = .notFound := by
  have hrest : t.drop? start = none := Text.drop?_eq_none_iff.mpr hstart
  simp [firstFrom, hp, hrest, Span.ofPlace]

/-- From a boundary on, the leftmost place of a word is the first occurrence. -/
theorem isFirst_firstFrom_of_isBoundary (hw : literal? (ofSpec spec) = some w)
    (hopen : isOpen (ofSpec spec) = false) (hp : p.matcher = .word w)
    (hstart : t.IsBoundary start) :
    IsFirst (OccursFrom dotNewLine spec t start) (p.firstFrom t start) := by
  obtain ⟨u, v, rfl, rfl⟩ := Text.isBoundary_iff.mp hstart
  exact isFirst_firstFrom_word hw hopen hp u

/-- From any offset on, also from behind the end, the leftmost occurrence is found, shortest
at its start, unless nothing occurs from there on. The one exception is a word that is
searched from inside a character: it is never found, even if it occurs behind that
character. -/
theorem isFirst_firstFrom_iff {settings : PatternSettings} (h : compile settings spec = .ok p)
    (hp : p.isEverything = false) (t : Text) (start : Nat) :
    (IsFirst (OccursFrom settings.dotMatchesNewLine spec t start) (p.firstFrom t start) ↔
      ∀ w, p.matcher = .word w → ¬t.IsBoundary start →
        ∀ b e, ¬OccursFrom settings.dotMatchesNewLine spec t start b e) ∧
    ∀ w, p.matcher = .word w → ¬t.IsBoundary start → p.firstFrom t start = .notFound := by
  refine ⟨?_, fun w hw hstart => firstFrom_eq_notFound hw hstart⟩
  rcases compile_cases h with ⟨-, rfl⟩ | ⟨hopen, w, hw, rfl⟩ | ⟨hopen, rfl⟩
  · simp [isEverything] at hp
  · constructor
    · intro hfirst w' hw' hstart
      rwa [firstFrom_eq_notFound hw' hstart] at hfirst
    · intro hnone
      by_cases hstart : t.IsBoundary start
      · exact isFirst_firstFrom_of_isBoundary hw hopen rfl hstart
      · rw [firstFrom_eq_notFound rfl hstart]
        exact hnone w rfl hstart
  · refine iff_of_true (isFirst_firstFrom_automaton rfl hopen start) ?_
    intro w hw
    cases hw

/-- An automaton that is run from inside a character finds what begins behind the
character. -/
theorem isFirst_firstFrom_run : ∃ p, compile {} "a*".toList = .ok p ∧ p.isEverything = false ∧
    ¬Text.IsBoundary "öa".toList 1 ∧
    IsFirst (OccursFrom true "a*".toList "öa".toList 1) (p.firstFrom "öa".toList 1) := by
  have hinside : ¬Text.IsBoundary "öa".toList 1 := by
    unfold Text.IsBoundary
    decide
  refine ⟨_, compile_run, rfl, hinside, (isFirst_firstFrom_iff compile_run rfl _ 1).1.mpr ?_⟩
  intro w hw
  cases hw

/-- A word is not found from inside a character on, though it occurs right behind the
character. -/
theorem firstFrom_misses_word : ∃ p, compile {} ['a'] = .ok p ∧ p.isEverything = false ∧
    OccursFrom true ['a'] ['ö', 'a'] 1 2 3 ∧ p.firstFrom ['ö', 'a'] 1 = .notFound := by
  have hdescribes : Describes true ['a'] ['a'] := .char rfl .nil
  exact ⟨⟨['a'], .word ['a']⟩, rfl, rfl, ⟨by decide, ['a'], by decide, hdescribes⟩, by decide⟩

end Pattern
end ControlSearch
