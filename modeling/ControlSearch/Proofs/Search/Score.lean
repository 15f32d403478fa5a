import Mathlib.Tactic.Common
import ControlSearch.Search

/-!
# What has to hold of a hit

A score is made in several steps, each of which can fail. Here each score is opened once: what
was compared with which pattern, that it was compared behind the path, and the two numbers
that came of it.
-/
namespace ControlSearch

namespace Score

/-- The best of some scores is one of them. -/
theorem mem_of_best? {ss : List Score} {s : Score} (h : best? ss = some s) : s ∈ ss := by
  induction ss generalizing s with
  | nil => cases h
  | cons a ss ih =>
      rw [best?] at h
      cases hbest : best? ss with
      | none =>
          rw [hbest] at h
          obtain rfl := Option.some.inj h
          exact List.mem_cons_self
      | some b =>
          rw [hbest] at h
          obtain rfl := Option.some.inj h
          split
          · exact List.mem_cons_self
          · exact List.mem_cons_of_mem a (ih hbest)

end Score

namespace SearchTerm

variable {term : SearchTerm} {page : Page} {x : ElementId} {clue : Clue}
  {s : Score} {e : Entry}

theorem hit?_eq_some_iff :
    term.hit? page x clue = some e ↔ ∃ s, term.score? page x clue = some s ∧
    ⟨x, clue.foundBy, s.coverage, s.distance, page.hierarchy x, page.index x⟩ = e :=
  Option.map_eq_some_iff

/-- The distance of a value from the path, and the whole size of the text in front of it if
the path is not found there. -/
def valueDistance (term : SearchTerm) (before : Text) : Nat :=
  (term.path.bind (·.sizeAfterLastShortest? before)).getD before.size

/-- The distance of a label from the path. -/
def labelDistance (term : SearchTerm) (before : Text) : Nat :=
  (term.path.bind (·.sizeAfterLast? before)).getD before.size

theorem scoreValue?_eq_some_iff : term.scoreValue? page x clue = some s ↔
    ∃ pattern fit start value coverage, term.comparison? clue = some (pattern, fit) ∧
      (page.position x).start? = some start ∧ term.isBehindPath start = true ∧
      term.value? page x fit clue = some value ∧ value ≠ [] ∧
      coverage? pattern value fit = some coverage ∧
      s = ⟨coverage, term.valueDistance (term.measured (page.textBefore x) clue fit)⟩ := by
  constructor
  · intro h
    obtain ⟨⟨pattern, fit⟩, hcomparison, h⟩ := Option.bind_eq_some_iff.mp h
    obtain ⟨start, hstart, h⟩ := Option.bind_eq_some_iff.mp h
    by_cases hbehind : term.isBehindPath start = true
    · simp only [hbehind, Bool.not_true, Bool.false_eq_true, if_false] at h
      obtain ⟨value, hvalue, h⟩ := Option.bind_eq_some_iff.mp h
      by_cases hne : value = []
      · simp [hne] at h
      · have hempty : value.isEmpty = false := by simpa using hne
        simp only [hempty, Bool.false_eq_true, if_false] at h
        obtain ⟨coverage, hcoverage, h⟩ := Option.bind_eq_some_iff.mp h
        exact ⟨pattern, fit, start, value, coverage, hcomparison, hstart,
          hbehind, hvalue, hne, hcoverage, (Option.some.inj h).symm⟩
    · simp [hbehind] at h
  · rintro ⟨pattern, fit, start, value, coverage, hcomparison, hstart, hbehind, hvalue, hne,
      hcoverage, rfl⟩
    simp [scoreValue?, valueDistance, hcomparison, hstart, hbehind, hvalue, hne, hcoverage]

theorem scoreLabel?_eq_some_iff {span : Span} {text : Text} :
    term.scoreLabel? page (span, text) = some s ↔
      ∃ start stop coverage, span = .range start stop ∧ term.isBehindPath start = true ∧
        term.node.surroundingSize? text = some coverage ∧
        s = ⟨coverage, term.labelDistance ((page.text.take? start).getD []).trimEnd⟩ := by
  cases span with
  | notFound => simp [scoreLabel?]
  | range start stop =>
      constructor
      · intro h
        by_cases hbehind : term.isBehindPath start = true
        · simp only [scoreLabel?, hbehind, Bool.not_true, Bool.false_eq_true, if_false] at h
          obtain ⟨coverage, hcoverage, h⟩ := Option.bind_eq_some_iff.mp h
          exact ⟨start, stop, coverage, rfl, hbehind, hcoverage, (Option.some.inj h).symm⟩
        · simp [scoreLabel?, hbehind] at h
      · rintro ⟨start', stop', coverage, heq, hbehind, hcoverage, rfl⟩
        obtain ⟨rfl, rfl⟩ := Span.range.inj heq
        simp [scoreLabel?, labelDistance, hbehind, hcoverage]

/-- A score is that of a label, or that of some other value. -/
theorem score?_cases (h : term.score? page x clue = some s) : term.pathSpan ≠ some .notFound ∧
    ((clue = .label ∧ ∃ label ∈ page.labels x, term.scoreLabel? page label = some s) ∨
      (clue ≠ .label ∧ term.scoreValue? page x clue = some s)) := by
  by_cases hfound : term.pathSpan = some .notFound
  · simp [score?, hfound] at h
  · refine ⟨hfound, ?_⟩
    cases clue with
    | label =>
        simp only [score?, hfound, if_false] at h
        obtain ⟨-, -, h⟩ := Option.bind_eq_some_iff.mp h
        obtain ⟨label, hlabel, hscore⟩ := List.mem_filterMap.mp (Score.mem_of_best? h)
        exact .inl ⟨rfl, label, hlabel, hscore⟩
    | _ =>
        simp only [score?, hfound, if_false] at h
        exact .inr ⟨nofun, h⟩

end SearchTerm
end ControlSearch
