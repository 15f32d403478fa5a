import ControlSearch.Page.Static
import ControlSearch.Proofs.Locator
import ControlSearch.Proofs.Pattern.FirstOccurrence
import ControlSearch.Search

/-!
# The gate behind the path

An element is compared with a locator only where the path lies in front of it. The gate looks
at the first occurrence of the path and no other, which is enough: no occurrence ends earlier.
-/
namespace ControlSearch.SearchTerm

open Pattern Wildcard

/-- The path was found, if there is one, and ends no later than a place. -/
def PassesGate (term : SearchTerm) (start : Nat) : Prop :=
  term.pathSpan ≠ some .notFound ∧ term.isBehindPath start = true

variable {term : SearchTerm} {page : Page} {l : Locator} {q : Locator.Patterns}
  {path : Pattern}
  {settings : PatternSettings} {start : Nat}

/-- A path that restricts anything is searched in the text of the page. -/
theorem pathSpan_ofPatterns (hpath : q.path = some path) (hopen : path.isEverything = false) :
    (ofPatterns q page).pathSpan = some (path.first page.text) := by
  simp [ofPatterns, hpath, hopen]

theorem passesGate_iff_span {s : Span} (h : term.pathSpan = some s) :
    term.PassesGate start ↔ ∃ b e, s = .range b e ∧ e ≤ start := by
  cases s with
  | notFound => simp [PassesGate, h]
  | range b e => simp [PassesGate, isBehindPath, h]

/-- Only labels are compared with their own places; all other clues ask the gate for the place
of the element. -/
theorem score?_eq_none_of_gate {e : ElementId} {clue : Clue}
    (hstart : (page.position e).start? = some start) (hgate : ¬term.PassesGate start)
    (hclue : clue ≠ .label) : term.score? page e clue = none := by
  by_cases hfound : term.pathSpan = some .notFound
  · simp [score?, hfound]
  · have hbehind : term.isBehindPath start = false := by
      by_contra hpasses
      exact hgate ⟨hfound, by simpa using hpasses⟩
    have hvalue : term.scoreValue? page e clue = none := by
      simp [scoreValue?, hstart, hbehind]
    cases clue with
    | label => exact absurd rfl hclue
    | _ => simpa [score?, hfound] using hvalue

/-- The gate lets an element pass if and only if the path occurs somewhere in the text in
front of the element, and what it holds back is found by no clue but its labels. -/
theorem passesGate_iff_occurs (hl : l.IsMade settings) (hq : l.patterns = some q)
    (hpath : q.path = some path) (hopen : path.isEverything = false) (page : StaticPage)
    {x : ElementId} {placed : PlacedElement} (hx : page.elements[x]? = some placed) :
    page.toPage.position x = .range placed.start placed.stop ∧
    ((ofPatterns q page.toPage).PassesGate placed.start ↔
      ∃ b e, path.first page.text = .range b e ∧ e ≤ placed.start) ∧
    ((ofPatterns q page.toPage).PassesGate placed.start ↔
      ∃ b e, Occurs settings.dotMatchesNewLine path.spec page.text b e ∧ e ≤ placed.start) ∧
    (∀ before, page.text.take? placed.start = some before →
      ((ofPatterns q page.toPage).PassesGate placed.start ↔
        ∃ b e, Occurs settings.dotMatchesNewLine path.spec before b e)) ∧
    (¬(ofPatterns q page.toPage).PassesGate placed.start → ∀ clue, clue ≠ .label →
      (ofPatterns q page.toPage).score? page.toPage x clue = none) := by
  have hposition : page.toPage.position x = .range placed.start placed.stop := by
    simp [StaticPage.toPage, hx, PlacedElement.span]
  have hspan : (ofPatterns q page.toPage).pathSpan = some (path.first page.text) :=
    pathSpan_ofPatterns hpath hopen
  have hoccurs : (ofPatterns q page.toPage).PassesGate placed.start ↔
      ∃ b e, Occurs settings.dotMatchesNewLine path.spec page.text b e ∧
      e ≤ placed.start := by
    rw [passesGate_iff_span hspan]
    exact first_stop_le_iff (hl.compile_path hq hpath) hopen placed.start
  refine ⟨hposition, passesGate_iff_span hspan, hoccurs, ?_, ?_⟩
  · intro before hbefore
    obtain ⟨rest, htext, hsize⟩ := Text.take?_eq_some_iff.mp hbefore
    rw [hoccurs, htext, ← hsize]
    simp only [← occurs_append_left_iff]
  · intro hgate clue hclue
    exact score?_eq_none_of_gate (by simp [hposition, Span.start?]) hgate hclue

/-- A control behind a word ending in a backslash, which is its path. -/
theorem passesGate_behind_word : ∃ l q path, Locator.ofSegments [['a', '\\'], ['b']] = .ok l ∧
    l.patterns = some q ∧ q.path = some path ∧ path.isEverything = false ∧
    (StaticPage.mk ['a', '\\', ' '] [⟨.textInput, 3, 3, [1]⟩] []).elements[0]? =
      some ⟨.textInput, 3, 3, [1]⟩ ∧
    (ofPatterns q
      (StaticPage.mk ['a', '\\', ' '] [⟨.textInput, 3, 3, [1]⟩] []).toPage).PassesGate 3 := by
  refine ⟨_, _, _, Pattern.ofSegments_dangling, rfl, rfl, rfl, rfl, ?_⟩
  have hdescribes : Describes true ['a', '\\'] ['a', '\\'] :=
    .char rfl (.backslash (by simp) .nil)
  have hgate :=
    passesGate_iff_occurs (Locator.isMade_ofSegments Pattern.ofSegments_dangling) rfl rfl
    rfl (StaticPage.mk ['a', '\\', ' '] [⟨.textInput, 3, 3, [1]⟩] []) (x := 0) rfl
  exact hgate.2.2.1.mpr ⟨0, 2, ⟨_, by decide, hdescribes⟩, by decide⟩

end ControlSearch.SearchTerm
