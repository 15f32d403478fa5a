import ControlSearch.Proofs.Locator
import ControlSearch.Proofs.Pattern.LastOccurrence
import ControlSearch.Proofs.Search.Score

/-!
# What surrounds a hit

A hit by all text in front of an element is taken for an occurrence that ends the text, but
its coverage is counted in front of the last occurrence, wherever that one ends. Both are the
same occurrence.
-/
namespace ControlSearch.SearchTerm

open Pattern Wildcard

variable {term : SearchTerm} {page : Page} {x : ElementId} {s : Score}

theorem coverage_wholeTextBefore (h : term.score? page x .wholeTextBefore = some s) :
    page.textBefore x ≠ [] ∧ term.whole.endsText (page.textBefore x) = true ∧
      term.whole.sizeBeforeLast? (page.textBefore x) = some s.coverage := by
  obtain ⟨-, ⟨hlabel, -⟩ | ⟨-, hscore⟩⟩ := score?_cases h
  · cases hlabel
  · obtain ⟨pattern, fit, start, value, coverage, hcomparison, -, -, hvalue, hne,
        hcoverage, rfl⟩ :=
      scoreValue?_eq_some_iff.mp hscore
    obtain ⟨rfl, rfl⟩ := Prod.mk.inj (Option.some.inj hcomparison)
    obtain rfl := Option.some.inj hvalue
    by_cases hends : term.whole.endsText (page.textBefore x) = true
    · simp only [coverage?, hends, if_true] at hcoverage
      exact ⟨hne, hends, hcoverage⟩
    · simp [coverage?, hends] at hcoverage

/-- No text ends with a pattern that accepts everything. -/
theorem isEverything_of_endsText {p : Pattern} {t : Text} (h : p.endsText t = true) :
    p.isEverything = false := by
  by_contra hp
  have hmatcher : p.matcher = .everything := by simpa [isEverything] using hp
  simp [endsText, hmatcher] at h

/-- A text ends with an occurrence if and only if nothing is left behind the last one. So the
coverage of a hit by all text in front of an element is the start of an occurrence that ends
this text, and no such occurrence starts behind it. -/
theorem endsText_iff_nothing_behind (settings : PatternSettings) :
    (∀ spec p t, compile settings spec = .ok p → p.isEverything = false → t ≠ [] →
      (p.endsText t = true ↔ p.sizeAfterLast? t = some 0)) ∧
    ∀ l q page x e, Locator.IsMade settings l → l.patterns = some q →
      (ofPatterns q page).hit? page x .wholeTextBefore = some e →
      q.whole.sizeBeforeLast? (page.textBefore x) = some e.coverage ∧
      IsGreatest
        {b | Occurs settings.dotMatchesNewLine (joinSegments l.segments) (page.textBefore x) b
        (page.textBefore x).size} e.coverage := by
  constructor
  · exact fun spec p t h hp ht => (endsText_iff_last h hp ht).1
  · intro l q page x e hl hq hhit
    obtain ⟨s, hscore, rfl⟩ := hit?_eq_some_iff.mp hhit
    obtain ⟨ht, hends, hbefore⟩ := coverage_wholeTextBefore hscore
    have hwhole : q.whole.isEverything = false := isEverything_of_endsText hends
    exact ⟨hbefore, (endsText_iff_last (hl.compile_whole hq) hwhole ht).2 _ hends hbefore⟩

/-- Behind the text `üüü` an element is hit by `üü`, which occurs twice there: the second
occurrence, two bytes behind the first one, ends the text, and nothing is left behind it. -/
theorem endsText_iff_nothing_behind_overlap :
    (∃ p, compile {} "üü".toList = .ok p ∧ p.isEverything = false ∧
      p.endsText "üüü".toList = true ∧ p.sizeAfterLast? "üüü".toList = some 0) ∧
    ∃ l q page e, Locator.ofSegments ["üü".toList] = .ok l ∧ l.patterns = some q ∧
      (ofPatterns q page).hit? page 0 .wholeTextBefore = some e ∧
      IsGreatest {b | Occurs true (joinSegments l.segments) (page.textBefore 0) b
        (page.textBefore 0).size} 2 := by
  constructor
  · have hends :
        (Pattern.mk "üü".toList (.word "üü".toList)).endsText "üüü".toList = true := by decide
    have hlaw :=
      (endsText_iff_nothing_behind {}).1 "üü".toList _ "üüü".toList rfl rfl (by decide)
    exact ⟨_, rfl, rfl, hends, hlaw.mp hends⟩
  · let page : Page := Page.plain "üüü".toList (fun _ => [0]) (fun _ => "üüü".toList)
      (fun _ => .range 6 6) (fun _ => []) id
    obtain ⟨l, q, hl, hq, hhit⟩ : ∃ l q, Locator.ofSegments ["üü".toList] = .ok l ∧
        l.patterns = some q ∧
        (ofPatterns q page).hit? page 0 .wholeTextBefore = some ⟨0, .text, 2, 6, [], 0⟩ :=
      ⟨_, _, rfl, rfl, by decide⟩
    have hlast :=
      (endsText_iff_nothing_behind {}).2 l q page 0 _ (Locator.isMade_ofSegments hl) hq hhit
    exact ⟨l, q, page, _, hl, hq, hhit, hlast.2⟩

end ControlSearch.SearchTerm
