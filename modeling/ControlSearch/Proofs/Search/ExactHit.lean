import ControlSearch.Proofs.Locator
import ControlSearch.Proofs.Pattern.WholeText
import ControlSearch.Proofs.Search.Score

/-!
# Exact hits

The coverage of a hit is zero where nothing is left around what was found. So an attribute
that has to be accepted as a whole always gives coverage zero, and a value or a label that has
to contain the last segment gives it just if the value or the label is accepted as a whole.
-/
namespace ControlSearch

namespace Score

variable {ss : List Score} {s a b : Score}

theorem best?_eq_none_iff : best? ss = none ↔ ss = [] := by
  cases ss with
  | nil => simp [best?]
  | cons b ss =>
      rw [best?]
      split <;> simp

theorem coverage_le_of_isLE (h : a.isLE b = true) : a.coverage ≤ b.coverage := by
  simp only [isLE, Bool.or_eq_true, Bool.and_eq_true, decide_eq_true_eq, beq_iff_eq] at h
  omega

theorem coverage_le_of_not_isLE (h : ¬a.isLE b = true) : b.coverage ≤ a.coverage := by
  simp only [isLE, Bool.or_eq_true, Bool.and_eq_true, decide_eq_true_eq, beq_iff_eq] at h
  omega

/-- The best score has the least coverage. -/
theorem coverage_le_of_best? (h : best? ss = some s) (ha : a ∈ ss) :
    s.coverage ≤ a.coverage := by
  induction ss generalizing s with
  | nil => cases ha
  | cons b ss ih =>
      rw [best?] at h
      cases hbest : best? ss with
      | none =>
          obtain rfl := best?_eq_none_iff.mp hbest
          rw [hbest] at h
          obtain rfl := Option.some.inj h
          rw [List.mem_singleton.mp ha]
      | some t =>
          rw [hbest] at h
          obtain rfl := Option.some.inj h
          by_cases hle : b.isLE t = true
          · rw [if_pos hle]
            rcases List.mem_cons.mp ha with rfl | ha
            · exact Nat.le_refl _
            · exact (coverage_le_of_isLE hle).trans (ih hbest ha)
          · rw [if_neg hle]
            rcases List.mem_cons.mp ha with rfl | ha
            · exact coverage_le_of_not_isLE hle
            · exact ih hbest ha

end Score

namespace SearchTerm
open Pattern

variable {term : SearchTerm} {page : Page} {x : ElementId} {clue : Clue}
  {fit : Fit} {s : Score}
  {pattern : Pattern} {value : Text}

/-- All but the whole text in front of an element is compared with the last segment, unless
that segment accepts the empty text. -/
theorem comparison?_cases (h : term.comparison? clue = some (pattern, fit)) :
    (clue = .wholeTextBefore ∧ fit = .endsWith) ∨
    (clue = .labelTextBefore ∧ fit = .startsWith) ∨
      (pattern = term.node ∧ fit = clue.fit) := by
  cases clue with
  | wholeTextBefore =>
      obtain ⟨-, rfl⟩ := Prod.mk.inj (Option.some.inj h)
      exact .inl ⟨rfl, rfl⟩
  | labelTextBefore =>
      by_cases hempty : term.node.mayBeEmpty = true
      · simp only [comparison?, hempty, if_true, Option.map_eq_some_iff, Prod.mk.injEq] at h
        obtain ⟨-, -, -, rfl⟩ := h
        exact .inr (.inl ⟨rfl, rfl⟩)
      · simp only [comparison?, hempty, Bool.false_eq_true, if_false] at h
        obtain ⟨rfl, rfl⟩ := Prod.mk.inj (Option.some.inj h)
        exact .inr (.inr ⟨rfl, rfl⟩)
  | _ =>
      by_cases hempty : term.node.mayBeEmpty = true
      · simp [comparison?, hempty] at h
      · simp only [comparison?, hempty, Bool.false_eq_true, if_false] at h
        obtain ⟨rfl, rfl⟩ := Prod.mk.inj (Option.some.inj h)
        exact .inr (.inr ⟨rfl, rfl⟩)

/-- A value that has to be accepted as a whole gives coverage zero. -/
theorem coverage_of_exact (hnode : term.node.IsCompiled) (hfit : clue.fit = .exact)
    (h : term.score? page x clue = some s) : s.coverage = 0 := by
  obtain ⟨-, ⟨rfl, -⟩ | ⟨-, hscore⟩⟩ := score?_cases h
  · cases hfit
  · obtain ⟨pattern, fit, start, value, coverage, hcomparison, -, -, -, -, hcoverage, rfl⟩ :=
      scoreValue?_eq_some_iff.mp hscore
    obtain ⟨rfl, -⟩ | ⟨rfl, -⟩ | ⟨rfl, rfl⟩ := comparison?_cases hcomparison
    · cases hfit
    · cases hfit
    · rw [hfit] at hcoverage
      by_cases haccepts : term.node.accepts value = true
      · have hzero := (surroundingSize?_eq_zero_iff hnode value).mpr haccepts
        simpa [coverage?, haccepts, hzero] using hcoverage.symm
      · simp [coverage?, haccepts] at hcoverage

/-- A value that has to contain the last segment gives coverage zero just if it is accepted as
a whole. -/
theorem coverage_of_contains_iff (hnode : term.node.IsCompiled)
    (hcomparison : term.comparison? clue = some (pattern, .contains))
    (hvalue : term.value? page x .contains clue = some value)
    (h : term.score? page x clue = some s) :
    s.coverage = 0 ↔ pattern.accepts value = true := by
  obtain ⟨-, ⟨rfl, -⟩ | ⟨-, hscore⟩⟩ := score?_cases h
  · cases hvalue
  · obtain ⟨pattern, fit, start, value, coverage, hcomparison', -, -, hvalue', -,
        hcoverage, rfl⟩ :=
      scoreValue?_eq_some_iff.mp hscore
    obtain ⟨rfl, rfl⟩ := Prod.mk.inj (Option.some.inj (hcomparison'.symm.trans hcomparison))
    obtain rfl := Option.some.inj (hvalue'.symm.trans hvalue)
    obtain ⟨-, hfit⟩ | ⟨-, hfit⟩ | ⟨rfl, -⟩ := comparison?_cases hcomparison
    · cases hfit
    · cases hfit
    · rw [← surroundingSize?_eq_zero_iff hnode, ← Option.some.injEq, ← hcoverage, coverage?]

theorem best?_of_score?_label (h : term.score? page x .label = some s) :
    Score.best? ((page.labels x).filterMap (term.scoreLabel? page)) = some s := by
  obtain ⟨hfound, -⟩ := score?_cases h
  simp only [score?, hfound, if_false] at h
  obtain ⟨-, -, hbest⟩ := Option.bind_eq_some_iff.mp h
  exact hbest

/-- The labels of an element give coverage zero just if one of those behind the path is
accepted as a whole. -/
theorem coverage_of_label_iff (hnode : term.node.IsCompiled)
    (h : term.score? page x .label = some s) :
    s.coverage = 0 ↔ ∃ start stop text, (.range start stop, text) ∈ page.labels x ∧
      term.isBehindPath start = true ∧ term.node.accepts text = true := by
  have hbest := best?_of_score?_label h
  constructor
  · intro hzero
    obtain ⟨⟨span, text⟩, hlabel, hscore⟩ := List.mem_filterMap.mp (Score.mem_of_best? hbest)
    obtain ⟨start, stop, coverage, rfl, hbehind, hcoverage, rfl⟩ :=
      scoreLabel?_eq_some_iff.mp hscore
    obtain rfl : coverage = 0 := hzero
    exact ⟨start, stop, text, hlabel, hbehind,
      (surroundingSize?_eq_zero_iff hnode text).mp hcoverage⟩
  · rintro ⟨start, stop, text, hlabel, hbehind, haccepts⟩
    have hzero := (surroundingSize?_eq_zero_iff hnode text).mpr haccepts
    have hscore : term.scoreLabel? page (.range start stop, text) = some ⟨0, _⟩ :=
      scoreLabel?_eq_some_iff.mpr ⟨start, stop, 0, rfl, hbehind, hzero, rfl⟩
    have hle := Score.coverage_le_of_best? hbest (List.mem_filterMap.mpr ⟨_, hlabel, hscore⟩)
    exact Nat.le_zero.mp hle

/-- Nothing is left around what a pattern finds if and only if it accepts the text as a whole.
So hits by attributes that have to be accepted as a whole cover nothing else, and hits by
values and labels that have to contain the last segment cover nothing else just if this
segment accepts them as a whole. -/
theorem nothing_around_iff_accepts :
    (∀ p : Pattern, p.IsCompiled → ∀ t, p.surroundingSize? t = some 0 ↔ p.accepts t = true) ∧
    ∀ settings l q page x, Locator.IsMade settings l → l.patterns = some q →
      (∀ clue e, clue.fit = .exact → (ofPatterns q page).hit? page x clue = some e →
        e.coverage = 0) ∧
      (∀ clue e pattern value,
        (ofPatterns q page).comparison? clue = some (pattern, .contains) →
        (ofPatterns q page).value? page x .contains clue = some value →
        (ofPatterns q page).hit? page x clue = some e →
        (e.coverage = 0 ↔ pattern.accepts value = true)) ∧
      ∀ e, (ofPatterns q page).hit? page x .label = some e →
        (e.coverage = 0 ↔ ∃ start stop text, (.range start stop, text) ∈ page.labels x ∧
          (ofPatterns q page).isBehindPath start = true ∧ q.node.accepts text = true) := by
  refine ⟨fun p => surroundingSize?_eq_zero_iff, fun settings l q page x hl hq => ?_⟩
  have hnode : (ofPatterns q page).node.IsCompiled := by
    obtain ⟨last, hlast⟩ := hl.compile_node hq
    exact .ofSpec hlast
  refine ⟨?_, ?_, ?_⟩
  · intro clue e hfit hhit
    obtain ⟨s, hscore, rfl⟩ := hit?_eq_some_iff.mp hhit
    exact coverage_of_exact hnode hfit hscore
  · intro clue e pattern value hcomparison hvalue hhit
    obtain ⟨s, hscore, rfl⟩ := hit?_eq_some_iff.mp hhit
    exact coverage_of_contains_iff hnode hcomparison hvalue hscore
  · intro e hhit
    obtain ⟨s, hscore, rfl⟩ := hit?_eq_some_iff.mp hhit
    exact coverage_of_label_iff hnode hscore

/-- An element with the id `ü` and the placeholder `üü`. The hit by the id covers nothing
else, the hit by the placeholder covers another character, and only the id is accepted as a
whole. -/
theorem nothing_around_iff_accepts_umlaut :
    ∃ l q page e e', Locator.ofSegments [['ü']] = .ok l ∧
    l.patterns = some q ∧ (ofPatterns q page).hit? page 0 (.attribute .id) = some e ∧
    e.coverage = 0 ∧
    (ofPatterns q page).hit? page 0 (.attribute .placeholder) = some e' ∧ e'.coverage = 2 ∧
    ¬q.node.accepts ['ü', 'ü'] = true ∧ q.node.surroundingSize? ['ü'] = some 0 := by
  let page : Page :=
    { Page.plain [] (fun _ => [0]) (fun _ => []) (fun _ => .range 0 0) (fun _ => []) id with
    attributeOf := fun _ which =>
      if which = .id then some ['ü']
      else if which = .placeholder then some ['ü', 'ü'] else none }
  obtain ⟨l, q, hl, hq, hnode, haccepts, hid, hcontains, hplaceholder⟩ : ∃ l q,
      Locator.ofSegments [['ü']] = .ok l ∧ l.patterns = some q ∧
      compile {} ['ü'] = .ok q.node ∧
      q.node.accepts ['ü'] = true ∧
      (ofPatterns q page).hit? page 0 (.attribute .id) = some ⟨0, .id, 0, 0, [], 0⟩ ∧
      (ofPatterns q page).comparison? (.attribute .placeholder) = some (q.node, .contains) ∧
      (ofPatterns q page).hit? page 0 (.attribute .placeholder) =
        some ⟨0, .placeholder, 2, 0, [], 0⟩ :=
    ⟨_, _, rfl, rfl, rfl, by decide, by decide, rfl, by decide⟩
  obtain ⟨hwhole, hhits⟩ := nothing_around_iff_accepts
  obtain ⟨hexact, hpart, -⟩ := hhits {} l q page 0 (Locator.isMade_ofSegments hl) hq
  have hzero := hexact (.attribute .id) _ rfl hid
  have hiff := hpart (.attribute .placeholder) _ q.node ['ü', 'ü'] hcontains rfl hplaceholder
  refine ⟨l, q, page, _, _, hl, hq, hid, hzero, hplaceholder, rfl, ?_, ?_⟩
  · rw [← hiff]
    decide
  · exact (hwhole q.node (.ofSpec hnode) ['ü']).mpr haccepts

end SearchTerm
end ControlSearch
