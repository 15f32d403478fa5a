import ControlSearch.Proofs.Search.Score
import ControlSearch.Proofs.Text.Boundary

/-!
# Terms that find the same

What a search finds depends on little of what it searches with: the patterns for a single
text, the end of the path, and what the other two patterns answer to the texts of the page.
Terms that agree on this find the same.
-/
namespace ControlSearch

namespace SearchTerm

variable {term term' : SearchTerm} {page : Page} {x : ElementId} {clue : Clue}
  {s : Score} {t : Text}

/-- A path, if there is one, says no more than whether it was found and where it ends. -/
theorem isBehindPath_eq (term : SearchTerm) (start : Nat) : term.isBehindPath start =
    ((term.pathSpan.bind Span.stop?).all fun stop => decide (stop ≤ start)) := by
  unfold isBehindPath
  split
  · rename_i b e h
    simp [h, Span.stop?]
  · rename_i h
    cases hspan : term.pathSpan with
    | none => rfl
    | some s =>
        cases s with
        | notFound => rfl
        | range b e => exact absurd hspan (h b e)

theorem labelStart_eq (term : SearchTerm) (fit : Fit) :
    term.labelStart fit = if fit =
      .startsWith then 0 else (term.pathSpan.bind Span.stop?).getD 0 := by
  cases fit with
  | startsWith => rfl
  | _ =>
      cases hspan : term.pathSpan with
      | none => simp [labelStart, hspan]
      | some s => cases s <;> simp [labelStart, hspan, Span.stop?]

theorem measured_subset (before : Text) (clue : Clue) (fit : Fit) :
    term.measured before clue fit ⊆ before := by
  unfold measured
  split
  · cases hsize : term.node.sizeBeforeLastShortest? before with
    | none => exact List.Subset.refl before
    | some cut =>
        rw [Option.bind_some]
        cases htake : before.take? cut with
        | none => exact List.Subset.refl before
        | some front => exact Text.subset_of_take? htake
  · exact List.Subset.refl before

/-! ## Agreement -/

/-- Two terms differ in their paths and in their patterns for all segments at most, and these
cannot be told apart by where the path ends or by what they answer to the texts of a page. -/
structure Agrees (page : Page) (term term' : SearchTerm) : Prop where
  node : term'.node = term.node
  startsWith : term'.startsWith = term.startsWith
  pathStop : term'.pathSpan.map Span.stop? = term.pathSpan.map Span.stop?
  whole : ∀ t, t ⊆ page.text →
  coverage? term'.whole t .endsWith = coverage? term.whole t .endsWith
  valueDistance : ∀ t, t ⊆ page.text → term'.valueDistance t = term.valueDistance t
  labelDistance : ∀ t, t ⊆ page.text → term'.labelDistance t = term.labelDistance t

namespace Agrees

theorem symm (h : Agrees page term term') : Agrees page term' term where
  node := h.node.symm
  startsWith := h.startsWith.symm
  pathStop := h.pathStop.symm
  whole t ht := (h.whole t ht).symm
  valueDistance t ht := (h.valueDistance t ht).symm
  labelDistance t ht := (h.labelDistance t ht).symm

theorem bind_stop? (h : Agrees page term term') :
    term'.pathSpan.bind Span.stop? = term.pathSpan.bind Span.stop? := by
  have hbind := congrArg (Option.bind · id) h.pathStop
  simpa [Option.bind_map] using hbind

theorem isBehindPath (h : Agrees page term term') (start : Nat) :
    term'.isBehindPath start = term.isBehindPath start := by
  rw [isBehindPath_eq, isBehindPath_eq, h.bind_stop?]

theorem pathSpan_iff (h : Agrees page term term') :
    term'.pathSpan = some .notFound ↔ term.pathSpan = some .notFound := by
  have hnone (s : Option Span) : s = some .notFound ↔ s.map Span.stop? = some none := by
    cases s with
    | none => simp
    | some s => cases s <;> simp [Span.stop?]
  rw [hnone, hnone, h.pathStop]

theorem comparison? (h : Agrees page term term') (hclue : clue ≠ .wholeTextBefore) :
    term'.comparison? clue = term.comparison? clue := by
  cases clue with
  | wholeTextBefore => exact absurd rfl hclue
  | _ => simp only [SearchTerm.comparison?, h.node, h.startsWith]

theorem value? (h : Agrees page term term') (fit : Fit) :
    term'.value? page x fit clue = term.value? page x fit clue := by
  cases clue with
  | labelTextBefore => simp only [SearchTerm.value?, labelStart_eq, h.bind_stop?]
  | _ => rfl

theorem measured (h : Agrees page term term') (fit : Fit) :
    term'.measured t clue fit = term.measured t clue fit := by
  simp only [SearchTerm.measured, h.node]

variable (hpage : ∀ x, page.textBefore x ⊆ page.text)

include hpage in
theorem scoreValue?_of_eq_some (h : Agrees page term term')
    (hs : term.scoreValue? page x clue = some s) :
    term'.scoreValue? page x clue = some s := by
  obtain ⟨pattern, fit, start, value, coverage, hcomparison, hstart, hbehind, hvalue, hne,
    hcoverage, rfl⟩ := scoreValue?_eq_some_iff.mp hs
  rw [← h.isBehindPath] at hbehind
  rw [← h.value?] at hvalue
  have hbefore : term.measured (page.textBefore x) clue fit ⊆ page.text :=
    List.Subset.trans (measured_subset _ _ _) (hpage x)
  rw [← h.valueDistance _ hbefore, ← h.measured]
  by_cases hclue : clue = .wholeTextBefore
  · subst hclue
    obtain ⟨rfl, rfl⟩ := Prod.mk.inj (Option.some.inj hcomparison)
    obtain rfl := Option.some.inj hvalue
    rw [← h.whole _ (hpage x)] at hcoverage
    exact scoreValue?_eq_some_iff.mpr ⟨term'.whole, .endsWith, start, page.textBefore x,
      coverage, rfl, hstart, hbehind, rfl, hne, hcoverage, rfl⟩
  · rw [← h.comparison? hclue] at hcomparison
    exact scoreValue?_eq_some_iff.mpr ⟨pattern, fit, start, value, coverage,
      hcomparison, hstart, hbehind, hvalue, hne, hcoverage, rfl⟩

theorem scoreLabel? (h : Agrees page term term') (label : Span × Text) :
    term'.scoreLabel? page label = term.scoreLabel? page label := by
  obtain ⟨span, text⟩ := label
  cases span with
  | notFound => rfl
  | range start stop =>
      have hbefore : Text.trimEnd ((page.text.take? start).getD []) ⊆ page.text := by
        apply List.Subset.trans (Text.trimEnd_subset _)
        cases htake : page.text.take? start with
        | none => exact List.nil_subset _
        | some front => exact Text.subset_of_take? htake
      have hdistance := h.labelDistance _ hbefore
      simp only [SearchTerm.labelDistance] at hdistance
      simp only [SearchTerm.scoreLabel?, h.isBehindPath, h.node, hdistance]

include hpage in
/-- Terms that agree score every hit alike. -/
theorem score? (h : Agrees page term term') (x : ElementId) (clue : Clue) :
    term'.score? page x clue = term.score? page x clue := by
  have hvalue : term'.scoreValue? page x clue = term.scoreValue? page x clue := by
    refine Option.ext fun s => ?_
    exact ⟨h.symm.scoreValue?_of_eq_some hpage, h.scoreValue?_of_eq_some hpage⟩
  have hlabels : term'.scoreLabels? page x = term.scoreLabels? page x := by
    have hall : term'.scoreLabel? page = term.scoreLabel? page := funext h.scoreLabel?
    have hcomparison : term'.comparison? .label = term.comparison? .label :=
      h.comparison? nofun
    rw [scoreLabels?, scoreLabels?, hcomparison, hall]
  by_cases hfound : term.pathSpan = some .notFound
  · have hfound' := h.pathSpan_iff.mpr hfound
    simp [SearchTerm.score?, hfound, hfound']
  · have hfound' := mt h.pathSpan_iff.mp hfound
    cases clue with
    | label => simpa [SearchTerm.score?, hfound, hfound'] using hlabels
    | _ => simpa [SearchTerm.score?, hfound, hfound'] using hvalue

include hpage in
theorem hits (h : Agrees page term term') (clues : List Clue) :
    term'.hits page clues = term.hits page clues := by
  funext x
  have hhit : term'.hit? page x = term.hit? page x := by
    funext clue
    simp only [hit?, h.score? hpage]
  simp only [SearchTerm.hits, hhit]

end Agrees

end SearchTerm
end ControlSearch
