import ControlSearch.Proofs.Page.DocumentOrder
import ControlSearch.Proofs.Search.Distance

/-!
# Path, label and control

The label text in front of an element begins behind the path. The text in front of the element
is cut at the last segment, which is searched for once more, in all of this text. It is found
in the label text or not at all, so path, label and control follow one another, and the cut
takes nothing from the path.
-/
namespace ControlSearch

namespace StaticPage

variable {page : StaticPage} {x : ElementId} {placed : PlacedElement} {start : Nat}

/-- A label text ends a beginning of the page text, and what is in front of it there reaches
as far as the offset that was asked for. -/
theorem IsBuilt.exists_labelBefore_eq (h : page.IsBuilt)
    (hx : page.elements[x]? = some placed)
    (hne : page.labelBefore x start ≠ []) : ∃ front rest,
      page.textBefore x = front ++ page.labelBefore x start ∧ start ≤ front.size ∧
      page.text = page.textBefore x ++ rest := by
  obtain ⟨front, hfront, hle⟩ := h.exists_append_labelBefore hx hne
  -- There is a blank in front of every element but one at the very start, which has no label
  -- text.
  have hplace : 0 < placed.start := by
    by_contra hzero
    have hempty : page.textBefore x = [] := by
      simp [textBefore, hx, StaticPage.between, RunningText.between,
        Nat.eq_zero_of_not_pos hzero]
    rw [hempty] at hfront
    exact hne (List.append_eq_nil_iff.mp hfront.symm).2
  obtain ⟨u, w, htext, hu⟩ := (h.setOff_element (List.mem_of_getElem? hx)).exists_eq hplace
  refine ⟨front, ' ' :: w, hfront, hle, ?_⟩
  rw [h.textBefore_eq hx htext hu, htext]

end StaticPage

namespace Pattern
open Wildcard

variable {settings : PatternSettings} {spec u w : Text} {p : Pattern} {b e : Nat}

/-- A beginning of a text that reaches as far as the first occurrence keeps it. The last
occurrence there does not end in front of it. -/
theorem exists_lastShortest_of_first (h : compile settings spec = .ok p)
    (hp : p.isEverything = false) (hfirst : p.first (u ++ w) = .range b e)
    (hle : e ≤ u.size) :
    Occurs settings.dotMatchesNewLine spec u b e ∧ ∃ lastStart lastStop,
      p.lastShortest u = .range lastStart lastStop ∧ e ≤ lastStop ∧ lastStop ≤ u.size := by
  have hspan := isFirst_first h hp (u ++ w)
  rw [hfirst] at hspan
  have hkept : Occurs settings.dotMatchesNewLine spec u b e :=
    occurs_append_left_iff.mpr ⟨hspan.2.1, hle⟩
  have hlast := isLast_lastShortest h hp u
  refine ⟨hkept, ?_⟩
  cases hshortest : p.lastShortest u with
  | notFound =>
      rw [hshortest] at hlast
      exact absurd hkept (hlast b e)
  | range lastStart lastStop =>
      rw [hshortest] at hlast
      have hocc : Occurs settings.dotMatchesNewLine spec u lastStart lastStop := hlast.2.1
      obtain ⟨hwhole, hstop⟩ := (occurs_append_left_iff (w := w)).mp hocc
      exact ⟨lastStart, lastStop, rfl, hspan.isLeast_stop.2 ⟨lastStart, hwhole⟩, hstop⟩

end Pattern

namespace StaticPage
open Pattern

variable {page : StaticPage} {x : ElementId} {placed : PlacedElement}
  {settings : PatternSettings}
  {spec : Text} {node : Pattern} {start coverage : Nat}

/-- What is found in a label text is found behind its start in all text in front of the
element, too, and what is in front of it there begins the page text. -/
theorem IsBuilt.exists_cut (h : page.IsBuilt) (hx : page.elements[x]? = some placed)
    (hspec : compile settings spec = .ok node) (hnode : node.isEverything = false)
    (hne : page.labelBefore x start ≠ [])
    (hcoverage : node.surroundingSize? (page.labelBefore x start) = some coverage) :
    ∃ before w rest stop, page.textBefore x = before ++ w ∧ page.text = before ++ rest ∧
      node.lastShortest (page.textBefore x) = .range before.size stop ∧
      start ≤ before.size := by
  obtain ⟨front, rest, hfront, hle, htext⟩ := h.exists_labelBefore_eq hx hne
  obtain ⟨cut, stop, hcut, hbehind⟩ :=
    exists_lastShortest_append hspec hnode front hne hcoverage
  rw [← hfront] at hcut
  obtain ⟨before, w, hbefore, rfl⟩ := exists_eq_of_lastShortest hspec hnode hcut
  refine ⟨before, w, w ++ rest, stop, hbefore, ?_, hcut, hle.trans hbehind⟩
  rw [htext, hbefore, List.append_assoc]

end StaticPage

namespace SearchTerm
open Pattern Wildcard

variable {settings : PatternSettings} {term : SearchTerm} {page : StaticPage} {l : Locator}
  {q : Locator.Patterns} {path : Pattern} {x : ElementId} {s : Score} {b e : Nat}
  {before : Text}

theorem valueDistance_of_lastShortest (hpath : term.path = some path)
    (hp : path.isEverything = false) (h : path.lastShortest before = .range b e) :
    term.valueDistance before = before.size - e := by
  simp only [valueDistance, hpath, Option.bind_some, sizeAfterLastShortest?, hp,
    Bool.false_eq_true, if_false, h, Span.stop?, Option.map_some, Option.getD_some]

/-- A hit by label text behind a path: the last segment was found in a text that ends all text
in front of the element, and from the end of the path on. -/
theorem exists_label_of_score? (hnode : term.node.mayBeEmpty = false)
    (hspan : term.pathSpan = some (.range b e))
    (h : term.score? page.toPage x .labelTextBefore = some s) :
    page.labelBefore x e ≠ [] ∧ (∃ placed, page.elements[x]? = some placed) ∧
      (∃ coverage, term.node.surroundingSize? (page.labelBefore x e) = some coverage) ∧
      s.distance =
        term.valueDistance
          (term.measured (page.textBefore x) .labelTextBefore .contains) := by
  rcases score?_cases h with ⟨-, ⟨hlabel, -⟩ | ⟨-, hscore⟩⟩
  · cases hlabel
  · obtain ⟨pattern, fit, start, value, coverage, hcomparison, hstart, -, hvalue, hne,
        hcoverage, rfl⟩ :=
      scoreValue?_eq_some_iff.mp hscore
    have hboth : (term.node, Fit.contains) = (pattern, fit) := by
      simpa [comparison?, hnode, Clue.fit] using hcomparison
    obtain ⟨rfl, rfl⟩ := Prod.mk.inj hboth
    have hlabel : page.labelBefore x e = value := by
      simpa [value?, labelStart, hspan, StaticPage.toPage] using hvalue
    obtain ⟨placed, hx, -⟩ := StaticPage.exists_placed hstart
    rw [hlabel]
    exact ⟨hne, ⟨placed, hx⟩, ⟨coverage, hcoverage⟩, rfl⟩

/-- In front of an element that is hit by label text, the last occurrence of the last segment
starts at the end of the first occurrence of the path, or behind it. The text in front of it
keeps this occurrence of the path, and the distance is what lies between the last occurrence
of the path there and the cut. -/
theorem label_cut_behind_path (hl : l.IsMade settings) (hq : l.patterns = some q)
    (hpath : q.path = some path) (hopen : path.isEverything = false)
    (hnode : q.node.isEverything = false) (hpage : page.IsBuilt)
    (h : (ofPatterns q page.toPage).score? page.toPage x .labelTextBefore = some s) :
    ∃ b e cut stop before lastStart lastStop,
      path.first page.text = .range b e ∧
      q.node.lastShortest (page.textBefore x) = .range cut stop ∧ e ≤ cut ∧
      (page.textBefore x).take? cut = some before ∧ page.text.take? cut = some before ∧
      (ofPatterns q page.toPage).measured (page.textBefore x) .labelTextBefore .contains =
        before ∧
      Occurs settings.dotMatchesNewLine path.spec before b e ∧
      path.lastShortest before = .range lastStart lastStop ∧ e ≤ lastStop ∧
      s.distance + lastStop = cut := by
  have hterm : (ofPatterns q page.toPage).path = some path := by
    simp [ofPatterns, hpath, hopen]
  obtain ⟨last, hlast⟩ := hl.compile_node hq
  have hspan : (ofPatterns q page.toPage).pathSpan = some (path.first page.text) :=
    pathSpan_ofPatterns hpath hopen
  cases hfirst : path.first page.text with
  | notFound => exact absurd (hfirst ▸ hspan) (score?_cases h).1
  | range b e =>
      rw [hfirst] at hspan
      have hmay : q.node.mayBeEmpty = false := by rw [mayBeEmpty_eq_isEverything hlast, hnode]
      obtain ⟨hne, ⟨placed, hx⟩, ⟨coverage, hcoverage⟩, hdistance⟩ :=
        exists_label_of_score? hmay hspan h
      obtain ⟨before, w, rest, stop, hbefore, htext, hcut, hle⟩ :=
        hpage.exists_cut hx hlast hnode hne hcoverage
      have htake : (page.textBefore x).take? before.size = some before :=
        Text.take?_eq_some_iff.mpr ⟨w, hbefore, rfl⟩
      have hmeasured :
          (ofPatterns q page.toPage).measured (page.textBefore x) .labelTextBefore .contains =
          before := measured_eq_of_lastShortest hnode hcut htake
      obtain ⟨hkept, lastStart, lastStop, hshortest, hstop, hend⟩ :=
        exists_lastShortest_of_first (hl.compile_path hq hpath) hopen (htext ▸ hfirst) hle
      rw [hmeasured, valueDistance_of_lastShortest hterm hopen hshortest] at hdistance
      exact ⟨b, e, before.size, stop, before, lastStart, lastStop, rfl, hcut, hle, htake,
        Text.take?_eq_some_iff.mpr ⟨rest, htext, rfl⟩, hmeasured, hkept, hshortest,
        hstop, by omega⟩

/-- The patterns of the segments `가` and `가`. -/
def sameSyllables : Locator.Patterns :=
  ⟨some ⟨['가'], .word ['가']⟩, ⟨['가'], .word ['가']⟩,
    ⟨['가', '*', '가'], .automaton (expression true [.char '가', .anyRun, .char '가'])⟩, none⟩

set_option maxRecDepth 10000 in
theorem compile_sameSyllables : compile {} ['가', '*', '가'] =
    .ok ⟨['가', '*', '가'], .automaton (expression true [.char '가', .anyRun, .char '가'])⟩ := by
  cbv

/-- Three times the same syllable: the path is the first one, the cut is made at the last one,
and the distance is counted from the one in between. -/
theorem label_cut_behind_syllable : ∃ (l : Locator) (q : Locator.Patterns) (path : Pattern)
    (page : StaticPage) (s : Score), Locator.ofSegments [['가'], ['가']] = .ok l ∧
    l.patterns = some q ∧ q.path = some path ∧ path.isEverything = false ∧
    q.node.isEverything = false ∧
    page.IsBuilt ∧ (ofPatterns q page.toPage).score? page.toPage 1 .labelTextBefore = some s ∧
    path.first page.text = .range 0 3 ∧ ∃ cut before lastStop, 3 ≤ cut ∧
      page.text.take? cut = some before ∧ path.lastShortest before = .range 4 lastStop ∧
      s.distance + lastStop = cut := by
  let calls : List PageBuilder.Call :=
    [.text ['가'], .element (.clickable ['가']), .text ['가'], .element .textInput]
  have hbuilt : (PageBuilder.ofCalls calls).build.IsBuilt :=
    ⟨_, PageBuilder.reachable_ofCalls calls, rfl⟩
  have hl : Locator.ofSegments [['가'], ['가']] = .ok ⟨[['가'], ['가']], some sameSyllables⟩ :=
    Locator.ofSegmentsWith_eq_ok rfl
      (Locator.compileWith_eq_ok_iff.mpr ⟨rfl, rfl, compile_sameSyllables, rfl⟩)
  have hscore : (ofPatterns sameSyllables (PageBuilder.ofCalls calls).build.toPage).score?
      (PageBuilder.ofCalls calls).build.toPage 1 .labelTextBefore = some ⟨4, 1⟩ := by decide
  obtain ⟨b, e, cut, stop, before, lastStart, lastStop, hfirst, hnode, hle, -, hbefore, -, -,
    hlast, -, hdistance⟩ :=
      label_cut_behind_path (Locator.isMade_ofSegments hl) rfl rfl rfl rfl hbuilt hscore
  have hplace :
      (Pattern.mk ['가'] (.word ['가'])).first (PageBuilder.ofCalls calls).build.text =
      .range 0 3 := by decide
  have hcut : (Pattern.mk ['가'] (.word ['가'])).lastShortest
      ((PageBuilder.ofCalls calls).build.textBefore 1) = .range 8 11 := by decide
  have hlink :
      (Pattern.mk ['가'] (.word ['가'])).lastShortest ['가', ' ', '가', ' '] = .range 4 7 := by
    decide
  obtain ⟨rfl, rfl⟩ := Span.range.inj (hfirst.symm.trans hplace)
  obtain ⟨rfl, rfl⟩ := Span.range.inj (hnode.symm.trans hcut)
  obtain rfl : ['가', ' ', '가', ' '] = before := by
    refine Option.some.inj (Eq.trans ?_ hbefore)
    decide
  obtain ⟨rfl, rfl⟩ := Span.range.inj (hlast.symm.trans hlink)
  exact ⟨_, _, _, _, _, hl, rfl, rfl, rfl, rfl, hbuilt, hscore, hplace, 8, _, 7, hle,
    hbefore, hlink, hdistance⟩

end SearchTerm
end ControlSearch
