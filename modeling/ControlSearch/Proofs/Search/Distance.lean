import ControlSearch.Proofs.Page.TextBefore
import ControlSearch.Proofs.Search.PathGate
import ControlSearch.Proofs.Search.Score

/-!
# Distances from the path

A distance is meant to be counted from the last occurrence of the path. The path is searched
once in the page text, up to the place of what is hit, and once more in the text that is read
in front of this place, which lacks the blank at its end. An occurrence that takes this blank
is lost between the two searches, and the distance is then that of a path that was never
found.
-/
namespace ControlSearch

namespace Pattern
open Wildcard

variable {settings : PatternSettings} {dotNewLine : Bool} {spec t u w : Text}
  {p : Pattern} {s : Span}
  {pick : Set Nat → Nat → Prop} {b e : Nat}

/-- Something occurs in the beginning of a text if and only if the first occurrence ends
there. -/
theorem occurs_beginning_iff (h : compile settings spec = .ok p) (hp : p.isEverything = false)
    (hfirst : p.first (u ++ w) = .range b e) :
    (∃ b' e', Occurs settings.dotMatchesNewLine spec u b' e') ↔ e ≤ u.size := by
  have hspan := isFirst_first h hp (u ++ w)
  rw [hfirst] at hspan
  constructor
  · rintro ⟨b', e', hocc⟩
    obtain ⟨hwhole, hle⟩ := occurs_append_left_iff.mp hocc
    exact (hspan.isLeast_stop.2 ⟨b', hwhole⟩).trans hle
  · intro hle
    exact ⟨b, e, occurs_append_left_iff.mpr ⟨hspan.2.1, hle⟩⟩

/-- A number of bytes lies behind the last occurrence in a text. -/
def IsBehindLast (dotNewLine : Bool) (spec t : Text) (n : Nat) : Prop :=
  ∃ b e, IsGreatest {b | ∃ e, Occurs dotNewLine spec t b e} b ∧ Occurs dotNewLine spec t b e ∧
    n + e = t.size

/-- A number of bytes is what a text leaves behind the last occurrence, and the size of the
text if nothing occurs. -/
structure IsDistanceIn (dotNewLine : Bool) (spec t : Text) (n : Nat) : Prop where
  behind : (∃ b e, Occurs dotNewLine spec t b e) → IsBehindLast dotNewLine spec t n
  whole : (∀ b e, ¬Occurs dotNewLine spec t b e) → n = t.size

theorem isDistanceIn_of_isLast (hlast : IsLast (Occurs dotNewLine spec t) pick s)
    (hpick : ∀ ends n, pick ends n → n ∈ ends) :
    IsDistanceIn dotNewLine spec t ((s.stop?.map (t.size - ·)).getD t.size) := by
  cases s with
  | notFound =>
      constructor
      · rintro ⟨b, e, h⟩
        exact absurd h (hlast b e)
      · exact fun _ => rfl
  | range b e =>
      obtain ⟨hstart, hstop⟩ := hlast
      have h : Occurs dotNewLine spec t b e := hpick _ _ hstop
      have hle := h.stop_le
      constructor
      · intro _
        refine ⟨b, e, hstart, h, ?_⟩
        simp only [Span.stop?, Option.map_some, Option.getD_some]
        omega
      · exact fun hnone => absurd h (hnone b e)

/-- A shortest occurrence ends with the last character of its spec, whatever stars are behind
it. -/
theorem exists_eq_of_isLeast {parts runs : List Wildcard} {c : Char}
    (hleast : IsLeast {e | Occurs dotNewLine spec t b e} e)
    (hspec : ofSpec spec = parts ++ .char c :: runs) (hruns : isOpen runs = true) :
    ∃ v w, t = v ++ c :: w ∧ v.size + c.utf8Size = e := by
  obtain ⟨hocc, hmin⟩ := hleast
  obtain ⟨v, u, w, rfl, rfl, he, hu⟩ := occurs_iff.mp hocc
  rw [hspec] at hu
  obtain ⟨front, _, rfl, hfront, ⟨back, rfl, -⟩⟩ := accepts_append.mp hu
  have hshort : Accepts dotNewLine (ofSpec spec) (front ++ [c]) := by
    rw [hspec]
    exact accepts_append.mpr ⟨front, [c], rfl, hfront, [], rfl, accepts_nil_iff.mpr hruns⟩
  have hshorter : e ≤ v.size + Text.size (front ++ [c]) :=
    hmin (occurs_iff.mpr ⟨v, front ++ [c], back ++ w, by simp, rfl, rfl, hshort⟩)
  have hback : back = [] := by
    apply Text.size_eq_zero_iff.mp
    simp only [Text.size_append, Text.size_cons, Text.size_nil] at he hshorter
    omega
  subst hback
  refine ⟨v ++ front, w, by simp, ?_⟩
  simp only [Text.size_append, Text.size_cons, Text.size_nil] at he ⊢
  omega

/-- The last occurrence starts between two parts of a text. -/
theorem exists_eq_of_lastShortest (h : compile settings spec = .ok p)
    (hp : p.isEverything = false) (hlast : p.lastShortest t = .range b e) :
    ∃ v w, t = v ++ w ∧ v.size = b := by
  have hspan := isLast_lastShortest h hp t
  rw [hlast] at hspan
  obtain ⟨v, n, w, htext, hv, -⟩ := occurs_iff.mp hspan.2.1
  exact ⟨v, n ++ w, htext, hv⟩

/-- What is found in the end of a text is found there, or behind it, in the whole text,
too. -/
theorem exists_lastShortest_append (h : compile settings spec = .ok p)
    (hp : p.isEverything = false) (front : Text) {value : Text} (hvalue : value ≠ [])
    {coverage : Nat} (hcoverage : p.surroundingSize? value = some coverage) :
    ∃ b e, p.lastShortest (front ++ value) = .range b e ∧ front.size ≤ b := by
  obtain ⟨width, hwidest, hsize⟩ := (answers_compile h hp hvalue).surroundingSize?_eq
  cases width with
  | none =>
      rw [hsize] at hcoverage
      cases hcoverage
  | some width =>
      obtain ⟨b', e', hocc, -⟩ := hwidest.1
      have hwhole := (occurs_append_right_iff (v := front)).mp hocc
      have hlast := isLast_lastShortest h hp (front ++ value)
      cases hspan : p.lastShortest (front ++ value) with
      | notFound =>
          rw [hspan] at hlast
          exact absurd hwhole (hlast _ _)
      | range b e =>
          rw [hspan] at hlast
          have hle : front.size + b' ≤ b := hlast.1.2 ⟨_, hwhole⟩
          exact ⟨b, e, rfl, by omega⟩

end Pattern

namespace SearchTerm
open Pattern Wildcard
open StaticPage (controlBehind isBuilt_controlBehind_syllable)

variable {settings : PatternSettings} {term : SearchTerm} {page : StaticPage} {l : Locator}
  {q : Locator.Patterns} {path : Pattern} {before spec : Text} {x : ElementId}
  {clue : Clue} {s : Score} {start b e : Nat}

theorem isDistanceIn_valueDistance (hpath : term.path = some path)
    (h : compile settings path.spec = .ok path) (hp : path.isEverything = false)
    (before : Text) :
    IsDistanceIn settings.dotMatchesNewLine path.spec before (term.valueDistance before) := by
  have hlast := isLast_lastShortest h hp before
  simp only [valueDistance, hpath, Option.bind_some, sizeAfterLastShortest?, hp,
    Bool.false_eq_true, if_false]
  exact isDistanceIn_of_isLast hlast fun _ _ hn => hn.1

theorem isDistanceIn_labelDistance (hpath : term.path = some path)
    (h : compile settings path.spec = .ok path) (hp : path.isEverything = false)
    (before : Text) :
    IsDistanceIn settings.dotMatchesNewLine path.spec before (term.labelDistance before) := by
  have hlast := isLast_lastLongest h hp before
  simp only [labelDistance, hpath, Option.bind_some, sizeAfterLast?, hp,
    Bool.false_eq_true, if_false]
  exact isDistanceIn_of_isLast hlast fun _ _ hn => hn.1

/-! ## The measured texts -/

/-- The place of what a clue has found, an element or one of its labels, and the text in front
of it on which the distance from the path is measured. -/
inductive MeasuredAt (term : SearchTerm) (page : Page) (x : ElementId) :
    Clue → Nat → Text → Prop
  | value {clue : Clue} {start : Nat} {pattern : Pattern} {fit : Fit} : clue ≠ .label →
      (page.position x).start? = some start → term.comparison? clue = some (pattern, fit) →
      MeasuredAt term page x clue start (term.measured (page.textBefore x) clue fit)
  | label {start stop : Nat} {text : Text} : (.range start stop, text) ∈ page.labels x →
      MeasuredAt term page x .label start ((page.text.take? start).getD []).trimEnd

/-- In front of what is found by an attribute all text is measured. -/
theorem MeasuredAt.attribute {page : Page} {which : Attribute}
    (h : term.MeasuredAt page x (.attribute which) start before) :
    before = page.textBefore x := by
  cases h with
  | value => simp [measured]

/-- A text is cut at the last occurrence of the node. -/
theorem measured_eq_of_lastShortest (hp : term.node.isEverything = false)
    {cut stop : Nat} {v : Text} (hlast : term.node.lastShortest before = .range cut stop)
    (hv : before.take? cut = some v) :
    term.measured before .labelTextBefore .contains = v := by
  have hne : before ≠ [] := by
    rintro rfl
    simp [lastShortest] at hlast
  simp [measured, sizeBeforeLastShortest?, hne, hp, hlast, Span.start?, hv]

/-- Where a node is found in the end of a text, the text is cut no earlier than there. -/
theorem measured_labelText (h : compile settings spec = .ok term.node)
    (hp : term.node.isEverything = false) {front value : Text} {coverage : Nat}
    (hbefore : before = front ++ value) (hvalue : value ≠ [])
    (hcoverage : term.node.surroundingSize? value = some coverage) :
    ∃ w, before = term.measured before .labelTextBefore .contains ++ w ∧
      front.size ≤ (term.measured before .labelTextBefore .contains).size := by
  obtain ⟨cut, stop, hlast, hle⟩ := exists_lastShortest_append h hp front hvalue hcoverage
  rw [← hbefore] at hlast
  obtain ⟨v, w, htext, hv⟩ := exists_eq_of_lastShortest h hp hlast
  rw [measured_eq_of_lastShortest hp hlast (Text.take?_eq_some_iff.mpr ⟨w, htext, hv⟩)]
  exact ⟨w, htext, by omega⟩

/-- What a label text is compared with, if it has to contain the last segment, is the node. -/
theorem comparison?_contains {pattern : Pattern}
    (h : term.comparison? .labelTextBefore = some (pattern, .contains)) :
    pattern = term.node ∧ term.node.isEverything = false := by
  by_cases hempty : term.node.mayBeEmpty = true
  · cases hstart : term.startsWith with
    | none => simp [comparison?, hempty, hstart] at h
    | some p => simp [comparison?, hempty, hstart] at h
  · simp only [comparison?, hempty, Bool.false_eq_true, if_false] at h
    have hpattern : term.node = pattern := congrArg Prod.fst (Option.some.inj h)
    exact ⟨hpattern.symm, isEverything_of_mayBeEmpty (by simpa using hempty)⟩

/-! ## The two searches -/

/-- What is measured in front of a place: a beginning of the page text, from which at least
the blank in front of the place is gone, and nothing else that belongs to an occurrence that
ends there. -/
structure CutsBlank (t : Text) (stop start : Nat) (before : Text) : Prop where
  setOff : SetOff t start
  stop_le : stop ≤ start
  beginning : ∃ w, t = before ++ w
  within_iff : stop ≤ before.size ↔ stop < start

variable {span : Span} {text : Text}

theorem le_of_isBehindPath (hspan : term.pathSpan = some (.range b e))
    (h : term.isBehindPath start = true) : e ≤ start := by
  simpa [isBehindPath, hspan] using h

/-- In front of a label all but one blank is measured. -/
theorem exists_cutsBlank_label (hpage : page.IsBuilt)
    (hspan : term.pathSpan = some (.range b e)) (hbe : b < e)
    (hmem : (span, text) ∈ page.toPage.labels x)
    (h : term.scoreLabel? page.toPage (span, text) = some s) :
    ∃ start before, term.MeasuredAt page.toPage x .label start before ∧
      CutsBlank page.text e start before ∧ s.distance = term.labelDistance before := by
  obtain ⟨start, stop, coverage, rfl, hbehind, -, rfl⟩ := scoreLabel?_eq_some_iff.mp h
  have hle := le_of_isBehindPath hspan hbehind
  have hset := hpage.setOff_labels hmem
  obtain ⟨u, w, htext, hu⟩ := hset.exists_eq (by omega)
  have hprefix : page.text = (u ++ [' ']) ++ w := by simp [htext]
  have hsize : Text.size (u ++ [' ']) = start := by
    rw [← hu, Text.size_append]
    rfl
  have htake : page.text.take? start = some (u ++ [' ']) :=
    Text.take?_eq_some_iff.mpr ⟨w, hprefix, hsize⟩
  have hbefore : Text.trimEnd ((page.toPage.text.take? start).getD []) = u := by
    change Text.trimEnd ((page.text.take? start).getD []) = u
    rw [htake]
    exact (hpage.tidy.of_prefix ⟨w, hprefix.symm⟩).trimEnd_concat
  have hmeasured : term.MeasuredAt page.toPage x .label start _ := .label hmem
  rw [hbefore] at hmeasured ⊢
  exact ⟨start, u, hmeasured, ⟨hset, hle, ⟨_, htext⟩, by omega⟩, rfl⟩

/-- In front of an element all but one blank is measured, or the text up to the last segment,
which is searched behind the path only. -/
theorem exists_cutsBlank_value (hpage : page.IsBuilt)
    (hnode : ∃ spec, compile settings spec = .ok term.node)
    (hspan : term.pathSpan = some (.range b e)) (hbe : b < e) (hclue : clue ≠ .label)
    (h : term.scoreValue? page.toPage x clue = some s) :
    ∃ start before, term.MeasuredAt page.toPage x clue start before ∧
      CutsBlank page.text e start before ∧ s.distance = term.valueDistance before := by
  obtain ⟨pattern, fit, start, value, coverage, hcomparison, hstart, hbehind, hvalue, hne,
    hcoverage, rfl⟩ := scoreValue?_eq_some_iff.mp h
  have hle := le_of_isBehindPath hspan hbehind
  have hmeasured := MeasuredAt.value hclue hstart hcomparison
  obtain ⟨placed, hx, rfl⟩ := StaticPage.exists_placed hstart
  have hset := hpage.setOff_element (List.mem_of_getElem? hx)
  obtain ⟨u, w, htext, hu⟩ := hset.exists_eq (by omega)
  have hbefore : page.toPage.textBefore x = u := hpage.textBefore_eq hx htext hu
  rw [hbefore] at hmeasured ⊢
  refine ⟨placed.start, _, hmeasured, ?_, rfl⟩
  by_cases hlabel : clue = .labelTextBefore ∧ fit = .contains
  -- The label text begins at the end of the path or behind it, and so does the last segment
  -- in it.
  · obtain ⟨rfl, rfl⟩ := hlabel
    obtain ⟨rfl, hopen⟩ := comparison?_contains hcomparison
    obtain ⟨spec, hspec⟩ := hnode
    have hlabelBefore : page.labelBefore x e = value := by
      simpa [value?, labelStart, hspan, StaticPage.toPage] using hvalue
    subst hlabelBefore
    obtain ⟨front, hfront, hcut⟩ := hpage.exists_append_labelBefore hx hne
    rw [hpage.textBefore_eq hx htext hu] at hfront
    obtain ⟨w', hw', hsize⟩ := measured_labelText hspec hopen hfront hne hcoverage
    have hlonger : Text.size front ≤ Text.size u := by
      rw [hfront, Text.size_append]
      omega
    refine ⟨hset, hle, ⟨w' ++ ' ' :: w, ?_⟩, iff_of_true (by omega) (by omega)⟩
    rw [htext, ← List.append_assoc, ← hw']
  · have hwhole : term.measured u clue fit = u := by simp [measured, hlabel]
    rw [hwhole]
    exact ⟨hset, hle, ⟨_, htext⟩, by omega⟩

/-- Each distance is counted in a text that is cut no further. -/
theorem exists_cutsBlank (hpage : page.IsBuilt)
    (hnode : ∃ spec, compile settings spec = .ok term.node) (hpath : term.path = some path)
    (hcompile : compile settings path.spec = .ok path) (hopen : path.isEverything = false)
    (hspan : term.pathSpan = some (.range b e)) (hbe : b < e)
    (h : term.score? page.toPage x clue = some s) :
    ∃ start before, term.MeasuredAt page.toPage x clue start before ∧
      CutsBlank page.text e start before ∧
      IsDistanceIn settings.dotMatchesNewLine path.spec before s.distance := by
  rcases score?_cases h with ⟨-, ⟨rfl, label, hmem, hscore⟩ | ⟨hclue, hscore⟩⟩
  · obtain ⟨start, before, hat, hcut, hdistance⟩ :=
      exists_cutsBlank_label hpage hspan hbe hmem hscore
    rw [hdistance]
    exact ⟨start, before, hat, hcut, isDistanceIn_labelDistance hpath hcompile hopen before⟩
  · obtain ⟨start, before, hat, hcut, hdistance⟩ :=
      exists_cutsBlank_value hpage hnode hspan hbe hclue hscore
    rw [hdistance]
    exact ⟨start, before, hat, hcut, isDistanceIn_valueDistance hpath hcompile hopen before⟩

/-- An occurrence whose spec ends with a character, but no blank, does not end behind a
blank. -/
theorem CutsBlank.stop_lt {t : Text} {parts runs : List Wildcard} {c : Char}
    {dotNewLine : Bool} (h : CutsBlank t e start before)
    (hfirst : IsFirst (Occurs dotNewLine spec t) (.range b e)) (hbe : b < e)
    (hspec : ofSpec spec = parts ++ .char c :: runs) (hruns : isOpen runs = true)
    (hc : c ≠ ' ') : e < start := by
  apply Nat.lt_of_le_of_ne h.stop_le
  rintro rfl
  obtain ⟨u, w, rfl, hu⟩ := h.setOff.exists_eq (Nat.zero_lt_of_lt hbe)
  obtain ⟨v, w', ht, hv⟩ := exists_eq_of_isLeast hfirst.2 hspec hruns
  have hsame : (u ++ [' ']) ++ w = (v ++ [c]) ++ w' := by simpa using ht
  have hsize : Text.size (u ++ [' ']) = Text.size (v ++ [c]) := by
    rw [Text.size_append, Text.size_append, Text.size_cons, Text.size_cons, Text.size_nil]
    have : Char.utf8Size ' ' = 1 := rfl
    omega
  obtain ⟨hfront, -⟩ := Text.append_inj_of_size hsame hsize
  exact hc (by simpa using (List.append_inj' hfront rfl).2.symm)

/-- Whatever is hit behind a path that restricts anything, the path was found in the page
text, in front of the place of the hit. If it ends further in front, the distance is what lies
behind its last occurrence in the text that is measured. If it ends right there, which takes a
spec that ends with `?` or a blank but for stars, it occurs nowhere in this text, and the
distance is the size of all of it. -/
theorem distance_behind_path (hl : l.IsMade settings) (hq : l.patterns = some q)
    (hpath : q.path = some path) (hopen : path.isEverything = false) (hpage : page.IsBuilt)
    (h : (ofPatterns q page.toPage).score? page.toPage x clue = some s) :
    ∃ b e start before, path.first page.text = .range b e ∧ e ≤ start ∧
      (ofPatterns q page.toPage).MeasuredAt page.toPage x clue start before ∧
      (e < start ↔ ∃ b e, Occurs settings.dotMatchesNewLine path.spec before b e) ∧
      (e < start → IsBehindLast settings.dotMatchesNewLine path.spec before s.distance) ∧
      (e = start → s.distance = before.size) ∧
      ∀ parts c runs, ofSpec path.spec = parts ++ .char c :: runs →
      isOpen runs = true → c ≠ ' ' →
        e < start := by
  have hcompile := hl.compile_path hq hpath
  have hterm : (ofPatterns q page.toPage).path = some path := by
    simp [ofPatterns, hpath, hopen]
  have hspan : (ofPatterns q page.toPage).pathSpan = some (path.first page.text) :=
    pathSpan_ofPatterns hpath hopen
  have hfirst := isFirst_first hcompile hopen page.text
  obtain ⟨hfound, -⟩ := score?_cases h
  cases hs : path.first page.text with
  | notFound => exact absurd (hs ▸ hspan) hfound
  | range b e =>
      rw [hs] at hspan hfirst
      have hbe : b < e := hfirst.2.1.start_lt (isOpen_of_compile hcompile hopen)
      obtain ⟨start, before, hat, hcut, hdistance⟩ :=
        exists_cutsBlank hpage (hl.compile_node hq) hterm hcompile hopen hspan hbe h
      obtain ⟨w, htext⟩ := hcut.beginning
      have hoccurs := occurs_beginning_iff hcompile hopen (htext ▸ hs)
      have hiff : e < start ↔ ∃ b e, Occurs settings.dotMatchesNewLine path.spec before b e :=
        hcut.within_iff.symm.trans hoccurs.symm
      refine ⟨b, e, start, before, rfl, hcut.stop_le, hat, hiff, ?_, ?_, ?_⟩
      · exact fun hlt => hdistance.behind (hiff.mp hlt)
      · intro heq
        apply hdistance.whole
        intro b' e' hocc
        exact absurd (hiff.mpr ⟨b', e', hocc⟩) (by omega)
      · intro parts c runs hspec hruns hc
        exact hcut.stop_lt hfirst hbe hspec hruns hc

/-- The patterns of the segments `가?` and `b`. -/
def anySyllable : Locator.Patterns :=
  ⟨some ⟨['가', '?'], .automaton (expression true [.char '가', .anyChar])⟩,
    ⟨['b'], .word ['b']⟩, ⟨['가', '?', '*', 'b'],
      .automaton (expression true [.char '가', .anyChar, .anyRun, .char 'b'])⟩, none⟩

set_option maxRecDepth 10000 in
theorem compile_anySyllable : compile {} ['가', '?'] =
    .ok ⟨['가', '?'], .automaton (expression true [.char '가', .anyChar])⟩ := by
  cbv

set_option maxRecDepth 10000 in
theorem compile_anySyllable_node :
    compile {} ['가', '?', '*', 'b'] =
      .ok ⟨['가', '?', '*', 'b'],
        .automaton (expression true [.char '가', .anyChar, .anyRun, .char 'b'])⟩ := by
  cbv

theorem ofSegments_anySyllable : Locator.ofSegments [['가', '?'], ['b']] =
    .ok ⟨[['가', '?'], ['b']], some anySyllable⟩ :=
  Locator.ofSegmentsWith_eq_ok rfl (Locator.compileWith_eq_ok_iff.mpr ⟨rfl,
    congrArg (Except.map some) compile_anySyllable, compile_anySyllable_node, rfl⟩)

/-- Where the path begins the text, the control is found by its id. -/
theorem score?_anySyllable {front : Text} (hocc : Occurs true ['가', '?'] (front ++ [' ']) 0 e)
    (he : e ≤ front.size + 1) :
    (ofPatterns anySyllable (controlBehind front).toPage).score?
      (controlBehind front).toPage 0
        (.attribute .id) =
      some ⟨0, (ofPatterns anySyllable (controlBehind front).toPage).valueDistance
        ((controlBehind front).textBefore 0)⟩ := by
  obtain ⟨b', e', hfirst, hle⟩ :=
    (first_stop_le_iff compile_anySyllable rfl (front.size + 1)).mpr ⟨0, e, hocc, he⟩
  have hspan :
      (ofPatterns anySyllable (controlBehind front).toPage).pathSpan = some (.range b' e') :=
    congrArg some hfirst
  have hvalue : (ofPatterns anySyllable (controlBehind front).toPage).scoreValue?
      (controlBehind front).toPage 0 (.attribute .id) = some ⟨0, _⟩ :=
    scoreValue?_eq_some_iff.mpr ⟨⟨['b'], .word ['b']⟩, .exact, front.size + 1,
      ['b'], 0, rfl, rfl, by simpa [isBehindPath, hspan] using hle, rfl, by
      decide, by decide, rfl⟩
  have hscore : (ofPatterns anySyllable (controlBehind front).toPage).score?
      (controlBehind front).toPage 0 (.attribute .id) =
      (ofPatterns anySyllable (controlBehind front).toPage).scoreValue?
        (controlBehind front).toPage 0 (.attribute .id) := by
    simp [score?, hspan]
  exact hscore.trans hvalue

theorem isBuilt_controlBehind_syllables : (controlBehind ['가', '나']).IsBuilt := by
  refine ⟨_, .addElement { ElementSpec.textInput with id := some ['b'] }
    (.addText ['가', '나'] .empty), ?_⟩
  decide +kernel

/-- The path `가?` ends in front of the blank, so the distance from it is counted. -/
theorem distance_behind_syllables : ∃ l q path s start before,
    Locator.ofSegments [['가', '?'], ['b']] = .ok l ∧ l.patterns = some q ∧
    q.path = some path ∧
    path.isEverything = false ∧ (controlBehind ['가', '나']).IsBuilt ∧
    (ofPatterns q (controlBehind ['가', '나']).toPage).score?
      (controlBehind ['가', '나']).toPage 0
      (.attribute .id) = some s ∧
    (ofPatterns q (controlBehind ['가', '나']).toPage).MeasuredAt
      (controlBehind ['가', '나']).toPage 0
      (.attribute .id) start before ∧
    IsBehindLast true path.spec before s.distance := by
  have hocc : Occurs true ['가', '?'] (['가', '나'] ++ [' ']) 0 6 :=
    ⟨['가', '나'], by decide, .char rfl (.anyChar (.inl rfl) .nil)⟩
  have hscore := score?_anySyllable hocc (by decide)
  obtain ⟨b, e, start, before, -, -, hat, hiff, hbehind, -⟩ :=
    distance_behind_path (Locator.isMade_ofSegments ofSegments_anySyllable) rfl rfl rfl
      isBuilt_controlBehind_syllables hscore
  have hfar : e < start := by
    rw [hat.attribute] at hiff
    refine hiff.mpr ⟨0, 6, ['가', '나'], ?_, .char rfl (.anyChar (.inl rfl) .nil)⟩
    decide
  exact ⟨_, _, _, _, start, before, ofSegments_anySyllable, rfl, rfl, rfl,
    isBuilt_controlBehind_syllables, hscore, hat, hbehind hfar⟩

/-- The path `가?` takes the blank in front of the control. It occurs in the page text, but not
in the text that is measured, whose size is then the distance. -/
theorem distance_lost_with_blank : ∃ l q path s before,
    Locator.ofSegments [['가', '?'], ['b']] = .ok l ∧ l.patterns = some q ∧
    q.path = some path ∧
    path.isEverything = false ∧ (controlBehind ['가']).IsBuilt ∧
    (ofPatterns q (controlBehind ['가']).toPage).score? (controlBehind ['가']).toPage 0
      (.attribute .id) =
      some s ∧
    (ofPatterns q (controlBehind ['가']).toPage).MeasuredAt (controlBehind ['가']).toPage 0
      (.attribute .id) 4 before ∧
    (∀ b e, ¬Occurs true path.spec before b e) ∧ s.distance = before.size ∧
    before.size = 3 := by
  have hocc : Occurs true ['가', '?'] (['가'] ++ [' ']) 0 4 :=
    ⟨['가', ' '], by decide, .char rfl (.anyChar (.inl rfl) .nil)⟩
  have hnowhere (b e : Nat) : ¬Occurs true ['가', '?'] ['가'] b e := by
    intro hocc
    obtain ⟨v, u, w, ht, -, -, hu⟩ := occurs_iff.mp hocc
    obtain ⟨_, rfl, c, _, rfl, -, rfl⟩ := hu
    have hlength := congrArg List.length ht
    simp only [List.length_append, List.length_cons, List.length_nil] at hlength
    omega
  have hscore := score?_anySyllable hocc (by decide)
  have hat : (ofPatterns anySyllable (controlBehind ['가']).toPage).MeasuredAt
      (controlBehind ['가']).toPage 0 (.attribute .id) 4 ['가'] :=
    .value nofun rfl rfl
  have hdistance : (ofPatterns anySyllable (controlBehind ['가']).toPage).valueDistance ['가'] =
      Text.size ['가'] :=
    (isDistanceIn_valueDistance rfl compile_anySyllable rfl _).whole hnowhere
  exact ⟨_, _, _, _, _, ofSegments_anySyllable, rfl, rfl, rfl,
    isBuilt_controlBehind_syllable, hscore, hat, hnowhere, hdistance, by decide⟩

end SearchTerm
end ControlSearch
