import ControlSearch.Proofs.Page.DocumentOrder
import ControlSearch.Proofs.Pattern.TrailingRun
import ControlSearch.Proofs.Search.Distance

/-!
# Locators that end with stars

A last segment of stars says nothing about a control, so label texts are compared with the
last segment of the path and whatever follows it. What is found in a label text then goes on
to its end: no such hit leaves anything uncovered, and only its distance tells it from others.
-/
namespace ControlSearch

namespace Locator
open Pattern Wildcard

variable {settings : PatternSettings} {raw path : List Text} {l : Locator} {q : Patterns}
  {p node : Pattern} {last : Text}

/-- A pattern that accepts the empty text is not used for the last two segments. -/
theorem mayBeEmpty_of_compileStart
    (h : compileStart (compile settings) path last node = .ok (some p)) :
    p.mayBeEmpty = false := by
  unfold compileStart at h
  split at h
  · split at h
    · obtain ⟨p', -, h⟩ := except_bind_eq_ok.mp h
      have hkept := Except.ok.inj h
      by_cases hempty : p'.mayBeEmpty = true
      · simp [hempty] at hkept
      · simp only [hempty, Bool.false_eq_true, if_false, Option.some.injEq] at hkept
        rw [← hkept]
        simpa using hempty
    · cases h
  · cases h

/-- Segments that are left have text in them. -/
theorem ne_nil_of_mem_tidy (h : last ∈ tidy raw) : last ≠ [] := by
  rintro rfl
  simp [tidy] at h

namespace IsMade

/-- What the pattern of the last two segments is compiled from. -/
theorem compile_startsWith (hl : l.IsMade settings) (hq : l.patterns = some q)
    (hlast : l.last? = some last) (hp : q.startsWith = some p) :
    p.isEverything = false ∧
      ∃ a, l.path.getLast? = some a ∧ compile settings (a ++ '*' :: last) = .ok p := by
  obtain ⟨raw, hmade⟩ := hl
  obtain ⟨last', hlast', -, -, hstart⟩ := ofSegments_cases hmade hq
  obtain rfl := Option.some.inj (hlast'.symm.trans hlast)
  obtain ⟨a, ha, hcompile⟩ := hstart p hp
  rw [Pattern.ofSegments, joinSegments_cons, joinSegments_singleton] at hcompile
  obtain ⟨-, last, -, hpatterns⟩ := exists_compileWith hmade hq
  obtain ⟨-, -, -, hpair⟩ := compileWith_eq_ok_iff.mp hpatterns
  rw [hp] at hpair
  exact ⟨isEverything_of_mayBeEmpty (mayBeEmpty_of_compileStart hpair), a, ha, hcompile⟩

/-- A last segment of stars accepts everything, even the empty text. -/
theorem mayBeEmpty_node (hl : l.IsMade settings) (hq : l.patterns = some q)
    (hlast : l.last? = some last) (hstars : ∀ c ∈ last, c = '*') :
    q.node.mayBeEmpty = true := by
  obtain ⟨raw, hmade⟩ := hl
  obtain ⟨hsegments, last', hlast', hpatterns⟩ := exists_compileWith hmade hq
  rw [← hsegments] at hlast'
  obtain rfl := Option.some.inj (hlast'.symm.trans hlast)
  have hnode := (compileWith_eq_ok_iff.mp hpatterns).1
  rw [mayBeEmpty_eq_isEverything hnode, isEverything_eq_isOpen hnode]
  exact isOpen_iff.mpr hstars

/-- Joined with the segment in front of it, a last segment of stars ends with a run. -/
theorem endsOpen_startsWith (hl : l.IsMade settings) (hq : l.patterns = some q)
    (hlast : l.last? = some last) (hstars : ∀ c ∈ last, c = '*') (a : Text) :
    EndsOpen (ofSpec (a ++ '*' :: last)) := by
  obtain ⟨raw, hmade⟩ := hl
  obtain ⟨hsegments, -⟩ := exists_compileWith hmade hq
  have hmem : last ∈ tidy raw := hsegments ▸ List.mem_of_getLast? hlast
  have hne : last ≠ [] := ne_nil_of_mem_tidy hmem
  obtain ⟨n, hn⟩ := Nat.exists_eq_succ_of_ne_zero (mt List.length_eq_zero_iff.mp hne)
  have hrun : '*' :: last = List.replicate n '*' ++ ['*'] ++ ['*'] := by
    rw [List.eq_replicate_of_mem hstars, hn, ← List.replicate_succ, List.replicate_succ',
      List.replicate_succ']
  rw [hrun, ← List.append_assoc, ← List.append_assoc]
  exact endsOpen_two_stars _

end IsMade
end Locator

namespace SearchTerm
open Pattern Wildcard

variable {settings : PatternSettings} {term : SearchTerm} {page : Page}
  {x : ElementId} {s : Score}

/-- Where the last segment accepts the empty text, a hit by label text is one of the last two
segments in the label text from the start of the page on. -/
theorem score?_labelTextBefore_iff (hmay : term.node.mayBeEmpty = true) :
    term.score? page x .labelTextBefore = some s ↔
      ∃ p start coverage, term.startsWith = some p ∧ (page.position x).start? = some start ∧
        term.PassesGate start ∧ page.labelBefore x 0 ≠ [] ∧
        p.sizeAfterLast? (page.labelBefore x 0) = some coverage ∧
        s = ⟨coverage, term.valueDistance (page.textBefore x)⟩ := by
  have hcomparison :
      term.comparison? .labelTextBefore = term.startsWith.map (·, .startsWith) := by
    simp [comparison?, hmay]
  constructor
  · intro h
    obtain ⟨hfound, ⟨hlabel, -⟩ | ⟨-, hscore⟩⟩ := score?_cases h
    · cases hlabel
    · obtain ⟨pattern, fit, start, value, coverage, hpattern, hstart, hbehind, hvalue, hne,
        hcoverage, rfl⟩ := scoreValue?_eq_some_iff.mp hscore
      rw [hcomparison, Option.map_eq_some_iff] at hpattern
      obtain ⟨p, hp, heq⟩ := hpattern
      obtain ⟨rfl, rfl⟩ := Prod.mk.inj heq
      obtain rfl := Option.some.inj hvalue
      exact ⟨p, start, coverage, hp, hstart, ⟨hfound, hbehind⟩, hne, hcoverage, rfl⟩
  · rintro ⟨p, start, coverage, hp, hstart, ⟨hfound, hbehind⟩, hne, hcoverage, rfl⟩
    have hscore : term.scoreValue? page x .labelTextBefore =
        some ⟨coverage, term.valueDistance (page.textBefore x)⟩ :=
      scoreValue?_eq_some_iff.mpr ⟨p, .startsWith, start, page.labelBefore x 0, coverage,
        by rw [hcomparison, hp, Option.map_some], hstart, hbehind, rfl, hne, hcoverage, rfl⟩
    simp only [score?, hfound, if_false, hscore]

end SearchTerm

namespace Entry

variable {a b : Entry}

/-- Of hits that leave nothing uncovered, the one at the lesser distance is better. -/
theorem isBetter_iff_of_exact (ha : a.coverage = 0) (hb : b.coverage = 0) :
    a.isBetter b = true ↔ a.distance < b.distance := by
  simp [isBetter, ha, hb]

theorem order_of_exact (ha : a.coverage = 0) (hb : b.coverage = 0)
    (h : a.distance < b.distance) :
    a.order b = .lt := by
  have hdistance : compare a.distance b.distance = .lt := Nat.compare_eq_lt.mpr h
  simp [order, ha, hb, hdistance]

end Entry

namespace StaticPage
open Pattern Wildcard

variable {settings : PatternSettings} {page : StaticPage} {l : Locator} {q : Locator.Patterns}
  {last : Text}

theorem labelBefore_subset (page : StaticPage) (x : ElementId) (start : Nat) :
    page.labelBefore x start ⊆ page.text := by
  unfold labelBefore
  split
  · exact List.nil_subset _
  · rename_i placed _
    obtain ⟨reached, hlabel⟩ :=
      page.exists_labelBehind_eq placed.spec.form start placed.start 0
      (page.elements.take x).reverse
    rw [hlabel]
    exact RunningText.between_subset _ _ _

/-- An element is listed by its number. -/
theorem index_eq {x : ElementId} {placed : PlacedElement}
    (hx : page.elements[x]? = some placed) :
    page.toPage.index x = x := if_pos (List.getElem?_eq_some_iff.mp hx).1

/-- What is asked of a hit by label text, where the last segment has nothing but stars: the
last segment of the path and whatever follows it have to occur in the label text, however far
in front this begins. -/
theorem hit?_labelTextBefore_iff (hl : l.IsMade settings) (hq : l.patterns = some q)
    (hlast : l.last? = some last) (hstars : ∀ c ∈ last, c = '*') (hpage : page.IsBuilt)
    {x : ElementId} {e : Entry} :
    (SearchTerm.ofPatterns q page.toPage).hit? page.toPage x .labelTextBefore = some e ↔
      ∃ placed a p, page.elements[x]? = some placed ∧ l.path.getLast? = some a ∧
        q.startsWith = some p ∧ p.spec = a ++ '*' :: last ∧
        (SearchTerm.ofPatterns q page.toPage).PassesGate placed.start ∧
        (∃ b stop, Occurs settings.dotMatchesNewLine p.spec (page.labelBefore x 0) b stop) ∧
        e = ⟨x, .labelText, 0,
          (SearchTerm.ofPatterns q page.toPage).valueDistance (page.textBefore x),
          placed.hierarchy, x⟩ := by
  have hmay : (SearchTerm.ofPatterns q page.toPage).node.mayBeEmpty = true :=
    hl.mayBeEmpty_node hq hlast hstars
  have hcovers : ∀ c ∈ page.labelBefore x 0, Covers settings.dotMatchesNewLine c :=
    fun c hc => .inr (hpage.tidy.ne_newLine (page.labelBefore_subset x 0 hc))
  rw [SearchTerm.hit?_eq_some_iff]
  constructor
  · rintro ⟨s, hscore, rfl⟩
    obtain ⟨p, start, coverage, hp, hstart, hgate, -, hcoverage, rfl⟩ :=
      (SearchTerm.score?_labelTextBefore_iff hmay).mp hscore
    obtain ⟨placed, hx, rfl⟩ := exists_placed hstart
    obtain ⟨hopen, a, ha, hcompile⟩ := hl.compile_startsWith hq hlast hp
    have hends := hl.endsOpen_startsWith hq hlast hstars a
    obtain ⟨rfl, hocc⟩ :=
      (sizeAfterLast?_of_endsOpen hcompile hopen hends hcovers).mp hcoverage
    have hspec := spec_of_compile hcompile
    rw [← hspec] at hocc
    refine ⟨placed, a, p, hx, ha, hp, hspec, hgate, hocc, ?_⟩
    rw [hierarchy_eq hx, index_eq hx]
    rfl
  · rintro ⟨placed, a, p, hx, ha, hp, hspec, hgate, hocc, rfl⟩
    obtain ⟨hopen, a', ha', hcompile⟩ := hl.compile_startsWith hq hlast hp
    have hends := hl.endsOpen_startsWith hq hlast hstars a'
    rw [spec_of_compile hcompile] at hocc
    have hcoverage :=
      (sizeAfterLast?_of_endsOpen hcompile hopen hends hcovers).mpr ⟨rfl, hocc⟩
    have hne : page.labelBefore x 0 ≠ [] := by
      intro hnil
      rw [hnil] at hocc
      obtain ⟨b, stop, hocc⟩ := hocc
      exact not_occurs_nil (isOpen_of_compile hcompile hopen) b stop hocc
    have hstart : (page.toPage.position x).start? = some placed.start := by
      rw [position_eq hx]
      rfl
    refine ⟨_, (SearchTerm.score?_labelTextBefore_iff hmay).mpr
      ⟨p, placed.start, 0, hp, hstart, hgate, hne, hcoverage, rfl⟩, ?_⟩
    rw [hierarchy_eq hx, index_eq hx]
    rfl

/-- Where the last segment has nothing but stars, a hit by label text always leaves nothing
uncovered. An element is hit just if it passes the gate and the last segment of the path, with
whatever follows it, occurs in its label text; and of two such hits the one at the lesser
distance is better, and listed first. -/
theorem label_hits_leave_nothing (hl : l.IsMade settings) (hq : l.patterns = some q)
    (hlast : l.last? = some last) (hstars : ∀ c ∈ last, c = '*') (hpage : page.IsBuilt) :
    let term := SearchTerm.ofPatterns q page.toPage
    (∀ x e, term.hit? page.toPage x .labelTextBefore = some e → e.coverage = 0) ∧
    (∀ x e, term.hit? page.toPage x .labelTextBefore = some e ↔
      ∃ placed a p, page.elements[x]? = some placed ∧ l.path.getLast? = some a ∧
        q.startsWith = some p ∧ p.spec = a ++ '*' :: last ∧ term.PassesGate placed.start ∧
        (∃ b stop, Occurs settings.dotMatchesNewLine p.spec (page.labelBefore x 0) b stop) ∧
        e = ⟨x, .labelText, 0, term.valueDistance (page.textBefore x), placed.hierarchy, x⟩) ∧
    ∀ x y e e', term.hit? page.toPage x .labelTextBefore = some e →
      term.hit? page.toPage y .labelTextBefore = some e' →
      (e.isBetter e' = true ↔ e.distance < e'.distance) ∧
      (e.distance < e'.distance → e.order e' = .lt) := by
  intro term
  have hzero (x : ElementId) (e : Entry)
      (h : term.hit? page.toPage x .labelTextBefore = some e) : e.coverage = 0 := by
    obtain ⟨-, -, -, -, -, -, -, -, -, rfl⟩ :=
      (hit?_labelTextBefore_iff hl hq hlast hstars hpage).mp h
    rfl
  refine ⟨hzero, fun x e => hit?_labelTextBefore_iff hl hq hlast hstars hpage, ?_⟩
  intro x y e e' h h'
  exact ⟨Entry.isBetter_iff_of_exact (hzero x e h) (hzero y e' h'),
    Entry.order_of_exact (hzero x e h) (hzero y e' h')⟩

/-- The patterns of the segments `가` and `*`. -/
def syllableAndStar : Locator.Patterns :=
  ⟨some ⟨['가'], .word ['가']⟩, ⟨['*'], .everything⟩,
    ⟨['가', '*', '*'], .automaton (expression true [.char '가', .anyRun, .anyRun])⟩,
    some ⟨['가', '*', '*'], .automaton (expression true [.char '가', .anyRun, .anyRun])⟩⟩

set_option maxRecDepth 10000 in
theorem compile_syllable_stars : compile {} ['가', '*', '*'] =
    .ok ⟨['가', '*', '*'], .automaton (expression true [.char '가', .anyRun, .anyRun])⟩ := by
  cbv

theorem ofSegments_syllableAndStar : Locator.ofSegments [['가'], ['*']] =
    .ok ⟨[['가'], ['*']], some syllableAndStar⟩ := by
  have hstart : Locator.compileStart (compile {}) [['가']] ['*'] ⟨['*'], .everything⟩ =
      .ok syllableAndStar.startsWith :=
    except_bind_eq_ok.mpr ⟨_, compile_syllable_stars, rfl⟩
  exact Locator.ofSegmentsWith_eq_ok rfl
    (Locator.compileWith_eq_ok_iff.mpr ⟨rfl, rfl, compile_syllable_stars, hstart⟩)

/-- Behind the text `가나` the control is hit with `가` and what follows it, at a distance of one
syllable. -/
theorem label_hits_leave_nothing_syllables :
    ∃ l q e, Locator.ofSegments [['가'], ['*']] = .ok l ∧
    l.patterns = some q ∧ l.last? = some ['*'] ∧ (∀ c ∈ ['*'], c = '*') ∧
    (controlBehind ['가', '나']).IsBuilt ∧
    (SearchTerm.ofPatterns q (controlBehind ['가', '나']).toPage).hit?
      (controlBehind ['가', '나']).toPage 0 .labelTextBefore = some e ∧
    e.coverage = 0 ∧ e.distance = 3 := by
  have hdescribes : Describes true ['가', '*', '*'] ['가', '나'] :=
    .char rfl (.anyRun (u := ['나']) (fun _ _ => .inl rfl) (.anyRun (u := []) (by simp) .nil))
  have hocc : Occurs true ['가', '*', '*'] ((controlBehind ['가', '나']).labelBefore 0 0) 0 6 :=
    ⟨['가', '나'], by decide, hdescribes⟩
  have hgate :
      (SearchTerm.ofPatterns syllableAndStar
        (controlBehind ['가', '나']).toPage).PassesGate 7 :=
    ⟨by decide, by decide⟩
  obtain ⟨hzero, hiff, -⟩ := label_hits_leave_nothing
    (Locator.isMade_ofSegments ofSegments_syllableAndStar) rfl rfl (by simp)
    SearchTerm.isBuilt_controlBehind_syllables
  have hhit := (hiff 0 _).mpr ⟨_, _, _, rfl, rfl, rfl, rfl, hgate, ⟨0, 6, hocc⟩, rfl⟩
  exact ⟨_, _, _, ofSegments_syllableAndStar, rfl, rfl, by simp,
    SearchTerm.isBuilt_controlBehind_syllables, hhit, hzero 0 _ hhit, by decide⟩

end StaticPage
end ControlSearch
