import ControlSearch.Proofs.Locator
import ControlSearch.Proofs.Page.TextBefore
import ControlSearch.Proofs.Pattern.LeadingRun
import ControlSearch.Proofs.Search.Agreement

/-!
# Segments that restrict nothing

A segment of stars in front of a locator is found in front of everything. It changes the path
and the joined segments to specs behind stars, and makes a path where there is none, of a kind
that accepts everything and is left aside. A search then finds the same as without it.
-/
namespace ControlSearch

namespace Locator

variable {settings : PatternSettings} {raw path : List Text} {last : Text} {l l' : Locator}
  {q q' : Patterns} {node : Pattern} {start : Option Pattern} {n : Nat}

theorem trim_replicate (n : Nat) :
    Text.trim (List.replicate n '*') = List.replicate n '*' := by
  have hdrop : (List.replicate n '*').dropWhile Text.isBlank = List.replicate n '*' := by
    cases n with
    | zero => rfl
    | succ n => exact List.dropWhile_cons_of_neg (by decide)
  rw [Text.trim, Text.trimStart, hdrop, Text.trimEnd, List.reverse_replicate, hdrop,
    List.reverse_replicate]

theorem tidy_leading (n : Nat) (raw : List Text) :
    tidy (List.replicate (n + 1) '*' :: raw) = List.replicate (n + 1) '*' :: tidy raw := by
  simp [tidy, trim_replicate]

theorem tidy_ne_nil (h : ∃ segment ∈ raw, Text.trim segment ≠ []) : tidy raw ≠ [] := by
  obtain ⟨segment, hmem, hne⟩ := h
  have hkept : Text.trim segment ∈ tidy raw := by
    simpa [tidy, hne] using ⟨segment, hmem, rfl⟩
  exact List.ne_nil_of_mem hkept

/-! ## What a leading segment changes -/

/-- Behind a segment of stars alone, a last segment that accepts the empty text gets no
pattern of the last two segments: this one would accept the empty text as well. -/
theorem compileStart_leading {start' : Option Pattern}
    (hnode : Pattern.compile settings last = .ok node)
    (h : compileStart (Pattern.compile settings) path last node = .ok start)
    (h' : compileStart (Pattern.compile settings)
      (List.replicate (n + 1) '*' :: path) last node = .ok start') : start' = start := by
  cases path with
  | nil =>
      obtain rfl := Except.ok.inj h
      by_cases hempty : node.mayBeEmpty = true
      · simp only [compileStart, List.getLast?_singleton, hempty, if_true] at h'
        obtain ⟨p, hp, h'⟩ := except_bind_eq_ok.mp h'
        have hlast : Pattern.compile settings (Pattern.joinSegments [last]) = .ok node := by
          rwa [Pattern.joinSegments_singleton]
        have hleads := Pattern.leads_joinSegments (List.cons_ne_nil _ _) hlast hp
        have hopen : p.mayBeEmpty = true := by
          rw [Pattern.mayBeEmpty_eq_isEverything hp, hleads.isEverything_eq,
            ← Pattern.mayBeEmpty_eq_isEverything hnode, hempty]
        simpa [hopen] using (Except.ok.inj h').symm
      · simp only [compileStart, List.getLast?_singleton, hempty] at h'
        exact (Except.ok.inj h').symm
  | cons segment path =>
      have hsame : compileStart (Pattern.compile settings)
          (List.replicate (n + 1) '*' :: segment :: path) last node =
          compileStart (Pattern.compile settings) (segment :: path) last node := by
        simp only [compileStart, List.getLast?_cons_cons]
      rw [hsame, h] at h'
      exact (Except.ok.inj h').symm

/-- The second patterns are those of the same segments behind a segment of stars. -/
structure Leads (settings : PatternSettings) (q q' : Patterns) : Prop where
  node : q'.node = q.node
  startsWith : q'.startsWith = q.startsWith
  whole : Pattern.Leads settings q.whole q'.whole
  path : (q.path = none ∧ ∃ p', q'.path = some p' ∧ p'.isEverything = true) ∨
    ∃ p p', q.path = some p ∧ q'.path = some p' ∧ Pattern.Leads settings p p'

theorem leads_of_compileWith (h : compileWith (Pattern.compile settings) path last = .ok q)
    (h' : compileWith (Pattern.compile settings) (List.replicate (n + 1) '*' :: path) last =
      .ok q') :
    Leads settings q q' := by
  obtain ⟨hnode, hpath, hwhole, hstart⟩ := compileWith_eq_ok_iff.mp h
  obtain ⟨hnode', hpath', hwhole', hstart'⟩ := compileWith_eq_ok_iff.mp h'
  have hsame : q'.node = q.node := Except.ok.inj (hnode'.symm.trans hnode)
  rw [hsame] at hstart'
  obtain ⟨p', hp', hcompile'⟩ := exists_of_compilePath (List.cons_ne_nil _ _) hpath'
  refine ⟨hsame, compileStart_leading hnode hstart hstart', ?_, ?_⟩
  · exact Pattern.leads_joinSegments (by simp) hwhole hwhole'
  · cases path with
    -- Where there was no path the stars make one, which accepts everything.
    | nil =>
        rw [Pattern.joinSegments_singleton] at hcompile'
        have hstars : Wildcard.isOpen (Wildcard.ofSpec (List.replicate (n + 1) '*')) = true :=
          Wildcard.isOpen_iff.mpr fun c hc => List.eq_of_mem_replicate hc
        refine .inl ⟨(Except.ok.inj hpath).symm, p', hp', ?_⟩
        rw [Pattern.isEverything_eq_isOpen hcompile', hstars]
    | cons segment path =>
        obtain ⟨p, hp, hcompile⟩ := exists_of_compilePath (List.cons_ne_nil _ _) hpath
        have hleads := Pattern.leads_joinSegments (List.cons_ne_nil _ _) hcompile hcompile'
        exact .inr ⟨p, p', hp, hp', hleads⟩

/-- Both locators have patterns, and they differ by the stars. -/
theorem exists_leads (hne : tidy raw ≠ [])
    (h : Locator.ofSegmentsWith (Pattern.compile settings) raw = .ok l)
    (h' : Locator.ofSegmentsWith (Pattern.compile settings)
      (List.replicate (n + 1) '*' :: raw) =
      .ok l') :
    ∃ q q', l.patterns = some q ∧ l'.patterns = some q' ∧ Leads settings q q' := by
  rcases ofSegmentsWith_cases h with ⟨hnil, -⟩ | ⟨last, q, hlast, hq, rfl⟩
  · exact absurd hnil hne
  · rcases ofSegmentsWith_cases h' with ⟨hnil', -⟩ | ⟨last', q', hlast', hq', rfl⟩
    · simp [tidy_leading] at hnil'
    · rw [tidy_leading, List.getLast?_cons_of_ne_nil hne, hlast] at hlast'
      obtain rfl := Option.some.inj hlast'
      rw [tidy_leading, List.dropLast_cons_of_ne_nil hne] at hq'
      exact ⟨q, q', rfl, rfl, leads_of_compileWith hq hq'⟩

end Locator

namespace SearchTerm
open Pattern Wildcard

variable {settings : PatternSettings} {q q' : Locator.Patterns} {page : Page}

/-- The paths that are searched: none, or both, and then they restrict something. -/
theorem path_cases_of_leads (h : Locator.Leads settings q q') (page : Page) :
    ((ofPatterns q page).path = none ∧ (ofPatterns q' page).path = none) ∨
    ∃ p p', (ofPatterns q page).path = some p ∧ (ofPatterns q' page).path = some p' ∧
      Pattern.Leads settings p p' ∧ p.isEverything = false := by
  rcases h.path with ⟨hnone, p', hp', hopen'⟩ | ⟨p, p', hp, hp', hleads⟩
  · exact .inl ⟨by simp [ofPatterns, hnone], by simp [ofPatterns, hp', hopen']⟩
  · have heq := hleads.isEverything_eq
    by_cases hopen : p.isEverything = true
    · rw [hopen] at heq
      exact .inl ⟨by simp [ofPatterns, hp, hopen], by simp [ofPatterns, hp', heq]⟩
    · have hopen : p.isEverything = false := by simpa using hopen
      rw [hopen] at heq
      refine .inr ⟨p, p', ?_, ?_, hleads, hopen⟩
      · simp [ofPatterns, hp, hopen]
      · simp [ofPatterns, hp', heq]

/-- Where stars stand for all characters of a page, those in front of a locator are of no
account. -/
theorem agrees_of_leads (h : Locator.Leads settings q q')
    (hpage : ∀ c ∈ page.text, Covers settings.dotMatchesNewLine c) :
    Agrees page (ofPatterns q page) (ofPatterns q' page) := by
  have hcovers {t : Text} (ht : t ⊆ page.text) :
      ∀ c ∈ t, Covers settings.dotMatchesNewLine c :=
    fun c hc => hpage c (ht hc)
  have hspan (q : Locator.Patterns) : (ofPatterns q page).pathSpan =
      (ofPatterns q page).path.map (·.first page.text) := rfl
  have hwhole (t : Text) (ht : t ⊆ page.text) :
      coverage? q'.whole t .endsWith = coverage? q.whole t .endsWith := by
    simp only [coverage?, h.whole.endsText_eq (hcovers ht),
      h.whole.sizeBeforeLast?_eq (hcovers ht)]
  rcases path_cases_of_leads h page with ⟨hp, hp'⟩ | ⟨p, p', hp, hp', hleads, hopen⟩
  · refine ⟨h.node, h.startsWith, ?_, hwhole, ?_, ?_⟩
    · rw [hspan, hspan, hp, hp']
    · exact fun t _ => by simp only [valueDistance, hp, hp']
    · exact fun t _ => by simp only [labelDistance, hp, hp']
  · refine ⟨h.node, h.startsWith, ?_, hwhole, ?_, ?_⟩
    · rw [hspan, hspan, hp, hp']
      exact congrArg some (hleads.stop?_first hpage hopen)
    · intro t ht
      have hsize := hleads.sizeAfterLastShortest?_eq (hcovers ht)
      simp only [valueDistance, hp, hp', Option.bind_some, hsize]
    · intro t ht
      have hsize := hleads.sizeAfterLast?_eq (hcovers ht)
      simp only [labelDistance, hp, hp', Option.bind_some, hsize]

end SearchTerm

namespace StaticPage
open Wildcard

variable {settings : PatternSettings} {raw : List Text} {l l' : Locator} {n : Nat}
  {page : StaticPage}

/-- Stars as a segment in front of a locator with any text in it do not change what is found,
nor in which order. -/
theorem findControls_leading_stars (hraw : ∃ segment ∈ raw, Text.trim segment ≠ [])
    (hl : Locator.ofSegmentsWith (Pattern.compile settings) raw = .ok l)
    (hl' : Locator.ofSegmentsWith (Pattern.compile settings)
      (List.replicate (n + 1) '*' :: raw) =
      .ok l') (hpage : page.IsBuilt) (c : Capability) :
    page.toPage.findControls c l' = page.toPage.findControls c l := by
  obtain ⟨q, q', hq, hq', hleads⟩ := Locator.exists_leads (Locator.tidy_ne_nil hraw) hl hl'
  have hcovers : ∀ c ∈ page.toPage.text, Covers settings.dotMatchesNewLine c :=
    fun c hc => .inr (hpage.tidy.ne_newLine hc)
  have hhits := (SearchTerm.agrees_of_leads hleads hcovers).hits page.textBefore_subset
    (Clue.forCapability c)
  simp only [Page.findControls, Page.ranking, hq, hq', hhits]

set_option maxRecDepth 10000 in
theorem compile_stars_syllable : Pattern.compile {} ['*', '*', '가'] =
    .ok ⟨['*', '*', '가'], .automaton (expression true [.anyRun, .anyRun, .char '가'])⟩ := by
  cbv

/-- A syllable behind a star finds the control behind it, as the syllable does. -/
theorem findControls_star_syllable : ∃ l l', Locator.ofSegments [['가']] = .ok l ∧
    Locator.ofSegments [['*'], ['가']] = .ok l' ∧ (controlBehind ['가']).IsBuilt ∧
    (controlBehind ['가']).toPage.findControls .set l' = [⟨0, .labelText, 0, 0, [1], 0⟩] := by
  let word : Pattern := ⟨['가'], .word ['가']⟩
  let leading : Locator.Patterns := ⟨some ⟨['*'], .everything⟩, word,
    ⟨['*', '*', '가'], .automaton (expression true [.anyRun, .anyRun, .char '가'])⟩, none⟩
  have hl : Locator.ofSegments [['가']] = .ok ⟨[['가']], some ⟨none, word, word, none⟩⟩ := rfl
  have hl' : Locator.ofSegments [['*'], ['가']] = .ok ⟨[['*'], ['가']], some leading⟩ :=
    Locator.ofSegmentsWith_eq_ok rfl
      (Locator.compileWith_eq_ok_iff.mpr ⟨rfl, rfl, compile_stars_syllable, rfl⟩)
  have hfound : (controlBehind ['가']).toPage.findControls .set
      ⟨[['가']], some ⟨none, word, word, none⟩⟩ = [⟨0, .labelText, 0, 0, [1], 0⟩] := by cbv
  refine ⟨_, _, hl, hl', isBuilt_controlBehind_syllable, ?_⟩
  have hsame := findControls_leading_stars (n := 0) ⟨['가'], by decide, by decide⟩ hl hl'
    isBuilt_controlBehind_syllable .set
  rw [hsame, hfound]

end StaticPage
end ControlSearch
