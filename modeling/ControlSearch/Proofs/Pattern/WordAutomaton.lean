import ControlSearch.Proofs.Pattern.FirstOccurrence
import ControlSearch.Proofs.Pattern.Written

/-!
# Words and their automata

A word is searched as it is, and can be run as an automaton, too. The queries are told by
where the word occurs, and it occurs at the same places whichever way it is searched. So all
answers are the same: also where occurrences overlap, where characters have several bytes, and
where the text is too short or empty.
-/
namespace ControlSearch.Pattern
open Wildcard

variable {settings : PatternSettings} {dotNewLine : Bool} {spec t w : Text}
  {p q : Pattern} {s s' : Span}
  {width width' : Option Nat} {occurs : Nat → Nat → Prop}

/-! ## Answers are told by the occurrences -/

theorem IsLast.unique {pick : Set Nat → Nat → Prop}
    (hpick : ∀ ends m n, pick ends m → pick ends n → m = n) (h : IsLast occurs pick s)
    (h' : IsLast occurs pick s') : s = s' := by
  cases s with
  | notFound =>
      cases s' with
      | notFound => rfl
      | range b e =>
          obtain ⟨a, ha⟩ := h'.1.1
          exact absurd ha (h b a)
  | range b e =>
      cases s' with
      | notFound =>
          obtain ⟨a, ha⟩ := h.1.1
          exact absurd ha (h' b a)
      | range b' e' =>
          obtain rfl : b = b' := h.1.unique h'.1
          rw [hpick _ _ _ h.2 h'.2]

theorem IsFirst.unique (h : IsFirst occurs s) (h' : IsFirst occurs s') : s = s' := by
  cases s with
  | notFound =>
      cases s' with
      | notFound => rfl
      | range b e => exact absurd h'.2.1 (h b e)
  | range b e =>
      cases s' with
      | notFound => exact absurd h.2.1 (h' b e)
      | range b' e' =>
          obtain rfl : b = b' := h.1.unique h'.1
          rw [h.2.unique h'.2]

theorem IsWidest.unique (h : IsWidest occurs width) (h' : IsWidest occurs width') :
    width = width' := by
  cases width with
  | none =>
      cases width' with
      | none => rfl
      | some n =>
          obtain ⟨b, e, hocc, -⟩ := h'.1
          exact absurd hocc (h b e)
  | some n =>
      cases width' with
      | none =>
          obtain ⟨b, e, hocc, -⟩ := h.1
          exact absurd hocc (h' b e)
      | some m => rw [h.unique h']

/-- Two patterns give the same answers to all questions about a text as a whole. -/
structure SameAnswers (p q : Pattern) (t : Text) : Prop where
  accepts : p.accepts t = q.accepts t
  endsText : p.endsText t = q.endsText t
  first : p.first t = q.first t
  lastShortest : p.lastShortest t = q.lastShortest t
  sizeBeforeLast? : p.sizeBeforeLast? t = q.sizeBeforeLast? t
  sizeBeforeLastShortest? : p.sizeBeforeLastShortest? t = q.sizeBeforeLastShortest? t
  sizeAfterLast? : p.sizeAfterLast? t = q.sizeAfterLast? t
  sizeAfterLastShortest? : p.sizeAfterLastShortest? t = q.sizeAfterLastShortest? t
  surroundingSize? : p.surroundingSize? t = q.surroundingSize? t

/-- Patterns that accept the same and have the same occurrences answer the same. -/
theorem Answers.sameAnswers (hp : p.isEverything = false) (hq : q.isEverything = false)
    (haccepts : p.accepts t = q.accepts t) (hfirst : p.first t = q.first t)
    (h : Answers occurs p t) (h' : Answers occurs q t) : SameAnswers p q t := by
  have hshortest : p.lastShortest t = q.lastShortest t :=
    h.isLast_lastShortest.unique (fun _ _ _ hm hn => hm.unique hn) h'.isLast_lastShortest
  have hlongest : p.lastLongest t = q.lastLongest t :=
    h.isLast_lastLongest.unique (fun _ _ _ hm hn => hm.unique hn) h'.isLast_lastLongest
  obtain ⟨width, hwidth, hsurrounding⟩ := h.surroundingSize?_eq
  obtain ⟨width', hwidth', hsurrounding'⟩ := h'.surroundingSize?_eq
  exact {
    accepts := haccepts
    endsText := Bool.eq_iff_iff.mpr (h.endsText_iff.trans h'.endsText_iff.symm)
    first := hfirst
    lastShortest := hshortest
    sizeBeforeLast? := by simp [sizeBeforeLast?, hp, hq, hlongest]
    sizeBeforeLastShortest? := by simp [sizeBeforeLastShortest?, hp, hq, hshortest]
    sizeAfterLast? := by simp [sizeAfterLast?, hp, hq, hlongest]
    sizeAfterLastShortest? := by simp [sizeAfterLastShortest?, hp, hq, hshortest]
    surroundingSize? := by rw [hsurrounding, hsurrounding', hwidth.unique hwidth'] }

/-! ## Words -/

/-- Nothing occurs in the empty text, and nothing is found there. -/
theorem answers_nil (hopen : isOpen (ofSpec spec) = false)
    (hsurrounding : p.surroundingSize? [] = none) :
    Answers (Occurs dotNewLine spec []) p [] := by
  have hnone (b e : Nat) : ¬Occurs dotNewLine spec [] b e := not_occurs_nil hopen b e
  constructor
  · simp [endsText, hnone]
  · exact hnone
  · exact hnone
  · exact ⟨none, hnone, hsurrounding⟩

section Literal
variable (hw : literal? (ofSpec spec) = some w) (hopen : isOpen (ofSpec spec) = false)
include hw hopen

theorem answers_of_word (hp : p.matcher = .word w) (dotNewLine : Bool) (t : Text) :
    Answers (Occurs dotNewLine spec t) p t := by
  by_cases ht : t = []
  · subst ht
    exact answers_nil hopen (by simp [surroundingSize?, hp])
  · exact answers_word hw hp ht

theorem answers_of_automaton (hq : q.matcher = .automaton (Regex.word w))
    (dotNewLine : Bool) (t : Text) :
    Answers (Occurs dotNewLine spec t) q t := by
  rw [← expression_map_char dotNewLine, ← eq_map_char_of_literal? hw] at hq
  by_cases ht : t = []
  · subst ht
    obtain ⟨width, hwidth, hsurrounding⟩ :=
      @surroundingSize?_automaton dotNewLine spec [] q hq
    obtain rfl : none = width := IsWidest.unique (not_occurs_nil hopen) hwidth
    exact answers_nil hopen hsurrounding
  · exact ⟨endsText_automaton hq ht, isLast_lastShortest_automaton hq ht,
      isLast_lastLongest_automaton hq hopen ht, surroundingSize?_automaton hq⟩

theorem first_eq_of_word (hp : p.matcher = .word w)
    (hq : q.matcher = .automaton (Regex.word w)) (t : Text) : p.first t = q.first t := by
  rw [← expression_map_char false, ← eq_map_char_of_literal? hw] at hq
  have hword : IsFirst (OccursFrom false spec t 0) (p.first t) :=
    isFirst_firstFrom_word hw hopen hp []
  exact hword.unique (isFirst_firstFrom_automaton hq hopen 0)

omit hopen in
/-- The automaton of a word accepts the word and nothing else. -/
theorem accepts_eq_of_word (hp : p.matcher = .word w)
    (hq : q.matcher = .automaton (Regex.word w)) (t : Text) : p.accepts t = q.accepts t := by
  obtain ⟨whole, m⟩ := q
  obtain rfl : m = .automaton (Regex.word w) := hq
  have hword : p.accepts t = true ↔ t = w := by simp [accepts, hp]
  have hautomaton :
      (Pattern.mk whole (.automaton (Regex.word w))).accepts t = true ↔ t = w := by
    rw [← expression_map_char false, ← eq_map_char_of_literal? hw, accepts_expression_iff]
    exact accepts_of_literal? hw
  exact Bool.eq_iff_iff.mpr (hword.trans hautomaton.symm)

theorem sameAnswers_of_word (hp : p.matcher = .word w)
    (hq : q.matcher = .automaton (Regex.word w)) (t : Text) : SameAnswers p q t :=
  Answers.sameAnswers (by simp [isEverything, hp]) (by simp [isEverything, hq])
    (accepts_eq_of_word hw hp hq t) (first_eq_of_word hw hopen hp hq t)
    (answers_of_word hw hopen hp false t) (answers_of_automaton hw hopen hq false t)

end Literal

/-- A spec that is compiled to a word could be searched as the automaton of the escaped word.
It would give the same answers about every text; only words whose automaton is too big have no
such pattern. -/
theorem sameAnswers_as_automaton (h : compile settings spec = .ok p)
    (hp : p.matcher = .word w) (settings' : PatternSettings) (properties : Regex.Properties) :
    ofRegex settings' (Regex.escape w) properties =
      (if (Regex.word w).isWithin settings'.sizeLimit then
        .ok ⟨Regex.escape w, .automaton (Regex.word w)⟩
      else .error (.patternSyntax (Regex.escape w)
        (.unbuildable "exceeded the automaton size limit" settings'.sizeLimit))) ∧
    ∀ t, SameAnswers p ⟨Regex.escape w, .automaton (Regex.word w)⟩ t := by
  refine ⟨ofRegex_escape settings' properties w, fun t => ?_⟩
  rcases compile_cases h with ⟨-, rfl⟩ | ⟨hopen, v, hv, rfl⟩ | ⟨-, rfl⟩
  · cases hp
  · obtain rfl : v = w := by injection hp
    exact sameAnswers_of_word hv hopen rfl rfl t
  · cases hp

set_option maxRecDepth 10000 in
/-- A word whose occurrences overlap, with an escaped character and characters of two bytes.
Its automaton is not too big. -/
theorem sameAnswers_overlapping : ∃ p q, compile {} "ä\\*ä".toList = .ok p ∧
    p.matcher = .word "ä*ä".toList ∧ ofRegex {} (Regex.escape "ä*ä".toList) = .ok q ∧
    ∀ t, SameAnswers p q t := by
  have hcompile :
      compile {} "ä\\*ä".toList = .ok ⟨"ä\\*ä".toList, .word "ä*ä".toList⟩ := by cbv
  obtain ⟨hregex, hsame⟩ := sameAnswers_as_automaton hcompile rfl {} .standard
  have hwithin :
      (Regex.word "ä*ä".toList).isWithin ({} : PatternSettings).sizeLimit = true := by cbv
  rw [if_pos hwithin] at hregex
  exact ⟨_, _, hcompile, rfl, hregex, hsame⟩

end ControlSearch.Pattern
