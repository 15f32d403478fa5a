import Mathlib
import ControlSearch.Proofs.Pattern.Threads
import ControlSearch.Proofs.Regex.Meaning
import ControlSearch.Pattern.Query

/-!
# What compiled patterns accept

A pattern that is compiled from a wildcard spec accepts the texts that the spec describes,
however it is evaluated. One that is compiled from an expression accepts less than the
expression does: a text is missed if some other beginning of it is preferred, or if some class
of the expression is empty.
-/
namespace ControlSearch.Pattern

open Wildcard

variable {settings : PatternSettings} {spec t : Text} {p : Pattern}

/-! ## What compilation makes -/

theorem eq_of_automaton? {limit : Nat} {r : Regex} {m : Matcher}
    (h : automaton? spec limit r = .ok m) : m = .automaton r := by
  unfold automaton? at h
  dsimp only at h
  split at h
  · cases h
  · split at h
    · exact (Except.ok.inj h).symm
    · cases h

theorem asksUnicodeWords_of_automaton? {limit : Nat} {r : Regex} {m : Matcher}
    (h : automaton? spec limit r = .ok m) : r.asksUnicodeWords = false := by
  unfold automaton? at h
  dsimp only at h
  split at h
  · cases h
  · rename_i hasks
    exact Bool.eq_false_iff.mpr hasks

/-- A spec is compiled to one of three kinds of patterns. -/
theorem compile_cases (h : compile settings spec = .ok p) :
    (isOpen (ofSpec spec) = true ∧ p = ⟨spec, .everything⟩) ∨
    (isOpen (ofSpec spec) = false ∧ ∃ w, literal? (ofSpec spec) = some w ∧
      p = ⟨spec, .word w⟩) ∨
    (isOpen (ofSpec spec) = false ∧
      p = ⟨spec, .automaton (expression settings.dotMatchesNewLine (ofSpec spec))⟩) := by
  unfold compile at h
  dsimp only at h
  split at h
  · rename_i hopen
    exact .inl ⟨hopen, (Except.ok.inj h).symm⟩
  · rename_i hopen
    have hopen : isOpen (ofSpec spec) = false := by simpa using hopen
    split at h
    · rename_i w hw
      exact .inr (.inl ⟨hopen, w, hw, (Except.ok.inj h).symm⟩)
    · obtain ⟨m, hm, h⟩ := except_bind_eq_ok.mp h
      obtain rfl := Except.ok.inj h
      rw [eq_of_automaton? hm, sequence_eq_expression]
      exact .inr (.inr ⟨hopen, rfl⟩)

/-- A pattern keeps the spec that it was compiled from. -/
theorem spec_of_compile (h : compile settings spec = .ok p) : p.spec = spec := by
  rcases compile_cases h with ⟨-, rfl⟩ | ⟨-, w, -, rfl⟩ | ⟨-, rfl⟩ <;> rfl

/-- Patterns accept everything if their specs have nothing but stars. -/
theorem isEverything_eq_isOpen (h : compile settings spec = .ok p) :
    p.isEverything = isOpen (ofSpec spec) := by
  rcases compile_cases h with ⟨hopen, rfl⟩ | ⟨hopen, w, -, rfl⟩ | ⟨hopen, rfl⟩
  · rw [hopen]
    rfl
  · rw [hopen]
    rfl
  · rw [hopen]
    rfl

/-! ## Automata -/

theorem isTooShort_automaton {r : Regex} (n : Nat) :
    (Pattern.mk spec (.automaton r)).isTooShort n = true ↔
      ∀ least, r.minSize? = some least → n < least := by
  simp only [isTooShort, minSize?]
  cases r.minSize? <;> simp

/-- A text that is accepted is not too short, unless a set is empty. -/
theorem isTooShort_of_language {r : Regex} (hr : r.Proper) {last next : Option Char}
    (ht : r.language last t next) :
    (Pattern.mk spec (.automaton r)).isTooShort t.size = false ↔ r.minSize? ≠ none := by
  rw [← Bool.not_eq_true, isTooShort_automaton]
  cases h : r.minSize? with
  | none => simp
  | some least =>
      have := Regex.minSize?_le hr h ht
      simp
      omega

theorem accepts_automaton {r : Regex} : (Pattern.mk spec (.automaton r)).accepts t = true ↔
    (Pattern.mk spec (.automaton r)).isTooShort t.size = false ∧
    t.size ∈ r.ends ⟨0, none, t⟩ := by
  simp [accepts]

/-! ## Wildcard specs -/

/-- No set of a spec's expression is empty. -/
theorem minSize?_expression_ne_none (dotNewLine : Bool) (parts : List Wildcard) :
    (expression dotNewLine parts).minSize? ≠ none := by
  rw [minSize?_expression]
  exact Option.some_ne_none _

/-- The least size of a compiled spec is that of the least text of its parts. -/
theorem minSize?_compile (h : compile settings spec = .ok p) :
    p.minSize? = some (least (ofSpec spec)).size := by
  rcases compile_cases h with ⟨hopen, rfl⟩ | ⟨-, w, hw, rfl⟩ | ⟨-, rfl⟩
  · rw [least_eq_nil_iff.mpr hopen]
    rfl
  · have hleast : Accepts false (ofSpec spec) (least (ofSpec spec)) := accepts_least _
    rw [(accepts_of_literal? hw).mp hleast]
    rfl
  · exact minSize?_expression _ _

theorem isEverything_of_mayBeEmpty (h : p.mayBeEmpty = false) : p.isEverything = false := by
  cases hp : p.matcher with
  | everything => simp [mayBeEmpty, minSize?, hp] at h
  | _ => simp [isEverything, hp]

/-- Only patterns that accept everything accept the empty text. -/
theorem mayBeEmpty_eq_isEverything (h : compile settings spec = .ok p) :
    p.mayBeEmpty = p.isEverything := by
  rw [isEverything_eq_isOpen h, mayBeEmpty, minSize?_compile h, Bool.eq_iff_iff, beq_iff_eq,
    Option.some.injEq, Text.size_eq_zero_iff, least_eq_nil_iff]

/-- The whole text is an end of a run if it is accepted. -/
theorem accepts_expression_iff {dotNewLine : Bool} {parts : List Wildcard} :
    (Pattern.mk spec (.automaton (expression dotNewLine parts))).accepts t = true ↔
      Accepts dotNewLine parts t := by
  rw [accepts_automaton, mem_ends_iff]
  constructor
  · intro h
    rcases h with ⟨-, u, v, rfl, hsize, hu⟩
    have hle : Text.size (u ++ v) ≤ 0 + u.size := hsize.le
    rw [Nat.zero_add] at hle
    obtain rfl := Text.eq_nil_of_size_append_le hle
    simpa using hu
  · intro ht
    have hl : (expression dotNewLine parts).language none t none := language_expression.mpr ht
    refine ⟨?_, t, [], by simp, by simp, ht⟩
    exact (isTooShort_of_language (proper_expression dotNewLine parts) hl).mpr
      (minSize?_expression_ne_none dotNewLine parts)

/-- However a spec is evaluated, it accepts what its parts stand for. -/
theorem accepts_compile_parts (h : compile settings spec = .ok p) (t : Text) :
    p.accepts t = true ↔
      isOpen (ofSpec spec) = true ∨ Accepts settings.dotMatchesNewLine (ofSpec spec) t := by
  rcases compile_cases h with ⟨hopen, rfl⟩ | ⟨hopen, w, hw, rfl⟩ | ⟨hopen, rfl⟩
  · simp [accepts, hopen]
  · simp [accepts, hopen, accepts_of_literal? hw]
  · simp [accepts_expression_iff, hopen]

/-- A compiled spec accepts what the spec describes. A spec of nothing but stars accepts every
text, line feeds or not. -/
theorem accepts_compile_iff (h : compile settings spec = .ok p) (t : Text) :
    p.accepts t = true ↔
      (∀ c ∈ spec, c = '*') ∨ Describes settings.dotMatchesNewLine spec t := by
  rw [← isOpen_iff, describes_iff]
  exact accepts_compile_parts h t

set_option maxRecDepth 10000 in
theorem compile_run : compile {} "a*".toList = .ok ⟨"a*".toList,
    .automaton (expression true [.char 'a', .anyRun])⟩ := by
  cbv

/-- A run at the end of a spec stands for a line feed, too. -/
theorem accepts_compile_run :
    ∃ p, compile {} "a*".toList = .ok p ∧ p.accepts "a\n".toList = true := by
  have hdescribes : Describes true "a*".toList "a\n".toList :=
    .char rfl (.anyRun (u := ['\n']) (fun _ _ => .inl rfl) .nil)
  exact ⟨_, compile_run, (accepts_compile_iff compile_run _).mpr (.inr hdescribes)⟩

/-! ## Expressions -/

/-- An expression that compiles is run as an automaton of its language. -/
theorem ofRegex_cases {expression : Text} {properties : Regex.Properties}
    (h : ofRegex settings expression properties = .ok p) :
    ∃ e r, Regex.Expression.read expression = .ok e ∧ p = ⟨expression, .automaton r⟩ ∧
      r.language = e.language properties (.initial settings.dotMatchesNewLine) ∧
      r.Proper := by
  unfold ofRegex at h
  split at h
  · cases h
  · rename_i r hr
    obtain ⟨e, he, hmeaning⟩ := except_bind_eq_ok.mp hr
    obtain ⟨m, hm, h⟩ := except_bind_eq_ok.mp h
    obtain rfl := Except.ok.inj h
    rw [eq_of_automaton? hm]
    exact ⟨e, r, he, rfl, Regex.Expression.language_meaning hmeaning⟩

/-- The whole text is an end of a run if it comes first among the preferences. -/
theorem accepts_automaton_iff {r : Regex} (hr : r.Proper) :
    (Pattern.mk spec (.automaton r)).accepts t = true ↔
      r.language none t none ∧ (∀ chars ∈ Regex.Size.sets r, chars.isEmpty = false) ∧
        (r.preferences none t).head? = some t.size := by
  have hempty : (∀ chars ∈ Regex.Size.sets r, chars.isEmpty = false) ↔ r.minSize? ≠ none := by
    simp [ne_eq, Regex.minSize?_eq_none_iff]
  have hends : t.size ∈ r.ends ⟨0, none, t⟩ ↔ (r.preferences none t).head? = some t.size := by
    have h := @Regex.mem_endsFrom_size_iff [r] 0 none t
    simpa [Regex.ends] using h
  rw [accepts_automaton, hends, hempty]
  constructor
  · intro h'
    rcases h' with ⟨hshort, hfirst⟩
    obtain ⟨u, v, rfl, hsize, hl⟩ :=
      Regex.mem_preferences_iff.mp (List.mem_of_mem_head? hfirst)
    obtain rfl := Text.eq_nil_of_size_append_le hsize.ge
    rw [List.append_nil] at hshort hfirst ⊢
    exact ⟨hl, (isTooShort_of_language hr hl).mp hshort, hfirst⟩
  · intro h'
    rcases h' with ⟨hl, hmin, hfirst⟩
    exact ⟨(isTooShort_of_language hr hl).mpr hmin, hfirst⟩

/-- The expression accepts the texts that come up in a search for their beginnings, whatever
is known of the properties that it names. The pattern compiled from it accepts a text only if
it comes up first, and if no class is empty. -/
theorem accepts_ofRegex_iff {expression : Text} {properties : Regex.Properties}
    (h : ofRegex settings expression properties = .ok p) :
    ∃ e r, Regex.Expression.read expression = .ok e ∧ p.matcher = .automaton r ∧ ∀ t : Text,
      (e.language properties (.initial settings.dotMatchesNewLine) none t none ↔
        t.size ∈ r.preferences none t) ∧
      (p.accepts t = true ↔
        e.language properties (.initial settings.dotMatchesNewLine) none t none ∧
        (∀ chars ∈ Regex.Size.sets r, chars.isEmpty = false) ∧
        (r.preferences none t).head? = some t.size) := by
  obtain ⟨e, r, he, rfl, hlanguage, hr⟩ := ofRegex_cases h
  refine ⟨e, r, he, rfl, fun t => ⟨?_, ?_⟩⟩
  · rw [← hlanguage, Regex.mem_preferences_iff]
    constructor
    · exact fun hl => ⟨t, [], by simp, rfl, hl⟩
    · intro h'
      rcases h' with ⟨u, v, rfl, hsize, hl⟩
      obtain rfl := Text.eq_nil_of_size_append_le hsize.ge
      simpa using hl
  · rw [← hlanguage]
    exact accepts_automaton_iff hr

set_option maxRecDepth 10000 in
theorem ofRegex_choice : ofRegex {} "a|ab".toList = .ok ⟨"a|ab".toList,
    .automaton (.alt (.char 'a') (.cat (.char 'a') (.char 'b')))⟩ := by
  cbv

/-- The shorter alternative comes first and hides the longer one, which is the whole text. -/
theorem accepts_ofRegex_misses : ∃ e p, Regex.Expression.read "a|ab".toList = .ok e ∧
    ofRegex {} "a|ab".toList = .ok p ∧
    e.language .standard (.initial true) none "ab".toList none ∧
    p.accepts "ab".toList = false := by
  obtain ⟨e, r, he, hp, hlanguage, hr⟩ := ofRegex_cases ofRegex_choice
  obtain rfl : .alt (.char 'a') (.cat (.char 'a') (.char 'b')) = r := by
    injection hp with _ hmatcher
    injection hmatcher
  refine ⟨e, _, he, ofRegex_choice, ?_, ?_⟩
  · have hl :
        (Regex.alt (.char 'a') (.cat (.char 'a') (.char 'b'))).language none
          ['a', 'b'] none :=
      .inr ⟨['a'], ['b'], rfl, ⟨'a', rfl, rfl⟩, ⟨'b', rfl, rfl⟩⟩
    rwa [hlanguage] at hl
  · refine Bool.eq_false_iff.mpr ?_
    intro haccepts
    obtain ⟨-, -, hfirst⟩ := (accepts_automaton_iff hr).mp haccepts
    have hall : (Regex.alt (.char 'a') (.cat (.char 'a') (.char 'b'))).preferences none
        "ab".toList = [1, 2] := by cbv
    rw [hall] at hfirst
    exact absurd hfirst (by decide)

/-- Alone, the shorter alternative is accepted. -/
theorem accepts_ofRegex_choice :
    ∃ p, ofRegex {} "a|ab".toList = .ok p ∧ p.accepts ['a'] = true := by
  obtain ⟨e, r, he, hmatcher, hall⟩ := accepts_ofRegex_iff ofRegex_choice
  injection hmatcher with hr
  subst hr
  have hfirst :
      ((Regex.alt (.char 'a') (.cat (.char 'a') (.char 'b'))).preferences none ['a']).head?
      = some 1 := by cbv
  have hmem := (hall ['a']).1.mpr (List.mem_of_mem_head? hfirst)
  exact ⟨_, ofRegex_choice, (hall ['a']).2.mpr ⟨hmem, by decide, hfirst⟩⟩

end ControlSearch.Pattern
