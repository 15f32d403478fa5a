import ControlSearch.Proofs.Pattern.Acceptance
import ControlSearch.Proofs.Regex.Occurrence

/-!
# Where a compiled spec occurs

An occurrence of a spec is a pair of boundaries between which the text is described by the
spec. The queries for the last occurrence, for the end of the text and for the surrounding
bytes are exact over the set of all occurrences, for words and for automata alike.
-/
namespace ControlSearch.Pattern

open Wildcard

/-- The bytes between two boundaries of a text are described by a spec. -/
def Occurs (dotNewLine : Bool) (spec t : Text) (start stop : Nat) : Prop :=
  ∃ u, t.slice? start stop = some u ∧ Describes dotNewLine spec u

variable {dotNewLine : Bool} {spec t : Text} {start stop : Nat}

theorem occurs_iff : Occurs dotNewLine spec t start stop ↔ ∃ v u w, t = v ++ (u ++ w) ∧
    v.size = start ∧ start + u.size = stop ∧ Accepts dotNewLine (ofSpec spec) u := by
  simp only [Occurs, Text.slice?_eq_some_iff, describes_iff]
  constructor
  · intro h
    rcases h with ⟨u, ⟨v, w, ht, hv, hu⟩, hd⟩
    exact ⟨v, u, w, ht, hv, hu, hd⟩
  · intro h
    rcases h with ⟨v, u, w, ht, hv, hu, hd⟩
    exact ⟨u, ⟨v, w, ht, hv, hu⟩, hd⟩

/-- Occurrences lie inside the text. -/
theorem Occurs.stop_le (h : Occurs dotNewLine spec t start stop) : stop ≤ t.size := by
  obtain ⟨v, u, w, rfl, rfl, rfl, -⟩ := occurs_iff.mp h
  simp only [Text.size_append]
  omega

/-- Unless the spec is open, no occurrence is empty. -/
theorem Occurs.start_lt (h : Occurs dotNewLine spec t start stop)
    (hopen : isOpen (ofSpec spec) = false) : start < stop := by
  obtain ⟨v, u, w, rfl, rfl, rfl, hu⟩ := occurs_iff.mp h
  have hne : u ≠ [] := by
    intro h'
    subst h'
    rw [accepts_nil_iff, hopen] at hu
    cases hu
  have hsize : u.size ≠ 0 := mt Text.size_eq_zero_iff.mp hne
  omega

/-! ## What the queries look for -/

/-- A span is the occurrence with the greatest start whose end is picked among the ends there;
the mark is right only if nothing occurs. -/
def IsLast (occurs : Nat → Nat → Prop) (pick : Set Nat → Nat → Prop) : Span → Prop
  | .notFound => ∀ start stop, ¬occurs start stop
  | .range start stop =>
    IsGreatest {b | ∃ e, occurs b e} start ∧ pick {e | occurs start e} stop

/-- The width of the widest occurrence, if anything occurs. -/
def IsWidest (occurs : Nat → Nat → Prop) : Option Nat → Prop
  | none => ∀ start stop, ¬occurs start stop
  | some width => IsGreatest {n | ∃ start stop, occurs start stop ∧ n = stop - start} width

/-- The last occurrences and the widest one are found together, or none of them is. -/
theorem last_cases {occurs : Nat → Nat → Prop} {s s' : Span} {width : Option Nat}
    (hs : IsLast occurs IsLeast s) (hs' : IsLast occurs IsGreatest s')
    (hwidth : IsWidest occurs width) :
    ((∀ start stop, ¬occurs start stop) ∧ s = .notFound ∧ s' = .notFound ∧ width = none) ∨
    ∃ start shortest longest n, IsGreatest {b | ∃ e, occurs b e} start ∧
      IsLeast {e | occurs start e} shortest ∧ IsGreatest {e | occurs start e} longest ∧
      IsGreatest {n | ∃ b e, occurs b e ∧ n = e - b} n ∧
      s = .range start shortest ∧ s' = .range start longest ∧ width = some n := by
  cases s with
  | notFound =>
      have hnone : ∀ start stop, ¬occurs start stop := hs
      refine .inl ⟨hnone, rfl, ?_, ?_⟩
      · cases s' with
        | notFound => rfl
        | range start stop =>
            obtain ⟨e, he⟩ := hs'.1.1
            exact absurd he (hnone start e)
      · cases width with
        | none => rfl
        | some n =>
            obtain ⟨b, e, he, -⟩ := hwidth.1
            exact absurd he (hnone b e)
  | range start shortest =>
      obtain ⟨hstart, hleast⟩ := hs
      cases s' with
      | notFound => exact absurd hleast.1 (hs' start shortest)
      | range b longest =>
          obtain rfl : b = start := hs'.1.unique hstart
          cases width with
          | none => exact absurd hleast.1 (hwidth b shortest)
          | some n =>
              exact .inr ⟨b, shortest, longest, n, hstart, hleast, hs'.2, hwidth,
                rfl, rfl, rfl⟩

/-! ## Words -/

section Word
variable {w : Text} (hw : literal? (ofSpec spec) = some w)
include hw

theorem occurs_word_iff : Occurs dotNewLine spec t start stop ↔
    ∃ b ∈ t.boundaries, w.isPrefixOf b.rest = true ∧ b.offset = start ∧
    start + w.size = stop := by
  simp only [occurs_iff, accepts_of_literal? hw, List.isPrefixOf_iff_prefix]
  constructor
  · intro h
    rcases h with ⟨v, u, rest, rfl, rfl, rfl, rfl⟩
    exact ⟨⟨v.size, v.getLast?, u ++ rest⟩, Text.mem_boundaries_iff.mpr ⟨v, rfl, rfl, rfl⟩,
      List.prefix_append u rest, rfl, rfl⟩
  · intro h
    rcases h with ⟨b, hb, ⟨rest, hrest⟩, rfl, rfl⟩
    obtain ⟨v, rfl, hv, -⟩ := Text.mem_boundaries_iff.mp hb
    exact ⟨v, w, rest, by rw [hrest], hv.symm, rfl, rfl⟩

omit hw in
/-- The starts of a word, in ascending order. -/
theorem findLast?_eq_getLast? : t.findLast? w =
    ((t.boundaries.filter fun b => w.isPrefixOf b.rest).map (·.offset)).getLast? := by
  rw [Text.findLast?, ← List.head?_filter, List.filter_reverse, List.head?_reverse,
    List.getLast?_map]

theorem mem_starts_iff :
    start ∈ (t.boundaries.filter fun b => w.isPrefixOf b.rest).map (·.offset) ↔
    ∃ stop, Occurs dotNewLine spec t start stop := by
  simp only [List.mem_map, List.mem_filter, occurs_word_iff hw]
  constructor
  · intro h
    rcases h with ⟨b, ⟨hb, hword⟩, rfl⟩
    exact ⟨_, b, hb, hword, rfl, rfl⟩
  · intro h
    rcases h with ⟨stop, b, hb, hword, rfl, -⟩
    exact ⟨b, ⟨hb, hword⟩, rfl⟩

/-- A word that occurs has one end. -/
theorem stops_word (h : Occurs dotNewLine spec t start stop) :
    {e | Occurs dotNewLine spec t start e} = {start + w.size} := by
  ext e
  obtain ⟨b, hb, hword, hoffset, -⟩ := (occurs_word_iff hw).mp h
  constructor
  · intro he
    obtain ⟨-, -, -, -, he⟩ := (occurs_word_iff hw).mp he
    exact he.symm
  · intro h'
    subst h'
    exact (occurs_word_iff hw).mpr ⟨b, hb, hword, hoffset, rfl⟩

/-- The rightmost place of a word is the last occurrence. It has one end, which is the least
and the greatest one. -/
theorem isLast_findLast? {pick : Set Nat → Nat → Prop} (hpick : ∀ n, pick {n} n) :
    IsLast (Occurs dotNewLine spec t) pick (.ofPlace w.size (t.findLast? w)) := by
  rw [findLast?_eq_getLast?]
  cases hlast :
    ((t.boundaries.filter fun b => w.isPrefixOf b.rest).map (·.offset)).getLast? with
  | none =>
      intro start stop h
      have hstart := (mem_starts_iff hw).mpr ⟨stop, h⟩
      rw [List.getLast?_eq_none_iff.mp hlast] at hstart
      exact List.not_mem_nil hstart
  | some n =>
      have hgreatest := (Regex.getLast?_eq_some_iff_isGreatest
        (List.pairwise_map.mpr ((Text.pairwise_boundaries t).filter _))).mp hlast
      have hstarts :
          {m | m ∈ (t.boundaries.filter fun b => w.isPrefixOf b.rest).map (·.offset)} =
          {b | ∃ e, Occurs dotNewLine spec t b e} := Set.ext fun _ => mem_starts_iff hw
      rw [hstarts] at hgreatest
      refine ⟨hgreatest, ?_⟩
      obtain ⟨stop, hstop⟩ := hgreatest.1
      rw [stops_word hw hstop]
      exact hpick _

theorem includes_iff :
    t.includes w = true ↔ ∃ start stop, Occurs dotNewLine spec t start stop := by
  simp only [Text.includes, List.any_eq_true, occurs_word_iff hw]
  constructor
  · intro h
    rcases h with ⟨b, hb, hword⟩
    exact ⟨_, _, b, hb, hword, rfl, rfl⟩
  · intro h
    rcases h with ⟨start, stop, b, hb, hword, -, -⟩
    exact ⟨b, hb, hword⟩

theorem isWidest_word :
    IsWidest (Occurs dotNewLine spec t) (if t.includes w then some w.size else none) := by
  split
  · rename_i h
    obtain ⟨start, stop, h⟩ := (includes_iff hw).mp h
    refine ⟨⟨start, stop, h, ?_⟩, ?_⟩
    · obtain ⟨-, -, -, -, rfl⟩ := (occurs_word_iff hw).mp h
      omega
    · intro n h'
      rcases h' with ⟨start, stop, h, rfl⟩
      obtain ⟨-, -, -, -, rfl⟩ := (occurs_word_iff hw).mp h
      omega
  · rename_i h
    exact fun start stop hocc => h ((includes_iff hw).mpr ⟨start, stop, hocc⟩)

theorem isSuffixOf_iff :
    w.isSuffixOf t = true ↔ ∃ start, Occurs dotNewLine spec t start t.size := by
  simp only [List.isSuffixOf_iff_suffix, occurs_iff, accepts_of_literal? hw]
  constructor
  · intro h
    rcases h with ⟨v, rfl⟩
    exact ⟨Text.size v, v, w, [], by simp, rfl, by simp, rfl⟩
  · intro h
    rcases h with ⟨start, v, u, rest, rfl, rfl, hsize, rfl⟩
    have hrest : Text.size rest = 0 := by
      simp only [Text.size_append] at hsize
      omega
    obtain rfl := Text.size_eq_zero_iff.mp hrest
    exact ⟨v, by simp⟩

/-- A text that is too short for a word has no occurrence of it. -/
theorem not_occurs_word (h : t.size < w.size) : ¬Occurs dotNewLine spec t start stop := by
  intro hocc
  have hstop := hocc.stop_le
  obtain ⟨-, -, -, -, rfl⟩ := (occurs_word_iff hw).mp hocc
  omega

end Word

/-! ## Automata -/

section Run
variable {p : Pattern} {r : Regex} (hp : p.matcher = .automaton r)
  (hlong : p.isTooShort t.size = false)
include hp hlong

/-! Whatever an automaton runs, a search that is not refused comes upon the last start of a
match. -/

theorem isLast_lastShortest_matches (ht : t ≠ []) :
    IsLast (r.Matches t) IsLeast (p.lastShortest t) := by
  have hempty : t.isEmpty = false := by simpa using ht
  simp only [lastShortest, hempty, hlong, Bool.or_self, Bool.false_eq_true, if_false, hp]
  cases hlast : (r.occurrences t).getLast? with
  | none => exact Regex.not_matches_of_occurrences_eq_nil (List.getLast?_eq_none_iff.mp hlast)
  | some o =>
      have hends := Regex.mem_occurrences_iff.mp (List.mem_of_getLast? hlast)
      exact ⟨Regex.isGreatest_of_getLast?_occurrences hlast, hends.1⟩

/-- The start at the end of the text, which is left out, is needed by empty matches only. -/
theorem isLast_lastLongest_matches (ht : t ≠ [])
    (hinside : ∀ b e, r.Matches t b e → b < t.size) :
    IsLast (r.Matches t) IsGreatest (p.lastLongest t) := by
  have hempty : t.isEmpty = false := by simpa using ht
  have hall : (r.occurrences t).filter (·.start < t.size) = r.occurrences t := by
    refine List.filter_eq_self.mpr fun o ho => decide_eq_true ?_
    exact hinside _ _ (Regex.mem_occurrences_iff.mp ho).1.1
  simp only [lastLongest, hempty, hlong, Bool.or_self, Bool.false_eq_true, if_false, hp, hall]
  cases hlast : (r.occurrences t).getLast? with
  | none => exact Regex.not_matches_of_occurrences_eq_nil (List.getLast?_eq_none_iff.mp hlast)
  | some o =>
      have hends := Regex.mem_occurrences_iff.mp (List.mem_of_getLast? hlast)
      exact ⟨Regex.isGreatest_of_getLast?_occurrences hlast, hends.2⟩

theorem surroundingSize?_matches : ∃ width, IsWidest (r.Matches t) width ∧
    p.surroundingSize? t = width.map (t.size - ·) := by
  refine ⟨_, ?_, by simp [surroundingSize?, hp, hlong]; rfl⟩
  cases hmax : ((r.occurrences t).map fun o => o.longestStop - o.start).max? with
  | none =>
      have hnil := List.map_eq_nil_iff.mp (List.max?_eq_none_iff.mp hmax)
      exact Regex.not_matches_of_occurrences_eq_nil hnil
  | some width => exact Regex.isGreatest_of_max?_occurrences hmax

end Run

/-- A run of a spec's expression finds just the occurrences of the spec, whatever it
prefers. -/
theorem matches_expression_iff :
    (expression dotNewLine (ofSpec spec)).Matches t start stop ↔
      Occurs dotNewLine spec t start stop := by
  simp only [Regex.Matches, mem_ends_iff, occurs_iff]
  constructor
  · intro h
    rcases h with ⟨b, hb, rfl, u, w, hrest, rfl, hu⟩
    obtain ⟨v, rfl, hv, -⟩ := Text.mem_boundaries_iff.mp hb
    exact ⟨v, u, w, by rw [hrest], hv.symm, rfl, hu⟩
  · intro h
    rcases h with ⟨v, u, w, rfl, rfl, rfl, hu⟩
    exact ⟨⟨v.size, v.getLast?, u ++ w⟩,
      Text.mem_boundaries_iff.mpr ⟨v, rfl, rfl, rfl⟩, rfl, u, w, rfl, rfl, hu⟩

theorem matches_expression_eq :
    (expression dotNewLine (ofSpec spec)).Matches t = Occurs dotNewLine spec t :=
  funext₂ fun _ _ => propext matches_expression_iff

theorem isTooShort_mono {p : Pattern} {m n : Nat} (hmn : m ≤ n) (h : p.isTooShort m = false) :
    p.isTooShort n = false := by
  unfold isTooShort at h ⊢
  split
  · rename_i hnone
    simp [hnone] at h
  · rename_i least hleast
    simp only [hleast, decide_eq_false_iff_not] at h ⊢
    omega

section Automaton
variable {p : Pattern} (hp : p.matcher = .automaton (expression dotNewLine (ofSpec spec)))
include hp

/-- What occurs is long enough. -/
theorem isTooShort_of_occurs (h : Occurs dotNewLine spec t start stop) :
    p.isTooShort (stop - start) = false := by
  obtain ⟨v, u, w, rfl, rfl, rfl, hu⟩ := occurs_iff.mp h
  have hl : (expression dotNewLine (ofSpec spec)).language none u none :=
    language_expression.mpr hu
  obtain ⟨whole, m⟩ := p
  obtain rfl : m = _ := hp
  rw [Nat.add_sub_cancel_left]
  exact (isTooShort_of_language (proper_expression dotNewLine _) hl).mpr
    (minSize?_expression_ne_none dotNewLine _)

theorem not_occurs_of_isTooShort (h : p.isTooShort t.size = true) :
    ¬Occurs dotNewLine spec t start stop := by
  intro hocc
  have hsize : stop - start ≤ t.size := (Nat.sub_le stop start).trans hocc.stop_le
  rw [isTooShort_mono hsize (isTooShort_of_occurs hp hocc)] at h
  cases h

theorem isLast_lastShortest_automaton (ht : t ≠ []) :
    IsLast (Occurs dotNewLine spec t) IsLeast (p.lastShortest t) := by
  by_cases hshort : p.isTooShort t.size = true
  · simp only [lastShortest, hshort, Bool.or_true, if_true]
    exact fun _ _ => not_occurs_of_isTooShort hp hshort
  · rw [← matches_expression_eq]
    exact isLast_lastShortest_matches hp (by simpa using hshort) ht

/-- No start lies at the end of the text, so the longest occurrence is found at the same
start. -/
theorem isLast_lastLongest_automaton (hopen : isOpen (ofSpec spec) = false) (ht : t ≠ []) :
    IsLast (Occurs dotNewLine spec t) IsGreatest (p.lastLongest t) := by
  by_cases hshort : p.isTooShort t.size = true
  · simp only [lastLongest, hshort, Bool.or_true, if_true]
    exact fun _ _ => not_occurs_of_isTooShort hp hshort
  · rw [← matches_expression_eq]
    refine isLast_lastLongest_matches hp (by simpa using hshort) ht fun b e h => ?_
    have hocc := matches_expression_iff.mp h
    exact (hocc.start_lt hopen).trans_le hocc.stop_le

theorem surroundingSize?_automaton : ∃ width, IsWidest (Occurs dotNewLine spec t) width ∧
    p.surroundingSize? t = width.map (t.size - ·) := by
  by_cases hshort : p.isTooShort t.size = true
  · refine ⟨none, fun _ _ => not_occurs_of_isTooShort hp hshort, ?_⟩
    simp [surroundingSize?, hp, hshort]
  · rw [← matches_expression_eq]
    exact surroundingSize?_matches hp (by simpa using hshort)

theorem endsText_automaton (ht : t ≠ []) :
    p.endsText t = true ↔ ∃ start, Occurs dotNewLine spec t start t.size := by
  have hempty : t.isEmpty = false := by simpa using ht
  simp only [endsText, hempty, Bool.false_eq_true, if_false, hp, Bool.and_eq_true,
    Bool.not_eq_true', List.any_eq_true, beq_iff_eq]
  constructor
  · intro h'
    rcases h' with ⟨-, o, ho, -, hstop⟩
    have hends := Regex.mem_occurrences_iff.mp ho
    simp only [matches_expression_iff, hstop] at hends
    exact ⟨o.start, hends.2.1⟩
  · intro h'
    rcases h' with ⟨start, h⟩
    obtain ⟨o, ho, rfl⟩ := Regex.exists_occurrence (matches_expression_iff.mpr h)
    have hends := Regex.mem_occurrences_iff.mp ho
    simp only [matches_expression_iff] at hends
    have hlong := isTooShort_of_occurs hp h
    exact ⟨isTooShort_mono (Nat.sub_le _ _) hlong, o, ho, hlong,
      Nat.le_antisymm hends.2.1.stop_le (hends.2.2 h)⟩

end Automaton

/-! ## Both kinds of patterns -/

/-- The queries answer what is to be known of the occurrences in a text. -/
structure Answers (occurs : Nat → Nat → Prop) (p : Pattern) (t : Text) : Prop where
  endsText_iff : p.endsText t = true ↔ ∃ start, occurs start t.size
  isLast_lastShortest : IsLast occurs IsLeast (p.lastShortest t)
  isLast_lastLongest : IsLast occurs IsGreatest (p.lastLongest t)
  surroundingSize?_eq : ∃ width, IsWidest occurs width ∧
    p.surroundingSize? t = width.map (t.size - ·)

theorem answers_word {p : Pattern} {w : Text} (hw : literal? (ofSpec spec) = some w)
    (hp : p.matcher = .word w) (ht : t ≠ []) : Answers (Occurs dotNewLine spec t) p t := by
  have hempty : t.isEmpty = false := by simpa using ht
  have hshort : p.isTooShort t.size = decide (t.size < w.size) := by
    simp [isTooShort, minSize?, hp]
  have hspan {pick : Set Nat → Nat → Prop} (hpick : ∀ n, pick {n} n) :
      IsLast (Occurs dotNewLine spec t) pick
        (if t.size < w.size then .notFound else .ofPlace w.size (t.findLast? w)) := by
    split
    · rename_i h
      exact fun _ _ => not_occurs_word hw h
    · exact isLast_findLast? hw hpick
  constructor
  · simp only [endsText, hempty, hp, Bool.false_eq_true, if_false]
    exact isSuffixOf_iff hw
  · simp only [lastShortest, hempty, hshort, hp, Bool.false_or, decide_eq_true_eq]
    exact hspan fun n => isLeast_singleton
  · simp only [lastLongest, hempty, hshort, hp, Bool.false_or, decide_eq_true_eq]
    exact hspan fun n => isGreatest_singleton
  · refine ⟨_, isWidest_word hw, ?_⟩
    simp only [surroundingSize?, hp, hempty, Bool.false_or, Bool.not_eq_true']
    cases t.includes w <;> simp

/-- The queries of a compiled spec are exact, unless the spec accepts everything. -/
theorem answers_compile {settings : PatternSettings} {p : Pattern}
    (h : compile settings spec = .ok p) (hp : p.isEverything = false) (ht : t ≠ []) :
    Answers (Occurs settings.dotMatchesNewLine spec t) p t := by
  rcases compile_cases h with ⟨-, rfl⟩ | ⟨-, w, hw, rfl⟩ | ⟨hopen, rfl⟩
  · simp [isEverything] at hp
  · exact answers_word hw rfl ht
  · exact ⟨endsText_automaton rfl ht, isLast_lastShortest_automaton rfl ht,
      isLast_lastLongest_automaton rfl hopen ht, surroundingSize?_automaton rfl⟩

/-- All queries are told by the set of occurrences: nothing is found if there are none;
otherwise the last start, its ends and the greatest width are those of the set. No end of a
run is hidden by what the run prefers. -/
theorem occurrence_queries {settings : PatternSettings} {p : Pattern}
    (h : compile settings spec = .ok p) (hp : p.isEverything = false) (ht : t ≠ []) :
    (p.endsText t = true ↔ ∃ start, Occurs settings.dotMatchesNewLine spec t start t.size) ∧
    (((∀ start stop, ¬Occurs settings.dotMatchesNewLine spec t start stop) ∧
        p.lastShortest t = .notFound ∧
        p.sizeBeforeLastShortest? t = none ∧ p.sizeAfterLastShortest? t = none ∧
        p.sizeBeforeLast? t = none ∧ p.sizeAfterLast? t = none ∧
        p.surroundingSize? t = none) ∨
      ∃ start shortest longest width,
        IsGreatest {b | ∃ e, Occurs settings.dotMatchesNewLine spec t b e} start ∧
        IsLeast {e | Occurs settings.dotMatchesNewLine spec t start e} shortest ∧
        IsGreatest {e | Occurs settings.dotMatchesNewLine spec t start e} longest ∧
        IsGreatest {n | ∃ b e, Occurs settings.dotMatchesNewLine spec t b e ∧
          n = e - b} width ∧
        p.lastShortest t = .range start shortest ∧
        p.sizeBeforeLastShortest? t = some start ∧
        p.sizeAfterLastShortest? t = some (t.size - shortest) ∧
        p.sizeBeforeLast? t = some start ∧
        p.sizeAfterLast? t = some (t.size - longest) ∧
        p.surroundingSize? t = some (t.size - width)) ∧
    ∀ r, p.matcher = .automaton r → ∀ b ∈ t.boundaries, ∀ e,
      e ∈ r.ends b ↔ Occurs settings.dotMatchesNewLine spec t b.offset e := by
  have hempty : t.isEmpty = false := by simpa using ht
  obtain ⟨hends, hshortest, hlongest, width, hwidth, hsurrounding⟩ := answers_compile h hp ht
  refine ⟨hends, ?_, ?_⟩
  · simp only [sizeBeforeLastShortest?, sizeAfterLastShortest?, sizeBeforeLast?,
      sizeAfterLast?, hempty, hp, Bool.false_eq_true, if_false, hsurrounding]
    rcases last_cases hshortest hlongest hwidth with ⟨hnone, hs, hs', rfl⟩ |
      ⟨start, shortest, longest, n, hstart, hleast, hgreatest, hwidest, hs, hs', rfl⟩
    · rw [hs, hs']
      exact .inl ⟨hnone, rfl, rfl, rfl, rfl, rfl, rfl⟩
    · rw [hs, hs']
      exact .inr ⟨start, shortest, longest, n, hstart, hleast, hgreatest, hwidest,
        rfl, rfl, rfl, rfl, rfl, rfl⟩
  · intro r hr b hb e
    rcases compile_cases h with ⟨-, rfl⟩ | ⟨-, w, -, rfl⟩ | ⟨-, rfl⟩
    · cases hr
    · cases hr
    · obtain rfl : _ = r := by injection hr
      rw [← Regex.matches_iff hb, matches_expression_iff]

/-- A spec occurs at the end of a text, where its run takes the rest. -/
theorem endsText_compile_run :
    ∃ p, compile {} "a*".toList = .ok p ∧ p.endsText "xab".toList = true := by
  have hdescribes : Describes true "a*".toList "ab".toList :=
    .char rfl (.anyRun (u := ['b']) (fun _ _ => .inl rfl) .nil)
  have hqueries := occurrence_queries compile_run rfl (t := "xab".toList) (by decide)
  exact ⟨_, compile_run, hqueries.1.mpr ⟨1, "ab".toList, by decide, hdescribes⟩⟩

end ControlSearch.Pattern
