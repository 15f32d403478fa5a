import ControlSearch.Proofs.Pattern.Segments
import ControlSearch.Proofs.Pattern.WholeText

/-!
# Least sizes and the guards made of them

The least size of a compiled spec is that of a text that the spec accepts, and no accepted
text is smaller. Before a text is searched, it is refused if it is smaller than the least
size. A guard that refuses no match changes no answer. The guard of an expression changes none
just if its least size is a bound, which can only fail where there is no least size at all.
-/
namespace ControlSearch

namespace Pattern
open Wildcard

variable {settings : PatternSettings} {spec t w : Text} {p : Pattern} {r : Regex}
  {n start stop : Nat}
  {refuses : Nat → Bool}

/-! ## Least sizes -/

/-- No accepted text is smaller than the least one. -/
theorem size_least_le (h : compile settings spec = .ok p) (ht : p.accepts t = true) :
    (least (ofSpec spec)).size ≤ t.size := by
  rcases (accepts_compile_parts h t).mp ht with hopen | haccepts
  · simp [least_eq_nil_iff.mpr hopen]
  · have hl : (expression settings.dotMatchesNewLine (ofSpec spec)).language none t none :=
      language_expression.mpr haccepts
    exact Regex.minSize?_le (proper_expression _ _) (minSize?_expression _ _) hl

theorem accepts_least_text (h : compile settings spec = .ok p) :
    p.accepts (least (ofSpec spec)) = true :=
  (accepts_compile_parts h _).mpr (.inr (accepts_least _))

/-! ## Bounds -/

/-- No match is smaller than the least size, and there are no matches if there is no least
size. -/
def BoundsMatches (p : Pattern) : Prop :=
  ∀ t start stop, p.Finds t start stop → ∃ least, p.minSize? = some least ∧
  start + least ≤ stop

theorem start_add_le_of_matches (hr : r.Proper) {least : Nat}
    (hleast : r.minSize? = some least) (h : r.Matches t start stop) :
    start + least ≤ stop := by
  obtain ⟨b, -, rfl, hstop⟩ := h
  obtain ⟨s, hs, u, v, -, rfl, hl⟩ := Regex.language_of_mem_endsFrom hstop
  obtain rfl := List.mem_singleton.mp hs
  exact Nat.add_le_add_left (Regex.minSize?_le hr hleast hl) _

/-- The least size of an automaton is a bound wherever there is one. -/
theorem boundsMatches_iff (hr : r.Proper) (hp : p.matcher = .automaton r) :
    p.BoundsMatches ↔ (p.minSize? = none → ∀ t start stop, ¬p.Finds t start stop) := by
  have hmin : p.minSize? = r.minSize? := by simp [minSize?, hp]
  constructor
  · intro h hnone t start stop hfinds
    obtain ⟨least, hleast, -⟩ := h t start stop hfinds
    rw [hnone] at hleast
    cases hleast
  · intro h t start stop hfinds
    cases hleast : p.minSize? with
    | none => exact absurd hfinds (h hleast t start stop)
    | some least =>
        rw [hmin] at hleast
        exact ⟨least, rfl,
          start_add_le_of_matches hr hleast ((finds_automaton_iff hp).mp hfinds)⟩

/-- One alternative without a member leaves no least size, whatever the other one matches. -/
example (r : Regex) : (Regex.alt r .never).minSize? = none := by
  cases h : r.minSize? <;>
    simp [Regex.minSize?, Regex.never, CharSet.minSize?, CharSet.empty, h]

theorem boundsMatches_compile (h : compile settings spec = .ok p) : p.BoundsMatches := by
  rcases compile_cases h with ⟨-, rfl⟩ | ⟨-, w, -, rfl⟩ | ⟨-, rfl⟩
  · exact fun t start stop hfinds => absurd hfinds (not_finds_everything rfl)
  · intro t start stop hfinds
    obtain ⟨v, x, -, -, hsize⟩ := Text.slice?_eq_some_iff.mp ((finds_word_iff rfl).mp hfinds)
    exact ⟨w.size, rfl, hsize.le⟩
  · refine (boundsMatches_iff (proper_expression _ _) rfl).mpr ?_
    exact fun hnone => absurd hnone (minSize?_expression_ne_none _ _)

/-! ## Queries behind a guard -/

namespace Guarded

variable (refuses : Nat → Bool) (p : Pattern) (t : Text)

/-- Whether the text as a whole is accepted, unless its size is refused. -/
def accepts : Bool :=
  match p.matcher with
  | .everything => true
  | .word w => t == w
  | .automaton r => !refuses t.size && (r.ends ⟨0, none, t⟩).contains t.size

/-- Whether an occurrence ends at the end of the text, of those from where the size of the
rest is not refused. -/
def endsText : Bool :=
  if t.isEmpty then false
  else match p.matcher with
    | .everything => false
    | .word w => w.isSuffixOf t
    | .automaton r =>
      !refuses t.size && (r.occurrences t).any fun o =>
        !refuses (t.size - o.start) && o.longestStop == t.size

/-- The leftmost occurrence from an offset on, unless the size of the rest is refused. -/
def firstFrom (start : Nat) : Span :=
  if t.isEmpty || start > t.size then .notFound
  else match p.matcher with
    | .everything => .notFound
    | .word w => .ofPlace w.size (((t.drop? start).bind (·.find? w)).map (start + ·))
    | .automaton r =>
      if refuses (t.size - start) then .notFound
      else (((r.occurrences t).find? (start ≤ ·.start)).map shortest).getD .notFound

def first : Span := firstFrom refuses p t 0

/-- The last place of a word, or what is reported of an automaton, unless the size of the text
is refused. -/
def last (report : Regex → Span) : Span :=
  if t.isEmpty || refuses t.size then .notFound
  else match p.matcher with
    | .everything => .notFound
    | .word w => .ofPlace w.size (t.findLast? w)
    | .automaton r => report r

/-- The shortest occurrence at the rightmost start. -/
def lastShortest : Span :=
  last refuses p t fun r => ((r.occurrences t).getLast?.map shortest).getD .notFound

/-- The longest occurrence at the rightmost start in front of the end of the text. -/
def lastLongest : Span :=
  last refuses p t fun r =>
    (((r.occurrences t).filter (·.start < t.size)).getLast?.map longest).getD .notFound

def sizeBefore? (last : Span) : Option Nat :=
  if t.isEmpty then none
  else if p.isEverything then some 0 else last.start?

def sizeAfter? (last : Span) : Option Nat :=
  if p.isEverything then some t.size else last.stop?.map (t.size - ·)

/-- The bytes outside the widest occurrence, unless the size of the text is refused. -/
def surroundingSize? : Option Nat :=
  match p.matcher with
  | .everything => some 0
  | .word w => if t.isEmpty || !t.includes w then none else some (t.size - w.size)
  | .automaton r =>
    if refuses t.size then none
    else ((r.occurrences t).map fun o => o.longestStop - o.start).max?.map (t.size - ·)

end Guarded

/-- All queries about a text answer as they do behind a guard. -/
structure AnswersBehind (refuses : Nat → Bool) (p : Pattern) (t : Text) : Prop where
  accepts : p.accepts t = Guarded.accepts refuses p t
  endsText : p.endsText t = Guarded.endsText refuses p t
  firstFrom : ∀ start, p.firstFrom t start = Guarded.firstFrom refuses p t start
  first : p.first t = Guarded.first refuses p t
  lastShortest : p.lastShortest t = Guarded.lastShortest refuses p t
  lastLongest : p.lastLongest t = Guarded.lastLongest refuses p t
  sizeBeforeLast? :
    p.sizeBeforeLast? t = Guarded.sizeBefore? p t (Guarded.lastLongest refuses p t)
  sizeBeforeLastShortest? :
    p.sizeBeforeLastShortest? t = Guarded.sizeBefore? p t (Guarded.lastShortest refuses p t)
  sizeAfterLast? :
    p.sizeAfterLast? t = Guarded.sizeAfter? p t (Guarded.lastLongest refuses p t)
  sizeAfterLastShortest? :
    p.sizeAfterLastShortest? t = Guarded.sizeAfter? p t (Guarded.lastShortest refuses p t)
  surroundingSize? : p.surroundingSize? t = Guarded.surroundingSize? refuses p t

/-- The guard of the queries refuses what is smaller than the least size. -/
theorem answersBehind_isTooShort (p : Pattern) (t : Text) :
    AnswersBehind p.isTooShort p t := by
  constructor <;> intros <;> rfl

/-! ## Guards that spare all matches -/

/-- No size is refused in which there is room for a match. -/
def Spares (refuses : Nat → Bool) (p : Pattern) : Prop :=
  ∀ t start stop n, p.Finds t start stop → stop - start ≤ n → refuses n = false

theorem BoundsMatches.spares (h : p.BoundsMatches) : Spares p.isTooShort p := by
  intro t start stop n hfinds hroom
  obtain ⟨least, hleast, hle⟩ := h t start stop hfinds
  simp only [isTooShort, hleast, decide_eq_false_iff_not]
  omega

/-- In a text whose size is refused, nothing is found. -/
theorem Spares.not_finds (h : Spares refuses p) (hsize : refuses t.size = true)
    (start stop : Nat) :
    ¬p.Finds t start stop := by
  intro hfinds
  have hle := hfinds.slices.stop_le
  have hspared := h t start stop t.size hfinds (by omega)
  rw [hsize] at hspared
  cases hspared

theorem occurrences_eq_nil (hp : p.matcher = .automaton r)
    (hnone : ∀ start stop, ¬p.Finds t start stop) :
    r.occurrences t = [] :=
  List.eq_nil_iff_forall_not_mem.mpr fun _ ho => hnone _ _ (finds_of_mem_occurrences hp ho).1

theorem findLast?_eq_none (hp : p.matcher = .word w)
    (hnone : ∀ start stop, ¬p.Finds t start stop) :
    t.findLast? w = none := by
  cases hplace : t.findLast? w with
  | none => rfl
  | some n =>
      exact absurd ((finds_word_iff hp).mpr (Text.slice?_of_findLast? hplace)) (hnone _ _)

namespace Guarded

/-! Without a guard, the same is answered. -/

section Spares
variable (h : Spares refuses p)
include h

theorem accepts_eq (t : Text) : accepts refuses p t = accepts (fun _ => false) p t := by
  cases hp : p.matcher with
  | everything => simp [accepts, hp]
  | word w => simp [accepts, hp]
  | automaton r =>
      by_cases hsize : refuses t.size = true
      · have hends : t.size ∉ r.ends ⟨0, none, t⟩ := by
          intro hmem
          have hmatch := Regex.matches_whole_iff.mpr hmem
          exact h.not_finds hsize 0 t.size ((finds_automaton_iff hp).mpr hmatch)
        simp [accepts, hp, hsize, hends]
      · simp [accepts, hp, hsize]

theorem endsText_eq (t : Text) : endsText refuses p t = endsText (fun _ => false) p t := by
  cases hp : p.matcher with
  | everything => simp [endsText, hp]
  | word w => simp [endsText, hp]
  | automaton r =>
      by_cases hsize : refuses t.size = true
      · simp [endsText, hp, hsize, occurrences_eq_nil hp (h.not_finds hsize)]
      · have hrest :
            (r.occurrences t).any (fun o =>
              !refuses (t.size - o.start) && o.longestStop == t.size) =
            (r.occurrences t).any (fun o => o.longestStop == t.size) := by
          rw [Bool.eq_iff_iff]
          simp only [List.any_eq_true, Bool.and_eq_true, Bool.not_eq_true', beq_iff_eq]
          constructor
          · rintro ⟨o, ho, -, hstop⟩
            exact ⟨o, ho, hstop⟩
          · rintro ⟨o, ho, hstop⟩
            have hfinds := (finds_of_mem_occurrences hp ho).2
            exact ⟨o, ho, h t o.start o.longestStop _ hfinds (by omega), hstop⟩
        simp [endsText, hp, hsize, hrest]

theorem firstFrom_eq (t : Text) (offset : Nat) :
    firstFrom refuses p t offset = firstFrom (fun _ => false) p t offset := by
  cases hp : p.matcher with
  | everything => simp [firstFrom, hp]
  | word w => simp [firstFrom, hp]
  | automaton r =>
      by_cases hsize : refuses (t.size - offset) = true
      · have hnone : (r.occurrences t).find? (offset ≤ ·.start) = none := by
          refine List.find?_eq_none.mpr fun o ho hstart => ?_
          have hfinds := (finds_of_mem_occurrences hp ho).1
          have hle := hfinds.slices.stop_le
          have hstart : offset ≤ o.start := of_decide_eq_true hstart
          have hspared := h t o.start o.shortestStop (t.size - offset) hfinds (by omega)
          rw [hsize] at hspared
          cases hspared
        simp [firstFrom, hp, hsize, hnone]
      · simp [firstFrom, hp, hsize]

theorem last_eq (t : Text) {report : Regex → Span}
    (hreport : ∀ r : Regex, r.occurrences t = [] → report r = .notFound) :
    last refuses p t report = last (fun _ => false) p t report := by
  by_cases hsize : refuses t.size = true
  · have hnone := h.not_finds hsize
    cases hp : p.matcher with
    | everything => simp [last, hp]
    | word w => simp [last, hp, hsize, findLast?_eq_none hp hnone, Span.ofPlace]
    | automaton r => simp [last, hp, hsize, hreport r (occurrences_eq_nil hp hnone)]
  · simp [last, hsize]

theorem lastShortest_eq (t : Text) :
    lastShortest refuses p t = lastShortest (fun _ => false) p t :=
  last_eq h t fun r hnil => by simp [hnil]

theorem lastLongest_eq (t : Text) :
    lastLongest refuses p t = lastLongest (fun _ => false) p t :=
  last_eq h t fun r hnil => by simp [hnil]

theorem surroundingSize?_eq (t : Text) :
    surroundingSize? refuses p t = surroundingSize? (fun _ => false) p t := by
  cases hp : p.matcher with
  | everything => simp [surroundingSize?, hp]
  | word w => simp [surroundingSize?, hp]
  | automaton r =>
      by_cases hsize : refuses t.size = true
      · simp [surroundingSize?, hp, hsize, occurrences_eq_nil hp (h.not_finds hsize)]
      · simp [surroundingSize?, hp, hsize]

end Spares
end Guarded

/-- A least size that is a bound can be done without. -/
theorem BoundsMatches.answersBehind (h : p.BoundsMatches) (t : Text) :
    AnswersBehind (fun _ => false) p t := by
  have hspares := h.spares
  have hown := answersBehind_isTooShort p t
  have hshortest := Guarded.lastShortest_eq hspares t
  have hlongest := Guarded.lastLongest_eq hspares t
  exact {
    accepts := hown.accepts.trans (Guarded.accepts_eq hspares t)
    endsText := hown.endsText.trans (Guarded.endsText_eq hspares t)
    firstFrom :=
      fun offset => (hown.firstFrom offset).trans (Guarded.firstFrom_eq hspares t offset)
    first := hown.first.trans (Guarded.firstFrom_eq hspares t 0)
    lastShortest := hown.lastShortest.trans hshortest
    lastLongest := hown.lastLongest.trans hlongest
    sizeBeforeLast? :=
      hown.sizeBeforeLast?.trans (congrArg (Guarded.sizeBefore? p t) hlongest)
    sizeBeforeLastShortest? :=
      hown.sizeBeforeLastShortest?.trans (congrArg (Guarded.sizeBefore? p t) hshortest)
    sizeAfterLast? := hown.sizeAfterLast?.trans (congrArg (Guarded.sizeAfter? p t) hlongest)
    sizeAfterLastShortest? :=
      hown.sizeAfterLastShortest?.trans (congrArg (Guarded.sizeAfter? p t) hshortest)
    surroundingSize? := hown.surroundingSize?.trans (Guarded.surroundingSize?_eq hspares t) }

/-- A guard that can be done without refuses nothing that is found: what is found in the empty
text is the text as a whole, and in any other text there is a last occurrence. -/
theorem not_finds_of_answersBehind (hp : p.matcher = .automaton r) (hnone : p.minSize? = none)
    (h : AnswersBehind (fun _ => false) p t) : ¬p.Finds t start stop := by
  intro hfinds
  have hmatch := (finds_automaton_iff hp).mp hfinds
  have hshort (n : Nat) : p.isTooShort n = true := by simp [isTooShort, hnone]
  by_cases ht : t = []
  · subst ht
    have hle := hfinds.slices.le
    have hstop : stop ≤ 0 := hfinds.slices.stop_le
    obtain rfl : stop = 0 := by omega
    obtain rfl : start = 0 := by omega
    have hends : 0 ∈ r.ends ⟨0, none, []⟩ := Regex.matches_whole_iff.mp hmatch
    have haccepts := h.accepts
    simp [accepts, Guarded.accepts, hp, hshort, hends] at haccepts
  · obtain ⟨o, ho, -⟩ := Regex.exists_occurrence hmatch
    have hne : r.occurrences t ≠ [] := List.ne_nil_of_mem ho
    have hlast := h.lastShortest
    simp [lastShortest, Guarded.lastShortest, Guarded.last, hp, hshort, ht,
      List.getLast?_eq_some_getLast hne, shortest]
      at hlast

/-- The least size of a compiled spec is the size of the least text that it accepts, and is
zero just if the spec accepts everything. The queries stand behind a guard that refuses what
is smaller than the least size. Those of a compiled spec answer as if nothing was ever
refused, and those of an expression do if and only if its least size bounds its matches. -/
theorem guards_hide_nothing (settings : PatternSettings) :
    (∀ p t, AnswersBehind p.isTooShort p t) ∧
    (∀ spec p, compile settings spec = .ok p →
      (∃ least, p.minSize? = some least ∧ (∀ t, p.accepts t = true → least ≤ t.size) ∧
        (∃ t, p.accepts t = true ∧ t.size = least) ∧ (least = 0 ↔ p.isEverything = true)) ∧
      ∀ t, AnswersBehind (fun _ => false) p t) ∧
    ∀ expression properties p, ofRegex settings expression properties = .ok p →
      (p.BoundsMatches ↔ ∀ t, AnswersBehind (fun _ => false) p t) := by
  refine ⟨answersBehind_isTooShort, ?_, ?_⟩
  · intro spec p h
    have hmin := minSize?_compile h
    refine ⟨⟨_, hmin, fun t => size_least_le h, ⟨_, accepts_least_text h, rfl⟩, ?_⟩,
      (boundsMatches_compile h).answersBehind⟩
    rw [← mayBeEmpty_eq_isEverything h, mayBeEmpty, hmin]
    simp
  · intro expression properties p h
    obtain ⟨e, r, -, rfl, -, hr⟩ := ofRegex_cases h
    constructor
    · exact fun hbounds => hbounds.answersBehind
    · intro hanswers
      refine (boundsMatches_iff hr rfl).mpr fun hnone t start stop => ?_
      exact not_finds_of_answersBehind rfl hnone (hanswers t)

/-- A spec with a run, whose least text is one byte, and an expression whose least size is a
bound. -/
theorem guards_hide_nothing_choice :
    (∃ p, compile {} "a*".toList = .ok p ∧ p.minSize? = some 1 ∧
      (∃ t, p.accepts t = true ∧ t.size = 1) ∧ ∀ t, AnswersBehind (fun _ => false) p t) ∧
    ∃ p, ofRegex {} "a|ab".toList = .ok p ∧ p.BoundsMatches ∧
      ∀ t, AnswersBehind (fun _ => false) p t := by
  obtain ⟨-, hspecs, hexpressions⟩ := guards_hide_nothing {}
  constructor
  · obtain ⟨⟨n, hn, -, ⟨t, ht, hsize⟩, -⟩, hanswers⟩ := hspecs _ _ compile_run
    obtain rfl : 1 = n := Option.some.inj hn
    exact ⟨_, compile_run, hn, ⟨t, ht, hsize⟩, hanswers⟩
  · obtain ⟨e, r, -, hp, -, hr⟩ := ofRegex_cases ofRegex_choice
    obtain rfl : .alt (.char 'a') (.cat (.char 'a') (.char 'b')) = r := by
      injection hp with _ hmatcher
      injection hmatcher
    have hbounds := (boundsMatches_iff hr (p := ⟨"a|ab".toList, .automaton _⟩) rfl).mpr nofun
    exact ⟨_, ofRegex_choice, hbounds, (hexpressions _ _ _ ofRegex_choice).mp hbounds⟩

end Pattern
end ControlSearch
