import ControlSearch.Proofs.Pattern.WholeText
import ControlSearch.Proofs.Pattern.Written
import ControlSearch.Proofs.Regex.Automaton

/-!
# The byte loop behind the queries

A query that runs an automaton is answered by scans of the bytes of the text: one from a
boundary after the other, each over a state per byte, with ends that are seen one byte late.
The occurrences that queries read off a single sweep of the characters are those that the
scans come upon. So what is reported can be used to slice the text, though a scan knows
nothing of characters.
-/
namespace ControlSearch

namespace Regex

variable {r : Regex} {t : Text} {bs : List Text.Boundary}

/-! ## Occurrences, by boundaries -/

theorem map_shortest_occurrenceAt? (r : Regex) (b : Text.Boundary) :
    (r.occurrenceAt? b).map Pattern.shortest = (r.ends b).head?.map (.range b.offset) := by
  rw [occurrenceAt?, shortestEnd?_eq_head?, longestEnd?]
  cases r.ends b <;> rfl

theorem map_longestStop_occurrenceAt? {α : Type} (r : Regex) (b : Text.Boundary)
    (f : Nat → Nat → α) :
    (r.occurrenceAt? b).map (fun o => f o.start o.longestStop) =
      (r.ends b).getLast?.map (f b.offset) := by
  rw [occurrenceAt?, shortestEnd?_eq_head?, longestEnd?]
  cases r.ends b with
  | nil => rfl
  | cons stop stops =>
      rw [List.getLast?_cons]
      rfl

theorem filter_occurrences (r : Regex) (t : Text) (p : Nat → Bool) :
    (r.occurrences t).filter (fun o => p o.start) =
      (t.boundaries.filter fun b => p b.offset).filterMap r.occurrenceAt? := by
  rw [occurrences_eq, List.filter_filterMap, List.filterMap_filter]
  refine List.filterMap_congr fun b _ => ?_
  cases ho : r.occurrenceAt? b with
  | none => simp
  | some o => simp [Option.filter, (occurrenceAt?_eq_some_iff.mp ho).1]

/-! ## What scans come upon -/

theorem filterMap_shortestEnd? (h : r.asksUnicodeWords = false) (hbs : bs ⊆ t.boundaries) :
    bs.filterMap (fun b =>
      (r.automaton.shortestEnd? t b.offset t.size).map (.range b.offset)) =
      (bs.filterMap r.occurrenceAt?).map Pattern.shortest := by
  rw [List.map_filterMap]
  refine List.filterMap_congr fun b hb => ?_
  rw [(reports_automaton h t).shortestEnd?_eq (hbs hb), map_shortest_occurrenceAt?]

theorem filterMap_longestEnd? (h : r.asksUnicodeWords = false) (hbs : bs ⊆ t.boundaries) :
    bs.filterMap (fun b => (r.automaton.longestEnd? t b.offset).map (.range b.offset)) =
      (bs.filterMap r.occurrenceAt?).map Pattern.longest := by
  rw [List.map_filterMap]
  refine List.filterMap_congr fun b hb => ?_
  rw [(reports_automaton h t).longestEnd?_eq (hbs hb)]
  exact (map_longestStop_occurrenceAt? r b Span.range).symm

theorem accepts_automaton (h : r.asksUnicodeWords = false) (t : Text) :
    r.automaton.accepts t = (r.ends ⟨0, none, t⟩).contains t.size :=
  (reports_automaton h t).endsAt_eq (b := ⟨0, none, t⟩)
    (Text.mem_boundaries_iff.mpr ⟨[], rfl, rfl, rfl⟩)

/-- The longest match of a start reaches the end of the text if any does. -/
theorem any_longestStop_occurrenceAt? {b : Text.Boundary} (hb : b ∈ t.boundaries) :
    ((r.occurrenceAt? b).any fun o => o.longestStop == t.size) =
      (r.ends b).contains t.size := by
  cases ho : r.occurrenceAt? b with
  | none =>
      have hnone := map_longestStop_occurrenceAt? r b Span.range
      rw [ho, Option.map_none, eq_comm, Option.map_eq_none_iff, List.getLast?_eq_none_iff]
        at hnone
      rw [hnone]
      rfl
  | some o =>
      obtain ⟨-, -, hmem, hgreatest⟩ := occurrenceAt?_eq_some_iff.mp ho
      have hle : o.longestStop ≤ t.size := ((matches_iff hb).mpr hmem).slices.stop_le
      rw [Option.any_some, Bool.eq_iff_iff, beq_iff_eq, List.contains_iff_mem]
      constructor
      · intro hstop
        exact hstop ▸ hmem
      · intro hsize
        exact Nat.le_antisymm hle (hgreatest hsize)

theorem endsText_automaton (h : r.asksUnicodeWords = false)
    (isTooShort : Nat → Bool) (t : Text) :
    r.automaton.endsText isTooShort t =
      (r.occurrences t).any fun o =>
        !isTooShort (t.size - o.start) && o.longestStop == t.size := by
  rw [Automaton.endsText, ← List.any_filter,
    filter_occurrences r t fun n => !isTooShort (t.size - n), List.filter_reverse,
    List.any_reverse, List.any_filterMap]
  rw [Bool.eq_iff_iff, List.any_eq_true, List.any_eq_true]
  refine exists_congr fun b => and_congr_right fun hb => ?_
  have hb := List.mem_of_mem_filter hb
  rw [(reports_automaton h t).endsAt_eq hb, ← any_longestStop_occurrenceAt? hb]
  rfl

theorem firstFrom_automaton (h : r.asksUnicodeWords = false) (t : Text) (start : Nat) :
    r.automaton.firstFrom t start =
      (((r.occurrences t).find? (start ≤ ·.start)).map Pattern.shortest).getD .notFound := by
  rw [Automaton.firstFrom, ← List.head?_filterMap,
    filterMap_shortestEnd? h (List.filter_subset_self _), ← List.head?_filter,
    filter_occurrences r t (start ≤ ·), List.head?_map]

theorem lastShortest_automaton (h : r.asksUnicodeWords = false) (t : Text) :
    r.automaton.lastShortest t =
      ((r.occurrences t).getLast?.map Pattern.shortest).getD .notFound := by
  rw [Automaton.lastShortest, ← List.head?_filterMap,
    filterMap_shortestEnd? h fun b hb => List.mem_reverse.mp hb, List.filterMap_reverse,
    occurrences_eq, List.head?_map, List.head?_reverse]

theorem lastLongest_automaton (h : r.asksUnicodeWords = false) (t : Text) :
    r.automaton.lastLongest t = (((r.occurrences t).filter (·.start < t.size)).getLast?.map
      Pattern.longest).getD .notFound := by
  rw [Automaton.lastLongest, ← List.head?_filterMap, filterMap_longestEnd? h,
    List.filter_reverse, List.filterMap_reverse, filter_occurrences r t (· < t.size),
    List.head?_map, List.head?_reverse]
  exact fun b hb => List.mem_reverse.mp (List.mem_of_mem_filter hb)

theorem widestSize?_automaton (h : r.asksUnicodeWords = false) (t : Text) :
    r.automaton.widestSize? t =
      ((r.occurrences t).map fun o => o.longestStop - o.start).max? := by
  rw [Automaton.widestSize?, occurrences_eq, List.map_filterMap]
  refine congrArg List.max? (List.filterMap_congr fun b hb => ?_)
  rw [(reports_automaton h t).longestEnd?_eq hb]
  exact (map_longestStop_occurrenceAt? r b fun start stop => stop - start).symm

end Regex

namespace Pattern

variable {p : Pattern} {t : Text} {r : Regex}

/-- The automaton of a compiled pattern asks for no words of all scripts. -/
theorem IsCompiled.asksUnicodeWords (h : p.IsCompiled) (hp : p.matcher = .automaton r) :
    r.asksUnicodeWords = false := by
  cases h with
  | ofSpec h =>
      rcases compile_cases h with ⟨-, rfl⟩ | ⟨-, w, -, rfl⟩ | ⟨-, rfl⟩
      · cases hp
      · cases hp
      · obtain rfl := Matcher.automaton.inj hp
        exact Wildcard.asksUnicodeWords_expression _ _
  | ofExpression h =>
      unfold ofRegex at h
      split at h
      · cases h
      · obtain ⟨m, hm, h⟩ := except_bind_eq_ok.mp h
        obtain rfl := Except.ok.inj h
        obtain rfl := Matcher.automaton.inj ((eq_of_automaton? hm).symm.trans hp)
        exact asksUnicodeWords_of_automaton? hm

/-- Whether the queries of a pattern are answered by scans of the bytes of a text, where it is
not too short to be searched. -/
structure IsScanned (p : Pattern) (a : Automaton Regex.ThreadState) (t : Text) : Prop where
  accepts : p.accepts t = (!p.isTooShort t.size && a.accepts t)
  endsText : t ≠ [] → p.endsText t = (!p.isTooShort t.size && a.endsText p.isTooShort t)
  firstFrom : ∀ start ≤ t.size, t ≠ [] → p.isTooShort (t.size - start) = false →
    p.firstFrom t start = a.firstFrom t start
  lastShortest : t ≠ [] → p.isTooShort t.size = false → p.lastShortest t = a.lastShortest t
  lastLongest : t ≠ [] → p.isTooShort t.size = false → p.lastLongest t = a.lastLongest t
  surroundingSize? : p.isTooShort t.size = false →
    p.surroundingSize? t = (a.widestSize? t).map (t.size - ·)

theorem isScanned (h : r.asksUnicodeWords = false)
    (hp : p.matcher = .automaton r) (t : Text) :
    p.IsScanned r.automaton t where
  accepts := by simp only [Pattern.accepts, hp, Regex.accepts_automaton h]
  endsText ht := by
    simp [Pattern.endsText, hp, ht, Regex.endsText_automaton h]
  firstFrom start hle ht hshort := by
    simp [Pattern.firstFrom, hp, ht, hshort, Nat.not_lt.mpr hle, Regex.firstFrom_automaton h]
  lastShortest ht hshort := by
    simp [Pattern.lastShortest, hp, ht, hshort, Regex.lastShortest_automaton h]
  lastLongest ht hshort := by
    simp [Pattern.lastLongest, hp, ht, hshort, Regex.lastLongest_automaton h]
  surroundingSize? hshort := by
    simp [Pattern.surroundingSize?, hp, hshort, Regex.widestSize?_automaton h]

/-- A scan from a boundary comes upon boundaries. -/
theorem slices_of_mem_visited {r : Regex} (h : r.asksUnicodeWords = false)
    {start stop limit : Nat} (hstart : t.IsBoundary start) (hle : start ≤ limit)
    (hstop : stop ∈ r.automaton.visited t start limit) : t.Slices start stop := by
  obtain ⟨b, hb, rfl⟩ := hstart
  rw [(Regex.reports_automaton h t).visited_eq hb hle] at hstop
  exact ((Regex.matches_iff hb).mpr (List.mem_of_mem_filter hstop)).slices

/-- Every offset that is reported slices the text, and every number of bytes that is reported
is left of the text behind a boundary, or around a slice. Nothing is searched from behind the
end of the text. So no query takes more from a size than there is. What is run as an automaton
is answered by scans that go byte by byte: from a boundary, they come upon the ends of the run
along the characters, and so upon boundaries only. -/
theorem offsets_slice_text (p : Pattern) (t : Text) :
    (∀ offset start stop, p.firstFrom t offset = .range start stop →
      offset ≤ start ∧ t.Slices start stop) ∧
    (∀ offset, t.size < offset → p.firstFrom t offset = .notFound) ∧
    (∀ start stop, p.lastShortest t = .range start stop ∨
      p.lastLongest t = .range start stop →
      t.Slices start stop) ∧
    (∀ n, p.sizeBeforeLast? t = some n ∨ p.sizeBeforeLastShortest? t = some n →
      t.IsBoundary n) ∧
    (∀ n, p.sizeAfterLast? t = some n ∨ p.sizeAfterLastShortest? t = some n →
      ∃ stop, t.IsBoundary stop ∧ stop + n = t.size) ∧
    (∀ n, p.surroundingSize? t = some n →
      ∃ start stop, t.Slices start stop ∧ n + (stop - start) = t.size) ∧
    (∀ w, p.matcher = .word w → t.includes w = true → w.size ≤ t.size) ∧
    (∀ r, p.matcher = .automaton r → ∀ o ∈ r.occurrences t,
      t.Slices o.start o.shortestStop ∧ t.Slices o.start o.longestStop) ∧
    ∀ r, p.IsCompiled → p.matcher = .automaton r → p.IsScanned r.automaton t ∧
      (∀ b ∈ t.boundaries, ∀ limit, b.offset ≤ limit →
        r.automaton.visited t b.offset limit = (r.ends b).filter (· ≤ limit)) ∧
      ∀ start limit, t.IsBoundary start → start ≤ limit →
        ∀ stop ∈ r.automaton.visited t start limit, t.Slices start stop := by
  refine ⟨?_, ?_, ?_, fun n => isBoundary_sizeBefore, fun n => isBoundary_sizeAfter,
    ?_, ?_, ?_, ?_⟩
  · intro offset start stop h
    obtain ⟨hle, hfinds⟩ := finds_firstFrom h
    exact ⟨hle, hfinds.slices⟩
  · intro offset h
    simp [firstFrom, h]
  · rintro start stop (h | h)
    · exact (finds_lastShortest h).slices
    · exact (finds_lastLongest h).slices
  · intro n h
    by_cases hp : p.isEverything = true
    · have hmatcher : p.matcher = .everything := by simpa [isEverything] using hp
      obtain rfl : 0 = n := by simpa [surroundingSize?, hmatcher] using h
      exact ⟨0, t.size, Text.slices_whole t, by omega⟩
    · obtain ⟨start, stop, hfinds, hsize⟩ := finds_surroundingSize? (by simpa using hp) h
      exact ⟨start, stop, hfinds.slices, hsize⟩
  · intro w _ hincludes
    obtain ⟨start, hword⟩ := Text.includes_iff_slice?.mp hincludes
    have hle := (Text.slices_iff.mpr ⟨w, hword⟩).stop_le
    omega
  · intro r hr o ho
    obtain ⟨hshortest, hlongest⟩ := finds_of_mem_occurrences hr ho
    exact ⟨hshortest.slices, hlongest.slices⟩
  · intro r hp hr
    have hasks := hp.asksUnicodeWords hr
    refine ⟨isScanned hasks hr t, ?_, ?_⟩
    · intro b hb limit hle
      exact (Regex.reports_automaton hasks t).visited_eq hb hle
    · intro start limit hstart hle stop hstop
      exact slices_of_mem_visited hasks hstart hle hstop

set_option maxRecDepth 10000 in
theorem visited_run : (Wildcard.expression true [.char 'a', .anyRun]).automaton.visited
    ['a', 'ö'] 0 3 = [1, 3] := by
  cbv

/-- In a text with a character of two bytes, the second place of a word is found behind the
first one. Its ends are boundaries, though there are offsets between them that are none. A
scan for a run behind a character sees no end inside the character of two bytes. -/
theorem offsets_slice_text_umlaut :
    (∃ p, compile {} ['ö'] = .ok p ∧
      p.firstFrom "aöbö".toList 3 = .range 4 6 ∧ Text.Slices "aöbö".toList 4 6) ∧
    ∃ p r, compile {} "a*".toList = .ok p ∧ p.matcher = .automaton r ∧
      r.automaton.visited ['a', 'ö'] 0 3 = [1, 3] ∧ Text.Slices ['a', 'ö'] 0 3 := by
  constructor
  · have hcompile : compile {} ['ö'] = .ok ⟨['ö'], .word ['ö']⟩ := rfl
    have hfirst :
        (Pattern.mk ['ö'] (.word ['ö'])).firstFrom "aöbö".toList 3 = .range 4 6 := by decide
    exact ⟨_, hcompile, hfirst, ((offsets_slice_text _ _).1 3 4 6 hfirst).2⟩
  · obtain ⟨-, -, -, -, -, -, -, -, hscans⟩ := offsets_slice_text
      ⟨"a*".toList, .automaton (Wildcard.expression true [.char 'a', .anyRun])⟩ ['a', 'ö']
    obtain ⟨-, -, hslices⟩ := hscans _ (.ofSpec compile_run) rfl
    have hstop : 3 ∈ (Wildcard.expression true [.char 'a', .anyRun]).automaton.visited
        ['a', 'ö'] 0 3 := by
      rw [visited_run]
      decide
    exact ⟨_, _, compile_run, rfl, visited_run,
      hslices 0 3 (Text.isBoundary_zero _) (by decide) 3 hstop⟩

end Pattern
end ControlSearch
