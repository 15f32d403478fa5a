import ControlSearch.Proofs.Pattern.FirstOccurrence

/-!
# Offsets that slice a text

What a query reports are boundaries of the text, inside the text and in order, whatever
expression an automaton runs. So a text that is sliced there is never cut inside a character,
and no count of bytes is the difference of a smaller and a larger number.
-/
namespace ControlSearch

namespace Text

variable {t w : Text} {n start stop : Nat}

/-- An offset between two characters of a text, or at either end of it. -/
def IsBoundary (t : Text) (n : Nat) : Prop := ∃ b ∈ t.boundaries, b.offset = n

theorem isBoundary_iff : t.IsBoundary n ↔ ∃ u v, t = u ++ v ∧ u.size = n := by
  simp only [IsBoundary, mem_boundaries_iff]
  constructor
  · rintro ⟨b, ⟨u, ht, hsize, -⟩, rfl⟩
    exact ⟨u, b.rest, ht, hsize.symm⟩
  · rintro ⟨u, v, ht, rfl⟩
    exact ⟨⟨u.size, u.getLast?, v⟩, ⟨u, ht, rfl, rfl⟩, rfl⟩

theorem isBoundary_zero (t : Text) : t.IsBoundary 0 := isBoundary_iff.mpr ⟨[], t, by simp⟩

theorem isBoundary_size (t : Text) : t.IsBoundary t.size :=
  isBoundary_iff.mpr ⟨t, [], by simp⟩

/-- Two offsets slice a text if they are boundaries of it in this order. -/
structure Slices (t : Text) (start stop : Nat) : Prop where
  le : start ≤ stop
  stop_le : stop ≤ t.size
  isBoundary_start : t.IsBoundary start
  isBoundary_stop : t.IsBoundary stop

theorem slices_iff : t.Slices start stop ↔ ∃ u, t.slice? start stop = some u := by
  simp only [slice?_eq_some_iff]
  constructor
  · intro h
    obtain ⟨v, x, ht, hv⟩ := isBoundary_iff.mp h.isBoundary_start
    obtain ⟨y, w, ht', hy⟩ := isBoundary_iff.mp h.isBoundary_stop
    have hle : v.size ≤ y.size := by have := h.le; omega
    obtain ⟨u, rfl, rfl⟩ := exists_append_of_size_le (ht.symm.trans ht') hle
    rw [size_append] at hy
    exact ⟨u, v, w, ht, hv, by omega⟩
  · rintro ⟨u, v, w, rfl, rfl, rfl⟩
    refine ⟨Nat.le_add_right _ _, ?_, isBoundary_iff.mpr ⟨v, u ++ w, rfl, rfl⟩, ?_⟩
    · simp only [size_append]
      omega
    · exact isBoundary_iff.mpr ⟨v ++ u, w, by simp, by simp⟩

theorem slices_whole (t : Text) : t.Slices 0 t.size :=
  ⟨Nat.zero_le _, Nat.le_refl _, isBoundary_zero t, isBoundary_size t⟩

/-! ## Where a word stands -/

theorem slice?_of_mem_boundaries {b : Boundary} (hb : b ∈ t.boundaries)
    (hword : w.isPrefixOf b.rest = true) :
    t.slice? b.offset (b.offset + w.size) = some w := by
  obtain ⟨v, rfl, hv, -⟩ := mem_boundaries_iff.mp hb
  obtain ⟨rest, hrest⟩ := List.isPrefixOf_iff_prefix.mp hword
  exact slice?_eq_some_iff.mpr ⟨v, rest, by rw [hrest], hv.symm, rfl⟩

theorem slice?_of_find? (h : t.find? w = some n) : t.slice? n (n + w.size) = some w := by
  obtain ⟨b, hb, rfl⟩ := Option.map_eq_some_iff.mp h
  have hword := List.find?_some hb
  exact slice?_of_mem_boundaries (List.mem_of_find?_eq_some hb) hword

theorem slice?_of_findLast? (h : t.findLast? w = some n) :
    t.slice? n (n + w.size) = some w := by
  obtain ⟨b, hb, rfl⟩ := Option.map_eq_some_iff.mp h
  have hword := List.find?_some hb
  exact slice?_of_mem_boundaries (List.mem_reverse.mp (List.mem_of_find?_eq_some hb)) hword

theorem includes_iff_slice? :
    t.includes w = true ↔ ∃ n, t.slice? n (n + w.size) = some w := by
  constructor
  · intro h
    obtain ⟨b, hb, hword⟩ := List.any_eq_true.mp h
    exact ⟨b.offset, slice?_of_mem_boundaries hb hword⟩
  · rintro ⟨n, h⟩
    obtain ⟨v, rest, ht, -, -⟩ := slice?_eq_some_iff.mp h
    refine List.any_eq_true.mpr ⟨⟨v.size, v.getLast?, w ++ rest⟩, ?_, ?_⟩
    · exact mem_boundaries_iff.mpr ⟨v, ht, rfl, rfl⟩
    · exact List.isPrefixOf_iff_prefix.mpr (List.prefix_append w rest)

end Text

namespace Span

variable {place : Option Nat} {size start stop : Nat}

theorem ofPlace_eq_range_iff :
    ofPlace size place = .range start stop ↔ place = some start ∧ start + size = stop := by
  cases place with
  | none => simp [ofPlace]
  | some n =>
      simp only [ofPlace, range.injEq, Option.some.injEq]
      constructor
      · rintro ⟨rfl, rfl⟩
        exact ⟨rfl, rfl⟩
      · rintro ⟨rfl, rfl⟩
        exact ⟨rfl, rfl⟩

theorem getD_map_eq_range_iff {α : Type} {found : Option α} {f : α → Span} :
    (found.map f).getD .notFound = .range start stop ↔
      ∃ a, found = some a ∧ f a = .range start stop := by
  cases found <;> simp

theorem start?_eq_some_iff {s : Span} :
    s.start? = some start ↔ ∃ stop, s = .range start stop := by
  cases s <;> simp [start?]

theorem stop?_eq_some_iff {s : Span} :
    s.stop? = some stop ↔ ∃ start, s = .range start stop := by
  cases s <;> simp [stop?]

end Span

/-- The runs of an expression move by whole characters. -/
theorem Regex.Matches.slices {r : Regex} {t : Text} {start stop : Nat}
    (h : r.Matches t start stop) :
    t.Slices start stop := by
  obtain ⟨b, hb, rfl, hstop⟩ := h
  obtain ⟨v, ht, hv, -⟩ := Text.mem_boundaries_iff.mp hb
  obtain ⟨-, -, u, w, hrest, rfl, -⟩ := Regex.language_of_mem_endsFrom hstop
  exact Text.slices_iff.mpr ⟨u, Text.slice?_eq_some_iff.mpr ⟨v, w, hrest ▸ ht, hv.symm, rfl⟩⟩

namespace Pattern

variable {p : Pattern} {t w : Text} {r : Regex} {n offset start stop : Nat}

/-- What a search for a pattern can come across: a word where it stands, or the matches of an
automaton. A pattern that accepts everything is not searched. -/
def Finds (p : Pattern) (t : Text) (start stop : Nat) : Prop :=
  match p.matcher with
  | .everything => False
  | .word w => t.slice? start stop = some w
  | .automaton r => r.Matches t start stop

theorem not_finds_everything (hp : p.matcher = .everything) : ¬p.Finds t start stop := by
  simp [Finds, hp]

theorem finds_word_iff (hp : p.matcher = .word w) :
    p.Finds t start stop ↔ t.slice? start stop = some w := by
  simp [Finds, hp]

theorem finds_automaton_iff (hp : p.matcher = .automaton r) :
    p.Finds t start stop ↔ r.Matches t start stop := by
  simp [Finds, hp]

theorem Finds.slices (h : p.Finds t start stop) : t.Slices start stop := by
  cases hp : p.matcher with
  | everything => exact absurd h (not_finds_everything hp)
  | word w => exact Text.slices_iff.mpr ⟨w, (finds_word_iff hp).mp h⟩
  | automaton r => exact ((finds_automaton_iff hp).mp h).slices

/-! ## What each query reports -/

theorem finds_of_mem_occurrences (hp : p.matcher = .automaton r) {o : Regex.Occurrence}
    (ho : o ∈ r.occurrences t) :
    p.Finds t o.start o.shortestStop ∧ p.Finds t o.start o.longestStop := by
  obtain ⟨hleast, hgreatest⟩ := Regex.mem_occurrences_iff.mp ho
  exact ⟨(finds_automaton_iff hp).mpr hleast.1, (finds_automaton_iff hp).mpr hgreatest.1⟩

/-- A word stands in what is left of a text where it stands in the text. -/
theorem finds_of_find?_drop? (hp : p.matcher = .word w)
    (h : ((t.drop? offset).bind (·.find? w)).map (offset + ·) = some start) :
    offset ≤ start ∧ p.Finds t start (start + w.size) := by
  obtain ⟨n, hn, rfl⟩ := Option.map_eq_some_iff.mp h
  obtain ⟨rest, hrest, hfind⟩ := Option.bind_eq_some_iff.mp hn
  obtain ⟨u, rfl, rfl⟩ := Text.drop?_eq_some_iff.mp hrest
  obtain ⟨v, x, rfl, rfl, -⟩ := Text.slice?_eq_some_iff.mp (Text.slice?_of_find? hfind)
  refine ⟨Nat.le_add_right _ _, (finds_word_iff hp).mpr ?_⟩
  exact Text.slice?_eq_some_iff.mpr ⟨u ++ v, x, by simp, by simp, rfl⟩

theorem finds_firstFrom (h : p.firstFrom t offset = .range start stop) :
    offset ≤ start ∧ p.Finds t start stop := by
  unfold firstFrom at h
  split at h
  · cases h
  · split at h
    · cases h
    · rename_i w hp
      obtain ⟨hplace, rfl⟩ := Span.ofPlace_eq_range_iff.mp h
      exact finds_of_find?_drop? hp hplace
    · rename_i r hp
      split at h
      · cases h
      · obtain ⟨o, ho, hspan⟩ := Span.getD_map_eq_range_iff.mp h
        obtain ⟨rfl, rfl⟩ := Span.range.inj hspan
        have hstart := List.find?_some ho
        exact ⟨of_decide_eq_true hstart,
          (finds_of_mem_occurrences hp (List.mem_of_find?_eq_some ho)).1⟩

theorem finds_of_findLast? (hp : p.matcher = .word w)
    (h : Span.ofPlace w.size (t.findLast? w) = .range start stop) : p.Finds t start stop := by
  obtain ⟨hplace, rfl⟩ := Span.ofPlace_eq_range_iff.mp h
  exact (finds_word_iff hp).mpr (Text.slice?_of_findLast? hplace)

theorem finds_lastShortest (h : p.lastShortest t = .range start stop) :
    p.Finds t start stop := by
  unfold lastShortest at h
  split at h
  · cases h
  · split at h
    · cases h
    · rename_i w hp
      exact finds_of_findLast? hp h
    · rename_i r hp
      obtain ⟨o, ho, hspan⟩ := Span.getD_map_eq_range_iff.mp h
      obtain ⟨rfl, rfl⟩ := Span.range.inj hspan
      exact (finds_of_mem_occurrences hp (List.mem_of_getLast? ho)).1

theorem finds_lastLongest (h : p.lastLongest t = .range start stop) :
    p.Finds t start stop := by
  unfold lastLongest at h
  split at h
  · cases h
  · split at h
    · cases h
    · rename_i w hp
      exact finds_of_findLast? hp h
    · rename_i r hp
      obtain ⟨o, ho, hspan⟩ := Span.getD_map_eq_range_iff.mp h
      obtain ⟨rfl, rfl⟩ := Span.range.inj hspan
      exact (finds_of_mem_occurrences hp (List.mem_of_mem_filter (List.mem_of_getLast? ho))).2

/-- The bytes around the widest thing that is found are what is left of the text. -/
theorem finds_surroundingSize? (hp : p.isEverything = false)
    (h : p.surroundingSize? t = some n) :
    ∃ start stop, p.Finds t start stop ∧ n + (stop - start) = t.size := by
  unfold surroundingSize? at h
  split at h
  · rename_i hm
    simp [isEverything, hm] at hp
  · rename_i w hm
    split at h
    · cases h
    · rename_i hguard
      have hincludes : t.includes w = true := by
        simp only [Bool.or_eq_true, Bool.not_eq_true', not_or, Bool.not_eq_false] at hguard
        exact hguard.2
      obtain ⟨start, hword⟩ := Text.includes_iff_slice?.mp hincludes
      have hfinds : p.Finds t start (start + w.size) := (finds_word_iff hm).mpr hword
      have hle := hfinds.slices.stop_le
      obtain rfl := Option.some.inj h
      exact ⟨start, _, hfinds, by omega⟩
  · rename_i r hm
    split at h
    · cases h
    · obtain ⟨width, hmax, rfl⟩ := Option.map_eq_some_iff.mp h
      obtain ⟨start, stop, hmatch, rfl⟩ := (Regex.isGreatest_of_max?_occurrences hmax).1
      have hle := hmatch.slices.stop_le
      exact ⟨start, stop, (finds_automaton_iff hm).mpr hmatch, by omega⟩

theorem isBoundary_sizeBefore (h : p.sizeBeforeLast? t = some n ∨
      p.sizeBeforeLastShortest? t = some n) :
    t.IsBoundary n := by
  unfold sizeBeforeLast? sizeBeforeLastShortest? at h
  split at h
  · simp at h
  · split at h
    · obtain rfl : 0 = n := by simpa using h
      exact Text.isBoundary_zero t
    · rcases h with h | h
      · obtain ⟨stop, hspan⟩ := Span.start?_eq_some_iff.mp h
        exact (finds_lastLongest hspan).slices.isBoundary_start
      · obtain ⟨stop, hspan⟩ := Span.start?_eq_some_iff.mp h
        exact (finds_lastShortest hspan).slices.isBoundary_start

theorem isBoundary_sizeAfter (h : p.sizeAfterLast? t = some n ∨
      p.sizeAfterLastShortest? t = some n) :
    ∃ stop, t.IsBoundary stop ∧ stop + n = t.size := by
  unfold sizeAfterLast? sizeAfterLastShortest? at h
  split at h
  · obtain rfl : t.size = n := by simpa using h
    exact ⟨0, Text.isBoundary_zero t, Nat.zero_add _⟩
  · have hslices : ∃ start stop, t.Slices start stop ∧ t.size - stop = n := by
      rcases h with h | h
      · obtain ⟨stop, hstop, rfl⟩ := Option.map_eq_some_iff.mp h
        obtain ⟨start, hspan⟩ := Span.stop?_eq_some_iff.mp hstop
        exact ⟨start, stop, (finds_lastLongest hspan).slices, rfl⟩
      · obtain ⟨stop, hstop, rfl⟩ := Option.map_eq_some_iff.mp h
        obtain ⟨start, hspan⟩ := Span.stop?_eq_some_iff.mp hstop
        exact ⟨start, stop, (finds_lastShortest hspan).slices, rfl⟩
    obtain ⟨start, stop, hslices, rfl⟩ := hslices
    exact ⟨stop, hslices.isBoundary_stop, Nat.add_sub_cancel' hslices.stop_le⟩

end Pattern
end ControlSearch
