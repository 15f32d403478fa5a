import ControlSearch.Proofs.Pattern.Segments
import ControlSearch.Proofs.Text.Blank

/-!
# Quoted segments

A segment is quoted by a backslash in front of each of its backslashes and separators.
Whatever list of segments is quoted and joined, the locator has these segments again, and the
blanks around a separator belong to none of them.
-/
namespace ControlSearch

namespace Locator

variable {s t : Text} {c : Char} {segments : List Text}

/-! ## Reading one character -/

theorem segmentsOf_separator (rest : Text) :
    segmentsOf ('>' :: rest) = [] :: segmentsOf rest := by
  simp [segmentsOf]

theorem segmentsOf_escaped (h : c = '>' ∨ c = '\\') (rest : Text) :
    segmentsOf ('\\' :: c :: rest) = prepend c (segmentsOf rest) := by
  simp [segmentsOf, h]

theorem segmentsOf_cons (hback : c ≠ '\\') (hsep : c ≠ '>') (rest : Text) :
    segmentsOf (c :: rest) = prepend c (segmentsOf rest) := by
  rw [segmentsOf]
  · rw [if_neg hsep]
  · intro h
    exact absurd h hback
  · intro d rest' h
    exact absurd h hback

/-- Characters in front of the first segment are its first characters. -/
theorem foldr_prepend (s t : Text) (rest : List Text) :
    s.foldr prepend (t :: rest) = (s ++ t) :: rest := by
  induction s with
  | nil => rfl
  | cons c s ih => rw [List.foldr_cons, ih, prepend, List.cons_append]

/-! ## Reading a quoted segment -/

/-- A character as it is written in a segment. -/
def quoteChar (c : Char) : Text := if c = '>' ∨ c = '\\' then ['\\', c] else [c]

/-- A segment as it is written in a locator. -/
def quote (segment : Text) : Text := segment.flatMap quoteChar

theorem segmentsOf_quote_append (s t : Text) :
    segmentsOf (quote s ++ t) = s.foldr prepend (segmentsOf t) := by
  induction s with
  | nil => rfl
  | cons c s ih =>
      rw [quote, List.flatMap_cons, ← quote, List.append_assoc, List.foldr_cons,
        ← ih, quoteChar]
      split
      · rename_i hc
        exact segmentsOf_escaped hc _
      · rename_i hc
        obtain ⟨hsep, hback⟩ := not_or.mp hc
        exact segmentsOf_cons hback hsep _

theorem segmentsOf_quote (s : Text) : segmentsOf (quote s) = [s] := by
  have hread := segmentsOf_quote_append s []
  rwa [List.append_nil, segmentsOf, foldr_prepend, List.append_nil] at hread

/-- A separator behind a quoted segment ends it. -/
theorem segmentsOf_quote_separator (s t : Text) :
    segmentsOf (quote s ++ '>' :: t) = s :: segmentsOf t := by
  rw [segmentsOf_quote_append, segmentsOf_separator, foldr_prepend, List.append_nil]

/-! ## Reading a list of segments -/

theorem segmentsOf_join (hne : segments ≠ []) :
    segmentsOf (Text.join ['>'] (segments.map quote)) = segments := by
  induction segments with
  | nil => exact absurd rfl hne
  | cons s rest ih =>
      cases rest with
      | nil => rw [List.map_singleton, Text.join_singleton, segmentsOf_quote]
      | cons next rest =>
          have hrest := ih (List.cons_ne_nil next rest)
          rw [List.map_cons, List.map_cons, Text.join_cons_cons, List.singleton_append,
            segmentsOf_quote_separator, ← List.map_cons, hrest]

/-- The one list of segments that is written as the empty text is not read back. -/
theorem split_join (hne : segments ≠ []) (hempty : segments ≠ [[]]) :
    split (Text.join ['>'] (segments.map quote)) = segments := by
  have hread := segmentsOf_join hne
  have hraw : Text.join ['>'] (segments.map quote) ≠ [] := by
    intro hnil
    rw [hnil, segmentsOf] at hread
    exact hempty hread.symm
  rw [split, if_neg (by simpa using hraw), hread]

theorem quote_append (s t : Text) : quote (s ++ t) = quote s ++ quote t := List.flatMap_append

/-- Blanks are written as they are. -/
theorem quote_eq_self (h : ∀ c ∈ s, Text.isBlank c = true) : quote s = s := by
  have hchar : ∀ c ∈ s, quoteChar c = [c] := by
    intro c hc
    refine if_neg ?_
    rintro (rfl | rfl)
    · exact absurd (h _ hc) (by decide)
    · exact absurd (h _ hc) (by decide)
  rw [quote, List.flatMap_congr hchar]
  exact List.flatMap_singleton' s

/-- Blanks around a segment are tidied away. -/
theorem tidy_cons {a : Text} (hs : s ≠ []) (ha : a.trim = s) (rest : List Text) :
    tidy (a :: rest) = s :: tidy rest := by
  rw [tidy, List.map_cons, ha, List.filter_cons_of_pos (by simpa using hs), ← tidy]

/-- There is nothing to tidy in segments with text and without blanks at their ends. -/
theorem tidy_eq_self (h : ∀ s ∈ segments, s ≠ [] ∧ s.trim = s) :
    tidy segments = segments := by
  induction segments with
  | nil => rfl
  | cons s rest ih =>
      obtain ⟨⟨hs, htrim⟩, hrest⟩ := List.forall_mem_cons.mp h
      rw [tidy_cons hs htrim, ih hrest]

theorem tidy_split (raw : Text) : tidy (split raw) = tidy (segmentsOf raw) := by
  cases raw <;> rfl

/-- The blanks on both sides of a separator belong to neither segment. The induction passes
the blank behind a separator on to the rest, as what stands in front of it. -/
theorem tidy_segmentsOf_join {front : Text} (hfront : ∀ c ∈ front, Text.isBlank c = true)
    (hne : segments ≠ []) (h : ∀ s ∈ segments, s ≠ [] ∧ s.trim = s) :
    tidy (segmentsOf (front ++ Text.join [' ', '>', ' '] (segments.map quote))) =
      segments := by
  induction segments generalizing front with
  | nil => exact absurd rfl hne
  | cons s rest ih =>
      obtain ⟨⟨hs, htrim⟩, hrest⟩ := List.forall_mem_cons.mp h
      have hblank : ∀ c ∈ [' '], Text.isBlank c = true := List.forall_mem_singleton.mpr rfl
      cases rest with
      | nil =>
          have hread : segmentsOf (front ++ quote s) = [front ++ s] := by
            rw [← quote_eq_self hfront, ← quote_append, segmentsOf_quote,
              quote_eq_self hfront]
          have hmargin : Text.trim (front ++ s) = s := by
            have hcut := Text.trim_append (t := s) hfront (List.forall_mem_nil _)
            rwa [List.append_nil, htrim] at hcut
          rw [List.map_singleton, Text.join_singleton, hread, tidy_cons hs hmargin]
          rfl
      | cons next rest =>
          have hmargin : Text.trim (front ++ (s ++ [' '])) = s := by
            rw [Text.trim_append hfront hblank, htrim]
          have hwritten (t : Text) : front ++ (quote s ++ ([' ', '>', ' '] ++ t)) =
              quote (front ++ (s ++ [' '])) ++ '>' :: ([' '] ++ t) := by
            rw [quote_append, quote_append, quote_eq_self hfront, quote_eq_self hblank]
            simp
          rw [List.map_cons, List.map_cons, Text.join_cons_cons, hwritten,
            segmentsOf_quote_separator, tidy_cons hs hmargin, ← List.map_cons,
            ih hblank (List.cons_ne_nil next rest) hrest]

/-! ## Locators -/

/-- A locator has the segments that are left when the given ones are tidied. -/
theorem segments_eq_tidy {settings : PatternSettings} {raw : List Text} {l : Locator}
    (h : ofSegmentsWith (Pattern.compile settings) raw = .ok l) : l.segments = tidy raw := by
  rcases ofSegmentsWith_cases h with ⟨hnil, rfl⟩ | ⟨last, q, -, -, rfl⟩
  · exact hnil.symm
  · rfl

/-- Quoted segments with blanks around their separators make the locator of the segments. -/
theorem ofText_join (h : ∀ s ∈ segments, s ≠ [] ∧ s.trim = s) :
    ofText (Text.join " > ".toList (segments.map quote)) = ofSegments segments := by
  have htidy :
      tidy (split (Text.join " > ".toList (segments.map quote))) = tidy segments := by
    rw [tidy_eq_self h]
    by_cases hne : segments = []
    · subst hne
      rfl
    · rw [tidy_split]
      exact tidy_segmentsOf_join (List.forall_mem_nil _) hne h
  rw [ofText, ofSegments, ofSegments, ofSegmentsWith, ofSegmentsWith, htidy]

/-- Every list of segments can be written as a locator. Quoted and joined by separators, it is
read back as it is, but for the list of one empty text, which is written as no segment at all.
With blanks around the separators as well, it makes the locator of the segments, if these have
text and no blanks at their ends: the last one describes the control, and the ones in front of
it are the path. -/
theorem segments_read_back (segments : List Text) :
    (segments ≠ [] → segments ≠ [[]] →
      split (Text.join ['>'] (segments.map quote)) = segments) ∧
    ((∀ s ∈ segments, s ≠ [] ∧ s.trim = s) →
      ofText (Text.join " > ".toList (segments.map quote)) = ofSegments segments ∧
      ∀ l, ofText (Text.join " > ".toList (segments.map quote)) = .ok l →
        l.segments = segments ∧ l.last? = segments.getLast? ∧
        l.path = segments.dropLast) := by
  refine ⟨split_join, fun h => ⟨ofText_join h, fun l hl => ?_⟩⟩
  rw [ofText_join h] at hl
  have hsegments : l.segments = segments := (segments_eq_tidy hl).trans (tidy_eq_self h)
  rw [Locator.last?, Locator.path, hsegments]
  exact ⟨rfl, rfl, rfl⟩

/-- A segment that holds a separator and ends in a backslash, and one with a backslash and a
blank. -/
theorem segments_read_back_escaped :
    split "a\\>\\\\>\\\\ b".toList = [['a', '>', '\\'], ['\\', ' ', 'b']] ∧
    ∃ l, ofText "a\\>\\\\ > \\\\ b".toList = .ok l ∧
      l.segments = [['a', '>', '\\'], ['\\', ' ', 'b']] ∧
      l.last? = some ['\\', ' ', 'b'] ∧ l.path = [['a', '>', '\\']] := by
  obtain ⟨hsplit, hlocator⟩ := segments_read_back [['a', '>', '\\'], ['\\', ' ', 'b']]
  obtain ⟨hread, hall⟩ := hlocator (by decide)
  have hmade : ∃ l, ofSegments [['a', '>', '\\'], ['\\', ' ', 'b']] = .ok l := ⟨_, rfl⟩
  obtain ⟨l, hl⟩ := hmade
  exact ⟨hsplit (by decide) (by decide), l, hread.trans hl, hall l (hread.trans hl)⟩

end Locator
end ControlSearch
