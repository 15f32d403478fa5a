import ControlSearch.Proofs.Pattern.Offsets

/-!
# Texts that are accepted as a whole

Nothing is left around the widest occurrence of a pattern if and only if the pattern accepts
the text as a whole. For an automaton both are told by the ends of the run from the start of
the text, so this is true of every expression, whatever its runs prefer. A text without
escapes is accepted by the spec that reads as the text itself.
-/
namespace ControlSearch

namespace Text

variable {t w : Text}

/-- A slice of the whole text is the text. -/
theorem slice?_zero_size : t.slice? 0 t.size = some w ↔ t = w := by
  rw [slice?_size, drop?_eq_some_iff]
  constructor
  · rintro ⟨u, rfl, hu⟩
    rw [size_eq_zero_iff.mp hu, List.nil_append]
  · rintro rfl
    exact ⟨[], rfl, rfl⟩

end Text

namespace Regex

variable {r : Regex} {t : Text}

theorem matches_whole_iff : r.Matches t 0 t.size ↔ t.size ∈ r.ends ⟨0, none, t⟩ :=
  matches_iff (b := ⟨0, none, t⟩) (Text.mem_boundaries_iff.mpr ⟨[], rfl, rfl, rfl⟩)

/-- If the whole text matches, no match is wider. -/
theorem max?_eq_size_of_matches (h : r.Matches t 0 t.size) :
    ((r.occurrences t).map fun o => o.longestStop - o.start).max? = some t.size := by
  obtain ⟨o, ho, hstart⟩ := exists_occurrence h
  cases hmax : ((r.occurrences t).map fun o => o.longestStop - o.start).max? with
  | none =>
      have hnil := List.map_eq_nil_iff.mp (List.max?_eq_none_iff.mp hmax)
      rw [hnil] at ho
      exact absurd ho List.not_mem_nil
  | some width =>
      obtain ⟨⟨start, stop, hmatch, rfl⟩, hwidest⟩ := isGreatest_of_max?_occurrences hmax
      have hle := hmatch.slices.stop_le
      have hwhole : t.size - 0 ≤ stop - start := hwidest ⟨0, t.size, h, rfl⟩
      congr 1
      omega

end Regex

namespace Pattern
open Wildcard

variable {settings : PatternSettings} {dotNewLine : Bool} {spec t w : Text}
  {p : Pattern} {r : Regex}

/-! ## Compiled patterns -/

/-- A pattern that was compiled from a spec or from an expression, under whatever settings and
whatever is known of the properties of characters. -/
inductive IsCompiled (p : Pattern) : Prop
  | ofSpec {settings : PatternSettings} {spec : Text} :
        compile settings spec = .ok p → IsCompiled p
  | ofExpression {settings : PatternSettings} {expression : Text}
        {properties : Regex.Properties} :
      ofRegex settings expression properties = .ok p → IsCompiled p

/-- No word that is searched for is empty. -/
theorem IsCompiled.ne_nil (h : p.IsCompiled) (hp : p.matcher = .word w) : w ≠ [] := by
  cases h with
  | ofSpec h =>
      rcases compile_cases h with ⟨-, rfl⟩ | ⟨hopen, v, hv, rfl⟩ | ⟨-, rfl⟩
      · cases hp
      · obtain rfl : v = w := by injection hp
        exact ne_nil_of_literal? hopen hv
      · cases hp
  | ofExpression h =>
      obtain ⟨e, r, -, rfl, -⟩ := ofRegex_cases h
      cases hp

/-! ## Nothing around a text -/

theorem accepts_word_iff (hp : p.matcher = .word w) : p.accepts t = true ↔ t = w := by
  simp [accepts, hp]

theorem accepts_automaton_iff_matches (hp : p.matcher = .automaton r) :
    p.accepts t = true ↔ p.isTooShort t.size = false ∧ r.Matches t 0 t.size := by
  simp [accepts, hp, Regex.matches_whole_iff]

/-- If nothing is left of a text, the text is found as a whole. -/
theorem finds_whole (hp : p.isEverything = false) (h : p.surroundingSize? t = some 0) :
    p.Finds t 0 t.size := by
  obtain ⟨start, stop, hfinds, hsize⟩ := finds_surroundingSize? hp h
  have hle := hfinds.slices.le
  have hstop := hfinds.slices.stop_le
  obtain rfl : start = 0 := by omega
  obtain rfl : stop = t.size := by omega
  exact hfinds

theorem surroundingSize?_word_iff (hp : p.matcher = .word w) (hw : w ≠ []) :
    p.surroundingSize? t = some 0 ↔ t = w := by
  constructor
  · intro h
    have hwhole := finds_whole (by simp [isEverything, hp]) h
    exact Text.slice?_zero_size.mp ((finds_word_iff hp).mp hwhole)
  · rintro rfl
    have hincludes : t.includes t = true :=
      Text.includes_iff_slice?.mpr ⟨0, by simp [Text.slice?_zero_size]⟩
    simp [surroundingSize?, hp, hw, hincludes]

theorem surroundingSize?_automaton_iff (hp : p.matcher = .automaton r) :
    p.surroundingSize? t = some 0 ↔ p.isTooShort t.size = false ∧ r.Matches t 0 t.size := by
  constructor
  · intro h
    have hwhole := finds_whole (by simp [isEverything, hp]) h
    refine ⟨?_, (finds_automaton_iff hp).mp hwhole⟩
    by_contra hshort
    simp [surroundingSize?, hp, hshort] at h
  · rintro ⟨hshort, hmatch⟩
    simp [surroundingSize?, hp, hshort, Regex.max?_eq_size_of_matches hmatch]

/-- Nothing surrounds what is found if and only if the text is accepted as a whole. -/
theorem surroundingSize?_eq_zero_iff (h : p.IsCompiled) (t : Text) :
    p.surroundingSize? t = some 0 ↔ p.accepts t = true := by
  cases hp : p.matcher with
  | everything => simp [surroundingSize?, accepts, hp]
  | word w => rw [surroundingSize?_word_iff hp (h.ne_nil hp), accepts_word_iff hp]
  | automaton r => rw [surroundingSize?_automaton_iff hp, accepts_automaton_iff_matches hp]

/-! ## Texts as their own specs -/

/-- Each wildcard of a text stands for itself, too, and no backslash takes a character
away. -/
theorem describes_self (h : t.IsChain fun c d => c = '\\' → isSpecial d = false) :
    Describes dotNewLine t t := by
  induction t with
  | nil => exact .nil
  | cons c t ih =>
      have hrest := ih h.tail
      by_cases hstar : c = '*'
      · subst hstar
        exact .anyRun (u := ['*']) (by simp [Covers]) hrest
      · by_cases hmark : c = '?'
        · subst hmark
          exact .anyChar (.inr (by decide)) hrest
        · by_cases hback : c = '\\'
          · subst hback
            refine .backslash (fun d hd => ?_) hrest
            cases t with
            | nil => cases hd
            | cons d' t =>
                obtain rfl := Option.some.inj hd
                exact (List.isChain_cons_cons.mp h).1 rfl
          · exact .char (isSpecial_eq_false_iff.mpr ⟨hstar, hmark, hback⟩) hrest

/-- A text in which no backslash escapes anything is its own spec: the spec accepts it, and
nothing is left around it. -/
theorem own_spec_is_exact (hplain : t.IsChain fun c d => c = '\\' → isSpecial d = false)
    (h : compile settings t = .ok p) : p.accepts t = true ∧
    p.surroundingSize? t = some 0 := by
  have hparts : Accepts settings.dotMatchesNewLine (ofSpec t) t :=
    describes_iff.mp (describes_self hplain)
  have haccepts : p.accepts t = true := (accepts_compile_parts h t).mpr (.inr hparts)
  exact ⟨haccepts, (surroundingSize?_eq_zero_iff (.ofSpec h) t).mpr haccepts⟩

set_option maxRecDepth 10000 in
/-- Wildcards of both kinds, a parenthesis, and a backslash in front of a character of two
bytes. -/
theorem own_spec_is_exact_mixed : ∃ p, compile {} "?(\\ö*".toList = .ok p ∧
    p.accepts "?(\\ö*".toList = true ∧ p.surroundingSize? "?(\\ö*".toList = some 0 := by
  have hcompile : compile {} "?(\\ö*".toList = .ok ⟨"?(\\ö*".toList, .automaton
      (expression true [.anyChar, .char '(', .char '\\', .char 'ö', .anyRun])⟩ := by cbv
  exact ⟨_, hcompile, own_spec_is_exact (by decide) hcompile⟩

end Pattern
end ControlSearch
