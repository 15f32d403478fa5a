import ControlSearch.Proofs.Pattern.Occurrence

/-!
# First occurrences

The shortest occurrences of a spec end in the order in which they start. So the first
occurrence, which has the least start, has the least end of all, and no shortest occurrence
ends behind the last one. For an expression in general neither is true.
-/
namespace ControlSearch

namespace Text

variable {t u v w : Text}

/-- Of two beginnings of one text, the smaller one is a beginning of the other. -/
theorem exists_append_of_size_le {u' v' : Text} (h : u ++ v = u' ++ v')
    (hs : u.size ≤ u'.size) :
    ∃ x, u' = u ++ x ∧ v = x ++ v' := by
  rcases List.append_eq_append_iff.mp h with hsplit | hsplit
  · exact hsplit
  · obtain ⟨x, rfl, rfl⟩ := hsplit
    have hx : x = [] := by
      rw [size_append] at hs
      exact size_eq_zero_iff.mp (by omega)
    subst hx
    exact ⟨[], by simp⟩

end Text

namespace Wildcard

variable {dotNewLine : Bool} {parts : List Wildcard} {u x y : Text}

/-- Parts that accept a text, and another text inside it, accept what there is up to the end
of the inner text: what they take too much of the outer text at its start, they can take in a
run. -/
theorem accepts_of_inside (h : Accepts dotNewLine parts (x ++ (u ++ y)))
    (hu : Accepts dotNewLine parts u) : Accepts dotNewLine parts (x ++ u) := by
  -- each part that both texts have taken lengthens what lies in front of the rest of the
  -- inner one
  induction parts generalizing x u with
  | nil =>
      have hnil : x ++ (u ++ y) = [] := h
      simp_all [Accepts]
  | cons p parts ih =>
      cases x with
      | nil => exact hu
      | cons d x =>
          cases p with
          | char c =>
              obtain ⟨v, hv, h⟩ := h
              obtain ⟨u, rfl, hu⟩ := hu
              simp only [List.cons_append, List.cons.injEq] at hv
              obtain ⟨rfl, rfl⟩ := hv
              have hrest := ih (x := x ++ [d]) (by simpa using h) hu
              exact ⟨x ++ d :: u, rfl, by simpa using hrest⟩
          | anyChar =>
              obtain ⟨c, v, hv, hc, h⟩ := h
              obtain ⟨e, u, rfl, -, hu⟩ := hu
              simp only [List.cons_append, List.cons.injEq] at hv
              obtain ⟨rfl, rfl⟩ := hv
              have hrest := ih (x := x ++ [e]) (by simpa using h) hu
              exact ⟨d, x ++ e :: u, rfl, hc, by simpa using hrest⟩
          | anyRun =>
              obtain ⟨r, v, hv, hr, h⟩ := h
              obtain ⟨r', u, rfl, hr', hu⟩ := hu
              rcases List.append_eq_append_iff.mp hv with hsplit | hsplit
              · obtain ⟨z, rfl, -⟩ := hsplit
                have hd : ∀ c ∈ d :: x, Covers dotNewLine c :=
                  fun c hc => hr c (List.mem_append_left z hc)
                refine ⟨d :: x ++ r', u, by simp, fun c hc => ?_, hu⟩
                rcases List.mem_append.mp hc with hc | hc
                · exact hd c hc
                · exact hr' c hc
              · obtain ⟨z, hz, rfl⟩ := hsplit
                have hrest := ih (x := z ++ r') (by simpa using h) hu
                exact ⟨r, z ++ (r' ++ u), by rw [hz]; simp, hr, by simpa using hrest⟩

end Wildcard

namespace Pattern
open Wildcard

variable {dotNewLine : Bool} {spec t : Text} {p : Pattern}

/-! ## Ends and starts -/

/-- Where an occurrence lies inside another one, the start of the outer and the end of the
inner one bound an occurrence as well. -/
theorem Occurs.of_inside {b b' e e' : Nat} (h : Occurs dotNewLine spec t b e)
    (h' : Occurs dotNewLine spec t b' e') (hb : b ≤ b') (he : e' ≤ e) :
    Occurs dotNewLine spec t b e' := by
  obtain ⟨v, u, w, rfl, rfl, rfl, hu⟩ := occurs_iff.mp h
  obtain ⟨v', u', w', ht, rfl, rfl, hu'⟩ := occurs_iff.mp h'
  obtain ⟨x, rfl, hrest⟩ := Text.exists_append_of_size_le ht hb
  have hsize : Text.size (x ++ u') ≤ u.size := by
    simp only [Text.size_append] at he ⊢
    omega
  rw [← List.append_assoc] at hrest
  obtain ⟨y, rfl, -⟩ := Text.exists_append_of_size_le hrest.symm hsize
  rw [List.append_assoc] at hu
  refine occurs_iff.mpr ⟨v, x ++ u', w', by rw [hrest], rfl, ?_, accepts_of_inside hu hu'⟩
  simp only [Text.size_append]
  omega

/-- The shortest occurrence at a start ends no later than any occurrence that starts behind
it. -/
theorem le_stop_of_isLeast {b b' e e' : Nat}
    (h : IsLeast {e | Occurs dotNewLine spec t b e} e) (h' : Occurs dotNewLine spec t b' e')
    (hb : b ≤ b') : e ≤ e' := by
  by_contra hlt
  have hinside : Occurs dotNewLine spec t b e' := h.1.of_inside h' hb (by omega)
  have hle : e ≤ e' := h.2 hinside
  omega

theorem not_occurs_nil (hopen : isOpen (ofSpec spec) = false) (b e : Nat) :
    ¬Occurs dotNewLine spec [] b e := by
  intro h
  have hlt := h.start_lt hopen
  have hle := h.stop_le
  rw [Text.size_nil] at hle
  omega

/-! ## Parts of a text -/

/-- What occurs in the end of a text occurs in the text behind its beginning. -/
theorem occurs_append_right_iff {v : Text} {b e : Nat} :
    Occurs dotNewLine spec t b e ↔
      Occurs dotNewLine spec (v ++ t) (v.size + b) (v.size + e) := by
  simp only [occurs_iff]
  constructor
  · intro h
    rcases h with ⟨x, u, w, rfl, rfl, rfl, hu⟩
    exact ⟨v ++ x, u, w, by simp, by simp, by omega, hu⟩
  · intro h
    rcases h with ⟨x, u, w, ht, hx, he, hu⟩
    obtain ⟨y, rfl, rfl⟩ := Text.exists_append_of_size_le ht (by omega)
    simp only [Text.size_append] at hx
    exact ⟨y, u, w, rfl, by omega, by omega, hu⟩

/-- What occurs in the beginning of a text occurs in the text and ends within the
beginning. -/
theorem occurs_append_left_iff {w : Text} {b e : Nat} :
    Occurs dotNewLine spec t b e ↔ Occurs dotNewLine spec (t ++ w) b e ∧ e ≤ t.size := by
  constructor
  · intro h
    refine ⟨?_, h.stop_le⟩
    obtain ⟨x, u, v, rfl, hx, he, hu⟩ := occurs_iff.mp h
    exact occurs_iff.mpr ⟨x, u, v ++ w, by simp, hx, he, hu⟩
  · intro h'
    rcases h' with ⟨h, hle⟩
    obtain ⟨x, u, v, ht, hx, he, hu⟩ := occurs_iff.mp h
    have hsize : Text.size (x ++ u) ≤ t.size := by
      simp only [Text.size_append]
      omega
    rw [← List.append_assoc] at ht
    obtain ⟨y, rfl, -⟩ := Text.exists_append_of_size_le ht.symm hsize
    exact occurs_iff.mpr ⟨x, u, y, by simp, hx, he, hu⟩

/-! ## The first occurrence -/

/-- A span is the occurrence with the least start, shortest there; the mark is right only if
nothing occurs. -/
def IsFirst (occurs : Nat → Nat → Prop) : Span → Prop
  | .notFound => ∀ start stop, ¬occurs start stop
  | .range start stop =>
    IsLeast {b | ∃ e, occurs b e} start ∧ IsLeast {e | occurs start e} stop

/-- The occurrences that start at an offset or behind it. -/
def OccursFrom (dotNewLine : Bool) (spec t : Text) (start b e : Nat) : Prop :=
  start ≤ b ∧ Occurs dotNewLine spec t b e

/-- First occurrences of one size move with the text. -/
theorem IsFirst.ofPlace_shift {occurs occurs' : Nat → Nat → Prop} {size n : Nat}
    {place : Option Nat} (h : IsFirst occurs (.ofPlace size place))
    (hshift : ∀ b e, occurs' b e ↔ ∃ b' e', b = n + b' ∧ e = n + e' ∧ occurs b' e') :
    IsFirst occurs' (.ofPlace size (place.map (n + ·))) := by
  cases place with
  | none =>
      intro b e h'
      obtain ⟨b', e', -, -, hocc⟩ := (hshift b e).mp h'
      exact h b' e' hocc
  | some m =>
      obtain ⟨hstart, hstop⟩ := h
      have hmem : occurs' (n + m) (n + m + size) :=
        (hshift _ _).mpr ⟨m, m + size, rfl, Nat.add_assoc .., hstop.1⟩
      refine ⟨⟨⟨_, hmem⟩, ?_⟩, hmem, ?_⟩
      · rintro b ⟨e, h'⟩
        obtain ⟨b', e', rfl, rfl, hocc⟩ := (hshift b e).mp h'
        have hle : m ≤ b' := hstart.2 ⟨e', hocc⟩
        exact Nat.add_le_add_left hle n
      · intro e h'
        obtain ⟨b', e', hb, rfl, hocc⟩ := (hshift (n + m) e).mp h'
        obtain rfl : b' = m := by omega
        have hle : b' + size ≤ e' := hstop.2 hocc
        change n + b' + size ≤ n + e'
        omega

section Word
variable {w : Text} (hw : literal? (ofSpec spec) = some w)
include hw

/-- The leftmost place of a word is the first occurrence. -/
theorem isFirst_find? : IsFirst (Occurs dotNewLine spec t) (.ofPlace w.size (t.find? w)) := by
  have hfind : t.find? w =
      ((t.boundaries.filter fun b => w.isPrefixOf b.rest).map (·.offset)).head? := by
    rw [Text.find?, ← List.head?_filter, List.head?_map]
  rw [hfind]
  cases hfirst :
    ((t.boundaries.filter fun b => w.isPrefixOf b.rest).map (·.offset)).head? with
  | none =>
      intro start stop h
      have hstart := (mem_starts_iff hw).mpr ⟨stop, h⟩
      rw [List.head?_eq_none_iff.mp hfirst] at hstart
      exact List.not_mem_nil hstart
  | some n =>
      have hleast := (Regex.head?_eq_some_iff_isLeast
        (List.pairwise_map.mpr ((Text.pairwise_boundaries t).filter _))).mp hfirst
      have hstarts :
          {m | m ∈ (t.boundaries.filter fun b => w.isPrefixOf b.rest).map (·.offset)} =
          {b | ∃ e, Occurs dotNewLine spec t b e} := Set.ext fun _ => mem_starts_iff hw
      rw [hstarts] at hleast
      refine ⟨hleast, ?_⟩
      obtain ⟨stop, hstop⟩ := hleast.1
      rw [stops_word hw hstop]
      exact isLeast_singleton

/-- Behind a boundary, the leftmost place of a word is the first occurrence from there on. -/
theorem isFirst_firstFrom_word (hopen : isOpen (ofSpec spec) = false)
    (hp : p.matcher = .word w) (v : Text) :
    IsFirst (OccursFrom dotNewLine spec (v ++ t) v.size) (p.firstFrom (v ++ t) v.size) := by
  have hshift (b e : Nat) : OccursFrom dotNewLine spec (v ++ t) v.size b e ↔
      ∃ b' e', b = v.size + b' ∧ e = v.size + e' ∧ Occurs dotNewLine spec t b' e' := by
    constructor
    · rintro ⟨hle, hocc⟩
      have hlt := hocc.start_lt hopen
      refine ⟨b - v.size, e - v.size, by omega, by omega,
        (occurs_append_right_iff (v := v)).mpr ?_⟩
      rwa [Nat.add_sub_cancel' hle, Nat.add_sub_cancel' (by omega)]
    · rintro ⟨b', e', rfl, rfl, hocc⟩
      exact ⟨Nat.le_add_right _ _, occurs_append_right_iff.mp hocc⟩
  by_cases hempty : v ++ t = []
  · obtain ⟨rfl, rfl⟩ := List.append_eq_nil_iff.mp hempty
    exact fun b e hocc => not_occurs_nil hopen b e hocc.2
  · have hdrop : Text.drop? (v ++ t) v.size = some t :=
      Text.drop?_eq_some_iff.mpr ⟨v, rfl, rfl⟩
    have hfirst :
        p.firstFrom (v ++ t) v.size = .ofPlace w.size ((t.find? w).map (v.size + ·)) := by
      simp [firstFrom, hempty, hp, hdrop]
    rw [hfirst]
    exact (isFirst_find? hw).ofPlace_shift hshift

end Word

/-- Whatever an automaton runs, a search that is not refused comes upon the first start of a
match from an offset on. -/
theorem isFirst_firstFrom_matches {r : Regex} {start : Nat}
    (hp : p.matcher = .automaton r) (ht : t ≠ []) (hstart : start ≤ t.size)
    (hlong : p.isTooShort (t.size - start) = false) :
    IsFirst (fun b e => start ≤ b ∧ r.Matches t b e) (p.firstFrom t start) := by
  have hfirst : p.firstFrom t start =
      (((r.occurrences t).find? (start ≤ ·.start)).map shortest).getD .notFound := by
    simp [firstFrom, ht, hp, hlong, Nat.not_lt.mpr hstart]
  rw [hfirst]
  cases hfind : (r.occurrences t).find? (start ≤ ·.start) with
  | none =>
      rintro b e ⟨hle, hmatch⟩
      obtain ⟨o, ho, rfl⟩ := Regex.exists_occurrence hmatch
      exact List.find?_eq_none.mp hfind o ho (decide_eq_true hle)
  | some o =>
      have hleast := Regex.isLeast_of_find?_occurrences hfind
      have hends := (Regex.mem_occurrences_iff.mp (List.mem_of_find?_eq_some hfind)).1
      refine ⟨⟨⟨o.shortestStop, hleast.1.1, hends.1⟩, ?_⟩, ⟨hleast.1.1, hends.1⟩, ?_⟩
      · rintro b ⟨e, hle, hmatch⟩
        exact hleast.2 ⟨hle, e, hmatch⟩
      · exact fun e hmatch => hends.2 hmatch.2

section Automaton
variable (hp : p.matcher = .automaton (expression dotNewLine (ofSpec spec)))
include hp

/-- The first of the occurrences from an offset on, which need not be a boundary. -/
theorem isFirst_firstFrom_automaton (hopen : isOpen (ofSpec spec) = false) (start : Nat) :
    IsFirst (OccursFrom dotNewLine spec t start) (p.firstFrom t start) := by
  have hinside {b e : Nat} (h : OccursFrom dotNewLine spec t start b e) :
      t ≠ [] ∧ start ≤ t.size ∧ p.isTooShort (t.size - start) = false := by
    have hstart := h.1
    have hlt := h.2.start_lt hopen
    have hle := h.2.stop_le
    refine ⟨?_, by omega, isTooShort_mono (by omega) (isTooShort_of_occurs hp h.2)⟩
    rintro rfl
    exact not_occurs_nil hopen b e h.2
  by_cases hsearched : t ≠ [] ∧ start ≤ t.size ∧ p.isTooShort (t.size - start) = false
  · obtain ⟨hempty, hle, hlong⟩ := hsearched
    have hfirst := isFirst_firstFrom_matches hp hempty hle hlong
    rwa [matches_expression_eq] at hfirst
  · have hfirst : p.firstFrom t start = .notFound := by
      simp only [firstFrom, hp]
      split
      · rfl
      · rename_i hguard
        have hguard : t ≠ [] ∧ start ≤ t.size := by simpa using hguard
        have hshort : p.isTooShort (t.size - start) = true := by
          by_contra hlong
          exact hsearched ⟨hguard.1, hguard.2, by simpa using hlong⟩
        simp [hshort]
    rw [hfirst]
    exact fun b e hocc => hsearched (hinside hocc)

end Automaton

/-! ## Both kinds of patterns -/

/-- No occurrence ends in front of the end of the first one. -/
theorem IsFirst.isLeast_stop {b e : Nat}
    (h : IsFirst (Occurs dotNewLine spec t) (.range b e)) :
    IsLeast {e | ∃ b, Occurs dotNewLine spec t b e} e := by
  obtain ⟨hstart, hstop⟩ := h
  refine ⟨⟨b, hstop.1⟩, ?_⟩
  rintro n ⟨a, hocc⟩
  exact le_stop_of_isLeast hstop hocc (hstart.2 ⟨n, hocc⟩)

/-- No shortest occurrence ends behind the last one. -/
theorem IsLast.stop_le {a b e n : Nat}
    (h : IsLast (Occurs dotNewLine spec t) IsLeast (.range b e))
    (hn : IsLeast {n | Occurs dotNewLine spec t a n} n) : n ≤ e := by
  obtain ⟨hstart, hstop⟩ := h
  exact le_stop_of_isLeast hn hstop.1 (hstart.2 ⟨n, hn.1⟩)

/-- Behind a boundary, the leftmost occurrence is found, shortest at its start, unless nothing
occurs from there on. -/
theorem isFirst_firstFrom {settings : PatternSettings} (h : compile settings spec = .ok p)
    (hp : p.isEverything = false) (v t : Text) :
    IsFirst (OccursFrom settings.dotMatchesNewLine spec (v ++ t) v.size)
      (p.firstFrom (v ++ t) v.size) := by
  rcases compile_cases h with ⟨-, rfl⟩ | ⟨hopen, w, hw, rfl⟩ | ⟨hopen, rfl⟩
  · simp [isEverything] at hp
  · exact isFirst_firstFrom_word hw hopen rfl v
  · exact isFirst_firstFrom_automaton rfl hopen v.size

/-- The leftmost occurrence is found, shortest at its start, unless nothing occurs. -/
theorem isFirst_first {settings : PatternSettings} (h : compile settings spec = .ok p)
    (hp : p.isEverything = false) (t : Text) :
    IsFirst (Occurs settings.dotMatchesNewLine spec t) (p.first t) := by
  have hall : OccursFrom settings.dotMatchesNewLine spec t 0 =
      Occurs settings.dotMatchesNewLine spec t := by
    funext b e
    simp [OccursFrom]
  rw [← hall, first]
  exact isFirst_firstFrom h hp [] t

theorem first_eq_notFound_iff {settings : PatternSettings} (h : compile settings spec = .ok p)
    (hp : p.isEverything = false) :
    p.first t = .notFound ↔ ∀ b e, ¬Occurs settings.dotMatchesNewLine spec t b e := by
  have hfirst := isFirst_first h hp t
  cases hspan : p.first t with
  | notFound =>
      rw [hspan] at hfirst
      exact iff_of_true rfl hfirst
  | range b e =>
      rw [hspan] at hfirst
      simp only [reduceCtorEq, false_iff]
      exact fun hnowhere => hnowhere b e hfirst.2.1

theorem isOpen_of_compile {settings : PatternSettings} (h : compile settings spec = .ok p)
    (hp : p.isEverything = false) : isOpen (ofSpec spec) = false := by
  rw [← isEverything_eq_isOpen h, hp]

/-- The first occurrence ends in front of an offset if any occurrence does. -/
theorem first_stop_le_iff {settings : PatternSettings} (h : compile settings spec = .ok p)
    (hp : p.isEverything = false) (n : Nat) :
    (∃ b e, p.first t = .range b e ∧ e ≤ n) ↔
      ∃ b e, Occurs settings.dotMatchesNewLine spec t b e ∧ e ≤ n := by
  have hfirst := isFirst_first h hp t
  constructor
  · rintro ⟨b, e, hspan, hle⟩
    rw [hspan] at hfirst
    exact ⟨b, e, hfirst.2.1, hle⟩
  · rintro ⟨b', e', hocc, hle⟩
    cases hspan : p.first t with
    | notFound =>
        rw [hspan] at hfirst
        exact absurd hocc (hfirst b' e')
    | range b e =>
        rw [hspan] at hfirst
        exact ⟨b, e, rfl, (hfirst.isLeast_stop.2 ⟨b', hocc⟩).trans hle⟩

/-- Nothing is searched in the empty text, and nothing occurs there. -/
theorem isLast_lastShortest {settings : PatternSettings} (h : compile settings spec = .ok p)
    (hp : p.isEverything = false) (t : Text) :
    IsLast (Occurs settings.dotMatchesNewLine spec t) IsLeast (p.lastShortest t) := by
  by_cases ht : t = []
  · subst ht
    exact not_occurs_nil (isOpen_of_compile h hp)
  · exact (answers_compile h hp ht).isLast_lastShortest

theorem isLast_lastLongest {settings : PatternSettings} (h : compile settings spec = .ok p)
    (hp : p.isEverything = false) (t : Text) :
    IsLast (Occurs settings.dotMatchesNewLine spec t) IsGreatest (p.lastLongest t) := by
  by_cases ht : t = []
  · subst ht
    exact not_occurs_nil (isOpen_of_compile h hp)
  · exact (answers_compile h hp ht).isLast_lastLongest

/-- The shortest end at a boundary that a run finds is the least end of an occurrence
there. -/
theorem shortestEnd?_eq_some_iff {b : Text.Boundary} {e : Nat} (hb : b ∈ t.boundaries) :
    (expression dotNewLine (ofSpec spec)).shortestEnd? b = some e ↔
      IsLeast {e | Occurs dotNewLine spec t b.offset e} e := by
  rw [Regex.shortestEnd?_eq_head?, Regex.head?_eq_some_iff_isLeast (Regex.pairwise_ends _ _)]
  simp only [← matches_expression_iff, Regex.matches_iff hb]

/-- The shortest occurrences end in the order of their starts. So where anything occurs, the
first occurrence has the least end of all, and no shortest occurrence ends behind the last
one. -/
theorem shortest_stops_ascend {settings : PatternSettings} (h : compile settings spec = .ok p)
    (hp : p.isEverything = false) (t : Text) :
    (∀ b b' e e', b < b' → IsLeast {e | Occurs settings.dotMatchesNewLine spec t b e} e →
      IsLeast {e | Occurs settings.dotMatchesNewLine spec t b' e} e' → e ≤ e') ∧
    (∀ r, p.matcher = .automaton r → ∀ a ∈ t.boundaries, ∀ b ∈ t.boundaries, ∀ e e',
      a.offset < b.offset → r.shortestEnd? a = some e → r.shortestEnd? b = some e' → e ≤ e') ∧
    (((∀ b e, ¬Occurs settings.dotMatchesNewLine spec t b e) ∧
        p.first t = .notFound ∧ p.lastShortest t = .notFound) ∨
      ∃ b e b' e', p.first t = .range b e ∧ p.lastShortest t = .range b' e' ∧
        Occurs settings.dotMatchesNewLine spec t b e ∧
        IsLeast {e | ∃ b, Occurs settings.dotMatchesNewLine spec t b e} e ∧
        Occurs settings.dotMatchesNewLine spec t b' e' ∧
        ∀ a n, IsLeast {n | Occurs settings.dotMatchesNewLine spec t a n} n → n ≤ e') := by
  refine ⟨?_, ?_, ?_⟩
  · intro b b' e e' hb hleast hleast'
    exact le_stop_of_isLeast hleast hleast'.1 hb.le
  · intro r hr a ha b hb e e' hab he he'
    rcases compile_cases h with ⟨-, rfl⟩ | ⟨-, w, -, rfl⟩ | ⟨-, rfl⟩
    · cases hr
    · cases hr
    · obtain rfl : _ = r := by injection hr
      have hleast := (shortestEnd?_eq_some_iff ha).mp he
      have hleast' := (shortestEnd?_eq_some_iff hb).mp he'
      exact le_stop_of_isLeast hleast hleast'.1 hab.le
  · have hfirst := isFirst_first h hp t
    have hlast := isLast_lastShortest h hp t
    cases hf : p.first t with
    | notFound =>
        rw [hf] at hfirst
        refine .inl ⟨hfirst, rfl, ?_⟩
        cases hl : p.lastShortest t with
        | notFound => rfl
        | range b' e' =>
            rw [hl] at hlast
            exact absurd hlast.2.1 (hfirst b' e')
    | range b e =>
        rw [hf] at hfirst
        cases hl : p.lastShortest t with
        | notFound =>
            rw [hl] at hlast
            exact absurd hfirst.2.1 (hlast b e)
        | range b' e' =>
            rw [hl] at hlast
            exact .inr ⟨b, e, b', e', rfl, rfl, hfirst.2.1, hfirst.isLeast_stop, hlast.2.1,
              fun a n hleast => hlast.stop_le hleast⟩

/-- A text with two occurrences, of which the first one ends first. -/
theorem shortest_stops_run : ∃ p, compile {} "a*".toList = .ok p ∧ p.isEverything = false ∧
    ∃ b e b' e', p.first "aöa".toList = .range b e ∧
    p.lastShortest "aöa".toList = .range b' e' ∧
      e ≤ e' := by
  refine ⟨_, compile_run, rfl, ?_⟩
  obtain ⟨-, -, hspans⟩ := shortest_stops_ascend compile_run rfl "aöa".toList
  rcases hspans with ⟨hnone, -⟩ | ⟨b, e, b', e', hfirst, hlast, -, hleast, hocc, -⟩
  · have hdescribes : Describes true "a*".toList ['a'] :=
      .char rfl (.anyRun (u := []) (by simp) .nil)
    exact absurd ⟨['a'], by decide, hdescribes⟩ (hnone 0 1)
  · exact ⟨b, e, b', e', hfirst, hlast, hleast.2 ⟨b', hocc⟩⟩

end Pattern
end ControlSearch
