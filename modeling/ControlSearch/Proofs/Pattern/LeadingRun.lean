import ControlSearch.Proofs.Pattern.FirstOccurrence
import ControlSearch.Proofs.Pattern.Segments

/-!
# Runs in front of a spec

Stars in front of a spec let its occurrences begin further in front, and change nothing about
where they end. So whatever asks for the last start, or for an end, gets the same answer with
and without them.
-/
namespace ControlSearch

namespace Wildcard

variable {dotNewLine : Bool} {parts : List Wildcard} {spec t : Text} {n : Nat}

theorem ofSpec_replicate_append (n : Nat) (spec : Text) :
    ofSpec (List.replicate n '*' ++ spec) = List.replicate n .anyRun ++ ofSpec spec := by
  induction n with
  | zero => rfl
  | succ n ih =>
      rw [List.replicate_succ, List.replicate_succ, List.cons_append, List.cons_append, ← ih]
      exact ofSpec_cons (by decide) _

theorem isOpen_replicate_append (n : Nat) (parts : List Wildcard) :
    isOpen (List.replicate n .anyRun ++ parts) = isOpen parts := by
  simp [isOpen]

/-- Any number of runs in a row, but none, is one run. -/
theorem accepts_replicate_append :
    Accepts dotNewLine (List.replicate (n + 1) .anyRun ++ parts) t ↔
      ∃ u v, t = u ++ v ∧ (∀ c ∈ u, Covers dotNewLine c) ∧ Accepts dotNewLine parts v := by
  induction n generalizing t with
  | zero => rfl
  | succ n ih =>
      rw [List.replicate_succ, List.cons_append]
      simp only [Accepts, ih]
      constructor
      · rintro ⟨x, _, rfl, hx, u, v, rfl, hu, hv⟩
        exact ⟨x ++ u, v, by simp, List.forall_mem_append.mpr ⟨hx, hu⟩, hv⟩
      · rintro ⟨u, v, rfl, hu, hv⟩
        exact ⟨[], u ++ v, rfl, by simp, u, v, rfl, hu, hv⟩

end Wildcard

namespace Pattern
open Wildcard

variable {settings : PatternSettings} {dotNewLine : Bool} {spec t : Text}
  {p p' : Pattern} {s s' : Span}
  {n b e : Nat}

/-- Behind stars a spec occurs from every boundary on that is not behind its own start. -/
theorem occurs_leading_iff (ht : ∀ c ∈ t, Covers dotNewLine c) :
    Occurs dotNewLine (List.replicate (n + 1) '*' ++ spec) t b e ↔
      (∃ v w, t = v ++ w ∧ v.size = b) ∧ ∃ b', b ≤ b' ∧ Occurs dotNewLine spec t b' e := by
  simp only [occurs_iff, ofSpec_replicate_append, accepts_replicate_append]
  constructor
  · rintro ⟨v, _, w, rfl, rfl, rfl, x, u, rfl, -, hu⟩
    refine ⟨⟨v, _, rfl, rfl⟩, v.size + x.size, Nat.le_add_right _ _, v ++ x, u, w,
      ?_, ?_, ?_, hu⟩
    · simp
    · simp
    · simp [Nat.add_assoc]
  · rintro ⟨⟨v, w, rfl, rfl⟩, b', hle, v', u, w', hsplit, rfl, rfl, hu⟩
    obtain ⟨x, rfl, rfl⟩ := Text.exists_append_of_size_le hsplit hle
    have hx (c : Char) (hc : c ∈ x) : Covers dotNewLine c := ht c (by simp [hc])
    exact ⟨v, x ++ u, w', by simp, rfl, by simp [Nat.add_assoc], x, u, rfl, hx, hu⟩

theorem occurs_leading (ht : ∀ c ∈ t, Covers dotNewLine c)
    (h : Occurs dotNewLine spec t b e) :
    Occurs dotNewLine (List.replicate (n + 1) '*' ++ spec) t b e := by
  obtain ⟨v, u, w, htext, hv, -⟩ := occurs_iff.mp h
  exact (occurs_leading_iff ht).mpr ⟨⟨v, _, htext, hv⟩, b, le_rfl, h⟩

/-- Stars in front change no end. -/
theorem exists_occurs_leading_iff (ht : ∀ c ∈ t, Covers dotNewLine c) :
    (∃ b, Occurs dotNewLine (List.replicate (n + 1) '*' ++ spec) t b e) ↔
      ∃ b, Occurs dotNewLine spec t b e := by
  constructor
  · rintro ⟨b, h⟩
    obtain ⟨-, b', -, h'⟩ := (occurs_leading_iff ht).mp h
    exact ⟨b', h'⟩
  · rintro ⟨b, h⟩
    exact ⟨b, occurs_leading ht h⟩

/-- Stars in front do not change the last occurrence, whichever of its ends is picked. -/
theorem isLast_leading {pick : Set Nat → Nat → Prop} (hmem : ∀ ends n, pick ends n → n ∈ ends)
    (hunique : ∀ ends m n, pick ends m → pick ends n → m = n)
    (ht : ∀ c ∈ t, Covers dotNewLine c) (h : IsLast (Occurs dotNewLine spec t) pick s)
    (h' : IsLast (Occurs dotNewLine (List.replicate (n + 1) '*' ++ spec) t) pick s') :
    s' = s := by
  cases s with
  | notFound =>
      cases s' with
      | notFound => rfl
      | range b e =>
          obtain ⟨a, hocc⟩ := (exists_occurs_leading_iff ht).mp ⟨b, hmem _ _ h'.2⟩
          exact absurd hocc (h a e)
  | range b e =>
      obtain ⟨⟨hstart, hmax⟩, hstop⟩ := h
      cases s' with
      | notFound => exact absurd (occurs_leading ht (hmem _ _ hstop)) (h' b e)
      | range b' e' =>
          obtain ⟨⟨⟨e₁, hstart'⟩, hmax'⟩, hstop'⟩ := h'
          obtain ⟨-, a, hle, hocc⟩ := (occurs_leading_iff ht).mp hstart'
          obtain ⟨e₂, hstart⟩ := hstart
          have hb : b' = b :=
            le_antisymm (hle.trans (hmax ⟨_, hocc⟩)) (hmax' ⟨e₂, occurs_leading ht hstart⟩)
          subst hb
          -- From the last start on, no occurrence has room to begin further behind.
          have hends : {m | Occurs dotNewLine (List.replicate (n + 1) '*' ++ spec) t b' m} =
              {m | Occurs dotNewLine spec t b' m} := by
            ext m
            constructor
            · intro hm
              obtain ⟨-, a, hle, hocc⟩ := (occurs_leading_iff ht).mp hm
              obtain rfl : a = b' := le_antisymm (hmax ⟨_, hocc⟩) hle
              exact hocc
            · exact occurs_leading ht
          rw [hends] at hstop'
          rw [hunique _ _ _ hstop hstop']

/-- Stars in front do not change where the first occurrence ends. -/
theorem isFirst_leading (ht : ∀ c ∈ t, Covers dotNewLine c)
    (h : IsFirst (Occurs dotNewLine spec t) s)
    (h' : IsFirst (Occurs dotNewLine (List.replicate (n + 1) '*' ++ spec) t) s') :
    s'.stop? = s.stop? := by
  cases s with
  | notFound =>
      cases s' with
      | notFound => rfl
      | range b' e' =>
          obtain ⟨a, hocc⟩ := (exists_occurs_leading_iff ht).mp ⟨b', h'.2.1⟩
          exact absurd hocc (h a e')
  | range b e =>
      cases s' with
      | notFound => exact absurd (occurs_leading ht h.2.1) (h' b e)
      | range b' e' =>
          have hends :
              {m | ∃ a, Occurs dotNewLine (List.replicate (n + 1) '*' ++ spec) t a m} =
              {m | ∃ a, Occurs dotNewLine spec t a m} :=
            Set.ext fun _ => exists_occurs_leading_iff ht
          have hleast := h'.isLeast_stop
          rw [hends] at hleast
          exact congrArg some (hleast.unique h.isLeast_stop)

/-! ## Compiled patterns -/

/-- The second pattern is compiled from the spec of the first one behind stars. -/
structure Leads (settings : PatternSettings) (p p' : Pattern) : Prop where
  compile_eq : compile settings p.spec = .ok p
  compile_leading : ∃ n, compile settings (List.replicate (n + 1) '*' ++ p.spec) = .ok p'

/-- Another star stands between the stars and the segments behind them. -/
theorem joinSegments_leading (n : Nat) {segments : List Text} (hne : segments ≠ []) :
    joinSegments (List.replicate (n + 1) '*' :: segments) =
      List.replicate (n + 2) '*' ++ joinSegments segments := by
  obtain ⟨segment, rest, rfl⟩ := List.exists_cons_of_ne_nil hne
  have hstars : List.replicate (n + 2) '*' = List.replicate (n + 1) '*' ++ ['*'] :=
    List.replicate_succ'
  rw [joinSegments_cons, hstars, List.append_assoc, List.singleton_append]

theorem leads_joinSegments {n : Nat} {segments : List Text} (hne : segments ≠ [])
    (h : compile settings (joinSegments segments) = .ok p)
    (h' : compile settings (joinSegments (List.replicate (n + 1) '*' :: segments)) = .ok p') :
    Leads settings p p' := by
  have hspec := spec_of_compile h
  refine ⟨hspec ▸ h, n + 1, ?_⟩
  rwa [hspec, ← joinSegments_leading n hne]

namespace Leads

variable (h : Leads settings p p') (ht : ∀ c ∈ t, Covers settings.dotMatchesNewLine c)
include h

theorem isEverything_eq : p'.isEverything = p.isEverything := by
  obtain ⟨hp, n, hp'⟩ := h
  rw [isEverything_eq_isOpen hp, isEverything_eq_isOpen hp', ofSpec_replicate_append,
    isOpen_replicate_append]

include ht

theorem stop?_first (hopen : p.isEverything = false) :
    (p'.first t).stop? = (p.first t).stop? := by
  have hopen' : p'.isEverything = false := h.isEverything_eq.trans hopen
  obtain ⟨hp, n, hp'⟩ := h
  exact isFirst_leading ht (isFirst_first hp hopen t) (isFirst_first hp' hopen' t)

theorem lastShortest_eq (hopen : p.isEverything = false) :
    p'.lastShortest t = p.lastShortest t := by
  have hopen' : p'.isEverything = false := h.isEverything_eq.trans hopen
  obtain ⟨hp, n, hp'⟩ := h
  exact isLast_leading (fun _ _ hn => hn.1) (fun _ _ _ hm hn => hm.unique hn) ht
    (isLast_lastShortest hp hopen t) (isLast_lastShortest hp' hopen' t)

theorem lastLongest_eq (hopen : p.isEverything = false) :
    p'.lastLongest t = p.lastLongest t := by
  have hopen' : p'.isEverything = false := h.isEverything_eq.trans hopen
  obtain ⟨hp, n, hp'⟩ := h
  exact isLast_leading (fun _ _ hn => hn.1) (fun _ _ _ hm hn => hm.unique hn) ht
    (isLast_lastLongest hp hopen t) (isLast_lastLongest hp' hopen' t)

theorem sizeAfterLastShortest?_eq :
    p'.sizeAfterLastShortest? t = p.sizeAfterLastShortest? t := by
  by_cases hopen : p.isEverything = true
  · simp [sizeAfterLastShortest?, h.isEverything_eq, hopen]
  · have hopen : p.isEverything = false := by simpa using hopen
    simp [sizeAfterLastShortest?, h.isEverything_eq, hopen, h.lastShortest_eq ht hopen]

theorem sizeAfterLast?_eq : p'.sizeAfterLast? t = p.sizeAfterLast? t := by
  by_cases hopen : p.isEverything = true
  · simp [sizeAfterLast?, h.isEverything_eq, hopen]
  · have hopen : p.isEverything = false := by simpa using hopen
    simp [sizeAfterLast?, h.isEverything_eq, hopen, h.lastLongest_eq ht hopen]

theorem sizeBeforeLast?_eq : p'.sizeBeforeLast? t = p.sizeBeforeLast? t := by
  by_cases hopen : p.isEverything = true
  · simp [sizeBeforeLast?, h.isEverything_eq, hopen]
  · have hopen : p.isEverything = false := by simpa using hopen
    simp [sizeBeforeLast?, h.isEverything_eq, hopen, h.lastLongest_eq ht hopen]

theorem endsText_eq : p'.endsText t = p.endsText t := by
  by_cases hne : t = []
  · simp [endsText, hne]
  · by_cases hopen : p.isEverything = true
    · have hopen' : p'.isEverything = true := h.isEverything_eq.trans hopen
      have hmatcher : p.matcher = .everything := by simpa [isEverything] using hopen
      have hmatcher' : p'.matcher = .everything := by simpa [isEverything] using hopen'
      simp [endsText, hmatcher, hmatcher']
    · have hopen : p.isEverything = false := by simpa using hopen
      have hopen' : p'.isEverything = false := h.isEverything_eq.trans hopen
      obtain ⟨hp, n, hp'⟩ := h
      rw [Bool.eq_iff_iff, (answers_compile hp hopen hne).endsText_iff,
        (answers_compile hp' hopen' hne).endsText_iff]
      exact exists_occurs_leading_iff ht

end Leads

end Pattern
end ControlSearch
