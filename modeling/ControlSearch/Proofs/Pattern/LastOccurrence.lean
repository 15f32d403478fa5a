import ControlSearch.Proofs.Pattern.FirstOccurrence
import ControlSearch.Proofs.Pattern.Segments

/-!
# Last occurrences

A spec that is read backwards describes the texts that are read backwards. So what is true of
the ends of occurrences is true of their starts: of two occurrences, one inside the other, the
start of the inner and the end of the outer one bound an occurrence as well. At the last
start, therefore, every end can be reached that is reached from anywhere in front of it.
-/
namespace ControlSearch

namespace Wildcard

variable {dotNewLine : Bool} {parts : List Wildcard} {t u x y : Text}

/-- A single part does not tell the directions apart. -/
theorem accepts_singleton_reverse {p : Wildcard} (h : Accepts dotNewLine [p] t) :
    Accepts dotNewLine [p] t.reverse := by
  cases p with
  | char c =>
      obtain ⟨u, rfl, rfl⟩ := h
      exact ⟨[], rfl, rfl⟩
  | anyChar =>
      obtain ⟨c, u, rfl, hc, rfl⟩ := h
      exact ⟨c, [], rfl, hc, rfl⟩
  | anyRun =>
      obtain ⟨u, v, rfl, hu, rfl⟩ := h
      exact ⟨u.reverse, [], by simp, by simpa using hu, rfl⟩

theorem accepts_reverse (h : Accepts dotNewLine parts t) :
    Accepts dotNewLine parts.reverse t.reverse := by
  induction parts generalizing t with
  | nil =>
      obtain rfl : t = [] := h
      rfl
  | cons p parts ih =>
      have hsplit : Accepts dotNewLine ([p] ++ parts) t := h
      obtain ⟨u, v, rfl, hu, hv⟩ := accepts_append.mp hsplit
      rw [List.reverse_cons, List.reverse_append]
      exact accepts_append.mpr ⟨_, _, rfl, ih hv, accepts_singleton_reverse hu⟩

/-- Parts that accept a text, and another text inside it, accept what there is from the start
of the inner text on. -/
theorem accepts_of_inside_right (h : Accepts dotNewLine parts (x ++ (u ++ y)))
    (hu : Accepts dotNewLine parts u) : Accepts dotNewLine parts (u ++ y) := by
  have hrev : Accepts dotNewLine parts.reverse (y.reverse ++ (u.reverse ++ x.reverse)) := by
    simpa using accepts_reverse h
  simpa using accepts_reverse (accepts_of_inside hrev (accepts_reverse hu))

end Wildcard

namespace Pattern
open Wildcard

variable {settings : PatternSettings} {dotNewLine : Bool} {spec t : Text} {p : Pattern}
  {b b' e e' start : Nat}

/-- Where an occurrence lies inside another one, the start of the inner and the end of the
outer one bound an occurrence as well. -/
theorem Occurs.of_inside_right (h : Occurs dotNewLine spec t b e)
    (h' : Occurs dotNewLine spec t b' e') (hb : b ≤ b') (he : e' ≤ e) :
    Occurs dotNewLine spec t b' e := by
  obtain ⟨v, u, w, rfl, rfl, rfl, hu⟩ := occurs_iff.mp h
  obtain ⟨v', u', w', ht, rfl, rfl, hu'⟩ := occurs_iff.mp h'
  obtain ⟨x, rfl, hrest⟩ := Text.exists_append_of_size_le ht hb
  have hsize : Text.size (x ++ u') ≤ u.size := by
    simp only [Text.size_append] at he ⊢
    omega
  rw [← List.append_assoc] at hrest
  obtain ⟨y, rfl, -⟩ := Text.exists_append_of_size_le hrest.symm hsize
  rw [List.append_assoc] at hu
  refine occurs_iff.mpr ⟨v ++ x, u' ++ y, w, by simp, by simp, ?_,
    accepts_of_inside_right hu hu'⟩
  simp only [Text.size_append]
  omega

/-- From the last start, every end behind it is reached that is reached from in front of
it. -/
theorem occurs_last_start (hlast : IsGreatest {b | ∃ e, Occurs dotNewLine spec t b e} start)
    (h : Occurs dotNewLine spec t b t.size) : Occurs dotNewLine spec t start t.size := by
  obtain ⟨⟨e, he⟩, hmax⟩ := hlast
  exact h.of_inside_right he (hmax ⟨_, h⟩) he.stop_le

theorem sizeBeforeLast?_eq_start? (hp : p.isEverything = false) (ht : t ≠ []) :
    p.sizeBeforeLast? t = (p.lastLongest t).start? := by
  simp [sizeBeforeLast?, hp, ht]

theorem sizeAfterLast?_eq_stop? (hp : p.isEverything = false) :
    p.sizeAfterLast? t = (p.lastLongest t).stop?.map (t.size - ·) := by
  simp [sizeAfterLast?, hp]

/-- A text ends with an occurrence if and only if the last occurrence, taken as long as
possible, ends the text. The bytes in front of it are then the last start of an occurrence
that ends the text. -/
theorem endsText_iff_last (h : compile settings spec = .ok p) (hp : p.isEverything = false)
    (ht : t ≠ []) :
    (p.endsText t = true ↔ p.sizeAfterLast? t = some 0) ∧
    ∀ start, p.endsText t = true → p.sizeBeforeLast? t = some start →
      IsGreatest {b | Occurs settings.dotMatchesNewLine spec t b t.size} start := by
  obtain ⟨hends, -, hlast, -⟩ := answers_compile h hp ht
  rw [hends, sizeBeforeLast?_eq_start? hp ht, sizeAfterLast?_eq_stop? hp]
  cases hspan : p.lastLongest t with
  | notFound =>
      rw [hspan] at hlast
      have hnone (b : Nat) : ¬Occurs settings.dotMatchesNewLine spec t b t.size :=
        hlast b t.size
      simp [hnone, Span.stop?]
  | range last longest =>
      rw [hspan] at hlast
      obtain ⟨hstart, hlongest⟩ := hlast
      have hsize : longest ≤ t.size := Occurs.stop_le hlongest.1
      simp only [Span.stop?, Span.start?, Option.map_some, Option.some.injEq]
      constructor
      · constructor
        · rintro ⟨b, hb⟩
          have hle : t.size ≤ longest := hlongest.2 (occurs_last_start hstart hb)
          omega
        · intro hzero
          have hend : longest = t.size := by omega
          exact ⟨last, hend ▸ hlongest.1⟩
      · rintro start ⟨b, hb⟩ rfl
        exact ⟨occurs_last_start hstart hb, fun n hn => hstart.2 ⟨_, hn⟩⟩

end Pattern
end ControlSearch
