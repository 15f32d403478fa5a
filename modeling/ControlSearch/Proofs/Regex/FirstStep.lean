import ControlSearch.Proofs.Regex.Language
import ControlSearch.Regex.Branch

/-!
# First steps list languages

The ordered first steps of an expression at a place accept, taken together, exactly what the
expression accepts from there on. Here this is shown of the plain recursion; it is right
wherever each unbounded repetition has a body with content.
-/
namespace ControlSearch.Regex

/-- What is accepted behind a first step. -/
def Branch.language : Branch → Language
  | accept => 1
  | consume chars left => .char chars * left.language

/-- At a place, first steps accept together what a language does. -/
def Lists (place : Place) (steps : List Branch) (L : Language) : Prop :=
  ∀ t next, place.next = t.head?.or next →
    (L place.last t next ↔ ∃ b ∈ steps, b.language place.last t next)

/-- In front of the empty text, a place is told by what follows the text. -/
theorem place_eq {place : Place} {next : Option Char}
    (h : place.next = ([] : Text).head?.or next) :
    ⟨place.last, next⟩ = place := by
  cases place
  simpa using h.symm

namespace Lists

variable {place : Place} {as bs : List Branch} {L M : Language}

theorem accept : Lists place [.accept] 1 := by
  intro t next _
  simp [Branch.language]

theorem consume (chars : CharSet) (left : Regex) :
    Lists place [.consume chars left] (.char chars * left.language) := by
  intro t next _
  simp [Branch.language]

theorem look (assertion : Look) :
    Lists place (if assertion.holds place then [.accept] else []) (.look assertion) := by
  intro t next hplace
  constructor
  · intro h'
    rcases h' with ⟨rfl, h⟩
    rw [place_eq hplace] at h
    rw [if_pos h]
    simp [Branch.language]
  · split
    · rename_i h
      intro h'
      rcases h' with ⟨b, hb, hl⟩
      obtain rfl := List.mem_singleton.mp hb
      have ht : t = [] := hl
      subst ht
      refine ⟨rfl, ?_⟩
      rwa [place_eq hplace]
    · simp

theorem add (ha : Lists place as L) (hb : Lists place bs M) :
    Lists place (as ++ bs) (L + M) := by
  intro t next hplace
  rw [Language.add_iff, ha t next hplace, hb t next hplace]
  simp only [List.mem_append, or_and_right, exists_or]

theorem of_mem_iff (ha : Lists place as L) (h : ∀ b, b ∈ bs ↔ b ∈ as) : Lists place bs L := by
  intro t next hplace
  rw [ha t next hplace]
  simp only [h]

/-- Whether a language accepts the empty text at a place shows in its first steps. -/
theorem accept_mem_iff (ha : Lists place as L) :
    .accept ∈ as ↔ L place.last [] place.next := by
  rw [ha [] place.next (by simp)]
  constructor
  · exact fun h => ⟨.accept, h, rfl⟩
  · intro h'
    rcases h' with ⟨b, hb, hl⟩
    cases b with
    | accept => exact hb
    | consume chars left =>
        obtain ⟨c, u, h, -⟩ := Language.char_mul_iff.mp hl
        simp at h

/-- Going on with a second expression. Its first steps matter only behind a stop. -/
theorem andThen (ha : Lists place as L) (second : Regex)
    (hb : .accept ∈ as → Lists place bs second.language) :
    Lists place (as.flatMap (Branch.andThen second bs)) (L * second.language) := by
  intro t next hplace
  simp only [List.mem_flatMap]
  constructor
  · intro h
    rcases h with ⟨u, v, rfl, hu, hv⟩
    have hplace' : place.next = u.head?.or (v.head?.or next) := by
      rw [hplace, Text.head?_append_or]
    obtain ⟨b, hmem, hl⟩ := (ha u _ hplace').mp hu
    cases b with
    | accept =>
        have hu : u = [] := hl
        subst hu
        obtain ⟨b, hb', hl⟩ := (hb hmem v next hplace).mp hv
        exact ⟨b, ⟨.accept, hmem, hb'⟩, hl⟩
    | consume chars left =>
        refine ⟨.consume chars (left.andThen second),
          ⟨_, hmem, List.mem_singleton_self _⟩, ?_⟩
        rw [Branch.language, language_andThen, ← mul_assoc]
        exact ⟨u, v, rfl, hl, hv⟩
  · intro h
    rcases h with ⟨b, ⟨a, hmem, hb'⟩, hl⟩
    cases a with
    | accept =>
        refine ⟨[], t, rfl, ?_, (hb hmem t next hplace).mpr ⟨b, hb', hl⟩⟩
        exact (ha [] _ hplace).mpr ⟨.accept, hmem, rfl⟩
    | consume chars left =>
        obtain rfl := List.mem_singleton.mp hb'
        rw [Branch.language, language_andThen, ← mul_assoc] at hl
        obtain ⟨u, v, rfl, hu, hv⟩ := hl
        refine ⟨u, v, rfl, (ha u _ ?_).mpr ⟨_, hmem, hu⟩, hv⟩
        rw [hplace, Text.head?_append_or]

theorem chain (ha : Lists place as L) (second : Regex) (after : Unit → List Branch)
    (hb : Lists place (after ()) second.language) :
    Lists place (Branch.chain second as after) (L * second.language) := by
  rw [Branch.chain_eq]
  exact ha.andThen second fun _ => hb

end Lists

theorem Branch.mem_once {b : Branch} {steps : List Branch} : b ∈ once steps ↔ b ∈ steps := by
  induction steps with
  | nil => rfl
  | cons a steps ih =>
      cases a with
      | accept =>
          simp only [once, List.mem_cons, List.mem_filter, ne_eq, decide_eq_true_eq]
          by_cases h : b = accept <;> simp [h]
      | consume chars left => simp only [once, List.mem_cons, ih]

/-! ## Content -/

/-- An expression with content does not accept the empty text. -/
theorem ne_nil_of_minSize? {r : Regex} {n : Nat} (h : r.minSize? = some n) (hn : n ≠ 0)
    {last next : Option Char} {t : Text} (ht : r.language last t next) : t ≠ [] := by
  induction r generalizing n last t next with
  | empty => simp_all [minSize?]
  | look _ => simp_all [minSize?]
  | set chars =>
      obtain ⟨c, -, rfl⟩ := ht
      simp
  | group _ body ih => exact ih h hn ht
  | cat a b iha ihb =>
      obtain ⟨u, v, rfl, hu, hv⟩ := ht
      simp only [minSize?, Option.pure_def, Option.bind_eq_bind, Option.bind_eq_some_iff,
        Option.some.injEq] at h
      obtain ⟨x, hx, y, hy, rfl⟩ := h
      intro h
      obtain ⟨rfl, rfl⟩ := List.append_eq_nil_iff.mp h
      by_cases hx0 : x = 0
      · exact ihb hy (by omega) hv rfl
      · exact iha hx hx0 hu rfl
  | alt a b iha ihb =>
      simp only [minSize?, Option.pure_def, Option.bind_eq_bind, Option.bind_eq_some_iff,
        Option.some.injEq] at h
      obtain ⟨x, hx, y, hy, rfl⟩ := h
      rcases ht with ht | ht
      · exact iha hx (by omega) ht
      · exact ihb hy (by omega) ht
  | rounds body least most eager ih =>
      obtain ⟨k, hk, -, ht⟩ := ht
      obtain ⟨x, hx, rfl⟩ := Option.map_eq_some_iff.mp h
      have hx0 : x ≠ 0 := by
        intro h'
        subst h'
        simp at hn
      have hl0 : least ≠ 0 := by
        intro h'
        subst h'
        simp at hn
      obtain ⟨k, rfl⟩ := Nat.exists_eq_add_of_le' (show 1 ≤ k by omega)
      rw [pow_succ'] at ht
      obtain ⟨u, v, rfl, hu, -⟩ := ht
      have := ih hx hx0 hu
      simp [this]

theorem ne_nil_of_hasContent {r : Regex} (h : r.hasContent = true) {last next : Option Char}
    {t : Text} (ht : r.language last t next) : t ≠ [] := by
  unfold hasContent at h
  split at h
  · simp at h
  · rename_i n hn
    exact ne_nil_of_minSize? hn (by simpa using h) ht

/-! ## Plain recursion -/

/-- Where no round is required, a repetition can stop besides going on. -/
theorem Lists.addStop {place : Place} {again : List Branch} {L : Language}
    (h : Lists place again L) (eager : Bool) :
    Lists place (if eager then again ++ [.accept] else .accept :: again) (1 + L) := by
  rw [add_comm]
  refine (h.add .accept).of_mem_iff ?_
  intro b
  split <;> simp [or_comm]

/-- The first steps of a repetition, from those of its body. -/
theorem lists_roundSteps {place : Place} {body : Regex} {steps : List Branch}
    (hs : Lists place steps body.language) (eager : Bool) (least : Nat) (most : Option Nat)
    (hm : most = none → .accept ∉ steps) :
    Lists place (roundSteps body steps eager least most)
      (body.language.rounds least most) := by
  induction least generalizing most with
  | succ least ih =>
      rw [roundSteps, Language.rounds_succ]
      exact hs.chain (.rounds body least (most.map (· - 1)) eager) _
        (ih _ fun h => hm (by simpa using h))
  | zero =>
      cases most with
      | none =>
          rw [roundSteps, Language.rounds_zero _ (by simp)]
          exact Lists.addStop
            (hs.andThen (.rounds body 0 none eager) fun h => absurd h (hm rfl)) eager
      | some most =>
          induction most with
          | zero => simpa [roundSteps] using Lists.accept
          | succ most ih =>
              rw [roundSteps, Language.rounds_zero _ (by simp)]
              have hagain := hs.chain (.rounds body 0 (some most) eager)
                (fun _ => roundSteps body steps eager 0 (some most)) (ih (by simp))
              exact (hagain.addStop eager).of_mem_iff fun b => Branch.mem_once

/-- Where no way leads back, plain recursion lists the language. -/
theorem lists_plainBranches (place : Place) {r : Regex} (h : r.mayCircle = false) :
    Lists place (r.plainBranches place) r.language := by
  induction r with
  | empty => exact .accept
  | set chars => 
      have h := @Lists.consume place chars empty
      simpa [plainBranches, language] using h
  | look assertion => exact .look assertion
  | group _ body ih => exact ih h
  | cat a b iha ihb =>
      simp only [mayCircle, Bool.or_eq_false_iff] at h
      exact (iha h.1).chain b _ (ihb h.2)
  | alt a b iha ihb =>
      simp only [mayCircle, Bool.or_eq_false_iff] at h
      exact ((iha h.1).add (ihb h.2)).of_mem_iff fun b => Branch.mem_once
  | rounds body least most eager ih =>
      simp only [mayCircle, Bool.or_eq_false_iff] at h
      refine lists_roundSteps (ih h.2) eager least most ?_
      rintro rfl hmem
      have hcontent : body.hasContent = true := by simpa using h.1
      exact ne_nil_of_hasContent hcontent ((ih h.2).accept_mem_iff.mp hmem) rfl

end ControlSearch.Regex
