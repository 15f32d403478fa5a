import Mathlib.Algebra.BigOperators.Ring.List
import ControlSearch.Proofs.Text.Boundary
import ControlSearch.Regex.Simplify

/-!
# The languages of expressions

What an expression accepts, whatever it prefers. Assertions look at the characters next to a
place, so a language says of a text and its two neighbours whether the text is accepted
between them. Languages form a semiring: alternatives are sums, sequences are products, and
rounds are powers.
-/
namespace ControlSearch.Regex

/-- Which texts are accepted, given the characters in front of them and behind them. -/
def Language := Option Char → Text → Option Char → Prop

namespace Language

@[ext] theorem ext {L M : Language} (h : ∀ last t next, L last t next ↔ M last t next) :
    L = M :=
  funext fun last => funext fun t => funext fun next => propext (h last t next)

instance : Zero Language := ⟨fun _ _ _ => False⟩

instance : One Language := ⟨fun _ t _ => t = []⟩

instance : Add Language := ⟨fun L M last t next => L last t next ∨ M last t next⟩

/-- One text behind another. The neighbour of the one is the nearest character of the other,
or what lies beyond it if the other is empty. -/
instance : Mul Language := ⟨fun L M last t next =>
  ∃ u v, t = u ++ v ∧ L last u (v.head?.or next) ∧ M (u.getLast?.or last) v next⟩

variable {L M : Language} {last next : Option Char} {t : Text}

@[simp] theorem zero_iff : (0 : Language) last t next ↔ False := Iff.rfl

@[simp] theorem one_iff : (1 : Language) last t next ↔ t = [] := Iff.rfl

@[simp] theorem add_iff : (L + M) last t next ↔ L last t next ∨ M last t next := Iff.rfl

theorem mul_iff : (L * M) last t next ↔
    ∃ u v, t = u ++ v ∧ L last u (v.head?.or next) ∧ M (u.getLast?.or last) v next := Iff.rfl

theorem mul_assoc' (L M N : Language) : L * M * N = L * (M * N) := by
  ext last t next
  simp only [mul_iff]
  constructor
  · intro h
    rcases h with ⟨_, w, rfl, ⟨u, v, rfl, hu, hv⟩, hw⟩
    refine ⟨u, v ++ w, List.append_assoc .., ?_, v, w, rfl, hv, ?_⟩
    · rwa [Text.head?_append_or]
    · rwa [List.getLast?_append, Option.or_assoc] at hw
  · intro h
    rcases h with ⟨u, _, rfl, hu, v, w, rfl, hv, hw⟩
    refine ⟨u ++ v, w, (List.append_assoc ..).symm, ⟨u, v, rfl, ?_, hv⟩, ?_⟩
    · rwa [Text.head?_append_or] at hu
    · rwa [List.getLast?_append, Option.or_assoc]

instance : Semiring Language where
  add_assoc L M N := by ext; simp only [add_iff, or_assoc]
  zero_add L := by ext; simp
  add_zero L := by ext; simp
  add_comm L M := by ext; simp only [add_iff, or_comm]
  mul_assoc := mul_assoc'
  one_mul L := by ext; simp [mul_iff]
  mul_one L := by ext; simp [mul_iff]
  zero_mul L := by ext; simp [mul_iff]
  mul_zero L := by ext; simp [mul_iff]
  left_distrib L M N := by ext; simp only [mul_iff, add_iff, ← exists_or, ← and_or_left]
  right_distrib L M N := by
    ext
    simp only [mul_iff, add_iff, ← exists_or, or_and_right, ← and_or_left]
  nsmul := nsmulRec
  npow := npowRec

/-- A sum accepts what one of its terms accepts. -/
theorem sum_iff {Ls : List Language} : Ls.sum last t next ↔ ∃ L ∈ Ls, L last t next := by
  induction Ls with
  | nil => simp
  | cons L Ls ih => simp [ih]

/-- One character of a set. -/
def char (chars : CharSet) : Language := fun _ t _ => ∃ c, chars.contains c = true ∧ t = [c]

theorem char_iff {chars : CharSet} :
    char chars last t next ↔ ∃ c, chars.contains c = true ∧ t = [c] := Iff.rfl

/-- A character of a set in front of something else. -/
theorem char_mul_iff {chars : CharSet} : (char chars * L) last t next ↔
    ∃ c u, t = c :: u ∧ chars.contains c = true ∧ L (some c) u next := by
  simp only [mul_iff, char_iff]
  constructor
  · intro h
    rcases h with ⟨_, v, rfl, ⟨c, hc, rfl⟩, hv⟩
    exact ⟨c, v, rfl, hc, by simpa using hv⟩
  · intro h
    rcases h with ⟨c, u, rfl, hc, hu⟩
    exact ⟨[c], u, rfl, ⟨c, hc, rfl⟩, by simpa using hu⟩

/-- The empty text, at a place where an assertion holds. -/
def look (assertion : Look) : Language :=
  fun last t next => t = [] ∧ assertion.holds ⟨last, next⟩

/-- At least `least` rounds and, unless there is no bound, at most `most`. A bound below
`least` has no effect. -/
def rounds (L : Language) (least : Nat) (most : Option Nat) : Language := fun last t next =>
  ∃ n, least ≤ n ∧ (∀ m ∈ most, n ≤ max least m) ∧ (L ^ n) last t next

theorem rounds_iff {least : Nat} {most : Option Nat} : L.rounds least most last t next ↔
    ∃ n, least ≤ n ∧ (∀ m ∈ most, n ≤ max least m) ∧ (L ^ n) last t next := Iff.rfl

/-- A required round comes in front of the remaining ones. -/
theorem rounds_succ (L : Language) (least : Nat) (most : Option Nat) :
    L.rounds (least + 1) most = L * L.rounds least (most.map (· - 1)) := by
  ext last t next
  constructor
  · intro h'
    rcases h' with ⟨n, hn, hm, h⟩
    obtain ⟨n, rfl⟩ := Nat.exists_eq_add_of_le' (Nat.le_of_add_left_le hn)
    rw [pow_succ'] at h
    obtain ⟨u, v, rfl, hu, hv⟩ := h
    refine ⟨u, v, rfl, hu, n, by omega, ?_, hv⟩
    rintro m hm'
    obtain ⟨k, hk, rfl⟩ := Option.map_eq_some_iff.mp hm'
    have := hm k hk
    omega
  · intro h'
    rcases h' with ⟨u, v, rfl, hu, n, hn, hm, hv⟩
    refine ⟨n + 1, by omega, ?_, by rw [pow_succ']; exact ⟨u, v, rfl, hu, hv⟩⟩
    intro k hk
    have := hm (k - 1) (Option.map_eq_some_iff.mpr ⟨k, hk, rfl⟩)
    omega

/-- Where no round is required, there is none, or one in front of the remaining ones. -/
theorem rounds_zero (L : Language) {most : Option Nat} (h : most ≠ some 0) :
    L.rounds 0 most = 1 + L * L.rounds 0 (most.map (· - 1)) := by
  ext last t next
  constructor
  · intro h'
    rcases h' with ⟨n, -, hm, h⟩
    cases n with
    | zero => exact .inl (by simpa using h)
    | succ n =>
        rw [pow_succ'] at h
        obtain ⟨u, v, rfl, hu, hv⟩ := h
        refine .inr ⟨u, v, rfl, hu, n, Nat.zero_le _, ?_, hv⟩
        intro m hm'
        obtain ⟨k, hk, rfl⟩ := Option.map_eq_some_iff.mp hm'
        have := hm k hk
        omega
  · intro h'
    rcases h' with h | ⟨u, v, rfl, hu, n, -, hm, hv⟩
    · exact ⟨0, Nat.le_refl _, by simp, by simpa using h⟩
    · refine ⟨n + 1, Nat.zero_le _, ?_, by rw [pow_succ']; exact ⟨u, v, rfl, hu, hv⟩⟩
      intro k hk
      have hk0 : k ≠ 0 := by
        intro h'
        subst h'
        exact h (Option.mem_def.mp hk)
      have := hm (k - 1) (Option.map_eq_some_iff.mpr ⟨k, hk, rfl⟩)
      omega

@[simp] theorem rounds_zero_zero (L : Language) : L.rounds 0 (some 0) = 1 := by
  ext last t next
  constructor
  · intro h'
    rcases h' with ⟨n, -, hm, h⟩
    have hn : n = 0 := by simpa using hm
    subst hn
    simpa using h
  · intro h
    exact ⟨0, Nat.le_refl _, by simp, by simpa using h⟩

end Language

/-! ## Expressions -/

/-- What an expression accepts. -/
def language : Regex → Language
  | empty => 1
  | set chars => .char chars
  | look assertion => .look assertion
  | cat a b => a.language * b.language
  | alt a b => a.language + b.language
  | rounds body least most _ => body.language.rounds least most
  | group _ body => body.language

@[simp] theorem language_andThen (r second : Regex) :
    (r.andThen second).language = r.language * second.language := by
  cases r <;> simp [andThen, language]

end ControlSearch.Regex
