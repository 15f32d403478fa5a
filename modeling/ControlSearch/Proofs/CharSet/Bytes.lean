import Mathlib.Data.List.Forall2
import Mathlib.Tactic.NormNum
import ControlSearch.CharSet.Bytes
import ControlSearch.Proofs.CharSet.Membership

/-!
# The bytes of the members of a set

The UTF-8 forms of a set spell the bytes of its members, and the bytes of no other character.
The first byte of a character tells how many are to follow, so all forms that begin with it
are as long as the character.
-/
namespace ControlSearch

namespace Interval

/-- Whether one of several forms spells some bytes. -/
def Spells (forms : List (List Interval)) (bytes : List Nat) : Prop :=
  ∃ form ∈ forms, List.Forall₂ (fun r b => r.contains b = true) form bytes

variable {forms : List (List Interval)} {bytes : List Nat} {marker tails low high m n b : Nat}

@[simp] theorem not_spells_nil (bytes : List Nat) : ¬Spells [] bytes := by simp [Spells]

theorem spells_append {forms' : List (List Interval)} :
    Spells (forms ++ forms') bytes ↔ Spells forms bytes ∨ Spells forms' bytes := by
  simp only [Spells, List.mem_append, or_and_right, exists_or]

theorem spells_flatMap {α : Type} {f : α → List (List Interval)} {xs : List α} :
    Spells (xs.flatMap f) bytes ↔ ∃ x ∈ xs, Spells (f x) bytes := by
  simp only [Spells, List.mem_flatMap]
  constructor
  · rintro ⟨form, ⟨x, hx, hform⟩, hbytes⟩
    exact ⟨x, hx, form, hform, hbytes⟩
  · rintro ⟨x, hx, form, hform, hbytes⟩
    exact ⟨form, ⟨x, hx, hform⟩, hbytes⟩

theorem spells_if {c : Prop} [Decidable c] :
    Spells (if c then forms else []) bytes ↔ c ∧ Spells forms bytes := by
  split <;> simp_all

theorem spells_if_not {c : Prop} [Decidable c] :
    Spells (if c then [] else forms) bytes ↔ ¬c ∧ Spells forms bytes := by
  split <;> simp_all

theorem spells_map_cons {r : Interval} :
    Spells (forms.map (r :: ·)) (b :: bytes) ↔ r.contains b = true ∧ Spells forms bytes := by
  simp only [Spells, List.mem_map]
  constructor
  · rintro ⟨_, ⟨form, hform, rfl⟩, hbytes⟩
    obtain ⟨hb, hbytes⟩ := List.forall₂_cons.mp hbytes
    exact ⟨hb, form, hform, hbytes⟩
  · rintro ⟨hb, form, hform, hbytes⟩
    exact ⟨_, ⟨form, hform, rfl⟩, .cons hb hbytes⟩

theorem contains_iff {r : Interval} : r.contains n = true ↔ r.first ≤ n ∧ n ≤ r.last := by
  simp [contains]

theorem contains_mk {first last : Nat} :
    (Interval.mk first last).contains n = true ↔ first ≤ n ∧ n ≤ last := by
  simp [contains]

/-! ## Digits -/

/-- The bytes of a number behind a marker. All but the first hold six bits each. -/
def digits (marker : Nat) : Nat → Nat → List Nat
  | 0, n => [marker + n]
  | tails + 1, n =>
    (marker + n / 64 ^ (tails + 1)) :: digits 0x80 tails (n % 64 ^ (tails + 1))

theorem length_digits (marker tails n : Nat) :
    (digits marker tails n).length = tails + 1 := by
  induction tails generalizing marker n with
  | zero => rfl
  | succ tails ih => rw [digits, List.length_cons, ih]

theorem head_digits (marker tails n : Nat) :
    ∃ rest, digits marker tails n = (marker + n / 64 ^ tails) :: rest := by
  cases tails with
  | zero => exact ⟨[], by simp [digits]⟩
  | succ tails => exact ⟨_, rfl⟩

theorem le_of_mem_digits (h : b ∈ digits marker tails n) : min marker 0x80 ≤ b := by
  induction tails generalizing marker n with
  | zero =>
      obtain rfl := List.mem_singleton.mp h
      exact (Nat.min_le_left _ _).trans (Nat.le_add_right _ _)
  | succ tails ih =>
      rcases List.mem_cons.mp h with rfl | hb
      · exact (Nat.min_le_left _ _).trans (Nat.le_add_right _ _)
      · exact (Nat.min_le_right _ _).trans (ih hb)

/-- Every continuation byte is one of sixty-four. -/
theorem spells_replicate (h : m < 64 ^ (tails + 1)) :
    Spells [List.replicate (tails + 1) ⟨0x80, 0xBF⟩] (digits 0x80 tails m) := by
  refine ⟨_, List.mem_singleton_self _, ?_⟩
  induction tails generalizing m with
  | zero =>
      refine .cons (contains_mk.mpr ⟨Nat.le_add_right _ _, ?_⟩) .nil
      rw [zero_add, pow_one] at h
      omega
  | succ tails ih =>
      have hpos : 0 < 64 ^ (tails + 1) := Nat.pow_pos (by decide)
      have hdigit : m / 64 ^ (tails + 1) < 64 := by
        rw [Nat.div_lt_iff_lt_mul hpos, ← pow_succ']
        exact h
      refine .cons (contains_mk.mpr ⟨Nat.le_add_right _ _, ?_⟩) (ih (Nat.mod_lt _ hpos))
      omega

/-- Numbers are compared by their first digits, then by what is left. -/
theorem le_iff_div_mod (unit : Nat) (m n : Nat) :
    m ≤ n ↔ m / unit < n / unit ∨ (m / unit = n / unit ∧ m % unit ≤ n % unit) := by
  constructor
  · intro h
    rcases Nat.lt_or_eq_of_le (Nat.div_le_div_right (c := unit) h) with hlt | heq
    · exact .inl hlt
    · refine .inr ⟨heq, ?_⟩
      have hm := Nat.div_add_mod m unit
      have hn := Nat.div_add_mod n unit
      rw [heq] at hm
      omega
  · rintro (hlt | ⟨heq, hle⟩)
    · by_contra h
      have := Nat.div_le_div_right (c := unit) (Nat.le_of_lt (Nat.lt_of_not_le h))
      omega
    · have hm := Nat.div_add_mod m unit
      have hn := Nat.div_add_mod n unit
      rw [heq] at hm
      omega

/-! ## The forms of an interval -/

theorem unit_eq (tails : Nat) : 1 <<< (6 * (tails + 1)) = 64 ^ (tails + 1) := by
  rw [Nat.one_shiftLeft, pow_mul]
  norm_num

/-- The forms of the numbers with one first digit. -/
theorem spells_below {digit q : Nat} :
    Spells (forms.map (⟨marker + digit, marker + digit⟩ :: ·)) ((marker + q) :: bytes) ↔
      q = digit ∧ Spells forms bytes := by
  rw [spells_map_cons, contains_mk]
  constructor
  · rintro ⟨⟨h, h'⟩, hbytes⟩
    exact ⟨by omega, hbytes⟩
  · rintro ⟨rfl, hbytes⟩
    exact ⟨⟨Nat.le_refl _, Nat.le_refl _⟩, hbytes⟩

/-- The form of the numbers with several first digits and anything behind them. -/
theorem spells_middle {first last q : Nat} (h : m < 64 ^ (tails + 1)) :
    Spells [⟨marker + first, marker + last⟩ :: List.replicate (tails + 1) ⟨0x80, 0xBF⟩]
        ((marker + q) :: digits 0x80 tails m) ↔ first ≤ q ∧ q ≤ last := by
  have hmap :=
    @spells_map_cons [List.replicate (tails + 1) ⟨0x80, 0xBF⟩] (digits 0x80 tails m)
      (marker + q) ⟨marker + first, marker + last⟩
  rw [List.map_singleton] at hmap
  rw [hmap, contains_mk]
  simp only [spells_replicate h, and_true, Nat.add_le_add_iff_left]

/-- Encoded numbers spell the numbers between two bounds. -/
theorem spells_encodings (hle : low ≤ high) :
    Spells (encodings marker tails low high) (digits marker tails n) ↔
      low ≤ n ∧ n ≤ high := by
  induction tails generalizing marker low high n with
  | zero =>
      simp only [encodings, digits, Spells, List.mem_singleton, exists_eq_left,
        List.forall₂_cons, List.forall₂_nil_left_iff, and_true, contains_mk]
      omega
  | succ tails ih =>
      have hpos : 0 < 64 ^ (tails + 1) := Nat.pow_pos (by decide)
      rw [le_iff_div_mod (64 ^ (tails + 1)) low n, le_iff_div_mod (64 ^ (tails + 1)) n high]
      rw [le_iff_div_mod (64 ^ (tails + 1))] at hle
      have hl := Nat.mod_lt low hpos
      have hn := Nat.mod_lt n hpos
      have hh := Nat.mod_lt high hpos
      have hmiddle (first last : Nat) :=
        @spells_middle marker tails _ first last (n / 64 ^ (tails + 1)) hn
      simp only [encodings, digits, unit_eq]
      generalize 64 ^ (tails + 1) = unit at *
      split
      · rename_i hfirst
        rw [spells_below, ih (by omega)]
        omega
      · rename_i hfirst
        rw [spells_append, spells_append, spells_if_not, spells_if_not,
          spells_if, spells_below, spells_below, ih (by omega), ih (by omega), hmiddle]
        generalize low / unit = first, high / unit = last, n / unit = digit at *
        split <;> split <;> omega

/-- A form of a number of several bytes either fixes the first digit, which is that of a
bound, or allows some first digits between those of the bounds and anything behind them. -/
theorem mem_encodings_succ {form : List Interval}
    (h : form ∈ encodings marker (tails + 1) low high) :
    (∃ digit a b rest, (digit = low / 64 ^ (tails + 1) ∨ digit = high / 64 ^ (tails + 1)) ∧
        rest ∈ encodings 0x80 tails a b ∧ form = ⟨marker + digit, marker + digit⟩ :: rest) ∨
      ∃ first last, low / 64 ^ (tails + 1) ≤ first ∧ last ≤ high / 64 ^ (tails + 1) ∧
        form = ⟨marker + first, marker + last⟩ ::
          List.replicate (tails + 1) ⟨0x80, 0xBF⟩ := by
  simp only [encodings, unit_eq] at h
  generalize 64 ^ (tails + 1) = unit at *
  generalize low / unit = lowest, high / unit = highest at *
  split at h
  · obtain ⟨rest, hrest, rfl⟩ := List.mem_map.mp h
    exact .inl ⟨_, _, _, rest, .inl rfl, hrest, rfl⟩
  · simp only [List.mem_append, List.mem_ite_nil_left, List.mem_ite_nil_right, List.mem_map,
      List.mem_singleton] at h
    rcases h with (⟨-, rest, hrest, rfl⟩ | ⟨-, rfl⟩) | ⟨-, rest, hrest, rfl⟩
    · exact .inl ⟨_, _, _, rest, .inl rfl, hrest, rfl⟩
    · refine .inr ⟨_, _, ?_, ?_, rfl⟩
      · split <;> omega
      · split <;> omega
    · exact .inl ⟨_, _, _, rest, .inr rfl, hrest, rfl⟩

theorem length_of_mem_encodings {form : List Interval}
    (h : form ∈ encodings marker tails low high) : form.length = tails + 1 := by
  induction tails generalizing marker low high form with
  | zero =>
      obtain rfl := List.mem_singleton.mp h
      rfl
  | succ tails ih =>
      rcases mem_encodings_succ h
        with ⟨digit, a, b, rest, -, hrest, rfl⟩ | ⟨first, last, -, -, rfl⟩
      · rw [List.length_cons, ih hrest]
      · rw [List.length_cons, List.length_replicate]

/-- The first bytes lie between those of the bounds. -/
theorem bounds_of_mem_encodings {r : Interval} {rest : List Interval} (hle : low ≤ high)
    (h : r :: rest ∈ encodings marker tails low high) :
    marker + low / 64 ^ tails ≤ r.first ∧ r.last ≤ marker + high / 64 ^ tails := by
  cases tails with
  | zero =>
      obtain ⟨rfl, -⟩ := List.cons.inj (List.mem_singleton.mp h)
      simp
  | succ tails =>
      have hdiv := Nat.div_le_div_right (c := 64 ^ (tails + 1)) hle
      rcases mem_encodings_succ h with ⟨digit, a, b, rest, hdigit, -, hform⟩ |
        ⟨first, last, hfirst, hlast, hform⟩
      · obtain ⟨rfl, -⟩ := List.cons.inj hform
        rcases hdigit with rfl | rfl
        · exact ⟨Nat.le_refl _, Nat.add_le_add_left hdiv _⟩
        · exact ⟨Nat.add_le_add_left hdiv _, Nat.le_refl _⟩
      · obtain ⟨rfl, -⟩ := List.cons.inj hform
        exact ⟨Nat.add_le_add_left hfirst _, Nat.add_le_add_left hlast _⟩

end Interval

/-! ## Characters -/

/-- The bytes of a character. -/
def charBytes (c : Char) : List Nat := (String.utf8EncodeChar c).map UInt8.toNat

theorem length_charBytes (c : Char) : (charBytes c).length = c.utf8Size := by
  rw [charBytes, List.length_map, String.length_utf8EncodeChar]

theorem toNat_le_max (c : Char) : c.toNat ≤ 0x10FFFF := by
  rcases c.valid with h | h <;> simp only [Char.toNat] at * <;> omega

namespace Interval

/-- A character is written as the digits of its code point, in one of four ranges. -/
theorem exists_range (c : Char) : ∃ first last marker tails,
    (first, last, marker, tails) ∈ ranges ∧ first ≤ c.toNat ∧ c.toNat ≤ last ∧
      charBytes c = digits marker tails c.toNat := by
  have hmax := toNat_le_max c
  have hval : c.val.toNat = c.toNat := rfl
  simp only [charBytes, String.utf8EncodeChar, hval]
  generalize c.toNat = n at *
  by_cases h1 : n ≤ 0x7F
  · refine ⟨0, 0x7F, 0, 0, by simp [ranges], Nat.zero_le _, h1, ?_⟩
    simp only [h1, if_true, digits, List.map_cons, List.map_nil, UInt8.toNat_ofNat',
      List.cons.injEq, and_true]
    omega
  · by_cases h2 : n ≤ 0x7FF
    · refine ⟨0x80, 0x7FF, 0xC0, 1, by simp [ranges], by omega, h2, ?_⟩
      simp only [h1, h2, if_true, if_false, digits, List.map_cons, List.map_nil,
        UInt8.toNat_ofNat', List.cons.injEq, and_true]
      omega
    · by_cases h3 : n ≤ 0xFFFF
      · refine ⟨0x800, 0xFFFF, 0xE0, 2, by simp [ranges], by omega, h3, ?_⟩
        simp only [h1, h2, h3, if_true, if_false, digits, List.map_cons, List.map_nil,
          UInt8.toNat_ofNat', List.cons.injEq, and_true]
        omega
      · refine ⟨0x10000, 0x10FFFF, 0xF0, 3, by simp [ranges], by omega, hmax, ?_⟩
        simp only [h1, h2, h3, if_false, digits, List.map_cons, List.map_nil,
          UInt8.toNat_ofNat', List.cons.injEq, and_true]
        omega

/-- The forms of an interval spell the bytes of the characters in it. -/
theorem spells_utf8_iff {r : Interval} {c : Char} :
    Spells r.utf8 (charBytes c) ↔ r.contains c.toNat = true := by
  obtain ⟨first, last, marker, tails, hrange, hfirst, hlast, hbytes⟩ := exists_range c
  have hunique : ∀ x ∈ ranges, ∀ y ∈ ranges, x.2.2.2 = y.2.2.2 → x = y := by decide
  rw [hbytes, utf8, spells_flatMap, contains_iff]
  constructor
  · rintro ⟨⟨first', last', marker', tails'⟩, hrange', h⟩
    obtain ⟨hle, h⟩ := spells_if.mp h
    obtain ⟨form, hform, hspells⟩ := h
    have hlength := hspells.length_eq
    rw [length_of_mem_encodings hform, length_digits] at hlength
    obtain ⟨rfl, rfl, rfl, rfl⟩ : first' = first ∧ last' = last ∧ marker' = marker ∧
        tails' = tails := by
      simpa using hunique _ hrange' _ hrange (by simpa using hlength)
    have hbounds := (spells_encodings hle).mp ⟨form, hform, hspells⟩
    omega
  · intro h
    have hle : max r.first first ≤ min r.last last := by omega
    exact ⟨_, hrange, spells_if.mpr ⟨hle, (spells_encodings hle).mpr (by omega)⟩⟩

/-- All forms that begin like a character are as long as the character. -/
theorem length_eq_of_first {r s : Interval} {rest : List Interval} {c : Char}
    {bytes : List Nat} (h : s :: rest ∈ r.utf8) (hbytes : charBytes c = b :: bytes)
    (hb : s.contains b = true) :
    rest.length = bytes.length := by
  obtain ⟨first, last, marker, tails, hrange, hfirst, hlast, hdigits⟩ := exists_range c
  obtain ⟨bytes', hhead⟩ := head_digits marker tails c.toNat
  have hlength := length_digits marker tails c.toNat
  rw [← hdigits, hbytes] at hhead hlength
  obtain ⟨rfl, -⟩ := List.cons.inj hhead
  obtain ⟨⟨first', last', marker', tails'⟩, hrange', h⟩ := List.mem_flatMap.mp h
  obtain ⟨hle, h⟩ := List.mem_ite_nil_right.mp h
  have hlength' := length_of_mem_encodings h
  obtain ⟨hlow, hhigh⟩ := bounds_of_mem_encodings hle h
  rw [contains_iff] at hb
  suffices htails : tails = tails' by
    simp only [List.length_cons] at hlength hlength'
    omega
  -- The first bytes of the four ranges do not meet.
  simp only [ranges, List.mem_cons, Prod.mk.injEq, List.not_mem_nil, or_false]
    at hrange hrange'
  rcases hrange with ⟨rfl, rfl, rfl, rfl⟩ | ⟨rfl, rfl, rfl, rfl⟩ | ⟨rfl, rfl, rfl, rfl⟩ |
      ⟨rfl, rfl, rfl, rfl⟩ <;>
    rcases hrange' with ⟨rfl, rfl, rfl, rfl⟩ | ⟨rfl, rfl, rfl, rfl⟩ | ⟨rfl, rfl, rfl, rfl⟩ |
      ⟨rfl, rfl, rfl, rfl⟩ <;>
    omega

/-- A character of ASCII is its only byte, and no byte of another character is one of
ASCII. -/
theorem mem_charBytes {c : Char} (h : b ∈ charBytes c) :
    b = c.toNat ∨ (0x80 ≤ c.toNat ∧ 0x80 ≤ b) := by
  obtain ⟨first, last, marker, tails, hrange, hfirst, hlast, hbytes⟩ := exists_range c
  rw [hbytes] at h
  have hle := le_of_mem_digits h
  simp only [ranges, List.mem_cons, Prod.mk.injEq, List.not_mem_nil, or_false] at hrange
  rcases hrange with ⟨rfl, rfl, rfl, rfl⟩ | ⟨rfl, rfl, rfl, rfl⟩ | ⟨rfl, rfl, rfl, rfl⟩ |
    ⟨rfl, rfl, rfl, rfl⟩
  · exact .inl ((List.mem_singleton.mp h).trans (Nat.zero_add _))
  all_goals exact .inr ⟨by omega, by omega⟩

end Interval

namespace CharSet

/-- The forms of a set spell the bytes of its members. -/
theorem spells_utf8_iff {s : CharSet} {c : Char} :
    Interval.Spells s.utf8 (charBytes c) ↔ s.contains c = true := by
  simp only [utf8, Interval.spells_flatMap, Interval.spells_utf8_iff, contains,
    List.any_eq_true]

theorem length_eq_of_first {s : CharSet} {r : Interval} {rest : List Interval}
    {c : Char} {b : Nat} {bytes : List Nat} (h : r :: rest ∈ s.utf8)
    (hbytes : charBytes c = b :: bytes) (hb : r.contains b = true) :
    rest.length = bytes.length := by
  obtain ⟨i, -, h⟩ := List.mem_flatMap.mp h
  exact Interval.length_eq_of_first h hbytes hb

end CharSet
end ControlSearch
