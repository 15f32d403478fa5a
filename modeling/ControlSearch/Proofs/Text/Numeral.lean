import Mathlib.Data.Nat.Digits.Defs
import ControlSearch.Text.Numeral

/-!
# Numerals read back

The decimal numeral of a number is made of digits, does not begin with a needless zero, and is
read as the number again. A reader that takes characters of some kind takes a text of that
kind and stops at what is behind it.
-/
namespace ControlSearch.Text

variable {n : Nat} {c : Char} {t rest : Text} {kind : Char → Bool}

/-- A character of some kind is none that is not of the kind. -/
theorem ne_of_kind (h : kind c = true) {d : Char} (hd : kind d = false) : c ≠ d := by
  rintro rfl
  rw [h] at hd
  cases hd

/-- What is behind a text of some kind does not go on with that kind. -/
def StopsAt (kind : Char → Bool) (rest : Text) : Prop := ∀ c ∈ rest.head?, kind c = false

theorem stopsAt_cons : StopsAt kind (c :: rest) ↔ kind c = false := by simp [StopsAt]

theorem takeWhile_append_of_stopsAt (h : ∀ c ∈ t, kind c = true) (hrest : StopsAt kind rest) :
    (t ++ rest).takeWhile kind = t := by
  rw [List.takeWhile_append_of_pos h]
  cases rest with
  | nil => simp
  | cons c rest => simp [stopsAt_cons.mp hrest]

theorem dropWhile_append_of_stopsAt (h : ∀ c ∈ t, kind c = true) (hrest : StopsAt kind rest) :
    (t ++ rest).dropWhile kind = rest := by
  rw [List.dropWhile_append_of_pos h]
  cases rest with
  | nil => rfl
  | cons c rest => simp [stopsAt_cons.mp hrest]

/-! ## Digits -/

theorem ofNat_eq_toDigits (n : Nat) : ofNat n = Nat.toDigits 10 n := by simp [ofNat, Nat.repr]

theorem isDigit_of_mem_ofNat (h : c ∈ ofNat n) : c.isDigit = true := by
  rw [ofNat_eq_toDigits] at h
  exact Nat.isDigit_of_mem_toDigits (by decide) (by decide) h

theorem ofNat_ne_nil (n : Nat) : ofNat n ≠ [] := by
  rw [ofNat_eq_toDigits]
  exact Nat.toDigits_ne_nil

/-- A numeral begins with a digit. -/
theorem exists_ofNat_eq_cons (n : Nat) : ∃ d ds, ofNat n = d :: ds ∧ d.isDigit = true := by
  obtain ⟨d, ds, h⟩ := List.exists_cons_of_ne_nil (ofNat_ne_nil n)
  exact ⟨d, ds, h, isDigit_of_mem_ofNat (h ▸ List.mem_cons_self)⟩

/-- Only the numeral of zero begins with a zero. -/
theorem eq_zero_of_head?_ofNat (h : (ofNat n).head? = some '0') : n = 0 := by
  rw [ofNat_eq_toDigits] at h
  induction n using Nat.strongRecOn with
  | ind n ih =>
      by_cases hlt : n < 10
      · rw [Nat.toDigits_of_lt_base hlt, List.head?_cons, Option.some_inj] at h
        have hn := Nat.toNat_digitChar_sub_48_of_lt_ten hlt
        rw [h] at hn
        exact hn.symm
      · rw [Nat.toDigits_of_base_le (by decide) (by omega)] at h
        have hdiv : n / 10 = 0 := by
          refine ih (n / 10) (by omega) ?_
          rwa [List.head?_append, Option.or_of_isSome] at h
          exact List.isSome_head?.mpr Nat.toDigits_ne_nil
        omega

theorem digitValue?_of_isDigit (h : c.isDigit = true) :
    digitValue? 10 c = some (c.toNat - '0'.toNat) := by
  have hrange := Char.isDigit_iff_toNat.mp h
  have hdigit : '0' ≤ c ∧ c ≤ '9' := by
    rw [Char.isDigit, Bool.and_eq_true, decide_eq_true_eq, decide_eq_true_eq] at h
    exact h
  have hlt : c.toNat - '0'.toNat < 10 := by
    have hnine : '9'.toNat = '0'.toNat + 9 := rfl
    omega
  simp only [digitValue?, hdigit, and_self, if_true, Option.bind_some, if_pos hlt]

theorem isDigitOf_ten (h : c.isDigit = true) : isDigitOf 10 c = true := by
  rw [isDigitOf, digitValue?_of_isDigit h]
  rfl

theorem continueNumber?_of_isDigit {sofar : Nat} (h : ∀ c ∈ t, c.isDigit = true) :
    continueNumber? 10 sofar t = some (Nat.ofDigitChars 10 t sofar) := by
  induction t generalizing sofar with
  | nil => rfl
  | cons c t ih =>
      obtain ⟨hc, ht⟩ := List.forall_mem_cons.mp h
      rw [continueNumber?, digitValue?_of_isDigit hc, Option.bind_some, ih ht,
        Nat.ofDigitChars_cons, Nat.mul_comm]

theorem continueNumber?_eq_none {base sofar : Nat} (hmem : c ∈ t)
    (hc : digitValue? base c = none) :
    continueNumber? base sofar t = none := by
  induction t generalizing sofar with
  | nil => cases hmem
  | cons d t ih =>
      rw [continueNumber?]
      rcases List.mem_cons.mp hmem with rfl | hmem
      · rw [hc, Option.bind_none]
      · cases digitValue? base d with
        | none => rfl
        | some v => exact ih hmem

/-- A numeral is spoilt by anything else in it. -/
theorem number?_eq_none {base : Nat} (hmem : c ∈ t) (hc : digitValue? base c = none) :
    number? base t = none := by
  obtain ⟨d, ds, rfl⟩ := List.exists_cons_of_ne_nil (List.ne_nil_of_mem hmem)
  exact continueNumber?_eq_none hmem hc

/-- A numeral is read as its number. -/
theorem number?_ofNat (n : Nat) : number? 10 (ofNat n) = some n := by
  obtain ⟨d, ds, h, -⟩ := exists_ofNat_eq_cons n
  have hdigits : ∀ c ∈ d :: ds, c.isDigit = true := fun c hc => isDigit_of_mem_ofNat (h ▸ hc)
  rw [h, number?, continueNumber?_of_isDigit hdigits, ← h, ofNat_eq_toDigits,
    Nat.ofDigitChars_ten_toDigits]
  simp

/-- Two hexadecimal digits behind two zeros are read as the number that they stand for. -/
theorem number?_two_digits {high low : Char} (hhigh : digitValue? 16 high = some (n / 16))
    (hlow : digitValue? 16 low = some (n % 16)) :
    number? 16 ['0', '0', high, low] = some n := by
  have hzero : digitValue? 16 '0' = some 0 := by decide
  simp only [number?, continueNumber?, hzero, hhigh, hlow, Option.bind_some]
  congr 1
  omega

end ControlSearch.Text
