import ControlSearch.Text

/-!
# Numerals

Numbers written with digits of a base up to sixteen, and the division of a text at a
separator.
-/
namespace ControlSearch.Text

/-- The value of a digit, letters of either case standing for ten and more. -/
def digitValue? (base : Nat) (c : Char) : Option Nat :=
  let value? : Option Nat :=
    if '0' ≤ c ∧ c ≤ '9' then some (c.toNat - '0'.toNat)
    else if 'a' ≤ c ∧ c ≤ 'f' then some (c.toNat - 'a'.toNat + 10)
    else if 'A' ≤ c ∧ c ≤ 'F' then some (c.toNat - 'A'.toNat + 10)
    else none
  value?.bind fun v => if v < base then some v else none

/-- Whether a character is a digit of the base. -/
def isDigitOf (base : Nat) (c : Char) : Bool := (digitValue? base c).isSome

/-- Reads digits, the most significant first, behind a number read so far. -/
def continueNumber? (base : Nat) (sofar : Nat) : Text → Option Nat
  | [] => some sofar
  | c :: rest => (digitValue? base c).bind fun v =>
    continueNumber? base (sofar * base + v) rest

/-- Reads a numeral of one digit or more; anything else in it spoils it. -/
def number? (base : Nat) : Text → Option Nat
  | [] => none
  | t => continueNumber? base 0 t

/-- Divides a text at every occurrence of a separating character. -/
def splitAll (separator : Char) : Text → List Text
  | [] => [[]]
  | c :: rest =>
    if c = separator then [] :: splitAll separator rest
    else match splitAll separator rest with
      | [] => [[c]]
      | part :: parts => (c :: part) :: parts

/-- The parts of a text between its blanks. -/
def words (t : Text) : List Text :=
  (splitAll ' ' (t.map fun c => if isBlank c then ' ' else c)).filter (!·.isEmpty)

end ControlSearch.Text
