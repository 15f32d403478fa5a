import ControlSearch.Text.Numeral

/-!
# Sets of characters

A set of characters is held as intervals of code points in ascending order, no two of them
touching. No set holds a surrogate, so the complement of a set is a set again.
-/
namespace ControlSearch

/-- The code points from `first` to `last`. -/
structure Interval where
  first : Nat
  last : Nat
  deriving DecidableEq, Repr, Hashable, Inhabited

namespace Interval

def contains (r : Interval) (n : Nat) : Bool := r.first ≤ n && n ≤ r.last

/-- The parts of an interval on either side of the surrogates. -/
def scalars (r : Interval) : List Interval :=
  (if r.first ≤ min r.last 0xD7FF then [⟨r.first, min r.last 0xD7FF⟩] else []) ++
  (if max r.first 0xE000 ≤ min r.last 0x10FFFF then
    [⟨max r.first 0xE000, min r.last 0x10FFFF⟩] else [])

/-- Unites neighbours that overlap or touch in a list ordered by the first code point. -/
def unite : List Interval → List Interval
  | [] => []
  | [r] => [r]
  | r :: s :: rest =>
    if s.first ≤ r.last + 1 then unite (⟨r.first, max r.last s.last⟩ :: rest)
    else r :: unite (s :: rest)
  termination_by rs => rs.length

/-- The intervals between those of an ascending list, from a given code point on. -/
def gaps (start : Nat) : List Interval → List Interval
  | [] => if start ≤ 0x10FFFF then [⟨start, 0x10FFFF⟩] else []
  | r :: rest =>
    (if start < r.first then [⟨start, r.first - 1⟩] else []) ++ gaps (r.last + 1) rest

/-- Reads intervals written in hexadecimal and separated by blanks, as in `30-39 5F`. -/
def list (table : String) : List Interval :=
  (Text.words table.toList).filterMap fun entry =>
    match (Text.splitAll '-' entry).map (Text.number? 16) with
    | [some first] => some ⟨first, first⟩
    | [some first, some last] => some ⟨first, last⟩
    | _ => none

end Interval

/-- A set of characters. -/
structure CharSet where
  intervals : List Interval
  deriving DecidableEq, Repr, Hashable, Inhabited

namespace CharSet

/-- The characters whose code points lie in one of the intervals, which may come in any
order. -/
def ofIntervals (rs : List Interval) : CharSet :=
  ⟨Interval.unite ((rs.flatMap Interval.scalars).mergeSort fun r s => r.first ≤ s.first)⟩

/-- The characters of a table of intervals. -/
def ofTable (table : String) : CharSet := ofIntervals (Interval.list table)

def empty : CharSet := ⟨[]⟩

/-- Every character. -/
def all : CharSet := ⟨[⟨0, 0xD7FF⟩, ⟨0xE000, 0x10FFFF⟩]⟩

def singleton (c : Char) : CharSet := ⟨[⟨c.toNat, c.toNat⟩]⟩

def contains (s : CharSet) (c : Char) : Bool := s.intervals.any (·.contains c.toNat)

def isEmpty (s : CharSet) : Bool := s.intervals.isEmpty

/-- Whether the set has exactly one member. -/
def isSingleton (s : CharSet) : Bool :=
  match s.intervals with
  | [r] => r.first == r.last
  | _ => false

def union (s t : CharSet) : CharSet := ofIntervals (s.intervals ++ t.intervals)

/-- The characters outside the set. -/
def complement (s : CharSet) : CharSet := ofIntervals (Interval.gaps 0 s.intervals)

def intersection (s t : CharSet) : CharSet := (s.complement.union t.complement).complement

def difference (s t : CharSet) : CharSet := s.intersection t.complement

def symmetricDifference (s t : CharSet) : CharSet := (s.difference t).union (t.difference s)

/-- Whether every member is an ASCII character. -/
def isAscii (s : CharSet) : Bool := s.intervals.all (·.last < 0x80)

/-- The number of bytes of a code point in UTF-8. -/
def width (n : Nat) : Nat :=
  if n < 0x80 then 1 else if n < 0x800 then 2 else if n < 0x10000 then 3 else 4

/-- The least number of bytes of a member. -/
def minSize? (s : CharSet) : Option Nat := s.intervals.head?.map fun r => width r.first

@[simp] theorem contains_empty (c : Char) : empty.contains c = false := rfl

theorem contains_singleton (a c : Char) : (singleton a).contains c = true ↔ c = a := by
  simp only [contains, singleton, List.any_cons, List.any_nil, Bool.or_false,
    Interval.contains, Bool.and_eq_true, decide_eq_true_eq]
  constructor
  · intro h
    have : c.val = a.val := UInt32.toNat_inj.mp (Nat.le_antisymm h.2 h.1)
    exact Char.ext this
  · rintro rfl
    exact ⟨Nat.le_refl _, Nat.le_refl _⟩

theorem contains_all (c : Char) : all.contains c = true := by
  have valid := c.valid
  simp only [contains, all, List.any_cons, List.any_nil, Bool.or_false, Interval.contains,
    Bool.and_eq_true, Bool.or_eq_true, decide_eq_true_eq]
  rcases valid with h | ⟨h, h'⟩
  · left
    exact ⟨Nat.zero_le _, by simp only [Char.toNat] at *; omega⟩
  · right
    exact ⟨by simp only [Char.toNat] at *; omega, by simp only [Char.toNat] at *; omega⟩

end CharSet
end ControlSearch
