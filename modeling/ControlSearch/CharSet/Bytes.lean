import ControlSearch.CharSet

/-!
# Sets of characters as sets of byte sequences

The UTF-8 forms of the members of a set, as sequences of byte intervals. No two sequences of a
set share a member, and of two sequences the first intervals are equal or disjoint.
-/
namespace ControlSearch

/-- The forms of the numbers from `low` to `high` written as one byte with a marker and
`tails` continuation bytes, which hold six bits each. -/
def Interval.encodings (marker : Nat) : Nat → Nat → Nat → List (List Interval)
  | 0, low, high => [[⟨marker + low, marker + high⟩]]
  | tails + 1, low, high =>
    let unit := 1 <<< (6 * (tails + 1))
    let below (digit low high : Nat) :=
      (encodings 0x80 tails low high).map (⟨marker + digit, marker + digit⟩ :: ·)
    let first := low / unit
    let last := high / unit
    if first = last then below first (low % unit) (high % unit)
    else
      let front := if low % unit = 0 then [] else below first (low % unit) (unit - 1)
      let back := if high % unit = unit - 1 then [] else below last 0 (high % unit)
      let first := if low % unit = 0 then first else first + 1
      let last := if high % unit = unit - 1 then last else last - 1
      let middle := if first ≤ last then
        [⟨marker + first, marker + last⟩ :: List.replicate (tails + 1) ⟨0x80, 0xBF⟩] else []
      front ++ middle ++ back

/-- The code points that take equally many bytes: the first and the last of them, the marker
of the first byte, and the number of continuation bytes. -/
def Interval.ranges : List (Nat × Nat × Nat × Nat) :=
  [(0, 0x7F, 0, 0), (0x80, 0x7FF, 0xC0, 1), (0x800, 0xFFFF, 0xE0, 2),
    (0x10000, 0x10FFFF, 0xF0, 3)]

/-- The UTF-8 forms of an interval of code points. -/
def Interval.utf8 (r : Interval) : List (List Interval) :=
  ranges.flatMap fun (first, last, marker, tails) =>
    if max r.first first ≤ min r.last last then
      encodings marker tails (max r.first first) (min r.last last)
    else []

/-- The UTF-8 forms of the members. -/
def CharSet.utf8 (s : CharSet) : List (List Interval) := s.intervals.flatMap Interval.utf8

end ControlSearch
