import ControlSearch.Pattern
import ControlSearch.Regex.Occurrence
import ControlSearch.Span

/-!
# Queries

Where a pattern occurs in a text, and how tightly. All offsets and counts are in bytes. A text
that is shorter than the shortest accepted one is never searched.
-/
namespace ControlSearch.Pattern

variable (p : Pattern)

/-- Whether a number of bytes is too small for anything that is accepted. -/
def isTooShort (size : Nat) : Bool :=
  match p.minSize? with
  | none => true
  | some least => size < least

/-- Whether the text as a whole is accepted. -/
def accepts (t : Text) : Bool :=
  match p.matcher with
  | .everything => true
  | .word w => t == w
  | .automaton r => !p.isTooShort t.size && (r.ends ⟨0, none, t⟩).contains t.size

/-- Whether an occurrence ends at the end of the text. -/
def endsText (t : Text) : Bool :=
  if t.isEmpty then false
  else match p.matcher with
    | .everything => false
    | .word w => w.isSuffixOf t
    | .automaton r =>
      !p.isTooShort t.size && (r.occurrences t).any fun o =>
        !p.isTooShort (t.size - o.start) && o.longestStop == t.size

/-- The shortest match at a start. -/
def shortest (o : Regex.Occurrence) : Span := .range o.start o.shortestStop

/-- The longest match at a start. -/
def longest (o : Regex.Occurrence) : Span := .range o.start o.longestStop

/-- The leftmost occurrence that starts at an offset or behind it, shortest at its start. -/
def firstFrom (t : Text) (start : Nat) : Span :=
  if t.isEmpty || start > t.size then .notFound
  else match p.matcher with
    | .everything => .notFound
    | .word w => .ofPlace w.size (((t.drop? start).bind (·.find? w)).map (start + ·))
    | .automaton r =>
      if p.isTooShort (t.size - start) then .notFound
      else (((r.occurrences t).find? (start ≤ ·.start)).map shortest).getD .notFound

/-- The leftmost occurrence, shortest at its start. -/
def first (t : Text) : Span := p.firstFrom t 0

/-- The occurrence with the rightmost start, shortest at its start. -/
def lastShortest (t : Text) : Span :=
  if t.isEmpty || p.isTooShort t.size then .notFound
  else match p.matcher with
    | .everything => .notFound
    | .word w => .ofPlace w.size (t.findLast? w)
    | .automaton r => ((r.occurrences t).getLast?.map shortest).getD .notFound

/-- The occurrence with the rightmost start in front of the end, longest at its start. -/
def lastLongest (t : Text) : Span :=
  if t.isEmpty || p.isTooShort t.size then .notFound
  else match p.matcher with
    | .everything => .notFound
    | .word w => .ofPlace w.size (t.findLast? w)
    | .automaton r =>
      (((r.occurrences t).filter (·.start < t.size)).getLast?.map longest).getD .notFound

/-- The bytes in front of the last occurrence, taken as long as possible. -/
def sizeBeforeLast? (t : Text) : Option Nat :=
  if t.isEmpty then none
  else if p.isEverything then some 0 else (p.lastLongest t).start?

/-- The bytes in front of the last occurrence, taken as short as possible. -/
def sizeBeforeLastShortest? (t : Text) : Option Nat :=
  if t.isEmpty then none
  else if p.isEverything then some 0 else (p.lastShortest t).start?

/-- The bytes behind the last occurrence, taken as long as possible. -/
def sizeAfterLast? (t : Text) : Option Nat :=
  if p.isEverything then some t.size else (p.lastLongest t).stop?.map (t.size - ·)

/-- The bytes behind the last occurrence, taken as short as possible. -/
def sizeAfterLastShortest? (t : Text) : Option Nat :=
  if p.isEverything then some t.size else (p.lastShortest t).stop?.map (t.size - ·)

/-- The bytes outside the widest occurrence: none for a text that is accepted as a whole. -/
def surroundingSize? (t : Text) : Option Nat :=
  match p.matcher with
  | .everything => some 0
  | .word w => if t.isEmpty || !t.includes w then none else some (t.size - w.size)
  | .automaton r =>
    if p.isTooShort t.size then none
    else ((r.occurrences t).map fun o => o.longestStop - o.start).max?.map (t.size - ·)

end ControlSearch.Pattern
