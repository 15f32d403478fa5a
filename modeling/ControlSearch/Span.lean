import ControlSearch.Error

/-!
# Spans

A span is the half-open range of bytes that a search found, or the mark of a search that found
nothing. The mark is a value of its own: no range equals it, and its ends cannot be moved.
-/
namespace ControlSearch

/-- The outcome of a search in a text. -/
inductive Span where
  /-- Nothing was found. -/
  | notFound
  /-- The bytes from `start` up to, and without, `stop`. -/
  | range (start stop : Nat)
  deriving DecidableEq, Repr, Hashable

namespace Span

def isFound : Span → Bool
  | notFound => false
  | range _ _ => true

def start? : Span → Option Nat
  | notFound => none
  | range start _ => some start

def stop? : Span → Option Nat
  | notFound => none
  | range _ stop => some stop

/-- The number of bytes, as a word of 64 bits: ends that were moved may be out of order. The
mark has none. -/
def size : Span → Nat
  | notFound => 0
  | range start stop => if start ≤ stop then stop - start else Nat.pow 2 64 - (start - stop)

def isEmpty : Span → Bool
  | notFound => true
  | range start stop => start == stop

/-- Moves the start of a range. -/
def setStart (offset : Nat) : Span → Except Error Span
  | notFound => throw (.frozenEnd "start")
  | range _ stop => pure (range offset stop)

/-- Moves the end of a range. -/
def setStop (offset : Nat) : Span → Except Error Span
  | notFound => throw (.frozenEnd "end")
  | range start _ => pure (range start offset)

def display : Span → String
  | notFound => "Span(NOT_FOUND)"
  | range start stop => s!"Span({start}, {stop})"

@[simp] theorem isFound_range (start stop : Nat) : (range start stop).isFound = true := rfl
@[simp] theorem isFound_notFound : notFound.isFound = false := rfl

/-- The range of a given size at the place that a search has found, if it has found one. -/
def ofPlace (size : Nat) : Option Nat → Span
  | none => notFound
  | some start => range start (start + size)

end Span
end ControlSearch
