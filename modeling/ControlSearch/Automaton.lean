import ControlSearch.Span
import ControlSearch.Text

/-!
# Automata that read bytes

An automaton reads the UTF-8 form of a text byte by byte, from a chosen offset on. It reports
a match one byte late: the state behind a byte says whether a match has ended in front of that
byte, and a last step, at the end of the text, whether one has ended there. Every search is a
scan from some boundary that is stopped at the first end or goes on to the last one. What a
scan comes upon are offsets of bytes, and nothing in it looks for characters.
-/
namespace ControlSearch

/-- The bytes of a text in UTF-8. -/
def Text.bytes (t : Text) : List UInt8 := t.flatMap String.utf8EncodeChar

/-- A deterministic automaton. -/
structure Automaton (σ : Type) where
  /-- The state in which a text is read from a place on, given the byte in front of the
  place. -/
  start? : Option UInt8 → Option σ
  /-- The state behind a byte. -/
  next : σ → UInt8 → σ
  /-- The state behind the end of the text. -/
  nextEnd : σ → σ
  /-- Whether a match has ended in front of what was read last. -/
  isMatch : σ → Bool
  /-- Whether no match can follow. -/
  isDead : σ → Bool
  /-- Whether the automaton has given up. -/
  isQuit : σ → Bool

namespace Automaton

variable {σ α : Type} (a : Automaton σ)

/-- Reads on from a state. Each end of a match is handed to `visit`, which says what has been
found so far and whether to read on; ends behind the limit are not looked for. -/
def scanFrom (limit : Nat) (visit : Nat → α → α × Bool) (s : σ) (offset : Nat) (found : α) :
    List UInt8 → α
  | [] => if a.isMatch (a.nextEnd s) then (visit offset found).1 else found
  | b :: rest =>
    let s := a.next s b
    let (found, goesOn) := if a.isMatch s then visit offset found else (found, true)
    if !goesOn || limit ≤ offset || a.isDead s || a.isQuit s then found
    else scanFrom limit visit s (offset + 1) found rest

/-- Reads a text from an offset on. -/
def scan (t : Text) (start limit : Nat) (visit : Nat → α → α × Bool) (found : α) : α :=
  match a.start? (t.bytes.take start).getLast? with
  | some s => a.scanFrom limit visit s start found (t.bytes.drop start)
  | none => found

/-- All ends that a scan comes upon. -/
def visited (t : Text) (start limit : Nat) : List Nat :=
  a.scan t start limit (fun stop stops => (stops ++ [stop], true)) []

/-- The end of the shortest match that starts at an offset and ends within a limit. -/
def shortestEnd? (t : Text) (start limit : Nat) : Option Nat :=
  a.scan t start limit (fun stop _ => (some stop, false)) none

/-- The end of the longest match that starts at an offset. -/
def longestEnd? (t : Text) (start : Nat) : Option Nat :=
  a.scan t start t.size (fun stop _ => (some stop, true)) none

/-- Whether a match that starts at one offset ends at another. -/
def endsAt (t : Text) (start stop : Nat) : Bool :=
  a.scan t start stop (fun offset _ => (offset == stop, offset != stop)) false

/-- Whether the text as a whole is accepted. -/
def accepts (t : Text) : Bool := a.endsAt t 0 t.size

/-- Whether a match ends at the end of the text. Nothing is tried where too little of it is
left. -/
def endsText (isTooShort : Nat → Bool) (t : Text) : Bool :=
  (t.boundaries.reverse.filter fun b => !isTooShort (t.size - b.offset)).any fun b =>
    a.endsAt t b.offset t.size

/-- The leftmost match that starts at an offset or behind it, shortest at its start. -/
def firstFrom (t : Text) (start : Nat) : Span :=
  ((t.boundaries.filter (start ≤ ·.offset)).findSome? fun b =>
    (a.shortestEnd? t b.offset t.size).map (.range b.offset)).getD .notFound

/-- The match with the rightmost start, shortest at its start. -/
def lastShortest (t : Text) : Span :=
  (t.boundaries.reverse.findSome? fun b =>
    (a.shortestEnd? t b.offset t.size).map (.range b.offset)).getD .notFound

/-- The match with the rightmost start in front of the end, longest at its start. -/
def lastLongest (t : Text) : Span :=
  ((t.boundaries.reverse.filter (·.offset < t.size)).findSome? fun b =>
    (a.longestEnd? t b.offset).map (.range b.offset)).getD .notFound

/-- The bytes of the widest match. -/
def widestSize? (t : Text) : Option Nat :=
  (t.boundaries.filterMap fun b => (a.longestEnd? t b.offset).map (· - b.offset)).max?

end Automaton
end ControlSearch
