import ControlSearch.Automaton
import ControlSearch.CharSet.Bytes
import ControlSearch.Regex.Branch

/-!
# The automaton of an expression

The deterministic automaton that runs an expression. Its states are the lists of threads that
a run can be left with, inside and between characters: a set of characters is entered by the
UTF-8 forms of its members, which are followed byte by byte. Assertions cannot see whole
characters, only bytes; a byte tells enough of them unless an assertion asks for the words of
all scripts.
-/
namespace ControlSearch.Regex

/-- The characters that stand for a neighbour as far as assertions can tell. -/
def neighbour (c : Char) : Char :=
  if c = '\n' ∨ c = '\r' then c else if CharSet.asciiWord.contains c then 'a' else ' '

/-- The character that a byte belongs to, as far as assertions can tell. -/
def byteNeighbour (b : Nat) : Char := if b < 0x80 then neighbour (Char.ofNat b) else ' '

/-- What a byte does to the forms of a character: the forms of the rest of it. -/
def follow (b : Nat) (forms : List (List Interval)) : List (List Interval) :=
  forms.filterMap fun
    | r :: rest => if r.contains b then some rest else none
    | [] => none

/-- One of the ways in which a run may go on. -/
inductive Thread where
  /-- Here a match has ended. -/
  | ended
  /-- Between characters, in front of an expression. -/
  | between (r : Regex)
  /-- Inside a character, with the forms of the rest of it, and an expression behind it. -/
  | inside (forms : List (List Interval)) (left : Regex)
  deriving DecidableEq, Repr

namespace Thread

/-- The thread of a first step, which waits for the first byte of a character. -/
def ofBranch : Branch → Thread
  | .accept => ended
  | .consume chars left => inside chars.utf8 left

/-- The threads that a thread stands for once a place is known. -/
def opened (place : Place) : Thread → List Thread
  | between r => (branches place r).map ofBranch
  | thread => [thread]

/-- The thread behind a byte. -/
def after (b : Nat) : Thread → Option Thread
  | inside forms left =>
    match follow b forms with
    | [] => none
    | [] :: _ => some (between left)
    | rest => some (inside rest left)
  | _ => none

end Thread

/-- A state of the automaton. -/
structure ThreadState where
  /-- Whether a match has ended in front of what was read last. -/
  matched : Bool
  /-- What stands in front of the place, as far as assertions can tell. -/
  last : Option Char
  threads : List Thread
  deriving DecidableEq, Repr

namespace ThreadState

/-- The threads in front of what comes next, in order of preference. -/
def opened (s : ThreadState) (next : Option Char) : List Thread :=
  s.threads.flatMap (Thread.opened ⟨s.last, next⟩)

/-- The state behind a byte. The threads behind the first that has ended are given up. -/
def next (s : ThreadState) (b : UInt8) : ThreadState :=
  let c := byteNeighbour b.toNat
  let threads := s.opened (some c)
  { matched := threads.contains .ended
    last := some c
    threads :=
      ((threads.takeWhile (· != .ended)).filterMap (Thread.after b.toNat)).eraseDups }

/-- The state behind the end of the text. -/
def nextEnd (s : ThreadState) : ThreadState := ⟨(s.opened none).contains .ended, none, []⟩

/-- Whether nothing is left to go on with. -/
def isDead (s : ThreadState) : Bool := !s.matched && s.threads.isEmpty

end ThreadState

/-- The automaton of an expression. It never gives up. -/
def automaton (r : Regex) : Automaton ThreadState where
  start? before := some ⟨false, before.map fun b => byteNeighbour b.toNat, [.between r]⟩
  next := ThreadState.next
  nextEnd := ThreadState.nextEnd
  isMatch := ThreadState.matched
  isDead := ThreadState.isDead
  isQuit _ := false

end ControlSearch.Regex
