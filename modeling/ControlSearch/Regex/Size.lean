import Std.Data.HashMap
import Std.Data.HashSet
import ControlSearch.Regex.Automaton

/-!
# The size of the deterministic automaton

An expression can be run by a deterministic automaton that reads a text byte by byte. Its
states are the lists of threads that a run can be left with, inside and between characters; a
match is reported one byte late, so a state also records whether a match has just ended. The
automaton has a row of four-byte cells per state, with a cell for each class of bytes that no
set tells apart and one for the end of the text, rounded up to a power of two. It is explored
only as far as a limit reaches.
-/
namespace ControlSearch.Regex

namespace Size

/-- The sets that the steps of an expression consume. -/
def sets : Regex → List CharSet
  | empty | look _ => []
  | set chars => [chars]
  | cat a b | alt a b => sets a ++ sets b
  | rounds body _ _ _ | group _ body => sets body

/-- The assertions in an expression. -/
def looks : Regex → List Look
  | empty | set _ => []
  | look l => [l]
  | cat a b | alt a b => looks a ++ looks b
  | rounds body _ _ _ | group _ body => looks body

/-- The bytes that an assertion tells apart from others. -/
def lookBytes : Look → List Interval
  | .textStart | .textEnd => []
  | .lineStart .lineFeed | .lineEnd .lineFeed => [⟨10, 10⟩]
  | .lineStart .carriageReturn | .lineEnd .carriageReturn => [⟨10, 10⟩, ⟨13, 13⟩]
  | _ => CharSet.asciiWord.intervals

/-- The first byte of each class of bytes that the given intervals do not tell apart. -/
def byteClasses (intervals : List Interval) : List Nat :=
  let starts := intervals.flatMap fun r => [r.first, r.last + 1]
  let marked := starts.foldl (fun marks n => marks.insert n) (∅ : Std.HashSet Nat)
  (List.range 256).filter fun b => b = 0 || marked.contains b

/-- A first step, by the number of its set among the sets, and of what is left. -/
inductive Step where
  | accept
  | consume (chars left : Nat)
  deriving Inhabited

/-- The numbered expressions that can be left, with their first steps by place. -/
structure Leftovers where
  numbers : Std.HashMap Regex Nat
  count : Nat
  /-- The steps of each expression at one place after the other. -/
  steps : Array (List (List Step))
  /-- Expressions whose steps are still to be listed, the next one first. -/
  waiting : List Regex

/-- The number of an expression that can be left. -/
def Leftovers.number (known : Leftovers) (r : Regex) : Nat × Leftovers :=
  match known.numbers[r]? with
  | some n => (n, known)
  | none =>
    let n := known.count
    (n, { known with
      numbers := known.numbers.insert r n, count := n + 1, waiting := known.waiting ++ [r] })

/-- Numbers what the first steps at a place leave. -/
def Leftovers.list (setNumbers : Std.HashMap CharSet Nat) (known : Leftovers) :
    List Branch → List Step × Leftovers
  | [] => ([], known)
  | .accept :: _ => ([.accept], known)
  | .consume chars left :: rest =>
    let (n, known) := known.number left
    let (steps, known) := known.list setNumbers rest
    (.consume (setNumbers.getD chars 0) n :: steps, known)

/-- Lists the steps of all that can be left, unless there are more than `fuel` such
expressions. -/
def Leftovers.complete? (setNumbers : Std.HashMap CharSet Nat) (places : List Place) :
    Nat → Leftovers → Option Leftovers
  | 0, _ => none
  | fuel + 1, known =>
    match known.waiting with
    | [] => some known
    | r :: waiting =>
      let (steps, known) := places.foldl (fun (found, known) place =>
        let (steps, known) := known.list setNumbers (branches place r)
        (steps :: found, known)) ([], { known with waiting })
      complete? setNumbers places fuel { known with steps := known.steps.push steps.reverse }

/-- The forms of characters and of their rests, numbered, with the outcome of each class of
bytes: nothing, a finished character (0), or the number of the forms of the rest. -/
structure Forms where
  numbers : Std.HashMap (List (List Interval)) Nat
  moves : Array (Array (Option Nat))

/-- Numbers forms of characters that have at most `depth` bytes. -/
def Forms.add (classes : List Nat) : Nat → Forms → List (List Interval) → Nat × Forms
  | 0, known, _ => (0, known)
  | depth + 1, known, forms =>
    match known.numbers[forms]? with
    | some n => (n, known)
    | none =>
      let (moves, known) := classes.foldl (fun (moves, known) b =>
        match follow b forms with
        | [] => (moves.push none, known)
        | [] :: _ => (moves.push (some 0), known)
        | rest =>
          let (n, known) := known.add classes depth rest
          (moves.push (some n), known)) ((#[] : Array (Option Nat)), known)
      let n := known.moves.size
      (n, ⟨known.numbers.insert forms n, known.moves.push moves⟩)

/-- The tables that the exploration of an automaton reads. -/
structure Chart where
  /-- The classes, with the neighbour that each stands for; any character if no assertion
  looks. -/
  classes : Array Char
  /-- The number of leftovers. -/
  count : Nat
  /-- The steps of the leftovers at each place. -/
  rows : List (Place × Array (List Step))
  forms : Forms
  /-- The number of the forms of each set. -/
  setForms : Array Nat
  /-- Whether assertions have to know the last character. -/
  looking : Bool

/-- A state. A thread is the number of a leftover, inside a character after `form` times the
count of leftovers. -/
structure State where
  matched : Bool
  last : Option Char
  threads : List Nat
  deriving DecidableEq

instance : Hashable State :=
  ⟨fun s =>
    mixHash (hash s.matched) (mixHash (hash (s.last.map Char.toNat)) (hash s.threads))⟩

namespace Chart

variable (chart : Chart)

/-- The thread behind a byte of a character of given forms. -/
def enter (form left byteClass : Nat) : Option Nat :=
  ((chart.forms.moves.getD form #[]).getD byteClass none).map fun form =>
    form * chart.count + left

/-- What a thread becomes in front of the threads that others become, and whether one
accepts. -/
def put : Option Nat → List Nat × Bool → List Nat × Bool
  | none, others => others
  | some thread, (others, accepts) => (thread :: others, accepts)

/-- The threads that the steps of one thread lead to, and `others` unless a step accepts. -/
def moveSteps (byteClass : Nat) (others : List Nat × Bool) : List Step → List Nat × Bool
  | [] => others
  | .accept :: _ => ([], true)
  | .consume chars left :: rest =>
    put (chart.enter (chart.setForms.getD chars 0) left byteClass)
      (moveSteps byteClass others rest)

/-- The threads behind a byte, up to the first acceptance, and whether there is one. -/
def moveAll (row : Array (List Step)) (byteClass : Nat) : List Nat → List Nat × Bool
  | [] => ([], false)
  | thread :: rest =>
    let others := moveAll row byteClass rest
    if thread < chart.count then chart.moveSteps byteClass others (row.getD thread [])
    else put (chart.enter (thread / chart.count) (thread % chart.count) byteClass) others

/-- The steps of the leftovers at a place. -/
def row (place : Place) : Array (List Step) := (chart.rows.lookup place).getD #[]

/-- Whether a thread is among some threads. -/
def hasThread (thread : Nat) : List Nat → Bool
  | [] => false
  | other :: rest => other == thread || hasThread thread rest

/-- Leaves out threads that occur before; `sofar` is what is kept already, the last one
first. -/
def distinctFrom (sofar : List Nat) : List Nat → List Nat
  | [] => sofar.reverse
  | thread :: rest =>
    if hasThread thread sofar then distinctFrom sofar rest
    else distinctFrom (thread :: sofar) rest

/-- The state behind a byte of a given class; nothing if it has neither threads nor a
match. -/
def next? (s : State) (byteClass : Nat) : Option State :=
  let byte := chart.classes.getD byteClass ' '
  let row := chart.row ⟨s.last, if chart.looking then some byte else none⟩
  let (threads, accepts) := chart.moveAll row byteClass s.threads
  if threads.isEmpty && !accepts then none
  else
    let threads := distinctFrom [] threads
    let last := if chart.looking && threads.any (· < chart.count) then some byte else s.last
    some ⟨accepts, last, threads⟩

/-- The state behind the end of the text. -/
def final? (s : State) : Option State :=
  if (chart.moveAll (chart.row ⟨s.last, none⟩) 0 s.threads).2 then some ⟨true, none, []⟩
  else none

def successors (s : State) : List State :=
  (List.range chart.classes.size).filterMap (chart.next? s) ++ (chart.final? s).toList

/-- Adds states that were not seen before to those that wait; `count` is the number of states
that were seen. -/
def notice (seen : Std.HashSet State) (count : Nat) (waiting : List State) :
    List State → Std.HashSet State × Nat × List State
  | [] => (seen, count, waiting)
  | s :: rest =>
    if seen.contains s then notice seen count waiting rest
    else notice (seen.insert s) (count + 1) (s :: waiting) rest

/-- Whether no more than `room` states can be reached. Each state that is seen waits once, so
no more than `room` rounds are needed. -/
def fits (room : Nat) : Nat → Std.HashSet State → Nat → List State → Bool
  | _, _, _, [] => true
  | 0, _, _, _ => false
  | fuel + 1, seen, count, s :: waiting =>
    let (seen, count, waiting) := notice seen count waiting (chart.successors s)
    if count > room then false else fits room fuel seen count waiting

end Chart

/-- The bytes of an automaton besides its rows. -/
def fixedBytes : Nat := 48

/-- The bytes of a row with cells for a number of classes and for the end of the text. -/
def rowBytes (classes : Nat) : Nat := 4 * Nat.pow 2 (Nat.log2 classes + 1)

end Size

open Size in
/-- Whether the automaton of an expression has at most `limit` bytes. Two of its rows are for
the states that give up. -/
def isWithin (limit : Nat) (r : Regex) : Bool :=
  let sets := (sets r).eraseDups
  let looks := (looks r).eraseDups
  let classes := byteClasses (sets.flatMap (·.utf8.flatten) ++ looks.flatMap lookBytes)
  let room := (limit - fixedBytes) / rowBytes classes.length
  if room < 3 then false
  else
    let looking := !looks.isEmpty
    let lasts := if looking then none :: ['\n', '\r', 'a', ' '].map some else [none]
    let nexts := if looking then none :: ['\n', '\r', 'a', ' '].map some else [none]
    let places := lasts.flatMap fun last => nexts.map fun next => ⟨last, next⟩
    let setNumbers :=
      sets.zipIdx.foldl (fun m (s, i) => m.insert s i) (∅ : Std.HashMap CharSet Nat)
    let start : Leftovers := ⟨(∅ : Std.HashMap Regex Nat).insert r 0, 1, #[], [r]⟩
    match start.complete? setNumbers places (room + 1) with
    | none => false
    | some leftovers =>
      let (setForms, forms) := sets.foldl (fun (numbers, known) s =>
        let (n, known) := Forms.add classes 4 known s.utf8
        (numbers.push n, known)) ((#[] : Array Nat), (⟨∅, #[#[]]⟩ : Forms))
      let rows := places.zipIdx.map fun (place, i) =>
        (place, leftovers.steps.map fun steps => steps.getD i [])
      let neighbours := classes.map fun b => if looking then byteNeighbour b else ' '
      let chart : Chart :=
        ⟨neighbours.toArray, leftovers.steps.size, rows, forms, setForms, looking⟩
      let starts := lasts.map fun last => (⟨false, last, [0]⟩ : State)
      let (seen, count, waiting) := Chart.notice ∅ 0 [] starts
      chart.fits (room - 2) (room - 2) seen count waiting

end ControlSearch.Regex
