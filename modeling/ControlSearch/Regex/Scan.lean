import ControlSearch.Regex.Branch
import ControlSearch.Regex.Weight

/-!
# Running an expression along a text

A run keeps the ordered list of what may still be accepted, its threads. At each place the
threads' first steps are followed in order of preference, and as soon as one of them stops,
the less preferred ones are given up. So the run sees an end only if no preferred way has
ended before it.
-/
namespace ControlSearch.Regex

/-- The first steps of all threads, up to the first stop. -/
def untilAccept : List Branch → List Branch
  | [] => []
  | .accept :: _ => [.accept]
  | b :: rest => b :: untilAccept rest

/-- The threads behind a character, the first of equal ones only. -/
def advance (c : Char) (steps : List Branch) : List Regex :=
  distinct <| steps.filterMap fun
    | .accept => none
    | .consume chars left => if chars.contains c then some left else none

/-- The first steps of the threads at a place. -/
def steps (place : Place) (threads : List Regex) : List Branch :=
  untilAccept (threads.flatMap (branches place))

/-- The offsets at which a run ends, in ascending order. -/
def endsFrom (threads : List Regex) (offset : Nat) (last : Option Char) : Text → List Nat
  | [] => if .accept ∈ steps ⟨last, none⟩ threads then [offset] else []
  | c :: rest =>
    let found := steps ⟨last, some c⟩ threads
    let threads' := advance c found
    let later :=
      if threads'.isEmpty then [] else endsFrom threads' (offset + c.utf8Size) (some c) rest
    if .accept ∈ found then offset :: later else later

/-- The first offset at which a run ends. -/
def firstEndFrom? (threads : List Regex) (offset : Nat) (last : Option Char) :
    Text → Option Nat
  | [] => if .accept ∈ steps ⟨last, none⟩ threads then some offset else none
  | c :: rest =>
    let found := steps ⟨last, some c⟩ threads
    if .accept ∈ found then some offset
    else
      let threads' := advance c found
      if threads'.isEmpty then none
      else firstEndFrom? threads' (offset + c.utf8Size) (some c) rest

theorem firstEndFrom?_eq_head? (threads : List Regex) (offset : Nat) (last : Option Char)
    (rest : Text) :
    firstEndFrom? threads offset last rest = (endsFrom threads offset last rest).head? := by
  induction rest generalizing threads offset last with
  | nil => unfold firstEndFrom? endsFrom; split <;> rfl
  | cons c rest ih =>
    unfold firstEndFrom? endsFrom
    simp only
    split
    · rfl
    · split
      · rfl
      · exact ih _ _ _

/-- The ends of the matches that start at a boundary. -/
def ends (r : Regex) (b : Text.Boundary) : List Nat := endsFrom [r] b.offset b.last b.rest

/-- The end of the shortest match that starts at a boundary. -/
def shortestEnd? (r : Regex) (b : Text.Boundary) : Option Nat :=
  firstEndFrom? [r] b.offset b.last b.rest

/-- The end of the longest match that starts at a boundary. -/
def longestEnd? (r : Regex) (b : Text.Boundary) : Option Nat := (r.ends b).getLast?

theorem shortestEnd?_eq_head? (r : Regex) (b : Text.Boundary) :
    r.shortestEnd? b = (r.ends b).head? := firstEndFrom?_eq_head? _ _ _ _

end ControlSearch.Regex
