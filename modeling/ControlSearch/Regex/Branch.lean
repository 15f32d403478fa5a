import ControlSearch.Regex

/-!
# The ordered first steps of an expression

At a given place an expression can stop, or consume one character of a set and go on with what
is left of it. `branches` lists these first steps in order of preference. Most expressions are
listed by plain recursion. Only where the body of an unbounded repetition can be empty may a
way lead back to an expression that it has passed before; there a walk keeps track of what was
passed.
-/
namespace ControlSearch.Regex

/-- A first step. -/
inductive Branch where
  /-- Stop here. -/
  | accept
  /-- Consume a character of the set; `left` is still to be accepted behind it. -/
  | consume (chars : CharSet) (left : Regex)
  deriving DecidableEq, Repr

namespace Branch

/-- Goes on with `second`, whose own first steps replace a stop. -/
def andThen (second : Regex) (steps : List Branch) : Branch → List Branch
  | accept => steps
  | consume chars left => [consume chars (left.andThen second)]

/-- Goes on from first steps with `second`. What follows a stop is listed only if there is
one. -/
def chain (second : Regex) (steps : List Branch) (after : Unit → List Branch) : List Branch :=
  if accept ∈ steps then
    let next := after ()
    steps.flatMap (andThen second next)
  else steps.flatMap (andThen second [])

theorem chain_eq (second : Regex) (steps : List Branch) (after : Unit → List Branch) :
    chain second steps after = steps.flatMap (andThen second (after ())) := by
  unfold chain
  split
  · rfl
  · rename_i h
    rw [List.flatMap_def, List.flatMap_def]
    refine congrArg List.flatten (List.map_congr_left fun b hb => ?_)
    cases b with
    | accept => exact absurd hb h
    | consume => rfl

/-- Leaves out all stops but the first one. -/
def once : List Branch → List Branch
  | [] => []
  | accept :: rest => accept :: rest.filter (· ≠ accept)
  | b :: rest => b :: once rest

end Branch

/-! ## Plain recursion -/

/-- The first steps of a repetition whose body has the first steps `steps`. Rounds that are
required come one after the other, and an optional round opens the way to the remaining ones.
Unbounded rounds never stop at once, because their body has content. -/
def roundSteps (body : Regex) (steps : List Branch) (eager : Bool) :
    Nat → Option Nat → List Branch
  | 0, none =>
    let again := steps.flatMap (Branch.andThen (rounds body 0 none eager) [])
    if eager then again ++ [.accept] else .accept :: again
  | 0, some 0 => [.accept]
  | 0, some (most + 1) =>
    let again := Branch.chain (rounds body 0 (some most) eager) steps fun _ =>
      roundSteps body steps eager 0 (some most)
    Branch.once (if eager then again ++ [.accept] else .accept :: again)
  | least + 1, most =>
    Branch.chain (rounds body least (most.map (· - 1)) eager) steps fun _ =>
      roundSteps body steps eager least (most.map (· - 1))
  termination_by least most => (least, most.getD 0)

/-- The first steps at a place, in order of preference, if no way leads back. -/
def plainBranches (place : Place) : Regex → List Branch
  | empty => [.accept]
  | set chars => [.consume chars empty]
  | look assertion => if assertion.holds place then [.accept] else []
  | cat a b => Branch.chain b (a.plainBranches place) fun _ => b.plainBranches place
  | alt a b => Branch.once (a.plainBranches place ++ b.plainBranches place)
  | rounds body least most eager =>
    roundSteps body (body.plainBranches place) eager least most
  | group _ body => body.plainBranches place

/-! ## Walking -/

/-- What becomes of an expression when no character is consumed. -/
inductive Opening where
  | stop
  | read (chars : CharSet) (left : Regex)
  /-- Go on with one of several expressions, in order of preference. -/
  | ways (next : List Regex)

namespace Opening

/-- The same in front of a second expression. -/
def andThen (second : Regex) : Opening → Opening
  | stop => ways [second]
  | read chars left => read chars (left.andThen second)
  | ways next => ways (next.map (·.andThen second))

end Opening

/-- Opens an expression by one step. A repetition of any number of rounds stands behind one of
them. -/
def opening (place : Place) : Regex → Opening
  | empty => .stop
  | set chars => .read chars empty
  | look assertion => .ways (if assertion.holds place then [empty] else [])
  | cat a b => (a.opening place).andThen b
  | alt a b => .ways [a, b]
  | group _ body => .ways [body]
  | rounds body (least + 1) most eager =>
    .ways [body.andThen (rounds body least (most.map (· - 1)) eager)]
  | rounds _ 0 (some 0) _ => .stop
  | rounds body 0 most eager =>
    let again := body.andThen (rounds body 0 (most.map (· - 1)) eager)
    .ways (if eager then [again, empty] else [empty, again])

/-- Lists the first steps of some expressions that wait, leaving out what was passed
before. -/
def walk (place : Place) : Nat → List Regex → List Regex → List Branch
  | 0, _, _ | _, _, [] => []
  | fuel + 1, passed, r :: waiting =>
    if r ∈ passed then walk place fuel passed waiting
    else match r.opening place with
      | .stop => .accept :: walk place fuel (r :: passed) waiting
      | .read chars left => .consume chars left :: walk place fuel (r :: passed) waiting
      | .ways next => walk place fuel (r :: passed) (next ++ waiting)

/-- The number of expressions that a walk can come across. -/
def extent : Regex → Nat
  | empty | set _ | look _ => 1
  | cat a b | alt a b => a.extent + b.extent + 1
  | rounds body least most _ => (body.extent + 1) * (max least (most.getD least) + 1) + 1
  | group _ body => body.extent + 1

/-- Whether a way can lead back: some body is repeated without a bound and may be empty. -/
def mayCircle : Regex → Bool
  | empty | set _ | look _ => false
  | cat a b | alt a b => a.mayCircle || b.mayCircle
  | rounds body _ most _ => (most.isNone && !body.hasContent) || body.mayCircle
  | group _ body => body.mayCircle

/-- The first steps at a place, in order of preference. A walk takes at most two ways from
each expression that it comes across. -/
def branches (place : Place) (r : Regex) : List Branch :=
  if r.mayCircle then walk place (2 * r.extent + 2) [] [r] else r.plainBranches place

end ControlSearch.Regex
