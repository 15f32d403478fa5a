import ControlSearch.Regex

/-!
# Sequences, alternatives and repetitions in normal form

Sequences and alternatives are flattened, alternatives that are all sets of characters become
one set, and a part that all alternatives begin with is taken in front of them. The last step
changes the preference between matches of different lengths, so it is part of what an
expression means.
-/
namespace ControlSearch.Regex

/-- The set of an expression that is one. -/
def set? : Regex → Option CharSet
  | set chars => some chars
  | _ => none

/-- Whether `r` is a given character. -/
def isChar : Regex → Bool
  | set chars => chars.isSingleton
  | _ => false

/-- A sequence of parts that may be sequences themselves. -/
def sequence (parts : List Regex) : Regex := ofMembers (parts.flatMap members)

/-- Whether an alternative has a part to give away: it is a sequence, but no plain word. -/
def isCompound (r : Regex) : Bool := r.members.length > 1 && !r.members.all isChar

/-- The longest list that both lists begin with. -/
def commonStart : List Regex → List Regex → List Regex
  | a :: as, b :: bs => if a = b then a :: commonStart as bs else []
  | _, _ => []

/-- The parts that all of the sequences begin with. -/
def sharedStart : List (List Regex) → List Regex
  | [] => []
  | first :: others => others.foldl commonStart first

/-- One set for alternatives that are all single characters, or all sets of another number. -/
def unitedSet? (rs : List Regex) : Option CharSet := do
  let sets ← rs.mapM set?
  if sets.all (·.isSingleton) || sets.all (!·.isSingleton) then
    return CharSet.ofIntervals (sets.flatMap (·.intervals))
  else none

/-- Alternatives in order of preference, where nothing is left to share. -/
def plainChoice (rs : List Regex) : Regex :=
  match rs with
  | [] => never
  | [r] => r
  | rs => match unitedSet? rs with
    | some chars => set chars
    | none => ofAlternatives rs

/-- Alternatives in order of preference, which may have alternatives themselves. -/
def choice (options : List Regex) : Regex :=
  let rs := options.flatMap alternatives
  let shared :=
    if rs.length > 1 && rs.all isCompound then sharedStart (rs.map members) else []
  match shared with
  | [] => plainChoice rs
  | shared =>
    let rests := rs.map fun r => ofMembers (r.members.drop shared.length)
    sequence (shared ++ [plainChoice (rests.flatMap alternatives)])

/-- A repetition. A body that accepts the empty text alone is not repeated, no round at all is
the empty text, and exactly one round is the body itself. Any number of rounds of a body that
may be empty is one round or more, or none. -/
def repetition (body : Regex) (least : Nat) (most : Option Nat) (eager : Bool) : Regex :=
  let (least, most) :=
    if body.isHollow then (min least 1, some (min (most.getD 1) 1)) else (least, most)
  if least = 0 ∧ most = some 0 then empty
  else if least = 1 ∧ most = some 1 then body
  else if least = 0 ∧ most = none ∧ !body.hasContent then
    rounds (rounds body 1 none eager) 0 (some 1) eager
  else rounds body least most eager

end ControlSearch.Regex
