import ControlSearch.Regex.Look

/-!
# Regular expressions

Expressions over sets of characters, with assertions and bounded repetition. Alternatives and
repetition counts are ordered by preference: the left alternative before the right one, more
rounds before fewer, and for a reluctant repetition fewer before more.
-/
namespace ControlSearch

inductive Regex where
  /-- The empty text. -/
  | empty
  /-- One character of a set. -/
  | set (chars : CharSet)
  /-- Nothing, at a place where an assertion holds. -/
  | look (assertion : Regex.Look)
  | cat (first second : Regex)
  | alt (preferred other : Regex)
  /-- At least `least` and, unless there is no bound, at most `most` rounds of the body. -/
  | rounds (body : Regex) (least : Nat) (most : Option Nat) (eager : Bool)
  /-- A numbered group; the number does not matter for what is accepted. -/
  | group (number : Nat) (body : Regex)
  deriving DecidableEq, Repr, Hashable, Inhabited

namespace Regex

/-- The expression that accepts nothing. -/
def never : Regex := set CharSet.empty

/-- One given character. -/
def char (c : Char) : Regex := set (CharSet.singleton c)

/-- What is left to accept once the first part of a sequence is down to `r`. -/
def andThen (r second : Regex) : Regex :=
  match r with
  | empty => second
  | r => cat r second

/-- The members of a sequence, from left to right. -/
def members : Regex → List Regex
  | empty => []
  | cat a b => members a ++ members b
  | r => [r]

/-- The alternatives, in order of preference. -/
def alternatives : Regex → List Regex
  | alt a b => alternatives a ++ alternatives b
  | r => [r]

/-- A sequence, nested to the right. -/
def ofMembers : List Regex → Regex
  | [] => empty
  | [r] => r
  | r :: rest => cat r (ofMembers rest)

/-- Alternatives in order of preference, nested to the right; none at all accept nothing. -/
def ofAlternatives : List Regex → Regex
  | [] => never
  | [r] => r
  | r :: rest => alt r (ofAlternatives rest)

/-- The fewest bytes of an accepted text; nothing if no text is accepted. A set without
members among some alternatives spoils them all. -/
def minSize? : Regex → Option Nat
  | empty => some 0
  | set chars => chars.minSize?
  | look _ => some 0
  | cat a b => do return (← a.minSize?) + (← b.minSize?)
  | alt a b => do return min (← a.minSize?) (← b.minSize?)
  | rounds body least _ _ => body.minSize?.map (· * least)
  | group _ body => body.minSize?

/-- Whether every accepted text is sure to have a character. -/
def hasContent (r : Regex) : Bool :=
  match r.minSize? with
  | none => false
  | some n => n ≠ 0

/-- Whether only the empty text can be accepted. -/
def isHollow : Regex → Bool
  | empty => true
  | set _ => false
  | look _ => true
  | cat a b => a.isHollow && b.isHollow
  | alt a b => a.isHollow && b.isHollow
  | rounds body _ most _ => most.isSome && body.isHollow
  | group _ body => body.isHollow

/-- Whether some assertion asks for the words of all scripts. -/
def asksUnicodeWords : Regex → Bool
  | empty => false
  | set _ => false
  | look l => l.isUnicode
  | cat a b => a.asksUnicodeWords || b.asksUnicodeWords
  | alt a b => a.asksUnicodeWords || b.asksUnicodeWords
  | rounds body _ _ _ => body.asksUnicodeWords
  | group _ body => body.asksUnicodeWords

end Regex
end ControlSearch
