import ControlSearch.Regex.Expression.ClassReader

/-!
# Reading expressions

An expression is read from left to right. The parts and alternatives of the groups that are
still open stand on a stack, so that one step takes one part of the text.
-/
namespace ControlSearch.Regex.Expression

/-- What opened a group. -/
inductive Opening where
  | capture (number : Nat)
  | within (changes : List (Flag × Bool))

/-- What was read in front of an open group, and whether blanks were ignored there. -/
structure Frame where
  parts : List Expression
  choices : List Expression
  opening : Opening
  ignore : Bool

/-- The progress of reading. Parts and alternatives are kept last one first. -/
structure Progress where
  parts : List Expression
  choices : List Expression
  stack : List Frame
  ignore : Bool
  /-- Whether blanks are ignored now. -/
  groups : Nat
  names : List Text

namespace Progress

def start : Progress := ⟨[], [], [], false, 0, []⟩

/-- The expression read so far in the innermost group. -/
def whole (p : Progress) : Expression :=
  match p.choices with
  | [] => ofSequence p.parts.reverse
  | choices => ofChoice (choices.reverse ++ [ofSequence p.parts.reverse])

def push (p : Progress) (part : Expression) : Progress := { p with parts := part :: p.parts }

/-- Begins the next alternative. -/
def nextChoice (p : Progress) : Progress :=
  { p with parts := [], choices := ofSequence p.parts.reverse :: p.choices }

/-- Opens a group, inside which blanks are ignored as `ignore` says. -/
def opened (p : Progress) (opening : Opening) (ignore : Bool) : Progress :=
  { p with
    parts := [], choices := [], ignore := ignore,
    stack := ⟨p.parts, p.choices, opening, p.ignore⟩ :: p.stack }

/-- Closes the innermost group. -/
def closed (p : Progress) : Except Fault Progress :=
  match p.stack with
  | [] => throw .groupUnopened
  | frame :: stack =>
    let group := match frame.opening with
      | .capture number => capture number p.whole
      | .within changes => within changes p.whole
    pure { p with
      parts := group :: frame.parts, choices := frame.choices, ignore := frame.ignore,
      stack := stack }

/-- Takes the last part away to repeat it. -/
def lastPart (p : Progress) : Except Fault (Expression × Progress) :=
  match p.parts with
  | [] | .switch _ :: _ => throw .repetitionMissing
  | part :: parts => pure (part, { p with parts := parts })

end Progress

/-- The flag that a letter stands for. -/
def flagOf : Char → Except Fault Flag
  | 'i' => pure .caseInsensitive
  | 'm' => pure .multiLine
  | 's' => pure .dotNewLine
  | 'U' => pure .swapGreed
  | 'u' => pure .unicode
  | 'R' => pure .carriageReturn
  | 'x' => pure .ignoreBlanks
  | _ => throw .flagUnknown

/-- Reads flags up to the colon or parenthesis behind them. Flags behind a hyphen are turned
off; one hyphen is allowed, but not as the last character. -/
def readFlags (on : Bool) (changes : List (Flag × Bool)) : Text →
    Except Fault (List (Flag × Bool) × Text)
  | [] => throw .flagsUnclosed
  | '-' :: rest =>
    if !on then throw .flagDuplicate
    else match rest with
      | ':' :: _ | ')' :: _ => throw .flagDanglingNegation
      | rest => readFlags false changes rest
  | c :: rest =>
    if c = ':' ∨ c = ')' then pure (changes.reverse, c :: rest)
    else do
      let flag ← flagOf c
      if changes.any (·.1 == flag) then throw .flagDuplicate
      readFlags on ((flag, on) :: changes) rest

/-- Whether a character may stand in the name of a group. -/
def isNameChar (first : Bool) (c : Char) : Bool :=
  c == '_' || CharSet.alphabetic.contains c ||
    (!first && (c == '.' || c == '[' || c == ']' || CharSet.numeral.contains c))

/-- The name of a group, behind its opening bracket. -/
def readName (t : Text) : Except Fault (Text × Text) :=
  match t.takeWhile (· != '>'), t.dropWhile (· != '>') with
  | _, [] => throw .groupNameInvalid
  | [], _ => throw .groupNameEmpty
  | c :: name, _ :: rest =>
    if isNameChar true c && name.all (isNameChar false) then pure (c :: name, rest)
    else throw .groupNameInvalid

/-- What a parenthesis opens. -/
def readGroup (p : Progress) (t : Text) : Except Fault (Progress × Text) :=
  let numbered (p : Progress) :=
    { p with groups := p.groups + 1 }.opened (.capture (p.groups + 1)) p.ignore
  let named (t : Text) : Except Fault (Progress × Text) := do
    let (name, rest) ← readName t
    if p.names.contains name then throw (.groupNameDuplicate name)
    return (numbered { p with names := name :: p.names }, rest)
  match skip p.ignore t with
  | '?' :: '=' :: _ | '?' :: '!' :: _ | '?' :: '<' :: '=' :: _ | '?' :: '<' :: '!' :: _ =>
    throw .lookAround
  | '?' :: 'P' :: '<' :: rest => named rest
  | '?' :: '<' :: rest => named rest
  | '?' :: rest => do
    let (changes, rest) ← readFlags true [] rest
    let ignore := ((changes.find? (·.1 == .ignoreBlanks)).map (·.2)).getD p.ignore
    match rest with
    | ')' :: rest =>
      if changes.isEmpty then throw .repetitionMissing
      return ({ p with ignore }.push (switch changes), rest)
    | rest => return (p.opened (.within changes) ignore, rest.drop 1)
  | t => pure (numbered p, t)

/-- Whether a repetition is reluctant, as a question mark behind it says. -/
def readEager : Text → Bool × Text
  | '?' :: rest => (false, rest)
  | t => (true, t)

/-- Repeats the last part. -/
def repeated (p : Progress) (least : Nat) (most : Option Nat) (t : Text) :
    Except Fault (Progress × Text) := do
  let (body, p) ← p.lastPart
  let (eager, rest) := readEager t
  return (p.push (rounds body least most eager), rest)

/-- Repeats the last part as often as the braces say. -/
def readRounds (p : Progress) (t : Text) : Except Fault (Progress × Text) := do
  let _ ← p.lastPart
  let finish (least : Nat) (most : Option Nat) : Text → Except Fault (Progress × Text)
    | '}' :: rest => do
      if most.any (· < least) then throw .countInvalid
      repeated p least most (skip p.ignore rest)
    | _ => throw .countUnclosed
  let (least, rest) := readCount p.ignore (skip p.ignore t)
  match rest with
  | ',' :: rest =>
    match skip p.ignore rest with
    | '}' :: rest => finish (← least) none ('}' :: rest)
    | rest => do
      let (most, rest) := readCount p.ignore rest
      let least ← least
      finish least (some (← most)) rest
  | rest => do
    let least ← least
    finish least (some least) rest

/-- One step: reads the part that begins with the character `c`. -/
def readPart (p : Progress) (c : Char) (rest : Text) : Except Fault (Progress × Text) :=
  match c with
  | '(' => readGroup p rest
  | ')' => p.closed.map (·, rest)
  | '|' => pure (p.nextChoice, rest)
  | '[' => (readClass p.ignore rest).map fun (part, rest) => (p.push part, rest)
  | '?' => repeated p 0 (some 1) rest
  | '*' => repeated p 0 none rest
  | '+' => repeated p 1 none rest
  | '{' => readRounds p rest
  | '\\' => (readEscape p.ignore rest).map fun (part, rest) => (p.push part, rest)
  | '.' => pure (p.push dot, rest)
  | '^' => pure (p.push (anchor .lineStart), rest)
  | '$' => pure (p.push (anchor .lineEnd), rest)
  | c => pure (p.push (symbol ⟨c, false⟩), rest)

/-- Reads on to the end of the text. Each step takes at least one character, so `fuel` need
not exceed the length of the text. -/
def readOn : Nat → Progress → Text → Except Fault Expression
  | fuel, p, t =>
    match skip p.ignore t with
    | [] =>
      if p.stack.isEmpty then pure p.whole else throw .groupUnclosed
    | c :: rest =>
      match fuel with
      | 0 => throw .groupUnclosed
      | fuel + 1 => do
        let (p, rest) ← readPart p c rest
        readOn fuel p rest

/-- Reads a text as an expression. -/
def read (t : Text) : Except Fault Expression := do
  let e ← readOn t.length .start t
  if e.depth > maxDepth then throw .tooDeep
  return e

end ControlSearch.Regex.Expression
