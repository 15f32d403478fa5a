import ControlSearch.Regex.Expression.Escape

/-!
# Reading bracketed classes

The text between brackets is read part by part. What is open at a point of it, brackets and
the operations whose right side is being read, stands on a stack.
-/
namespace ControlSearch.Regex.Expression

/-- Something open while a class is read. -/
inductive ClassFrame where
  /-- A bracket, and the parts in front of it (last one first). -/
  | bracket (before : List ClassExpr) (negated : Bool)
  /-- An operation, and its left side. -/
  | operation (kind : ClassOperation) (left : ClassExpr)

/-- The named classes, by the intervals of their ASCII members. -/
def namedClass? (name : Text) : Option (List Interval) :=
  let members (table : String) := some (Interval.list table)
  match String.ofList name with
  | "alnum" => members "30-39 41-5A 61-7A"
  | "alpha" => members "41-5A 61-7A"
  | "ascii" => members "0-7F"
  | "blank" => members "9 20"
  | "cntrl" => members "0-1F 7F"
  | "digit" => members "30-39"
  | "graph" => members "21-7E"
  | "lower" => members "61-7A"
  | "print" => members "20-7E"
  | "punct" => members "21-2F 3A-40 5B-60 7B-7E"
  | "space" => members "9-D 20"
  | "upper" => members "41-5A"
  | "word" => members "30-39 41-5A 5F 61-7A"
  | "xdigit" => members "30-39 41-46 61-66"
  | _ => none

/-- A named class such as `[:alpha:]`, behind its bracket. Anything else is left to be read as
a class of its own. -/
def readNamed? : Text → Option (ClassExpr × Text)
  | ':' :: rest =>
    let (negated, rest) := match rest with
      | '^' :: rest => (true, rest)
      | rest => (false, rest)
    match rest.dropWhile (· != ':') with
    | ':' :: ']' :: after =>
      (namedClass? (rest.takeWhile (· != ':'))).map fun members =>
        (.named members negated, after)
    | _ => none
  | _ => none

/-- The start of a class behind its bracket: the negation, hyphens that stand for themselves,
and a closing bracket that does because it comes first. -/
def openClass (ignore : Bool) (t : Text) : Except Fault (Bool × List ClassExpr × Text) := do
  let (negated, t) := match skip ignore t with
    | '^' :: rest => (true, skip ignore rest)
    | t => (false, t)
  let (hyphens, t) := takeSpaced ignore (· == '-') false none t
  match t with
  | [] => throw .classUnclosed
  | ']' :: rest =>
    if hyphens.isEmpty then
      match skip ignore rest with
      | [] => throw .classUnclosed
      | rest => return (negated, [.symbol ⟨']', false⟩], rest)
    else return (negated, hyphens.map fun c => .symbol ⟨c, false⟩, ']' :: rest)
  | t => return (negated, hyphens.map fun c => .symbol ⟨c, false⟩, t)

/-- Closes the operation that waits for its right side, if there is one. -/
def closeOperation (right : ClassExpr) : List ClassFrame → ClassExpr × List ClassFrame
  | .operation kind left :: stack => (.operation kind left right, stack)
  | stack => (right, stack)

/-- One character of a class, or an escape. -/
def readClassSymbol (ignore : Bool) : Text → Except Fault (Expression × Text)
  | [] => throw .classUnclosed
  | '\\' :: rest => readEscape ignore rest
  | c :: rest => pure (symbol ⟨c, false⟩, rest)

/-- The end of a range has to be a character. -/
def rangeEnd : Expression → Except Fault Symbol
  | symbol s => pure s
  | _ => throw .classRangeEnd

/-- A character or an escape, or a range between two of them. -/
def readClassPart (ignore : Bool) (t : Text) : Except Fault (ClassExpr × Text) := do
  let (first, rest) ← readClassSymbol ignore t
  let single (rest : Text) : Except Fault (ClassExpr × Text) := match first with
    | symbol s => pure (.symbol s, rest)
    | shorthand kind negated => pure (.shorthand kind negated, rest)
    | property name negated => pure (.property name negated, rest)
    | _ => throw .classEscape
  match skip ignore rest with
  | [] => throw .classUnclosed
  | '-' :: behind =>
    match skip ignore behind with
    | [] => throw .classUnclosed
    | ']' :: _ | '-' :: _ => single ('-' :: behind)
    | t => do
      let (last, rest) ← readClassSymbol ignore t
      let first ← rangeEnd first
      let last ← rangeEnd last
      if last.char < first.char then throw .classRangeInvalid
      return (.range first last, rest)
  | rest => single rest

/-- Reads on inside a class. `parts` are those read in the innermost bracket or right side,
last one first; each step takes at least one character, so `fuel` need not exceed the length
of the text. -/
def readClassOn (ignore : Bool) : Nat → List ClassFrame → List ClassExpr → Text →
    Except Fault (Expression × Text)
  | 0, _, _, _ => throw .classUnclosed
  | fuel + 1, stack, parts, t =>
    let operate (kind : ClassOperation) (rest : Text) :=
      let (left, stack) := closeOperation (ClassExpr.ofParts parts.reverse) stack
      readClassOn ignore fuel (.operation kind left :: stack) [] rest
    match skip ignore t with
    | [] => throw .classUnclosed
    | '[' :: rest =>
      match readNamed? rest with
      | some (part, rest) => readClassOn ignore fuel stack (part :: parts) rest
      | none => do
        let (negated, opened, rest) ← openClass ignore rest
        readClassOn ignore fuel (.bracket parts negated :: stack) opened.reverse rest
    | ']' :: rest =>
      let (inside, stack) := closeOperation (ClassExpr.ofParts parts.reverse) stack
      match stack with
      | [.bracket _ negated] => pure (bracket negated inside, rest)
      | .bracket before negated :: stack =>
        readClassOn ignore fuel stack (.bracket negated inside :: before) rest
      | _ => throw .classUnclosed
    | '&' :: '&' :: rest => operate .intersection rest
    | '-' :: '-' :: rest => operate .difference rest
    | '~' :: '~' :: rest => operate .symmetricDifference rest
    | t => do
      let (part, rest) ← readClassPart ignore t
      readClassOn ignore fuel stack (part :: parts) rest

/-- A bracketed class, behind its first bracket. -/
def readClass (ignore : Bool) (t : Text) : Except Fault (Expression × Text) := do
  let (negated, opened, rest) ← openClass ignore t
  readClassOn ignore (rest.length + 1) [.bracket [] negated] opened.reverse rest

end ControlSearch.Regex.Expression
