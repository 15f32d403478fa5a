import ControlSearch.Regex.Expression

/-!
# Escapes

What a backslash and the characters behind it stand for: a character that would mean something
else, a character by its code point, a class of characters, a property of characters, or an
assertion. While blanks are ignored, blanks and comments (from `#` to the end of the line) may
stand between any two parts of an expression, also between the digits of a number and inside a
name, so the readers of names and numbers take them along.
-/
namespace ControlSearch.Regex.Expression

/-! ## Blanks -/

/-- Removes blanks and comments at the start; `inComment` if a comment is open already. -/
def dropBlanks (inComment : Bool) : Text → Text
  | [] => []
  | c :: rest =>
    if inComment then dropBlanks (c != '\n') rest
    else if Text.isBlank c then dropBlanks false rest
    else if c = '#' then dropBlanks true rest
    else c :: rest

/-- What follows the ignored blanks at the start, if blanks are ignored. -/
def skip (ignore : Bool) (t : Text) : Text := if ignore then dropBlanks false t else t

/-- Takes characters that satisfy `p`, at most `limit` if there is one, over ignored blanks.
The rest begins behind the blanks that follow the last one. -/
def takeSpaced (ignore : Bool) (p : Char → Bool) (inComment : Bool) (limit : Option Nat) :
    Text → Text × Text
  | [] => ([], [])
  | c :: rest =>
    if inComment then takeSpaced ignore p (c != '\n') limit rest
    else if ignore && Text.isBlank c then takeSpaced ignore p false limit rest
    else if ignore && c = '#' then takeSpaced ignore p true limit rest
    else if limit = some 0 then ([], c :: rest)
    else if p c then
      let (taken, rest) := takeSpaced ignore p false (limit.map (· - 1)) rest
      (c :: taken, rest)
    else ([], c :: rest)

/-! ## Numbers -/

/-- A count: digits, with blanks of any kind in front and behind. -/
def readCount (ignore : Bool) (t : Text) : Except Fault Nat × Text :=
  let (digits, rest) :=
    takeSpaced ignore (Text.isDigitOf 10) false none (t.dropWhile Text.isBlank)
  let rest := (skip ignore ·) <| rest.dropWhile Text.isBlank
  match Text.number? 10 digits with
  | none => (throw .countEmpty, rest)
  | some n => (if n < Nat.pow 2 32 then pure n else throw .countInvalid, rest)

/-- The character with a given code point. -/
def charOfCode? (n : Nat) : Except Fault Char :=
  if n.isValidChar then pure (Char.ofNat n) else throw .hexInvalid

/-- The hexadecimal forms of a character, behind the letter that announces them. -/
def readHex (ignore : Bool) (digits : Nat) (t : Text) : Except Fault (Expression × Text) :=
  match skip ignore t with
  | [] => throw .escapeUnfinished
  | '{' :: rest =>
    match takeSpaced ignore (Text.isDigitOf 16) false none rest with
    | (taken, '}' :: rest) => do
      let some n := Text.number? 16 taken | throw .hexInvalid
      return (symbol ⟨← charOfCode? n, false⟩, skip ignore rest)
    | (_, []) => throw .escapeUnfinished
    | _ => throw .hexInvalid
  | t => do
    let (taken, rest) := takeSpaced ignore (Text.isDigitOf 16) false (some digits) t
    if taken.length < digits then
      throw (if rest.isEmpty then .escapeUnfinished else .hexInvalid)
    let some n := Text.number? 16 taken | throw .hexInvalid
    return (symbol ⟨← charOfCode? n, digits == 2⟩, rest)

/-! ## Names -/

/-- What stands in front of the first occurrence of a word, and what behind it. -/
def cut? (word : Text) : Text → Option (Text × Text)
  | [] => none
  | c :: rest =>
    if word.isPrefixOf (c :: rest) then some ([], (c :: rest).drop word.length)
    else (cut? word rest).map fun (front, behind) => (c :: front, behind)

/-- The property that a name in braces asks for, and whether it must not have the value. An
operator between the property and its value is looked for in the order `!=`, `:`, `=`. -/
def propertyName (name : Text) : PropertyName × Bool :=
  match cut? ['!', '='] name with
  | some (asked, value) => (.value asked value, true)
  | none =>
    match (cut? [':'] name).or (cut? ['='] name) with
    | some (asked, value) => (.value asked value, false)
    | none => (.word name, false)

/-- A property of characters, behind the letter that announces it: one more letter, or a name
in braces. -/
def readProperty (ignore negated : Bool) (t : Text) : Except Fault (Expression × Text) :=
  match skip ignore t with
  | [] => throw .escapeUnfinished
  | '{' :: rest =>
    match takeSpaced ignore (· != '}') false none rest with
    | (taken, '}' :: rest) =>
      let (name, unequal) := propertyName taken
      pure (property name (negated != unequal), rest)
    | _ => throw .escapeUnfinished
  | '\\' :: _ => throw .propertyInvalid
  | c :: rest => pure (property (.letter c) negated, rest)

/-- The kind of word boundary that may be named in braces; nothing if a count stands there. -/
def readBoundary (ignore : Bool) (t : Text) : Except Fault (Option (Anchor × Text)) :=
  let isLetter (c : Char) := c.isAlpha || c == '-'
  match skip ignore t with
  | [] => throw .boundaryUnclosed
  | c :: rest =>
    if !isLetter c then pure none
    else match takeSpaced ignore isLetter false none (c :: rest) with
      | (name, '}' :: rest) =>
        match String.ofList name with
        | "start" => pure (some (.wordStart, rest))
        | "end" => pure (some (.wordEnd, rest))
        | "start-half" => pure (some (.wordStartHalf, rest))
        | "end-half" => pure (some (.wordEndHalf, rest))
        | _ => throw .boundaryUnknown
      | _ => throw .boundaryUnclosed

/-! ## Escapes -/

/-- The characters that mean something in an expression, and can be escaped to mean
themselves. -/
def isMeta (c : Char) : Bool := "\\.+*?()|[]\x7b\x7d^$#&-~".toList.contains c

/-- Whether a backslash in front of a character makes it stand for itself. -/
def isEscapable (c : Char) : Bool :=
  isMeta c || (c.toNat < 0x80 && !c.isAlphanum && c != '<' && c != '>')

/-- What a backslash and the characters behind it stand for. -/
def readEscape (ignore : Bool) : Text → Except Fault (Expression × Text)
  | [] => throw .escapeUnfinished
  | c :: rest =>
    let verbatim (c : Char) := pure (symbol ⟨c, false⟩, rest)
    let assertion (kind : Anchor) := pure (anchor kind, rest)
    match c with
    | 'x' => readHex ignore 2 rest
    | 'u' => readHex ignore 4 rest
    | 'U' => readHex ignore 8 rest
    | 'p' => readProperty ignore false rest
    | 'P' => readProperty ignore true rest
    | 'd' => pure (shorthand .digit false, rest)
    | 'D' => pure (shorthand .digit true, rest)
    | 's' => pure (shorthand .blank false, rest)
    | 'S' => pure (shorthand .blank true, rest)
    | 'w' => pure (shorthand .word false, rest)
    | 'W' => pure (shorthand .word true, rest)
    | 'a' => verbatim '\x07'
    | 'f' => verbatim '\x0c'
    | 't' => verbatim '\t'
    | 'n' => verbatim '\n'
    | 'r' => verbatim '\r'
    | 'v' => verbatim '\x0b'
    | 'A' => assertion .textStart
    | 'z' => assertion .textEnd
    | 'B' => assertion .notWordEdge
    | '<' => assertion .wordStart
    | '>' => assertion .wordEnd
    | 'b' =>
      match rest with
      | '{' :: inside => do
        match ← readBoundary ignore inside with
        | some (kind, rest) => pure (anchor kind, rest)
        | none => assertion .wordEdge
      | _ => assertion .wordEdge
    | c =>
      if isEscapable c then verbatim c
      else if c.isDigit then throw .backReference
      else throw .escapeUnknown

end ControlSearch.Regex.Expression
