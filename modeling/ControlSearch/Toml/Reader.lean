import ControlSearch.Toml

/-!
# Reading TOML

A document is read line by line: comments, headers, and keys with their values. A reader takes
a text and gives what it has read with the rest, or nothing.
-/
namespace ControlSearch.Toml

/-! ## Blanks and comments -/

def isSpace (c : Char) : Bool := c == ' ' || c == '\t'

def skipSpaces (t : Text) : Text := t.dropWhile isSpace

/-- The rest behind the end of a line. -/
def newline? : Text → Option Text
  | '\n' :: rest => some rest
  | '\r' :: '\n' :: rest => some rest
  | _ => none

/-- Whether a character may stand in a comment. -/
def isComment (c : Char) : Bool := c == '\t' || (c.toNat ≥ 0x20 && c.toNat ≠ 0x7F)

/-- The rest of a line that has nothing more to say, or the end of the text. -/
def lineEnd? (t : Text) : Option Text :=
  let rest := match skipSpaces t with
    | '#' :: rest => rest.dropWhile isComment
    | rest => rest
  if rest.isEmpty then some [] else newline? rest

/-- Skips blanks, ends of lines and comments. A comment has to end with its line. Each round
takes at least one character, so `fuel` need not exceed the length of the text. -/
def skipLines : Nat → Text → Option Text
  | 0, t => some t
  | fuel + 1, t =>
    match skipSpaces t with
    | '#' :: rest => (newline? (rest.dropWhile isComment)).bind (skipLines fuel)
    | t =>
      match newline? t with
      | some rest => skipLines fuel rest
      | none => some t

/-! ## Strings -/

/-- Whether a character stands for itself between double quotes. -/
def isBasic (c : Char) : Bool :=
  c == '\t' || (c.toNat ≥ 0x20 && c.toNat != 0x7F && c != '"' && c != '\\')

/-- Whether a character stands for itself between single quotes. -/
def isLiteral (c : Char) : Bool :=
  c == '\t' || (c.toNat ≥ 0x20 && c.toNat != 0x7F && c != '\'')

/-- The character of some hexadecimal digits. -/
def codeChar? (digits : Text) : Option Char :=
  (Text.number? 16 digits).bind fun n => if n.isValidChar then some (Char.ofNat n) else none

/-- The character behind a backslash, if it is one of those with a short escape. -/
def unescaped? : Char → Option Char
  | '"' => some '"'
  | '\\' => some '\\'
  | 'b' => some '\x08'
  | 'f' => some '\x0c'
  | 'n' => some '\n'
  | 'r' => some '\r'
  | 't' => some '\t'
  | _ => none

/-- What a backslash and the characters behind it stand for. -/
def readEscape : Text → Option (Char × Text)
  | 'u' :: a :: b :: c :: d :: rest => (codeChar? [a, b, c, d]).map (·, rest)
  | 'U' :: a :: b :: c :: d :: e :: f :: g :: h :: rest =>
    (codeChar? [a, b, c, d, e, f, g, h]).map (·, rest)
  | c :: rest => (unescaped? c).map (·, rest)
  | [] => none

/-- Text between double quotes, up to the closing one. -/
def readBasic : Nat → Text → Option (Text × Text)
  | 0, _ => none
  | fuel + 1, t =>
    match t with
    | '"' :: rest => some ([], rest)
    | '\\' :: rest => do
      let (c, rest) ← readEscape rest
      let (t, rest) ← readBasic fuel rest
      return (c :: t, rest)
    | c :: rest =>
      if isBasic c then (readBasic fuel rest).map fun (t, rest) => (c :: t, rest) else none
    | [] => none

/-- Text between single quotes, up to the closing one. -/
def readLiteral (t : Text) : Option (Text × Text) :=
  match t.dropWhile isLiteral with
  | '\'' :: rest => some (t.takeWhile isLiteral, rest)
  | _ => none

/-- The quotes at an end that belong to the text: of three to five quotes the last three close
it. -/
def closing? (quote : Char) (t : Text) : Option (Text × Text) :=
  let run := (t.takeWhile (· == quote)).length
  if run < 3 then none
  else some (List.replicate (min run 5 - 3) quote, t.drop (min run 5))

/-- Skips blanks and ends of lines. -/
def skipBlankLines : Nat → Text → Text
  | 0, t => t
  | fuel + 1, t =>
    match newline? (skipSpaces t) with
    | some rest => skipBlankLines fuel rest
    | none => skipSpaces t

/-- Text over several lines between double quotes. A backslash at the end of a line joins it
with the next text. -/
def readBasicLines : Nat → Text → Option (Text × Text)
  | 0, _ => none
  | fuel + 1, t =>
    match closing? '"' t with
    | some found => some found
    | none =>
      match t with
      | '\\' :: rest =>
        match newline? (skipSpaces rest) with
        | some rest => readBasicLines fuel (skipBlankLines rest.length rest)
        | none => do
          let (c, rest) ← readEscape rest
          let (t, rest) ← readBasicLines fuel rest
          return (c :: t, rest)
      | c :: rest =>
        if c = '"' ∨ isBasic c then (readBasicLines fuel rest).map fun (t, rest) =>
          (c :: t, rest)
        else do
          let rest ← newline? (c :: rest)
          let (t, rest) ← readBasicLines fuel rest
          return ('\n' :: t, rest)
      | [] => none

/-- Text over several lines between single quotes. -/
def readLiteralLines : Nat → Text → Option (Text × Text)
  | 0, _ => none
  | fuel + 1, t =>
    match closing? '\'' t with
    | some found => some found
    | none =>
      match t with
      | c :: rest =>
        if c = '\'' ∨ isLiteral c then
          (readLiteralLines fuel rest).map fun (t, rest) => (c :: t, rest)
        else do
          let rest ← newline? (c :: rest)
          let (t, rest) ← readLiteralLines fuel rest
          return ('\n' :: t, rest)
      | [] => none

/-- Leaves out the end of a line right behind the opening quotes. -/
def dropFirstNewline (t : Text) : Text := (newline? t).getD t

/-- A string of any form. -/
def readString (t : Text) : Option (Text × Text) :=
  match t with
  | '"' :: '"' :: '"' :: rest =>
    let rest := dropFirstNewline rest
    readBasicLines (rest.length + 1) rest
  | '"' :: rest => readBasic (rest.length + 1) rest
  | '\'' :: '\'' :: '\'' :: rest =>
    let rest := dropFirstNewline rest
    readLiteralLines (rest.length + 1) rest
  | '\'' :: rest => readLiteral rest
  | _ => none

/-! ## Keys -/

def isBare (c : Char) : Bool := c.isAlphanum || c == '_' || c == '-'

def readKey (t : Text) : Option (Text × Text) :=
  match t with
  | '"' :: rest => readBasic (rest.length + 1) rest
  | '\'' :: rest => readLiteral rest
  | t =>
    let key := t.takeWhile isBare
    if key.isEmpty then none else some (key, t.dropWhile isBare)

/-- Keys with dots between them, and blanks around them. -/
def readKeys : Nat → Text → Option (List Text × Text)
  | 0, _ => none
  | fuel + 1, t => do
    let (key, rest) ← readKey (skipSpaces t)
    match skipSpaces rest with
    | '.' :: rest => do
      let (keys, rest) ← readKeys fuel rest
      return (key :: keys, rest)
    | rest => return ([key], rest)

/-- The deepest nesting of tables and arrays that is read. -/
def maxDepth : Nat := 80

/-- The path and the last of some dotted keys, which must not be too many. -/
def readPath (t : Text) : Option (List Text × Text × Text) := do
  let (keys, rest) ← readKeys (t.length + 1) t
  if maxDepth ≤ keys.length then none
  let last ← keys.getLast?
  return (keys.dropLast, last, rest)

/-! ## Numbers and dates -/

/-- Digits of a base, with single underscores between them. -/
def readDigits (base : Nat) : Nat → Text → Option (Text × Text)
  | 0, _ => none
  | fuel + 1, t =>
    match t with
    | c :: rest =>
      if Text.isDigitOf base c then
        match rest with
        | '_' :: rest => (readDigits base fuel rest).map fun (digits, rest) =>
          (c :: digits, rest)
        | d :: rest =>
          if Text.isDigitOf base d then
            (readDigits base fuel (d :: rest)).map fun (digits, rest) => (c :: digits, rest)
          else some ([c], d :: rest)
        | [] => some ([c], [])
      else none
    | [] => none

/-- A sign, if there is one, tells whether it is a minus. -/
def readSign : Text → Bool × Text
  | '-' :: rest => (true, rest)
  | '+' :: rest => (false, rest)
  | t => (false, t)

/-- A decimal integer without a needless zero in front. -/
def readDecimal (t : Text) : Option (Bool × Text × Text) :=
  let (negative, t) := readSign t
  match t with
  | '0' :: rest => some (negative, ['0'], rest)
  | t => (readDigits 10 (t.length + 1) t).map fun (digits, rest) => (negative, digits, rest)

/-- An integer of 64 bits. -/
def readInteger (t : Text) : Option (Value × Text) := do
  let based (base : Nat) (rest : Text) : Option (Value × Text) := do
    let (digits, rest) ← readDigits base (rest.length + 1) rest
    let n ← Text.number? base digits
    if n < Nat.pow 2 63 then some (.integer n, rest) else none
  match t with
  | '0' :: 'x' :: rest => based 16 rest
  | '0' :: 'o' :: rest => based 8 rest
  | '0' :: 'b' :: rest => based 2 rest
  | t => do
    let (negative, digits, rest) ← readDecimal t
    let n ← Text.number? 10 digits
    let value : Int := if negative then -n else n
    if -(Nat.pow 2 63 : Nat) ≤ value ∧ value < (Nat.pow 2 63 : Nat) then
      some (.integer value, rest)
    else none

/-- The exponent of a number. -/
def readExponent : Text → Option (Int × Text)
  | c :: rest =>
    if c = 'e' ∨ c = 'E' then do
      let (negative, rest) := readSign rest
      let (digits, rest) ← readDigits 10 (rest.length + 1) rest
      let n ← Text.number? 10 digits
      return (if negative then -n else n, rest)
    else none
  | [] => none

/-- Whether `digits` times a power of ten is too large for a number of 64 bits with a
fraction: it is at least half a step above the greatest one. -/
def isHuge (digits : Text) (power : Int) : Bool :=
  let n := (Text.number? 10 digits).getD 0
  let bound := Nat.pow 2 1024 - Nat.pow 2 970
  let length := (digits.dropWhile (· == '0')).length
  if n = 0 then false
  else if power + length > 310 then true
  else match power with
    | .ofNat p => n * Nat.pow 10 p ≥ bound
    | .negSucc p => if length ≤ 308 then false else n ≥ bound * Nat.pow 10 (p + 1)

/-- A number with a fraction, an exponent or both; or one that is infinite or none. -/
def readFloat (t : Text) : Option (Value × Text) :=
  match (readSign t).2 with
  | 'i' :: 'n' :: 'f' :: rest | 'n' :: 'a' :: 'n' :: rest => some (.float, rest)
  | _ => do
    let (negative, whole, rest) ← readDecimal t
    let finish (digits : Text) (power : Int) (rest : Text) : Option (Value × Text) :=
      if !negative && isHuge digits power then none else some (.float, rest)
    match rest with
    | '.' :: rest => do
      let (fraction, rest) ← readDigits 10 (rest.length + 1) rest
      match readExponent rest with
      | some (power, rest) => finish (whole ++ fraction) (power - fraction.length) rest
      | none => finish (whole ++ fraction) (-fraction.length) rest
    | rest => do
      let (power, rest) ← readExponent rest
      finish whole power rest

/-- A number of exactly two digits, or four for a year, within bounds. -/
def readField (digits least most : Nat) (t : Text) : Option (Nat × Text) := do
  let n ← Text.number? 10 (t.take digits)
  if (t.take digits).length = digits ∧ least ≤ n ∧ n ≤ most then some (n, t.drop digits)
  else none

/-- The rest behind one of some characters. -/
def readOneOf (chars : List Char) : Text → Option Text
  | c :: rest => if chars.contains c then some rest else none
  | [] => none

/-- A time of day with seconds. -/
def readTime (t : Text) : Option Text := do
  let (_, t) ← readField 2 0 23 t
  let (_, t) ← readField 2 0 59 (← readOneOf [':'] t)
  let (_, t) ← readField 2 0 60 (← readOneOf [':'] t)
  match t with
  | '.' :: rest =>
    if (rest.takeWhile Char.isDigit).isEmpty then none else some (rest.dropWhile Char.isDigit)
  | t => some t

/-- The distance from world time, if it is given. -/
def readOffset (t : Text) : Option Text :=
  match t with
  | 'Z' :: rest | 'z' :: rest => some rest
  | '+' :: rest | '-' :: rest => do
    let (_, rest) ← readField 2 0 23 rest
    let (_, rest) ← readField 2 0 59 (← readOneOf [':'] rest)
    some rest
  | t => some t

/-- The days of a month. -/
def monthDays (year month : Nat) : Nat :=
  if month = 2 then
    if year % 4 = 0 ∧ (year % 100 ≠ 0 ∨ year % 400 = 0) then 29 else 28
  else if month = 4 ∨ month = 6 ∨ month = 9 ∨ month = 11 then 30
  else 31

/-- A date, a time or both. -/
def readDate (t : Text) : Option (Value × Text) :=
  match readField 4 0 9999 t with
  | some (year, '-' :: rest) => do
    let (month, rest) ← readField 2 1 12 rest
    let (_, rest) ← readField 2 1 (monthDays year month) (← readOneOf ['-'] rest)
    match (readOneOf ['T', 't', ' '] rest).bind readTime with
    | some rest => (readOffset rest).map (.date, ·)
    | none => some (.date, rest)
  | _ => (readTime t).map (.date, ·)

/-! ## Values -/

/-- The rest of a text behind a given start. -/
def readWord (word t : Text) : Option Text :=
  if word.isPrefixOf t then some (t.drop word.length) else none

mutual

/-- A value inside `depth` arrays and tables in braces. -/
def readValue (depth : Nat) : Nat → Text → Option (Value × Text)
  | 0, _ => none
  | fuel + 1, t =>
    match t with
    | [] => none
    | '[' :: rest =>
      if maxDepth ≤ depth + 1 then none
      else (readItems (depth + 1) fuel rest).map fun (items, rest) => (.array items, rest)
    | '\x7b' :: rest =>
      if maxDepth ≤ depth + 1 then none
      else match skipSpaces rest with
        | '\x7d' :: rest => some (.table [], rest)
        | rest =>
          (readMembers (depth + 1) fuel .root rest).map fun (table, rest) =>
            (table.finish, rest)
    | c :: rest =>
      if c = '"' ∨ c = '\'' then (readString (c :: rest)).map fun (s, rest) =>
        (.string s, rest)
      else if c = 't' then (readWord "rue".toList rest).map (.boolean true, ·)
      else if c = 'f' then (readWord "alse".toList rest).map (.boolean false, ·)
      else readDate (c :: rest) <|> readFloat (c :: rest) <|> readInteger (c :: rest)

/-- The items of an array, behind its bracket. The last one may have a comma too. -/
def readItems (depth : Nat) : Nat → Text → Option (List Value × Text)
  | 0, _ => none
  | fuel + 1, t => do
    match ← skipLines t.length t with
    | ']' :: rest => return ([], rest)
    | t => do
      let (item, rest) ← readValue depth fuel t
      match ← skipLines rest.length rest with
      | ',' :: rest => do
        let (items, rest) ← readItems depth fuel rest
        return (item :: items, rest)
      | ']' :: rest => return ([item], rest)
      | _ => none

/-- The members of a table in braces, which is on one line. -/
def readMembers (depth : Nat) : Nat → Node → Text → Option (Node × Text)
  | 0, _, _ => none
  | fuel + 1, table, t => do
    let (path, key, rest) ← readPath t
    match rest with
    | '=' :: rest => do
      let (value, rest) ← readValue depth fuel (skipSpaces rest)
      let table ← table.assign [] path key value
      match skipSpaces rest with
      | ',' :: rest => readMembers depth fuel table rest
      | '\x7d' :: rest => return (table, rest)
      | _ => none
    | _ => none

end

/-! ## Documents -/

/-- A key with its value, up to the end of the line, in the table of the last header. -/
def readAssignment (header : List Text) (doc : Node) (t : Text) : Option (Node × Text) := do
  let (path, key, rest) ← readPath t
  match rest with
  | '=' :: rest => do
    let rest := skipSpaces rest
    let (value, rest) ← readValue 0 (2 * rest.length + 1) rest
    return (← doc.assign header path key value, ← lineEnd? rest)
  | _ => none

/-- A header, behind its first bracket, up to the end of the line. Gives the path of its
table. -/
def readHeader (doc : Node) (t : Text) : Option (List Text × Node × Text) :=
  match t with
  | '[' :: rest => do
    let (path, key, rest) ← readPath rest
    match rest with
    | ']' :: ']' :: rest => return (path ++ [key], ← doc.beginItem path key, ← lineEnd? rest)
    | _ => none
  | t => do
    let (path, key, rest) ← readPath t
    match rest with
    | ']' :: rest => return (path ++ [key], ← doc.beginTable path key, ← lineEnd? rest)
    | _ => none

/-- Reads on, line by line. -/
def readOn : Nat → List Text → Node → Text → Option Node
  | 0, _, _, _ => none
  | fuel + 1, header, doc, t =>
    match skipSpaces t with
    | [] => some doc
    | '[' :: rest => do
      let (header, doc, rest) ← readHeader doc rest
      readOn fuel header doc rest
    | '#' :: rest => (lineEnd? ('#' :: rest)).bind (readOn fuel header doc)
    | t =>
      match newline? t with
      | some rest => readOn fuel header doc rest
      | none => do
        let (doc, rest) ← readAssignment header doc t
        readOn fuel header doc rest

/-- Reads a document; a byte order mark may stand in front of it. -/
def read (t : Text) : Option Value :=
  let t := match t with
    | '\ufeff' :: rest => rest
    | t => t
  (readOn (t.length + 1) [] .root t).map Node.finish

end ControlSearch.Toml
