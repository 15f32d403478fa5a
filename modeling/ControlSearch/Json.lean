import ControlSearch.Text.Numeral

/-!
# JSON

JSON values, written and read as text. Members of objects keep their order, and may repeat a
name. A string is kept apart from its escapes; one that names half a pair of surrogates is no
text, but the value around it can still be read.
-/
namespace ControlSearch

/-- A JSON value. -/
inductive Json where
  | null
  | bool (b : Bool)
  /-- A number; its value if it is an integer written without fraction and exponent. -/
  | number (value : Option Int)
  /-- A string, as far as its escapes name characters. -/
  | string (value : Option Text)
  | array (items : List Json)
  | object (members : List (Option Text × Json))
  deriving Repr, Inhabited

namespace Json

def ofText (t : Text) : Json := string (some t)

/-! ## Writing -/

/-- The hexadecimal digit of a number below sixteen. -/
def hexDigit (n : Nat) : Char :=
  if n < 10 then Char.ofNat (0x30 + n) else Char.ofNat (0x57 + n)

/-- A character in a string. -/
def escaped (c : Char) : Text :=
  if c = '"' then ['\\', '"']
  else if c = '\\' then ['\\', '\\']
  else if c = '\x08' then ['\\', 'b']
  else if c = '\x0c' then ['\\', 'f']
  else if c = '\n' then ['\\', 'n']
  else if c = '\r' then ['\\', 'r']
  else if c = '\t' then ['\\', 't']
  else if c.toNat < 0x20 then
    ['\\', 'u', '0', '0', hexDigit (c.toNat / 16), hexDigit (c.toNat % 16)]
  else [c]

/-- A string with its quotes. -/
def quoted (t : Text) : Text := '"' :: t.flatMap escaped ++ ['"']

/-- The numeral of an integer. -/
def numeral : Int → Text
  | .ofNat n => Text.ofNat n
  | .negSucc n => '-' :: Text.ofNat (n + 1)

mutual

/-- A value as text, without blanks. What has no value of its own is written as `null`. -/
def write : Json → Text
  | null => "null".toList
  | bool true => "true".toList
  | bool false => "false".toList
  | number value => (value.map numeral).getD "null".toList
  | string value => (value.map quoted).getD "null".toList
  | array items => '[' :: writeItems items ++ [']']
  | object members => '\x7b' :: writeMembers members ++ ['\x7d']

def writeItems : List Json → Text
  | [] => []
  | [item] => item.write
  | item :: rest => item.write ++ ',' :: writeItems rest

def writeMembers : List (Option Text × Json) → Text
  | [] => []
  | [(name, value)] => quoted (name.getD []) ++ ':' :: value.write
  | (name, value) :: rest =>
    quoted (name.getD []) ++ ':' :: value.write ++ ',' :: writeMembers rest

end

/-! ## Reading -/

/-- Blanks between the parts of a value. -/
def isBlank (c : Char) : Bool := c == ' ' || c == '\n' || c == '\t' || c == '\r'

def skip (t : Text) : Text := t.dropWhile isBlank

/-- One element of a string: a character, or half of a pair. -/
inductive Unit16 where
  | char (c : Char)
  | half (n : Nat)

/-- Joins the halves of pairs. -/
def joinHalves : List Unit16 → Option Text
  | [] => some []
  | .char c :: rest => (joinHalves rest).map (c :: ·)
  | .half high :: .half low :: rest =>
    if high < 0xDC00 ∧ 0xDC00 ≤ low then
      (joinHalves rest).map
        (Char.ofNat (0x10000 + (high - 0xD800) * 0x400 + (low - 0xDC00)) :: ·)
    else none
  | .half _ :: _ => none

/-- The character behind a backslash, if it is one of those with a short escape. -/
def unescaped? : Char → Option Char
  | '"' => some '"'
  | '\\' => some '\\'
  | '/' => some '/'
  | 'b' => some '\x08'
  | 'f' => some '\x0c'
  | 'n' => some '\n'
  | 'r' => some '\r'
  | 't' => some '\t'
  | _ => none

/-- The inside of a string up to its closing quote, and what follows. -/
def readString : Text → Option (List Unit16 × Text)
  | [] => none
  | '"' :: rest => some ([], rest)
  | '\\' :: 'u' :: a :: b :: c :: d :: rest => do
    let n ← Text.number? 16 [a, b, c, d]
    let unit := if 0xD800 ≤ n ∧ n ≤ 0xDFFF then .half n else .char (Char.ofNat n)
    let (units, rest) ← readString rest
    return (unit :: units, rest)
  | '\\' :: c :: rest => do
    let c ← unescaped? c
    let (units, rest) ← readString rest
    return (.char c :: units, rest)
  | c :: rest =>
    if c.toNat < 0x20 then none
    else do
      let (units, rest) ← readString rest
      return (.char c :: units, rest)

/-- One digit or more. -/
def readDigits (t : Text) : Option (Text × Text) :=
  let digits := t.takeWhile Char.isDigit
  if digits.isEmpty then none else some (digits, t.dropWhile Char.isDigit)

/-- The fraction of a number, if there is one, tells whether it is there. -/
def readFraction : Text → Option (Bool × Text)
  | '.' :: rest => (readDigits rest).map fun (_, rest) => (true, rest)
  | t => some (false, t)

/-- The exponent of a number, if there is one, tells whether it is there. -/
def readExponent : Text → Option (Bool × Text)
  | c :: rest =>
    if c = 'e' ∨ c = 'E' then
      let rest := match rest with
        | '+' :: rest | '-' :: rest => rest
        | rest => rest
      (readDigits rest).map fun (_, rest) => (true, rest)
    else some (false, c :: rest)
  | [] => some (false, [])

/-- A number. The integer part has no needless zero in front, and minus zero is no integer. -/
def readNumber (t : Text) : Option (Json × Text) := do
  let (negative, t) := match t with
    | '-' :: rest => (true, rest)
    | t => (false, t)
  let (digits, t) ← readDigits t
  if digits.head? = some '0' ∧ digits.length > 1 then none
  let (fraction, t) ← readFraction t
  let (exponent, t) ← readExponent t
  let n ← Text.number? 10 digits
  let value : Option Int :=
    if fraction || exponent || (negative && n == 0) then none
    else some (if negative then -n else n)
  return (number value, t)

/-- The rest of a text behind a given start. -/
def readWord (word : Text) (t : Text) : Option Text :=
  if word.isPrefixOf t then some (t.drop word.length) else none

mutual

/-- A value and what follows it. Each step takes at least one character, so `fuel` need not
exceed the length of the text. -/
def readValue : Nat → Text → Option (Json × Text)
  | 0, _ => none
  | fuel + 1, t =>
    match skip t with
    | [] => none
    | 'n' :: rest => (readWord "ull".toList rest).map (null, ·)
    | 't' :: rest => (readWord "rue".toList rest).map (bool true, ·)
    | 'f' :: rest => (readWord "alse".toList rest).map (bool false, ·)
    | '"' :: rest => (readString rest).map fun (units, rest) =>
      (string (joinHalves units), rest)
    | '[' :: rest =>
      match skip rest with
      | ']' :: rest => some (array [], rest)
      | rest => (readItems fuel rest).map fun (items, rest) => (array items, rest)
    | '\x7b' :: rest =>
      match skip rest with
      | '\x7d' :: rest => some (object [], rest)
      | rest => (readMembers fuel rest).map fun (members, rest) => (object members, rest)
    | t => readNumber t

/-- The items of an array up to its end. -/
def readItems : Nat → Text → Option (List Json × Text)
  | 0, _ => none
  | fuel + 1, t => do
    let (item, t) ← readValue fuel t
    match skip t with
    | ',' :: rest => do
      let (items, rest) ← readItems fuel rest
      return (item :: items, rest)
    | ']' :: rest => return ([item], rest)
    | _ => none

/-- The members of an object up to its end. -/
def readMembers : Nat → Text → Option (List (Option Text × Json) × Text)
  | 0, _ => none
  | fuel + 1, t =>
    match skip t with
    | '"' :: rest => do
      let (units, rest) ← readString rest
      match skip rest with
      | ':' :: rest => do
        let (value, rest) ← readValue fuel rest
        match skip rest with
        | ',' :: rest => do
          let (members, rest) ← readMembers fuel rest
          return ((joinHalves units, value) :: members, rest)
        | '\x7d' :: rest => return ([(joinHalves units, value)], rest)
        | _ => none
      | _ => none
    | _ => none

end

/-- Reads a text as one value with nothing but blanks around it. -/
def read (t : Text) : Option Json := do
  let (value, rest) ← readValue (t.length + 1) t
  if (skip rest).isEmpty then some value else none

end Json
end ControlSearch
