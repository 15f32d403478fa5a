import ControlSearch.Text.Numeral

/-!
# Strings of a TOML document

A string is written in the plainest form that needs no escapes: between double quotes, between
single quotes, and with three quotes of either kind. Only if none of these can hold it,
characters are escaped.
-/
namespace ControlSearch.Toml

/-- The forms of a string. -/
inductive Quoting where
  | basic
  | literal
  | basicLines
  | literalLines
  deriving DecidableEq, Repr

/-- The length of the longest run of a character. -/
def longestRun (c : Char) (current : Nat) : Text → Nat
  | [] => current
  | d :: rest =>
    if d = c then longestRun c (current + 1) rest else max current (longestRun c 0 rest)

/-- The control characters that always need an escape. -/
def isControl (c : Char) : Bool :=
  (c.toNat ≤ 0x1F && c != '\t' && c != '\n') || c.toNat == 0x7F

namespace Quoting

/-- The form that a string is written in. -/
def choose (t : Text) : Quoting :=
  let controls := t.any isControl
  let lines := t.contains '\n'
  let backslashes := t.contains '\\'
  if !controls && !backslashes && !t.contains '"' && !lines then basic
  else if !controls && !t.contains '\'' && !lines then literal
  else if !controls && !backslashes && longestRun '"' 0 t ≤ 2 then basicLines
  else if !controls && longestRun '\'' 0 t ≤ 2 then literalLines
  else if lines then basicLines
  else basic

end Quoting

/-- A digit below sixteen, in capitals. -/
def capitalDigit (n : Nat) : Char :=
  if n < 10 then Char.ofNat (0x30 + n) else Char.ofNat (0x37 + n)

/-- A character between double quotes, unless it is one. -/
def escaped (lines : Bool) (c : Char) : Text :=
  if c = '\x08' then ['\\', 'b']
  else if c = '\t' then ['\\', 't']
  else if c = '\n' then if lines then ['\n'] else ['\\', 'n']
  else if c = '\x0c' then ['\\', 'f']
  else if c = '\r' then ['\\', 'r']
  else if c = '\\' then ['\\', '\\']
  else if isControl c then
    ['\\', 'u', '0', '0', capitalDigit (c.toNat / 16), capitalDigit (c.toNat % 16)]
  else [c]

/-- Text between double quotes. Over several lines, two double quotes may stand side by side;
`quotes` are those just written. -/
def escapeAll (lines : Bool) (quotes : Nat) : Text → Text
  | [] => []
  | c :: rest =>
    if c = '"' then
      if lines && quotes < 2 then c :: escapeAll lines (quotes + 1) rest
      else '\\' :: c :: escapeAll lines 0 rest
    else escaped lines c ++ escapeAll lines 0 rest

/-- What stands behind the opening quotes: a string of several lines begins on a line of its
own. -/
def opening (t : Text) : Text := if t.contains '\n' then ['\n'] else []

/-- A string with its quotes. -/
def quoted (t : Text) : Text :=
  match Quoting.choose t with
  | .basic => '"' :: escapeAll false 0 t ++ ['"']
  | .literal => '\'' :: t ++ ['\'']
  | .basicLines => "\"\"\"".toList ++ opening t ++ escapeAll true 0 t ++ "\"\"\"".toList
  | .literalLines => "'''".toList ++ opening t ++ t ++ "'''".toList

end ControlSearch.Toml
