import ControlSearch.Regex

/-!
# Wildcard specs

A spec is read from left to right: `*` stands for any run of characters, `?` for one
character, and a backslash in front of `*`, `?` or a backslash makes that character stand for
itself. Everything else stands for itself, a backslash included.
-/
namespace ControlSearch

/-- What one part of a wildcard spec stands for. -/
inductive Wildcard where
  | char (c : Char)
  | anyChar
  | anyRun
  deriving DecidableEq, Repr

namespace Wildcard

/-- Whether a backslash makes a character stand for itself. -/
def isSpecial (c : Char) : Bool := c == '*' || c == '?' || c == '\\'

/-- What a character stands for without a backslash. -/
def plain (c : Char) : Wildcard :=
  if c = '*' then anyRun else if c = '?' then anyChar else char c

/-- The parts of a spec. Behind a backslash that escapes nothing, the next character is taken
as it is. -/
def ofSpec : Text → List Wildcard
  | [] => []
  | '\\' :: [] => [char '\\']
  | '\\' :: c :: rest =>
    if isSpecial c then char c :: ofSpec rest else char '\\' :: char c :: ofSpec rest
  | c :: rest => plain c :: ofSpec rest

/-- Whether there is nothing but runs of any characters. -/
def isOpen (parts : List Wildcard) : Bool := parts.all (· == anyRun)

/-- The characters of a spec that has nothing but characters. -/
def literal? (parts : List Wildcard) : Option Text :=
  parts.mapM fun
    | char c => some c
    | _ => none

/-- The characters that wildcards stand for; line feeds only if they are told to. -/
def anyChars (dotNewLine : Bool) : CharSet :=
  if dotNewLine then .all else (CharSet.singleton '\n').complement

/-- The expression of one part. -/
def regex (dotNewLine : Bool) : Wildcard → Regex
  | char c => .char c
  | anyChar => .set (anyChars dotNewLine)
  | anyRun => .rounds (.set (anyChars dotNewLine)) 0 none true

end Wildcard
end ControlSearch
