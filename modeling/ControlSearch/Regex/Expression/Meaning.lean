import ControlSearch.CharSet.Folding
import ControlSearch.Regex.Expression.Property
import ControlSearch.Regex.Expression.Reader
import ControlSearch.Regex.Simplify

/-!
# What written expressions mean

The meaning of an expression depends on the flags in force. A flag set inside a group is in
force up to the end of the group, also in its later alternatives. Outside Unicode mode only
ASCII characters can be meant, because everything else would match parts of characters, and
properties cannot be asked for. Which characters have a property is taken from outside.
-/
namespace ControlSearch.Regex

/-- The flags in force. Blanks matter only to reading. -/
structure Flags where
  caseInsensitive : Bool
  multiLine : Bool
  dotNewLine : Bool
  swapGreed : Bool
  unicode : Bool
  carriageReturn : Bool
  deriving DecidableEq, Repr

namespace Flags

/-- The flags at the start of an expression. -/
def initial (dotNewLine : Bool) : Flags := ⟨false, false, dotNewLine, false, true, false⟩

def set (flags : Flags) : Flag × Bool → Flags
  | (.caseInsensitive, on) => { flags with caseInsensitive := on }
  | (.multiLine, on) => { flags with multiLine := on }
  | (.dotNewLine, on) => { flags with dotNewLine := on }
  | (.swapGreed, on) => { flags with swapGreed := on }
  | (.unicode, on) => { flags with unicode := on }
  | (.carriageReturn, on) => { flags with carriageReturn := on }
  | (.ignoreBlanks, _) => flags

def setAll (flags : Flags) (changes : List (Flag × Bool)) : Flags := changes.foldl set flags

def alphabet (flags : Flags) : Alphabet := if flags.unicode then .unicode else .ascii

def lineEnding (flags : Flags) : LineEnding :=
  if flags.carriageReturn then .carriageReturn else .lineFeed

/-- Adds the other case of the members, if case does not matter. -/
def folded (flags : Flags) (s : CharSet) : CharSet :=
  if !flags.caseInsensitive then s
  else if flags.unicode then s.fold else s.foldAscii

/-- Refuses, outside Unicode mode, a set with members beyond ASCII. -/
def checked (flags : Flags) (s : CharSet) : Except Expression.Fault CharSet :=
  if flags.unicode || s.isAscii then pure s else throw .notUtf8

/-- A set or its complement. The complement is taken after folding. -/
def finished (flags : Flags) (negated : Bool) (s : CharSet) :
    Except Expression.Fault CharSet :=
  let s := flags.folded s
  flags.checked (if negated then s.complement else s)

/-- The character that a symbol stands for. -/
def char (flags : Flags) (s : Symbol) : Except Expression.Fault Char :=
  if !flags.unicode && s.isByte && s.char.toNat > 0x7F then throw .notUtf8 else pure s.char

/-- A character inside a class. -/
def classChar (flags : Flags) (s : Symbol) : Except Expression.Fault Char := do
  let c ← flags.char s
  if !flags.unicode && c.toNat > 0x7F then throw .unicodeNotAllowed
  return c

end Flags

def Shorthand.members (flags : Flags) : Shorthand → CharSet
  | digit => if flags.unicode then .decimalDigit else .asciiDigit
  | blank => if flags.unicode then .blank else .asciiBlank
  | word => if flags.unicode then .word else .asciiWord

/-- The characters of a shorthand. These classes are closed under folding. -/
def Shorthand.chars (flags : Flags) (kind : Shorthand) (negated : Bool) :
    Except Expression.Fault CharSet :=
  let s := kind.members flags
  flags.checked (if negated then s.complement else s)

variable (properties : Properties)

/-- The characters that have a property, or those that do not. -/
def PropertyName.chars (flags : Flags) (name : PropertyName) (negated : Bool) :
    Except Expression.Fault CharSet := do
  if !flags.unicode then throw .unicodeNotAllowed
  flags.finished negated (.ofIntervals (← properties.members name))

/-- The members of what stands between brackets. -/
def ClassExpr.chars (flags : Flags) : ClassExpr → Except Expression.Fault CharSet
  | nothing => pure .empty
  | symbol s => do return .singleton (← flags.classChar s)
  | range first last => do
    return .ofIntervals [⟨(← flags.classChar first).toNat, (← flags.classChar last).toNat⟩]
  | shorthand kind negated => kind.chars flags negated
  | property name negated => name.chars properties flags negated
  | named members negated => flags.finished negated (.ofIntervals members)
  | union front last => do return (← front.chars flags).union (← last.chars flags)
  | bracket negated inside => do flags.finished negated (← inside.chars flags)
  | operation kind left right => do
    let left := flags.folded (← left.chars flags)
    let right := flags.folded (← right.chars flags)
    return match kind with
      | .intersection => left.intersection right
      | .difference => left.difference right
      | .symmetricDifference => left.symmetricDifference right

def Anchor.look (flags : Flags) : Anchor → Look
  | lineStart => if flags.multiLine then .lineStart flags.lineEnding else .textStart
  | lineEnd => if flags.multiLine then .lineEnd flags.lineEnding else .textEnd
  | textStart => .textStart
  | textEnd => .textEnd
  | wordEdge => .wordEdge flags.alphabet
  | notWordEdge => .notWordEdge flags.alphabet
  | wordStart => .wordStart flags.alphabet
  | wordEnd => .wordEnd flags.alphabet
  | wordStartHalf => .wordStartHalf flags.alphabet
  | wordEndHalf => .wordEndHalf flags.alphabet

/-- The characters that a dot stands for in Unicode mode. -/
def Flags.dotChars (flags : Flags) : CharSet :=
  if flags.dotNewLine then .all
  else if flags.carriageReturn then (CharSet.ofIntervals [⟨10, 10⟩, ⟨13, 13⟩]).complement
  else (CharSet.singleton '\n').complement

namespace Expression

/-- A character outside brackets. -/
def symbolChars (flags : Flags) (s : Symbol) : Except Fault CharSet := do
  let c ← flags.char s
  return flags.folded (.singleton c)

/-- The alternatives of an expression, most preferred first, and the flags in force behind it.
All but a choice has one. -/
def options (flags : Flags) : Expression → Except Fault (List Regex × Flags)
  | empty => pure ([.empty], flags)
  | switch changes => pure ([.empty], flags.setAll changes)
  | symbol s => do return ([.set (← symbolChars flags s)], flags)
  | dot => if flags.unicode then pure ([.set flags.dotChars], flags) else throw .notUtf8
  | anchor kind => pure ([.look (kind.look flags)], flags)
  | shorthand kind negated => do return ([.set (← kind.chars flags negated)], flags)
  | property name negated => do return ([.set (← name.chars properties flags negated)], flags)
  | bracket negated inside => do
    return ([.set (← flags.finished negated (← inside.chars properties flags))], flags)
  | rounds body least most eager => do
    let (body, flags) ← options flags body
    return ([repetition (Regex.choice body) least most (eager != flags.swapGreed)], flags)
  | capture number body => do
    let (body, _) ← options flags body
    return ([.group number (Regex.choice body)], flags)
  | within changes body => do
    let (body, _) ← options (flags.setAll changes) body
    return ([Regex.choice body], flags)
  | sequence front last => do
    let (front, flags) ← options flags front
    let (last, flags) ← options flags last
    return ([Regex.sequence [Regex.choice front, Regex.choice last]], flags)
  | choice front last => do
    let (front, flags) ← options flags front
    let (last, flags) ← options flags last
    return (front ++ [Regex.choice last], flags)

/-- What an expression means, with the dot standing for line feeds or not at the start. -/
def meaning (dotNewLine : Bool) (e : Expression) : Except Fault Regex := do
  let (options, _) ← options properties (.initial dotNewLine) e
  return Regex.choice options

end Expression

/-- Reads a text as an expression. -/
def ofText (dotNewLine : Bool) (t : Text) : Except Expression.Fault Regex := do
  (← Expression.read t).meaning properties dotNewLine

end ControlSearch.Regex
