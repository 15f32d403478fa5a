import ControlSearch.Regex

/-!
# Written expressions

The tree that the text of an expression spells out, before flags and classes are worked out,
and the faults that keep a text from being one.
-/
namespace ControlSearch.Regex

/-- Switches that an expression can turn on and off. -/
inductive Flag where
  | caseInsensitive
  | multiLine
  | dotNewLine
  | swapGreed
  | unicode
  | carriageReturn
  | ignoreBlanks
  deriving DecidableEq, Repr

/-- Classes with a one-letter escape. -/
inductive Shorthand where
  | digit
  | blank
  | word
  deriving DecidableEq, Repr

/-- How an expression names a property of characters. -/
inductive PropertyName where
  | letter (c : Char)
  | word (name : Text)
  /-- A property together with the value that it has to have. -/
  | value (property value : Text)
  deriving DecidableEq, Repr

/-- Operations between the parts of a bracketed class. -/
inductive ClassOperation where
  | intersection
  | difference
  | symmetricDifference
  deriving DecidableEq, Repr

/-- A character as it is written; `isByte` if it was given as two hexadecimal digits. -/
structure Symbol where
  char : Char
  isByte : Bool
  deriving DecidableEq, Repr

/-- The inside of a bracketed class. -/
inductive ClassExpr where
  | nothing
  | symbol (s : Symbol)
  | range (first last : Symbol)
  | shorthand (kind : Shorthand) (negated : Bool)
  | property (name : PropertyName) (negated : Bool)
  /-- A class with a name, given by the intervals of its ASCII members. -/
  | named (members : List Interval) (negated : Bool)
  /-- Parts side by side, nested to the left. -/
  | union (front last : ClassExpr)
  | operation (kind : ClassOperation) (left right : ClassExpr)
  | bracket (negated : Bool) (inside : ClassExpr)
  deriving DecidableEq, Repr

/-- Assertions as they are written, before flags settle what they ask. -/
inductive Anchor where
  | lineStart
  | lineEnd
  | textStart
  | textEnd
  | wordEdge
  | notWordEdge
  | wordStart
  | wordEnd
  | wordStartHalf
  | wordEndHalf
  deriving DecidableEq, Repr

inductive Expression where
  | empty
  /-- Turns flags on or off for the rest of the enclosing group. -/
  | switch (changes : List (Flag × Bool))
  | symbol (s : Symbol)
  | dot
  | anchor (kind : Anchor)
  | shorthand (kind : Shorthand) (negated : Bool)
  | property (name : PropertyName) (negated : Bool)
  | bracket (negated : Bool) (inside : ClassExpr)
  | rounds (body : Expression) (least : Nat) (most : Option Nat) (eager : Bool)
  | capture (number : Nat) (body : Expression)
  | within (changes : List (Flag × Bool)) (body : Expression)
  /-- Parts one after the other, nested to the left. -/
  | sequence (front last : Expression)
  /-- Alternatives, nested to the left. -/
  | choice (front last : Expression)
  deriving DecidableEq, Repr

namespace ClassExpr

/-- The nesting depth; parts side by side are one level, however many there are. -/
def depth : ClassExpr → Nat
  | union front last =>
    max (match front with
      | union a b => depth (union a b)
      | part => depth part + 1) (depth last + 1)
  | operation _ left right => max (depth left) (depth right) + 1
  | bracket _ inside => depth inside + 1
  | _ => 0

/-- Puts parts side by side. -/
def ofParts : List ClassExpr → ClassExpr
  | [] => nothing
  | part :: parts => parts.foldl union part

end ClassExpr

namespace Expression

/-- The nesting depth; a sequence is one level, and so are alternatives. -/
def depth : Expression → Nat
  | bracket _ inside => inside.depth + 1
  | rounds body _ _ _ => body.depth + 1
  | capture _ body => body.depth + 1
  | within _ body => body.depth + 1
  | sequence front last =>
    max (match front with
      | sequence a b => depth (sequence a b)
      | part => depth part + 1) (depth last + 1)
  | choice front last =>
    max (match front with
      | choice a b => depth (choice a b)
      | part => depth part + 1) (depth last + 1)
  | _ => 0

/-- The deepest nesting that is read. -/
def maxDepth : Nat := 250

def ofSequence : List Expression → Expression
  | [] => empty
  | part :: parts => parts.foldl sequence part

def ofChoice : List Expression → Expression
  | [] => empty
  | part :: parts => parts.foldl choice part

/-- What is wrong with a text that is no expression, or with an expression that has no
meaning. -/
inductive Fault where
  | groupUnclosed
  | groupUnopened
  | groupNameEmpty
  | groupNameInvalid
  | groupNameDuplicate (name : Text)
  | lookAround
  | flagUnknown
  | flagDuplicate
  | flagDanglingNegation
  | flagsUnclosed
  | repetitionMissing
  | countUnclosed
  | countEmpty
  | countInvalid
  | escapeUnfinished
  | escapeUnknown
  | backReference
  | hexInvalid
  | boundaryUnclosed
  | boundaryUnknown
  | propertyInvalid
  | propertyUnknown
  | propertyValueUnknown
  | classUnclosed
  | classEscape
  | classRangeEnd
  | classRangeInvalid
  | tooDeep
  | notUtf8
  | unicodeNotAllowed
  deriving DecidableEq, Repr

namespace Fault

def message : Fault → String
  | groupUnclosed => "unclosed group"
  | groupUnopened => "unopened group"
  | groupNameEmpty => "empty capture group name"
  | groupNameInvalid => "invalid capture group character"
  | groupNameDuplicate name => s!"duplicate capture group name {String.ofList name}"
  | lookAround => "look-around is not supported"
  | flagUnknown => "unrecognized flag"
  | flagDuplicate => "duplicate flag"
  | flagDanglingNegation => "dangling flag negation operator"
  | flagsUnclosed => "unclosed flags"
  | repetitionMissing => "repetition operator missing expression"
  | countUnclosed => "unclosed counted repetition"
  | countEmpty => "repetition quantifier expects a valid decimal"
  | countInvalid => "invalid repetition count range"
  | escapeUnfinished => "incomplete escape sequence"
  | escapeUnknown => "unrecognized escape sequence"
  | backReference => "backreferences are not supported"
  | hexInvalid => "invalid hexadecimal character"
  | boundaryUnclosed => "unclosed word boundary assertion"
  | boundaryUnknown => "unrecognized word boundary assertion"
  | propertyInvalid => "invalid Unicode character class"
  | propertyUnknown => "Unicode property not found"
  | propertyValueUnknown => "Unicode property value not found"
  | classUnclosed => "unclosed character class"
  | classEscape => "invalid escape sequence found in character class"
  | classRangeEnd => "invalid range boundary, must be a literal"
  | classRangeInvalid => "invalid character class range"
  | tooDeep => s!"exceeded the maximum nesting depth of {maxDepth}"
  | notUtf8 => "pattern can match invalid UTF-8"
  | unicodeNotAllowed => "Unicode not allowed here"

end Fault
end Expression
end ControlSearch.Regex
