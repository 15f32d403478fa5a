import ControlSearch.Error
import ControlSearch.Pattern.Wildcard
import ControlSearch.Regex.Expression.Meaning
import ControlSearch.Regex.Size
import ControlSearch.Settings

/-!
# Patterns

A pattern is compiled from a wildcard spec, from segments that have to occur in order, or from
a regular expression. A spec of nothing but `*` accepts everything, a spec without wildcards
is a word, and all else is run as an automaton, whose size is limited.
-/
namespace ControlSearch

/-- How a pattern is evaluated. -/
inductive Matcher where
  | everything
  | word (w : Text)
  | automaton (r : Regex)
  deriving DecidableEq, Repr

/-- A compiled pattern, with the spec that it was compiled from. -/
structure Pattern where
  spec : Text
  matcher : Matcher
  deriving DecidableEq, Repr

namespace Pattern

/-- The bytes of the shortest accepted text; nothing if no text is accepted. -/
def minSize? (p : Pattern) : Option Nat :=
  match p.matcher with
  | .everything => some 0
  | .word w => some w.size
  | .automaton r => r.minSize?

def isEverything (p : Pattern) : Bool := p.matcher == .everything

/-- Whether even the empty text is long enough to be accepted. -/
def mayBeEmpty (p : Pattern) : Bool := p.minSize? == some 0

/-- The automaton of an expression, if it can be built within the limit. -/
def automaton? (spec : Text) (limit : Nat) (r : Regex) : Except Error Matcher :=
  let refuse (details : String) : Except Error Matcher :=
    throw (.patternSyntax spec (.unbuildable details limit))
  if r.asksUnicodeWords then
    refuse "cannot build DFAs for regexes with Unicode word boundaries"
  else if r.isWithin limit then pure (.automaton r)
  else refuse "exceeded the automaton size limit"

/-- Compiles a wildcard spec. -/
def compile (settings : PatternSettings) (spec : Text) : Except Error Pattern :=
  let parts := Wildcard.ofSpec spec
  if Wildcard.isOpen parts then pure ⟨spec, .everything⟩
  else match Wildcard.literal? parts with
    | some w => pure ⟨spec, .word w⟩
    | none => do
      let r := Regex.sequence (parts.map (Wildcard.regex settings.dotMatchesNewLine))
      return ⟨spec, ← automaton? spec settings.sizeLimit r⟩

/-- The spec of segments that have to occur in order. -/
def joinSegments (segments : List Text) : Text := Text.join ['*'] segments

/-- Compiles segments that have to occur in order. -/
def ofSegments (settings : PatternSettings) (segments : List Text) : Except Error Pattern :=
  compile settings (joinSegments segments)

/-- Compiles a regular expression, in which wildcards have no meaning of their own. -/
def ofRegex (settings : PatternSettings) (expression : Text)
    (properties : Regex.Properties := .standard) : Except Error Pattern :=
  match Regex.ofText properties settings.dotMatchesNewLine expression with
  | .error fault => throw (.patternSyntax expression (.malformed fault.message))
  | .ok r => do return ⟨expression, ← automaton? expression settings.sizeLimit r⟩

end Pattern
end ControlSearch
