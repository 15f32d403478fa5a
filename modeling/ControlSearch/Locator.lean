import ControlSearch.Pattern.Cache
import ControlSearch.Text.Numeral

/-!
# Locators

A locator such as `Login > User name` names a control: its last segment describes the control,
and the segments in front of it, the path, have to occur before it in this order. A backslash
in front of `>` or of a backslash makes that character part of a segment.
-/
namespace ControlSearch

namespace Locator

/-- Puts a character in front of the first segment. -/
def prepend (c : Char) : List Text → List Text
  | [] => [[c]]
  | segment :: rest => (c :: segment) :: rest

/-- The segments of a text that is not over. Backslashes that escape nothing are kept,
together with the character behind them. -/
def segmentsOf : Text → List Text
  | [] => [[]]
  | '\\' :: [] => [['\\']]
  | '\\' :: c :: rest =>
    if c = '>' ∨ c = '\\' then prepend c (segmentsOf rest)
    else prepend '\\' (prepend c (segmentsOf rest))
  | c :: rest => if c = '>' then [] :: segmentsOf rest else prepend c (segmentsOf rest)

/-- The raw segments of a text; the empty text has none. -/
def split (raw : Text) : List Text := if raw.isEmpty then [] else segmentsOf raw

/-- The patterns of a locator with at least one segment. -/
structure Patterns where
  /-- The segments of the path, in this order. -/
  path : Option Pattern
  /-- The last segment. -/
  node : Pattern
  /-- All segments, in this order. -/
  whole : Pattern
  /-- The last two segments, where the last one says nothing about the control: it is then the
  text behind the path that describes it. -/
  startsWith : Option Pattern
  deriving DecidableEq, Repr

end Locator

/-- A locator with its compiled patterns; without segments it has none. -/
structure Locator where
  segments : List Text
  patterns : Option Locator.Patterns
  deriving DecidableEq, Repr

namespace Locator

/-- The locator without segments. -/
def empty : Locator := ⟨[], none⟩

def isEmpty (l : Locator) : Bool := l.segments.isEmpty

/-- The segments in front of the last one. -/
def path (l : Locator) : List Text := l.segments.dropLast

def last? (l : Locator) : Option Text := l.segments.getLast?

def display (l : Locator) : Text := Text.join " > ".toList l.segments

/-- Trims segments and leaves out those without text. -/
def tidy (raw : List Text) : List Text := (raw.map Text.trim).filter (!·.isEmpty)

/-- The pattern of a path, if there is one. -/
def compilePath {m : Type → Type} [Monad m] (compile : Text → m Pattern) (path : List Text) :
    m (Option Pattern) :=
  if path.isEmpty then pure none else some <$> compile (Pattern.joinSegments path)

/-- The pattern of the last two segments, where it is of use. -/
def compileStart {m : Type → Type} [Monad m] (compile : Text → m Pattern) (path : List Text)
    (last : Text) (node : Pattern) : m (Option Pattern) :=
  match path.getLast? with
  | some lastOfPath =>
    if node.mayBeEmpty then do
      let p ← compile (Pattern.joinSegments [lastOfPath, last])
      return if p.mayBeEmpty then none else some p
    else pure none
  | none => pure none

/-- The patterns of a path and a last segment, where `compile` compiles a spec. -/
def compileWith {m : Type → Type} [Monad m] (compile : Text → m Pattern) (path : List Text)
    (last : Text) : m Patterns := do
  let node ← compile last
  let pathPattern ← compilePath compile path
  let whole ← compile (Pattern.joinSegments (path ++ [last]))
  let startsWith ← compileStart compile path last node
  return ⟨pathPattern, node, whole, startsWith⟩

/-- The locator with given segments, where `compile` compiles a spec. -/
def ofSegmentsWith {m : Type → Type} [Monad m] (compile : Text → m Pattern)
    (raw : List Text) :
    m Locator := do
  let segments := tidy raw
  match segments.getLast? with
  | none => return empty
  | some last => return ⟨segments, some (← compileWith compile segments.dropLast last)⟩

def ofSegments (raw : List Text) : Except Error Locator :=
  ofSegmentsWith (Pattern.compile {}) raw

/-- Reads a locator. -/
def ofText (raw : Text) : Except Error Locator := ofSegments (split raw)

/-- A pattern from a cache, which keeps what it has met even if the locator fails in the end.
The `choices` say which entry to give up for each miss. -/
def fetch (choices : Nat → Nat) (spec : Text) : ExceptT Error (StateM PatternCache) Pattern :=
  .mk (modifyGet fun cache => cache.get (choices cache.misses) spec)

/-- The locator with given segments, whose patterns come from a cache. -/
def ofSegmentsCached (choices : Nat → Nat) (raw : List Text) (cache : PatternCache) :
    Except Error Locator × PatternCache :=
  (ofSegmentsWith (fetch choices) raw).run.run cache

/-- Reads a locator whose patterns come from a cache. -/
def ofTextCached (choices : Nat → Nat) (raw : Text) (cache : PatternCache) :
    Except Error Locator × PatternCache :=
  ofSegmentsCached choices (split raw) cache

end Locator
end ControlSearch
