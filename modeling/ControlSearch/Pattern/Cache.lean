import ControlSearch.Pattern

/-!
# A bounded cache of patterns

Patterns are kept by their specs. When a new one is to be kept and there is no room, some
entry is given up; which one does not matter to any answer, so every operation takes the
choice as a number.
-/
namespace ControlSearch

structure PatternCache where
  settings : PatternSettings
  entries : List (Text × Pattern)
  hits : Nat
  misses : Nat
  deriving DecidableEq, Repr

namespace PatternCache

def empty (settings : PatternSettings) : PatternCache := ⟨settings, [], 0, 0⟩

def size (c : PatternCache) : Nat := c.entries.length

/-- The pattern kept for a spec. -/
def find? (c : PatternCache) (spec : Text) : Option Pattern := c.entries.lookup spec

/-- Gives up one entry, if there is one, where there is no room for another. -/
def madeRoom (c : PatternCache) (choice : Nat) : List (Text × Pattern) :=
  if c.settings.cacheCapacity ≤ c.size then c.entries.eraseIdx (choice % c.size)
  else c.entries

/-- The pattern of a spec, compiled and kept if it was not kept before, and the cache behind
the lookup. -/
def get (c : PatternCache) (choice : Nat) (spec : Text) :
    Except Error Pattern × PatternCache :=
  match c.find? spec with
  | some p => (.ok p, { c with hits := c.hits + 1 })
  | none =>
    match Pattern.compile c.settings spec with
    | .error e => (.error e, c)
    | .ok p =>
      (.ok p, { c with entries := (spec, p) :: c.madeRoom choice, misses := c.misses + 1 })

/-- The pattern of segments that have to occur in order. -/
def getSegments (c : PatternCache) (choice : Nat) (segments : List Text) :
    Except Error Pattern × PatternCache :=
  c.get choice (Pattern.joinSegments segments)

/-- Forgets all patterns, and counts from zero again. -/
def clear (c : PatternCache) : PatternCache := empty c.settings

/-- The statistics as text. -/
def display (c : PatternCache) : String :=
  s!"Pattern cache statistics:\n  Entries: {c.size}\n" ++
    s!"  Hits:    {c.hits}\n  Misses:  {c.misses}"

@[simp] theorem settings_clear (c : PatternCache) : c.clear.settings = c.settings := rfl
@[simp] theorem size_clear (c : PatternCache) : c.clear.size = 0 := rfl

end PatternCache
end ControlSearch
