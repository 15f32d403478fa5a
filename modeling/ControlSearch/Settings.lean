import ControlSearch.Text

/-!
# Settings

The settings of pattern compilation, of the search for controls, and of logging.
-/
namespace ControlSearch

/-- How patterns are compiled and kept. -/
structure PatternSettings where
  /-- The number of patterns that a cache keeps. -/
  cacheCapacity : Nat := 500
  /-- The bytes that one automaton may take. -/
  sizeLimit : Nat := 10 * 1024 * 1024
  /-- Whether wildcards and the dot stand for line feeds too. -/
  dotMatchesNewLine : Bool := true
  deriving DecidableEq, Repr, Inhabited

/-- How a page is scanned. -/
structure SearchSettings where
  parallel : Bool := false
  /-- The number of workers; if it is not given, one for each processor. -/
  workers : Option Nat := none
  /-- The number of elements from which on workers share the scan. -/
  minParallelElements : Nat := 64
  deriving DecidableEq, Repr, Inhabited

/-- The number of workers that share a scan on a machine with some processors; nothing if a
scan is not shared. -/
def SearchSettings.poolSize? (processors : Nat) (s : SearchSettings) : Option Nat :=
  if s.parallel then
    match s.workers with
    | none | some 0 => some processors
    | some n => some n
  else none

/-- What is logged, and how. -/
structure LoggingSettings where
  level : Text := "info".toList
  jsonFormat : Bool := false
  withThreadIds : Bool := false
  deriving DecidableEq, Repr, Inhabited

structure Settings where
  pattern : PatternSettings := {}
  search : SearchSettings := {}
  logging : LoggingSettings := {}
  deriving DecidableEq, Repr, Inhabited

end ControlSearch
