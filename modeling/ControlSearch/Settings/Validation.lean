import ControlSearch.Error
import ControlSearch.Settings

/-!
# Valid settings

Counts and limits have to be positive, and the log level has to be one of five, in either
case.
-/
namespace ControlSearch.Settings

/-- The log levels, from the most talkative to the tersest. -/
def logLevels : List Text := ["trace", "debug", "info", "warn", "error"].map String.toList

/-- Checks settings; of several faults the first one in the order of the fields is
reported. -/
def validate (s : Settings) : Except Error Unit :=
  if s.pattern.cacheCapacity = 0 then
    throw (.validation "pattern.cache_capacity" "Cache capacity must be greater than zero")
  else if s.pattern.sizeLimit = 0 then
    throw <|
      .validation "pattern.dfa_size_limit" "Automaton size limit must be greater than zero"
  else if s.search.workers = some 0 then
    throw <|
      .validation "resolver.worker_threads" "Worker thread count must be greater than zero"
  else if !logLevels.contains s.logging.level.lowered then
    throw (.validation "logging.level" s!"Unknown log level: {String.ofList s.logging.level}")
  else pure ()

theorem validate_default : validate {} = .ok () := rfl

end ControlSearch.Settings
