import ControlSearch.Settings.Document
import ControlSearch.Settings.Validation

/-!
# Loading settings

Settings come from a file, or are the defaults if there is no file. Variables of the
environment take precedence over both, and what results has to be valid.
-/
namespace ControlSearch.Settings

/-- The variables of the environment that are set. -/
structure Environment where
  logLevel : Option Text := none
  workers : Option Text := none
  parallel : Option Text := none
  cacheCapacity : Option Text := none
  deriving DecidableEq, Repr

/-- What is found where a file is expected. -/
inductive Source where
  | missing
  | directory
  | bytes (content : List UInt8)
  deriving DecidableEq, Repr

/-- A number of 64 bits, with a plus sign or without. -/
def readWord? (t : Text) : Option Nat :=
  let digits := match t with
    | '+' :: rest => rest
    | t => t
  (Text.number? 10 digits).bind fun n => if n < Nat.pow 2 64 then some n else none

def readBool? (t : Text) : Option Bool :=
  if t = "true".toList then some true else if t = "false".toList then some false else none

/-- Reads a variable that is set, and keeps the present value otherwise. -/
def override {α : Type} (present : α) (read? : Text → Option α) (fault : String) :
    Option Text → Except Error α
  | none => pure present
  | some t =>
    match read? t with
    | some v => pure v
    | none => throw (.configuration fault)

/-- Replaces what the environment says otherwise. -/
def overridden (env : Environment) (s : Settings) : Except Error Settings := do
  let level := env.logLevel.getD s.logging.level
  let workers ← override s.search.workers (fun t => (readWord? t).map some)
    "Invalid thread count in TEXT_LOCATOR_WORKER_THREADS" env.workers
  let parallel ← override s.search.parallel readBool?
    "Invalid boolean in TEXT_LOCATOR_PARALLEL" env.parallel
  let cacheCapacity ← override s.pattern.cacheCapacity readWord?
    "Invalid capacity in TEXT_LOCATOR_CACHE_CAPACITY" env.cacheCapacity
  return { s with
    pattern := { s.pattern with cacheCapacity }
    search := { s.search with workers, parallel }
    logging := { s.logging with level } }

/-- The settings of a source, without the environment. -/
def ofSource : Source → Except Error Settings
  | .missing => pure {}
  | .directory => throw (.configuration "Failed to read config file")
  | .bytes content =>
    match String.fromUTF8? ⟨content.toArray⟩ with
    | some t => read t.toList
    | none => throw (.configuration "Failed to read config file")

/-- Loads settings. -/
def load (env : Environment) (source : Source) : Except Error Settings := do
  let s ← (← ofSource source).overridden env
  s.validate
  return s

/-- Writes settings to a file, and tells what was written. Nothing is written if the settings
have no written form, or if there is no place for the file. -/
def save (processors : Text) (hasPlace : Bool) (s : Settings) : Except Error Text := do
  let t ← s.write processors
  if hasPlace then return t else throw (.internal "IO error")

end ControlSearch.Settings
