import ControlSearch.Error
import ControlSearch.Settings
import ControlSearch.Toml.Quoted
import ControlSearch.Toml.Reader

/-!
# Settings as a document

Settings are written as a document with a table for each group. Whatever a document leaves out
keeps its default, and what it has besides is ignored. A group may also be given as an array
of its fields in order.
-/
namespace ControlSearch.Settings

/-! ## Writing -/

/-- The greatest integer of a document. -/
def maxInteger : Nat := Nat.pow 2 63 - 1

/-- A number as an integer of a document. -/
def writeCount (n : Nat) : Except Error Text :=
  if n ≤ maxInteger then pure (Text.ofNat n)
  else throw (.configuration "Failed to serialize config to TOML")

def writeBool (b : Bool) : Text := (if b then "true" else "false").toList

/-- A table with its fields. -/
def writeTable (name : String) (fields : List (String × Text)) : Text :=
  '[' :: name.toList ++ ']' :: '\n' ::
    fields.flatMap fun (key, value) => key.toList ++ " = ".toList ++ value ++ ['\n']

/-- Settings as a document, where `processors` stands for a number of workers that is not
given. -/
def write (processors : Text) (s : Settings) : Except Error Text := do
  let cacheCapacity ← writeCount s.pattern.cacheCapacity
  let sizeLimit ← writeCount s.pattern.sizeLimit
  let workers ← match s.search.workers with
    | some n => writeCount n
    | none => pure processors
  let minParallelElements ← writeCount s.search.minParallelElements
  return Text.join ['\n'] [
    writeTable "pattern" [("cache_capacity", cacheCapacity), ("dfa_size_limit", sizeLimit),
      ("dot_matches_new_line", writeBool s.pattern.dotMatchesNewLine)],
    writeTable "resolver" [("parallel", writeBool s.search.parallel),
      ("worker_threads", workers), ("min_parallel_elements", minParallelElements)],
    writeTable "logging" [("level", Toml.quoted s.logging.level),
      ("json_format", writeBool s.logging.jsonFormat),
      ("with_thread_ids", writeBool s.logging.withThreadIds)]]

/-! ## Reading -/

def count? : Toml.Value → Option Nat
  | .integer (.ofNat n) => some n
  | _ => none

def bool? : Toml.Value → Option Bool
  | .boolean b => some b
  | _ => none

def text? : Toml.Value → Option Text
  | .string t => some t
  | _ => none

/-- The values of some fields in a group, from a table or from an array in their order. -/
def fields? (names : List String) : Toml.Value → Option (List (Option Toml.Value))
  | .table entries => some (names.map fun name => (Toml.Value.table entries).get? name)
  | .array items => some ((List.range names.length).map fun i => items[i]?)
  | _ => none

/-- A field, or its default if it is not given. -/
def field {α : Type} (default : α) (read? : Toml.Value → Option α) :
    Option Toml.Value → Option α
  | none => some default
  | some v => read? v

def pattern? (v : Toml.Value) : Option PatternSettings := do
  match ← fields? ["cache_capacity", "dfa_size_limit", "dot_matches_new_line"] v with
  | [cacheCapacity, sizeLimit, dotMatchesNewLine] => do
    let default : PatternSettings := {}
    return ⟨← field default.cacheCapacity count? cacheCapacity,
      ← field default.sizeLimit count? sizeLimit,
      ← field default.dotMatchesNewLine bool? dotMatchesNewLine⟩
  | _ => none

def search? (v : Toml.Value) : Option SearchSettings := do
  match ← fields? ["parallel", "worker_threads", "min_parallel_elements"] v with
  | [parallel, workers, minParallelElements] => do
    let default : SearchSettings := {}
    return ⟨← field default.parallel bool? parallel,
      ← field default.workers (fun v => (count? v).map some) workers,
      ← field default.minParallelElements count? minParallelElements⟩
  | _ => none

def logging? (v : Toml.Value) : Option LoggingSettings := do
  match ← fields? ["level", "json_format", "with_thread_ids"] v with
  | [level, jsonFormat, withThreadIds] => do
    let default : LoggingSettings := {}
    return ⟨← field default.level text? level, ← field default.jsonFormat bool? jsonFormat,
      ← field default.withThreadIds bool? withThreadIds⟩
  | _ => none

/-- Settings from the value of a document. -/
def ofValue? (v : Toml.Value) : Option Settings := do
  match ← fields? ["pattern", "resolver", "logging"] v with
  | [pattern, search, logging] => do
    return ⟨← field {} pattern? pattern, ← field {} search? search,
      ← field {} logging? logging⟩
  | _ => none

/-- Reads a document. -/
def read (t : Text) : Except Error Settings :=
  match (Toml.read t).bind ofValue? with
  | some s => pure s
  | none => throw (.configuration "TOML parse error")

end ControlSearch.Settings
