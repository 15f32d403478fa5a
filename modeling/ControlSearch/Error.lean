import ControlSearch.Text

/-!
# Errors

What can go wrong when patterns are compiled, spans are moved, settings are read or checked,
and pages are described. Not finding something is never an error.
-/
namespace ControlSearch

/-- Why a pattern could not be compiled. -/
inductive PatternFault where
  /-- The expression is not well formed. -/
  | malformed (details : String)
  /-- The expression is well formed, but no automaton within the limit (in bytes) accepts
  it. -/
  | unbuildable (details : String) (limit : Nat)
  deriving DecidableEq, Repr

namespace PatternFault

/-- The part of the details that names the size limit. -/
def sizeNote? : PatternFault → Option String
  | malformed _ => none
  | unbuildable _ limit => some s!"(dfa_size_limit {limit} bytes)"

def message : PatternFault → String
  | malformed details => details
  | unbuildable details limit => s!"{details} (dfa_size_limit {limit} bytes)"

end PatternFault

/-- The errors of the library. -/
inductive Error where
  | patternSyntax (pattern : Text) (fault : PatternFault)
  | immutable (details : String)
  | configuration (details : String)
  | validation (field reason : String)
  | workerPool (details : String)
  | internal (details : String)
  deriving DecidableEq, Repr

namespace Error

/-- An attempt to move one end of the mark for "nothing found". -/
def frozenEnd (side : String) : Error :=
  immutable s!"the {side} of Span::NOT_FOUND cannot be changed"

def message : Error → String
  | patternSyntax pattern fault =>
    s!"Invalid pattern '{String.ofList pattern}': {fault.message}"
  | immutable details => s!"Immutability violation: {details}"
  | configuration details => s!"Configuration error: {details}"
  | validation field reason => s!"Validation failed for field '{field}': {reason}"
  | workerPool details => s!"Thread pool error: {details}"
  | internal details => s!"Internal error: {details}"

/-- The area that an error belongs to, as it is named in logs. -/
def category : Error → String
  | patternSyntax _ _ => "pattern"
  | immutable _ => "span"
  | configuration _ | validation _ _ => "configuration"
  | workerPool _ => "resolver"
  | internal _ => "generic"

/-- Whether trying again may help: only the making of a worker pool depends on the moment. -/
def isRecoverable : Error → Bool
  | workerPool _ => true
  | _ => false

end Error
end ControlSearch
