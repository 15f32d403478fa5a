import ControlSearch.CharSet.Property
import ControlSearch.Error
import ControlSearch.Settings
import ControlSearch.Text.Numeral

/-!
# Log filters

What a process logs is told by directives with commas between them. A directive is a level, or
a target whose level may follow after an equals sign; a span in brackets may stand behind the
target or in its place, and its fields in braces. One subscriber is installed for the whole
process, so once there is one, no other can be.
-/
namespace ControlSearch.LoggingSettings

/-! ## Directives -/

/-- Whether a text names a level, by a word in either case or by a number up to five. -/
def isFilterLevel (t : Text) : Bool :=
  let digits := match t with
    | '+' :: rest => rest
    | t => t
  match Text.number? 10 digits with
  | some n => n ≤ 5
  | none =>
    (["", "off", "error", "warn", "info", "debug", "trace"].map String.toList).contains
      t.lowered

/-- Whether a character can begin the name of a target. -/
def beginsTarget (c : Char) : Bool :=
  ['-', ':', '_'].contains c || CharSet.alphabetic.contains c ||
    CharSet.decimalDigit.contains c ||
    CharSet.numeral.contains c

/-- A part of a directive. -/
inductive Part where
  | start
  | target
  | span
  /-- A field of a span, with whether it has a character yet. -/
  | field (isEmpty : Bool)
  | behindFields
  | behindSpan
  | level (sofar : Text)
  deriving DecidableEq, Repr

namespace Part

/-- The part that a directive is in after one more character. -/
def next? (c : Char) : Part → Option Part
  | start => if c = '[' then some span else if beginsTarget c then some target else none
  | target => some (if c = '=' then level [] else if c = '[' then span else target)
  | span => some (if c = ']' then behindSpan else if c = '\x7b' then field true else span)
  | field isEmpty =>
    if c = '\x7d' then (if isEmpty then none else some behindFields) else some (field false)
  | behindFields => if c = ']' then some behindSpan else none
  | behindSpan => if c = '=' then some (level []) else none
  | level sofar => some (level (sofar ++ [c]))

end Part

/-- The part that a directive ends in. -/
def lastPart? : Part → Text → Option Part
  | part, [] => some part
  | part, c :: rest => (part.next? c).bind (lastPart? · rest)

/-- Whether a text is a directive. Blanks around it are allowed unless it ends in a level. -/
def isDirective (t : Text) : Bool :=
  match lastPart? .start t.trim with
  | some (.level level) => (level.isEmpty || isFilterLevel level) && t = t.trim
  | some _ => true
  | none => false

/-- Whether a text is a filter: directives with commas between them, where nothing needs to
stand between two commas. -/
def isFilter (t : Text) : Bool :=
  ((Text.splitAll ',' t).filter (!·.isEmpty)).all isDirective

/-! ## Installing -/

/-- Why logging cannot be started in a process that logs already. -/
def faultWhenInstalled (s : LoggingSettings) : Error :=
  if isFilter s.level then .configuration "Failed to install log subscriber"
  else .configuration s!"Invalid log level: {String.ofList s.level}"

end ControlSearch.LoggingSettings
