import ControlSearch.Ranking
import ControlSearch.Span

/-!
# Pages

What a search reads of a page: its text, the elements that a user can act on, and where and
how the elements are described in the text. A page that knows no more than positions can take
its label texts from them.
-/
namespace ControlSearch

/-- What a user may want to do with a control. -/
inductive Capability where
  | set
  | select
  | deselect
  | disable
  | focus
  | click
  /-- Whatever the control offers. -/
  | any
  deriving DecidableEq, Repr

namespace Capability

def all : List Capability := [set, select, deselect, disable, focus, click, any]

def name : Capability → String
  | set => "set"
  | select => "select"
  | deselect => "deselect"
  | disable => "disable"
  | focus => "focus"
  | click => "click"
  | any => "any"

def ofName? (s : String) : Option Capability := all.find? (·.name == s)

theorem ofName?_name (c : Capability) : ofName? c.name = some c := by cases c <;> rfl

/-- Whether an element with given capabilities qualifies. -/
def isOffered (offered : List Capability) (c : Capability) : Bool :=
  c == any || offered.contains c

/-- Whether an element with given capabilities takes input, so that it delimits label
texts. -/
def isFormControl (offered : List Capability) : Bool :=
  isOffered offered set || isOffered offered select || isOffered offered deselect

/-- Whether nothing in particular is offered. -/
def isNone (offered : List Capability) : Bool := offered.all (· == any)

end Capability

/-- The attributes of an element that describe it. -/
inductive Attribute where
  | id
  | name
  | title
  | placeholder
  | value
  | ariaLabel
  deriving DecidableEq, Repr

namespace Attribute

def all : List Attribute := [id, name, title, placeholder, value, ariaLabel]

def display : Attribute → String
  | id => "id"
  | name => "name"
  | title => "title"
  | placeholder => "placeholder"
  | value => "value"
  | ariaLabel => "aria-label"

end Attribute

/-- A page as a search reads it. Offsets refer to the text. -/
structure Page where
  text : Text
  /-- The visible elements that qualify for a capability, in document order. -/
  visible : Capability → List ElementId
  /-- The text in front of an element. -/
  textBefore : ElementId → Text
  /-- The part of the text that belongs to an element. -/
  position : ElementId → Span
  hierarchy : ElementId → Hierarchy
  /-- The place of an element among all elements. -/
  index : ElementId → Nat
  /-- The text that labels an element from the left, beginning no earlier than an offset. -/
  labelBefore : ElementId → Nat → Text
  /-- The text that labels an element from the right. -/
  labelAfter : ElementId → Text
  /-- The labels that point to an element: where they stand, and their texts. -/
  labels : ElementId → List (Span × Text)
  attributeOf : ElementId → Attribute → Option Text
  /-- The text inside an element. -/
  ownText : ElementId → Option Text

namespace Page

/-- The index of what is not on a page, behind every other. -/
def noIndex : Nat := Nat.pow 2 64 - 1

/-- The text in front of a span, from an offset on. -/
def plainLabelBefore (text : Text) (position : Span) (start : Nat) : Text :=
  match position with
  | .notFound => []
  | .range first _ => ((text.slice? (min start first) first).map Text.trim).getD []

/-- The text behind a span. -/
def plainLabelAfter (text : Text) (position : Span) : Text :=
  match position with
  | .notFound => []
  | .range _ stop => ((text.drop? stop).map Text.trim).getD []

/-- A page of which no more is known than where its elements are. -/
def plain (text : Text) (visible : Capability → List ElementId)
    (textBefore : ElementId → Text) (position : ElementId → Span)
    (hierarchy : ElementId → Hierarchy) (index : ElementId → Nat) :
    Page where
  text := text
  visible := visible
  textBefore := textBefore
  position := position
  hierarchy := hierarchy
  index := index
  labelBefore e start := plainLabelBefore text (position e) start
  labelAfter e := plainLabelAfter text (position e)
  labels _ := []
  attributeOf _ _ := none
  ownText _ := none

end Page
end ControlSearch
