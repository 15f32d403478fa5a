import ControlSearch.Page

/-!
# Page descriptions

A page as it is written down: text, elements, labels and groups, in the order in which they
are read.
-/
namespace ControlSearch

/-- An element with its attributes. -/
structure ElementSpec where
  id : Option Text := none
  name : Option Text := none
  capabilities : List Capability := []
  /-- The text inside the element. -/
  text : Option Text := none
  title : Option Text := none
  placeholder : Option Text := none
  value : Option Text := none
  ariaLabel : Option Text := none
  visible : Bool := true
  /-- The form that the element belongs to. -/
  form : Option Nat := none
  deriving DecidableEq, Repr, Inhabited

namespace ElementSpec

def withCapabilities (capabilities : List Capability) : ElementSpec := { capabilities }

/-- A text input of one line. -/
def textInput : ElementSpec := withCapabilities [.set, .focus, .disable]

/-- A check box or radio button. -/
def checkbox : ElementSpec := withCapabilities [.select, .deselect, .focus]

/-- A link or button. -/
def clickable (caption : Text) : ElementSpec :=
  { withCapabilities [.click, .focus] with text := some caption }

def attributeOf (e : ElementSpec) : Attribute → Option Text
  | .id => e.id
  | .name => e.name
  | .title => e.title
  | .placeholder => e.placeholder
  | .value => e.value
  | .ariaLabel => e.ariaLabel

end ElementSpec

/-- A label, which names the element that it belongs to, or holds it behind its text. -/
structure LabelSpec where
  text : Text
  target : Option Text := none
  control : Option ElementSpec := none
  deriving DecidableEq, Repr, Inhabited

/-- A node of a description. -/
inductive PageNode where
  | text (t : Text)
  | element (e : ElementSpec)
  | label (l : LabelSpec)
  | group (children : List PageNode)
  deriving Repr, Inhabited

/-- The description of a page. -/
structure PageDescription where
  nodes : List PageNode
  deriving Repr, Inhabited

end ControlSearch
