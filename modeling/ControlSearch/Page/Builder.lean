import ControlSearch.Page.Description
import ControlSearch.Page.RunningText

/-!
# Building pages

A page is built in document order. Texts run on until a block, an element or a label sets a
blank; every call takes the next place among the children of the innermost open block.
-/
namespace ControlSearch

/-- An element on a page. -/
structure PlacedElement where
  spec : ElementSpec
  /-- The part of the page text that belongs to the element. -/
  start : Nat
  stop : Nat
  hierarchy : Hierarchy
  deriving DecidableEq, Repr

/-- Which element a label belongs to. -/
inductive LabelTarget where
  /-- The one with an id. -/
  | named (id : Text)
  /-- The one inside the label. -/
  | nested (element : ElementId)
  deriving DecidableEq, Repr

/-- A label on a page. -/
structure PlacedLabel where
  start : Nat
  stop : Nat
  target : LabelTarget
  deriving DecidableEq, Repr

/-- A block that is open, and the number of its next child. -/
structure OpenBlock where
  path : Hierarchy
  next : Nat
  deriving DecidableEq, Repr

/-- A page in the making. The number of an element is its place in the list. -/
structure PageBuilder where
  text : RunningText
  elements : List PlacedElement
  labels : List PlacedLabel
  /-- The innermost open block. -/
  block : OpenBlock
  /-- The other open blocks, from the inside out. -/
  outer : List OpenBlock
  deriving DecidableEq, Repr

namespace PageBuilder

def empty : PageBuilder := ⟨.empty, [], [], ⟨.root, 0⟩, []⟩

/-- Takes the next place in the innermost block. -/
def nextChild (b : PageBuilder) : Hierarchy × PageBuilder :=
  (b.block.path.child b.block.next,
    { b with block := { b.block with next := b.block.next + 1 } })

/-- Opens a block at a place, without a blank. -/
def enter (b : PageBuilder) (path : Hierarchy) : PageBuilder :=
  { b with block := ⟨path, 0⟩, outer := b.block :: b.outer }

/-- Leaves the innermost block, unless it is the page itself. -/
def leave (b : PageBuilder) : PageBuilder :=
  match b.outer with
  | [] => b
  | block :: outer => { b with block, outer }

def appendBlank (b : PageBuilder) : PageBuilder := { b with text := b.text.appendBlank }

def append (b : PageBuilder) (raw : Text) : PageBuilder :=
  { b with text := b.text.append raw }

/-- Adds a text. -/
def addText (b : PageBuilder) (raw : Text) : PageBuilder := b.nextChild.2.append raw

/-- Where a text that starts at an offset of the page text ends if blanks at its end do not
count. -/
def trimmedStop (content : Text) (start : Nat) : Nat :=
  let rest := (content.drop? start).getD []
  start + Text.size (rest.reverse.dropWhile (· == ' ')).reverse

/-- Adds a text behind a blank, and tells from where to where it goes without blanks. -/
def addRun (b : PageBuilder) (raw : Text) : Nat × Nat × PageBuilder :=
  let b := b.appendBlank
  let start := b.text.size
  let b := b.append raw
  (start, trimmedStop b.text.content start, b)

/-- Adds a label for the element with a given id. -/
def addLabel (b : PageBuilder) (raw target : Text) : PageBuilder :=
  let (start, stop, b) := b.nextChild.2.addRun raw
  { b.appendBlank with labels := b.labels ++ [⟨start, stop, .named target⟩] }

/-- Adds an element; the text inside it is set off by blanks. -/
def addElement (b : PageBuilder) (spec : ElementSpec) : ElementId × PageBuilder :=
  let (hierarchy, b) := b.nextChild
  let b := b.appendBlank
  let start := b.text.size
  let b := match spec.text with
    | some own => b.append own
    | none => b
  let inside := (b.text.content.drop? start).getD []
  let stop := if inside.getLast? == some ' ' then b.text.size - 1 else b.text.size
  let b := b.appendBlank
  (b.elements.length, { b with elements := b.elements ++ [⟨spec, start, stop, hierarchy⟩] })

/-- Adds a label with an element inside it, behind its text. -/
def addLabelled (b : PageBuilder) (raw : Text) (spec : ElementSpec) :
    ElementId × PageBuilder :=
  let (path, b) := b.nextChild
  let (start, stop, b) := (b.enter path).nextChild.2.addRun raw
  let (element, b) := b.addElement spec
  let b := b.leave
  (element, { b with labels := b.labels ++ [⟨start, stop, .nested element⟩] })

/-- Opens a block. -/
def openBlock (b : PageBuilder) : PageBuilder :=
  let (path, b) := b.nextChild
  (b.enter path).appendBlank

/-- Closes the innermost block. -/
def closeBlock (b : PageBuilder) : PageBuilder := b.leave.appendBlank

mutual

/-- Adds a node of a description. -/
def addNode (b : PageBuilder) : PageNode → PageBuilder
  | .text raw => b.addText raw
  | .element spec => (b.addElement spec).2
  | .label l =>
    match l.control, l.target with
    | some control, _ => (b.addLabelled l.text control).2
    | none, some target => b.addLabel l.text target
    | none, none => b.addText l.text
  | .group children => (addNodes b.openBlock children).closeBlock

/-- Adds several nodes. -/
def addNodes (b : PageBuilder) : List PageNode → PageBuilder
  | [] => b
  | node :: rest => addNodes (b.addNode node) rest

end

def ofDescription (d : PageDescription) : PageBuilder := empty.addNodes d.nodes

end PageBuilder
end ControlSearch
