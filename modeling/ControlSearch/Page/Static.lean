import ControlSearch.Page.Builder

/-!
# Pages built from a description

A built page knows its form controls, so that a label text reaches only to the next one, and
it knows which elements belong to the same form.
-/
namespace ControlSearch

structure StaticPage where
  text : Text
  elements : List PlacedElement
  labels : List PlacedLabel
  deriving DecidableEq, Repr

/-- The page as built so far. -/
def PageBuilder.build (b : PageBuilder) : StaticPage := ⟨b.text.content, b.elements, b.labels⟩

namespace StaticPage

def ofDescription (d : PageDescription) : StaticPage := (PageBuilder.ofDescription d).build

end StaticPage

namespace PlacedElement

def isFormControl (e : PlacedElement) : Bool := Capability.isFormControl e.spec.capabilities

/-- Whether label texts end at the element: it takes input, and can be seen. -/
def isBarrier (e : PlacedElement) : Bool := e.spec.visible && e.isFormControl

def span (e : PlacedElement) : Span := .range e.start e.stop

end PlacedElement

namespace StaticPage

variable (page : StaticPage)

/-- The first element with a given id. -/
def elementById? (id : Text) : Option ElementId :=
  page.elements.findIdx? (·.spec.id == some id)

def visible (c : Capability) : List ElementId :=
  let offers (e : PlacedElement) := e.spec.visible && c.isOffered e.spec.capabilities
  (page.elements.zipIdx.filter fun (e, _) => offers e).map (·.2)

/-- The text between two offsets, without blanks at its ends. -/
def between (start stop : Nat) : Text := RunningText.between page.text start stop

def textBefore (e : ElementId) : Text :=
  match page.elements[e]? with
  | some placed => page.between 0 placed.start
  | none => []

/-- The label text in front of an element that begins at `stop`, no earlier than `start` and
no earlier than an offset `reached`. -/
def labelFrom (start stop reached : Nat) : Text :=
  page.between (min (max reached start) stop) stop

/-- Walks back over the elements in front of one, the nearest first. A barrier ends the label
text if any text is left behind it, and so does an element of another form, whether or not. -/
def labelBehind (form : Option Nat) (start stop reached : Nat) : List PlacedElement → Text
  | [] => page.labelFrom start stop reached
  | previous :: rest =>
    let label := page.labelFrom start stop previous.stop
    if previous.isBarrier && !label.isEmpty then label
    else
      let reached := if previous.isBarrier then previous.stop else reached
      if previous.spec.form.isSome && previous.spec.form != form then label
      else labelBehind form start stop reached rest

def labelBefore (e : ElementId) (start : Nat) : Text :=
  match page.elements[e]? with
  | none => []
  | some placed =>
    page.labelBehind placed.spec.form start placed.start 0 (page.elements.take e).reverse

/-- Whether the label text behind an element of some form ends at another element. -/
def endsLabel (form : Option Nat) (next : PlacedElement) : Bool :=
  next.isBarrier || (form.isSome && next.spec.form != form)

def labelAfter (e : ElementId) : Text :=
  match page.elements[e]? with
  | none => []
  | some placed =>
    let stop :=
      ((page.elements.drop (e + 1)).find? (endsLabel placed.spec.form)).map (·.start)
    page.between placed.stop (stop.getD page.text.size)

/-- Whether a label belongs to an element. -/
def isLabelOf (e : ElementId) (l : PlacedLabel) : Bool :=
  match l.target with
  | .named id => page.elementById? id == some e
  | .nested control => control == e

def labelsOf (e : ElementId) : List (Span × Text) :=
  match page.elements[e]? with
  | none => []
  | some placed =>
    if placed.spec.visible then
      ((page.labels.filter (page.isLabelOf e)).map fun l =>
        (Span.range l.start l.stop, page.between l.start l.stop)).filter (!·.2.isEmpty)
    else []

def ownText (e : ElementId) : Option Text :=
  page.elements[e]?.bind fun placed =>
    if placed.start = placed.stop then none else page.text.slice? placed.start placed.stop

/-- The page as a search reads it. -/
def toPage : Page where
  text := page.text
  visible := page.visible
  textBefore := page.textBefore
  position e := (page.elements[e]?.map (·.span)).getD .notFound
  hierarchy e := (page.elements[e]?.map (·.hierarchy)).getD .root
  index e := if e < page.elements.length then e else Page.noIndex
  labelBefore := page.labelBefore
  labelAfter := page.labelAfter
  labels := page.labelsOf
  attributeOf e a := page.elements[e]?.bind (·.spec.attributeOf a)
  ownText := page.ownText

end StaticPage
end ControlSearch
