import ControlSearch.Json
import ControlSearch.Page.Static

/-!
# Page descriptions as JSON

A description is an object with its nodes; a node is an object with one member, named for the
kind of node. Elements and labels may also be written as arrays of their fields in a fixed
order. Members that nobody asks for are ignored, but none may be given twice. What is read is
nested at most 127 levels deep.
-/
namespace ControlSearch

/-! ## Writing -/

namespace PageDescription

/-- An object, by the names of its members. -/
def jsonObject (members : List (String × Json)) : Json :=
  .object (members.map fun (name, value) => (some name.toList, value))

def jsonText? (t : Option Text) : Json := (t.map Json.ofText).getD .null

def jsonElement (e : ElementSpec) : Json := jsonObject
  [("id", jsonText? e.id), ("name", jsonText? e.name),
    ("capabilities", .array (e.capabilities.map fun c => Json.ofText c.name.toList)),
    ("text", jsonText? e.text), ("title", jsonText? e.title),
    ("placeholder", jsonText? e.placeholder), ("value", jsonText? e.value),
    ("aria-label", jsonText? e.ariaLabel), ("visible", .bool e.visible),
    ("form", match e.form with
      | some n => .number (some n)
      | none => .null)]

def jsonLabel (l : LabelSpec) : Json := jsonObject
  [("text", Json.ofText l.text), ("for", jsonText? l.target),
    ("control", (l.control.map jsonElement).getD .null)]

mutual

def jsonNode : PageNode → Json
  | .text t => jsonObject [("text", Json.ofText t)]
  | .element e => jsonObject [("element", jsonElement e)]
  | .label l => jsonObject [("label", jsonLabel l)]
  | .group children => jsonObject [("group", .array (jsonNodes children))]

def jsonNodes : List PageNode → List Json
  | [] => []
  | node :: rest => jsonNode node :: jsonNodes rest

end

/-- A description as a value. -/
def toJson (d : PageDescription) : Json := jsonObject [("nodes", .array (jsonNodes d.nodes))]

/-- A description as text. -/
def write (d : PageDescription) : Text := d.toJson.write

/-! ## Reading

Every reader is told how many levels of arrays and objects it may open. -/

/-- The deepest nesting that is read. -/
def maxLevels : Nat := 127

/-- The fields of a structure, by the names given, from an object or from an array that may be
short of some at the end. -/
def fields? (levels : Nat) (names : List String) : Json → Option (List (Option Json))
  | .object members =>
    if levels = 0 ∨ members.any (·.1.isNone) then none
    else names.mapM fun name =>
      match members.filter (·.1 == some name.toList) with
      | [] => some none
      | [(_, value)] => some (some value)
      | _ => none
  | .array items =>
    if levels = 0 ∨ names.length < items.length then none
    else some (items.map some ++ List.replicate (names.length - items.length) none)
  | _ => none

def text? : Json → Option Text
  | .string value => value
  | _ => none

def bool? : Json → Option Bool
  | .bool b => some b
  | _ => none

/-- A number of 32 bits. -/
def word? : Json → Option Nat
  | .number (some (.ofNat n)) => if n < Nat.pow 2 32 then some n else none
  | _ => none

/-- What may be null. -/
def nullable? {α : Type} (read? : Json → Option α) : Json → Option (Option α)
  | .null => some none
  | value => (read? value).map some

/-- What takes a default if it is not given. -/
def given? {α : Type} (default : α) (read? : Json → Option α) : Option Json → Option α
  | none => some default
  | some value => read? value

def array? {α : Type} (levels : Nat) (read? : Json → Option α) : Json → Option (List α)
  | .array items => if levels = 0 then none else items.mapM read?
  | _ => none

/-- A capability: its name, or an object with its name and null. -/
def capability? (levels : Nat) : Json → Option Capability
  | .string (some name) => Capability.ofName? (String.ofList name)
  | .object [(some name, .null)] =>
    if levels = 0 then none else Capability.ofName? (String.ofList name)
  | _ => none

def element? (levels : Nat) (value : Json) : Option ElementSpec := do
  let fields ← fields? levels
    ["id", "name", "capabilities", "text", "title", "placeholder", "value",
      "aria-label", "visible", "form"] value
  match fields with
  | [id, name, capabilities, text, title, placeholder, value, ariaLabel, visible, form] => do
    let optional := given? none (nullable? text?)
    return {
      id := ← optional id
      name := ← optional name
      capabilities :=
        ← given? [] (array? (levels - 1) (capability? (levels - 2))) capabilities
      text := ← optional text
      title := ← optional title
      placeholder := ← optional placeholder
      value := ← optional value
      ariaLabel := ← optional ariaLabel
      visible := ← given? true bool? visible
      form := ← given? none (nullable? word?) form }
  | _ => none

def label? (levels : Nat) (value : Json) : Option LabelSpec := do
  match ← fields? levels ["text", "for", "control"] value with
  | [text, target, control] => do
    return {
      text := ← text.bind text?
      target := ← given? none (nullable? text?) target
      control := ← given? none (nullable? (element? (levels - 1))) control }
  | _ => none

/-- A node. A group opens two levels, for the node and for its children. -/
def node? : Nat → Json → Option PageNode
  | levels + 1, .object [(some name, value)] =>
    match String.ofList name, levels with
    | "text", _ => (text? value).map .text
    | "element", levels => (element? levels value).map .element
    | "label", levels => (label? levels value).map .label
    | "group", inner + 1 =>
      match value with
      | .array items => (items.mapM (node? inner)).map .group
      | _ => none
    | _, _ => none
  | _, _ => none

/-- A description from a value. -/
def ofJson? (value : Json) : Option PageDescription := do
  match ← fields? maxLevels ["nodes"] value with
  | [some nodes] => do return ⟨← array? (maxLevels - 1) (node? (maxLevels - 2)) nodes⟩
  | _ => none

/-- A description from a text. -/
def read (t : Text) : Except Error PageDescription :=
  match (Json.read t).bind ofJson? with
  | some d => pure d
  | none => throw (.internal "JSON error")

end PageDescription

/-- The page that a text describes; it has to have a node at least. -/
def StaticPage.ofText (t : Text) : Except Error StaticPage := do
  let d ← PageDescription.read t
  if d.nodes.isEmpty then throw (.internal "page fixture has no nodes")
  return .ofDescription d

end ControlSearch
