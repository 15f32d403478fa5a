import ControlSearch.Text.Numeral

/-!
# Rankings

The elements that a search has found, each with the best of its hits. A hit is better the
fewer bytes surround it and, among equals, the fewer lie between the path and the control. Of
equally good hits of one element the first is kept; elements are listed by their hits and,
among equals, by their places on the page.
-/
namespace ControlSearch

/-- The number of an element. -/
abbrev ElementId := Nat

def ElementId.display (e : ElementId) : String := s!"#{e}"

/-- The place of a node on a page: which child to take, from the root down. -/
abbrev Hierarchy := List Nat

namespace Hierarchy

def root : Hierarchy := []

/-- The place of a child. -/
def child (h : Hierarchy) (i : Nat) : Hierarchy := h ++ [i]

/-- Document order: a node comes before its descendants, and these before its next sibling. -/
def order : Hierarchy → Hierarchy → Ordering
  | [], [] => .eq
  | [], _ :: _ => .lt
  | _ :: _, [] => .gt
  | a :: as, b :: bs => (compare a b).then (order as bs)

def display (h : Hierarchy) : String := "/" ++ "/".intercalate (h.map Nat.repr)

end Hierarchy

/-- What an element was found by. -/
inductive FoundBy where
  | text
  | titleAttribute
  | ariaLabel
  | placeholder
  | labelText
  | labelingText
  | label
  | name
  | id
  deriving DecidableEq, Repr

namespace FoundBy

def all : List FoundBy :=
  [text, titleAttribute, ariaLabel, placeholder, labelText, labelingText, label, name, id]

/-- The name in listings. -/
def display : FoundBy → String
  | text => "BY_TEXT"
  | titleAttribute => "BY_TITLE_ATTRIBUTE"
  | ariaLabel => "BY_ARIA_LABEL"
  | placeholder => "BY_PLACEHOLDER"
  | labelText => "BY_LABEL_TEXT"
  | labelingText => "BY_LABELING_TEXT"
  | label => "BY_LABEL"
  | name => "BY_NAME"
  | id => "BY_ID"

end FoundBy

/-- An element with one of its hits. -/
structure Entry where
  element : ElementId
  foundBy : FoundBy
  /-- The bytes around the hit. -/
  coverage : Nat
  /-- The bytes between the path, or the start of the page, and what was hit. -/
  distance : Nat
  hierarchy : Hierarchy
  /-- The place of the element among all elements. -/
  index : Nat
  deriving DecidableEq, Repr

namespace Entry

/-- Whether the hit of one entry is better than that of another. -/
def isBetter (a b : Entry) : Bool :=
  a.coverage < b.coverage || (a.coverage == b.coverage && a.distance < b.distance)

/-- The order of listings. -/
def order (a b : Entry) : Ordering :=
  (compare a.coverage b.coverage).then <| (compare a.distance b.distance).then <|
    (a.hierarchy.order b.hierarchy).then <| (compare a.index b.index).then <|
      compare a.element b.element

def display (e : Entry) : String :=
  s!"[{e.element.display} found by: {e.foundBy.display} coverage: {e.coverage}" ++
    s!" distance: {e.distance} index: {e.index}]"

end Entry

/-- One entry for each element found, the element found first in front. -/
structure Ranking where
  entries : List Entry
  deriving DecidableEq, Repr

namespace Ranking

def empty : Ranking := ⟨[]⟩

def size (r : Ranking) : Nat := r.entries.length

/-- The entry of an element. -/
def find? (r : Ranking) (e : ElementId) : Option Entry := r.entries.find? (·.element == e)

/-- Keeps an entry if its element is new or its hit is better than the one kept, and says
whether it is kept. -/
def offer (r : Ranking) (e : Entry) : Bool × Ranking :=
  match r.find? e.element with
  | none => (true, ⟨r.entries ++ [e]⟩)
  | some kept =>
    if e.isBetter kept then
      (true, ⟨r.entries.map fun k => if k.element = e.element then e else k⟩)
    else (false, r)

/-- The ranking behind an offer. -/
def insert (r : Ranking) (e : Entry) : Ranking := (r.offer e).2

/-- Whether an entry that is offered is kept. -/
def admits (r : Ranking) (e : Entry) : Bool := (r.offer e).1

/-- Keeps what is admitted of several entries, one after the other. -/
def insertAll (r : Ranking) (es : List Entry) : Ranking := es.foldl insert r

/-- Keeps what is admitted of another ranking. -/
def merge (r s : Ranking) : Ranking := r.insertAll s.entries

/-- The entries, best first. -/
def sorted (r : Ranking) : List Entry := r.entries.mergeSort fun a b => (a.order b).isLE

@[simp] theorem find?_empty (e : ElementId) : empty.find? e = none := rfl

theorem find?_insert_ne (r : Ranking) (e : Entry) (x : ElementId) (h : e.element ≠ x) :
    (r.insert e).find? x = r.find? x := by
  unfold insert offer
  split
  · simp [find?, List.find?_append, h]
  · split
    · simp only [find?, List.find?_map]
      have same : ((fun k : Entry => k.element == x) ∘ fun k =>
          if k.element = e.element then e else k) = fun k => k.element == x := by
        funext k
        simp only [Function.comp_apply]
        split
        · simp_all
        · rfl
      rw [same]
      cases hf : r.entries.find? (·.element == x) with
      | none => rfl
      | some k =>
        have hk : k.element = x := by simpa using List.find?_some hf
        have : k.element ≠ e.element := fun hke => h (hke ▸ hk)
        simp [this]
    · rfl

end Ranking
end ControlSearch
