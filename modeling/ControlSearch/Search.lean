import ControlSearch.Locator
import ControlSearch.Pattern.Query
import ControlSearch.Search.Clue

/-!
# Searching a page

An element is a candidate if it qualifies for the capability that is asked for. Each clue that
fits the locator is a hit of it, and its best hit ranks the element. Without a locator all
candidates are listed by how much text is in front of them.
-/
namespace ControlSearch

/-- What a page is searched with. -/
structure SearchTerm where
  node : Pattern
  whole : Pattern
  startsWith : Option Pattern
  path : Option Pattern
  /-- Where the path was found; nothing without a path. -/
  pathSpan : Option Span
  deriving DecidableEq, Repr

/-- How good a hit is: the bytes around it, and the bytes between the path and what was
hit. -/
structure Score where
  coverage : Nat
  distance : Nat
  deriving DecidableEq, Repr

namespace Score

def isLE (a b : Score) : Bool :=
  a.coverage < b.coverage || (a.coverage == b.coverage && a.distance ≤ b.distance)

/-- The best of some scores. -/
def best? : List Score → Option Score
  | [] => none
  | s :: rest =>
    match best? rest with
    | none => some s
    | some t => some (if s.isLE t then s else t)

end Score

namespace SearchTerm

variable (term : SearchTerm) (page : Page)

/-- Whether a place on the page lies behind the path. -/
def isBehindPath (start : Nat) : Bool :=
  match term.pathSpan with
  | some (.range _ stop) => stop ≤ start
  | _ => true

/-- The pattern for a clue, and how the text has to fit it. Where the last segment accepts the
empty text it says nothing about a single element; only all segments together, or the text
behind the path, can then be compared. -/
def comparison? (clue : Clue) : Option (Pattern × Fit) :=
  match clue with
  | .wholeTextBefore => some (term.whole, .endsWith)
  | .labelTextBefore =>
    if term.node.mayBeEmpty then term.startsWith.map (·, .startsWith)
    else some (term.node, clue.fit)
  | clue => if term.node.mayBeEmpty then none else some (term.node, clue.fit)

/-- The bytes of a text outside a pattern that it fits. -/
def coverage? (p : Pattern) (value : Text) : Fit → Option Nat
  | .exact => if p.accepts value then p.surroundingSize? value else none
  | .contains => p.surroundingSize? value
  | .endsWith => if p.endsText value then p.sizeBeforeLast? value else none
  | .startsWith => p.sizeAfterLast? value

/-- The offset from which on a label text is compared. -/
def labelStart : Fit → Nat
  | .startsWith => 0
  | _ => match term.pathSpan with
    | some (.range _ stop) => stop
    | _ => 0

/-- The text of an element that a clue compares. -/
def value? (e : ElementId) (fit : Fit) : Clue → Option Text
  | .wholeTextBefore => some (page.textBefore e)
  | .labelTextBefore => some (page.labelBefore e (term.labelStart fit))
  | .labelTextAfter => some (page.labelAfter e)
  | .label => none
  | .attribute which => page.attributeOf e which
  | .ownText => page.ownText e

/-- The text on which the distance from the path is measured: up to the label, if the element
was found by a label text that contains the last segment, and else up to the element. -/
def measured (before : Text) (clue : Clue) (fit : Fit) : Text :=
  if clue = .labelTextBefore ∧ fit = .contains then
    ((term.node.sizeBeforeLastShortest? before).bind before.take?).getD before
  else before

/-- The score of a clue that compares one text. -/
def scoreValue? (e : ElementId) (clue : Clue) : Option Score := do
  let (pattern, fit) ← term.comparison? clue
  let start ← (page.position e).start?
  if !term.isBehindPath start then none
  let value ← term.value? page e fit clue
  if value.isEmpty then none
  let coverage ← coverage? pattern value fit
  let before := term.measured (page.textBefore e) clue fit
  return ⟨coverage, (term.path.bind (·.sizeAfterLastShortest? before)).getD before.size⟩

/-- The score of one label. The distance is measured up to the label. -/
def scoreLabel? : Span × Text → Option Score
  | (.notFound, _) => none
  | (.range start _, text) => do
    if !term.isBehindPath start then none
    let coverage ← term.node.surroundingSize? text
    let before := ((page.text.take? start).getD []).trimEnd
    return ⟨coverage, (term.path.bind (·.sizeAfterLast? before)).getD before.size⟩

/-- The score of the labels that point to an element. -/
def scoreLabels? (e : ElementId) : Option Score := do
  let _ ← term.comparison? .label
  Score.best? ((page.labels e).filterMap (term.scoreLabel? page))

/-- The score of a clue. If the path was searched in vain nothing is found. -/
def score? (e : ElementId) (clue : Clue) : Option Score :=
  if term.pathSpan = some .notFound then none
  else match clue with
    | .label => term.scoreLabels? page e
    | clue => term.scoreValue? page e clue

/-- The hit of a clue. -/
def hit? (e : ElementId) (clue : Clue) : Option Entry :=
  (term.score? page e clue).map fun s =>
    ⟨e, clue.foundBy, s.coverage, s.distance, page.hierarchy e, page.index e⟩

/-- All hits of an element, in the order of the clues. -/
def hits (clues : List Clue) (e : ElementId) : List Entry :=
  clues.filterMap (term.hit? page e)

/-- What a page is searched with for a locator whose path, if it restricts anything, is
searched first. -/
def ofPatterns (p : Locator.Patterns) (page : Page) : SearchTerm :=
  let path := p.path.filter (!·.isEverything)
  ⟨p.node, p.whole, p.startsWith, path, path.map (·.first page.text)⟩

end SearchTerm

namespace Page

/-- The entry of a candidate when no locator tells candidates apart. -/
def candidate (page : Page) (e : ElementId) : Entry :=
  ⟨e, .id, 0, (page.textBefore e).size, page.hierarchy e, page.index e⟩

/-- The ranking of the elements that qualify for a capability and fit a locator. -/
def ranking (page : Page) (c : Capability) (l : Locator) : Ranking :=
  match l.patterns with
  | none => Ranking.empty.insertAll ((page.visible c).map page.candidate)
  | some patterns =>
    let term := SearchTerm.ofPatterns patterns page
    Ranking.empty.insertAll ((page.visible c).flatMap (term.hits page (Clue.forCapability c)))

/-- The elements that qualify for a capability and fit a locator, best first. -/
def findControls (page : Page) (c : Capability) (l : Locator) : List Entry :=
  (page.ranking c l).sorted

end Page
end ControlSearch
