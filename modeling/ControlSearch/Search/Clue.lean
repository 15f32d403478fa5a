import ControlSearch.Page

/-!
# Clues

The ways in which a locator can describe an element: by the text around it, by labels that
point to it, by its attributes, or by the text inside it.
-/
namespace ControlSearch

/-- How a text has to relate to a pattern. -/
inductive Fit where
  /-- The whole text is accepted. -/
  | exact
  /-- The pattern occurs in the text. -/
  | contains
  /-- An occurrence ends the text; what is in front of it counts as surroundings. -/
  | endsWith
  /-- The pattern occurs in the text; what is behind it counts as surroundings. -/
  | startsWith
  deriving DecidableEq, Repr

/-- What of an element is compared with a locator. -/
inductive Clue where
  /-- All text in front of the element. -/
  | wholeTextBefore
  /-- The text between the control in front and the element. -/
  | labelTextBefore
  /-- The text between the element and the next control. -/
  | labelTextAfter
  /-- The labels that point to the element. -/
  | label
  | attribute (which : Attribute)
  | ownText
  deriving DecidableEq, Repr

namespace Clue

/-- The clues for a capability, the most telling of equally good hits first. -/
def forCapability : Capability → List Clue
  | .set | .disable | .focus =>
    [wholeTextBefore, labelTextBefore, label, .attribute .placeholder, .attribute .title,
      .attribute .id, .attribute .name]
  | .select | .deselect =>
    [wholeTextBefore, labelTextBefore, labelTextAfter, label, .attribute .title,
      .attribute .id, .attribute .name]
  | .click =>
    [ownText, .attribute .value, .attribute .title, .attribute .ariaLabel, .attribute .id,
      .attribute .name]
  | .any =>
    [wholeTextBefore, labelTextBefore, labelTextAfter, label, ownText, .attribute .value,
      .attribute .placeholder, .attribute .title, .attribute .ariaLabel, .attribute .id,
      .attribute .name]

/-- How an element counts as found by a clue. -/
def foundBy : Clue → FoundBy
  | wholeTextBefore => .text
  | labelTextBefore | ownText => .labelText
  | labelTextAfter => .labelingText
  | label | .attribute .value => .label
  | .attribute .id => .id
  | .attribute .name => .name
  | .attribute .title => .titleAttribute
  | .attribute .ariaLabel => .ariaLabel
  | .attribute .placeholder => .placeholder

/-- How the compared text has to relate to the last segment. -/
def fit : Clue → Fit
  | wholeTextBefore => .endsWith
  | labelTextBefore | labelTextAfter | label | ownText => .contains
  | .attribute .placeholder | .attribute .value => .contains
  | .attribute .id | .attribute .name | .attribute .title | .attribute .ariaLabel => .exact

end Clue
end ControlSearch
