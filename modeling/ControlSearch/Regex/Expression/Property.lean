import ControlSearch.CharSet.Property
import ControlSearch.CharSet.Script
import ControlSearch.Regex.Expression

/-!
# Properties that expressions name

Which characters have a property is settled by the Unicode character database and by the names
that it gives to properties, of which there are many. What an expression means is worked out
for any such body of knowledge; `Properties.standard` knows the categories, the scripts and
some properties more.
-/
namespace ControlSearch.Regex

open Expression (Fault)

/-- What is known of properties: the intervals of the characters that have one. -/
structure Properties where
  members : PropertyName → Except Fault (List Interval)

namespace PropertyName

/-- A name as it is compared with others: without case, blanks, hyphens, low lines, characters
beyond ASCII and a leading `is`, unless all that is left is the `c` of `isc`. -/
def loose (name : Text) : String :=
  let plain (t : Text) : Text :=
    (t.filter fun c => c.toNat < 0x80 && c != ' ' && c != '-' && c != '_').map Char.toLower
  match name with
  | i :: s :: rest =>
    if i.toLower = 'i' ∧ s.toLower = 's' then
      if plain rest = ['c'] then "isc" else String.ofList (plain rest)
    else String.ofList (plain name)
  | name => String.ofList (plain name)

end PropertyName

namespace Properties

/-- A category or a script, or a property that a character has or has not. -/
def ofWord (name : String) : Except Fault (List Interval) :=
  match name with
  | "alphabetic" | "alpha" => pure CharSet.alphabetic.intervals
  | "whitespace" | "wspace" | "space" => pure CharSet.blank.intervals
  | name =>
    match (CharSet.category? name).or (CharSet.script? name) with
    | some members => pure members
    | none => throw .propertyUnknown

/-- The value of a property that has values. -/
def ofValue (property value : String) : Except Fault (List Interval) :=
  let found (members : Option (List Interval)) : Except Fault (List Interval) :=
    match members with
    | some members => pure members
    | none => throw .propertyValueUnknown
  match property with
  | "generalcategory" | "gc" => found (CharSet.category? value)
  | "script" | "sc" => found (CharSet.script? value)
  | _ => throw .propertyUnknown

/-- The categories, the scripts, the alphabetic characters and the blanks. -/
def standard : Properties where
  members
    | .letter c => ofWord (PropertyName.loose [c])
    | .word name => ofWord (PropertyName.loose name)
    | .value property value =>
      ofValue (PropertyName.loose property) (PropertyName.loose value)

end Properties
end ControlSearch.Regex
