import ControlSearch.Text.Numeral

/-!
# Tables of a TOML document

A document assigns values to keys in nested tables. Headers and dotted keys make tables on the
way to the one that they name; a table may be completed later only by the form that it was
begun with, and no key is assigned twice.
-/
namespace ControlSearch.Toml

/-- A value. Numbers with fractions and dates are only told apart from other values. -/
inductive Value where
  | string (t : Text)
  | integer (n : Int)
  | float
  | boolean (b : Bool)
  | date
  | array (items : List Value)
  | table (entries : List (Text × Value))
  deriving Repr, Inhabited

/-- How a table came about. -/
inductive Origin where
  /-- By a header of its own, or as the document or a table in braces. -/
  | header
  /-- On the way to the table of a header. -/
  | passed
  /-- By a dotted key. -/
  | dotted
  deriving DecidableEq, Repr

/-- A node of a document that is not complete. -/
inductive Node where
  | value (v : Value)
  | table (origin : Origin) (entries : List (Text × Node))
  /-- Tables by the same header in double brackets, the last one first. -/
  | tables (items : List (List (Text × Node)))
  deriving Repr, Inhabited

namespace Node

/-- A document without keys. -/
def root : Node := table .header []

mutual

/-- The finished value. -/
def finish : Node → Value
  | value v => v
  | table _ entries => .table (finishEntries entries)
  | tables items => .array (finishTables items).reverse

def finishEntries : List (Text × Node) → List (Text × Value)
  | [] => []
  | (key, node) :: rest => (key, node.finish) :: finishEntries rest

def finishTables : List (List (Text × Node)) → List Value
  | [] => []
  | entries :: rest => .table (finishEntries entries) :: finishTables rest

end

/-- Changes the entry of a key, or makes one. -/
def alter (key : Text) (change : Option Node → Option Node) :
    List (Text × Node) → Option (List (Text × Node))
  | [] => (change none).map fun node => [(key, node)]
  | (k, node) :: rest =>
    if k = key then (change (some node)).map fun node => (k, node) :: rest
    else (alter key change rest).map ((k, node) :: ·)

/-- Goes down along keys to the entries of a table and changes them there. Tables on the way
are made with the given origin. By dotted keys no table is entered that has a header of its
own. In place of several tables by the same header the last one is entered. -/
def descend (byDots : Bool)
    (change : Origin → List (Text × Node) → Option (List (Text × Node))) :
    List Text → Origin → List (Text × Node) → Option (List (Text × Node))
  | [], origin, entries => change origin entries
  | key :: path, _, entries =>
    alter key (fun
      | none =>
        let origin := if byDots then .dotted else .passed
        (descend byDots change path origin []).map (table origin)
      | some (value _) => none
      | some (tables []) => none
      | some (tables (last :: others)) =>
        (descend byDots change path .header last).map fun last => tables (last :: others)
      | some (table origin entries) =>
        if byDots && origin == .header then none
        else (descend byDots change path origin entries).map (table origin)) entries

/-- Changes the entries of the whole document. -/
def within (change : Origin → List (Text × Node) → Option (List (Text × Node))) :
    Node → Option Node
  | table origin entries => (change origin entries).map (table origin)
  | _ => none

/-- Begins the table of a header. It must not have been begun before but on the way to
another. -/
def beginTable (path : List Text) (key : Text) : Node → Option Node :=
  within fun origin entries => descend false (fun _ => alter key fun
    | none => some (table .header [])
    | some (table .passed entries) => some (table .header entries)
    | some _ => none) path origin entries

/-- Begins another table of a header in double brackets. -/
def beginItem (path : List Text) (key : Text) : Node → Option Node :=
  within fun origin entries => descend false (fun _ => alter key fun
    | none => some (tables [[]])
    | some (tables items) => some (tables ([] :: items))
    | some _ => none) path origin entries

/-- Assigns a value to a key behind dotted keys, in the table of the last header. -/
def assign (header dots : List Text) (key : Text) (v : Value) : Node → Option Node :=
  within fun origin entries => descend false (fun origin entries =>
    descend true (fun origin entries =>
      -- A plain key may not complete a dotted table, nor a dotted key another kind of table.
      if (origin == .dotted) == dots.isEmpty then none
      else alter key (fun
        | none => some (value v)
        | some _ => none) entries) dots origin entries) header origin entries

end Node

/-- The value of a key in a table. -/
def Value.get? (key : String) : Value → Option Value
  | .table entries => (entries.find? (·.1 == key.toList)).map (·.2)
  | _ => none

end ControlSearch.Toml
