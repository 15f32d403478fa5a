import Std.Data.HashMap
import Std.Data.HashSet
import ControlSearch.Regex.Scan

/-!
# All occurrences in a text

The runs from all starts are taken along the text side by side. Runs that are left with the
same threads are merged, so a text is read once, whatever the number of starts.
`occurrences_eq` says that merging changes nothing: each start has the ends of its own run.
-/
namespace ControlSearch.Regex

/-- A start of matches, with the ends of the shortest and of the longest one. -/
structure Occurrence where
  start : Nat
  shortestStop : Nat
  longestStop : Nat
  deriving DecidableEq, Repr

/-- The matches that start at a boundary, if there are any. -/
def occurrenceAt? (r : Regex) (b : Text.Boundary) : Option Occurrence := do
  return ⟨b.offset, ← r.shortestEnd? b, ← r.longestEnd? b⟩

/-! ## Runs -/

/-- What a run is left with. -/
abbrev Run := Weighed (List Regex)

/-- The first and the last end of a run, if it ends at all. -/
structure Ends where
  first : Nat
  last : Nat
  deriving DecidableEq, Repr

namespace Ends

/-- The first and the last of some ends. -/
def ofList? (ends : List Nat) : Option Ends := do return ⟨← ends.head?, ← ends.getLast?⟩

/-- The ends of a run whose first steps at an offset are known, and its ends behind it. -/
def join (offset : Nat) (found : List Branch) (later : Option Ends) : Option Ends :=
  if .accept ∈ found then some ⟨offset, (later.map (·.last)).getD offset⟩ else later

theorem join_ofList? (offset : Nat) (found : List Branch) (later : List Nat) :
    join offset found (ofList? later)
      = ofList? (if .accept ∈ found then offset :: later else later) := by
  unfold join
  split
  · cases later with
    | nil => rfl
    | cons n rest => simp [ofList?, List.getLast?_eq_some_getLast]
  · rfl

end Ends

/-! ## The sweep -/

/-- The ends of some runs from a place on, and the matches that start behind it. At every
boundary a new run is begun, with the threads of `start`. -/
def sweep (start : Run) (runs : List Run) (offset : Nat) (last : Option Char) :
    Text → List (Option Ends) × List Occurrence
  | [] => (runs.map fun run => Ends.join offset (steps ⟨last, none⟩ run.value) none, [])
  | c :: rest =>
    let found := runs.map fun run => steps ⟨last, some c⟩ run.value
    let next := found.map fun steps => weighedAll (advance c steps)
    let merged := (Std.HashSet.ofList (start :: next)).toList
    let (ends, later) := sweep start merged (offset + c.utf8Size) (some c) rest
    let table := Std.HashMap.ofList (merged.zip ends)
    let endsOf (run : Run) : Option Ends := table[run]?.join
    (List.zipWith (fun steps run => Ends.join offset steps (endsOf run)) found next,
      ((endsOf start).map fun e => ⟨offset + c.utf8Size, e.first, e.last⟩).toList ++ later)

/-- The starts of matches in ascending order, each with the ends of its matches. -/
def occurrences (r : Regex) (t : Text) : List Occurrence :=
  let start := weighedAll [r]
  let (ends, later) := sweep start [start] 0 none t
  (ends.head?.join.map fun e => ⟨0, e.first, e.last⟩).toList ++ later

/-! ## Merging changes nothing -/

theorem endsFrom_nil (offset : Nat) (last : Option Char) (t : Text) :
    endsFrom [] offset last t = [] := by
  cases t <;> simp [endsFrom, steps, untilAccept, advance]

/-- The matches of a run at a boundary. -/
def occurrenceOf? (threads : List Regex) (b : Text.Boundary) : Option Occurrence :=
  (Ends.ofList? (endsFrom threads b.offset b.last b.rest)).map fun e =>
    ⟨b.offset, e.first, e.last⟩

/-- A table of a function over the members of a set has the value of each member. -/
theorem getElem?_ofList_zip_map {α β : Type} [BEq α] [LawfulBEq α] [Hashable α] (f : α → β)
    (keys : Std.HashSet α) (k : α) (h : k ∈ keys) :
    (Std.HashMap.ofList (keys.toList.zip (keys.toList.map f)))[k]? = some (f k) := by
  have hzip : keys.toList.zip (keys.toList.map f) = keys.toList.map fun x => (x, f x) := by
    rw [List.zip_map_right, List.zip_eq_zipWith, List.zipWith_self, List.map_map]
    rfl
  rw [hzip]
  refine Std.HashMap.getElem?_ofList_of_mem BEq.rfl ?_
    (List.mem_map.2 ⟨k, Std.HashSet.mem_toList.2 h, rfl⟩)
  exact List.pairwise_map.2 Std.HashSet.distinct_toList

/-- A run's ends at a place, from its ends behind the next character. -/
theorem ofList?_endsFrom_cons (threads : List Regex) (offset : Nat)
    (last : Option Char) (c : Char) (rest : Text) :
    Ends.ofList? (endsFrom threads offset last (c :: rest))
      = Ends.join offset (steps ⟨last, some c⟩ threads) (Ends.ofList? (endsFrom
        (advance c (steps ⟨last, some c⟩ threads)) (offset + c.utf8Size) (some c) rest)) := by
  rw [Ends.join_ofList?, endsFrom]
  cases advance c (steps ⟨last, some c⟩ threads) <;> simp [endsFrom_nil]

theorem sweep_eq (start : Run) (runs : List Run) (offset : Nat)
    (last : Option Char) (t : Text) :
    sweep start runs offset last t
      = (runs.map fun run => Ends.ofList? (endsFrom run.value offset last t),
        (Text.boundariesFrom offset last t).tail.filterMap (occurrenceOf? start.value)) := by
  induction t generalizing runs offset last with
  | nil =>
    have h (run : Run) : Ends.join offset (steps ⟨last, none⟩ run.value) none
        = Ends.ofList? (endsFrom run.value offset last []) := Ends.join_ofList? offset _ []
    simp [sweep, Text.boundariesFrom, h]
  | cons c rest ih =>
    have look (next : List Run) (run : Run) (h : run ∈ start :: next) :
        (Std.HashMap.ofList ((Std.HashSet.ofList (start :: next)).toList.zip
          ((Std.HashSet.ofList (start :: next)).toList.map fun run =>
            Ends.ofList?
              (endsFrom run.value (offset + c.utf8Size) (some c) rest))))[run]?.join
          = Ends.ofList? (endsFrom run.value (offset + c.utf8Size) (some c) rest) := by
      rw [getElem?_ofList_zip_map _ _ _ (Std.HashSet.mem_ofList.2 (by simpa using h))]
      rfl
    simp only [sweep, ih, List.map_map, Prod.mk.injEq]
    constructor
    · rw [List.zipWith_map_left, List.zipWith_map_right, List.zipWith_self]
      refine List.map_congr_left fun run h => ?_
      rw [look _ _ (List.mem_cons_of_mem _ (List.mem_map_of_mem h)), ofList?_endsFrom_cons]
      simp
    · rw [look _ _ List.mem_cons_self]
      rw [Text.boundariesFrom, List.tail_cons, Text.boundariesFrom_eq_cons,
        List.filterMap_cons]
      simp only [occurrenceOf?, List.tail_cons]
      cases Ends.ofList? (endsFrom start.value (offset + c.utf8Size) (some c) rest) <;> rfl

/-- Every start has the ends of its own run. -/
theorem occurrences_eq (r : Regex) (t : Text) :
    r.occurrences t = t.boundaries.filterMap r.occurrenceAt? := by
  have hr : r.occurrenceAt? = occurrenceOf? [r] := by
    funext b
    simp only [occurrenceAt?, occurrenceOf?, Ends.ofList?, shortestEnd?_eq_head?,
      longestEnd?, ends]
    cases (endsFrom [r] b.offset b.last b.rest).head? <;>
      cases (endsFrom [r] b.offset b.last b.rest).getLast? <;> rfl
  rw [occurrences, hr, Text.boundaries, Text.boundariesFrom_eq_cons, List.filterMap_cons]
  simp only [sweep_eq, List.map_cons, List.map_nil, List.head?_cons, Option.join_some,
    value_weighedAll, occurrenceOf?]
  cases Ends.ofList? (endsFrom [r] 0 none t) <;> rfl

end ControlSearch.Regex
