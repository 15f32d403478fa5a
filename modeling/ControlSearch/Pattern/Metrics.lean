import ControlSearch.Pattern.Query

/-!
# Counting queries

A diagnostic aid: a pattern can be asked through counters, one for each kind of query.
Counting never changes an answer.
-/
namespace ControlSearch

/-- The kinds of queries that are counted. -/
inductive QueryKind where
  | accepts
  | endsText
  | first
  | lastShortest
  | sizeBeforeLast
  | sizeBeforeLastShortest
  | sizeAfterLast
  | sizeAfterLastShortest
  | surroundingSize
  deriving DecidableEq, Repr

namespace QueryKind

def all : List QueryKind :=
  [accepts, endsText, first, lastShortest, sizeBeforeLast, sizeBeforeLastShortest,
    sizeAfterLast, sizeAfterLastShortest, surroundingSize]

theorem mem_all (k : QueryKind) : k ∈ all := by cases k <;> decide

/-- The name in reports. -/
def name : QueryKind → String
  | accepts => "matches"
  | endsText => "matches_at_end"
  | first => "first_occurrence_in"
  | lastShortest => "last_occurrence_in"
  | sizeBeforeLast => "chars_before_last_occurrence_in"
  | sizeBeforeLastShortest => "chars_before_last_shortest_occurrence_in"
  | sizeAfterLast => "chars_after_last_occurrence_in"
  | sizeAfterLastShortest => "chars_after_last_shortest_occurrence_in"
  | surroundingSize => "no_of_surrounding_chars_in"

end QueryKind

/-- The answer to a query. -/
inductive Answer where
  | truth (b : Bool)
  | place (s : Span)
  | size (n : Option Nat)
  deriving DecidableEq, Repr

/-- Asks a pattern about a text. -/
def Pattern.answer (p : Pattern) (t : Text) : QueryKind → Answer
  | .accepts => .truth (p.accepts t)
  | .endsText => .truth (p.endsText t)
  | .first => .place (p.first t)
  | .lastShortest => .place (p.lastShortest t)
  | .sizeBeforeLast => .size (p.sizeBeforeLast? t)
  | .sizeBeforeLastShortest => .size (p.sizeBeforeLastShortest? t)
  | .sizeAfterLast => .size (p.sizeAfterLast? t)
  | .sizeAfterLastShortest => .size (p.sizeAfterLastShortest? t)
  | .surroundingSize => .size (p.surroundingSize? t)

/-- The number of queries of each kind. -/
structure QueryCounts where
  count : QueryKind → Nat

namespace QueryCounts

def zero : QueryCounts := ⟨fun _ => 0⟩

/-- Counts one more query. -/
def record (c : QueryCounts) (k : QueryKind) : QueryCounts :=
  ⟨fun k' => if k' = k then c.count k' + 1 else c.count k'⟩

@[simp] theorem count_record (c : QueryCounts) (k k' : QueryKind) :
    (c.record k).count k' = if k' = k then c.count k' + 1 else c.count k' := rfl

/-- All queries counted so far. -/
def total (c : QueryCounts) : Nat := QueryKind.all.foldr (fun k sum => c.count k + sum) 0

theorem total_record (c : QueryCounts) (k : QueryKind) :
    (c.record k).total = c.total + 1 := by
  cases k <;> simp [total, QueryKind.all] <;> omega

/-- Fills up with blanks to a given number of characters. -/
def padded (width : Nat) (s : String) : String :=
  s ++ String.ofList (List.replicate (width - s.length) ' ')

/-- A line for each kind of query. -/
def report (c : QueryCounts) : String :=
  "Pattern query statistics:\n" ++
    String.join (QueryKind.all.map fun k => s!"  {padded 42 k.name} {c.count k}\n")

end QueryCounts

/-- A pattern whose queries are counted. -/
structure CountedPattern where
  pattern : Pattern
  counts : QueryCounts

namespace CountedPattern

/-- Asks the pattern and counts the query. -/
def ask (p : CountedPattern) (k : QueryKind) (t : Text) : Answer × CountedPattern :=
  (p.pattern.answer t k, { p with counts := p.counts.record k })

/-- Searches from an offset on, which counts as a search for the first occurrence. -/
def askFirstFrom (p : CountedPattern) (t : Text) (start : Nat) : Span × CountedPattern :=
  (p.pattern.firstFrom t start, { p with counts := p.counts.record .first })

end CountedPattern
end ControlSearch
