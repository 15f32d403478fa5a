import ControlSearch.Pattern.Query

/-!
# Content checks

Nodes are patterns that have to occur in a content one behind the other. Each is searched
behind the hit of the one before; one that is not found there leaves the place of the search
as it is, and is reported as missing or, if it occurs elsewhere, as out of order.
-/
namespace ControlSearch

structure ContentPattern where
  nodes : List Pattern
  deriving DecidableEq, Repr

namespace ContentPattern

/-- Compiles the specs of the nodes, of which there has to be one at least. -/
def ofSpecs (settings : PatternSettings) (specs : List Text) : Except Error ContentPattern :=
  if specs.isEmpty then throw (.validation "content" "at least one node is required")
  else do return ⟨← specs.mapM (Pattern.compile settings)⟩

/-- What became of a node. -/
inductive Verdict where
  /-- The node accepts everything and needs no place. -/
  | free
  /-- Found behind the nodes before it, up to an offset. -/
  | found (stop : Nat)
  /-- Found, but not behind the nodes before it. -/
  | outOfOrder
  | missing
  deriving DecidableEq, Repr

/-- What becomes of a node that is searched from an offset on. -/
def verdict (content : Text) (start : Nat) (node : Pattern) : Verdict :=
  if node.isEverything then .free
  else match node.firstFrom content start with
    | .range _ stop => .found stop
    | .notFound => if (node.first content).isFound then .outOfOrder else .missing

/-- Where the search goes on. -/
def Verdict.next (start : Nat) : Verdict → Nat
  | found stop => stop
  | _ => start

/-- The verdicts on nodes searched one after the other from an offset on. -/
def verdictsFrom (content : Text) (start : Nat) : List Pattern → List (Pattern × Verdict)
  | [] => []
  | node :: rest =>
    let v := verdict content start node
    (node, v) :: verdictsFrom content (v.next start) rest

/-- How a node is reported. -/
def entry : Pattern × Verdict → Text
  | (node, .outOfOrder) => '[' :: node.spec ++ [']']
  | (node, .missing) => '\x7b' :: node.spec ++ ['\x7d']
  | (node, _) => node.spec

/-- The outcome of a check. -/
structure Check where
  verdicts : List (Pattern × Verdict)
  deriving DecidableEq, Repr

/-- Checks a content. -/
def check (p : ContentPattern) (content : Text) : Check := ⟨verdictsFrom content 0 p.nodes⟩

namespace Check

/-- The specs of the nodes with a given verdict. -/
def specsWith (v : Verdict) (c : Check) : List Text :=
  (c.verdicts.filter (·.2 == v)).map (·.1.spec)

/-- The specs that do not occur. -/
def missing (c : Check) : List Text := c.specsWith .missing

/-- The specs that occur, but not behind the nodes before them. -/
def outOfOrder (c : Check) : List Text := c.specsWith .outOfOrder

/-- Whether every node was found in its place. -/
def isMatched (c : Check) : Bool := c.missing.isEmpty && c.outOfOrder.isEmpty

/-- All nodes: missing ones in braces, ones out of order in brackets. -/
def report (c : Check) : Text := Text.join [',', ' '] (c.verdicts.map entry)

end Check
end ContentPattern
end ControlSearch
