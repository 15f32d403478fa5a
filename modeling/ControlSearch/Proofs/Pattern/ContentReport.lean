import ControlSearch.Proofs.Pattern.Content
import ControlSearch.Proofs.Pattern.Offsets

/-!
# What a content check reports

A check carries the end of the last hit from node to node, and a node without a hit leaves it
as it is. So each verdict is about an offset that the verdicts in front of it tell. Which
nodes are missing does not depend on it: a node that occurs anywhere is found from there on,
or else out of order.
-/
namespace ControlSearch

namespace Pattern

variable {p : Pattern} {t : Text} {b e : Nat}

theorem acceptsAt_iff : p.AcceptsAt t b e ↔ (t.slice? b e).any p.accepts = true := by
  rw [Option.any_eq_true]
  rfl

instance : Decidable (p.AcceptsAt t b e) := decidable_of_iff _ acceptsAt_iff.symm

theorem AcceptsAt.slices (h : p.AcceptsAt t b e) : t.Slices b e := by
  obtain ⟨u, hu, -⟩ := h
  exact Text.slices_iff.mpr ⟨u, hu⟩

/-- A pattern accepts nothing that stands in a text. -/
def IsAbsent (p : Pattern) (t : Text) : Prop := ∀ b e, ¬p.AcceptsAt t b e

/-- Only offsets inside the text have to be tried. -/
theorem isAbsent_iff : p.IsAbsent t ↔ ∀ b ≤ t.size, ∀ e ≤ t.size, ¬p.AcceptsAt t b e := by
  constructor
  · exact fun h b _ e _ => h b e
  · intro h b e hat
    have hslices := hat.slices
    exact h b (hslices.le.trans hslices.stop_le) e hslices.stop_le hat

instance : Decidable (p.IsAbsent t) := decidable_of_iff _ isAbsent_iff.symm

end Pattern

namespace ContentPattern
open Pattern

variable {settings : PatternSettings} {specs : List Text} {content : Text} {node : Pattern}
  {nodes : List Pattern} {start : Nat} {c : ContentPattern} {v : Verdict}
  {verdicts front back : List (Pattern × Verdict)}

/-! ## One verdict -/

/-- What a verdict says about a node that is searched from an offset on. -/
def Verdict.Holds (content : Text) (start : Nat) (node : Pattern) : Verdict → Prop
  | free => node.isEverything = true
  | found stop => node.isEverything = false ∧ ∃ b, start ≤ b ∧ node.AcceptsAt content b stop
  | outOfOrder => node.isEverything = false ∧ ¬node.IsAbsent content ∧
      ∀ b e, start ≤ b → ¬node.AcceptsAt content b e
  | missing => node.isEverything = false ∧ node.IsAbsent content

/-- What is searched from a boundary on is judged rightly, and the search goes on at a
boundary. -/
theorem holds_verdict (h : compile settings node.spec = .ok node)
    (hstart : content.IsBoundary start) :
    (verdict content start node).Holds content start node ∧
      content.IsBoundary ((verdict content start node).next start) := by
  by_cases hp : node.isEverything = true
  · have hfree : verdict content start node = .free := by simp [verdict, hp]
    rw [hfree]
    exact ⟨hp, hstart⟩
  · have hp : node.isEverything = false := by simpa using hp
    have hocc (b e : Nat) := acceptsAt_iff_occurs (t := content) (b := b) (e := e) h hp
    obtain ⟨u, w, rfl, rfl⟩ := Text.isBoundary_iff.mp hstart
    have hbehind := isFirst_firstFrom h hp u w
    cases hspan : node.firstFrom (u ++ w) u.size with
    | range b e =>
        rw [hspan] at hbehind
        obtain ⟨hle, hhit⟩ := hbehind.2.1
        have hat : node.AcceptsAt (u ++ w) b e := (hocc b e).mpr hhit
        rw [verdict_of_range hp hspan]
        exact ⟨⟨hp, b, hle, hat⟩, hat.slices.isBoundary_stop⟩
    -- The search from the start of the content tells a node out of order from a missing one.
    | notFound =>
        rw [hspan] at hbehind
        have hnone : ∀ b e, u.size ≤ b → ¬node.AcceptsAt (u ++ w) b e :=
          fun b e hle hat => hbehind b e ⟨hle, (hocc b e).mp hat⟩
        have hanywhere := isFirst_first h hp (u ++ w)
        cases hfirst : node.first (u ++ w) with
        | range b e =>
            rw [hfirst] at hanywhere
            have hout : verdict (u ++ w) u.size node = .outOfOrder := by
              simp [verdict, hp, hspan, hfirst]
            rw [hout]
            exact ⟨⟨hp, fun habsent => habsent b e ((hocc b e).mpr hanywhere.2.1), hnone⟩,
              hstart⟩
        | notFound =>
            rw [hfirst] at hanywhere
            have hmissing : verdict (u ++ w) u.size node = .missing := by
              simp [verdict, hp, hspan, hfirst]
            rw [hmissing]
            exact ⟨⟨hp, fun b e hat => hanywhere b e ((hocc b e).mp hat)⟩, hstart⟩

/-- Whether a node is missing does not depend on where it is searched. -/
theorem Verdict.Holds.eq_missing_iff (h : v.Holds content start node) :
    v = .missing ↔ node.isEverything = false ∧ node.IsAbsent content := by
  cases v with
  | free =>
      have hp : node.isEverything = true := h
      simp [hp]
  | found stop =>
      obtain ⟨-, b, -, hat⟩ := h
      simp only [reduceCtorEq, false_iff, not_and]
      exact fun _ habsent => habsent b stop hat
  | outOfOrder =>
      obtain ⟨-, hpresent, -⟩ := h
      simp [hpresent]
  | missing => exact iff_of_true rfl h

/-! ## All verdicts -/

/-- Each verdict holds from where the search has gone on behind the verdicts in front of
it. -/
def Classifies (content : Text) : Nat → List (Pattern × Verdict) → Prop
  | _, [] => True
  | start, (node, v) :: rest =>
    v.Holds content start node ∧ Classifies content (v.next start) rest

theorem classifies_verdictsFrom (h : ∀ node ∈ nodes, compile settings node.spec = .ok node)
    (hstart : content.IsBoundary start) :
    Classifies content start (verdictsFrom content start nodes) := by
  induction nodes generalizing start with
  | nil => trivial
  | cons node rest ih =>
      obtain ⟨hnode, hrest⟩ := List.forall_mem_cons.mp h
      obtain ⟨hholds, hnext⟩ := holds_verdict hnode hstart
      exact ⟨hholds, ih hrest hnext⟩

theorem map_fst_verdictsFrom (content : Text) (start : Nat) (nodes : List Pattern) :
    (verdictsFrom content start nodes).map (·.1) = nodes := by
  induction nodes generalizing start with
  | nil => rfl
  | cons node rest ih => rw [verdictsFrom, List.map_cons, ih]

theorem Classifies.exists_holds (h : Classifies content start verdicts) :
    ∀ r ∈ verdicts, ∃ offset, r.2.Holds content offset r.1 := by
  induction verdicts generalizing start with
  | nil => simp
  | cons r rest ih =>
      obtain ⟨hholds, hrest⟩ := h
      exact List.forall_mem_cons.mpr ⟨⟨start, hholds⟩, ih hrest⟩

/-- The missing nodes are those that occur nowhere, whatever the other nodes are. -/
theorem Classifies.missing_eq (h : Classifies content start verdicts) :
    (Check.mk verdicts).missing =
      ((verdicts.map (·.1)).filter fun node =>
        !node.isEverything && decide (node.IsAbsent content)).map (·.spec) := by
  have hfilter : verdicts.filter (·.2 == .missing) = verdicts.filter
      ((fun node : Pattern => !node.isEverything && decide (node.IsAbsent content)) ∘
        Prod.fst) := by
    refine List.filter_congr fun r hr => ?_
    obtain ⟨offset, hholds⟩ := h.exists_holds r hr
    rw [Bool.eq_iff_iff, beq_iff_eq, hholds.eq_missing_iff]
    simp
  rw [Check.missing, Check.specsWith, hfilter, List.filter_map, List.map_map]
  rfl

/-- The nodes that have to be found, and are neither missing nor out of order. -/
def foundNodes (verdicts : List (Pattern × Verdict)) : List (Pattern × Verdict) :=
  verdicts.filter fun r => !r.1.isEverything && r.2 != .missing && r.2 != .outOfOrder

/-- The nodes found have places in the content, none of which begins before those in front of
it have ended. -/
theorem Classifies.exists_places (h : Classifies content start verdicts) :
    ∃ places : List (Nat × Nat),
      List.Forall₂ (fun r place => r.2 = .found place.2 ∧
        r.1.AcceptsAt content place.1 place.2) (foundNodes verdicts) places ∧
      places.Pairwise (fun a b => a.2 ≤ b.1) ∧ ∀ place ∈ places, start ≤ place.1 := by
  induction verdicts generalizing start with
  | nil => exact ⟨[], .nil, .nil, by simp⟩
  | cons r rest ih =>
      obtain ⟨node, v⟩ := r
      obtain ⟨hholds, hrest⟩ := h
      obtain ⟨places, hall, hpairs, hstart⟩ := ih hrest
      cases v with
      | free =>
          have hp : node.isEverything = true := hholds
          exact ⟨places, by simpa [foundNodes, hp] using hall, hpairs, hstart⟩
      | found stop =>
          obtain ⟨hp, b, hle, hat⟩ := hholds
          have hkept : foundNodes ((node, .found stop) :: rest) =
              (node, .found stop) :: foundNodes rest := by simp [foundNodes, hp]
          have hwidth : b ≤ stop := hat.slices.le
          rw [hkept]
          refine ⟨(b, stop) :: places, .cons ⟨rfl, hat⟩ hall,
            List.pairwise_cons.mpr ⟨hstart, hpairs⟩, ?_⟩
          refine List.forall_mem_cons.mpr ⟨hle, fun place hplace => ?_⟩
          have hbehind : stop ≤ place.1 := hstart place hplace
          omega
      | outOfOrder => exact ⟨places, by simpa [foundNodes] using hall, hpairs, hstart⟩
      | missing => exact ⟨places, by simpa [foundNodes] using hall, hpairs, hstart⟩

/-- The end of a hit. -/
def Verdict.stop? : Verdict → Option Nat
  | found stop => some stop
  | _ => none

/-- The ends of the hits, in the order of the nodes. -/
def stops (verdicts : List (Pattern × Verdict)) : List Nat := verdicts.filterMap (·.2.stop?)

/-- A search goes on at the end of the last hit, or where it was begun if there was none. -/
theorem Classifies.holds_at (h : Classifies content start (front ++ (node, v) :: back)) :
    v.Holds content ((stops front).getLast?.getD start) node := by
  induction front generalizing start with
  | nil => exact h.1
  | cons r front ih =>
      obtain ⟨other, v'⟩ := r
      have hrest := ih h.2
      cases v' with
      | found stop =>
          have hstops : stops ((other, .found stop) :: front) = stop :: stops front := rfl
          rw [hstops, List.getLast?_cons]
          exact hrest
      | _ => exact hrest

/-- A node out of order occurs, but not from the end of the last hit in front of it on. There
is such a hit, as nothing that occurs is out of order in front of all hits. -/
theorem Classifies.of_outOfOrder (h :
    Classifies content 0 (front ++ (node, .outOfOrder) :: back)) :
    (∃ b e, node.AcceptsAt content b e) ∧ ∃ stop, (stops front).getLast? = some stop ∧
      ∀ b e, stop ≤ b → ¬node.AcceptsAt content b e := by
  obtain ⟨-, hpresent, hnone⟩ := h.holds_at
  cases hlast : (stops front).getLast? with
  | none =>
      rw [hlast] at hnone
      exact absurd (fun b e => hnone b e (Nat.zero_le b)) hpresent
  | some stop =>
      rw [hlast] at hnone
      exact ⟨by simpa [IsAbsent] using hpresent, stop, rfl, hnone⟩

/-- Every node has one verdict. The missing nodes are those that occur nowhere; the nodes
found have places one behind the other, which end where their hits end; a node out of order
occurs, but not behind the last hit in front of it. A check succeeds if no node is missing or
out of order. -/
theorem verdicts_classify_nodes (h : ofSpecs settings specs = .ok c) (content : Text) :
    c.nodes.map (·.spec) = specs ∧ (c.check content).verdicts.map (·.1) = c.nodes ∧
    (c.check content).missing = (c.nodes.filter fun node =>
      !node.isEverything && decide (node.IsAbsent content)).map (·.spec) ∧
    (∃ places : List (Nat × Nat),
      List.Forall₂ (fun r place => r.2 = .found place.2 ∧
        r.1.AcceptsAt content place.1 place.2)
        (foundNodes (c.check content).verdicts) places ∧
      places.Pairwise fun a b => a.2 ≤ b.1) ∧
    (∀ front node back, (c.check content).verdicts = front ++ (node, .outOfOrder) :: back →
      (∃ b e, node.AcceptsAt content b e) ∧ ∃ stop, (stops front).getLast? = some stop ∧
        ∀ b e, stop ≤ b → ¬node.AcceptsAt content b e) ∧
    ((c.check content).isMatched = true ↔
      (c.check content).missing = [] ∧ (c.check content).outOfOrder = []) := by
  have hnodes := forall₂_nodes h
  have hmap : (c.check content).verdicts.map (·.1) = c.nodes :=
    map_fst_verdictsFrom content 0 c.nodes
  have hclassifies : Classifies content 0 (c.check content).verdicts :=
    classifies_verdictsFrom (compile_of_forall₂ hnodes) (Text.isBoundary_zero content)
  obtain ⟨places, hall, hpairs, -⟩ := hclassifies.exists_places
  refine ⟨?_, hmap, ?_, ⟨places, hall, hpairs⟩, ?_, by simp [Check.isMatched]⟩
  · have hspecs : List.Forall₂ (· = ·) (c.nodes.map (·.spec)) specs :=
      List.forall₂_map_left_iff.mpr (hnodes.flip.imp fun _ _ hnode => spec_of_compile hnode)
    rwa [List.forall₂_eq_eq_eq] at hspecs
  · rw [hclassifies.missing_eq, hmap]
  · intro front node back hsplit
    rw [hsplit] at hclassifies
    exact hclassifies.of_outOfOrder

/-- Of four nodes the second one stands only in front of the first one, and the third one
nowhere. Neither moves the search on, so the last node is found behind the first one, which is
of the same spec. -/
theorem verdicts_classify_nodes_umlaut :
    ∃ c, ofSpecs {} [['ö'], ['a'], ['x'], ['ö']] = .ok c ∧
    (c.check "aöbö".toList).missing = [['x']] ∧ (c.check "aöbö".toList).outOfOrder = [['a']] ∧
    ∃ places : List (Nat × Nat), places.length = 2 ∧
      List.Forall₂ (fun r place => r.2 = .found place.2 ∧
        r.1.AcceptsAt "aöbö".toList place.1 place.2)
        (foundNodes (c.check "aöbö".toList).verdicts) places ∧
      places.Pairwise fun a b => a.2 ≤ b.1 := by
  have h : ofSpecs {} [['ö'], ['a'], ['x'], ['ö']] = .ok
      ⟨[⟨['ö'], .word ['ö']⟩, ⟨['a'], .word ['a']⟩, ⟨['x'], .word ['x']⟩,
        ⟨['ö'], .word ['ö']⟩]⟩ := rfl
  obtain ⟨-, -, hmissing, ⟨places, hall, hpairs⟩, -⟩ :=
    verdicts_classify_nodes h "aöbö".toList
  refine ⟨_, h, ?_, by decide, places, ?_, hall, hpairs⟩
  · rw [hmissing]
    decide
  · rw [← hall.length_eq]
    decide

end ContentPattern
end ControlSearch
