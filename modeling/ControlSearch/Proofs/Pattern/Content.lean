import ControlSearch.Pattern.Content
import ControlSearch.Proofs.Pattern.FirstOccurrence

/-!
# Content checks are complete

A check commits itself to the leftmost and shortest hit of each node. No other choice ends
earlier, so none leaves more room to the nodes behind: a content matches if and only if its
nodes can be placed in it one behind the other in any way.
-/
namespace ControlSearch

namespace Pattern
open Wildcard

variable {settings : PatternSettings} {spec t : Text} {p : Pattern} {b e : Nat}

/-- A pattern accepts what stands between two boundaries of a text. -/
def AcceptsAt (p : Pattern) (t : Text) (b e : Nat) : Prop :=
  ∃ u, t.slice? b e = some u ∧ p.accepts u = true

theorem acceptsAt_iff_occurs (h : compile settings spec = .ok p)
    (hp : p.isEverything = false) :
    p.AcceptsAt t b e ↔ Occurs settings.dotMatchesNewLine spec t b e := by
  simp only [AcceptsAt, Occurs, accepts_compile_parts h, isOpen_of_compile h hp,
    describes_iff, Bool.false_eq_true, false_or]

end Pattern

namespace ContentPattern
open Pattern

variable {settings : PatternSettings} {specs : List Text} {content : Text} {node : Pattern}
  {nodes : List Pattern} {start start' b e : Nat} {c : ContentPattern}

/-- Nodes can be placed in a content one behind the other, from an offset on. -/
def InTurn (content : Text) : Nat → List Pattern → Prop
  | _, [] => True
  | start, node :: rest =>
    ∃ b e, start ≤ b ∧ node.AcceptsAt content b e ∧ InTurn content e rest

/-- The more room there is in front, the better. -/
theorem InTurn.mono (h : InTurn content start nodes) (hle : start' ≤ start) :
    InTurn content start' nodes := by
  cases nodes with
  | nil => trivial
  | cons node rest =>
      obtain ⟨b, e, hb, hat, hrest⟩ := h
      exact ⟨b, e, hle.trans hb, hat, hrest⟩

/-- Nodes are in turn if and only if each has a place and no place begins before the ones in
front of it have ended. -/
theorem inTurn_iff_places : InTurn content start nodes ↔ ∃ places : List (Nat × Nat),
    List.Forall₂ (fun node place => node.AcceptsAt content place.1 place.2) nodes places ∧
    places.Pairwise (fun a b => a.2 ≤ b.1) ∧ ∀ place ∈ places, start ≤ place.1 := by
  induction nodes generalizing start with
  | nil => simp [InTurn]
  | cons node rest ih =>
      constructor
      · rintro ⟨b, e, hb, hat, hrest⟩
        obtain ⟨places, hall, hpairs, hstart⟩ := ih.mp hrest
        have hbe : b ≤ e := by
          obtain ⟨u, hu, -⟩ := hat
          obtain ⟨v, w, -, -, rfl⟩ := Text.slice?_eq_some_iff.mp hu
          exact Nat.le_add_right b _
        refine ⟨(b, e) :: places, .cons hat hall, List.pairwise_cons.mpr ⟨hstart, hpairs⟩, ?_⟩
        intro place hplace
        rcases List.mem_cons.mp hplace with rfl | hplace
        · exact hb
        · have hle : e ≤ place.1 := hstart place hplace
          omega
      · rintro ⟨places, hall, hpairs, hstart⟩
        cases hall with
        | @cons _ place _ places hat hall =>
            obtain ⟨hfirst, hpairs⟩ := List.pairwise_cons.mp hpairs
            exact ⟨place.1, place.2, hstart place List.mem_cons_self, hat,
              ih.mpr ⟨places, hall, hpairs, hfirst⟩⟩

/-! ## One node -/

/-- The first hit of a node leaves all the room that any hit leaves. -/
theorem inTurn_cons_iff (h : compile settings node.spec = .ok node)
    (hp : node.isEverything = false)
    (hfirst :
      IsFirst (OccursFrom settings.dotMatchesNewLine node.spec content start) (.range b e)) :
    InTurn content start (node :: nodes) ↔ InTurn content e nodes := by
  obtain ⟨hstart, hstop⟩ := hfirst
  constructor
  · rintro ⟨b', e', hle, hat, hrest⟩
    have hocc := (acceptsAt_iff_occurs h hp).mp hat
    have hb : b ≤ b' := hstart.2 ⟨e', hle, hocc⟩
    have hleast : IsLeast {e | Occurs settings.dotMatchesNewLine node.spec content b e} e :=
      ⟨hstop.1.2, fun n hn => hstop.2 ⟨hstop.1.1, hn⟩⟩
    exact hrest.mono (le_stop_of_isLeast hleast hocc hb)
  · intro hrest
    exact ⟨b, e, hstop.1.1, (acceptsAt_iff_occurs h hp).mpr hstop.1.2, hrest⟩

/-- Whether a node is found in its place, or needs none. -/
def Verdict.IsGood (v : Verdict) : Prop := v ≠ .missing ∧ v ≠ .outOfOrder

theorem isMatched_iff {check : Check} :
    check.isMatched = true ↔ ∀ r ∈ check.verdicts, r.2.IsGood := by
  simp [Check.isMatched, Check.missing, Check.outOfOrder, Check.specsWith, Verdict.IsGood,
    forall_and]

theorem verdict_of_range (hp : node.isEverything = false)
    (h : node.firstFrom content start = .range b e) :
    verdict content start node = .found e := by
  simp [verdict, hp, h]

theorem not_isGood_of_notFound (hp : node.isEverything = false)
    (h : node.firstFrom content start = .notFound) :
    ¬(verdict content start node).IsGood := by
  by_cases hfound : (node.first content).isFound = true
  · simp [verdict, hp, h, hfound, Verdict.IsGood]
  · simp [verdict, hp, h, hfound, Verdict.IsGood]

/-! ## All nodes -/

/-- From a boundary on, all verdicts are good if and only if the nodes that are not free can
be placed in turn. -/
theorem isGood_verdictsFrom_iff (hnodes : ∀ node ∈ nodes,
    compile settings node.spec = .ok node) {v t : Text} (hcontent : content = v ++ t) :
    (∀ r ∈ verdictsFrom content v.size nodes, r.2.IsGood) ↔
      InTurn content v.size (nodes.filter (!·.isEverything)) := by
  induction nodes generalizing v t with
  | nil => simp [verdictsFrom, InTurn]
  | cons node rest ih =>
      obtain ⟨hnode, hrest⟩ := List.forall_mem_cons.mp hnodes
      rw [verdictsFrom, List.forall_mem_cons]
      by_cases hp : node.isEverything = true
      · have hfree : verdict content v.size node = .free := by simp [verdict, hp]
        simp only [hfree, Verdict.next, hp, List.filter_cons, Bool.not_true,
          Bool.false_eq_true, if_false, ih hrest hcontent]
        simp [Verdict.IsGood]
      · have hp : node.isEverything = false := by simpa using hp
        have hfirst := isFirst_firstFrom hnode hp v t
        rw [← hcontent] at hfirst
        rw [List.filter_cons_of_pos (by simp [hp])]
        cases hspan : node.firstFrom content v.size with
        | notFound =>
            rw [hspan] at hfirst
            have hbad := not_isGood_of_notFound hp hspan
            refine iff_of_false (fun h => hbad h.1) ?_
            rintro ⟨b, e, hle, hat, -⟩
            exact hfirst b e ⟨hle, (acceptsAt_iff_occurs hnode hp).mp hat⟩
        | range b e =>
            rw [hspan] at hfirst
            rw [inTurn_cons_iff hnode hp hfirst, verdict_of_range hp hspan]
            -- the search goes on at the end of the hit, which is a boundary of the content
            obtain ⟨x, u, w, htext, hx, hu, -⟩ := occurs_iff.mp hfirst.2.1.2
            have hsize : Text.size (x ++ u) = e := by
              simp only [Text.size_append]
              omega
            have hbehind := ih hrest (v := x ++ u) (t := w) (by simpa using htext)
            rw [hsize] at hbehind
            simp only [Verdict.next, hbehind, and_iff_right_iff_imp]
            simp [Verdict.IsGood]

/-- The nodes are compiled from the specs, one by one. -/
theorem forall₂_of_mapM_compile (h : specs.mapM (compile settings) = .ok nodes) :
    List.Forall₂ (fun spec node => compile settings spec = .ok node) specs nodes := by
  induction specs generalizing nodes with
  | nil =>
      obtain rfl := Except.ok.inj h
      exact .nil
  | cons spec specs ih =>
      rw [List.mapM_cons] at h
      obtain ⟨node, hnode, h⟩ := except_bind_eq_ok.mp h
      obtain ⟨rest, hrest, h⟩ := except_bind_eq_ok.mp h
      obtain rfl := Except.ok.inj h
      exact .cons hnode (ih hrest)

theorem forall₂_nodes (h : ofSpecs settings specs = .ok c) :
    List.Forall₂ (fun spec node => compile settings spec = .ok node) specs c.nodes := by
  by_cases hempty : specs.isEmpty = true
  · simp [ofSpecs, hempty] at h
  · simp only [ofSpecs, hempty, Bool.false_eq_true, if_false] at h
    obtain ⟨nodes, hnodes, h⟩ := except_bind_eq_ok.mp h
    obtain rfl := Except.ok.inj h
    exact forall₂_of_mapM_compile hnodes

theorem compile_of_forall₂
    (h : List.Forall₂ (fun spec node => compile settings spec = .ok node) specs nodes) :
    ∀ node ∈ nodes, compile settings node.spec = .ok node := by
  induction h with
  | nil => simp
  | cons hnode _ ih =>
      rw [List.forall_mem_cons]
      exact ⟨by rwa [spec_of_compile hnode], ih⟩

/-- A content matches if and only if there are places for all nodes that are not free, one
behind the other, each accepted by its node. -/
theorem isMatched_check_iff (h : ofSpecs settings specs = .ok c) (content : Text) :
    List.Forall₂ (fun spec node => compile settings spec = .ok node) specs c.nodes ∧
    ((c.check content).isMatched = true ↔ ∃ places : List (Nat × Nat),
      List.Forall₂ (fun node place => node.AcceptsAt content place.1 place.2)
        (c.nodes.filter (!·.isEverything)) places ∧
      places.Pairwise fun a b => a.2 ≤ b.1) := by
  have hall := forall₂_nodes h
  have hgood : (c.check content).isMatched = true ↔
      InTurn content 0 (c.nodes.filter (!·.isEverything)) := by
    rw [isMatched_iff]
    exact isGood_verdictsFrom_iff (compile_of_forall₂ hall) (v := []) rfl
  refine ⟨hall, ?_⟩
  rw [hgood, inTurn_iff_places]
  simp

set_option maxRecDepth 10000 in
theorem ofSpecs_run : ofSpecs {} ["a*".toList, "ba".toList] = .ok ⟨[⟨"a*".toList,
    .automaton (Wildcard.expression true [.char 'a', .anyRun])⟩, ⟨"ba".toList,
    .word "ba".toList⟩]⟩ := by
  cbv

/-- A run could take all that follows; it leaves room for the second node. -/
theorem isMatched_check_room : ∃ c, ofSpecs {} ["a*".toList, "ba".toList] = .ok c ∧
    (c.check "aba".toList).isMatched = true := by
  have hcheck := (isMatched_check_iff ofSpecs_run "aba".toList).2
  have hfirst : (Pattern.mk "a*".toList
      (.automaton (Wildcard.expression true [.char 'a', .anyRun]))).accepts "a".toList =
        true := by
    rw [accepts_compile_parts compile_run]
    exact .inr ⟨[], rfl, [], [], rfl, by simp, rfl⟩
  refine ⟨_, ofSpecs_run, hcheck.mpr ⟨[(0, 1), (1, 3)], ?_, by decide⟩⟩
  exact .cons ⟨['a'], by decide, hfirst⟩ (.cons ⟨['b', 'a'], by decide, by decide⟩ .nil)

end ContentPattern
end ControlSearch
