import ControlSearch.Proofs.Page.OwnText
import ControlSearch.Proofs.Page.TextBefore

/-!
# Document order

A builder places elements in document order. Each open block hands out its children in turn,
so every element stands in front of all places that are left, and around none of them; and the
text only grows, so no element begins in front of an earlier one. The elements of a page are
those that were added, in this order.
-/
namespace ControlSearch

theorem Text.size_le_of_isPrefix {u t : Text} (h : u <+: t) : u.size ≤ t.size := by
  obtain ⟨w, rfl⟩ := h
  rw [Text.size_append]
  omega

/-! ## Places -/

namespace Hierarchy

/-- A place stands in front of another one, and not around it: where the two part, it takes an
earlier child. -/
def Precedes (a b : Hierarchy) : Prop :=
  ∃ (fork : Hierarchy) (i j : ℕ), i < j ∧ fork.child i <+: a ∧ fork.child j <+: b

variable {a b path : Hierarchy} {n : ℕ}

theorem Precedes.lt (h : a.Precedes b) : (a : List ℕ) < b := by
  obtain ⟨fork, i, j, hij, ⟨rest, rfl⟩, ⟨rest', rfl⟩⟩ := h
  simp only [Hierarchy.child, List.append_assoc, List.singleton_append]
  exact List.append_left_lt (List.cons_lt_cons_iff.mpr (.inl hij))

/-- Places in two children have none in common. -/
theorem eq_of_child_isPrefix {fork c : Hierarchy} {i j : ℕ} (hi : fork.child i <+: c)
    (hj : fork.child j <+: c) : i = j := by
  have hlength : (fork.child i).length = (fork.child j).length := by simp [Hierarchy.child]
  have heq := (List.prefix_of_prefix_length_le hi hj hlength.le).eq_of_length hlength
  simpa [Hierarchy.child] using heq

theorem Precedes.not_isPrefix (h : a.Precedes b) : ¬a <+: b := by
  obtain ⟨fork, i, j, hij, ha, hb⟩ := h
  exact fun hab => hij.ne (eq_of_child_isPrefix (ha.trans hab) hb)

theorem Precedes.not_isPrefix_right (h : a.Precedes b) : ¬b <+: a := by
  obtain ⟨fork, i, j, hij, ha, hb⟩ := h
  exact fun hba => hij.ne (eq_of_child_isPrefix ha (hb.trans hba))

/-- What is in front of a place is in front of its children. -/
theorem Precedes.child (h : a.Precedes b) (n : ℕ) : a.Precedes (b.child n) := by
  obtain ⟨fork, i, j, hij, ha, hb⟩ := h
  exact ⟨fork, i, j, hij, ha, hb.trans (List.prefix_append b [n])⟩

/-- What is in front of a place is in front of its next sibling. -/
theorem Precedes.succ (h : a.Precedes (path.child n)) : a.Precedes (path.child (n + 1)) := by
  obtain ⟨fork, i, j, hij, ha, hfork⟩ := h
  rcases List.prefix_concat_iff.mp hfork with heq | hpath
  · obtain ⟨rfl, hj⟩ := List.append_inj' heq rfl
    obtain rfl : j = n := by simpa using hj
    exact ⟨fork, i, j + 1, by omega, ha, List.prefix_rfl⟩
  · exact ⟨fork, i, j, hij, ha, hpath.trans (List.prefix_append path _)⟩

end Hierarchy

namespace OpenBlock

variable {block : OpenBlock} {h : Hierarchy}

/-- The place that is handed out next. -/
def upcoming (block : OpenBlock) : Hierarchy := block.path.child block.next

/-- A place was handed out, or lies in one that was. -/
def Holds (block : OpenBlock) (h : Hierarchy) : Prop :=
  ∃ i < block.next, block.path.child i <+: h

theorem Holds.precedes (hh : block.Holds h) : h.Precedes block.upcoming := by
  obtain ⟨i, hi, hprefix⟩ := hh
  exact ⟨block.path, i, block.next, hi, hprefix, List.prefix_rfl⟩

theorem Holds.child (hh : block.Holds h) (n : ℕ) : block.Holds (h.child n) := by
  obtain ⟨i, hi, hprefix⟩ := hh
  exact ⟨i, hi, hprefix.trans (List.prefix_append h [n])⟩

end OpenBlock

namespace PageBuilder

open RunningText

/-! ## What a call preserves -/

/-- The elements stand in document order, in front of all places that are left, and each open
block lies in the one around it. -/
structure InOrder (b : PageBuilder) : Prop where
  ascending : b.elements.Pairwise fun e e' =>
    e.start ≤ e'.start ∧ e.hierarchy.Precedes e'.hierarchy
  reached : ∀ e ∈ b.elements, e.start ≤ b.text.size
  passed : ∀ e ∈ b.elements, ∀ block ∈ b.block :: b.outer, e.hierarchy.Precedes block.upcoming
  nested : (b.block :: b.outer).Pairwise fun inner block => block.Holds inner.path

/-- A place that was handed out but not taken. -/
structure Free (b : PageBuilder) (h : Hierarchy) : Prop where
  behind : ∀ e ∈ b.elements, e.hierarchy.Precedes h
  held : ∀ block ∈ b.block :: b.outer, block.Holds h

variable {b : PageBuilder} {path : Hierarchy} {e : PlacedElement}

theorem inOrder_empty : empty.InOrder := by
  constructor <;> simp [empty]

theorem InOrder.withText (h : b.InOrder) {r : RunningText}
    (hr : b.text.content <+: r.content) :
    InOrder { b with text := r } where
  ascending := h.ascending
  reached e he := (h.reached e he).trans (Text.size_le_of_isPrefix hr)
  passed := h.passed
  nested := h.nested

theorem InOrder.append (h : b.InOrder) (raw : Text) : (b.append raw).InOrder :=
  h.withText (prefix_append _ _)

theorem InOrder.appendBlank (h : b.InOrder) : b.appendBlank.InOrder :=
  h.withText (prefix_appendBlank _)

theorem InOrder.withLabels (h : b.InOrder) (labels : List PlacedLabel) :
    InOrder { b with labels } := ⟨h.ascending, h.reached, h.passed, h.nested⟩

theorem InOrder.nextChild (h : b.InOrder) : b.nextChild.2.InOrder where
  ascending := h.ascending
  reached := h.reached
  passed e he block hblock := by
    rcases List.mem_cons.mp hblock with rfl | hblock
    · exact (h.passed e he b.block List.mem_cons_self).succ
    · exact h.passed e he block (List.mem_cons_of_mem _ hblock)
  nested := by
    obtain ⟨hhead, htail⟩ := List.pairwise_cons.mp h.nested
    exact List.pairwise_cons.mpr ⟨hhead, htail⟩

theorem InOrder.free_nextChild (h : b.InOrder) : b.nextChild.2.Free b.nextChild.1 where
  behind e he := h.passed e he b.block List.mem_cons_self
  held block hblock := by
    rcases List.mem_cons.mp hblock with rfl | hblock
    · exact ⟨b.block.next, Nat.lt_succ_self _, List.prefix_rfl⟩
    · exact ((List.pairwise_cons.mp h.nested).1 block hblock).child _

theorem InOrder.enter (h : b.InOrder) (hpath : b.Free path) : (b.enter path).InOrder where
  ascending := h.ascending
  reached := h.reached
  passed e he block hblock := by
    rcases List.mem_cons.mp hblock with rfl | hblock
    · exact (hpath.behind e he).child 0
    · exact h.passed e he block hblock
  nested := List.pairwise_cons.mpr ⟨hpath.held, h.nested⟩

theorem InOrder.leave (h : b.InOrder) : b.leave.InOrder := by
  unfold PageBuilder.leave
  cases houter : b.outer with
  | nil => exact h
  | cons block outer =>
      have hnested := h.nested
      have hpassed := h.passed
      rw [houter] at hnested hpassed
      refine ⟨h.ascending, h.reached, ?_, (List.pairwise_cons.mp hnested).2⟩
      exact fun e he block' hblock' => hpassed e he block' (List.mem_cons_of_mem _ hblock')

theorem InOrder.withElement (h : b.InOrder) (he : b.Free e.hierarchy)
    (hlast : ∀ e' ∈ b.elements, e'.start ≤ e.start) (hstart : e.start ≤ b.text.size) :
    InOrder { b with elements := b.elements ++ [e] } where
  ascending := by
    refine List.pairwise_append.mpr ⟨h.ascending, List.pairwise_singleton _ _, ?_⟩
    intro e' he' e'' he''
    rw [List.mem_singleton.mp he'']
    exact ⟨hlast e' he', he.behind e' he'⟩
  reached e' he' := by
    rcases List.mem_append.mp he' with he' | he'
    · exact h.reached e' he'
    · rwa [List.mem_singleton.mp he']
  passed e' he' block hblock := by
    rcases List.mem_append.mp he' with he' | he'
    · exact h.passed e' he' block hblock
    · rw [List.mem_singleton.mp he']
      exact (he.held block hblock).precedes
  nested := h.nested

theorem InOrder.addElement (h : b.InOrder) (spec : ElementSpec) :
    (b.addElement spec).2.InOrder := by
  rw [addElement_eq]
  have hmore : b.text.appendBlank.content <+:
      (b.text.appendBlank.append spec.inside).appendBlank.content :=
    (prefix_append _ spec.inside).trans (prefix_appendBlank _)
  have hfree := h.free_nextChild
  refine (h.nextChild.withText ((prefix_appendBlank _).trans hmore)).withElement
    ⟨hfree.behind, hfree.held⟩ ?_ (Text.size_le_of_isPrefix hmore)
  exact fun e he => (h.reached e he).trans (Text.size_le_of_isPrefix (prefix_appendBlank _))

theorem Reachable.inOrder (h : b.Reachable) : b.InOrder := by
  induction h with
  | empty => exact inOrder_empty
  | addText raw _ ih => exact ih.nextChild.append raw
  | addLabel raw target _ ih =>
      exact (ih.nextChild.appendBlank.append raw).appendBlank.withLabels _
  | addElement spec _ ih => exact ih.addElement spec
  | addLabelled raw spec _ ih =>
      have hinside := (ih.nextChild.enter ih.free_nextChild).nextChild
      exact ((hinside.appendBlank.append raw).addElement spec).leave.withLabels _
  | openBlock _ ih => exact (ih.nextChild.enter ih.free_nextChild).appendBlank
  | closeBlock _ ih => exact ih.leave.appendBlank

/-! ## What calls add -/

/-- A call to a builder. -/
inductive Call where
  | text (raw : Text)
  | label (raw target : Text)
  | element (spec : ElementSpec)
  | labelled (raw : Text) (spec : ElementSpec)
  | openBlock
  | closeBlock

namespace Call

def run (b : PageBuilder) : Call → PageBuilder
  | text raw => b.addText raw
  | label raw target => b.addLabel raw target
  | element spec => (b.addElement spec).2
  | labelled raw spec => (b.addLabelled raw spec).2
  | openBlock => b.openBlock
  | closeBlock => b.closeBlock

/-- The element that a call adds. -/
def element? : Call → Option ElementSpec
  | element spec | labelled _ spec => some spec
  | _ => none

/-- The number by which a call makes the element known that it adds. -/
def number? (b : PageBuilder) : Call → Option ElementId
  | element spec => some (b.addElement spec).1
  | labelled raw spec => some (b.addLabelled raw spec).1
  | _ => none

end Call

/-- The builder that some calls bring about. -/
def ofCalls (calls : List Call) : PageBuilder := calls.foldl Call.run empty

theorem Reachable.run (h : b.Reachable) (call : Call) : (call.run b).Reachable := by
  cases call with
  | text raw => exact h.addText raw
  | label raw target => exact h.addLabel raw target
  | element spec => exact h.addElement spec
  | labelled raw spec => exact h.addLabelled raw spec
  | openBlock => exact h.openBlock
  | closeBlock => exact h.closeBlock

theorem reachable_ofCalls (calls : List Call) : (ofCalls calls).Reachable := by
  refine List.foldlRecOn (motive := Reachable) calls _ .empty ?_
  intro b h call _
  exact h.run call

/-- The elements so far, as they were described. -/
def specs (b : PageBuilder) : List ElementSpec := b.elements.map (·.spec)

theorem specs_addElement (b : PageBuilder) (spec : ElementSpec) :
    (b.addElement spec).2.specs = b.specs ++ [spec] := by
  rw [addElement_eq]
  simp [specs]

theorem specs_leave (b : PageBuilder) : b.leave.specs = b.specs := by
  unfold leave
  split <;> rfl

theorem specs_addLabelled (b : PageBuilder) (raw : Text) (spec : ElementSpec) :
    (b.addLabelled raw spec).2.specs = b.specs ++ [spec] :=
  (specs_leave _).trans (specs_addElement _ spec)

theorem specs_run (call : Call) : (call.run b).specs = b.specs ++ call.element?.toList := by
  cases call with
  | element spec => exact specs_addElement b spec
  | labelled raw spec => exact specs_addLabelled b raw spec
  | closeBlock => exact (specs_leave b).trans (List.append_nil _).symm
  | _ => exact (List.append_nil _).symm

theorem specs_ofCalls (calls : List Call) :
    (ofCalls calls).specs = calls.filterMap Call.element? := by
  have hfold (b : PageBuilder) : (calls.foldl Call.run b).specs =
      b.specs ++ calls.filterMap Call.element? := by
    induction calls generalizing b with
    | nil => simp
    | cons call calls ih =>
        rw [List.foldl_cons, ih, specs_run, List.append_assoc]
        cases hcall : call.element? <;> simp [hcall]
  exact hfold empty

theorem length_specs (b : PageBuilder) : b.specs.length = b.elements.length :=
  List.length_map _

/-- Elements are numbered as they are added. -/
theorem number?_eq_some {call : Call} {x : ElementId} (h : call.number? b = some x) :
    x = b.specs.length ∧ ∃ spec, call.element? = some spec := by
  rw [length_specs]
  cases call with
  | element spec =>
      obtain rfl := Option.some.inj h
      exact ⟨by rw [addElement_eq], spec, rfl⟩
  | labelled raw spec =>
      obtain rfl := Option.some.inj h
      exact ⟨by rw [addLabelled_eq, addElement_eq]; rfl, spec, rfl⟩
  | text | label | openBlock | closeBlock => cases h

end PageBuilder

namespace PageNode

mutual

/-- The elements of a node, in the order in which they are read. -/
def elements : PageNode → List ElementSpec
  | text _ => []
  | element spec => [spec]
  | label l => l.control.toList
  | group children => elementsOf children

def elementsOf : List PageNode → List ElementSpec
  | [] => []
  | node :: rest => node.elements ++ elementsOf rest

end

end PageNode

namespace PageBuilder

mutual

theorem specs_addNode (b : PageBuilder) (node : PageNode) :
    (b.addNode node).specs = b.specs ++ node.elements := by
  cases node with
  | text raw => exact (List.append_nil _).symm
  | element spec => exact specs_addElement b spec
  | label l =>
      rw [addNode, PageNode.elements]
      split
      · rename_i control hcontrol
        rw [hcontrol]
        exact specs_addLabelled b _ control
      · rename_i target hcontrol htarget
        rw [hcontrol]
        exact (List.append_nil _).symm
      · rename_i hcontrol htarget
        rw [hcontrol]
        exact (List.append_nil _).symm
  | group children => exact (specs_leave _).trans (specs_addNodes b.openBlock children)

theorem specs_addNodes (b : PageBuilder) (nodes : List PageNode) :
    (b.addNodes nodes).specs = b.specs ++ PageNode.elementsOf nodes := by
  cases nodes with
  | nil => exact (List.append_nil _).symm
  | cons node rest =>
      rw [addNodes, specs_addNodes, specs_addNode, PageNode.elementsOf, List.append_assoc]

end

theorem specs_ofDescription (d : PageDescription) :
    (ofDescription d).specs = PageNode.elementsOf d.nodes := specs_addNodes empty d.nodes

end PageBuilder

namespace StaticPage

variable {page : StaticPage} {x : ElementId} {placed : PlacedElement}

/-- The elements of a page stand in document order. -/
theorem IsBuilt.ascending (h : page.IsBuilt) : page.elements.Pairwise fun e e' =>
    e.start ≤ e'.start ∧ e.hierarchy.Precedes e'.hierarchy := by
  obtain ⟨b, hb, rfl⟩ := h
  exact hb.inOrder.ascending

/-- All that is in front of an element is read there, up to the blank that sets the element
off. -/
theorem IsBuilt.size_textBefore (h : page.IsBuilt) (hx : page.elements[x]? = some placed) :
    (page.textBefore x).size = placed.start - 1 := by
  by_cases hstart : placed.start = 0
  · simp [textBefore, hx, StaticPage.between, RunningText.between, hstart]
  · obtain ⟨u, w, ht, hu⟩ :=
      (h.setOff_element (List.mem_of_getElem? hx)).exists_eq (Nat.pos_of_ne_zero hstart)
    rw [h.textBefore_eq hx ht hu]
    omega

theorem hierarchy_eq (hx : page.elements[x]? = some placed) :
    page.toPage.hierarchy x = placed.hierarchy := by
  simp [toPage, hx]

/-- Whatever calls build a page, the places of its elements ascend in the order in which they
were added, and none of them lies in another one; and each element is listed by the number
that its call made known, which counts the elements that were added before. -/
theorem places_of_calls (calls : List PageBuilder.Call) :
    let page := (PageBuilder.ofCalls calls).build
    (∀ x y, x < y → y < (calls.filterMap (·.element?)).length →
      (page.toPage.hierarchy x : List ℕ) < page.toPage.hierarchy y ∧
      page.toPage.hierarchy x ≠ page.toPage.hierarchy y ∧
      ¬page.toPage.hierarchy x <+: page.toPage.hierarchy y ∧
      ¬page.toPage.hierarchy y <+: page.toPage.hierarchy x) ∧
    ∀ before call after x, calls = before ++ call :: after →
      call.number? (PageBuilder.ofCalls before) = some x →
      x = (before.filterMap (·.element?)).length ∧ page.toPage.index x = x := by
  intro page
  have hlength : page.elements.length = (calls.filterMap (·.element?)).length := by
    rw [← PageBuilder.specs_ofCalls, PageBuilder.length_specs]
    rfl
  constructor
  · intro x y hlt hy
    have hbuilt : page.IsBuilt := ⟨_, PageBuilder.reachable_ofCalls calls, rfl⟩
    rw [← hlength] at hy
    have hprecedes :=
      (List.pairwise_iff_getElem.mp hbuilt.ascending x y (hlt.trans hy) hy hlt).2
    rw [hierarchy_eq (List.getElem?_eq_getElem (hlt.trans hy)),
      hierarchy_eq (List.getElem?_eq_getElem hy)]
    exact ⟨hprecedes.lt, hprecedes.lt.ne, hprecedes.not_isPrefix,
      hprecedes.not_isPrefix_right⟩
  · rintro before call after x rfl hnumber
    obtain ⟨rfl, spec, hspec⟩ := PageBuilder.number?_eq_some hnumber
    have hlt : (PageBuilder.ofCalls before).specs.length < page.elements.length := by
      rw [hlength, PageBuilder.specs_ofCalls]
      simp [hspec]
    exact ⟨by rw [PageBuilder.specs_ofCalls], if_pos hlt⟩

end StaticPage
end ControlSearch
