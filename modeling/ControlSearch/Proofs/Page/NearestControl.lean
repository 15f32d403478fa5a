import ControlSearch.Proofs.Page.LabelText

/-!
# Where label texts begin

The label text in front of an element is meant to begin behind the nearest form control that
leaves any text for it, else behind the nearest element of another form, else at the start of
the page. That is where it begins, unless there are form controls in front of the element,
none of them leaves any text, and nothing but the start of the page ends the search. Then the
text in front of these controls is lost.
-/
namespace ControlSearch

/-- Whether an element belongs to a form, and not to the given one. -/
def PlacedElement.isForeign (form : Option Nat) (e : PlacedElement) : Bool :=
  e.spec.form.isSome && e.spec.form != form

namespace StaticPage

variable {page : StaticPage} {x : ElementId} {placed : PlacedElement} {form : Option Nat}
  {start stop : Nat}

/-! ## What a label text should be -/

/-- The slice of the page text between two offsets, trimmed. -/
def trimmed (page : StaticPage) (start stop : Nat) : Text :=
  ((page.text.slice? start stop).map Text.trim).getD []

/-- The elements in front of one, nearest first, up to and including the first of another
form. -/
def inReach (form : Option Nat) : List PlacedElement → List PlacedElement
  | [] => []
  | e :: rest => e :: if e.isForeign form then [] else inReach form rest

/-- Whether an element is a form control that can be seen, with text between it and an offset
`stop`, no earlier than an offset `start`. -/
def leavesText (page : StaticPage) (start stop : Nat) (e : PlacedElement) : Bool :=
  e.isBarrier && !(page.trimmed (max start e.stop) stop).isEmpty

/-- Where a label text in front of an offset should begin: behind the nearest control that
leaves any text, else behind the nearest element of another form, else at the start of the
page. -/
def labelStart (page : StaticPage) (form : Option Nat) (start stop : Nat)
    (elements : List PlacedElement) : Nat :=
  (((inReach form elements).find? (page.leavesText start stop)).or
    (elements.find? (·.isForeign form))).elim 0 (·.stop)

/-! ## The walk -/

theorem IsBuilt.labelFrom_eq (h : page.IsBuilt) (start stop reached : Nat) :
    page.labelFrom start stop reached = page.trimmed (max start reached) stop := by
  rw [labelFrom, trimmed, ← h.between_eq, StaticPage.between, StaticPage.between, max_comm]
  by_cases hle : max start reached ≤ stop
  · rw [min_eq_left hle]
  · have hstop : stop ≤ max start reached := Nat.le_of_not_le hle
    rw [min_eq_right hstop]
    simp [RunningText.between, hstop]

/-- Where the walk over the elements in front ends up. Each control that it passes moves the
start, whether or not it leaves any text, so at the start of the page the farthest control
counts. -/
theorem IsBuilt.labelBehind_eq (h : page.IsBuilt) (form : Option Nat)
    (start stop reached : Nat) (elements : List PlacedElement) :
    page.labelBehind form start stop reached elements =
      page.trimmed
        (max start ((((inReach form elements).find? (page.leavesText start stop)).or
        ((elements.find? (·.isForeign form)).or
          (elements.filter (·.isBarrier)).getLast?)).elim reached (·.stop))) stop := by
  induction elements generalizing reached with
  | nil => exact h.labelFrom_eq start stop reached
  | cons e rest ih =>
      have hleaves : page.leavesText start stop e =
          (e.isBarrier && !(page.labelFrom start stop e.stop).isEmpty) := by
        rw [leavesText, h.labelFrom_eq]
      have hforeign : e.isForeign form = (e.spec.form.isSome && e.spec.form != form) := rfl
      rw [labelBehind, inReach, ← hleaves, ← hforeign]
      dsimp only
      cases hl : page.leavesText start stop e with
      | true => simp [hl, h.labelFrom_eq]
      | false =>
          cases hf : e.isForeign form with
          | true => simp [hl, hf, h.labelFrom_eq]
          | false =>
              rw [ih]
              simp only [List.find?_cons, hl, hf, Bool.false_eq_true, if_false,
                List.filter_cons]
              cases e.isBarrier with
              | false => rfl
              | true =>
                  simp only [if_true, List.getLast?_cons]
                  cases (inReach form rest).find? (page.leavesText start stop) with
                  | some _ => rfl
                  | none =>
                      cases rest.find? (·.isForeign form) with
                      | some _ => rfl
                      | none => cases (rest.filter (·.isBarrier)).getLast? <;> rfl

/-! ## Both compared -/

theorem inReach_subset (form : Option Nat) (elements : List PlacedElement) :
    inReach form elements ⊆ elements := by
  induction elements with
  | nil => exact List.Subset.refl _
  | cons e rest ih =>
      rw [inReach]
      split
      · exact List.cons_subset_cons e (List.nil_subset _)
      · exact List.cons_subset_cons e ih

/-- All elements are in reach if none is of another form. -/
theorem inReach_eq_self {elements : List PlacedElement}
    (h : ∀ e ∈ elements, e.isForeign form = false) : inReach form elements = elements := by
  induction elements with
  | nil => rfl
  | cons e rest ih =>
      obtain ⟨he, hrest⟩ := List.forall_mem_cons.mp h
      rw [inReach, he, ih hrest]
      rfl

/-- There is text in front of an offset, and nothing but form controls that leave none of
it. -/
structure LosesText (page : StaticPage) (form : Option Nat) (start stop : Nat)
    (elements : List PlacedElement) : Prop where
  text : page.trimmed start stop ≠ []
  control : ∃ e ∈ elements, e.isBarrier = true
  no_text : ∀ e ∈ elements, page.leavesText start stop e = false
  no_foreign : ∀ e ∈ elements, e.isForeign form = false

/-- The elements in front of one, nearest first. -/
def inFrontOf (page : StaticPage) (x : ElementId) : List PlacedElement :=
  (page.elements.take x).reverse

/-- Where text is lost, nothing but the start of the page ends the search. -/
theorem LosesText.nothing_found {elements : List PlacedElement}
    (h : page.LosesText form start stop elements) :
    ((inReach form elements).find? (page.leavesText start stop)).or
      (elements.find? (·.isForeign form)) = none := by
  have hcontrol : (inReach form elements).find? (page.leavesText start stop) = none :=
    List.find?_eq_none.mpr fun e he => by simp [h.no_text e (inReach_subset form elements he)]
  have hforeign : elements.find? (·.isForeign form) = none :=
    List.find?_eq_none.mpr fun e he => by simp [h.no_foreign e he]
  rw [hcontrol, hforeign, Option.none_or]

/-- The walk ends where the label text should begin, or at a control that leaves no text. -/
theorem IsBuilt.labelBehind_cases (h : page.IsBuilt) (form : Option Nat) (start stop : Nat)
    (elements : List PlacedElement) :
    (¬page.LosesText form start stop elements ∧ page.labelBehind form start stop 0 elements =
      page.trimmed (max start (page.labelStart form start stop elements)) stop) ∨
    (page.labelBehind form start stop 0 elements = [] ∧
      page.trimmed (max start (page.labelStart form start stop elements)) stop =
        page.trimmed start stop ∧
      (page.trimmed start stop ≠ [] → page.LosesText form start stop elements)) := by
  rw [h.labelBehind_eq, labelStart, ← Option.or_assoc]
  cases hfound : ((inReach form elements).find? (page.leavesText start stop)).or
      (elements.find? (·.isForeign form)) with
  | some e =>
      refine .inl ⟨fun hloses => ?_, rfl⟩
      rw [hloses.nothing_found] at hfound
      cases hfound
  | none =>
      obtain ⟨hcontrol, hforeign⟩ := Option.or_eq_none_iff.mp hfound
      have hsame : ∀ e ∈ elements, e.isForeign form = false := by
        simpa using List.find?_eq_none.mp hforeign
      rw [inReach_eq_self hsame] at hcontrol
      have hno : ∀ e ∈ elements, page.leavesText start stop e = false := by
        simpa using List.find?_eq_none.mp hcontrol
      cases hlast : (elements.filter (·.isBarrier)).getLast? with
      | none =>
          refine .inl ⟨fun hloses => ?_, rfl⟩
          obtain ⟨e, he, hbarrier⟩ := hloses.control
          have hmem : e ∈ elements.filter (·.isBarrier) := List.mem_filter.mpr ⟨he, hbarrier⟩
          rw [List.getLast?_eq_none_iff.mp hlast] at hmem
          cases hmem
      | some e =>
          obtain ⟨he, hbarrier⟩ := List.mem_filter.mp (List.mem_of_getLast? hlast)
          have hempty := hno e he
          rw [leavesText, hbarrier, Bool.true_and, Bool.not_eq_false', List.isEmpty_iff]
            at hempty
          exact .inr ⟨hempty, by simp, fun htext => ⟨htext, ⟨e, he, hbarrier⟩, hno, hsame⟩⟩

/-- The label text in front of an element begins where it should, unless all text there is
lost: then there is no label text at all. -/
theorem labelBefore_eq_trimmed_iff (h : page.IsBuilt) (hx : page.elements[x]? = some placed)
    (start : Nat) :
    (page.labelBefore x start = page.trimmed (max start
        (page.labelStart placed.spec.form start placed.start (page.inFrontOf x)))
          placed.start ↔
      ¬page.LosesText placed.spec.form start placed.start (page.inFrontOf x)) ∧
    (page.LosesText placed.spec.form start placed.start (page.inFrontOf x) →
      page.labelBefore x start = []) := by
  have hwalk : page.labelBefore x start =
      page.labelBehind placed.spec.form start placed.start 0 (page.inFrontOf x) := by
    simp only [labelBefore, hx]
    rfl
  rw [hwalk]
  rcases h.labelBehind_cases placed.spec.form start placed.start (page.inFrontOf x) with
    ⟨hkept, heq⟩ | ⟨hnil, hstart, hloses⟩
  · exact ⟨iff_of_true heq hkept, fun hloses => absurd hloses hkept⟩
  · refine ⟨?_, fun _ => hnil⟩
    rw [hnil, hstart]
    constructor
    · exact fun heq hlost => hlost.text heq.symm
    · intro hkept
      by_contra hne
      exact hkept (hloses (Ne.symm hne))

/-- A check box leaves no text to the input behind it, but the input in front of both does. -/
theorem labelBefore_past_checkbox :
    ∃ (page : StaticPage) (placed : PlacedElement), page.IsBuilt ∧
    page.elements[3]? = some placed ∧ page.labelBefore 3 0 = page.trimmed (max 0
      (page.labelStart placed.spec.form 0 placed.start (page.inFrontOf 3))) placed.start ∧
    page.labelBefore 3 0 = ['다'] := by
  let calls : List PageBuilder.Call := [.text ['가'],
    .element { ElementSpec.clickable ['나'] with form := some 1 },
    .element .textInput, .text ['다'], .element .checkbox, .element .textInput]
  have hbuilt : (PageBuilder.ofCalls calls).build.IsBuilt :=
    ⟨_, PageBuilder.reachable_ofCalls calls, rfl⟩
  refine ⟨_, _, hbuilt, rfl,
    (labelBefore_eq_trimmed_iff hbuilt (x := 3) rfl 0).1.mpr ?_, by decide⟩
  intro hloses
  have hcontrol : ∃ e ∈ (PageBuilder.ofCalls calls).build.inFrontOf 3,
      (PageBuilder.ofCalls calls).build.leavesText 0 12 e = true := by decide
  obtain ⟨e, he, hleaves⟩ := hcontrol
  exact absurd (hleaves.symm.trans (hloses.no_text e he)) (by decide)

/-- Without the input in front of both, the text in front of the check box is no label text,
though nothing else ends it. -/
theorem labelBefore_loses_text :
    ∃ (page : StaticPage) (placed : PlacedElement), page.IsBuilt ∧
    page.elements[1]? = some placed ∧
    page.labelStart placed.spec.form 0 placed.start (page.inFrontOf 1) = 0 ∧
    page.trimmed (max 0 0) placed.start = ['다'] ∧ page.labelBefore 1 0 = [] := by
  let calls : List PageBuilder.Call := [.text ['다'], .element .checkbox, .element .textInput]
  have hbuilt : (PageBuilder.ofCalls calls).build.IsBuilt :=
    ⟨_, PageBuilder.reachable_ofCalls calls, rfl⟩
  exact ⟨_, _, hbuilt, rfl, by decide, by decide, by decide⟩

end StaticPage
end ControlSearch
