import ControlSearch.Proofs.Page.DocumentOrder

/-!
# Label texts

A built page cuts the label texts of an element off at other elements. Where there is none
that it would cut at, the label texts are those of a page of which no more is known than where
its elements are: both read a slice of the page text, one of them without a blank at either
end, the other one trimmed.
-/
namespace ControlSearch.StaticPage

variable {page : StaticPage} {x : ElementId} {placed : PlacedElement}

/-- Past elements at which no label text ends, a walk goes on to the offset that it has
reached. -/
theorem labelBehind_eq_labelFrom {form : Option Nat} {elements : List PlacedElement}
    (h : ∀ e ∈ elements, e.isBarrier = false ∧ (e.spec.form = none ∨ e.spec.form = form))
    (start stop reached : Nat) :
    page.labelBehind form start stop reached elements =
      page.labelFrom start stop reached := by
  induction elements with
  | nil => rfl
  | cons e rest ih =>
      obtain ⟨⟨hbarrier, hform⟩, hrest⟩ := List.forall_mem_cons.mp h
      have hpassed : (e.spec.form.isSome && e.spec.form != form) = false := by
        rcases hform with hform | hform <;> simp [hform]
      rw [labelBehind]
      simp only [hbarrier, hpassed, Bool.false_and, Bool.false_eq_true, if_false]
      exact ih hrest

/-- What a page reads between two offsets is the slice there, trimmed. -/
theorem IsBuilt.between_eq (h : page.IsBuilt) (start stop : Nat) :
    page.between start stop = ((page.text.slice? start stop).map Text.trim).getD [] :=
  h.tidy.between_eq start stop

theorem IsBuilt.labelBefore_eq_plain (h : page.IsBuilt) (hx : page.elements[x]? = some placed)
    (hfree : ∀ e ∈ page.elements.take x,
      e.isBarrier = false ∧ (e.spec.form = none ∨ e.spec.form = placed.spec.form))
    (start : Nat) :
    page.labelBefore x start =
      Page.plainLabelBefore page.text (page.toPage.position x) start := by
  have hwalk : page.labelBefore x start = page.labelFrom start placed.start 0 := by
    simp only [labelBefore, hx]
    exact labelBehind_eq_labelFrom (fun e he => hfree e (List.mem_reverse.mp he)) _ _ _
  rw [hwalk, labelFrom, h.between_eq, Nat.zero_max, position_eq hx]
  rfl

theorem IsBuilt.labelAfter_eq_plain (h : page.IsBuilt) (hx : page.elements[x]? = some placed)
    (hfree : ∀ e ∈ page.elements.drop (x + 1),
      e.isBarrier = false ∧ (placed.spec.form = none ∨ e.spec.form = placed.spec.form)) :
    page.labelAfter x = Page.plainLabelAfter page.text (page.toPage.position x) := by
  have hnone : (page.elements.drop (x + 1)).find? (endsLabel placed.spec.form) = none := by
    refine List.find?_eq_none.mpr fun e he => ?_
    obtain ⟨hbarrier, hform⟩ := hfree e he
    rcases hform with hform | hform <;> simp [endsLabel, hbarrier, hform]
  have hrest : page.labelAfter x = page.between placed.stop page.text.size := by
    simp only [labelAfter, hx, hnone]
    rfl
  rw [hrest, h.between_eq, Text.slice?_size, position_eq hx]
  rfl

/-- If no element in front of one is a form control that can be seen, or of another form, the
label text in front of it is that of a page of which no more is known than where its elements
are; likewise behind it, where an element of a form minds elements without one, too. -/
theorem label_texts_eq_plain (h : page.IsBuilt) (hx : page.elements[x]? = some placed) :
    ((∀ e ∈ page.elements.take x,
        e.isBarrier = false ∧ (e.spec.form = none ∨ e.spec.form = placed.spec.form)) →
      ∀ start, page.toPage.labelBefore x start =
        Page.plainLabelBefore page.toPage.text (page.toPage.position x) start) ∧
    ((∀ e ∈ page.elements.drop (x + 1),
        e.isBarrier = false ∧ (placed.spec.form = none ∨ e.spec.form = placed.spec.form)) →
      page.toPage.labelAfter x =
        Page.plainLabelAfter page.toPage.text (page.toPage.position x)) :=
  ⟨h.labelBefore_eq_plain hx, h.labelAfter_eq_plain hx⟩

/-- A link of a form, behind a text and a link without a form, and in front of a link of its
own form. Offsets may lie inside a character. -/
theorem label_texts_of_link : ∃ (page : StaticPage) (placed : PlacedElement), page.IsBuilt ∧
      page.elements[1]? = some placed ∧
    (∀ start, page.toPage.labelBefore 1 start =
      Page.plainLabelBefore page.toPage.text (page.toPage.position 1) start) ∧
    page.toPage.labelAfter 1 =
      Page.plainLabelAfter page.toPage.text (page.toPage.position 1) ∧
    page.toPage.labelBefore 1 0 = ['가', ' ', '나'] ∧ page.toPage.labelBefore 1 1 = [] ∧
    page.toPage.labelAfter 1 = ['라'] := by
  let calls : List PageBuilder.Call := [.text ['가'], .element (.clickable ['나']),
    .element { ElementSpec.clickable ['다'] with form := some 1 },
    .element { ElementSpec.clickable ['라'] with form := some 1 }]
  have hbuilt : (PageBuilder.ofCalls calls).build.IsBuilt :=
    ⟨_, PageBuilder.reachable_ofCalls calls, rfl⟩
  obtain ⟨hbefore, hafter⟩ := label_texts_eq_plain hbuilt (x := 1) rfl
  exact ⟨_, _, hbuilt, rfl, hbefore (by decide),
    hafter (by decide), by decide, by decide, by decide⟩

end ControlSearch.StaticPage
