import ControlSearch.Proofs.Page.Built

/-!
# Texts in front of elements

What is read in front of an element of a built page is the page text up to the blank that sets
the element off. A label text in front of it is the end of what is read there, from an offset
on.
-/
namespace ControlSearch

open RunningText

variable {t u w : Text} {start stop : Nat}

/-- In front of a place that is set off, and not at the start, there is a blank. -/
theorem SetOff.exists_eq (h : SetOff t start) (hpos : 0 < start) :
    ∃ u w, t = u ++ ' ' :: w ∧ u.size + 1 = start := by
  obtain ⟨front, ⟨w, rfl⟩, hsize, hends⟩ := h
  rcases List.eq_nil_or_concat front with rfl | ⟨u, c, rfl⟩
  · rw [Text.size_nil] at hsize
    omega
  · rw [List.concat_eq_append] at hsize hends ⊢
    obtain rfl : c = ' ' := by simpa [endsBlank_concat] using hends
    refine ⟨u, w, by simp, ?_⟩
    rw [← hsize, Text.size_append]
    rfl

/-- What lies between an offset and a blank is the end of the text in front of the blank. -/
theorem exists_append_between (ht : t = u ++ ' ' :: w) (hstop : u.size + 1 = stop)
    (hne : between t start stop ≠ []) :
    ∃ front, u = front ++ between t start stop ∧ start ≤ front.size := by
  have hlt : ¬stop ≤ start := by
    intro hle
    simp [between, hle] at hne
  cases hslice : t.slice? start stop with
  | none => simp [between, hlt, hslice, dropBlank, dropBlankEnd] at hne
  | some m =>
      obtain ⟨v, w', htext, hv, hm⟩ := Text.slice?_eq_some_iff.mp hslice
      have hsize : Text.size (v ++ m) = Text.size (u ++ [' ']) := by
        simp only [Text.size_append, Text.size_cons, Text.size_nil]
        have : Char.utf8Size ' ' = 1 := rfl
        omega
      have hsame : (v ++ m) ++ w' = (u ++ [' ']) ++ w := by simp [← htext, ht]
      obtain ⟨hfront, -⟩ := Text.append_inj_of_size hsame hsize
      rcases List.eq_nil_or_concat m with rfl | ⟨n, c, rfl⟩
      · rw [Text.size_nil] at hm
        omega
      · rw [List.concat_eq_append] at hfront hslice
        rw [← List.append_assoc] at hfront
        obtain ⟨rfl, hc⟩ := List.append_inj' hfront rfl
        obtain rfl : c = ' ' := by simpa using hc
        have hbetween : between t start stop = dropBlankEnd (dropBlank (n ++ [' '])) := by
          simp [between, hlt, hslice]
        rw [hbetween] at hne ⊢
        cases n with
        | nil => simp [dropBlank, dropBlankEnd] at hne
        | cons d n =>
            by_cases hd : d = ' '
            · subst hd
              refine ⟨v ++ [' '], by simp [dropBlank, dropBlankEnd], ?_⟩
              rw [Text.size_append]
              omega
            · have hdrop : dropBlank (d :: n ++ [' ']) = d :: n ++ [' '] := by
                rw [dropBlank]
                intro rest heq
                exact hd (List.cons_eq_cons.mp heq).1
              rw [hdrop]
              exact ⟨v, by simp [dropBlank, dropBlankEnd], hv.ge⟩

namespace StaticPage

variable {page : StaticPage} {x : ElementId} {placed : PlacedElement}

theorem position_eq (hx : page.elements[x]? = some placed) :
    page.toPage.position x = .range placed.start placed.stop := by
  simp [toPage, hx, PlacedElement.span]

/-- An element has a place if it is on the page. -/
theorem exists_placed (h : (page.toPage.position x).start? = some start) :
    ∃ placed, page.elements[x]? = some placed ∧ placed.start = start := by
  cases hx : page.elements[x]? with
  | none => simp [toPage, hx, Span.start?] at h
  | some placed =>
      rw [position_eq hx] at h
      exact ⟨placed, rfl, Option.some.inj h⟩

/-- The labels of an element are set off. -/
theorem IsBuilt.setOff_labels (h : page.IsBuilt) {text : Text}
    (hmem : (.range start stop, text) ∈ page.toPage.labels x) : SetOff page.text start := by
  cases hx : page.elements[x]? with
  | none => simp [toPage, labelsOf, hx] at hmem
  | some placed =>
      by_cases hvisible : placed.spec.visible = true
      · simp only [toPage, labelsOf, hx, hvisible, if_true, List.mem_filter,
          List.mem_map] at hmem
        obtain ⟨⟨label, ⟨hlabel, -⟩, heq⟩, -⟩ := hmem
        obtain ⟨rfl, -⟩ := Span.range.inj (congrArg Prod.fst heq)
        exact h.setOff_label hlabel
      · simp [toPage, labelsOf, hx, hvisible] at hmem

/-- The text in front of an element leaves out the blank that sets the element off. -/
theorem IsBuilt.textBefore_eq (h : page.IsBuilt) (hx : page.elements[x]? = some placed)
    (ht : page.text = u ++ ' ' :: w) (hstart : u.size + 1 = placed.start) :
    page.textBefore x = u := by
  have hsize : Text.size (u ++ [' ']) = placed.start := by
    rw [← hstart, Text.size_append]
    rfl
  simp only [textBefore, hx, StaticPage.between, ← hsize]
  exact h.tidy.between_zero ht

theorem textBefore_subset (page : StaticPage) (x : ElementId) :
    page.textBefore x ⊆ page.text := by
  unfold textBefore
  split
  · exact RunningText.between_subset _ _ _
  · exact List.nil_subset _

/-- The walk over the elements in front ends with the label text from some offset on. -/
theorem exists_labelBehind_eq (page : StaticPage) (form : Option Nat)
    (start stop reached : Nat) (elements : List PlacedElement) : ∃ reached',
      page.labelBehind form start stop reached elements =
        page.labelFrom start stop reached' := by
  induction elements generalizing reached with
  | nil => exact ⟨reached, rfl⟩
  | cons previous rest ih =>
      rw [labelBehind]
      dsimp only
      split
      · exact ⟨previous.stop, rfl⟩
      · split
        · exact ⟨previous.stop, rfl⟩
        · exact ih _

/-- The label text in front of an element is the end of all text in front of it, no earlier
than the offset that was asked for. -/
theorem IsBuilt.exists_append_labelBefore (h : page.IsBuilt)
    (hx : page.elements[x]? = some placed) (hne : page.labelBefore x start ≠ []) :
    ∃ front, page.textBefore x = front ++ page.labelBefore x start ∧ start ≤ front.size := by
  obtain ⟨reached, hlabel⟩ := page.exists_labelBehind_eq placed.spec.form start placed.start 0
    (page.elements.take x).reverse
  have hbefore : page.labelBefore x start =
      RunningText.between page.text (min (max reached start) placed.start) placed.start := by
    simp only [labelBefore, hx]
    exact hlabel
  rw [hbefore] at hne ⊢
  have hlt : min (max reached start) placed.start < placed.start := by
    by_contra hle
    simp [RunningText.between, Nat.not_lt.mp hle] at hne
  obtain ⟨u, w, ht, hu⟩ :=
    (h.setOff_element (List.mem_of_getElem? hx)).exists_eq (Nat.zero_lt_of_lt hlt)
  obtain ⟨front, hfront, hle⟩ := exists_append_between ht hu hne
  exact ⟨front, by rw [h.textBefore_eq hx ht hu, ← hfront], by omega⟩

end StaticPage
end ControlSearch
