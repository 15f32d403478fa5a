import ControlSearch.Proofs.Page.DocumentOrder
import ControlSearch.Proofs.Page.OwnText

/-!
# Footprints

The part of the page text that an element or a label takes is told while the text still grows.
It stays good, for text is written only at the end: it can be cut out, has no blank at either
end and is set off from what is in front; elements take disjoint parts, and have a blank
behind them.
-/
namespace ControlSearch

open RunningText

variable {t t' u u' : Text} {start : Nat}

/-- A text stands at an offset, which is set off: at the start or behind a blank. -/
def StandsAt (t : Text) (start : Nat) (u : Text) : Prop :=
  ∃ front, front ++ u <+: t ∧ Text.size front = start ∧ endsBlank front = true

theorem StandsAt.mono (h : StandsAt t start u) (ht : t <+: t') : StandsAt t' start u := by
  obtain ⟨front, hfront, hsize, hends⟩ := h
  exact ⟨front, hfront.trans ht, hsize, hends⟩

theorem StandsAt.shorten (h : StandsAt t start u) (hu : u' <+: u) : StandsAt t start u' := by
  obtain ⟨front, hfront, hsize, hends⟩ := h
  exact ⟨front, ((List.prefix_append_right_inj front).mpr hu).trans hfront, hsize, hends⟩

theorem StandsAt.le_size (h : StandsAt t start u) : start + u.size ≤ t.size := by
  obtain ⟨front, hfront, rfl, -⟩ := h
  rw [← Text.size_append]
  exact Text.size_le_of_isPrefix hfront

theorem StandsAt.slice? (h : StandsAt t start u) :
    t.slice? start (start + u.size) = some u := by
  obtain ⟨front, ⟨rest, rfl⟩, rfl, -⟩ := h
  exact Text.slice?_eq_some_iff.mpr ⟨front, rest, by simp, rfl, rfl⟩

theorem StandsAt.setOff (h : StandsAt t start u) : SetOff t start := by
  obtain ⟨front, hfront, hsize, hends⟩ := h
  exact ⟨front, (List.prefix_append front u).trans hfront, hsize, hends⟩

/-- In front of a text that is set off there is a blank, or nothing. -/
theorem StandsAt.eq_zero_or (h : StandsAt t start u) :
    start = 0 ∨ t.slice? (start - 1) start = some [' '] := by
  rcases Nat.eq_zero_or_pos start with hzero | hpos
  · exact .inl hzero
  · obtain ⟨v, w, ht, rfl⟩ := h.setOff.exists_eq hpos
    exact .inr (Text.slice?_eq_some_iff.mpr ⟨v, w, by simpa using ht, rfl, rfl⟩)

/-- Behind a text that is closed there is a blank. -/
theorem StandsAt.blank_behind (h : StandsAt t start (closed u)) (hu : u ≠ []) :
    t.slice? (start + u.size) (start + u.size + 1) = some [' '] := by
  obtain ⟨front, ⟨rest, rfl⟩, rfl, -⟩ := h
  refine Text.slice?_eq_some_iff.mpr ⟨front ++ u, rest, by simp [closed, hu], ?_, rfl⟩
  exact Text.size_append _ _

namespace StaticPage

variable {page : StaticPage}

/-! ## What a call preserves -/

/-- Elements and labels stand where they were placed; elements are closed, and stand behind
the earlier ones. -/
structure IsPlaced (page : StaticPage) : Prop where
  elements : ∀ e ∈ page.elements, e.stop = e.start + (readAlone e.spec.inside).size ∧
    StandsAt page.text e.start (closed (readAlone e.spec.inside))
  labels : ∀ l ∈ page.labels, ∃ raw, l.stop = l.start + (readAlone raw).size ∧
    StandsAt page.text l.start (readAlone raw)
  apart : page.elements.Pairwise fun e e' => e.stop ≤ e'.start

theorem IsPlaced.withText (h : page.IsPlaced) (ht : page.text <+: t) :
    IsPlaced { page with text := t } where
  elements e he := ⟨(h.elements e he).1, (h.elements e he).2.mono ht⟩
  labels l hl := by
    obtain ⟨raw, hstop, hstands⟩ := h.labels l hl
    exact ⟨raw, hstop, hstands.mono ht⟩
  apart := h.apart

/-- Elements end inside the text. -/
theorem IsPlaced.stop_le (h : page.IsPlaced) {e : PlacedElement} (he : e ∈ page.elements) :
    e.stop ≤ page.text.size := by
  obtain ⟨hstop, hstands⟩ := h.elements e he
  rw [hstop]
  exact (hstands.shorten (prefix_closed _)).le_size

theorem IsPlaced.withElement (h : page.IsPlaced) {e : PlacedElement}
    (hstop : e.stop = e.start + (readAlone e.spec.inside).size)
    (hstands : StandsAt page.text e.start (closed (readAlone e.spec.inside)))
    (hlast : ∀ e' ∈ page.elements, e'.stop ≤ e.start) :
    IsPlaced { page with elements := page.elements ++ [e] } where
  elements e' he' := by
    rcases List.mem_append.mp he' with he' | he'
    · exact h.elements e' he'
    · rw [List.mem_singleton.mp he']
      exact ⟨hstop, hstands⟩
  labels := h.labels
  apart := by
    refine List.pairwise_append.mpr ⟨h.apart, List.pairwise_singleton _ _, ?_⟩
    intro e' he' e'' he''
    rw [List.mem_singleton.mp he'']
    exact hlast e' he'

theorem IsPlaced.withLabel (h : page.IsPlaced) {l : PlacedLabel} {raw : Text}
    (hstop : l.stop = l.start + (readAlone raw).size)
    (hstands : StandsAt page.text l.start (readAlone raw)) :
    IsPlaced { page with labels := page.labels ++ [l] } where
  elements := h.elements
  labels l' hl' := by
    rcases List.mem_append.mp hl' with hl' | hl'
    · exact h.labels l' hl'
    · rw [List.mem_singleton.mp hl']
      exact ⟨raw, hstop, hstands⟩
  apart := h.apart

end StaticPage

namespace PageBuilder

open StaticPage

variable {b : PageBuilder}

/-- What is written behind a blank stands there, closed by the next blank. -/
theorem standsAt_append (r : RunningText) (raw : Text) :
    StandsAt (r.appendBlank.append raw).appendBlank.content r.appendBlank.size
      (closed (readAlone raw)) := by
  have hblank := endsBlank_appendBlank r
  have hcontent := (isTidy_ofRaw raw).content_appendBlank hblank
  rw [← content_append hblank] at hcontent
  exact ⟨r.appendBlank.content, hcontent ▸ List.prefix_rfl, rfl, hblank⟩

theorem isPlaced_addElement (h : b.build.IsPlaced) (spec : ElementSpec) :
    (b.addElement spec).2.build.IsPlaced := by
  rw [addElement_eq]
  have hmore := (prefix_appendBlank b.text).trans (prefix_append _ spec.inside)
  refine (h.withText (hmore.trans (prefix_appendBlank _))).withElement rfl
    (standsAt_append b.text spec.inside) ?_
  exact fun e he =>
    (h.stop_le he).trans (Text.size_le_of_isPrefix (prefix_appendBlank b.text))

/-- A label whose text was written behind a blank may be added once the next blank is
there. -/
theorem isPlaced_withLabel (h : b.build.IsPlaced) {r : RunningText} {raw : Text}
    (ht : (r.appendBlank.append raw).appendBlank.content <+: b.text.content)
    (target : LabelTarget) :
    IsPlaced { b.build with labels := b.labels ++
      [⟨r.appendBlank.size, r.appendBlank.size + (readAlone raw).size, target⟩] } :=
  h.withLabel rfl (((standsAt_append r raw).shorten (prefix_closed _)).mono ht)

theorem isPlaced_addLabel (h : b.build.IsPlaced) (raw target : Text) :
    (b.addLabel raw target).build.IsPlaced := by
  let written : PageBuilder := { b.nextChild.2 with
    text := (b.text.appendBlank.append raw).appendBlank }
  have hmore := (prefix_appendBlank b.text).trans (prefix_append _ raw)
  have hwritten : written.build.IsPlaced := h.withText (hmore.trans (prefix_appendBlank _))
  rw [addLabel_eq]
  exact isPlaced_withLabel hwritten List.prefix_rfl (.named target)

theorem build_leave (b : PageBuilder) : b.leave.build = b.build := by
  unfold leave
  split <;> rfl

/-- The text of a label with an element inside it is closed when the element is added. -/
theorem isPlaced_addLabelled (h : b.build.IsPlaced) (raw : Text) (spec : ElementSpec) :
    (b.addLabelled raw spec).2.build.IsPlaced := by
  have hinside : (b.insideLabel raw).build.IsPlaced :=
    h.withText ((prefix_appendBlank b.text).trans (prefix_append _ raw))
  have hmore : (b.insideLabel raw).text.appendBlank.content <+:
      ((b.insideLabel raw).addElement spec).2.leave.text.content := by
    rw [text_leave, addElement_eq]
    exact (prefix_append _ spec.inside).trans (prefix_appendBlank _)
  have helement := isPlaced_addElement hinside spec
  rw [← build_leave] at helement
  rw [addLabelled_eq]
  exact isPlaced_withLabel helement hmore _

theorem Reachable.isPlaced (h : b.Reachable) : b.build.IsPlaced := by
  induction h with
  | empty =>
      exact ⟨by simp [PageBuilder.empty, build], by simp [PageBuilder.empty, build], .nil⟩
  | addText raw _ ih => exact ih.withText (prefix_append _ raw)
  | addLabel raw target _ ih => exact isPlaced_addLabel ih raw target
  | addElement spec _ ih => exact isPlaced_addElement ih spec
  | addLabelled raw spec _ ih => exact isPlaced_addLabelled ih raw spec
  | openBlock _ ih => exact ih.withText (prefix_appendBlank _)
  | closeBlock _ ih =>
      rw [← build_leave] at ih
      exact ih.withText (prefix_appendBlank _)

end PageBuilder

namespace StaticPage

variable {page : StaticPage}

/-! ## Footprints on a page -/

/-- A part of a text that can be cut out, has no blank at either end, and is set off: in front
of it there is a blank, or nothing. -/
structure IsFootprint (t : Text) (start stop : Nat) : Prop where
  le : start ≤ stop
  stop_le : stop ≤ t.size
  trimmed : ∃ u, t.slice? start stop = some u ∧ IsTrimmed u
  setOff : start = 0 ∨ t.slice? (start - 1) start = some [' ']

theorem isFootprint_of_standsAt (h : StandsAt t start u) (hu : IsTrimmed u) :
    IsFootprint t start (start + u.size) :=
  ⟨Nat.le_add_right _ _, h.le_size, ⟨u, h.slice?, hu⟩, h.eq_zero_or⟩

/-- The elements that were added take footprints one behind the other, each with a blank
behind it unless it is empty; and labels take footprints. -/
structure HasFootprints (page : StaticPage) (added : List ElementSpec) : Prop where
  element : ∀ x < added.length, ∃ start stop, page.toPage.position x = .range start stop ∧
    IsFootprint page.text start stop ∧
    (start < stop → page.text.slice? stop (stop + 1) = some [' '])
  apart : ∀ x y start stop start' stop', x < y → page.toPage.position x = .range start stop →
    page.toPage.position y = .range start' stop' → stop ≤ start'
  label : ∀ l ∈ page.labels, IsFootprint page.text l.start l.stop

theorem exists_placed_of_range {x start stop : Nat}
    (h : page.toPage.position x = .range start stop) :
    ∃ e, page.elements[x]? = some e ∧ e.start = start ∧ e.stop = stop := by
  cases hx : page.elements[x]? with
  | none => simp [toPage, hx] at h
  | some e =>
      rw [position_eq hx] at h
      obtain ⟨hstart, hstop⟩ := Span.range.inj h
      exact ⟨e, rfl, hstart, hstop⟩

theorem IsPlaced.hasFootprints (h : page.IsPlaced) :
    page.HasFootprints (page.elements.map (·.spec)) where
  element x hx := by
    rw [List.length_map] at hx
    have hx := List.getElem?_eq_getElem hx
    obtain ⟨hstop, hstands⟩ := h.elements _ (List.mem_of_getElem? hx)
    refine ⟨_, _, position_eq hx, ?_, ?_⟩
    · rw [hstop]
      exact isFootprint_of_standsAt (hstands.shorten (prefix_closed _))
        (isTrimmed_readAlone _)
    · intro hlt
      rw [hstop] at hlt ⊢
      refine hstands.blank_behind ?_
      intro hnil
      rw [hnil] at hlt
      exact absurd hlt (Nat.lt_irrefl _)
  apart x y start stop start' stop' hlt hx hy := by
    obtain ⟨e, he, rfl, rfl⟩ := exists_placed_of_range hx
    obtain ⟨e', he', rfl, rfl⟩ := exists_placed_of_range hy
    obtain ⟨hlen, rfl⟩ := List.getElem?_eq_some_iff.mp he
    obtain ⟨hlen', rfl⟩ := List.getElem?_eq_some_iff.mp he'
    exact List.pairwise_iff_getElem.mp h.apart x y hlen hlen' hlt
  label l hl := by
    obtain ⟨raw, hstop, hstands⟩ := h.labels l hl
    rw [hstop]
    exact isFootprint_of_standsAt hstands (isTrimmed_readAlone raw)

/-- Whatever calls build a page, its elements and labels are well placed. -/
theorem footprints_of_calls (calls : List PageBuilder.Call) :
    (PageBuilder.ofCalls calls).build.HasFootprints (calls.filterMap (·.element?)) := by
  rw [← PageBuilder.specs_ofCalls]
  exact (PageBuilder.reachable_ofCalls calls).isPlaced.hasFootprints

end StaticPage
end ControlSearch
