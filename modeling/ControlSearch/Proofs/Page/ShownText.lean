import ControlSearch.Proofs.Page.Footprint
import ControlSearch.Proofs.Text.Blank

/-!
# Shown texts

What a page tells of the text inside an element, or of the text of a label, does not depend on
what is around it: it is what the raw text is when it is read alone, without the blank at its
end, and nothing if there are only blanks. The labels are followed call by call, each with its
raw text, for the page keeps no raw texts.
-/
namespace ControlSearch

namespace RunningText

variable {t : Text}

/-- What is shown of a raw text: nothing if there are only blanks, and else what is read,
without the blank at its end. -/
def shown? (raw : Text) : Option Text :=
  if raw.composed.all Text.isBlank then none else some (dropBlankEnd (ofRaw raw).content)

theorem collapse_eq_nil_iff : collapse true t = [] ↔ ∀ c ∈ t, Text.isBlank c = true := by
  induction t with
  | nil => simp [collapse]
  | cons c t ih => by_cases hc : Text.isBlank c = true <;> simp [collapse, hc, ih]

/-- A tidy text begins with a character that is no blank, so something of it is left. -/
theorem IsTidy.trimEnd_eq_nil_iff (h : IsTidy t) : t.trimEnd = [] ↔ t = [] := by
  constructor
  · intro hnil
    rcases h.trimEnd_cases with ⟨-, ht⟩ | ⟨-, ht⟩
    · rw [hnil, List.nil_append] at ht
      rw [ht] at h
      exact absurd rfl h.ne_blank
    · rwa [hnil] at ht
  · rintro rfl
    rfl

theorem readAlone_eq_nil_iff {raw : Text} :
    readAlone raw = [] ↔ raw.composed.all Text.isBlank = true := by
  rw [readAlone, (isTidy_ofRaw raw).trimEnd_eq_nil_iff, List.all_eq_true]
  exact collapse_eq_nil_iff

theorem shown?_eq (raw : Text) :
    shown? raw = if readAlone raw = [] then none else some (readAlone raw) := by
  have hspaced : IsSpaced (ofRaw raw).content := (isTidy_ofRaw raw).isSpaced List.infix_rfl
  simp only [shown?, readAlone_eq_nil_iff, hspaced.dropBlankEnd_eq]
  rfl

end RunningText

open RunningText

/-! ## Labels, call by call -/

namespace PageBuilder

/-- The label that a call adds where there is some number of elements already: its raw text,
and which element it belongs to. -/
def Call.label? (count : ℕ) : Call → Option (Text × LabelTarget)
  | label raw target => some (raw, .named target)
  | labelled raw _ => some (raw, .nested count)
  | _ => none

/-- The labels that calls add where there is some number of elements already. -/
def labelsFrom (count : ℕ) : List Call → List (Text × LabelTarget)
  | [] => []
  | call :: rest =>
    (call.label? count).toList ++ labelsFrom (count + call.element?.toList.length) rest

end PageBuilder

/-- A label has a raw text and belongs to an element as given, and stands in the page text as
its own text is read alone. -/
structure IsLabel (t : Text) (l : PlacedLabel) (given : Text × LabelTarget) : Prop where
  target : l.target = given.2
  stop : l.stop = l.start + (readAlone given.1).size
  stands : StandsAt t l.start (readAlone given.1)

namespace PageBuilder

variable {b : PageBuilder} {added : List (Text × LabelTarget)} {r : RunningText}

/-- The labels so far are those that were added, in this order. -/
def HasLabels (b : PageBuilder) (added : List (Text × LabelTarget)) : Prop :=
  List.Forall₂ (IsLabel b.text.content) b.labels added

theorem HasLabels.withText (h : b.HasLabels added) (hr : b.text.content <+: r.content) :
    List.Forall₂ (IsLabel r.content) b.labels added :=
  h.imp fun _ _ hl => ⟨hl.target, hl.stop, hl.stands.mono hr⟩

theorem hasLabels_leave : b.leave.HasLabels added ↔ b.HasLabels added := by
  unfold leave
  split <;> rfl

theorem hasLabels_addElement (h : b.HasLabels added) (spec : ElementSpec) :
    (b.addElement spec).2.HasLabels added := by
  rw [addElement_eq]
  have hmore := (prefix_appendBlank b.text).trans (prefix_append _ spec.inside)
  exact h.withText (hmore.trans (prefix_appendBlank _))

/-- What is written behind a blank, with a blank behind it, is the text of a label there. -/
theorem isLabel_append {t raw : Text}
    (ht : (r.appendBlank.append raw).appendBlank.content <+: t) (target : LabelTarget) :
    IsLabel t ⟨r.appendBlank.size, r.appendBlank.size + (readAlone raw).size,
      target⟩ (raw, target) :=
  ⟨rfl, rfl, ((standsAt_append r raw).shorten (prefix_closed _)).mono ht⟩

theorem hasLabels_addLabel (h : b.HasLabels added) (raw target : Text) :
    (b.addLabel raw target).HasLabels (added ++ [(raw, .named target)]) := by
  have hmore := (prefix_appendBlank b.text).trans (prefix_append _ raw)
  rw [addLabel_eq]
  exact List.rel_append (h.withText (hmore.trans (prefix_appendBlank _)))
    (.cons (isLabel_append List.prefix_rfl (.named target)) .nil)

/-- A label with an element inside it belongs to that element, the next one to be numbered. -/
theorem hasLabels_addLabelled (h : b.HasLabels added) (raw : Text) (spec : ElementSpec) :
    (b.addLabelled raw spec).2.HasLabels (added ++ [(raw, .nested b.elements.length)]) := by
  have hinside : (b.insideLabel raw).HasLabels added :=
    h.withText ((prefix_appendBlank b.text).trans (prefix_append _ raw))
  have hmore : (b.insideLabel raw).text.appendBlank.content <+:
      ((b.insideLabel raw).addElement spec).2.leave.text.content := by
    rw [text_leave, addElement_eq]
    exact (prefix_append _ spec.inside).trans (prefix_appendBlank _)
  have helement := hasLabels_leave.mpr (hasLabels_addElement hinside spec)
  have hnumber : ((b.insideLabel raw).addElement spec).1 = b.elements.length := by
    rw [addElement_eq]
    rfl
  rw [addLabelled_eq, hnumber]
  exact List.rel_append helement (.cons (isLabel_append hmore _) .nil)

/-- A call keeps the labels, and adds one if it is a call for a label. -/
theorem hasLabels_run (h : b.HasLabels added) (call : Call) :
    (call.run b).HasLabels (added ++ (call.label? b.elements.length).toList) := by
  cases call with
  | label raw target => exact hasLabels_addLabel h raw target
  | labelled raw spec => exact hasLabels_addLabelled h raw spec
  | text raw =>
      change HasLabels _ (added ++ [])
      rw [List.append_nil]
      exact h.withText (prefix_append _ raw)
  | element spec =>
      change HasLabels _ (added ++ [])
      rw [List.append_nil]
      exact hasLabels_addElement h spec
  | openBlock =>
      change HasLabels _ (added ++ [])
      rw [List.append_nil]
      exact h.withText (prefix_appendBlank _)
  | closeBlock =>
      change HasLabels _ (added ++ [])
      rw [List.append_nil]
      exact (hasLabels_leave.mpr h).withText (prefix_appendBlank _)

theorem length_elements_run (b : PageBuilder) (call : Call) :
    (call.run b).elements.length = b.elements.length + call.element?.toList.length := by
  rw [← length_specs, specs_run, List.length_append, length_specs]

theorem hasLabels_ofCalls (calls : List Call) :
    (ofCalls calls).HasLabels (labelsFrom 0 calls) := by
  have hfold (b : PageBuilder) (added : List (Text × LabelTarget)) (h : b.HasLabels added) :
      (calls.foldl Call.run b).HasLabels (added ++ labelsFrom b.elements.length calls) := by
    induction calls generalizing b added with
    | nil => rwa [labelsFrom, List.append_nil]
    | cons call calls ih =>
        rw [List.foldl_cons, labelsFrom, ← List.append_assoc, ← length_elements_run]
        exact ih _ _ (hasLabels_run h call)
  exact hfold empty [] .nil

end PageBuilder

/-! ## What is told of a page -/

namespace StaticPage

/-- Whether a label belongs to an element: it names the first one that has some id, or holds
it. -/
def belongsTo (specs : List ElementSpec) (x : ElementId) : LabelTarget → Bool
  | .named id => specs.findIdx? (·.id == some id) == some x
  | .nested y => y == x

variable {page : StaticPage} {x : ElementId} {placed : PlacedElement} {l : PlacedLabel}
  {given : Text × LabelTarget} {added : List (Text × LabelTarget)}

theorem isLabelOf_eq (hl : IsLabel page.text l given) :
    page.isLabelOf x l = belongsTo (page.elements.map (·.spec)) x given.2 := by
  rw [← hl.target]
  cases htarget : l.target with
  | named id =>
      simp only [isLabelOf, htarget, belongsTo, elementById?, List.findIdx?_map]
      rfl
  | nested y => simp only [isLabelOf, htarget, belongsTo]

/-- A text that stands on a page as it is read alone has nothing to trim. -/
theorem between_of_isLabel (h : IsTidy page.text) (hl : IsLabel page.text l given) :
    page.between l.start l.stop = readAlone given.1 := by
  have htrimmed := isTrimmed_readAlone given.1
  have htrim : (readAlone given.1).trim = readAlone given.1 :=
    Text.trim_eq_self_iff.mpr ⟨htrimmed.head, htrimmed.last⟩
  rw [StaticPage.between, h.between_eq, hl.stop, hl.stands.slice?, Option.map_some, htrim,
    Option.getD_some]

/-- What is told of the text inside an element. -/
theorem IsPlaced.ownText_eq (h : page.IsPlaced) (hx : page.elements[x]? = some placed) :
    page.ownText x = placed.spec.text.bind shown? := by
  obtain ⟨hstop, hstands⟩ := h.elements placed (List.mem_of_getElem? hx)
  have hslice := (hstands.shorten (prefix_closed _)).slice?
  rw [← hstop] at hslice
  have hempty : placed.start = placed.stop ↔ readAlone placed.spec.inside = [] := by
    rw [hstop, ← Text.size_eq_zero_iff]
    omega
  rw [ownText, hx, Option.bind_some, hslice]
  simp only [hempty]
  cases htext : placed.spec.text with
  | none =>
      have hinside : placed.spec.inside = [] := by
        rw [ElementSpec.inside, htext, Option.getD_none]
      rw [hinside]
      rfl
  | some w =>
      have hinside : placed.spec.inside = w := by
        rw [ElementSpec.inside, htext, Option.getD_some]
      rw [hinside, Option.bind_some, shown?_eq]

/-- Of the labels that belong to an element those are told of that show anything. -/
theorem map_snd_labels {ls : List PlacedLabel} (h : IsTidy page.text)
    (hls : List.Forall₂ (IsLabel page.text) ls added) (x : ElementId) :
    (((ls.filter (page.isLabelOf x)).map fun l =>
        (Span.range l.start l.stop,
          page.between l.start l.stop)).filter (!·.2.isEmpty)).map (·.2) =
      (added.filter (belongsTo (page.elements.map (·.spec)) x ·.2)).filterMap
        (shown? ·.1) := by
  induction hls with
  | nil => rfl
  | @cons l given _ _ hl _ ih =>
      rw [List.filter_cons, List.filter_cons, isLabelOf_eq hl]
      by_cases hbelongs : belongsTo (page.elements.map (·.spec)) x given.2 = true
      · rw [if_pos hbelongs, if_pos hbelongs, List.map_cons, List.filterMap_cons,
          List.filter_cons, shown?_eq, between_of_isLabel h hl]
        by_cases hnil : readAlone given.1 = []
        · simpa [hnil] using ih
        · simpa [hnil] using ih
      · rwa [if_neg hbelongs, if_neg hbelongs]

/-- What is told of the labels of an element that can be seen. -/
theorem map_snd_labelsOf (h : IsTidy page.text)
    (hlabels : List.Forall₂ (IsLabel page.text) page.labels added)
    (hx : page.elements[x]? = some placed) (hvisible : placed.spec.visible = true) :
    (page.labelsOf x).map (·.2) =
      (added.filter (belongsTo (page.elements.map (·.spec)) x ·.2)).filterMap
        (shown? ·.1) := by
  simp only [labelsOf, hx, hvisible, if_true]
  exact map_snd_labels h hlabels x

theorem slice?_of_ownText {t : Text} (h : page.ownText x = some t) :
    ∃ start stop, page.toPage.position x = .range start stop ∧
      page.text.slice? start stop = some t := by
  obtain ⟨placed, hx, h⟩ := Option.bind_eq_some_iff.mp h
  by_cases hempty : placed.start = placed.stop
  · simp [hempty] at h
  · rw [if_neg hempty] at h
    exact ⟨placed.start, placed.stop, position_eq hx, h⟩

theorem IsPlaced.slice?_of_mem_labelsOf {span : Span} {t : Text} (h : page.IsPlaced)
    (htidy : IsTidy page.text) (hmem : (span, t) ∈ page.labelsOf x) :
    ∃ start stop, span = .range start stop ∧ page.text.slice? start stop = some t := by
  unfold labelsOf at hmem
  split at hmem
  · cases hmem
  · split at hmem
    · obtain ⟨l, hl, heq⟩ := List.mem_map.mp (List.mem_filter.mp hmem).1
      obtain ⟨rfl, rfl⟩ := Prod.mk.inj heq
      obtain ⟨raw, hstop, hstands⟩ := h.labels l (List.mem_filter.mp hl).1
      have hlabel : IsLabel page.text l (raw, l.target) := ⟨rfl, hstop, hstands⟩
      refine ⟨l.start, l.stop, rfl, ?_⟩
      rw [between_of_isLabel htidy hlabel, hstop]
      exact hstands.slice?
    · cases hmem

/-- Whatever calls build a page, it tells of each element the text inside it, and of an
element that can be seen the texts of its labels in the order in which they were added, as
these texts are shown alone. Each is the slice of the page text at the span that is told with
it. -/
theorem shown_texts_of_calls (calls : List PageBuilder.Call) :
    let page := (PageBuilder.ofCalls calls).build
    let specs := calls.filterMap (·.element?)
    (∀ x spec, specs[x]? = some spec →
      page.toPage.ownText x = spec.text.bind shown? ∧
      (spec.visible = true → (page.toPage.labels x).map (·.2) =
        ((PageBuilder.labelsFrom 0 calls).filter (belongsTo specs x ·.2)).filterMap
          (shown? ·.1))) ∧
    (∀ x t, page.toPage.ownText x = some t →
      ∃ start stop, page.toPage.position x = .range start stop ∧
        page.text.slice? start stop = some t) ∧
    ∀ x span t, (span, t) ∈ page.toPage.labels x →
      ∃ start stop, span = .range start stop ∧ page.text.slice? start stop = some t := by
  intro page specs
  have hreachable := PageBuilder.reachable_ofCalls calls
  have hplaced : page.IsPlaced := hreachable.isPlaced
  have htidy : IsTidy page.text := hreachable.sound.tidy
  refine ⟨?_, fun x t => slice?_of_ownText, fun x span t =>
    hplaced.slice?_of_mem_labelsOf htidy⟩
  have hspecs : page.elements.map (·.spec) = specs := PageBuilder.specs_ofCalls calls
  intro x spec hspec
  rw [← hspecs, List.getElem?_map, Option.map_eq_some_iff] at hspec
  obtain ⟨placed, hx, rfl⟩ := hspec
  rw [← hspecs]
  exact ⟨hplaced.ownText_eq hx,
    map_snd_labelsOf htidy (PageBuilder.hasLabels_ofCalls calls) hx⟩

end StaticPage
end ControlSearch
