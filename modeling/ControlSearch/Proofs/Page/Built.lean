import ControlSearch.Page.Static
import ControlSearch.Proofs.Page.RunningText

/-!
# Pages that were built

A page is the outcome of any number of calls to a builder. Each call keeps the text tidy, and
sets off what it places: elements and labels begin at the start of the text or behind a blank.
-/
namespace ControlSearch

open RunningText

/-- A place in a text that is set off: at the start or behind a blank. -/
def SetOff (t : Text) (start : Nat) : Prop :=
  ∃ front, front <+: t ∧ Text.size front = start ∧ endsBlank front = true

theorem SetOff.mono {t t' : Text} {start : Nat} (h : SetOff t start) (ht : t <+: t') :
    SetOff t' start := by
  obtain ⟨front, hfront, hsize, hends⟩ := h
  exact ⟨front, hfront.trans ht, hsize, hends⟩

theorem setOff_appendBlank (r : RunningText) :
    SetOff r.appendBlank.content r.appendBlank.size :=
  ⟨_, List.prefix_rfl, rfl, endsBlank_appendBlank r⟩

namespace PageBuilder

/-- The builders that calls can bring about, from an empty page on. -/
inductive Reachable : PageBuilder → Prop
  | empty : Reachable empty
  | addText {b : PageBuilder} (raw : Text) : Reachable b → Reachable (b.addText raw)
  | addLabel {b : PageBuilder} (raw target : Text) : Reachable b →
        Reachable (b.addLabel raw target)
  | addElement {b : PageBuilder} (spec : ElementSpec) :
      Reachable b → Reachable (b.addElement spec).2
  | addLabelled {b : PageBuilder} (raw : Text) (spec : ElementSpec) :
      Reachable b → Reachable (b.addLabelled raw spec).2
  | openBlock {b : PageBuilder} : Reachable b → Reachable b.openBlock
  | closeBlock {b : PageBuilder} : Reachable b → Reachable b.closeBlock

mutual

theorem Reachable.addNode {b : PageBuilder} (h : b.Reachable) (node : PageNode) :
    (b.addNode node).Reachable := by
  cases node with
  | text raw => exact h.addText raw
  | element spec => exact h.addElement spec
  | label l =>
      rw [PageBuilder.addNode]
      split
      · exact h.addLabelled _ _
      · exact h.addLabel _ _
      · exact h.addText _
  | group children => exact (h.openBlock.addNodes children).closeBlock

theorem Reachable.addNodes {b : PageBuilder} (h : b.Reachable) (nodes : List PageNode) :
    (b.addNodes nodes).Reachable := by
  cases nodes with
  | nil => exact h
  | cons node rest => exact (h.addNode node).addNodes rest

end

/-! ## What a call preserves -/

/-- The text is tidy, and all that was placed is set off in it. -/
structure Sound (b : PageBuilder) : Prop where
  tidy : IsTidy b.text.content
  elements : ∀ e ∈ b.elements, SetOff b.text.content e.start
  labels : ∀ l ∈ b.labels, SetOff b.text.content l.start

variable {b : PageBuilder}

theorem sound_empty : empty.Sound := ⟨isTidy_nil, by simp [empty], by simp [empty]⟩

/-- Longer texts leave everything where it is. -/
theorem Sound.withText (h : b.Sound) {r : RunningText} (htidy : IsTidy r.content)
    (ht : b.text.content <+: r.content) : Sound { b with text := r } where
  tidy := htidy
  elements e he := (h.elements e he).mono ht
  labels l hl := (h.labels l hl).mono ht

theorem Sound.append (h : b.Sound) (raw : Text) : (b.append raw).Sound :=
  h.withText (isTidy_append h.tidy raw) (prefix_append _ _)

theorem Sound.appendBlank (h : b.Sound) : b.appendBlank.Sound :=
  h.withText (isTidy_appendBlank h.tidy) (prefix_appendBlank _)

theorem Sound.nextChild (h : b.Sound) : b.nextChild.2.Sound := ⟨h.tidy, h.elements, h.labels⟩

theorem Sound.enter (h : b.Sound) (path : Hierarchy) : (b.enter path).Sound :=
  ⟨h.tidy, h.elements, h.labels⟩

theorem Sound.leave (h : b.Sound) : b.leave.Sound := by
  unfold PageBuilder.leave
  split
  · exact h
  · exact ⟨h.tidy, h.elements, h.labels⟩

theorem Sound.withElement (h : b.Sound) {e : PlacedElement}
    (he : SetOff b.text.content e.start) :
    Sound { b with elements := b.elements ++ [e] } where
  tidy := h.tidy
  elements e' he' := by
    rcases List.mem_append.mp he' with he' | he'
    · exact h.elements e' he'
    · rwa [List.mem_singleton.mp he']
  labels := h.labels

theorem Sound.withLabel (h : b.Sound) {l : PlacedLabel} (hl : SetOff b.text.content l.start) :
    Sound { b with labels := b.labels ++ [l] } where
  tidy := h.tidy
  elements := h.elements
  labels l' hl' := by
    rcases List.mem_append.mp hl' with hl' | hl'
    · exact h.labels l' hl'
    · rwa [List.mem_singleton.mp hl']

theorem Sound.addRun (h : b.Sound) (raw : Text) : (b.addRun raw).2.2.Sound ∧
    SetOff (b.addRun raw).2.2.text.content (b.addRun raw).1 :=
  ⟨h.appendBlank.append raw, (setOff_appendBlank b.text).mono (prefix_append _ _)⟩

theorem Sound.addLabel (h : b.Sound) (raw target : Text) : (b.addLabel raw target).Sound := by
  obtain ⟨hsound, hstart⟩ := h.nextChild.addRun raw
  exact hsound.appendBlank.withLabel (hstart.mono (prefix_appendBlank _))

/-- An element has a blank in front, and so has what follows it. -/
theorem Sound.addElement (h : b.Sound) (spec : ElementSpec) : (b.addElement spec).2.Sound ∧
    b.text.content <+: (b.addElement spec).2.text.content := by
  have hstart :
      SetOff b.nextChild.2.appendBlank.text.content b.nextChild.2.appendBlank.text.size :=
    setOff_appendBlank b.text
  have hprefix : b.text.content <+: b.nextChild.2.appendBlank.text.content :=
    prefix_appendBlank _
  have hblank := h.nextChild.appendBlank
  unfold PageBuilder.addElement
  cases spec.text with
  | none =>
      refine ⟨?_, hprefix.trans (prefix_appendBlank _)⟩
      exact hblank.appendBlank.withElement (hstart.mono (prefix_appendBlank _))
  | some own =>
      have hmore : b.nextChild.2.appendBlank.text.content <+:
          (b.nextChild.2.appendBlank.append own).appendBlank.text.content :=
        (prefix_append _ own).trans (prefix_appendBlank _)
      refine ⟨?_, hprefix.trans hmore⟩
      exact (hblank.append own).appendBlank.withElement (hstart.mono hmore)

theorem text_leave (b : PageBuilder) : b.leave.text = b.text := by
  unfold leave
  split <;> rfl

theorem Sound.addLabelled (h : b.Sound) (raw : Text) (spec : ElementSpec) :
    (b.addLabelled raw spec).2.Sound := by
  obtain ⟨hrun, hstart⟩ := (h.nextChild.enter b.nextChild.1).nextChild.addRun raw
  obtain ⟨helement, hprefix⟩ := hrun.addElement spec
  refine helement.leave.withLabel ?_
  rw [text_leave]
  exact hstart.mono hprefix

theorem Reachable.sound (h : b.Reachable) : b.Sound := by
  induction h with
  | empty => exact sound_empty
  | addText raw _ ih => exact ih.nextChild.append raw
  | addLabel raw target _ ih => exact ih.addLabel raw target
  | addElement spec _ ih => exact (ih.addElement spec).1
  | addLabelled raw spec _ ih => exact ih.addLabelled raw spec
  | openBlock _ ih => exact (ih.nextChild.enter _).appendBlank
  | closeBlock _ ih => exact ih.leave.appendBlank

end PageBuilder

namespace StaticPage

variable {page : StaticPage}

/-- A page that was built. -/
def IsBuilt (page : StaticPage) : Prop := ∃ b : PageBuilder, b.Reachable ∧ b.build = page

/-- Pages that are made from descriptions are built. -/
theorem isBuilt_ofDescription (d : PageDescription) : (ofDescription d).IsBuilt :=
  ⟨_, PageBuilder.Reachable.empty.addNodes d.nodes, rfl⟩

theorem IsBuilt.tidy (h : page.IsBuilt) : IsTidy page.text := by
  obtain ⟨b, hb, rfl⟩ := h
  exact hb.sound.tidy

theorem IsBuilt.setOff_element (h : page.IsBuilt) {e : PlacedElement}
    (he : e ∈ page.elements) :
    SetOff page.text e.start := by
  obtain ⟨b, hb, rfl⟩ := h
  exact hb.sound.elements e he

theorem IsBuilt.setOff_label (h : page.IsBuilt) {l : PlacedLabel} (hl : l ∈ page.labels) :
    SetOff page.text l.start := by
  obtain ⟨b, hb, rfl⟩ := h
  exact hb.sound.labels l hl

/-- A control with the id `b`, behind a text and a blank. -/
def controlBehind (front : Text) : StaticPage :=
  ⟨front ++ [' '],
    [⟨{ ElementSpec.textInput with id := some ['b'] }, front.size + 1, front.size + 1, [1]⟩],
    []⟩

-- A syllable of Hangul is composed by rule, without a look into the tables.
theorem isBuilt_controlBehind_syllable : (controlBehind ['가']).IsBuilt := by
  refine ⟨_,
    .addElement { ElementSpec.textInput with id := some ['b'] } (.addText ['가'] .empty), ?_⟩
  decide

end StaticPage
end ControlSearch
