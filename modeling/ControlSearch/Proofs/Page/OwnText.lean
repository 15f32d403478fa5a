import Mathlib.Data.List.DropRight
import ControlSearch.Page.Builder
import ControlSearch.Proofs.Page.Trimming

/-!
# Texts of elements and labels

What an element or a label writes into the page text is what its raw text is when it is read
alone, for it is written behind a blank. A blank that the raw text ends with does not belong
to it.
-/
namespace ControlSearch

namespace RunningText

variable {t u front : Text} {r : RunningText}

/-- A raw text as it is read alone, without the blank that it may end with. -/
def readAlone (raw : Text) : Text := (ofRaw raw).content.trimEnd

/-- There is no blank at either end. -/
structure IsTrimmed (t : Text) : Prop where
  head : ∀ c ∈ t.head?, Text.isBlank c = false
  last : ∀ c ∈ t.getLast?, Text.isBlank c = false

/-- A text with a blank behind it, if there is any text. -/
def closed (t : Text) : Text := if t = [] then [] else t ++ [' ']

theorem prefix_closed (t : Text) : t <+: closed t := by
  unfold closed
  split <;> simp [*]

theorem isTidy_ofRaw (raw : Text) : IsTidy (ofRaw raw).content := isTidy_append isTidy_nil raw

/-! ## The blank at the end -/

/-- Only a blank at the very end is trimmed. -/
theorem IsTidy.trimEnd_cases (h : IsTidy t) :
    (t.getLast? = some ' ' ∧ t = t.trimEnd ++ [' ']) ∨
    (t.getLast? ≠ some ' ' ∧ t = t.trimEnd) := by
  rcases List.eq_nil_or_concat t with rfl | ⟨u, c, rfl⟩
  · exact .inr ⟨by simp, rfl⟩
  · rw [List.concat_eq_append] at h ⊢
    by_cases hc : c = ' '
    · subst hc
      exact .inl ⟨by simp, by rw [h.trimEnd_concat]⟩
    · have hblank : ¬Text.isBlank c = true := fun hblank => hc (h.plain c (by simp) hblank)
      exact .inr ⟨by simpa using hc, (List.rdropWhile_concat_neg _ _ c hblank).symm⟩

/-- To trim a tidy text is to cut off plain blanks. -/
theorem IsTidy.rdropWhile_eq (h : IsTidy t) : t.rdropWhile (· == ' ') = t.trimEnd := by
  induction t using List.reverseRecOn with
  | nil => rfl
  | append_singleton u c ih =>
      by_cases hc : c = ' '
      · subst hc
        rw [List.rdropWhile_concat_pos _ _ _ (by decide),
          ih (h.of_prefix (List.prefix_append u _))]
        exact (List.rdropWhile_concat_pos Text.isBlank u ' ' (by decide)).symm
      · have hblank : ¬Text.isBlank c = true := fun hblank => hc (h.plain c (by simp) hblank)
        rw [List.rdropWhile_concat_neg _ _ _ (by simpa using hc)]
        exact (List.rdropWhile_concat_neg Text.isBlank u c hblank).symm

theorem IsTidy.isTrimmed_trimEnd (h : IsTidy t) : IsTrimmed t.trimEnd where
  head c hc := by
    have htidy : IsTidy t.trimEnd := h.of_prefix (List.rdropWhile_prefix _ _)
    by_contra hblank
    obtain ⟨rest, hrest⟩ := List.head?_eq_some_iff.mp hc
    rw [hrest] at htidy
    exact htidy.ne_blank (htidy.plain c List.mem_cons_self (by simpa using hblank))
  last c hc := by
    obtain ⟨hne, rfl⟩ := List.mem_getLast?_eq_getLast hc
    exact Bool.eq_false_iff.mpr (List.rdropWhile_last_not Text.isBlank t hne)

theorem isTrimmed_readAlone (raw : Text) : IsTrimmed (readAlone raw) :=
  (isTidy_ofRaw raw).isTrimmed_trimEnd

/-! ## Appending behind a blank -/

/-- Behind a blank a raw text is appended as it is read alone. -/
theorem content_append (h : endsBlank r.content = true) (raw : Text) :
    (r.append raw).content = r.content ++ (ofRaw raw).content := by
  have hempty : endsBlank [] = true := rfl
  simp [append, ofRaw, empty, h, hempty]

theorem append_nil (r : RunningText) : r.append [] = r := by
  have hcollapse (blank : Bool) : collapse blank (Text.composed []) = [] := rfl
  rw [append, hcollapse, List.append_nil]

/-- The blank behind a tidy text is one that was there, or a new one. -/
theorem IsTidy.content_appendBlank (ht : IsTidy t) (h : endsBlank front = true) :
    (RunningText.mk (front ++ t)).appendBlank.content = front ++ closed t.trimEnd := by
  rcases List.eq_nil_or_concat t with rfl | ⟨u, c, rfl⟩
  · simp [appendBlank, h, closed, Text.trimEnd]
  · rw [List.concat_eq_append] at ht ⊢
    by_cases hc : c = ' '
    · subst hc
      have hne : u ≠ [] := by
        rintro rfl
        exact ht.ne_blank rfl
      rw [ht.trimEnd_concat]
      simp [appendBlank, ← List.append_assoc, endsBlank_concat, closed, hne]
    · have hblank : ¬Text.isBlank c = true := fun hblank => hc (ht.plain c (by simp) hblank)
      have htrim : Text.trimEnd (u ++ [c]) = u ++ [c] :=
        List.rdropWhile_concat_neg _ _ c hblank
      rw [htrim]
      simp [appendBlank, ← List.append_assoc, endsBlank_concat, closed, hc]

end RunningText

/-- The text inside an element, which is empty if there is none. -/
def ElementSpec.inside (spec : ElementSpec) : Text := spec.text.getD []

namespace PageBuilder

open RunningText

variable {r : RunningText}

theorem drop?_append (h : endsBlank r.content = true) (raw : Text) :
    Text.drop? (r.append raw).content r.size = some (ofRaw raw).content := by
  rw [content_append h]
  exact Text.drop?_eq_some_iff.mpr ⟨r.content, rfl, rfl⟩

/-- A run goes from behind a blank over what its text is when it is read alone. -/
theorem addRun_eq (b : PageBuilder) (raw : Text) : b.addRun raw =
    (b.text.appendBlank.size, b.text.appendBlank.size + (readAlone raw).size,
      { b with text := b.text.appendBlank.append raw }) := by
  have hdrop := drop?_append (endsBlank_appendBlank b.text) raw
  have htrim : ((ofRaw raw).content.reverse.dropWhile (· == ' ')).reverse = readAlone raw :=
    (isTidy_ofRaw raw).rdropWhile_eq
  have hstop : trimmedStop (b.text.appendBlank.append raw).content b.text.appendBlank.size =
      b.text.appendBlank.size + (readAlone raw).size := by
    simp only [trimmedStop, hdrop, Option.getD_some, htrim]
  rw [← hstop]
  rfl

/-- A label takes the place of its run, which is closed by a blank. -/
theorem addLabel_eq (b : PageBuilder) (raw target : Text) : b.addLabel raw target =
    { b.nextChild.2 with
      text := (b.text.appendBlank.append raw).appendBlank
      labels := b.labels ++ [⟨b.text.appendBlank.size,
        b.text.appendBlank.size + (readAlone raw).size, .named target⟩] } := by
  rw [addLabel, addRun_eq]
  rfl

/-- Where an element ends, a blank at the end of its text does not count. -/
theorem stop_append (h : endsBlank r.content = true) (raw : Text) :
    (if ((Text.drop? (r.append raw).content r.size).getD []).getLast? == some ' '
      then (r.append raw).size - 1 else (r.append raw).size) =
        r.size + (readAlone raw).size := by
  have hsize : (r.append raw).size = r.size + (ofRaw raw).content.size := by
    rw [RunningText.size, content_append h, Text.size_append]
    rfl
  rw [drop?_append h, Option.getD_some]
  rcases (isTidy_ofRaw raw).trimEnd_cases with ⟨hlast, htrim⟩ | ⟨hlast, htrim⟩
  · have hblank : (ofRaw raw).content.size = (readAlone raw).size + 1 :=
      (congrArg Text.size htrim).trans (Text.size_append _ _)
    simp only [hlast, BEq.rfl, if_true]
    omega
  · have hall : (ofRaw raw).content.size = (readAlone raw).size := congrArg Text.size htrim
    simp only [beq_iff_eq, hlast, if_false]
    omega

/-- An element goes from behind a blank over what the text inside it is when it is read alone,
and has a blank behind it. -/
theorem addElement_eq (b : PageBuilder) (spec : ElementSpec) : b.addElement spec =
    (b.elements.length, { b.nextChild.2 with
      text := (b.text.appendBlank.append spec.inside).appendBlank
      elements := b.elements ++ [⟨spec, b.text.appendBlank.size,
        b.text.appendBlank.size + (readAlone spec.inside).size, b.nextChild.1⟩] }) := by
  rw [← stop_append (endsBlank_appendBlank b.text)]
  unfold addElement
  cases hspec : spec.text with
  | some own =>
      simp only [ElementSpec.inside, hspec, Option.getD_some]
      rfl
  | none =>
      simp only [ElementSpec.inside, hspec, Option.getD_none, append_nil]
      rfl

/-- Inside a label, behind its text. -/
def insideLabel (b : PageBuilder) (raw : Text) : PageBuilder :=
  { (b.nextChild.2.enter b.nextChild.1).nextChild.2 with
    text := b.text.appendBlank.append raw }

/-- A label with an element inside it takes the place of its run, which is closed by the
element. -/
theorem addLabelled_eq (b : PageBuilder) (raw : Text) (spec : ElementSpec) :
    b.addLabelled raw spec = (((b.insideLabel raw).addElement spec).1,
      { ((b.insideLabel raw).addElement spec).2.leave with
        labels :=
          ((b.insideLabel raw).addElement spec).2.leave.labels ++
            [⟨b.text.appendBlank.size, b.text.appendBlank.size + (readAlone raw).size,
              .nested ((b.insideLabel raw).addElement spec).1⟩] }) := by
  have hrun := addRun_eq (b.nextChild.2.enter b.nextChild.1).nextChild.2 raw
  have hplace : ((b.nextChild.2.enter b.nextChild.1).nextChild.2.addRun raw).2.1 =
      b.text.appendBlank.size + (readAlone raw).size := congrArg (·.2.1) hrun
  rw [← hplace]
  rfl

end PageBuilder
end ControlSearch
