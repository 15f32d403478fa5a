import ControlSearch.Proofs.Page.RunningText
import ControlSearch.Proofs.Text.Blank
import ControlSearch.Proofs.Text.Cuts

/-!
# Running text in pieces

Blanks are collapsed one character after the other, so for them it does not matter where a
text is cut. Composition looks back over a cut. So a text that comes in two pieces is read as
a whole exactly when its pieces, each composed on its own, make the composed whole. Beside a
blank, or in front of a letter of Latin, any cut will do; a cut between a letter and its mark,
or within a syllable, keeps them apart.
-/
namespace ControlSearch.RunningText
open Text

variable {t u w front back : Text}

theorem content_inj {r r' : RunningText} : r.content = r'.content ↔ r = r' := by
  cases r
  cases r'
  simp

/-- Appends one character that is composed already. -/
def push (t : Text) (c : Char) : Text :=
  if isBlank c then (if endsBlank t then t else t ++ [' ']) else t ++ [c]

/-- To collapse blanks behind a text is to append the characters one after the other. -/
theorem append_collapse (t u : Text) : t ++ collapse (endsBlank t) u = u.foldl push t := by
  induction u generalizing t with
  | nil => simp [collapse]
  | cons c u ih =>
      rw [List.foldl_cons, ← ih]
      by_cases hc : isBlank c = true
      · by_cases hends : endsBlank t = true
        · simp [collapse, push, hc, hends]
        · simp [collapse, push, hc, hends, endsBlank_concat]
      · have hne : (c == ' ') = false :=
          beq_eq_false_iff_ne.mpr (ne_blank_of_not_isBlank (by simpa using hc))
        simp [collapse, push, hc, endsBlank_concat, hne]

theorem content_append_eq_foldl (r : RunningText) (raw : Text) :
    (r.append raw).content = raw.composed.foldl push r.content :=
  append_collapse _ _

theorem foldl_push_of_not_isBlank (hw : ∀ c ∈ w, isBlank c = false) (t : Text) :
    w.foldl push t = t ++ w := by
  induction w generalizing t with
  | nil => simp
  | cons c w ih =>
      obtain ⟨hc, hw⟩ := List.forall_mem_cons.mp hw
      rw [List.foldl_cons, ih hw]
      simp [push, hc]

theorem endsBlank_append_word (hw : ∀ c ∈ w, isBlank c = false) (hne : w ≠ []) (t : Text) :
    endsBlank (t ++ w) = false := by
  obtain ⟨w, c, rfl⟩ := (List.eq_nil_or_concat w).resolve_left hne
  rw [List.concat_eq_append] at hw ⊢
  have hc : c ≠ ' ' := ne_blank_of_not_isBlank (hw c (by simp))
  simp [← List.append_assoc, endsBlank_concat, hc]

/-- Words between the same texts are told apart, as neither of them is lost. -/
theorem eq_of_foldl_push (hu : ∀ c ∈ u, isBlank c = false) (hw : ∀ c ∈ w, isBlank c = false)
    (hnil : u = [] ↔ w = [])
    (h : (front ++ (u ++ back)).foldl push t = (front ++ (w ++ back)).foldl push t) :
    u = w := by
  by_cases hempty : u = []
  · rw [hempty, hnil.mp hempty]
  · simp only [List.foldl_append, foldl_push_of_not_isBlank hu, foldl_push_of_not_isBlank hw]
      at h
    rw [← append_collapse _ back, ← append_collapse _ back, endsBlank_append_word hu hempty,
      endsBlank_append_word hw (mt hnil.mpr hempty)] at h
    exact List.append_cancel_left (List.append_cancel_right h)

/-- Pieces that give the same content apart as together are composed to the same apart as
together. -/
theorem composed_append_of_foldl_push (a b : Text)
    (h : (a.composed ++ b.composed).foldl push t = (a ++ b).composed.foldl push t) :
    (a ++ b).composed = a.composed ++ b.composed := by
  -- Only the word that the cut may go through can make a difference.
  obtain ⟨front, u, rfl, hfront, hu⟩ := exists_eq_append_word a
  obtain ⟨w, back, rfl, hw, hback⟩ := exists_eq_word_append b
  have hwhole : (front ++ u ++ (w ++ back)).composed =
      front.composed ++ ((u ++ w).composed ++ back.composed) := by
    rw [List.append_assoc, ← List.append_assoc u, composed_append_of_isBlank_getLast? hfront,
      composed_append_of_isBlank_head? hback]
  have hapart : (front ++ u).composed ++ (w ++ back).composed =
      front.composed ++ ((u.composed ++ w.composed) ++ back.composed) := by
    rw [composed_append_of_isBlank_getLast? hfront, composed_append_of_isBlank_head? hback]
    simp only [List.append_assoc]
  rw [hwhole, hapart] at h
  have hword : u.composed ++ w.composed = (u ++ w).composed := by
    refine eq_of_foldl_push ?_ ?_ ?_ h
    · exact List.forall_mem_append.mpr
        ⟨not_isBlank_of_mem_composed hu, not_isBlank_of_mem_composed hw⟩
    · exact not_isBlank_of_mem_composed (List.forall_mem_append.mpr ⟨hu, hw⟩)
    · simp only [List.append_eq_nil_iff, composed_eq_nil_iff]
  rw [hwhole, hapart, hword]

/-- Two pieces of text are read as one if and only if composing them apart composes the whole.
That is so wherever the cut is beside a blank, or in front of a character that comes before
all marks. -/
theorem append_append_eq_iff (r : RunningText) (a b : Text) :
    ((r.append a).append b = r.append (a ++ b) ↔
      (a ++ b).composed = a.composed ++ b.composed) ∧
      ((∀ c ∈ a.getLast?, isBlank c = true) ∨
          (∀ c ∈ b.head?, isBlank c = true ∨ c.toNat < 0x300) →
        (r.append a).append b = r.append (a ++ b)) := by
  have hcontent : (r.append a).append b = r.append (a ++ b) ↔
      (a.composed ++ b.composed).foldl push r.content =
        (a ++ b).composed.foldl push r.content := by
    rw [← content_append_eq_foldl, List.foldl_append, ← content_append_eq_foldl,
      ← content_append_eq_foldl, content_inj]
  have hiff : (r.append a).append b = r.append (a ++ b) ↔
      (a ++ b).composed = a.composed ++ b.composed := by
    rw [hcontent]
    exact ⟨composed_append_of_foldl_push a b, fun h => by rw [h]⟩
  refine ⟨hiff, fun hcut => hiff.mpr ?_⟩
  rcases hcut with ha | hb
  · exact composed_append_of_isBlank_getLast? ha b
  · refine composed_append_of_head? (fun c hc => ?_) a
    rcases hb c hc with hblank | hlt
    · exact (standsAlone_of_isBlank hblank).beginsAnew
    · exact beginsAnew_of_lt hlt

/-- A cut behind a blank makes no difference, and one within a syllable does. -/
theorem append_append_beside_blank :
    (empty.append ['ᄀ', ' ']).append ['ᅡ'] = empty.append (['ᄀ', ' '] ++ ['ᅡ']) ∧
      (empty.append ['ᄀ']).append ['ᅡ'] ≠ empty.append (['ᄀ'] ++ ['ᅡ']) :=
  ⟨(append_append_eq_iff empty ['ᄀ', ' '] ['ᅡ']).2 (.inl fun _ hc =>
    Option.some.inj hc ▸ (by decide)),
    fun h => absurd ((append_append_eq_iff empty ['ᄀ'] ['ᅡ']).1.mp h) (by decide)⟩

/-- In one piece the letters of a syllable are read as the syllable, in two they stay
letters. -/
theorem append_append_within_syllable :
    ((empty.append ['ᄀ']).append ['ᅡ']).content = ['ᄀ', 'ᅡ'] ∧
      (empty.append (['ᄀ'] ++ ['ᅡ'])).content = ['가'] ∧
      ((empty.append ['ᄀ']).append ['ᅡ']).content ≠
        (empty.append (['ᄀ'] ++ ['ᅡ'])).content := by
  decide

end ControlSearch.RunningText
