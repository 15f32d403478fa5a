import ControlSearch.Text.Composition

/-!
# Where composition can be cut

Composing a text looks back: a mark moves in front of others, and a character joins the
starter it follows. Neither reaches across a starter that nothing in front is composed with.
So a text that is cut before such a character may be composed in two pieces, and if the
character takes up nothing that follows either, it may be cut on both sides.
-/
namespace ControlSearch.Text

variable {c d starter : Char} {s t u v before marks : Text}

/-! ## The order of marks -/

/-- A starter stays where it is. -/
theorem insertMark_of_starter (hc : combiningClass c = 0) (before : Text) :
    insertMark c before = c :: before := by
  cases before with
  | nil => rfl
  | cons d before => exact if_neg fun h => h.1 hc

/-- No mark moves past a starter. -/
theorem insertMark_append (hc : combiningClass c = 0) (d : Char) (u before : Text) :
    insertMark d (u ++ c :: before) = insertMark d u ++ c :: before := by
  induction u with
  | nil => simp [insertMark, hc]
  | cons e u ih =>
      by_cases hpast : combiningClass d ≠ 0 ∧ combiningClass d < combiningClass e
      · simp [insertMark, hpast, ih]
      · simp [insertMark, hpast]

theorem foldl_insertMark_append (hc : combiningClass c = 0) (t u before : Text) :
    t.foldl (fun before d => insertMark d before) (u ++ c :: before) =
      t.foldl (fun before d => insertMark d before) u ++ c :: before := by
  induction t generalizing u with
  | nil => rfl
  | cons d t ih => simp only [List.foldl_cons, insertMark_append hc, ih]

/-- The marks in front of a starter and those behind it are put into order apart. -/
theorem ordered_append_cons (hc : combiningClass c = 0) (s t : Text) :
    ordered (s ++ c :: t) = ordered s ++ c :: ordered t := by
  have hfold :=
    foldl_insertMark_append hc t [] (s.foldl (fun before d => insertMark d before) [])
  rw [List.nil_append] at hfold
  simp [ordered, insertMark_of_starter hc, hfold]

@[simp] theorem ordered_nil : ordered [] = [] := rfl

theorem ordered_cons (hc : combiningClass c = 0) (t : Text) :
    ordered (c :: t) = c :: ordered t := by
  simpa using ordered_append_cons hc [] t

theorem mem_insertMark : d ∈ insertMark c before ↔ d = c ∨ d ∈ before := by
  induction before with
  | nil => simp [insertMark]
  | cons e before ih =>
      simp only [insertMark]
      split <;> simp [ih, or_left_comm]

theorem mem_ordered : d ∈ ordered t ↔ d ∈ t := by
  suffices h : ∀ before, d ∈ t.foldl (fun before c => insertMark c before) before ↔
      d ∈ before ∨ d ∈ t by simpa [ordered] using h []
  induction t with
  | nil => simp
  | cons c t ih =>
      intro before
      rw [List.foldl_cons, ih, mem_insertMark, List.mem_cons]
      exact or_assoc.trans or_left_comm

/-! ## Composition behind a starter -/

@[simp] theorem compose_nil : compose [] = [] := rfl

theorem compose_cons_of_starter (hc : combiningClass c = 0) (t : Text) :
    compose (c :: t) = composeBehind c [] t :=
  if_pos hc

theorem compose_cons_of_mark (hc : combiningClass c ≠ 0) (t : Text) :
    compose (c :: t) = c :: compose t :=
  if_neg hc

@[simp] theorem composeBehind_nil (starter : Char) (marks : Text) :
    composeBehind starter marks [] = starter :: marks.reverse := rfl

/-- What one character does behind a starter: it joins the starter, or begins anew, or waits
among the marks. What comes after it has no say in that. -/
theorem composeBehind_cons_cases (starter : Char) (marks : Text) (c : Char) :
    (∃ d, pair? starter c = some d ∧
      ∀ rest, composeBehind starter marks (c :: rest) = composeBehind d marks rest) ∨
    (combiningClass c = 0 ∧ ∀ rest, composeBehind starter marks (c :: rest) =
      starter :: marks.reverse ++ composeBehind c [] rest) ∨
    (combiningClass c ≠ 0 ∧ ∀ rest, composeBehind starter marks (c :: rest) =
      composeBehind starter (c :: marks) rest) := by
  by_cases hreach : ∀ m ∈ marks.head?, combiningClass m < combiningClass c
  · cases hpair : pair? starter c with
    | some d => exact .inl ⟨d, rfl, fun rest => by cases marks <;> simp_all [composeBehind]⟩
    | none =>
        by_cases hzero : combiningClass c = 0
        · exact .inr (.inl ⟨hzero, fun rest => by simp [composeBehind, hpair, hzero]⟩)
        · exact .inr (.inr ⟨hzero, fun rest => by simp [composeBehind, hpair, hzero]⟩)
  · obtain ⟨m, marks, rfl⟩ : ∃ m rest, marks = m :: rest := by
      cases marks <;> simp_all
    have hstays : ¬combiningClass m < combiningClass c := by simpa using hreach
    by_cases hzero : combiningClass c = 0
    · exact .inr (.inl ⟨hzero, fun rest => by simp [composeBehind, hzero]⟩)
    · exact .inr (.inr ⟨hzero, fun rest => by simp [composeBehind, hstays, hzero]⟩)

/-- A starter that is composed with nothing in front begins anew. -/
theorem composeBehind_cons_of_starter (hc : combiningClass c = 0)
    (hfirst : ∀ b, pair? b c = none) (starter : Char) (marks rest : Text) :
    composeBehind starter marks (c :: rest) =
      starter :: marks.reverse ++ compose (c :: rest) := by
  rcases composeBehind_cons_cases starter marks c with ⟨d, hd, -⟩ | ⟨-, h⟩ | ⟨hmark, -⟩
  · rw [hfirst] at hd
    cases hd
  · rw [h, compose_cons_of_starter hc]
  · exact absurd hc hmark

theorem composeBehind_append_cons (hc : combiningClass c = 0) (hfirst : ∀ b, pair? b c = none)
    (starter : Char) (marks s t : Text) :
    composeBehind starter marks (s ++ c :: t) =
      composeBehind starter marks s ++ compose (c :: t) := by
  induction s generalizing starter marks with
  | nil => rw [List.nil_append, composeBehind_cons_of_starter hc hfirst, composeBehind_nil]
  | cons e s ih =>
      rw [List.cons_append]
      rcases composeBehind_cons_cases starter marks e with ⟨d, -, h⟩ | ⟨-, h⟩ | ⟨-, h⟩
      · rw [h, h, ih]
      · rw [h, h, ih, List.append_assoc]
      · rw [h, h, ih]

/-- What stands in front of a starter that is composed with nothing in front is composed
apart. -/
theorem compose_append_cons (hc : combiningClass c = 0) (hfirst : ∀ b, pair? b c = none)
    (s t : Text) : compose (s ++ c :: t) = compose s ++ compose (c :: t) := by
  induction s with
  | nil => rfl
  | cons e s ih =>
      rw [List.cons_append]
      by_cases hzero : combiningClass e = 0
      · simp only [compose_cons_of_starter hzero, composeBehind_append_cons hc hfirst]
      · simp only [compose_cons_of_mark hzero, ih, List.cons_append]

/-- A starter that takes up nothing leaves what follows as it would be without it. -/
theorem composeBehind_eq (hsecond : ∀ b, pair? starter b = none) (marks t : Text) :
    composeBehind starter marks t = starter :: marks.reverse ++ compose t := by
  induction t generalizing marks with
  | nil => simp
  | cons c t ih =>
      rcases composeBehind_cons_cases starter marks c
        with ⟨d, hd, -⟩ | ⟨hzero, h⟩ | ⟨hzero, h⟩
      · rw [hsecond] at hd
        cases hd
      · rw [h, compose_cons_of_starter hzero]
      · rw [h, ih, compose_cons_of_mark hzero]
        simp

theorem composeBehind_ne_nil (starter : Char) (marks t : Text) :
    composeBehind starter marks t ≠ [] := by
  induction t generalizing starter marks with
  | nil => simp
  | cons c t ih =>
      rcases composeBehind_cons_cases starter marks c with ⟨d, -, h⟩ | ⟨-, h⟩ | ⟨-, h⟩
      · exact h t ▸ ih d marks
      · simp [h]
      · exact h t ▸ ih starter (c :: marks)

theorem compose_eq_nil_iff : compose t = [] ↔ t = [] := by
  cases t with
  | nil => simp
  | cons c t =>
      by_cases hzero : combiningClass c = 0
      · simp [compose_cons_of_starter hzero, composeBehind_ne_nil]
      · simp [compose_cons_of_mark hzero]

/-- Composition adds no characters but the composed ones. -/
theorem forall_mem_composeBehind {p : Char → Prop} (hpair : ∀ a b d, pair? a b = some d → p d)
    (hstarter : p starter) (hmarks : ∀ c ∈ marks, p c) (ht : ∀ c ∈ t, p c) :
    ∀ c ∈ composeBehind starter marks t, p c := by
  have hwaiting {starter : Char} {marks : Text} (hstarter : p starter)
      (hmarks : ∀ c ∈ marks, p c) :
      ∀ c ∈ starter :: marks.reverse, p c := by
    simpa using ⟨hstarter, hmarks⟩
  induction t generalizing starter marks with
  | nil => simpa using hwaiting hstarter hmarks
  | cons e t ih =>
      obtain ⟨he, ht⟩ := List.forall_mem_cons.mp ht
      rcases composeBehind_cons_cases starter marks e with ⟨d, hd, h⟩ | ⟨-, h⟩ | ⟨-, h⟩
      · exact h t ▸ ih (hpair _ _ _ hd) hmarks ht
      · rw [h]
        exact List.forall_mem_append.mpr ⟨hwaiting hstarter hmarks, ih he (by simp) ht⟩
      · exact h t ▸ ih hstarter (List.forall_mem_cons.mpr ⟨he, hmarks⟩) ht

theorem forall_mem_compose {p : Char → Prop} (hpair : ∀ a b d, pair? a b = some d → p d)
    (ht : ∀ c ∈ t, p c) : ∀ c ∈ compose t, p c := by
  induction t with
  | nil => simp
  | cons e t ih =>
      obtain ⟨he, ht⟩ := List.forall_mem_cons.mp ht
      by_cases hzero : combiningClass e = 0
      · rw [compose_cons_of_starter hzero]
        exact forall_mem_composeBehind hpair he (by simp) ht
      · rw [compose_cons_of_mark hzero]
        exact List.forall_mem_cons.mpr ⟨he, ih ht⟩

/-! ## The composed form of a text -/

theorem parts_ne_nil (rounds n : Nat) : parts rounds n ≠ [] := by
  induction rounds generalizing n with
  | zero => simp [parts]
  | succ rounds ih =>
      rw [parts]
      split
      · exact List.append_ne_nil_of_left_ne_nil (ih _) _
      · exact List.cons_ne_nil _ _

theorem decomposition_ne_nil (c : Char) : decomposition c ≠ [] := by
  unfold decomposition hangulLetters
  split
  · split <;> exact List.cons_ne_nil _ _
  · exact parts_ne_nil _ _

@[simp] theorem composed_nil : composed [] = [] := rfl

/-- No text is lost as a whole. -/
theorem composed_eq_nil_iff : composed t = [] ↔ t = [] := by
  have hordered (u : Text) : ordered u = [] ↔ u = [] := by
    simp only [List.eq_nil_iff_forall_not_mem, mem_ordered]
  rw [composed, compose_eq_nil_iff, hordered, List.flatMap_eq_nil_iff]
  constructor
  · intro h
    exact List.eq_nil_iff_forall_not_mem.mpr fun c hc => decomposition_ne_nil c (h c hc)
  · rintro rfl
    simp

/-- Composition keeps to what the characters are taken apart to and to composed ones. -/
theorem forall_mem_composed {p : Char → Prop} (hpair : ∀ a b d, pair? a b = some d → p d)
    (ht : ∀ c ∈ t, ∀ d ∈ decomposition c, p d) : ∀ c ∈ composed t, p c := by
  refine forall_mem_compose hpair fun d hd => ?_
  obtain ⟨c, hc, hd⟩ := List.mem_flatMap.mp (mem_ordered.mp hd)
  exact ht c hc d hd

/-- Nothing in front of the character is composed with it, and no mark moves past it. -/
def BeginsAnew (c : Char) : Prop :=
  ∃ d rest, decomposition c = d :: rest ∧ combiningClass d = 0 ∧ ∀ b, pair? b d = none

/-- The character is composed with nothing, neither in front nor behind. -/
def StandsAlone (c : Char) : Prop :=
  ∃ d, decomposition c = [d] ∧ combiningClass d = 0 ∧ ∀ b, pair? b d = none ∧ pair? d b = none

theorem StandsAlone.beginsAnew (h : StandsAlone c) : BeginsAnew c := by
  obtain ⟨d, hd, hzero, hpair⟩ := h
  exact ⟨d, [], hd, hzero, fun b => (hpair b).1⟩

/-- A text may be cut in front of a character that begins anew. -/
theorem composed_append_of_head? (hv : ∀ c ∈ v.head?, BeginsAnew c) (u : Text) :
    composed (u ++ v) = composed u ++ composed v := by
  cases v with
  | nil => simp
  | cons c v =>
      obtain ⟨d, rest, hd, hzero, hfirst⟩ := hv c rfl
      simp [composed, hd, ordered_append_cons hzero, ordered_cons hzero,
        compose_append_cons hzero hfirst]

theorem StandsAlone.composed_cons (hc : StandsAlone c) (v : Text) :
    composed (c :: v) = composed [c] ++ composed v := by
  obtain ⟨d, hd, hzero, hpair⟩ := hc
  have hstart (t : Text) : compose (ordered (d :: t)) = d :: compose (ordered t) := by
    simp [ordered_cons hzero, compose_cons_of_starter hzero,
      composeBehind_eq fun b => (hpair b).2]
  simp [composed, hd, hstart]

/-- A text may be cut behind a character that stands alone. -/
theorem composed_append_of_getLast? (hu : ∀ c ∈ u.getLast?, StandsAlone c) (v : Text) :
    composed (u ++ v) = composed u ++ composed v := by
  rcases List.eq_nil_or_concat u with rfl | ⟨s, c, rfl⟩
  · simp
  · rw [List.concat_eq_append] at hu ⊢
    have hc : StandsAlone c := hu c (by simp)
    have hbegins (w : Text) : ∀ d ∈ (c :: w).head?, BeginsAnew d := by
      simpa using hc.beginsAnew
    calc composed (s ++ [c] ++ v)
        = composed s ++ composed (c :: v) := by
          rw [List.append_assoc, List.singleton_append, composed_append_of_head? (hbegins v)]
      _ = composed s ++ composed [c] ++ composed v := by
          rw [hc.composed_cons, List.append_assoc]
      _ = composed (s ++ [c]) ++ composed v := by rw [composed_append_of_head? (hbegins [])]

end ControlSearch.Text
