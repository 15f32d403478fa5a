import ControlSearch.Proofs.Pattern.Wildcard
import ControlSearch.Proofs.Regex.Run

/-!
# The threads of a wildcard spec

A run of a wildcard spec has threads that are suffixes of one another, the longest one first.
So what a stop makes the run give up is listed in front of the stop already, and no end is
lost.
-/
namespace ControlSearch

/-! ## Ordered lists -/

section Ordered
variable {α β : Type} {R : α → α → Prop}

/-- Whatever comes behind a member is related to it, or has come before it. -/
def Ordered (R : α → α → Prop) (xs : List α) : Prop :=
  ∀ front x back, xs = front ++ x :: back → ∀ y ∈ back, R x y ∨ y ∈ front

theorem ordered_nil : Ordered R [] := by
  intro front x back h
  simp at h

theorem Ordered.cons {x : α} {xs : List α} (h : Ordered R xs) (hx : ∀ y ∈ xs, R x y) :
    Ordered R (x :: xs) := by
  intro front z back hsplit y hy
  cases front with
  | nil =>
      obtain ⟨rfl, rfl⟩ := List.cons.inj hsplit
      exact .inl (hx y hy)
  | cons a front =>
      obtain ⟨rfl, rfl⟩ := List.cons.inj hsplit
      exact (h front z back rfl y hy).imp_right (List.mem_cons_of_mem _)

theorem Ordered.append {xs ys : List α} (hxs : Ordered R xs) (hys : Ordered R ys)
    (h : ∀ front x back, xs = front ++ x :: back → ∀ y ∈ ys, R x y ∨ y ∈ front) :
    Ordered R (xs ++ ys) := by
  intro front z back hsplit y hy
  rcases List.append_eq_append_iff.mp hsplit with ⟨as, rfl, hys'⟩ | ⟨bs, hxs', hback⟩
  · refine (hys as z back hys' y hy).imp_right fun h => List.mem_append_right _ h
  · cases bs with
    | nil =>
        have hys' : ys = [] ++ z :: back := by simpa using hback.symm
        refine (hys [] z back hys' y hy).imp_right ?_
        intro h
        simp at h
    | cons b bs =>
        obtain ⟨rfl, rfl⟩ := List.cons.inj hback
        rcases List.mem_append.mp hy with hy | hy
        · exact hxs front z bs hxs' y hy
        · exact h front z bs hxs' y hy

theorem Ordered.of_append {xs ys : List α} (h : Ordered R (xs ++ ys)) : Ordered R xs := by
  intro front z back hsplit y hy
  refine h front z (back ++ ys) (by simp [hsplit]) y (List.mem_append_left _ hy)

/-- What members lead to is ordered if related members lead to related ones. -/
theorem Ordered.filterMap {S : β → β → Prop} {f : α → Option β} {xs : List α}
    (h : Ordered R xs) (hf : ∀ x y, R x y → ∀ a ∈ f x, ∀ b ∈ f y, S a b) :
    Ordered S (xs.filterMap f) := by
  intro front a back hsplit b hb
  obtain ⟨as, rest, rfl, hfront, hrest⟩ := List.filterMap_eq_append_iff.mp hsplit
  obtain ⟨skipped, x, bs, rfl, hskipped, hx, hbs⟩ := List.filterMap_eq_cons_iff.mp hrest
  subst hfront hbs
  obtain ⟨y, hy, hyb⟩ := List.mem_filterMap.mp hb
  rcases h (as ++ skipped) x bs (by simp) y hy with hxy | hmem
  · exact .inl (hf x y hxy a hx b hyb)
  · refine .inr ?_
    rcases List.mem_append.mp hmem with hmem | hmem
    · exact List.mem_filterMap.mpr ⟨y, hmem, hyb⟩
    · rw [hskipped y hmem] at hyb
      cases hyb

end Ordered

namespace Regex

/-- Once repeated expressions are left out, all that come later are related to the earlier
ones. -/
theorem pairwise_distinctFrom {R : Regex → Regex → Prop} {seen : Std.HashSet (Weighed Regex)}
    {rs : List Regex} (h : ∀ front r back, rs = front ++ r :: back → ∀ s ∈ back,
      R r s ∨ s ∈ front ∨ s.weighed ∈ seen) : (distinctFrom seen rs).Pairwise R := by
  induction rs generalizing seen with
  | nil => exact .nil
  | cons r rs ih =>
      simp only [distinctFrom]
      split
      · rename_i hr
        refine ih ?_
        intro front a back hsplit s hs
        subst hsplit
        rcases h (r :: front) a back rfl s hs with h | h | h
        · exact .inl h
        · rcases List.mem_cons.mp h with rfl | h
          · exact .inr (.inr hr)
          · exact .inr (.inl h)
        · exact .inr (.inr h)
      · refine .cons (fun s hs => ?_) (ih fun front a back hsplit s hs => ?_)
        · obtain ⟨hs, hseen⟩ := (mem_distinctFrom s _ rs).mp hs
          rcases h [] r rs rfl s hs with h | h | h
          · exact h
          · simp at h
          · exact absurd (Std.HashSet.mem_insert.mpr (.inr h)) hseen
        · subst hsplit
          rcases h (r :: front) a back rfl s hs with h | h | h
          · exact .inl h
          · rcases List.mem_cons.mp h with rfl | h
            · exact .inr (.inr (Std.HashSet.mem_insert.mpr (.inl (by simp))))
            · exact .inr (.inl h)
          · exact .inr (.inr (Std.HashSet.mem_insert.mpr (.inr h)))

theorem pairwise_distinct {R : Regex → Regex → Prop} {rs : List Regex} (h : Ordered R rs) :
    (distinct rs).Pairwise R := by
  unfold distinct
  split
  · exact .nil
  · exact List.pairwise_singleton _ _
  · exact pairwise_distinctFrom fun front r back hsplit s hs =>
      (h front r back hsplit s hs).imp_right .inl

/-- The list of first steps ends with the first stop. -/
theorem untilAccept_append {steps : List Branch} (h : .accept ∉ steps) (more : List Branch) :
    untilAccept (steps ++ .accept :: more) = steps ++ [.accept] := by
  induction steps with
  | nil => rfl
  | cons b steps ih =>
      obtain ⟨hb, hsteps⟩ := not_or.mp (mt List.mem_cons.mpr h)
      cases b with
      | accept => exact absurd rfl hb
      | consume chars left =>
          rw [List.cons_append, untilAccept_consume, ih hsteps, List.cons_append]

theorem untilAccept_eq_self {steps : List Branch} (h : .accept ∉ steps) :
    untilAccept steps = steps := by
  induction steps with
  | nil => rfl
  | cons b steps ih =>
      obtain ⟨hb, hsteps⟩ := not_or.mp (mt List.mem_cons.mpr h)
      cases b with
      | accept => exact absurd rfl hb
      | consume chars left => rw [untilAccept_consume, ih hsteps]

/-- The steps up to the first stop are all steps, or those in front of a stop and the stop. -/
theorem untilAccept_cases (steps : List Branch) :
    untilAccept steps = steps ∨ ∃ front back, steps = front ++ .accept :: back ∧
      untilAccept steps = front ++ [.accept] := by
  by_cases h : .accept ∈ steps
  · obtain ⟨front, back, rfl, hfront⟩ := List.eq_append_cons_of_mem h
    exact .inr ⟨front, back, rfl, untilAccept_append hfront back⟩
  · exact .inl (untilAccept_eq_self h)

end Regex

namespace Wildcard
open Regex

variable {dotNewLine : Bool}

/-! ## The first steps of a spec -/

/-- The first steps of some parts. -/
def follow (dotNewLine : Bool) : List Wildcard → List Branch
  | [] => [.accept]
  | .char c :: parts => [.consume (.singleton c) (expression dotNewLine parts)]
  | .anyChar :: parts => [.consume (anyChars dotNewLine) (expression dotNewLine parts)]
  | .anyRun :: parts =>
    .consume (anyChars dotNewLine) (expression dotNewLine (.anyRun :: parts)) ::
      follow dotNewLine parts

theorem hasContent_anyChars (dotNewLine : Bool) :
    (Regex.set (anyChars dotNewLine)).hasContent = true :=
  hasContent_set (proper_anyChars dotNewLine)
    ((contains_anyChars dotNewLine 'a').mpr (.inr (by decide)))

theorem mayCircle_ofMembers {rs : List Regex} (h : ∀ r ∈ rs, r.mayCircle = false) :
    (ofMembers rs).mayCircle = false := by
  induction rs with
  | nil => rfl
  | cons r rs ih =>
      obtain ⟨hr, hrs⟩ := List.forall_mem_cons.mp h
      cases rs with
      | nil => exact hr
      | cons s rs => exact Bool.or_eq_false_iff.mpr ⟨hr, ih hrs⟩

theorem mayCircle_expression (parts : List Wildcard) :
    (expression dotNewLine parts).mayCircle = false := by
  refine mayCircle_ofMembers ?_
  intro r hr
  obtain ⟨p, -, rfl⟩ := List.mem_map.mp hr
  cases p with
  | char c => rfl
  | anyChar => rfl
  | anyRun => simp [regex, mayCircle, hasContent_anyChars]

theorem branches_expression (place : Place) (parts : List Wildcard) :
    (expression dotNewLine parts).branches place = follow dotNewLine parts := by
  rw [branches, if_neg (by simp [mayCircle_expression])]
  induction parts with
  | nil => rfl
  | cons p parts ih =>
      cases parts with
      | nil =>
          cases p <;> simp [expression, ofMembers, regex, Regex.char,
            plainBranches, roundSteps, follow, Branch.andThen, Regex.andThen]
      | cons q parts =>
          rw [expression_cons_cons, plainBranches, Branch.chain_eq, ih]
          cases p <;> simp [regex, Regex.char, plainBranches, roundSteps, follow,
            Branch.andThen, Regex.andThen, expression_cons_cons]

/-! ## Suffixes -/

/-- One expression is left of another when parts are taken off its front. -/
def Suffix (dotNewLine : Bool) (r s : Regex) : Prop :=
  ∃ parts rest, r = expression dotNewLine parts ∧ s = expression dotNewLine rest ∧
  rest <:+ parts

/-- A step need not be given up for another: that one is a stop, or leaves a suffix. -/
inductive Precedes (dotNewLine : Bool) : Branch → Branch → Prop
  | accept (b : Branch) : Precedes dotNewLine b .accept
  | consume {r s : Regex} (chars chars' : CharSet) : Suffix dotNewLine r s →
      Precedes dotNewLine (.consume chars r) (.consume chars' s)

/-- A step of some parts stops, or leaves a suffix of them. -/
theorem precedes_of_mem_follow {parts rest : List Wildcard} {b : Branch}
    (hb : b ∈ follow dotNewLine rest) (h : rest <:+ parts) (chars : CharSet) :
    Precedes dotNewLine (.consume chars (expression dotNewLine parts)) b := by
  induction rest with
  | nil =>
      obtain rfl := List.mem_singleton.mp hb
      exact .accept _
  | cons p rest ih =>
      have hrest : rest <:+ parts := (List.suffix_cons p rest).trans h
      cases p with
      | char c =>
          obtain rfl := List.mem_singleton.mp hb
          exact .consume _ _ ⟨parts, rest, rfl, rfl, hrest⟩
      | anyChar =>
          obtain rfl := List.mem_singleton.mp hb
          exact .consume _ _ ⟨parts, rest, rfl, rfl, hrest⟩
      | anyRun =>
          rcases List.mem_cons.mp hb with rfl | hb
          · exact .consume _ _ ⟨parts, .anyRun :: rest, rfl, rfl, h⟩
          · exact ih hb hrest

/-- The only step of parts that begin with a character leaves what no suffix exceeds. -/
theorem precedes_of_mem_follow_cons {p : Wildcard} {parts rest : List Wildcard} {b : Branch}
    (hb : b ∈ follow dotNewLine rest) (h : rest <:+ p :: parts) (hp : p ≠ .anyRun)
    (chars : CharSet) :
    Precedes dotNewLine (.consume chars (expression dotNewLine parts)) b := by
  rcases List.suffix_cons_iff.mp h with rfl | h
  · cases p with
    | char c =>
        obtain rfl := List.mem_singleton.mp hb
        exact .consume _ _ ⟨parts, parts, rfl, rfl, List.suffix_refl _⟩
    | anyChar =>
        obtain rfl := List.mem_singleton.mp hb
        exact .consume _ _ ⟨parts, parts, rfl, rfl, List.suffix_refl _⟩
    | anyRun => exact absurd rfl hp
  · exact precedes_of_mem_follow hb h chars

/-- The steps of a suffix come behind the steps of the whole, or among them. -/
theorem precedes_or_mem_of_suffix {parts rest : List Wildcard} (h : rest <:+ parts)
    {front back : List Branch} {x y : Branch}
    (hx : follow dotNewLine parts = front ++ x :: back) (hy : y ∈ follow dotNewLine rest) :
    Precedes dotNewLine x y ∨ y ∈ front := by
  induction parts generalizing front rest with
  | nil =>
      obtain rfl := List.suffix_nil.mp h
      obtain rfl := List.mem_singleton.mp hy
      exact .inl (.accept x)
  | cons p parts ih =>
      cases front with
      | nil =>
          refine .inl ?_
          cases p with
          | char c =>
              obtain ⟨rfl, -⟩ := List.cons.inj hx
              exact precedes_of_mem_follow_cons hy h (by simp) _
          | anyChar =>
              obtain ⟨rfl, -⟩ := List.cons.inj hx
              exact precedes_of_mem_follow_cons hy h (by simp) _
          | anyRun =>
              obtain ⟨rfl, -⟩ := List.cons.inj hx
              exact precedes_of_mem_follow hy h _
      | cons a front =>
          cases p with
          | char c => simp [follow] at hx
          | anyChar => simp [follow] at hx
          | anyRun =>
              obtain ⟨rfl, htail⟩ := List.cons.inj hx
              have hrest {rest : List Wildcard} (h : rest <:+ parts)
                  (hy : y ∈ follow dotNewLine rest) : Precedes dotNewLine x y ∨
                    y ∈ .consume (anyChars dotNewLine)
                      (expression dotNewLine (.anyRun :: parts)) ::
                      front := by
                exact (ih h htail hy).imp_right (List.mem_cons_of_mem _)
              rcases List.suffix_cons_iff.mp h with rfl | h
              · rcases List.mem_cons.mp hy with rfl | hy
                · exact .inr List.mem_cons_self
                · exact hrest (List.suffix_refl _) hy
              · exact hrest h hy

theorem ordered_follow (parts : List Wildcard) :
    Ordered (Precedes dotNewLine) (follow dotNewLine parts) := by
  intro front x back hx y hy
  refine precedes_or_mem_of_suffix (List.suffix_refl parts) hx ?_
  rw [hx]
  exact List.mem_append_right _ (List.mem_cons_of_mem _ hy)

/-! ## Runs -/

/-- The threads of a run are expressions of parts, each a suffix of those in front of it. -/
structure Descending (dotNewLine : Bool) (threads : List Regex) : Prop where
  eq_expression : ∀ r ∈ threads, ∃ parts, r = expression dotNewLine parts
  pairwise : threads.Pairwise (Suffix dotNewLine)

theorem descending_singleton (parts : List Wildcard) :
    Descending dotNewLine [expression dotNewLine parts] :=
  ⟨List.forall_mem_singleton.mpr ⟨parts, rfl⟩, List.pairwise_singleton _ _⟩

variable {threads : List Regex}

theorem Descending.tail {r : Regex} (h : Descending dotNewLine (r :: threads)) :
    Descending dotNewLine threads :=
  ⟨(List.forall_mem_cons.mp h.eq_expression).2, (List.pairwise_cons.mp h.pairwise).2⟩

theorem Descending.ordered (h : Descending dotNewLine threads) (place : Place) :
    Ordered (Precedes dotNewLine) (threads.flatMap (branches place)) := by
  induction threads with
  | nil => exact ordered_nil
  | cons r threads ih =>
      obtain ⟨parts, rfl⟩ := h.eq_expression r List.mem_cons_self
      rw [List.flatMap_cons]
      refine .append ?_ (ih h.tail) ?_
      · rw [branches_expression]
        exact ordered_follow parts
      · intro front x back hx y hy
        obtain ⟨s, hs, hy⟩ := List.mem_flatMap.mp hy
        obtain ⟨whole, rest, hr, rfl, hsuffix⟩ := (List.pairwise_cons.mp h.pairwise).1 s hs
        rw [hr, branches_expression] at hx
        rw [branches_expression] at hy
        exact precedes_or_mem_of_suffix hsuffix hx hy

/-- Nothing is given up that is not listed already. -/
theorem Descending.mem_steps (h : Descending dotNewLine threads) {place : Place} {b : Branch}
    (hb : b ∈ threads.flatMap (branches place)) : b ∈ steps place threads := by
  rw [steps]
  rcases untilAccept_cases (threads.flatMap (branches place))
    with heq | ⟨front, back, heq, hcut⟩
  · rwa [heq]
  · rw [hcut]
    rw [heq] at hb
    rcases List.mem_append.mp hb with hb | hb
    · exact List.mem_append_left _ hb
    · rcases List.mem_cons.mp hb with rfl | hb
      · exact List.mem_append_right _ (List.mem_singleton_self _)
      · rcases h.ordered place front .accept back heq b hb with hp | hmem
        · cases hp
          exact List.mem_append_right _ (List.mem_singleton_self _)
        · exact List.mem_append_left _ hmem

theorem Descending.ordered_steps (h : Descending dotNewLine threads) (place : Place) :
    Ordered (Precedes dotNewLine) (steps place threads) := by
  rw [steps]
  rcases untilAccept_cases (threads.flatMap (branches place))
    with heq | ⟨front, back, heq, hcut⟩
  · rw [heq]
    exact h.ordered place
  · rw [hcut]
    have := h.ordered place
    rw [heq, ← List.singleton_append, ← List.append_assoc] at this
    exact this.of_append

theorem Descending.advance (h : Descending dotNewLine threads) (place : Place) (c : Char) :
    Descending dotNewLine (advance c (steps place threads)) := by
  constructor
  · intro left hleft
    obtain ⟨chars, hb, -⟩ := mem_advance_iff.mp hleft
    obtain ⟨r, hr, hb⟩ := List.mem_flatMap.mp (mem_of_mem_untilAccept hb)
    obtain ⟨parts, rfl⟩ := h.eq_expression r hr
    rw [branches_expression] at hb
    cases precedes_of_mem_follow hb (List.suffix_refl parts) chars with
    | consume _ _ hsuffix =>
        obtain ⟨-, rest, -, rfl, -⟩ := hsuffix
        exact ⟨rest, rfl⟩
  · rw [advance_eq]
    refine pairwise_distinct ((h.ordered_steps place).filterMap ?_)
    intro x y hxy r hr s hs
    obtain ⟨chars, rfl, -⟩ := Branch.after_eq_some_iff.mp hr
    obtain ⟨chars', rfl, -⟩ := Branch.after_eq_some_iff.mp hs
    cases hxy with
    | consume _ _ hsuffix => exact hsuffix

/-- The ends of a spec at a boundary are the ends of all texts there that its parts stand
for. -/
theorem mem_ends_iff {parts : List Wildcard} {b : Text.Boundary} {e : Nat} :
    e ∈ (expression dotNewLine parts).ends b ↔
      ∃ u v, b.rest = u ++ v ∧ e = b.offset + u.size ∧ Accepts dotNewLine parts u := by
  constructor
  · intro h
    obtain ⟨r, hr, u, v, hrest, he, hl⟩ := language_of_mem_endsFrom h
    obtain rfl := List.mem_singleton.mp hr
    exact ⟨u, v, hrest, he, language_expression.mp hl⟩
  · intro h'
    rcases h' with ⟨u, v, hrest, rfl, hu⟩
    rw [ends, hrest]
    exact mem_endsFrom_of_language (fun _ _ _ h hb => h.mem_steps hb)
      (fun _ place c h => h.advance place c) (descending_singleton parts)
      (List.mem_singleton_self _) (language_expression.mpr hu)

end Wildcard
end ControlSearch
