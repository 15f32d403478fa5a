import ControlSearch.Proofs.Regex.Opening

/-!
# The walk lists all first steps

A walk opens one expression after the other and never the same one twice. No more expressions
can turn up than `extent` allows for, so a walk is never cut short. Therefore the first steps
that it lists accept what the expression does, also where a way leads back.
-/
namespace ControlSearch.Regex

variable {place : Place}

/-! ## The expressions that can turn up -/

/-- What is left of a repetition after some rounds, required ones first. -/
def roundsLeft (body : Regex) (least : Nat) (most : Option Nat) (eager : Bool) (i : Nat) :
    Regex :=
  rounds body (least - i) (most.map (· - i)) eager

/-- The number of rounds behind which a repetition stays the same. -/
def lastRound (least : Nat) (most : Option Nat) : Nat := max least (most.getD least)

/-- Every expression that opening can come across, the empty one apart. -/
def stages : Regex → List Regex
  | empty => []
  | set chars => [set chars]
  | look assertion => [look assertion]
  | cat a b => cat a b :: (a.stages.map (·.andThen b) ++ b.stages)
  | alt a b => alt a b :: (a.stages ++ b.stages)
  | group number body => group number body :: body.stages
  | rounds body least most eager =>
    (List.range (lastRound least most + 1)).flatMap fun i =>
      roundsLeft body least most eager i ::
        body.stages.map (·.andThen (roundsLeft body least most eager (i + 1)))

theorem length_stages_le (r : Regex) : r.stages.length ≤ r.extent := by
  induction r with
  | empty | set _ | look _ => simp [stages, extent]
  | group _ _ ih => simpa [stages, extent] using ih
  | cat a b iha ihb | alt a b iha ihb =>
      simp only [stages, extent, List.length_cons, List.length_append, List.length_map]
      omega
  | rounds body least most eager ih =>
      simp only [stages, extent, List.length_flatMap, List.length_cons, List.length_map,
        List.map_const', List.length_range, List.sum_replicate_nat, lastRound]
      have := Nat.mul_le_mul_left (max least (most.getD least) + 1)
        (Nat.add_le_add_right ih 1)
      rw [Nat.mul_comm (body.extent + 1)]
      omega

/-- The empty expression, or one of those that can turn up. -/
def Within (r s : Regex) : Prop := s ∈ r.stages ∨ s = empty

theorem roundsLeft_of_le {body : Regex} {least : Nat} {most : Option Nat}
    {eager : Bool} {i : Nat} (h : lastRound least most ≤ i) :
    roundsLeft body least most eager i =
      roundsLeft body least most eager (lastRound least most) := by
  unfold roundsLeft
  unfold lastRound at h ⊢
  cases most with
  | none => simp at h ⊢; omega
  | some m => simp at h ⊢; omega

/-- However many rounds are done, the repetition looks as it does behind one of the first. -/
theorem exists_roundsLeft_eq (body : Regex) (least : Nat) (most : Option Nat) (eager : Bool)
    (i : Nat) : ∃ j ≤ lastRound least most,
      roundsLeft body least most eager i = roundsLeft body least most eager j := by
  by_cases h : i ≤ lastRound least most
  · exact ⟨i, h, rfl⟩
  · exact ⟨_, Nat.le_refl _, roundsLeft_of_le (by omega)⟩

theorem Within.roundsLeft (body : Regex) (least : Nat) (most : Option Nat)
    (eager : Bool) (i : Nat) :
    Within (rounds body least most eager) (roundsLeft body least most eager i) := by
  obtain ⟨j, hj, he⟩ := exists_roundsLeft_eq body least most eager i
  rw [he]
  exact .inl (List.mem_flatMap.mpr
    ⟨j, List.mem_range.mpr (Nat.lt_succ_of_le hj), List.mem_cons_self⟩)

theorem Within.self (r : Regex) : Within r r := by
  cases r with
  | empty => exact .inr rfl
  | rounds body least most eager =>
      simpa [Regex.roundsLeft] using Within.roundsLeft body least most eager 0
  | _ => exact .inl (by simp [stages])

theorem Within.cat {a b s : Regex} (h : Within a s) : Within (cat a b) (s.andThen b) := by
  rcases h with h | rfl
  · refine .inl (List.mem_cons_of_mem _ (List.mem_append_left _ ?_))
    exact List.mem_map_of_mem h
  · rcases Within.self b with h | h
    · exact .inl (by simp [stages, Regex.andThen, h])
    · exact .inr h

theorem Within.round {body s : Regex} (least : Nat) (most : Option Nat) (eager : Bool)
    (h : Within body s) {i : Nat} (hi : i ≤ lastRound least most) :
    Within (rounds body least most eager)
      (s.andThen (Regex.roundsLeft body least most eager (i + 1))) := by
  rcases h with h | rfl
  · refine .inl (List.mem_flatMap.mpr ⟨i, List.mem_range.mpr (by omega), ?_⟩)
    exact List.mem_cons_of_mem _ (List.mem_map_of_mem h)
  · exact Within.roundsLeft body least most eager (i + 1)

theorem mem_next_opening_andThen {a b s : Regex}
    (h : s ∈ ((a.andThen b).opening place).next) :
    (a = empty ∧ s ∈ (b.opening place).next) ∨ s = b ∨
      ∃ m ∈ (a.opening place).next, s = m.andThen b := by
  by_cases ha : a = empty
  · subst ha
    exact .inl ⟨rfl, h⟩
  · rw [opening_andThen ha] at h
    exact .inr (Opening.mem_next_andThen h)

@[simp] theorem not_mem_next_opening_empty {s : Regex} : s ∉ (empty.opening place).next :=
  List.not_mem_nil

/-- What is opened to something else can turn up itself. -/
theorem mem_stages_self {r s : Regex} (h : s ∈ (r.opening place).next) : r ∈ r.stages := by
  refine (Within.self r).resolve_right ?_
  intro hr
  subst hr
  exact not_mem_next_opening_empty h

/-- A repetition opens to nothing or to its body, whatever rounds are left. -/
theorem within_of_mem_next_roundsLeft {body s : Regex} {least : Nat} {most : Option Nat}
    {eager : Bool} {i : Nat}
    (h : s ∈ ((roundsLeft body least most eager i).opening place).next) :
    Within (rounds body least most eager) s := by
  obtain ⟨j, hj, he⟩ := exists_roundsLeft_eq body least most eager i
  rw [he] at h
  rcases mem_next_opening_rounds h with rfl | rfl
  · exact .inr rfl
  · have hnext : rounds body (least - j - 1) ((most.map (· - j)).map (· - 1)) eager =
        roundsLeft body least most eager (j + 1) := by
      unfold roundsLeft
      rw [Option.map_map]
      rfl
    rw [hnext]
    exact (Within.self body).round least most eager hj

/-- Whatever can turn up opens to what can turn up. -/
theorem within_of_mem_next {r q s : Regex} (hq : q ∈ r.stages)
    (hs : s ∈ (q.opening place).next) :
    Within r s := by
  induction r generalizing q s with
  | empty => exact absurd hq List.not_mem_nil
  | set chars =>
      obtain rfl := List.mem_singleton.mp hq
      simp [opening, Opening.next] at hs
  | look assertion =>
      obtain rfl := List.mem_singleton.mp hq
      simp only [opening, Opening.next] at hs
      split at hs
      · exact .inr (List.mem_singleton.mp hs)
      · simp at hs
  | group number body ih =>
      have lift {m : Regex} (h : Within body m) : Within (group number body) m :=
        h.imp_left (List.mem_cons_of_mem _)
      rcases List.mem_cons.mp hq with rfl | hq
      · obtain rfl := List.mem_singleton.mp hs
        exact lift (.self _)
      · exact lift (ih hq hs)
  | alt a b iha ihb =>
      have liftLeft {m : Regex} (h : Within a m) : Within (alt a b) m :=
        h.imp_left fun h => List.mem_cons_of_mem _ (List.mem_append_left _ h)
      have liftRight {m : Regex} (h : Within b m) : Within (alt a b) m :=
        h.imp_left fun h => List.mem_cons_of_mem _ (List.mem_append_right _ h)
      simp only [stages, List.mem_cons, List.mem_append] at hq
      rcases hq with rfl | hq | hq
      · simp only [opening, Opening.next, List.mem_cons, List.not_mem_nil, or_false] at hs
        rcases hs with rfl | rfl
        · exact liftLeft (.self _)
        · exact liftRight (.self _)
      · exact liftLeft (iha hq hs)
      · exact liftRight (ihb hq hs)
  | cat a b iha ihb =>
      have lift {m : Regex} (h : Within b m) : Within (cat a b) m :=
        h.imp_left fun h => List.mem_cons_of_mem _ (List.mem_append_right _ h)
      simp only [stages, List.mem_cons, List.mem_append, List.mem_map] at hq
      rcases hq with rfl | ⟨m, hm, rfl⟩ | hq
      · rcases Opening.mem_next_andThen hs with rfl | ⟨m, hm, rfl⟩
        · exact lift (.self _)
        · exact (iha (mem_stages_self hm) hm).cat
      · rcases mem_next_opening_andThen hs with ⟨-, hs⟩ | rfl | ⟨n, hn, rfl⟩
        · exact lift (ihb (mem_stages_self hs) hs)
        · exact lift (.self _)
        · exact (iha hm hn).cat
      · exact lift (ihb hq hs)
  | rounds body least most eager ih =>
      obtain ⟨i, hi, hq⟩ := List.mem_flatMap.mp hq
      have hi : i ≤ lastRound least most := Nat.lt_succ_iff.mp (List.mem_range.mp hi)
      rcases List.mem_cons.mp hq with rfl | hq
      · exact within_of_mem_next_roundsLeft hs
      · obtain ⟨m, hm, rfl⟩ := List.mem_map.mp hq
        rcases mem_next_opening_andThen hs with ⟨-, hs⟩ | rfl | ⟨n, hn, rfl⟩
        · exact within_of_mem_next_roundsLeft hs
        · exact .roundsLeft body least most eager (i + 1)
        · exact (ih hm hn).round least most eager hi

theorem Within.next {r q s : Regex} (hq : Within r q) (hs : s ∈ (q.opening place).next) :
    Within r s := by
  rcases hq with hq | rfl
  · exact within_of_mem_next hq hs
  · exact absurd hs not_mem_next_opening_empty

/-! ## Walking -/

/-- A way from one expression to another on which nothing stands that was passed before. -/
inductive Way (place : Place) (passed : List Regex) : Regex → Regex → Prop
  | refl {r : Regex} : r ∉ passed → Way place passed r r
  | step {r s q : Regex} : r ∉ passed → s ∈ (r.opening place).next → Way place passed s q →
      Way place passed r q

theorem Leads.way {r q : Regex} (h : Leads place r q) : Way place [] r q := by
  induction h with
  | refl => exact .refl List.not_mem_nil
  | step hs _ ih => exact .step List.not_mem_nil hs ih

theorem Way.not_mem {passed : List Regex} {r q : Regex} (h : Way place passed r q) :
    r ∉ passed := by
  cases h <;> assumption

/-- When an expression is passed, a way goes around it, or ends there, or the part behind it
is left. -/
theorem Way.pass {passed : List Regex} {r q : Regex} (h : Way place passed r q) (p : Regex) :
    Way place (p :: passed) r q ∨ q = p ∨
      ∃ s ∈ (p.opening place).next, Way place (p :: passed) s q := by
  induction h with
  | @refl r hr =>
      by_cases hp : r = p
      · exact .inr (.inl hp)
      · exact .inl (.refl (by simp [hp, hr]))
  | @step r s q hr hs _ ih =>
      rcases ih with h | h | h
      · by_cases hp : r = p
        · exact .inr (.inr ⟨s, hp ▸ hs, h⟩)
        · exact .inl (.step (by simp [hp, hr]) hs h)
      · exact .inr (.inl h)
      · exact .inr (.inr h)

theorem length_filter_pass {all passed : List Regex} {r : Regex} (hr : r ∈ all)
    (h : r ∉ passed) :
    (all.filter (· ∉ r :: passed)).length < (all.filter (· ∉ passed)).length := by
  have hsplit : all.filter (· ∉ r :: passed) = (all.filter (· ∉ passed)).filter (· ≠ r) := by
    rw [List.filter_filter]
    exact List.filter_congr fun a _ => by simp
  rw [hsplit]
  exact List.length_filter_lt_length_iff_exists.mpr
    ⟨r, List.mem_filter.mpr ⟨hr, by simpa using h⟩, by simp⟩

theorem length_filter_pass_le (all passed : List Regex) (r : Regex) :
    (all.filter (· ∉ r :: passed)).length ≤ (all.filter (· ∉ passed)).length := by
  refine (List.monotone_filter_right all ?_).length_le
  intro a h
  simp only [List.mem_cons, not_or, decide_eq_true_eq] at h ⊢
  exact h.2

/-- Fuel is used up by what waits, and by two ways from each expression not passed yet. While
it lasts, a walk lists every first step on a way around what was passed. -/
theorem mem_walk_of_way {r₀ : Regex} {fuel : Nat} {passed waiting : List Regex}
    (hfuel : waiting.length + 2 * (r₀.stages.filter (· ∉ passed)).length ≤ fuel)
    (hwithin : ∀ w ∈ waiting, Within r₀ w) {w q : Regex} (hw : w ∈ waiting)
    (hway : Way place passed w q) {b : Branch} (hb : b ∈ (q.opening place).steps) :
    b ∈ walk place fuel passed waiting := by
  induction fuel generalizing passed waiting w with
  | zero =>
      have := List.length_pos_of_mem hw
      omega
  | succ fuel ih =>
      cases waiting with
      | nil => simp at hw
      | cons r waiting =>
          simp only [List.length_cons] at hfuel
          have htail : ∀ w ∈ waiting, Within r₀ w :=
            fun w h => hwithin w (List.mem_cons_of_mem _ h)
          rw [walk]
          split
          · rename_i hr
            have hne : w ≠ r := by
              intro h'
              subst h'
              exact hway.not_mem hr
            exact ih (by omega) htail ((List.mem_cons.mp hw).resolve_left hne) hway
          · rename_i hr
            have hnext := @length_next_opening place r
            have hopened : (r.opening place).next.length + waiting.length +
                2 * (r₀.stages.filter (· ∉ r :: passed)).length ≤ fuel := by
              rcases hwithin r List.mem_cons_self with hmem | rfl
              · have := length_filter_pass hmem hr
                omega
              · have := length_filter_pass_le r₀.stages passed empty
                simp only [opening, Opening.next, List.length_nil]
                omega
            have hon {w : Regex} (hw : w ∈ (r.opening place).next ++ waiting)
                (hway : Way place (r :: passed) w q) :
                b ∈ walk place fuel (r :: passed) ((r.opening place).next ++ waiting) := by
              refine ih (by simpa using hopened) ?_ hw hway
              intro v hv
              rcases List.mem_append.mp hv with hv | hv
              · exact (hwithin r List.mem_cons_self).next hv
              · exact htail v hv
            have hkept : b ∈ (r.opening place).steps ∨
                b ∈ walk place fuel (r :: passed) ((r.opening place).next ++ waiting) := by
              rcases hway.pass r with h | rfl | ⟨s, hs, h⟩
              · have hne : w ≠ r := by
                  intro h'
                  subst h'
                  exact h.not_mem List.mem_cons_self
                have := (List.mem_cons.mp hw).resolve_left hne
                exact .inr (hon (List.mem_append_right _ this) h)
              · exact .inl hb
              · exact .inr (hon (List.mem_append_left _ hs) h)
            cases ho : r.opening place <;> simpa [ho, Opening.steps, Opening.next] using hkept

theorem exists_of_mem_walk {fuel : Nat} {passed waiting : List Regex} {b : Branch}
    (h : b ∈ walk place fuel passed waiting) :
    ∃ w ∈ waiting, ∃ q, Leads place w q ∧ b ∈ (q.opening place).steps := by
  induction fuel generalizing passed waiting with
  | zero => simp [walk] at h
  | succ fuel ih =>
      cases waiting with
      | nil => simp [walk] at h
      | cons r waiting =>
          have hlater (h : ∃ w ∈ waiting, ∃ q, Leads place w q ∧
              b ∈ (q.opening place).steps) :
              ∃ w ∈ r :: waiting, ∃ q, Leads place w q ∧ b ∈ (q.opening place).steps := by
            obtain ⟨w, hw, hq⟩ := h
            exact ⟨w, List.mem_cons_of_mem _ hw, hq⟩
          have hhere (h : b ∈ (r.opening place).steps) :
              ∃ w ∈ r :: waiting, ∃ q, Leads place w q ∧ b ∈ (q.opening place).steps :=
            ⟨r, List.mem_cons_self, r, .refl r, h⟩
          rw [walk] at h
          split at h
          · exact hlater (ih h)
          · cases ho : r.opening place with
            | stop =>
                simp only [ho, List.mem_cons] at h
                rcases h with rfl | h
                · exact hhere (by simp [ho, Opening.steps])
                · exact hlater (ih h)
            | read chars left =>
                simp only [ho, List.mem_cons] at h
                rcases h with rfl | h
                · exact hhere (by simp [ho, Opening.steps])
                · exact hlater (ih h)
            | ways next =>
                simp only [ho] at h
                obtain ⟨w, hw, q, hq, hb⟩ := ih h
                rcases List.mem_append.mp hw with hw | hw
                · refine ⟨r, List.mem_cons_self, q, .step ?_ hq, hb⟩
                  rwa [ho]
                · exact hlater ⟨w, hw, q, hq, hb⟩

/-- Fuel for two ways from everything that can turn up is enough. -/
theorem lists_walk (place : Place) (r : Regex) :
    Lists place (walk place (2 * r.extent + 2) [] [r]) r.language := by
  intro t next hplace
  constructor
  · intro h
    obtain ⟨q, hq, b, hb, hl⟩ := reaches_of_language r hplace h
    have hself : ∀ w ∈ [r], Within r w := by
      intro w hw
      obtain rfl := List.mem_singleton.mp hw
      exact .self w
    refine ⟨b, mem_walk_of_way ?_ hself (List.mem_singleton_self r) hq.way hb, hl⟩
    · have := length_stages_le r
      simp only [List.length_singleton, List.not_mem_nil, not_false_eq_true, decide_true,
        List.filter_true]
      omega
  · intro h'
    rcases h' with ⟨b, hb, hl⟩
    obtain ⟨w, hw, q, hq, hsteps⟩ := exists_of_mem_walk hb
    obtain rfl := List.mem_singleton.mp hw
    exact language_of_leads hq hplace (language_of_mem_steps hsteps hl)

/-- The first steps of an expression accept, taken together, what the expression accepts. -/
theorem lists_branches (place : Place) (r : Regex) :
    Lists place (r.branches place) r.language := by
  unfold branches
  split
  · exact lists_walk place r
  · rename_i h
    exact lists_plainBranches place (by simpa using h)

end ControlSearch.Regex
