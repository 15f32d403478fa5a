import ControlSearch.Proofs.Regex.FirstStep

/-!
# Opening expressions

An expression is opened step by step: it stops, it reads a character, or it goes on with one
of several others. Opening keeps what is accepted, in both directions: every step on the way
is sound, and whatever an expression accepts is accepted behind a stop or a read that it leads
to.
-/
namespace ControlSearch.Regex

namespace Opening

/-- The expressions that are gone on with. -/
def next : Opening → List Regex
  | stop | read _ _ => []
  | ways rs => rs

/-- The first steps that are listed at once. -/
def steps : Opening → List Branch
  | stop => [.accept]
  | read chars left => [.consume chars left]
  | ways _ => []

theorem mem_next_andThen {o : Opening} {second r : Regex} (h : r ∈ (o.andThen second).next) :
    r = second ∨ ∃ s ∈ o.next, r = s.andThen second := by
  cases o with
  | stop => exact .inl (List.mem_singleton.mp h)
  | read chars left => simp [andThen, next] at h
  | ways rs =>
      obtain ⟨s, hs, rfl⟩ := List.mem_map.mp h
      exact .inr ⟨s, hs, rfl⟩

theorem length_next_andThen (o : Opening) (second : Regex) :
    (o.andThen second).next.length ≤ max 1 o.next.length := by
  cases o with
  | stop | read _ _ => simp [andThen, next]
  | ways rs =>
      rw [andThen, next, next, List.length_map]
      exact Nat.le_max_right 1 rs.length

end Opening

variable {place : Place}

theorem opening_andThen {r : Regex} (h : r ≠ empty) (second : Regex) :
    (r.andThen second).opening place = (r.opening place).andThen second := by
  cases r <;> first | exact absurd rfl h | rfl

/-- Where no round is required, a repetition stops or goes on with its body in front of the
remaining rounds. -/
theorem mem_next_opening_rounds_zero {body r : Regex} {most : Option Nat} {eager : Bool}
    (h : most ≠ some 0) :
    r ∈ ((rounds body 0 most eager).opening place).next ↔
      r = empty ∨ r = body.andThen (rounds body 0 (most.map (· - 1)) eager) := by
  rcases most with _ | _ | m
  · cases eager <;> simp [opening, Opening.next, or_comm]
  · exact absurd rfl h
  · cases eager <;> simp [opening, Opening.next, or_comm]

theorem mem_next_opening_rounds {body r : Regex} {least : Nat} {most : Option Nat}
    {eager : Bool} (h : r ∈ ((rounds body least most eager).opening place).next) :
    r = empty ∨ r = body.andThen (rounds body (least - 1) (most.map (· - 1)) eager) := by
  cases least with
  | succ least => exact .inr (List.mem_singleton.mp h)
  | zero =>
      by_cases hmost : most = some 0
      · subst hmost
        simp [opening, Opening.next] at h
      · exact (mem_next_opening_rounds_zero hmost).mp h

theorem length_next_opening (r : Regex) : (r.opening place).next.length ≤ 2 := by
  induction r with
  | empty | set _ | alt _ _ _ _ | group _ _ _ => simp [opening, Opening.next]
  | look assertion =>
      simp only [opening, Opening.next]
      split <;> simp
  | cat a b iha _ =>
      have := Opening.length_next_andThen (a.opening place) b
      simp only [opening]
      omega
  | rounds body least most eager _ =>
      rcases least with _ | least
      · rcases most with _ | _ | m <;> cases eager <;> simp [opening, Opening.next]
      · simp [opening, Opening.next]

/-! ## Opening keeps the language -/

/-- What is accepted behind a listed step is accepted by the opened expression. -/
theorem language_of_mem_steps {r : Regex} {b : Branch} (hb : b ∈ (r.opening place).steps)
    {t : Text} {next : Option Char} (h : b.language place.last t next) :
    r.language place.last t next := by
  induction r generalizing b t next with
  | empty =>
      obtain rfl := List.mem_singleton.mp hb
      exact h
  | set chars =>
      obtain rfl := List.mem_singleton.mp hb
      simpa [Branch.language, language] using h
  | look _ | alt _ _ _ _ | group _ _ _ => simp [opening, Opening.steps] at hb
  | cat a c iha _ =>
      cases ha : a.opening place with
      | stop => simp [opening, ha, Opening.andThen, Opening.steps] at hb
      | ways rs => simp [opening, ha, Opening.andThen, Opening.steps] at hb
      | read chars left =>
          simp only [opening, ha, Opening.andThen, Opening.steps, List.mem_singleton] at hb
          subst hb
          rw [Branch.language, language_andThen, ← mul_assoc] at h
          obtain ⟨u, v, rfl, hu, hv⟩ := h
          have hread : Branch.consume chars left ∈ (a.opening place).steps := by
            rw [ha]
            exact List.mem_singleton_self _
          exact ⟨u, v, rfl, iha hread hu, hv⟩
  | rounds body least most eager _ =>
      rcases least with _ | least
      · rcases most with _ | _ | m
        · simp [opening, Opening.steps] at hb
        · obtain rfl := List.mem_singleton.mp hb
          rw [language, Language.rounds_zero_zero]
          exact h
        · simp [opening, Opening.steps] at hb
      · simp [opening, Opening.steps] at hb

/-- What is accepted by one of the expressions gone on with is accepted by the opened one. -/
theorem language_of_mem_next {r s : Regex} (hs : s ∈ (r.opening place).next) {t : Text}
    {next : Option Char} (hplace : place.next = t.head?.or next)
    (h : s.language place.last t next) : r.language place.last t next := by
  induction r generalizing s t next with
  | empty | set _ => simp [opening, Opening.next] at hs
  | look assertion =>
      simp only [opening, Opening.next] at hs
      split at hs
      · rename_i hold
        obtain rfl := List.mem_singleton.mp hs
        have ht : t = [] := h
        subst ht
        exact ⟨rfl, by rwa [place_eq hplace]⟩
      · simp at hs
  | group _ body _ =>
      obtain rfl := List.mem_singleton.mp hs
      exact h
  | alt a b _ _ =>
      simp only [opening, Opening.next, List.mem_cons, List.not_mem_nil, or_false] at hs
      rcases hs with rfl | rfl
      · exact .inl h
      · exact .inr h
  | cat a b iha _ =>
      cases ha : a.opening place with
      | read chars left => simp [opening, ha, Opening.andThen, Opening.next] at hs
      | stop =>
          simp only [opening, ha, Opening.andThen, Opening.next, List.mem_singleton] at hs
          subst hs
          have hstop : Branch.accept ∈ (a.opening place).steps := by
            rw [ha]
            exact List.mem_singleton_self _
          exact ⟨[], t, rfl, language_of_mem_steps hstop rfl, h⟩
      | ways rs =>
          simp only [opening, ha, Opening.andThen, Opening.next, List.mem_map] at hs
          obtain ⟨r, hr, rfl⟩ := hs
          rw [language_andThen] at h
          obtain ⟨u, v, rfl, hu, hv⟩ := h
          refine ⟨u, v, rfl, iha (by rwa [ha]) ?_ hu, hv⟩
          rw [hplace, Text.head?_append_or]
  | rounds body least most eager _ =>
      rw [language]
      cases least with
      | succ least =>
          obtain rfl := List.mem_singleton.mp hs
          rw [Language.rounds_succ]
          simpa [language] using h
      | zero =>
          by_cases hmost : most = some 0
          · subst hmost
            simp [opening, Opening.next] at hs
          · rw [Language.rounds_zero _ hmost]
            rcases mem_next_opening_rounds hs with rfl | rfl
            · exact .inl h
            · exact .inr (by simpa [language] using h)

/-- One expression leads to another if it can be opened, step by step, until that one turns
up. -/
inductive Leads (place : Place) : Regex → Regex → Prop
  | refl (r : Regex) : Leads place r r
  | step {r s q : Regex} : s ∈ (r.opening place).next → Leads place s q → Leads place r q

theorem Leads.trans {p q r : Regex} (h : Leads place p q) (h' : Leads place q r) :
    Leads place p r := by
  induction h with
  | refl => exact h'
  | step hs _ ih => exact .step hs (ih h')

/-- Somewhere on the ways from an expression, a first step is listed behind which a text is
accepted. -/
def Reaches (place : Place) (r : Regex) (t : Text) (next : Option Char) : Prop :=
  ∃ q, Leads place r q ∧ ∃ b ∈ (q.opening place).steps, b.language place.last t next

theorem reaches_empty (next : Option Char) : Reaches place empty [] next :=
  ⟨empty, .refl _, .accept, List.mem_singleton_self _, rfl⟩

theorem Reaches.of_leads {r s : Regex} {t : Text} {next : Option Char} (h : Leads place r s)
    (hs : Reaches place s t next) : Reaches place r t next := by
  obtain ⟨q, hq, hb⟩ := hs
  exact ⟨q, h.trans hq, hb⟩

theorem Reaches.of_next {r s : Regex} {t : Text} {next : Option Char}
    (h : s ∈ (r.opening place).next) (hs : Reaches place s t next) : Reaches place r t next :=
  hs.of_leads (.step h (.refl s))

theorem Leads.andThen {r q : Regex} (h : Leads place r q) (second : Regex) :
    Leads place (r.andThen second) (q.andThen second) := by
  induction h with
  | refl => exact .refl _
  | @step r s q hs _ ih =>
      have hr : r ≠ empty := by
        intro h'
        subst h'
        simp [opening, Opening.next] at hs
      refine .step ?_ ih
      rw [opening_andThen hr]
      cases ho : r.opening place with
      | stop | read _ _ => simp [ho, Opening.next] at hs
      | ways rs =>
          rw [ho] at hs
          exact List.mem_map_of_mem hs

/-- An expression that stops leads on to what stands behind it. -/
theorem Leads.second {q : Regex} (h : .accept ∈ (q.opening place).steps) (second : Regex) :
    Leads place (q.andThen second) second := by
  by_cases hq : q = empty
  · subst hq
    exact .refl _
  · refine .step ?_ (.refl second)
    rw [opening_andThen hq]
    cases ho : q.opening place with
    | stop => exact List.mem_singleton_self _
    | read _ _ | ways _ => simp [ho, Opening.steps] at h

theorem Reaches.andThen {r second : Regex} {u v : Text} {next : Option Char}
    (hr : Reaches place r u (v.head?.or next))
    (hv : second.language (u.getLast?.or place.last) v next)
    (hsecond : u = [] → Reaches place second v next) :
    Reaches place (r.andThen second) (u ++ v) next := by
  obtain ⟨q, hq, b, hb, hl⟩ := hr
  cases b with
  | accept =>
      have hu : u = [] := hl
      subst hu
      exact (hsecond rfl).of_leads ((hq.andThen second).trans (.second hb second))
  | consume chars left =>
      have hq' : q ≠ empty := by
        intro h
        subst h
        simp [opening, Opening.steps] at hb
      refine ⟨_, hq.andThen second, .consume chars (left.andThen second), ?_, ?_⟩
      · rw [opening_andThen hq']
        cases ho : q.opening place with
        | stop | ways _ => simp [ho, Opening.steps] at hb
        | read chars' left' =>
            rw [ho] at hb
            simp only [Opening.steps, List.mem_singleton, Branch.consume.injEq] at hb
            obtain ⟨rfl, rfl⟩ := hb
            exact List.mem_singleton_self _
      · rw [Branch.language, language_andThen, ← mul_assoc]
        exact ⟨u, v, rfl, hl, hv⟩

/-- The induction is on the number of rounds; an empty round is opened like any other. -/
theorem reaches_rounds {body : Regex} {eager : Bool}
    (hbody : ∀ t next, place.next = t.head?.or next → body.language place.last t next →
      Reaches place body t next) {n least : Nat} {most : Option Nat} (hn : least ≤ n)
    (hm : ∀ m ∈ most, n ≤ max least m) {t : Text} {next : Option Char}
    (hplace : place.next = t.head?.or next) (h : (body.language ^ n) place.last t next) :
    Reaches place (rounds body least most eager) t next := by
  induction n generalizing least most t next with
  | zero =>
      obtain rfl : least = 0 := by omega
      have ht : t = [] := by simpa using h
      subst ht
      by_cases hmost : most = some 0
      · subst hmost
        exact ⟨_, .refl _, .accept, List.mem_singleton_self _, rfl⟩
      · exact (reaches_empty next).of_next
          ((mem_next_opening_rounds_zero hmost).mpr (.inl rfl))
  | succ n ih =>
      rw [pow_succ'] at h
      obtain ⟨u, v, rfl, hu, hv⟩ := h
      have hplace' : place.next = u.head?.or (v.head?.or next) := by
        rw [hplace, Text.head?_append_or]
      have hm' : ∀ m ∈ most.map (· - 1), n ≤ max (least - 1) m := by
        intro m hmem
        obtain ⟨k, hk, rfl⟩ := Option.map_eq_some_iff.mp hmem
        have := hm k hk
        omega
      have hrest : (rounds body (least - 1) (most.map (· - 1)) eager).language
          (u.getLast?.or place.last) v next := ⟨n, by omega, hm', hv⟩
      have hagain := (hbody u _ hplace' hu).andThen hrest fun hu0 => by
        subst hu0
        exact ih (by omega) hm' hplace hv
      refine hagain.of_next ?_
      cases least with
      | succ least => exact List.mem_singleton_self _
      | zero =>
          have hmost : most ≠ some 0 := by
            intro h'
            subst h'
            have := hm 0 rfl
            omega
          exact (mem_next_opening_rounds_zero hmost).mpr (.inr rfl)

/-- Whatever an expression accepts is accepted behind a first step that it leads to. -/
theorem reaches_of_language (r : Regex) {t : Text} {next : Option Char}
    (hplace : place.next = t.head?.or next) (h : r.language place.last t next) :
    Reaches place r t next := by
  induction r generalizing t next with
  | empty => exact ⟨_, .refl _, .accept, List.mem_singleton_self _, h⟩
  | set chars =>
      refine ⟨_, .refl _, .consume chars empty, List.mem_singleton_self _, ?_⟩
      simpa [Branch.language, language] using h
  | look assertion =>
      obtain ⟨rfl, hold⟩ := h
      rw [place_eq hplace] at hold
      exact (reaches_empty next).of_next (by simp [opening, Opening.next, hold])
  | group _ body ih => exact (ih hplace h).of_next (List.mem_singleton_self _)
  | alt a b iha ihb =>
      rcases h with h | h
      · exact (iha hplace h).of_next (by simp [opening, Opening.next])
      · exact (ihb hplace h).of_next (by simp [opening, Opening.next])
  | cat a b iha ihb =>
      obtain ⟨u, v, rfl, hu, hv⟩ := h
      have hplace' : place.next = u.head?.or (v.head?.or next) := by
        rw [hplace, Text.head?_append_or]
      have hab := (iha hplace' hu).andThen hv fun hu0 => by
        subst hu0
        exact ihb hplace hv
      by_cases ha : a = empty
      · subst ha
        exact hab.of_next (List.mem_singleton_self _)
      · cases a <;> first | exact absurd rfl ha | exact hab
  | rounds body least most eager ih =>
      obtain ⟨n, hn, hm, h⟩ := h
      exact reaches_rounds (fun _ _ hplace h => ih hplace h) hn hm hplace h

theorem language_of_leads {r q : Regex} (h : Leads place r q) {t : Text} {next : Option Char}
    (hplace : place.next = t.head?.or next) (hq : q.language place.last t next) :
    r.language place.last t next := by
  induction h with
  | refl => exact hq
  | step hs _ ih => exact language_of_mem_next hs hplace (ih hq)

end ControlSearch.Regex
