import ControlSearch.Proofs.Regex.Walk
import ControlSearch.Regex.Occurrence

/-!
# What a run finds

Every end of a run is the end of an accepted text. The converse fails, because threads are
given up when a preferred one stops: a run to the end of a text succeeds if and only if the
whole text is what a search for a beginning of it would try first.
-/
namespace ControlSearch.Regex

/-- What a first step leaves behind a character. -/
def Branch.after (c : Char) : Branch → Option Regex
  | accept => none
  | consume chars left => if chars.contains c then some left else none

@[simp] theorem Branch.after_accept (c : Char) : accept.after c = none := rfl

@[simp] theorem Branch.after_consume (c : Char) (chars : CharSet) (left : Regex) :
    (consume chars left).after c = if chars.contains c then some left else none := rfl

theorem Branch.after_eq_some_iff {c : Char} {b : Branch} {left : Regex} :
    b.after c = some left ↔ ∃ chars, b = .consume chars left ∧ chars.contains c = true := by
  cases b <;> simp [Branch.after, and_comm]

theorem advance_eq (c : Char) (steps : List Branch) :
    advance c steps = distinct (steps.filterMap (Branch.after c)) := by
  unfold advance
  congr 2

theorem mem_advance_iff {c : Char} {steps : List Branch} {left : Regex} :
    left ∈ advance c steps ↔ ∃ chars, .consume chars left ∈ steps ∧
      chars.contains c = true := by
  simp only [advance_eq, mem_distinct, List.mem_filterMap, Branch.after_eq_some_iff]
  constructor
  · intro h
    rcases h with ⟨_, hb, chars, rfl, hc⟩
    exact ⟨chars, hb, hc⟩
  · intro h
    rcases h with ⟨chars, hb, hc⟩
    exact ⟨_, hb, chars, rfl, hc⟩

@[simp] theorem untilAccept_accept (steps : List Branch) :
    untilAccept (.accept :: steps) = [.accept] := rfl

@[simp] theorem untilAccept_consume (chars : CharSet) (left : Regex) (steps : List Branch) :
    untilAccept (.consume chars left :: steps) =
      .consume chars left :: untilAccept steps := rfl

theorem mem_of_mem_untilAccept {b : Branch} {steps : List Branch}
    (h : b ∈ untilAccept steps) :
    b ∈ steps := by
  induction steps with
  | nil => exact h
  | cons a steps ih =>
      cases a with
      | accept => exact List.mem_singleton.mp h ▸ List.mem_cons_self
      | consume chars left =>
          rcases List.mem_cons.mp h with rfl | h
          · exact List.mem_cons_self
          · exact List.mem_cons_of_mem _ (ih h)

@[simp] theorem accept_mem_untilAccept {steps : List Branch} :
    .accept ∈ untilAccept steps ↔ .accept ∈ steps := by
  induction steps with
  | nil => rfl
  | cons a steps ih => cases a <;> simp [ih]

theorem accept_mem_steps {place : Place} {threads : List Regex} :
    .accept ∈ steps place threads ↔ .accept ∈ threads.flatMap (branches place) :=
  accept_mem_untilAccept

/-- A run without threads has no ends, so it need not be told apart. -/
theorem endsFrom_cons (threads : List Regex) (offset : Nat) (last : Option Char) (c : Char)
    (rest : Text) : endsFrom threads offset last (c :: rest) =
      (if .accept ∈ threads.flatMap (branches ⟨last, some c⟩) then [offset] else []) ++
        endsFrom (advance c (steps ⟨last, some c⟩ threads)) (offset + c.utf8Size)
          (some c) rest := by
  have hlater (T : List Regex) :
      (if T.isEmpty then [] else endsFrom T (offset + c.utf8Size) (some c) rest) =
        endsFrom T (offset + c.utf8Size) (some c) rest := by
    cases T with
    | nil => exact (endsFrom_nil ..).symm
    | cons => rfl
  rw [endsFrom, hlater]
  by_cases h : .accept ∈ steps ⟨last, some c⟩ threads
  · rw [if_pos h, if_pos (accept_mem_steps.mp h)]
    rfl
  · rw [if_neg h, if_neg fun h' => h (accept_mem_steps.mpr h')]
    rfl

/-! ## Ends are accepted -/

variable {threads : List Regex} {offset : Nat} {last : Option Char} {t : Text}

theorem accept_mem_branches {place : Place} {r : Regex} :
    .accept ∈ r.branches place ↔ r.language place.last [] place.next :=
  (lists_branches place r).accept_mem_iff

/-- What is left behind a character accepts what the expression accepts behind it. -/
theorem language_cons_iff {r : Regex} {c : Char} {next : Option Char} :
    r.language last (c :: t) next ↔
      ∃ chars left, .consume chars left ∈ r.branches ⟨last, some c⟩ ∧
      chars.contains c = true ∧ left.language (some c) t next := by
  rw [lists_branches ⟨last, some c⟩ r (c :: t) next rfl]
  constructor
  · intro h'
    rcases h' with ⟨b, hb, hl⟩
    cases b with
    | accept => simp [Branch.language] at hl
    | consume chars left =>
        obtain ⟨d, u, h, hd, hu⟩ := Language.char_mul_iff.mp hl
        obtain ⟨rfl, rfl⟩ := List.cons.inj h
        exact ⟨chars, left, hb, hd, hu⟩
  · intro h'
    rcases h' with ⟨chars, left, hb, hc, hl⟩
    exact ⟨_, hb, Language.char_mul_iff.mpr ⟨c, t, rfl, hc, hl⟩⟩

/-- Every end of a run is the end of a text that one of the threads accepts. -/
theorem language_of_mem_endsFrom {e : Nat} (h : e ∈ endsFrom threads offset last t) :
    ∃ r ∈ threads, ∃ u v, t = u ++ v ∧ e = offset + u.size ∧ r.language last u v.head? := by
  induction t generalizing threads offset last with
  | nil =>
      rw [endsFrom] at h
      split at h
      · rename_i hacc
        obtain rfl := List.mem_singleton.mp h
        obtain ⟨r, hr, hb⟩ := List.mem_flatMap.mp (accept_mem_untilAccept.mp hacc)
        exact ⟨r, hr, [], [], rfl, rfl, accept_mem_branches.mp hb⟩
      · simp at h
  | cons c rest ih =>
      rw [endsFrom_cons, List.mem_append] at h
      rcases h with h | h
      · split at h
        · rename_i hacc
          obtain rfl := List.mem_singleton.mp h
          obtain ⟨r, hr, hb⟩ := List.mem_flatMap.mp hacc
          exact ⟨r, hr, [], c :: rest, rfl, rfl, accept_mem_branches.mp hb⟩
        · simp at h
      · obtain ⟨left, hleft, u, v, rfl, rfl, hl⟩ := ih h
        obtain ⟨chars, hb, hc⟩ := mem_advance_iff.mp hleft
        obtain ⟨r, hr, hb⟩ := List.mem_flatMap.mp (mem_of_mem_untilAccept hb)
        refine ⟨r, hr, c :: u, v, rfl, by rw [Text.size_cons, Nat.add_assoc], ?_⟩
        exact language_cons_iff.mpr ⟨chars, left, hb, hc, hl⟩

/-- Whatever a thread accepts is an end of the run, if no step is ever given up. The threads
that turn up on the way are told by a property that is kept from place to place. -/
theorem mem_endsFrom_of_language {P : List Regex → Prop}
    (huncut : ∀ T place b, P T → b ∈ T.flatMap (branches place) → b ∈ steps place T)
    (hnext : ∀ T place c, P T → P (advance c (steps place T))) (hP : P threads) {r : Regex}
    (hr : r ∈ threads) {u v : Text} (h : r.language last u v.head?) :
    offset + u.size ∈ endsFrom threads offset last (u ++ v) := by
  induction u generalizing threads offset last r with
  | nil =>
      have hacc : .accept ∈ threads.flatMap (branches ⟨last, v.head?⟩) :=
        List.mem_flatMap.mpr ⟨r, hr, accept_mem_branches.mpr h⟩
      cases v with
      | nil =>
          rw [List.head?_nil] at hacc
          rw [List.append_nil, endsFrom, if_pos (accept_mem_steps.mpr hacc)]
          exact List.mem_singleton_self _
      | cons c v =>
          rw [List.head?_cons] at hacc
          rw [List.nil_append, endsFrom_cons, if_pos hacc]
          exact List.mem_append_left _ (List.mem_singleton_self _)
  | cons c u ih =>
      obtain ⟨chars, left, hb, hc, hl⟩ := language_cons_iff.mp h
      have hstep := huncut threads ⟨last, some c⟩ _ hP (List.mem_flatMap.mpr ⟨r, hr, hb⟩)
      rw [List.cons_append, endsFrom_cons, Text.size_cons, ← Nat.add_assoc]
      refine List.mem_append_right _ (ih (hnext threads ⟨last, some c⟩ c hP) ?_ hl)
      exact mem_advance_iff.mpr ⟨chars, hstep, hc⟩

/-! ## Preference -/

/-- The sizes that a first step in front of a character leads to, given those behind it. -/
def Branch.tried (c : Char) (later : Regex → List Nat) : Branch → List Nat
  | accept => [0]
  | consume chars left => if chars.contains c then (later left).map (c.utf8Size + ·) else []

@[simp] theorem Branch.tried_accept (c : Char) (later : Regex → List Nat) :
    accept.tried c later = [0] := rfl

@[simp] theorem Branch.tried_consume (c : Char) (later : Regex → List Nat) (chars : CharSet)
    (left : Regex) : (consume chars left).tried c later =
      if chars.contains c then (later left).map (c.utf8Size + ·) else [] := rfl

/-- The sizes of the beginnings of a text that are accepted, in the order in which a search
comes across them that follows each first step in turn as far as it leads. -/
def preferences (r : Regex) (last : Option Char) : Text → List Nat
  | [] => if .accept ∈ r.branches ⟨last, none⟩ then [0] else []
  | c :: rest =>
    (r.branches ⟨last, some c⟩).flatMap (Branch.tried c (preferences · (some c) rest))

/-- A search comes across just the accepted beginnings. -/
theorem mem_preferences_iff {r : Regex} {n : Nat} :
    n ∈ r.preferences last t ↔ ∃ u v, t = u ++ v ∧ u.size = n ∧
    r.language last u v.head? := by
  induction t generalizing r last n with
  | nil =>
      rw [preferences]
      constructor
      · split
        · rename_i h
          intro hn
          obtain rfl := List.mem_singleton.mp hn
          exact ⟨[], [], rfl, rfl, accept_mem_branches.mp h⟩
        · simp
      · intro h'
        rcases h' with ⟨u, v, h, rfl, hl⟩
        obtain ⟨rfl, rfl⟩ := List.append_eq_nil_iff.mp h.symm
        rw [if_pos (accept_mem_branches.mpr hl)]
        exact List.mem_singleton_self _
  | cons c rest ih =>
      rw [preferences, List.mem_flatMap]
      constructor
      · intro h'
        rcases h' with ⟨b, hb, hn⟩
        cases b with
        | accept =>
            obtain rfl := List.mem_singleton.mp hn
            exact ⟨[], c :: rest, rfl, rfl, accept_mem_branches.mp hb⟩
        | consume chars left =>
            rw [Branch.tried_consume] at hn
            split at hn
            · rename_i hc
              obtain ⟨m, hm, rfl⟩ := List.mem_map.mp hn
              obtain ⟨u, v, rfl, rfl, hl⟩ := ih.mp hm
              exact ⟨c :: u, v, rfl, rfl, language_cons_iff.mpr ⟨chars, left, hb, hc, hl⟩⟩
            · simp at hn
      · intro h'
        rcases h' with ⟨u, v, h, rfl, hl⟩
        cases u with
        | nil =>
            obtain rfl : c :: rest = v := h
            exact ⟨.accept, accept_mem_branches.mpr hl, List.mem_singleton_self _⟩
        | cons d u =>
            obtain ⟨rfl, rfl⟩ := List.cons.inj h
            obtain ⟨chars, left, hb, hc, hl⟩ := language_cons_iff.mp hl
            refine ⟨_, hb, ?_⟩
            rw [Branch.tried_consume, if_pos hc]
            exact List.mem_map_of_mem (ih.mpr ⟨u, v, rfl, rfl, hl⟩)

/-- Leaving out equal expressions does not change what comes first. -/
theorem head?_flatMap_distinctFrom (f : Regex → List Nat) {seen : Std.HashSet (Weighed Regex)}
    (hseen : ∀ r, r.weighed ∈ seen → f r = []) (rs : List Regex) :
    ((distinctFrom seen rs).flatMap f).head? = (rs.flatMap f).head? := by
  induction rs generalizing seen with
  | nil => rfl
  | cons r rs ih =>
      simp only [distinctFrom]
      split
      · rename_i hr
        rw [ih hseen, List.flatMap_cons, hseen r hr, List.nil_append]
      · rw [List.flatMap_cons, List.flatMap_cons, List.head?_append, List.head?_append]
        by_cases hf : f r = []
        · rw [ih]
          intro s hs
          rcases Std.HashSet.mem_insert.mp hs with h | h
          · obtain rfl : r = s := by simpa using h
            exact hf
          · exact hseen s h
        · obtain ⟨n, ns, hn⟩ := List.exists_cons_of_ne_nil hf
          simp [hn]

theorem head?_flatMap_distinct (f : Regex → List Nat) (rs : List Regex) :
    ((distinct rs).flatMap f).head? = (rs.flatMap f).head? := by
  unfold distinct
  split
  · rfl
  · rfl
  · exact head?_flatMap_distinctFrom f (by simp) _

/-- What comes first, unless it is a stop, comes from the steps in front of the first stop. -/
theorem head?_flatMap_tried {c : Char} {later : Regex → List Nat} {n : Nat}
    (steps : List Branch) :
    (steps.flatMap (Branch.tried c later)).head? = some (c.utf8Size + n) ↔
      (((untilAccept steps).filterMap (Branch.after c)).flatMap later).head? = some n := by
  have hsize := c.utf8Size_pos
  induction steps with
  | nil => simp [untilAccept]
  | cons b steps ih =>
      cases b with
      | accept =>
          have hne : 0 ≠ c.utf8Size + n := by omega
          have hnone : [Branch.accept].filterMap (Branch.after c) = [] := rfl
          simp [hne, hnone]
      | consume chars left =>
          by_cases hc : chars.contains c = true
          · rw [untilAccept_consume, List.filterMap_cons, Branch.after_consume, if_pos hc,
              List.flatMap_cons, List.flatMap_cons, Branch.tried_consume, if_pos hc,
              List.head?_append, List.head?_append]
            cases hleft : later left with
            | nil => simpa using ih
            | cons m ms => simp
          · rw [untilAccept_consume, List.filterMap_cons, Branch.after_consume, if_neg hc,
              List.flatMap_cons, Branch.tried_consume, if_neg hc, List.nil_append]
            exact ih

/-- A run reaches the end of a text if and only if nothing but the whole text comes first. -/
theorem mem_endsFrom_size_iff : offset + t.size ∈ endsFrom threads offset last t ↔
    (threads.flatMap (preferences · last t)).head? = some t.size := by
  induction t generalizing threads offset last with
  | nil =>
      rw [endsFrom]
      by_cases hacc : .accept ∈ threads.flatMap (branches ⟨last, none⟩)
      · rw [if_pos (accept_mem_steps.mpr hacc)]
        have hzero : ∀ n ∈ threads.flatMap (preferences · last []), n = 0 := by
          intro n hn
          obtain ⟨r, -, hn⟩ := List.mem_flatMap.mp hn
          rw [preferences] at hn
          split at hn <;> simp_all
        obtain ⟨r, hr, hb⟩ := List.mem_flatMap.mp hacc
        have hmem : 0 ∈ threads.flatMap (preferences · last []) := by
          refine List.mem_flatMap.mpr ⟨r, hr, ?_⟩
          rw [preferences, if_pos hb]
          exact List.mem_singleton_self _
        obtain ⟨n, ns, hns⟩ := List.exists_cons_of_ne_nil (List.ne_nil_of_mem hmem)
        have hn : n = 0 := hzero n (hns ▸ List.mem_cons_self)
        rw [hns, hn]
        simp
      · rw [if_neg fun h => hacc (accept_mem_steps.mp h)]
        have hnil : threads.flatMap (preferences · last []) = [] := by
          refine List.flatMap_eq_nil_iff.mpr ?_
          intro r hr
          rw [preferences, if_neg fun hb => hacc (List.mem_flatMap.mpr ⟨r, hr, hb⟩)]
        simp [hnil]
  | cons c rest ih =>
      have hsize := c.utf8Size_pos
      have hhere : ¬ offset + c.utf8Size + Text.size rest ∈
          (if .accept ∈ threads.flatMap (branches ⟨last, some c⟩) then [offset] else []) := by
        split
        · simp
          omega
        · exact List.not_mem_nil
      rw [endsFrom_cons, List.mem_append, Text.size_cons, ← Nat.add_assoc,
        or_iff_right hhere, ih, advance_eq, head?_flatMap_distinct, steps,
        ← head?_flatMap_tried, List.flatMap_assoc]
      rfl

end ControlSearch.Regex
