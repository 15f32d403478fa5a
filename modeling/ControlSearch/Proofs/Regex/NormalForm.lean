import Mathlib.Algebra.Group.Idempotent
import ControlSearch.Proofs.CharSet.Membership
import ControlSearch.Proofs.Regex.MinSize

/-!
# Normal forms keep languages

Flattening sequences and alternatives, uniting sets, taking out a shared start and cutting
repetitions short may change what is preferred, but never what is accepted.
-/
namespace ControlSearch.Regex

/-! ## Sequences -/

/-- What a sequence of expressions accepts. -/
def languageOfAll (rs : List Regex) : Language := (rs.map language).prod

@[simp] theorem languageOfAll_nil : languageOfAll [] = 1 := rfl

@[simp] theorem languageOfAll_cons (r : Regex) (rs : List Regex) :
    languageOfAll (r :: rs) = r.language * languageOfAll rs := List.prod_cons

@[simp] theorem languageOfAll_append (rs ss : List Regex) :
    languageOfAll (rs ++ ss) = languageOfAll rs * languageOfAll ss := by
  rw [languageOfAll, List.map_append, List.prod_append]
  rfl

@[simp] theorem language_ofMembers (rs : List Regex) :
    (ofMembers rs).language = languageOfAll rs := by
  induction rs with
  | nil => rfl
  | cons r rs ih =>
      cases rs with
      | nil => simp [ofMembers]
      | cons s rs =>
          change r.language * (ofMembers (s :: rs)).language = _
          rw [ih, ← languageOfAll_cons]

theorem languageOfAll_members (r : Regex) : languageOfAll r.members = r.language := by
  induction r with
  | cat a b iha ihb => rw [members, languageOfAll_append, iha, ihb, language]
  | empty => rfl
  | _ => simp [members]

theorem language_sequence (parts : List Regex) :
    (sequence parts).language = languageOfAll parts := by
  rw [sequence, language_ofMembers]
  induction parts with
  | nil => rfl
  | cons r rs ih =>
      rw [List.flatMap_cons, languageOfAll_append, ih, languageOfAll_members,
        languageOfAll_cons]

/-! ## Alternatives -/

/-- What some alternatives accept. -/
def languageOfAny (rs : List Regex) : Language := (rs.map language).sum

@[simp] theorem languageOfAny_nil : languageOfAny [] = 0 := rfl

@[simp] theorem languageOfAny_cons (r : Regex) (rs : List Regex) :
    languageOfAny (r :: rs) = r.language + languageOfAny rs := List.sum_cons

@[simp] theorem languageOfAny_append (rs ss : List Regex) :
    languageOfAny (rs ++ ss) = languageOfAny rs + languageOfAny ss := by
  rw [languageOfAny, List.map_append, List.sum_append]
  rfl

theorem language_never : never.language = 0 := by
  ext last t next
  simp [never, language, Language.char_iff]

theorem language_ofAlternatives (rs : List Regex) :
    (ofAlternatives rs).language = languageOfAny rs := by
  induction rs with
  | nil => exact language_never
  | cons r rs ih =>
      cases rs with
      | nil => simp [ofAlternatives]
      | cons s rs =>
          change r.language + (ofAlternatives (s :: rs)).language = _
          rw [ih, ← languageOfAny_cons]

theorem languageOfAny_alternatives (r : Regex) :
    languageOfAny r.alternatives = r.language := by
  induction r with
  | alt a b iha ihb => rw [alternatives, languageOfAny_append, iha, ihb, language]
  | _ => simp [alternatives]

theorem languageOfAny_flatMap_alternatives (rs : List Regex) :
    languageOfAny (rs.flatMap alternatives) = languageOfAny rs := by
  induction rs with
  | nil => rfl
  | cons r rs ih =>
      rw [List.flatMap_cons, languageOfAny_append, ih, languageOfAny_alternatives,
        languageOfAny_cons]

/-- Sets are the alternatives of their union. -/
theorem languageOfAny_sets {rs : List Regex} {sets : List CharSet}
    (h : rs.mapM set? = some sets) :
    languageOfAny rs = .char (CharSet.ofIntervals (sets.flatMap (·.intervals))) := by
  have hsets : rs = sets.map set := by
    induction rs generalizing sets with
    | nil =>
        obtain rfl : [] = sets := by simpa using h
        rfl
    | cons r rs ih =>
        simp only [List.mapM_cons, Option.pure_def, Option.bind_eq_bind,
          Option.bind_eq_some_iff, Option.some.injEq] at h
        obtain ⟨chars, hr, rest, hrest, rfl⟩ := h
        rw [List.map_cons, ← ih hrest]
        cases r <;> simp_all [set?]
  subst hsets
  ext last t next
  rw [languageOfAny, Language.sum_iff]
  have hunion (c : Char) :
      (CharSet.ofIntervals (sets.flatMap (·.intervals))).contains c = true ↔
      ∃ chars ∈ sets, chars.contains c = true := by
    rw [CharSet.contains_ofIntervals, Interval.covers_flatMap]
    simp only [CharSet.contains_iff]
  simp only [List.mem_map, exists_exists_and_eq_and, Language.char_iff, language, hunion]
  constructor
  · intro h'
    rcases h' with ⟨chars, hchars, c, hc, rfl⟩
    exact ⟨c, ⟨chars, hchars, hc⟩, rfl⟩
  · intro h'
    rcases h' with ⟨c, ⟨chars, hchars, hc⟩, rfl⟩
    exact ⟨chars, hchars, c, hc, rfl⟩

theorem language_plainChoice (rs : List Regex) :
    (plainChoice rs).language = languageOfAny rs := by
  unfold plainChoice
  split
  · exact language_never
  · simp
  · split
    · rename_i chars h
      simp only [unitedSet?, Option.bind_eq_bind, Option.bind_eq_some_iff] at h
      obtain ⟨sets, hsets, h⟩ := h
      split at h
      · obtain rfl := Option.some.inj h
        exact (languageOfAny_sets hsets).symm
      · simp at h
    · exact language_ofAlternatives rs

theorem commonStart_isPrefix (as bs : List Regex) :
    commonStart as bs <+: as ∧ commonStart as bs <+: bs := by
  induction as generalizing bs with
  | nil => simp [commonStart]
  | cons a as ih =>
      cases bs with
      | nil => simp [commonStart]
      | cons b bs =>
          rw [commonStart]
          split
          · rename_i h
            subst h
            exact ⟨(List.prefix_cons_inj a).mpr (ih bs).1,
              (List.prefix_cons_inj a).mpr (ih bs).2⟩
          · exact ⟨List.nil_prefix, List.nil_prefix⟩

theorem foldl_commonStart_isPrefix (start : List Regex) (others : List (List Regex)) :
    others.foldl commonStart start <+: start ∧
      ∀ rs ∈ others, others.foldl commonStart start <+: rs := by
  induction others generalizing start with
  | nil => simp
  | cons rs others ih =>
      obtain ⟨hstart, hothers⟩ := ih (commonStart start rs)
      obtain ⟨hl, hr⟩ := commonStart_isPrefix start rs
      refine ⟨hstart.trans hl, ?_⟩
      intro ss hss
      rcases List.mem_cons.mp hss with rfl | hss
      · exact hstart.trans hr
      · exact hothers ss hss

theorem sharedStart_isPrefix {lists : List (List Regex)} {rs : List Regex} (h : rs ∈ lists) :
    sharedStart lists <+: rs := by
  cases lists with
  | nil => simp at h
  | cons first others =>
      obtain ⟨hfirst, hothers⟩ := foldl_commonStart_isPrefix first others
      rcases List.mem_cons.mp h with rfl | h
      · exact hfirst
      · exact hothers rs h

/-- A start that all alternatives share can be taken out. -/
theorem languageOfAny_shared {shared : List Regex} {rs : List Regex}
    (h : ∀ r ∈ rs, shared <+: r.members) :
    languageOfAny rs = languageOfAll shared *
      languageOfAny (rs.map fun r => ofMembers (r.members.drop shared.length)) := by
  induction rs with
  | nil => simp
  | cons r rs ih =>
      obtain ⟨rest, hrest⟩ := h r List.mem_cons_self
      have hr : r.language = languageOfAll shared * languageOfAll rest := by
        rw [← languageOfAll_members, ← hrest, languageOfAll_append]
      rw [List.map_cons, languageOfAny_cons, languageOfAny_cons, mul_add,
        ih fun s hs => h s (List.mem_cons_of_mem _ hs), hr, language_ofMembers, ← hrest,
        List.drop_left]

theorem language_choice (options : List Regex) :
    (choice options).language = languageOfAny options := by
  rw [← languageOfAny_flatMap_alternatives, choice]
  set rs := options.flatMap alternatives
  have hshared : ∀ r ∈ rs,
      (if rs.length > 1 && rs.all isCompound then sharedStart (rs.map members) else []) <+:
        r.members := by
    intro r hr
    split
    · exact sharedStart_isPrefix (List.mem_map_of_mem hr)
    · exact List.nil_prefix
  simp only
  split
  · exact language_plainChoice rs
  · rw [language_sequence, languageOfAll_append, languageOfAll_cons,
      languageOfAll_nil, mul_one, language_plainChoice, languageOfAny_flatMap_alternatives,
      ← languageOfAny_shared hshared]

/-! ## Repetitions -/

/-- Nothing but the empty text is accepted. -/
def Language.Hollow (L : Language) : Prop := ∀ ⦃last t next⦄, L last t next → t = []

theorem Language.Hollow.mul_self {L : Language} (h : L.Hollow) : L * L = L := by
  ext last t next
  constructor
  · intro h'
    rcases h' with ⟨u, v, rfl, hu, hv⟩
    obtain rfl := h hu
    simpa using hv
  · intro ht
    obtain rfl := h ht
    exact ⟨[], [], rfl, ht, ht⟩

theorem Language.Hollow.pow_succ {L : Language} (h : L.Hollow) (n : Nat) : L ^ (n + 1) = L :=
  IsIdempotentElem.pow_succ_eq n h.mul_self

theorem Language.Hollow.pow {L : Language} (h : L.Hollow) (n : Nat) : (L ^ n).Hollow := by
  cases n with
  | zero =>
      intro last t next ht
      simpa using ht
  | succ n => rwa [h.pow_succ]

/-- For hollow languages only the first round counts. -/
theorem Language.Hollow.rounds_eq {L : Language} (h : L.Hollow) (least : Nat)
    (most : Option Nat) :
    L.rounds least most = if least = 0 then 1 else L := by
  ext last t next
  split
  · rename_i h0
    subst h0
    constructor
    · intro h'
      rcases h' with ⟨n, -, -, ht⟩
      exact h.pow n ht
    · intro ht
      exact ⟨0, Nat.le_refl _, by simp, by simpa using ht⟩
  · rename_i h0
    constructor
    · intro h'
      rcases h' with ⟨n, hn, -, ht⟩
      obtain ⟨k, rfl⟩ := Nat.exists_eq_add_of_le' (show 1 ≤ n by omega)
      rwa [h.pow_succ] at ht
    · intro ht
      obtain ⟨k, rfl⟩ := Nat.exists_eq_add_of_le' (show 1 ≤ least by omega)
      exact ⟨k + 1, Nat.le_refl _, fun m _ => Nat.le_max_left _ _, by rwa [h.pow_succ]⟩

theorem hollow_of_isHollow {r : Regex} (h : r.isHollow = true) : r.language.Hollow := by
  induction r with
  | set _ => simp [isHollow] at h
  | empty => exact fun _ _ _ ht => ht
  | look _ => exact fun _ _ _ ht => ht.1
  | group _ body ih => exact ih h
  | cat a b iha ihb =>
      obtain ⟨ha, hb⟩ := Bool.and_eq_true_iff.mp h
      intro last t next h'
      rcases h' with ⟨u, v, rfl, hu, hv⟩
      rw [iha ha hu, ihb hb hv, List.nil_append]
  | alt a b iha ihb =>
      obtain ⟨ha, hb⟩ := Bool.and_eq_true_iff.mp h
      intro last t next h'
      rcases h' with ht | ht
      · exact iha ha ht
      · exact ihb hb ht
  | rounds body least most eager ih =>
      obtain ⟨-, hbody⟩ := Bool.and_eq_true_iff.mp h
      intro last t next h'
      rcases h' with ⟨n, -, -, ht⟩
      exact (ih hbody).pow n ht

theorem Language.rounds_one_one (L : Language) : L.rounds 1 (some 1) = L := by
  rw [rounds_succ]
  exact (congrArg (L * ·) (rounds_zero_zero L)).trans (mul_one L)

/-- Any number of rounds are one round or more, or none. -/
theorem Language.rounds_optional (L : Language) :
    (L.rounds 1 none).rounds 0 (some 1) = L.rounds 0 none := by
  rw [rounds_zero _ (by simp), rounds_zero L (by simp), rounds_succ]
  exact congrArg (1 + ·) ((congrArg (_ * ·) (rounds_zero_zero _)).trans (mul_one _))

theorem language_repetition (body : Regex) (least : Nat) (most : Option Nat) (eager : Bool) :
    (repetition body least most eager).language = body.language.rounds least most := by
  have hbounds : ∀ bounds : Nat × Option Nat, bounds = (if body.isHollow then
      (min least 1, some (min (most.getD 1) 1)) else (least, most)) →
      body.language.rounds bounds.1 bounds.2 = body.language.rounds least most := by
    intro bounds h'
    subst h'
    split
    · rename_i h
      rw [(hollow_of_isHollow h).rounds_eq, (hollow_of_isHollow h).rounds_eq]
      have hzero : min least 1 = 0 ↔ least = 0 := by omega
      simp only [hzero]
    · rfl
  rw [← hbounds _ rfl, repetition]
  generalize (if body.isHollow then (min least 1, some (min (most.getD 1) 1))
    else (least, most)) = bounds
  obtain ⟨least, most⟩ := bounds
  simp only
  split
  · rename_i h
    rw [h.1, h.2, Language.rounds_zero_zero]
    rfl
  · split
    · rename_i h
      rw [h.1, h.2, Language.rounds_one_one]
    · split
      · rename_i h
        rw [h.1, h.2.1]
        exact body.language.rounds_optional
      · rfl

/-! ## Proper sets -/

theorem proper_empty : Proper empty := by simp [Proper, Size.sets]

theorem proper_members {r : Regex} : (∀ m ∈ r.members, m.Proper) ↔ r.Proper := by
  induction r with
  | cat a b iha ihb =>
      simp only [members, List.mem_append, or_imp, forall_and, iha, ihb, proper_cat]
  | empty => simp [members, proper_empty]
  | _ => simp [members]

theorem proper_ofMembers {rs : List Regex} (h : ∀ r ∈ rs, r.Proper) :
    (ofMembers rs).Proper := by
  induction rs with
  | nil => exact proper_empty
  | cons r rs ih =>
      obtain ⟨hr, hrs⟩ := List.forall_mem_cons.mp h
      cases rs with
      | nil => exact hr
      | cons s rs => exact proper_cat.mpr ⟨hr, ih hrs⟩

theorem proper_sequence {parts : List Regex} (h : ∀ r ∈ parts, r.Proper) :
    (sequence parts).Proper := by
  refine proper_ofMembers ?_
  intro m hm
  obtain ⟨r, hr, hm⟩ := List.mem_flatMap.mp hm
  exact proper_members.mpr (h r hr) m hm

theorem proper_alternatives {r : Regex} : (∀ m ∈ r.alternatives, m.Proper) ↔ r.Proper := by
  induction r with
  | alt a b iha ihb =>
      simp only [alternatives, List.mem_append, or_imp, forall_and, iha, ihb, proper_alt]
  | _ => simp [alternatives]

theorem proper_flatMap_alternatives {rs : List Regex} (h : ∀ r ∈ rs, r.Proper) :
    ∀ m ∈ rs.flatMap alternatives, m.Proper := by
  intro m hm
  obtain ⟨r, hr, hm⟩ := List.mem_flatMap.mp hm
  exact proper_alternatives.mpr (h r hr) m hm

theorem proper_set {chars : CharSet} (h : chars.Proper) : Proper (set chars) := by
  simpa [Proper, Size.sets] using h

theorem proper_ofAlternatives {rs : List Regex} (h : ∀ r ∈ rs, r.Proper) :
    (ofAlternatives rs).Proper := by
  induction rs with
  | nil => exact proper_set CharSet.proper_empty
  | cons r rs ih =>
      obtain ⟨hr, hrs⟩ := List.forall_mem_cons.mp h
      cases rs with
      | nil => exact hr
      | cons s rs => exact proper_alt.mpr ⟨hr, ih hrs⟩

theorem proper_plainChoice {rs : List Regex} (h : ∀ r ∈ rs, r.Proper) :
    (plainChoice rs).Proper := by
  unfold plainChoice
  split
  · exact proper_set CharSet.proper_empty
  · exact h _ (List.mem_singleton_self _)
  · split
    · rename_i chars hchars
      refine proper_set ?_
      simp only [unitedSet?, Option.bind_eq_bind, Option.bind_eq_some_iff] at hchars
      obtain ⟨sets, -, hchars⟩ := hchars
      split at hchars
      · obtain rfl := Option.some.inj hchars
        exact CharSet.proper_ofIntervals _
      · simp at hchars
    · exact proper_ofAlternatives h

theorem proper_choice {options : List Regex} (h : ∀ r ∈ options, r.Proper) :
    (choice options).Proper := by
  have hrs := proper_flatMap_alternatives h
  have hmembers : ∀ r ∈ options.flatMap alternatives, ∀ m ∈ r.members, m.Proper :=
    fun r hr => proper_members.mpr (hrs r hr)
  rw [choice]
  simp only
  split
  · exact proper_plainChoice hrs
  · rename_i hsome
    obtain ⟨r, hr⟩ : ∃ r, r ∈ options.flatMap alternatives := by
      by_contra hnone
      simp only [not_exists] at hnone
      rw [List.eq_nil_iff_forall_not_mem.mpr hnone] at hsome
      exact hsome rfl
    refine proper_sequence (List.forall_mem_append.mpr ⟨fun m hm => ?_, ?_⟩)
    · split at hm
      · have hshared := sharedStart_isPrefix (List.mem_map_of_mem (f := members) hr)
        exact hmembers r hr m (hshared.subset hm)
      · simp at hm
    · refine List.forall_mem_singleton.mpr
        (proper_plainChoice (proper_flatMap_alternatives ?_))
      intro s hs
      obtain ⟨r, hr, rfl⟩ := List.mem_map.mp hs
      exact proper_ofMembers fun m hm => hmembers r hr m (List.mem_of_mem_drop hm)

theorem proper_repetition {body : Regex} (h : body.Proper) (least : Nat) (most : Option Nat)
    (eager : Bool) : (repetition body least most eager).Proper := by
  rw [repetition]
  generalize (if body.isHollow then (min least 1, some (min (most.getD 1) 1))
    else (least, most)) = bounds
  simp only
  split
  · exact proper_empty
  · split
    · exact h
    · split <;> exact h

end ControlSearch.Regex
