import ControlSearch.Proofs.Text.Composition

/-!
# Characters beside which a text can be cut

No blank is a mark, none is part of a composed character, and only a blank is equivalent to
one. So blanks stand alone in a text: composition keeps them where they are, and brings up no
others. The characters that come before the first mark, U+0300, are composed with what follows
them, but with nothing in front: they begin anew.
-/
namespace ControlSearch.Text

variable {a b c d : Char} {t u v : Text} {n m k rounds : Nat}

/-! ## From the tables to their entries -/

/-- What a table holds stands in the list that it was made of. -/
theorem mem_of_getElem?_ofList {α β : Type} [BEq α] [Hashable α] [LawfulBEq α]
    [LawfulHashable α] {l : List (α × β)} {key : α} {value : β}
    (h : (Std.HashMap.ofList l)[key]? = some value) : (key, value) ∈ l := by
  suffices hmany : ∀ table : Std.HashMap α β, (table.insertMany l)[key]? = some value →
      (key, value) ∈ l ∨ table[key]? = some value by
    rw [Std.HashMap.ofList_eq_insertMany_empty] at h
    simpa using hmany ∅ h
  clear h
  induction l with
  | nil => exact fun table h => .inr (by simpa using h)
  | cons entry l ih =>
      intro table h
      rw [Std.HashMap.insertMany_cons] at h
      rcases ih _ h with h | h
      · exact .inl (List.mem_cons_of_mem entry h)
      · rw [Std.HashMap.getElem?_insert] at h
        split at h
        · rename_i hkey
          obtain rfl := Option.some.inj h
          rw [← eq_of_beq hkey]
          exact .inl List.mem_cons_self
        · exact .inr h

theorem mem_classEntries (h : combiningClass c ≠ 0) :
    (c.toNat, combiningClass c) ∈ classEntries := by
  unfold combiningClass at h ⊢
  split at h
  · exact absurd rfl h
  · rename_i hnot
    rw [if_neg hnot]
    rw [Std.HashMap.getD_eq_getD_getElem?] at h ⊢
    cases hclass : classTable[c.toNat]? with
    | none => simp [hclass] at h
    | some value =>
        unfold classTable at hclass
        exact mem_of_getElem?_ofList hclass

theorem parts_succ_cases (rounds n : Nat) :
    (∃ first others, (n, first :: others) ∈ partEntries ∧
      parts (rounds + 1) n = parts rounds first ++ others.map Char.ofNat) ∨
    parts (rounds + 1) n = [Char.ofNat n] := by
  rw [parts]
  split
  · rename_i first others hparts
    unfold partTable at hparts
    exact .inl ⟨first, others, mem_of_getElem?_ofList hparts, rfl⟩
  · exact .inr rfl

theorem pair?_cases (h : pair? a b = some d) : ∃ k, d = Char.ofNat k ∧
    (isHangul a.toNat = true ∧ hangulPair? a.toNat b.toNat = some k ∨
      ((a.toNat, b.toNat), k) ∈ pairEntries) := by
  obtain ⟨k, hk, rfl⟩ := Option.map_eq_some_iff.mp h
  refine ⟨k, rfl, ?_⟩
  split at hk
  · exact .inl ⟨‹_›, hk⟩
  · unfold pairTable at hk
    exact .inr (mem_of_getElem?_ofList hk)

/-! ## What the entries say of blanks and of Latin -/

theorem toNat_ofNat (h : n.isValidChar) : (Char.ofNat n).toNat = n := by
  rw [Char.ofNat, dif_pos h]
  rfl

/-- Whether two characters lie in one of the long stretches without a blank. The comparisons
are those that compute at once, as the check runs over all tables. -/
def clearOfBlanks (first last : Nat) : Bool :=
  Nat.ble 0x3001 first || (Nat.ble 0xA1 first && Nat.ble last 0x167F) ||
    (Nat.ble 0x1681 first && Nat.ble last 0x1FFF) ||
      (Nat.ble 0x2060 first && Nat.ble last 0x2FFF) ||
    (Nat.ble 0x21 first && Nat.ble last 0x84)

theorem isBlank_ofNat_of_clear (h : clearOfBlanks n m = true) (hn : n ≤ k) (hm : k ≤ m) :
    isBlank (Char.ofNat k) = false := by
  by_cases hvalid : k.isValidChar
  · simp only [clearOfBlanks, Bool.or_eq_true, Bool.and_eq_true, Nat.ble_eq] at h
    simp only [isBlank, toNat_ofNat hvalid, Bool.or_eq_false_iff, Bool.and_eq_false_iff,
      decide_eq_false_iff_not]
    omega
  · rw [Char.ofNat, dif_neg hvalid]
    rfl

theorem isBlank_ofNat_of_clear_self (h : clearOfBlanks n n = true) :
    isBlank (Char.ofNat n) = false :=
  isBlank_ofNat_of_clear h (Nat.le_refl n) (Nat.le_refl n)

theorem clear_of_mem_combiningClasses : ∀ e ∈ combiningClasses,
    0x300 ≤ e.1 ∧ e.1 ≤ e.2.1 ∧ clearOfBlanks e.1 e.2.1 = true := by
  decide +kernel

theorem clear_of_mem_pairs : ∀ e ∈ composites ++ expansions,
    clearOfBlanks e.1 e.1 = true ∧ clearOfBlanks e.2.1 e.2.1 = true ∧
      clearOfBlanks e.2.2 e.2.2 = true ∧ 0x300 ≤ e.2.2 ∧ (e.1 < 0x300 → e.2.1 < 0x300) := by
  decide +kernel

theorem clear_of_mem_singles : ∀ e ∈ substitutes ++ ideographs, 0x300 ≤ e.1 ∧
    (clearOfBlanks e.1 e.1 = true ∧ clearOfBlanks e.2 e.2 = true ∨
      e = (0x2000, 0x2002) ∨ e = (0x2001, 0x2003)) := by
  decide +kernel

/-- A mark is not blank, and U+0300 is the first one. -/
theorem of_mem_classEntries (h : (n, k) ∈ classEntries) :
    isBlank (Char.ofNat n) = false ∧ 0x300 ≤ n := by
  obtain ⟨⟨first, last, value⟩, hinterval, hentry⟩ := List.mem_flatMap.mp h
  obtain ⟨i, hi, hsame⟩ := List.mem_map.mp hentry
  obtain ⟨hmark, hle, hclear⟩ := clear_of_mem_combiningClasses _ hinterval
  obtain ⟨rfl, -⟩ := Prod.mk.inj hsame
  rw [List.mem_range] at hi
  dsimp only at hmark hle hclear
  exact ⟨isBlank_ofNat_of_clear hclear (by omega) (by omega), by omega⟩

/-- A blank is equivalent to a single blank, and nothing else is equivalent to one. What comes
before the first mark is taken apart to something that starts there too. -/
theorem of_mem_partEntries {l : List Nat} (h : (n, m :: l) ∈ partEntries) :
    (∀ k ∈ m :: l, isBlank (Char.ofNat k) = isBlank (Char.ofNat n)) ∧
      (isBlank (Char.ofNat n) = true → l = []) ∧ (n < 0x300 → m < 0x300) := by
  rcases List.mem_append.mp h with h | h
  · obtain ⟨⟨whole, first, second⟩, hpair, hsame⟩ := List.mem_map.mp h
    obtain ⟨hwhole, hfirst, hsecond, -, hlt⟩ := clear_of_mem_pairs _ hpair
    obtain ⟨rfl, rfl, rfl⟩ : whole = n ∧ first = m ∧ [second] = l := by simpa using hsame
    have hwhole := isBlank_ofNat_of_clear_self hwhole
    have hfirst := isBlank_ofNat_of_clear_self hfirst
    have hsecond := isBlank_ofNat_of_clear_self hsecond
    exact ⟨by simp [hwhole, hfirst, hsecond], by simp [hwhole], hlt⟩
  · obtain ⟨⟨whole, other⟩, hsingle, hsame⟩ := List.mem_map.mp h
    obtain ⟨rfl, rfl, rfl⟩ : whole = n ∧ other = m ∧ [] = l := by simpa using hsame
    obtain ⟨hmark, hclear⟩ := clear_of_mem_singles _ hsingle
    refine ⟨List.forall_mem_singleton.mpr ?_, fun _ => rfl,
      fun hlt => absurd hmark (by simpa using hlt)⟩
    rcases hclear with ⟨hwhole, hother⟩ | hblank | hblank
    · rw [isBlank_ofNat_of_clear_self hwhole, isBlank_ofNat_of_clear_self hother]
    · obtain ⟨rfl, rfl⟩ := Prod.mk.inj hblank
      decide
    · obtain ⟨rfl, rfl⟩ := Prod.mk.inj hblank
      decide

/-- Blanks are not composed, and nothing that comes before the first mark is composed with
what is in front of it. -/
theorem of_mem_pairEntries (h : ((n, m), k) ∈ pairEntries) :
    isBlank (Char.ofNat n) = false ∧ isBlank (Char.ofNat m) = false ∧
      isBlank (Char.ofNat k) = false ∧ 0x300 ≤ m := by
  obtain ⟨⟨whole, first, second⟩, hpair, hsame⟩ := List.mem_map.mp h
  obtain ⟨hwhole, hfirst, hsecond, hmark, -⟩ :=
    clear_of_mem_pairs _ (List.mem_append_left expansions hpair)
  obtain ⟨⟨rfl, rfl⟩, rfl⟩ : (first = n ∧ second = m) ∧ whole = k := by simpa using hsame
  exact ⟨isBlank_ofNat_of_clear_self hfirst, isBlank_ofNat_of_clear_self hsecond,
    isBlank_ofNat_of_clear_self hwhole, hmark⟩

/-! ## The rule of Hangul -/

theorem isHangul_iff : isHangul n = true ↔
    (0x1100 ≤ n ∧ n ≤ 0x11FF) ∨ (0xAC00 ≤ n ∧ n ≤ 0xD7A3) := by
  simp [isHangul]

theorem isHangul_of_hangulPair? (h : hangulPair? n m = some k) :
    isHangul m = true ∧ isHangul k = true := by
  simp only [isHangul_iff]
  unfold hangulPair? leading vowel trailing syllable at h
  split at h
  · obtain rfl := Option.some.inj h
    omega
  · split at h
    · obtain rfl := Option.some.inj h
      omega
    · cases h

theorem isHangul_of_mem_hangulLetters (hn : isHangul n = true) (h : c ∈ hangulLetters n) :
    ∃ m, isHangul m = true ∧ c = Char.ofNat m := by
  simp only [isHangul_iff] at hn ⊢
  unfold hangulLetters at h
  split at h
  · rename_i hsyllable
    simp only [syllable] at hsyllable
    simp only [List.mem_cons, List.mem_ite_nil_left, List.not_mem_nil, or_false] at h
    rcases h with h | h | ⟨-, h⟩
    · refine ⟨_, ?_, h⟩
      simp only [leading, syllable]
      omega
    · refine ⟨_, ?_, h⟩
      simp only [vowel, syllable]
      omega
    · refine ⟨_, ?_, h⟩
      simp only [trailing, syllable]
      omega
  · exact ⟨n, hn, List.mem_singleton.mp h⟩

theorem isBlank_ofNat_of_isHangul (h : isHangul n = true) :
    isBlank (Char.ofNat n) = false := by
  rw [isHangul_iff] at h
  refine isBlank_ofNat_of_clear_self ?_
  simp only [clearOfBlanks, Bool.or_eq_true, Bool.and_eq_true, Nat.ble_eq]
  omega

theorem not_isHangul_of_isBlank (h : isBlank c = true) : ¬isHangul c.toNat = true := by
  intro hhangul
  have hnot := isBlank_ofNat_of_isHangul hhangul
  rw [Char.ofNat_toNat, h] at hnot
  cases hnot

/-! ## Blanks stand alone -/

theorem combiningClass_of_isBlank (hc : isBlank c = true) : combiningClass c = 0 := by
  refine Decidable.byContradiction fun hclass => ?_
  have hnot := (of_mem_classEntries (mem_classEntries hclass)).1
  rw [Char.ofNat_toNat, hc] at hnot
  cases hnot

theorem isBlank_of_mem_parts (h : c ∈ parts rounds n) :
    isBlank c = isBlank (Char.ofNat n) := by
  induction rounds generalizing n with
  | zero => rw [List.mem_singleton.mp h]
  | succ rounds ih =>
      rcases parts_succ_cases rounds n with ⟨first, others, hentry, hparts⟩ | hparts
      · have hsame := (of_mem_partEntries hentry).1
        rw [hparts] at h
        rcases List.mem_append.mp h with h | h
        · exact (ih h).trans (hsame first List.mem_cons_self)
        · obtain ⟨m, hm, rfl⟩ := List.mem_map.mp h
          exact hsame m (List.mem_cons_of_mem first hm)
      · rw [hparts] at h
        rw [List.mem_singleton.mp h]

theorem length_parts_of_isBlank (rounds : Nat) (h : isBlank (Char.ofNat n) = true) :
    (parts rounds n).length = 1 := by
  induction rounds generalizing n with
  | zero => rfl
  | succ rounds ih =>
      rcases parts_succ_cases rounds n with ⟨first, others, hentry, hparts⟩ | hparts
      · obtain ⟨hsame, hsingle, -⟩ := of_mem_partEntries hentry
        obtain rfl := hsingle h
        simpa [hparts] using ih ((hsame first List.mem_cons_self).trans h)
      · rw [hparts, List.length_singleton]

/-- A character that is no blank has none in its decomposition, and a blank nothing else. -/
theorem isBlank_of_mem_decomposition (h : d ∈ decomposition c) : isBlank d = isBlank c := by
  unfold decomposition at h
  split at h
  · rename_i hhangul
    obtain ⟨m, hm, rfl⟩ := isHangul_of_mem_hangulLetters hhangul h
    rw [isBlank_ofNat_of_isHangul hm, ← Char.ofNat_toNat c, isBlank_ofNat_of_isHangul hhangul]
  · rw [isBlank_of_mem_parts h, Char.ofNat_toNat]

theorem isBlank_of_pair? (h : pair? a b = some d) :
    isBlank a = false ∧ isBlank b = false ∧ isBlank d = false := by
  obtain ⟨k, rfl, ⟨hfirst, hpair⟩ | hentry⟩ := pair?_cases h
  · obtain ⟨hsecond, hwhole⟩ := isHangul_of_hangulPair? hpair
    rw [← Char.ofNat_toNat a, ← Char.ofNat_toNat b]
    exact ⟨isBlank_ofNat_of_isHangul hfirst, isBlank_ofNat_of_isHangul hsecond,
      isBlank_ofNat_of_isHangul hwhole⟩
  · obtain ⟨hfirst, hsecond, hwhole, -⟩ := of_mem_pairEntries hentry
    rw [Char.ofNat_toNat] at hfirst hsecond
    exact ⟨hfirst, hsecond, hwhole⟩

theorem standsAlone_of_isBlank (hc : isBlank c = true) : StandsAlone c := by
  have hlength : (decomposition c).length = 1 := by
    rw [decomposition, if_neg (not_isHangul_of_isBlank hc)]
    exact length_parts_of_isBlank 4 (by rwa [Char.ofNat_toNat])
  obtain ⟨d, hd⟩ := List.length_eq_one_iff.mp hlength
  have hblank : isBlank d = true := (isBlank_of_mem_decomposition (by simp [hd])).trans hc
  have hnone {a b : Char} (h : isBlank a = true ∨ isBlank b = true) : pair? a b = none := by
    refine Option.eq_none_iff_forall_ne_some.mpr fun e he => ?_
    obtain ⟨ha, hb, -⟩ := isBlank_of_pair? he
    simp [ha, hb] at h
  exact ⟨d, hd, combiningClass_of_isBlank hblank,
    fun b => ⟨hnone (.inr hblank), hnone (.inl hblank)⟩⟩

/-- A text without blanks has none in its composed form. -/
theorem not_isBlank_of_mem_composed (ht : ∀ c ∈ t, isBlank c = false) :
    ∀ c ∈ composed t, isBlank c = false :=
  forall_mem_composed (fun _ _ _ h => (isBlank_of_pair? h).2.2)
    fun c hc _ hd => (isBlank_of_mem_decomposition hd).trans (ht c hc)

/-! ## What comes before the marks begins anew -/

theorem combiningClass_of_lt (hc : c.toNat < 0x300) : combiningClass c = 0 := by
  refine Decidable.byContradiction fun hclass => ?_
  exact absurd (of_mem_classEntries (mem_classEntries hclass)).2 (by simpa using hc)

theorem pair?_eq_none_of_lt (hb : b.toNat < 0x300) (a : Char) : pair? a b = none := by
  refine Option.eq_none_iff_forall_ne_some.mpr fun d hd => ?_
  obtain ⟨k, -, ⟨-, hpair⟩ | hentry⟩ := pair?_cases hd
  · have hsecond := isHangul_iff.mp (isHangul_of_hangulPair? hpair).1
    omega
  · exact absurd (of_mem_pairEntries hentry).2.2.2 (by simpa using hb)

/-- What such a character is taken apart to starts with another one. -/
theorem exists_parts_eq_cons (rounds : Nat) (hn : n < 0x300) :
    ∃ m rest, parts rounds n = Char.ofNat m :: rest ∧ m < 0x300 := by
  induction rounds generalizing n with
  | zero => exact ⟨n, [], rfl, hn⟩
  | succ rounds ih =>
      rcases parts_succ_cases rounds n with ⟨first, others, hentry, hparts⟩ | hparts
      · have hfirst : first < 0x300 := (of_mem_partEntries hentry).2.2 hn
        obtain ⟨m, rest, hm, hlt⟩ := ih hfirst
        exact ⟨m, rest ++ others.map Char.ofNat, by rw [hparts, hm, List.cons_append], hlt⟩
      · exact ⟨n, [], hparts, hn⟩

theorem beginsAnew_of_lt (hc : c.toNat < 0x300) : BeginsAnew c := by
  have hnot : ¬isHangul c.toNat = true := by
    rw [isHangul_iff]
    omega
  obtain ⟨m, rest, hm, hlt⟩ := exists_parts_eq_cons 4 hc
  have hfirst : (Char.ofNat m).toNat < 0x300 := by
    rwa [toNat_ofNat (.inl (by omega))]
  refine ⟨Char.ofNat m, rest, ?_, combiningClass_of_lt hfirst, pair?_eq_none_of_lt hfirst⟩
  rw [decomposition, if_neg hnot, hm]

/-! ## Cuts -/

/-- A text may be cut behind a blank. -/
theorem composed_append_of_isBlank_getLast? (hu : ∀ c ∈ u.getLast?,
    isBlank c = true) (v : Text) :
    composed (u ++ v) = composed u ++ composed v :=
  composed_append_of_getLast? (fun c hc => standsAlone_of_isBlank (hu c hc)) v

/-- A text may be cut in front of a blank. -/
theorem composed_append_of_isBlank_head? (hv : ∀ c ∈ v.head?, isBlank c = true) (u : Text) :
    composed (u ++ v) = composed u ++ composed v :=
  composed_append_of_head? (fun c hc => (standsAlone_of_isBlank (hv c hc)).beginsAnew) u

end ControlSearch.Text
