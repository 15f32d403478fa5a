import ControlSearch.Proofs.Toml.Quoted

/-!
# Values of a TOML document read back

What is written for a value is read as the value up to the end of the line. Readers of dates
and of numbers with a fraction are tried before that of integers, and refuse a numeral that
ends with its line.
-/
namespace ControlSearch.Toml

variable {c : Char} {t u rest : Text} {n fuel : Nat}

/-- A text in front of the end of a line is read as a value. -/
structure Denotes (t : Text) (v : Value) : Prop where
  read (fuel : Nat) (rest : Text) :
  readValue 0 (fuel + 1) (t ++ '\n' :: rest) = some (v, '\n' :: rest)
  /-- Nothing of the text is skipped. -/
  stops : Text.StopsAt isSpace t

/-! ## Digits -/

/-- A text is made of digits. -/
def AllDigits (t : Text) : Prop := ∀ c ∈ t, c.isDigit = true

theorem allDigits_ofNat (n : Nat) : AllDigits (Text.ofNat n) :=
  fun _ hc => Text.isDigit_of_mem_ofNat hc

theorem readDigits_append (hne : t ≠ []) (h : AllDigits t) (rest : Text)
    (hfuel : t.length < fuel) :
    readDigits 10 fuel (t ++ '\n' :: rest) = some (t, '\n' :: rest) := by
  induction t generalizing fuel with
  | nil => exact absurd rfl hne
  | cons c t ih =>
      obtain ⟨fuel, rfl⟩ := Nat.exists_eq_add_one.mpr (Nat.zero_lt_of_lt hfuel)
      obtain ⟨hc, ht⟩ := List.forall_mem_cons.mp h
      cases t with
      | nil =>
          have hend : Text.isDigitOf 10 '\n' = false := by decide
          simp [readDigits, Text.isDigitOf_ten hc, hend]
      | cons d t =>
          have hd : d.isDigit = true := ht d List.mem_cons_self
          have hback := ih (List.cons_ne_nil d t) ht (Nat.lt_of_succ_lt_succ hfuel)
          rw [List.cons_append] at hback
          simp [readDigits, Text.isDigitOf_ten hc, Text.isDigitOf_ten hd, hback,
            Text.ne_of_kind hd (show '_'.isDigit = false by decide)]

theorem readSign_of_isDigit (h : c.isDigit = true) (t : Text) :
    readSign (c :: t) = (false, c :: t) := by
  rw [readSign]
  · exact fun _ heq => Text.ne_of_kind h (by decide) (List.cons_eq_cons.mp heq).1
  · exact fun _ heq => Text.ne_of_kind h (by decide) (List.cons_eq_cons.mp heq).1

theorem readDecimal_ofNat (n : Nat) (rest : Text) :
    readDecimal (Text.ofNat n ++ '\n' :: rest) =
      some (false, Text.ofNat n, '\n' :: rest) := by
  by_cases hzero : n = 0
  · subst hzero
    rfl
  · obtain ⟨d, ds, hn, hdigit⟩ := Text.exists_ofNat_eq_cons n
    have hd : d ≠ '0' := by
      rintro rfl
      exact hzero (Text.eq_zero_of_head?_ofNat (by rw [hn]; rfl))
    have hlength : (Text.ofNat n).length < (Text.ofNat n ++ '\n' :: rest).length + 1 := by
      rw [List.length_append]
      omega
    have hdigits := readDigits_append (Text.ofNat_ne_nil n) (allDigits_ofNat n) rest hlength
    rw [hn, List.cons_append] at hdigits ⊢
    simp only [readDecimal, readSign_of_isDigit hdigit]
    split
    · rename_i heq
      exact absurd (List.cons_eq_cons.mp heq).1 hd
    · rw [hdigits, Option.map_some]

/-! ## Dates -/

/-- Behind a field of a date there are more digits, or the end of the line. -/
theorem of_readField_eq_some {digits least most m : Nat} (h : AllDigits t)
    (hfield : readField digits least most (t ++ '\n' :: rest) = some (m, u)) :
    ∃ c v, u = c :: v ∧ (c.isDigit = true ∨ c = '\n') := by
  have hlength : digits ≤ t.length := by
    by_contra hlt
    have hmem : '\n' ∈ (t ++ '\n' :: rest).take digits := by
      obtain ⟨k, rfl⟩ := Nat.exists_eq_add_of_lt (Nat.lt_of_not_le hlt)
      simp [List.take_append, Nat.add_assoc]
    rw [readField, Text.number?_eq_none hmem (by decide)] at hfield
    cases hfield
  have hu : u = t.drop digits ++ '\n' :: rest := by
    rw [← List.drop_append_of_le_length hlength]
    simp only [readField, Option.bind_eq_bind, Option.bind_eq_some_iff] at hfield
    obtain ⟨k, -, hfield⟩ := hfield
    split at hfield
    · exact (congrArg (·.2) (Option.some_inj.mp hfield)).symm
    · cases hfield
  subst hu
  cases hdrop : t.drop digits with
  | nil => exact ⟨'\n', rest, rfl, .inr rfl⟩
  | cons c v =>
      have hmem : c ∈ t := List.mem_of_mem_drop (hdrop ▸ List.mem_cons_self)
      exact ⟨c, v ++ '\n' :: rest, rfl, .inl (h c hmem)⟩

theorem readTime_eq_none (h : AllDigits t) (rest : Text) :
    readTime (t ++ '\n' :: rest) = none := by
  cases hfield : readField 2 0 23 (t ++ '\n' :: rest) with
  | none => simp [readTime, hfield]
  | some p =>
      obtain ⟨m, u⟩ := p
      obtain ⟨c, v, rfl, hc⟩ := of_readField_eq_some h hfield
      have hcolon : c ≠ ':' := by
        rcases hc with hdigit | rfl
        · exact Text.ne_of_kind hdigit (by decide)
        · decide
      simp [readTime, hfield, readOneOf, hcolon]

theorem readDate_eq_none (h : AllDigits t) (rest : Text) :
    readDate (t ++ '\n' :: rest) = none := by
  rw [readDate]
  split
  · rename_i hfield
    obtain ⟨c, v, heq, hc⟩ := of_readField_eq_some h hfield
    obtain rfl := (List.cons_eq_cons.mp heq).1
    rcases hc with hdigit | hline
    · exact absurd hdigit (by decide)
    · exact absurd hline (by decide)
  · rw [readTime_eq_none h, Option.map_none]

/-! ## Numbers -/

theorem readFloat_ofNat (n : Nat) (rest : Text) :
    readFloat (Text.ofNat n ++ '\n' :: rest) = none := by
  obtain ⟨d, ds, hn, hdigit⟩ := Text.exists_ofNat_eq_cons n
  have hdecimal := readDecimal_ofNat n rest
  rw [hn, List.cons_append] at hdecimal ⊢
  rw [readFloat, readSign_of_isDigit hdigit]
  split
  · rename_i heq
    exact absurd (List.cons_eq_cons.mp heq).1 (Text.ne_of_kind hdigit (by decide))
  · rename_i heq
    exact absurd (List.cons_eq_cons.mp heq).1 (Text.ne_of_kind hdigit (by decide))
  · simp [hdecimal, readExponent]

/-- A numeral does not begin like one of another base. -/
theorem ofNat_append_ne_cons {base : Char} (hline : base ≠ '\n') (n : Nat) (rest u : Text) :
    Text.ofNat n ++ '\n' :: rest ≠ '0' :: base :: u := by
  intro heq
  by_cases hzero : n = 0
  · subst hzero
    exact hline (List.cons_eq_cons.mp (List.cons_eq_cons.mp heq).2).1.symm
  · obtain ⟨d, ds, hn, -⟩ := Text.exists_ofNat_eq_cons n
    rw [hn] at heq
    obtain ⟨rfl, -⟩ := List.cons_eq_cons.mp heq
    exact hzero (Text.eq_zero_of_head?_ofNat (by rw [hn]; rfl))

theorem readInteger_ofNat (h : n < Nat.pow 2 63) (rest : Text) :
    readInteger (Text.ofNat n ++ '\n' :: rest) = some (.integer n, '\n' :: rest) := by
  rw [readInteger]
  · have hbounds : -(Nat.pow 2 63 : Nat) ≤ (n : Int) ∧
        (n : Int) < (Nat.pow 2 63 : Nat) := by omega
    refine Option.bind_eq_some_iff.mpr ⟨_, readDecimal_ofNat n rest, ?_⟩
    refine Option.bind_eq_some_iff.mpr ⟨n, Text.number?_ofNat n, ?_⟩
    exact if_pos hbounds
  · exact ofNat_append_ne_cons (by decide) n rest
  · exact ofNat_append_ne_cons (by decide) n rest
  · exact ofNat_append_ne_cons (by decide) n rest

/-! ## Values -/

/-- The characters that a value begins with unless it is a date or a number. -/
def openings : Text := ['[', '\x7b', '"', '\'', 't', 'f']

theorem readValue_other (h : c ∉ openings) (fuel : Nat) (t : Text) :
    readValue 0 (fuel + 1) (c :: t) =
    (readDate (c :: t) <|> readFloat (c :: t) <|> readInteger (c :: t)) := by
  simp only [openings, List.mem_cons, List.not_mem_nil, or_false, not_or] at h
  rw [readValue]
  · simp [h]
  · exact h.1
  · exact h.2.1

theorem denotes_integer (h : n < Nat.pow 2 63) : Denotes (Text.ofNat n) (.integer n) where
  read fuel rest := by
    obtain ⟨d, ds, hn, hdigit⟩ := Text.exists_ofNat_eq_cons n
    have hd : d ∉ openings := by
      intro hmem
      have hall : openings.all (!·.isDigit) = true := rfl
      have hd := List.all_eq_true.mp hall d hmem
      rw [hdigit] at hd
      cases hd
    have hother := readValue_other hd fuel (ds ++ '\n' :: rest)
    rw [← List.cons_append, ← hn] at hother
    rw [hother, readDate_eq_none (allDigits_ofNat n), readFloat_ofNat, readInteger_ofNat h]
    rfl
  stops := by
    intro c hc
    have hdigit := Text.isDigit_of_mem_ofNat (List.mem_of_head? hc)
    simp [isSpace, Text.ne_of_kind hdigit (d := ' ') rfl,
      Text.ne_of_kind hdigit (d := '\t') rfl]

theorem denotes_true : Denotes "true".toList (.boolean true) where
  read _ _ := rfl
  stops := Text.stopsAt_cons.mpr rfl

theorem denotes_false : Denotes "false".toList (.boolean false) where
  read _ _ := rfl
  stops := Text.stopsAt_cons.mpr rfl

theorem exists_quoted_eq_cons (t : Text) :
    ∃ c u, quoted t = c :: u ∧ (c = '"' ∨ c = '\'') := by
  rw [quoted]
  split
  · exact ⟨_, _, rfl, .inl rfl⟩
  · exact ⟨_, _, rfl, .inr rfl⟩
  · exact ⟨_, _, rfl, .inl rfl⟩
  · exact ⟨_, _, rfl, .inr rfl⟩

theorem denotes_string (t : Text) : Denotes (quoted t) (.string t) where
  read fuel rest := by
    obtain ⟨c, u, hc, hquote⟩ := exists_quoted_eq_cons t
    have hstops : Text.StopsAt isQuote ('\n' :: rest) := Text.stopsAt_cons.mpr rfl
    have hback := readString_quoted t hstops
    rw [hc, List.cons_append] at hback ⊢
    rw [readValue]
    · rw [if_pos hquote, hback, Option.map_some]
    · rcases hquote with rfl | rfl <;> decide
    · rcases hquote with rfl | rfl <;> decide
  stops := by
    obtain ⟨c, u, hc, hquote⟩ := exists_quoted_eq_cons t
    rw [hc, Text.stopsAt_cons]
    rcases hquote with rfl | rfl <;> rfl

end ControlSearch.Toml
