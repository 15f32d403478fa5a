import Mathlib.Data.List.TakeWhile
import ControlSearch.Proofs.Text.Numeral
import ControlSearch.Toml.Quoted
import ControlSearch.Toml.Reader

/-!
# Strings of a TOML document read back

Every text is read back from the string that is written for it, in whichever of the four forms
that is. Over several lines, quotes may stand in a string without an escape, and its reader
looks at a whole run of quotes to tell whether the string ends there. What is written has no
run of three quotes but at its end.
-/
namespace ControlSearch.Toml

variable {c quote : Char} {e t rest : Text} {fuel quotes : Nat} {lines : Bool}

/-! ## Escapes -/

/-- A text is a backslash with the name of a character behind it, which is not the end of a
line. -/
def IsEscape (e : Text) (c : Char) : Prop :=
  ∃ name, e = '\\' :: name ∧ ∀ rest,
    newline? (skipSpaces (name ++ rest)) = none ∧ readEscape (name ++ rest) = some (c, rest)

theorem digitValue?_capitalDigit :
    ∀ n < 16, Text.digitValue? 16 (capitalDigit n) = some n := by decide

theorem isEscape_code (h : c.toNat < 128) : IsEscape
    ['\\', 'u', '0', '0', capitalDigit (c.toNat / 16), capitalDigit (c.toNat % 16)] c := by
  have hnumber := Text.number?_two_digits (digitValue?_capitalDigit (c.toNat / 16) (by omega))
    (digitValue?_capitalDigit (c.toNat % 16) (by omega))
  have hvalid : c.toNat.isValidChar := .inl (by omega)
  refine ⟨_, rfl, fun rest => ⟨rfl, ?_⟩⟩
  simp only [List.cons_append, List.nil_append, readEscape, codeChar?, hnumber,
    Option.bind_some, if_pos hvalid, Char.ofNat_toNat, Option.map_some]

theorem isEscape_quote : IsEscape ['\\', '"'] '"' := ⟨['"'], rfl, fun _ => ⟨rfl, rfl⟩⟩

/-- The characters that always have a short escape between double quotes. -/
def shortEscapes : Text := ['\x08', '\t', '\x0c', '\r', '\\']

theorem isEscape_of_mem (h : c ∈ shortEscapes) (lines : Bool) :
    IsEscape (escaped lines c) c := by
  simp only [shortEscapes, List.mem_cons, List.not_mem_nil, or_false] at h
  rcases h with rfl | rfl | rfl | rfl | rfl <;> exact ⟨_, rfl, fun _ => ⟨rfl, rfl⟩⟩

theorem escaped_of_not_mem (h : c ∉ shortEscapes) (hline : c ≠ '\n') : escaped lines c =
    if isControl c then
      ['\\', 'u', '0', '0', capitalDigit (c.toNat / 16), capitalDigit (c.toNat % 16)]
    else [c] := by
  simp only [shortEscapes, List.mem_cons, List.not_mem_nil, or_false, not_or] at h
  simp [escaped, h, hline]

/-! ## Characters that stand for themselves -/

theorem lt_of_isControl (h : isControl c = true) : c.toNat < 128 := by
  simp only [isControl, Bool.or_eq_true, Bool.and_eq_true, decide_eq_true_eq, beq_iff_eq] at h
  omega

theorem of_isControl_eq_false (h : isControl c = false) (hline : c ≠ '\n') :
    c = '\t' ∨ 0x20 ≤ c.toNat ∧ c.toNat ≠ 0x7F := by
  by_cases htab : c = '\t'
  · exact .inl htab
  · simp only [isControl, bne_iff_ne.mpr htab, bne_iff_ne.mpr hline, Bool.and_true,
      Bool.or_eq_false_iff, decide_eq_false_iff_not, beq_eq_false_iff_ne] at h
    exact .inr ⟨by omega, h.2⟩

theorem isBasic_of_not_control (h : isControl c = false) (hline : c ≠ '\n') (hquote : c ≠ '"')
    (hslash : c ≠ '\\') : isBasic c = true := by
  rcases of_isControl_eq_false h hline with rfl | ⟨hlow, hdelete⟩
  · rfl
  · simp [isBasic, hlow, hdelete, hquote, hslash]

theorem isLiteral_of_not_control (h : isControl c = false) (hline : c ≠ '\n')
    (hquote : c ≠ '\'') :
    isLiteral c = true := by
  rcases of_isControl_eq_false h hline with rfl | ⟨hlow, hdelete⟩
  · rfl
  · simp [isLiteral, hlow, hdelete, hquote]

/-- A character is written as an escape of it or as itself, which is then read as it
stands. -/
theorem escaped_cases (lines : Bool) (hquote : c ≠ '"') : IsEscape (escaped lines c) c ∨
    escaped lines c = [c] ∧ (isBasic c = true ∨ lines = true ∧ c = '\n') := by
  by_cases hmem : c ∈ shortEscapes
  · exact .inl (isEscape_of_mem hmem lines)
  by_cases hline : c = '\n'
  · subst hline
    cases lines with
    | false => exact .inl ⟨_, rfl, fun _ => ⟨rfl, rfl⟩⟩
    | true => exact .inr ⟨rfl, .inr ⟨rfl, rfl⟩⟩
  rw [escaped_of_not_mem hmem hline]
  cases hcontrol : isControl c with
  | true => exact .inl (isEscape_code (lt_of_isControl hcontrol))
  | false =>
      have hslash : c ≠ '\\' := by
        rintro rfl
        exact hmem (by decide)
      exact .inr ⟨rfl, .inl (isBasic_of_not_control hcontrol hline hquote hslash)⟩

theorem ne_of_isBasic (h : isBasic c = true) : c ≠ '"' ∧ c ≠ '\\' ∧ c ≠ '\n' ∧ c ≠ '\r' := by
  refine ⟨?_, ?_, ?_, ?_⟩ <;> rintro rfl <;> exact absurd h (by decide)

/-- What is written for a character begins with no quote and ends no line, unless the
character does. -/
theorem exists_escaped_eq_cons (lines : Bool) (hquote : c ≠ '"') :
    ∃ d ds, escaped lines c = d :: ds ∧ d ≠ '"' ∧ d ≠ '\r' ∧ (d = '\n' → c = '\n') := by
  rcases escaped_cases lines hquote with ⟨name, he, -⟩ | ⟨he, hplain⟩
  · exact ⟨'\\', name, he, by decide, by decide, fun h => absurd h (by decide)⟩
  · refine ⟨c, [], he, hquote, ?_, id⟩
    rcases hplain with hbasic | ⟨-, rfl⟩
    · exact (ne_of_isBasic hbasic).2.2.2
    · decide

/-- The text for one character stands in front of the text for the others. -/
theorem exists_escapeAll_cons (lines : Bool) (quotes : Nat) (c : Char) (t : Text) :
    ∃ e after, escapeAll lines quotes (c :: t) = e ++ escapeAll lines after t ∧ after ≤ 2 ∧
      (IsEscape e c ∨
        e = [c] ∧ (isBasic c = true ∨ lines = true ∧ (c = '"' ∨ c = '\n'))) := by
  rw [escapeAll]
  split
  · rename_i hquote
    subst hquote
    split
    · rename_i hfew
      rw [Bool.and_eq_true, decide_eq_true_eq] at hfew
      exact ⟨['"'], quotes + 1, rfl, hfew.2, .inr ⟨rfl, .inr ⟨hfew.1, .inl rfl⟩⟩⟩
    · exact ⟨['\\', '"'], 0, rfl, by omega, .inl isEscape_quote⟩
  · rename_i hquote
    refine ⟨escaped lines c, 0, rfl, by omega, (escaped_cases lines hquote).imp_right ?_⟩
    exact And.imp_right (Or.imp_right (And.imp_right .inr))

theorem IsEscape.length_pos (h : IsEscape e c) : 0 < e.length := by
  obtain ⟨name, rfl, -⟩ := h
  exact Nat.succ_pos _

theorem length_le_escapeAll (lines : Bool) (quotes : Nat) (t : Text) :
    t.length ≤ (escapeAll lines quotes t).length := by
  induction t generalizing quotes with
  | nil => exact Nat.zero_le _
  | cons c t ih =>
      obtain ⟨e, after, he, -, hcase⟩ := exists_escapeAll_cons lines quotes c t
      have hpos : 0 < e.length := by
        rcases hcase with hescape | ⟨rfl, -⟩
        · exact hescape.length_pos
        · exact Nat.succ_pos _
      have hlength := ih after
      rw [he, List.length_append, List.length_cons]
      omega

/-! ## One line -/

/-- Puts a character in front of the text that was read. -/
def withChar (c : Char) : Option (Text × Text) → Option (Text × Text) :=
  Option.map fun p => (c :: p.1, p.2)

theorem readBasic_escape (h : IsEscape e c) (rest : Text) :
    readBasic (fuel + 1) (e ++ rest) = withChar c (readBasic fuel rest) := by
  obtain ⟨name, rfl, hname⟩ := h
  rw [List.cons_append, readBasic, (hname rest).2]
  cases h : readBasic fuel rest <;> simp [h, withChar]

theorem readBasic_plain (h : isBasic c = true) (rest : Text) :
    readBasic (fuel + 1) (c :: rest) = withChar c (readBasic fuel rest) := by
  obtain ⟨hquote, hslash, -⟩ := ne_of_isBasic h
  rw [readBasic]
  · rw [if_pos h]
    rfl
  · exact hquote
  · exact hslash

/-- A text on one line is read back from between double quotes. -/
theorem readBasic_escapeAll (quotes : Nat) (t rest : Text) (hfuel : t.length < fuel) :
    readBasic fuel (escapeAll false quotes t ++ '"' :: rest) = some (t, rest) := by
  induction t generalizing quotes fuel with
  | nil =>
      obtain ⟨fuel, rfl⟩ := Nat.exists_eq_add_one.mpr hfuel
      rfl
  | cons c t ih =>
      obtain ⟨fuel, rfl⟩ := Nat.exists_eq_add_one.mpr (Nat.zero_lt_of_lt hfuel)
      obtain ⟨e, after, he, -, hcase⟩ := exists_escapeAll_cons false quotes c t
      have hback := ih after (Nat.lt_of_succ_lt_succ hfuel)
      rw [he, List.append_assoc]
      rcases hcase with hescape | ⟨rfl, hplain⟩
      · rw [readBasic_escape hescape, hback]
        rfl
      · rw [List.singleton_append, readBasic_plain (by simpa using hplain), hback]
        rfl

/-- A text without quotes and control characters is read back from between single quotes. -/
theorem readLiteral_append (h : ∀ c ∈ t, isLiteral c = true) (rest : Text) :
    readLiteral (t ++ '\'' :: rest) = some (t, rest) := by
  have hstops : Text.StopsAt isLiteral ('\'' :: rest) := Text.stopsAt_cons.mpr rfl
  simp only [readLiteral, Text.dropWhile_append_of_stopsAt h hstops,
    Text.takeWhile_append_of_stopsAt h hstops]

/-! ## Runs of quotes -/

/-- Three quotes that no other follows close a string, and up to two in front of them belong
to it. -/
theorem closing?_append (h : ∀ c ∈ t, c = quote) (hlength : t.length ≤ 2)
    (hrest : Text.StopsAt (· == quote) rest) :
    closing? quote (t ++ (List.replicate 3 quote ++ rest)) = some (t, rest) := by
  obtain ⟨k, rfl⟩ : ∃ k, t = List.replicate k quote := ⟨_, List.eq_replicate_of_mem h⟩
  have hall : ∀ c ∈ List.replicate (k + 3) quote, (c == quote) = true :=
    fun c hc => beq_iff_eq.mpr (List.eq_of_mem_replicate hc)
  have hrun := Text.takeWhile_append_of_stopsAt hall hrest
  rw [List.length_replicate] at hlength
  have hmin : min (k + 3) 5 = k + 3 := by omega
  rw [← List.append_assoc, List.replicate_append_replicate, closing?, hrun,
    List.length_replicate, if_neg (by omega), hmin, List.drop_left' List.length_replicate,
    Nat.add_sub_cancel]

/-- No string is closed behind fewer quotes than three. -/
theorem closing?_eq_none (hrun : (t.takeWhile (· == quote)).length ≤ 2)
    (h : ¬∀ c ∈ t, c = quote) (rest : Text) : closing? quote (t ++ rest) = none := by
  have hshort : ¬(t.takeWhile (· == quote)).length = t.length := by
    intro hlength
    have hall :=
      List.takeWhile_eq_self_iff.mp ((List.takeWhile_prefix _).eq_of_length hlength)
    exact h fun c hc => beq_iff_eq.mp (hall c hc)
  rw [closing?, List.takeWhile_append, if_neg hshort, if_pos (by omega)]

/-- Between escapes there are two quotes at most, with those that were written before. -/
theorem length_takeWhile_escapeAll (hquotes : quotes ≤ 2) (t : Text) :
    ((escapeAll true quotes t).takeWhile (· == '"')).length ≤ 2 - quotes := by
  induction t generalizing quotes with
  | nil => exact Nat.zero_le _
  | cons c t ih =>
      rw [escapeAll]
      split
      · rename_i hquote
        subst hquote
        split
        · rename_i hfew
          have hlt : quotes < 2 := by simpa using hfew
          rw [List.takeWhile_cons_of_pos rfl, List.length_cons]
          have := ih (show quotes + 1 ≤ 2 by omega)
          omega
        · exact Nat.zero_le _
      · rename_i hquote
        obtain ⟨d, ds, he, hd, -⟩ := exists_escaped_eq_cons true hquote
        rw [he, List.cons_append, List.takeWhile_cons_of_neg (by simpa using hd)]
        exact Nat.zero_le _

/-- Where nothing but quotes is written, they are the text. -/
theorem escapeAll_eq_self (h : ∀ c ∈ escapeAll true quotes t, c = '"') :
    escapeAll true quotes t = t := by
  induction t generalizing quotes with
  | nil => rfl
  | cons c t ih =>
      rw [escapeAll] at h ⊢
      split
      · rename_i hquote
        rw [if_pos hquote] at h
        split
        · rename_i hfew
          rw [if_pos hfew] at h
          rw [ih fun d hd => h d (List.mem_cons_of_mem c hd)]
        · rename_i hfew
          rw [if_neg hfew] at h
          exact absurd (h '\\' List.mem_cons_self) (by decide)
      · rename_i hquote
        rw [if_neg hquote] at h
        obtain ⟨d, ds, he, hd, -⟩ := exists_escaped_eq_cons true hquote
        exact absurd (h d (by simp [he])) hd

/-! ## Several lines -/

theorem readBasicLines_closed {found : Text × Text} (h : closing? '"' t = some found) :
    readBasicLines (fuel + 1) t = some found := by
  unfold readBasicLines
  rw [h]

theorem readBasicLines_escape (h : IsEscape e c) (rest : Text) :
    readBasicLines (fuel + 1) (e ++ rest) = withChar c (readBasicLines fuel rest) := by
  obtain ⟨name, rfl, hname⟩ := h
  obtain ⟨hline, hread⟩ := hname rest
  have hclosing : closing? '"' ('\\' :: (name ++ rest)) = none := rfl
  rw [List.cons_append, readBasicLines, hclosing]
  simp only [hline, hread]
  cases h : readBasicLines fuel rest <;> simp [h, withChar]

theorem readBasicLines_plain (hclosing : closing? '"' (c :: rest) = none)
    (h : c = '"' ∨ isBasic c = true) :
    readBasicLines (fuel + 1) (c :: rest) = withChar c (readBasicLines fuel rest) := by
  have hslash : c ≠ '\\' := by
    rcases h with rfl | hbasic
    · decide
    · exact (ne_of_isBasic hbasic).2.1
  rw [readBasicLines, hclosing]
  · simp only [if_pos h]
    rfl
  · exact hslash

theorem readBasicLines_newline (rest : Text) :
    readBasicLines (fuel + 1) ('\n' :: rest) = withChar '\n' (readBasicLines fuel rest) := by
  have hclosing : closing? '"' ('\n' :: rest) = none := rfl
  rw [readBasicLines, hclosing]
  · cases h : readBasicLines fuel rest <;> simp [newline?, isBasic, h, withChar]
  · decide

/-- A text over several lines is read back from in front of three double quotes. -/
theorem readBasicLines_escapeAll (hquotes : quotes ≤ 2)
    (hrest : Text.StopsAt (· == '"') rest) (t : Text) (hfuel : t.length < fuel) :
    readBasicLines fuel (escapeAll true quotes t ++ (List.replicate 3 '"' ++ rest)) =
      some (t, rest) := by
  induction t generalizing quotes fuel with
  | nil =>
      obtain ⟨fuel, rfl⟩ := Nat.exists_eq_add_one.mpr hfuel
      exact readBasicLines_closed
        (closing?_append (List.forall_mem_nil _) (Nat.zero_le _) hrest)
  | cons c t ih =>
      obtain ⟨fuel, rfl⟩ := Nat.exists_eq_add_one.mpr (Nat.zero_lt_of_lt hfuel)
      have hrun := length_takeWhile_escapeAll hquotes (c :: t)
      by_cases hall : ∀ d ∈ escapeAll true quotes (c :: t), d = '"'
      · -- The quotes at the end are read together with the three that close the string.
        have hself := escapeAll_eq_self hall
        rw [List.takeWhile_eq_self_iff.mpr (by simpa using hall)] at hrun
        rw [hself] at hall hrun ⊢
        exact readBasicLines_closed (closing?_append hall (by omega) hrest)
      have hclosing := closing?_eq_none (by omega) hall (List.replicate 3 '"' ++ rest)
      obtain ⟨e, after, he, hafter, hcase⟩ := exists_escapeAll_cons true quotes c t
      have hback := ih hafter (Nat.lt_of_succ_lt_succ hfuel)
      rw [he, List.append_assoc] at hclosing ⊢
      rcases hcase with hescape | ⟨rfl, hbasic | ⟨-, rfl | rfl⟩⟩
      · rw [readBasicLines_escape hescape, hback]
        rfl
      · rw [List.singleton_append] at hclosing ⊢
        rw [readBasicLines_plain hclosing (.inr hbasic), hback]
        rfl
      · rw [List.singleton_append] at hclosing ⊢
        rw [readBasicLines_plain hclosing (.inl rfl), hback]
        rfl
      · rw [List.singleton_append, readBasicLines_newline, hback]
        rfl

/-! ## Several lines without escapes -/

theorem longestRun_mono {m n : Nat} (h : m ≤ n) (t : Text) :
    longestRun c m t ≤ longestRun c n t := by
  induction t generalizing m n with
  | nil => exact h
  | cons d t ih =>
      rw [longestRun, longestRun]
      split
      · exact ih (Nat.succ_le_succ h)
      · exact max_le_max_right _ h

theorem longestRun_le_cons (d : Char) (t : Text) :
    longestRun c 0 t ≤ longestRun c 0 (d :: t) := by
  rw [longestRun]
  split
  · exact longestRun_mono (Nat.zero_le _) t
  · exact le_max_right _ _

theorem length_takeWhile_le_longestRun (n : Nat) (t : Text) :
    n + (t.takeWhile (· == c)).length ≤ longestRun c n t := by
  induction t generalizing n with
  | nil => exact Nat.le_refl n
  | cons d t ih =>
      rw [longestRun]
      split
      · rename_i heq
        subst heq
        rw [List.takeWhile_cons, if_pos (beq_self_eq_true d), List.length_cons]
        have := ih (n + 1)
        omega
      · rename_i hne
        rw [List.takeWhile_cons_of_neg (by simpa using hne)]
        exact le_max_left _ _

theorem readLiteralLines_closed {found : Text × Text} (h : closing? '\'' t = some found) :
    readLiteralLines (fuel + 1) t = some found := by
  unfold readLiteralLines
  rw [h]

theorem readLiteralLines_plain (hclosing : closing? '\'' (c :: rest) = none)
    (h : isControl c = false) :
    readLiteralLines (fuel + 1) (c :: rest) = withChar c (readLiteralLines fuel rest) := by
  rw [readLiteralLines, hclosing]
  by_cases hline : c = '\n'
  · subst hline
    cases h : readLiteralLines fuel rest <;> simp [newline?, isLiteral, h, withChar]
  · have hstands : c = '\'' ∨ isLiteral c = true :=
      or_iff_not_imp_left.mpr fun hquote => isLiteral_of_not_control h hline hquote
    simp only [if_pos hstands]
    rfl

/-- A text without control characters and without runs of three quotes is read back from in
front of three quotes. -/
theorem readLiteralLines_append (hclean : ∀ c ∈ t, isControl c = false)
    (hlongest : longestRun '\'' 0 t ≤ 2) (hrest : Text.StopsAt (· == '\'') rest)
    (hfuel : t.length < fuel) :
    readLiteralLines fuel (t ++ (List.replicate 3 '\'' ++ rest)) = some (t, rest) := by
  induction t generalizing fuel with
  | nil =>
      obtain ⟨fuel, rfl⟩ := Nat.exists_eq_add_one.mpr hfuel
      exact readLiteralLines_closed
        (closing?_append (List.forall_mem_nil _) (Nat.zero_le _) hrest)
  | cons c t ih =>
      obtain ⟨fuel, rfl⟩ := Nat.exists_eq_add_one.mpr (Nat.zero_lt_of_lt hfuel)
      have hrun := length_takeWhile_le_longestRun (c := '\'') 0 (c :: t)
      by_cases hall : ∀ d ∈ c :: t, d = '\''
      · rw [List.takeWhile_eq_self_iff.mpr (by simpa using hall)] at hrun
        exact readLiteralLines_closed (closing?_append hall (by omega) hrest)
      have hclosing := closing?_eq_none (by omega) hall (List.replicate 3 '\'' ++ rest)
      obtain ⟨hc, ht⟩ := List.forall_mem_cons.mp hclean
      rw [List.cons_append] at hclosing ⊢
      rw [readLiteralLines_plain hclosing hc, ih ht ((longestRun_le_cons c t).trans hlongest)
        (Nat.lt_of_succ_lt_succ hfuel)]
      rfl

/-! ## The forms of a string -/

theorem of_choose_eq_literal (h : Quoting.choose t = .literal) :
    (∀ c ∈ t, isControl c = false) ∧ '\'' ∉ t ∧ '\n' ∉ t := by
  simp only [Quoting.choose] at h
  split at h
  · cases h
  · split at h
    · rename_i hliteral
      simpa [and_assoc] using hliteral
    · split_ifs at h

theorem of_choose_eq_literalLines (h : Quoting.choose t = .literalLines) :
    (∀ c ∈ t, isControl c = false) ∧ longestRun '\'' 0 t ≤ 2 := by
  simp only [Quoting.choose] at h
  split_ifs at h
  rename_i hlines
  simpa using hlines

theorem newline?_cons (hline : c ≠ '\n') (hreturn : c ≠ '\r') (t : Text) :
    newline? (c :: t) = none := by
  rw [newline?] <;> simp [hline, hreturn]

/-- Behind the opening quotes, the end of a line is dropped if one was put there. -/
theorem dropFirstNewline_opening (h : '\n' ∉ t → newline? rest = none) :
    dropFirstNewline (opening t ++ rest) = rest := by
  rw [opening]
  by_cases hline : '\n' ∈ t
  · rw [if_pos (by simpa using hline)]
    rfl
  · rw [if_neg (by simpa using hline), List.nil_append, dropFirstNewline, h hline,
      Option.getD_none]

/-- What is written between double quotes begins with the end of a line only if the text
does. -/
theorem newline?_escapeAll (h : '\n' ∉ t) (rest : Text) :
    newline? (escapeAll true 0 t ++ '"' :: rest) = none := by
  cases t with
  | nil => rfl
  | cons c t =>
      by_cases hquote : c = '"'
      · subst hquote
        rfl
      · obtain ⟨d, ds, he, -, hreturn, hline⟩ := exists_escaped_eq_cons true hquote
        rw [escapeAll, if_neg hquote, he]
        exact newline?_cons (fun hd => h (hline hd ▸ List.mem_cons_self)) hreturn _

/-- A text without control characters begins with the end of a line only if it has such an
end. -/
theorem newline?_of_clean (hclean : ∀ c ∈ t, isControl c = false) (h : '\n' ∉ t)
    (rest : Text) :
    newline? (t ++ '\'' :: rest) = none := by
  cases t with
  | nil => rfl
  | cons c t =>
      refine newline?_cons (fun hc => h (hc ▸ List.mem_cons_self)) ?_ _
      rintro rfl
      exact absurd (hclean '\r' List.mem_cons_self) (by decide)

theorem readString_basic (h : ¬['"', '"'] <+: t) :
    readString ('"' :: t) = readBasic (t.length + 1) t := by
  rw [readString]
  rintro rest ⟨⟩
  exact h (List.prefix_append ['"', '"'] rest)

theorem readString_literal (h : ¬['\'', '\''] <+: t) :
    readString ('\'' :: t) = readLiteral t := by
  rw [readString]
  rintro rest ⟨⟩
  exact h (List.prefix_append ['\'', '\''] rest)

theorem readString_basicLines (t : Text) : readString (List.replicate 3 '"' ++ t) =
    readBasicLines ((dropFirstNewline t).length + 1) (dropFirstNewline t) := rfl

theorem readString_literalLines (t : Text) : readString (List.replicate 3 '\'' ++ t) =
    readLiteralLines ((dropFirstNewline t).length + 1) (dropFirstNewline t) := rfl

/-- In front of the quote that closes a string, and behind it, there is no other. -/
theorem not_two_quotes_isPrefix (h : t.head? ≠ some quote)
    (hrest : Text.StopsAt (· == quote) rest) :
    ¬[quote, quote] <+: t ++ quote :: rest := by
  rintro ⟨u, hu⟩
  cases t with
  | nil =>
      obtain rfl := (List.cons_eq_cons.mp hu).2
      exact absurd (Text.stopsAt_cons.mp hrest) (by simp)
  | cons c t => exact h (congrArg some (List.cons_eq_cons.mp hu).1.symm)

theorem head?_escapeAll_ne_quote (t : Text) :
    (escapeAll false quotes t).head? ≠ some '"' := by
  cases t with
  | nil => nofun
  | cons c t =>
      obtain ⟨e, after, he, -, hcase⟩ := exists_escapeAll_cons false quotes c t
      rw [he]
      rcases hcase with ⟨name, rfl, -⟩ | ⟨rfl, hplain⟩
      · exact fun h => absurd (Option.some_inj.mp h) (by decide)
      · have hbasic : isBasic c = true := by simpa using hplain
        exact fun h => (ne_of_isBasic hbasic).1 (Option.some_inj.mp h)

theorem readString_basicForm (t : Text) (hrest : Text.StopsAt (· == '"') rest) :
    readString ('"' :: escapeAll false 0 t ++ ['"'] ++ rest) = some (t, rest) := by
  simp only [List.cons_append, List.append_assoc, List.nil_append]
  rw [readString_basic (not_two_quotes_isPrefix (head?_escapeAll_ne_quote t) hrest),
    readBasic_escapeAll 0 t rest]
  have hlength := length_le_escapeAll false 0 t
  rw [List.length_append]
  omega

theorem readString_literalForm (hclean : ∀ c ∈ t, isControl c = false) (hquote : '\'' ∉ t)
    (hline : '\n' ∉ t) (hrest : Text.StopsAt (· == '\'') rest) :
    readString ('\'' :: t ++ ['\''] ++ rest) = some (t, rest) := by
  have hliteral : ∀ c ∈ t, isLiteral c = true := fun c hc =>
    isLiteral_of_not_control (hclean c hc) (fun h => hline (h ▸ hc)) (fun h =>
      hquote (h ▸ hc))
  have hhead : t.head? ≠ some '\'' := fun h => hquote (List.mem_of_head? h)
  simp only [List.cons_append, List.append_assoc, List.nil_append]
  rw [readString_literal (not_two_quotes_isPrefix hhead hrest), readLiteral_append hliteral]

theorem readString_basicLinesForm (t : Text) (hrest : Text.StopsAt (· == '"') rest) :
    readString (List.replicate 3 '"' ++ opening t ++ escapeAll true 0 t ++
      List.replicate 3 '"' ++ rest) =
      some (t, rest) := by
  have hdrop :
      dropFirstNewline (opening t ++ (escapeAll true 0 t ++ (List.replicate 3 '"' ++ rest))) =
      escapeAll true 0 t ++ (List.replicate 3 '"' ++ rest) :=
    dropFirstNewline_opening fun hline => newline?_escapeAll hline _
  simp only [List.append_assoc]
  rw [readString_basicLines, hdrop, readBasicLines_escapeAll (Nat.zero_le _) hrest t]
  have hlength := length_le_escapeAll true 0 t
  rw [List.length_append]
  omega

theorem readString_literalLinesForm (hclean : ∀ c ∈ t, isControl c = false)
    (hlongest : longestRun '\'' 0 t ≤ 2) (hrest : Text.StopsAt (· == '\'') rest) :
    readString (List.replicate 3 '\'' ++ opening t ++ t ++ List.replicate 3 '\'' ++ rest) =
      some (t, rest) := by
  have hdrop : dropFirstNewline (opening t ++ (t ++ (List.replicate 3 '\'' ++ rest))) =
      t ++ (List.replicate 3 '\'' ++ rest) :=
    dropFirstNewline_opening fun hline => newline?_of_clean hclean hline _
  simp only [List.append_assoc]
  rw [readString_literalLines, hdrop, readLiteralLines_append hclean hlongest hrest]
  rw [List.length_append]
  omega

/-- The quotes that no string is followed by. -/
def isQuote (c : Char) : Bool := c == '"' || c == '\''

/-- A text is read back from its string. -/
theorem readString_quoted (t : Text) (hrest : Text.StopsAt isQuote rest) :
    readString (quoted t ++ rest) = some (t, rest) := by
  have hdouble : Text.StopsAt (· == '"') rest :=
    fun c hc => (Bool.or_eq_false_iff.mp (hrest c hc)).1
  have hsingle : Text.StopsAt (· == '\'') rest :=
    fun c hc => (Bool.or_eq_false_iff.mp (hrest c hc)).2
  cases hform : Quoting.choose t with
  | basic =>
      rw [quoted, hform]
      exact readString_basicForm t hdouble
  | literal =>
      obtain ⟨hclean, hquote, hline⟩ := of_choose_eq_literal hform
      rw [quoted, hform]
      exact readString_literalForm hclean hquote hline hsingle
  | basicLines =>
      rw [quoted, hform]
      exact readString_basicLinesForm t hdouble
  | literalLines =>
      obtain ⟨hclean, hlongest⟩ := of_choose_eq_literalLines hform
      rw [quoted, hform]
      exact readString_literalLinesForm hclean hlongest hsingle

end ControlSearch.Toml
