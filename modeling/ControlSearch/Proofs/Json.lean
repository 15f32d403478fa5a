import ControlSearch.Json
import ControlSearch.Proofs.Text.Numeral

/-!
# JSON read back

Every value whose numbers are integers and whose strings are texts is read back from what is
written for it, whatever stands behind it, as long as that does not go on with a number. So a
value is read back from its own text.
-/
namespace ControlSearch.Json

variable {c : Char} {t rest : Text} {n : Nat}

/-! ## Values that are known -/

mutual

/-- Every number in a value is an integer, and every string and every name a text. -/
def IsKnown : Json → Prop
  | null | bool _ => True
  | number value => value.isSome
  | string value => value.isSome
  | array items => AreKnown items
  | object members => AreKnownMembers members

def AreKnown : List Json → Prop
  | [] => True
  | item :: items => item.IsKnown ∧ AreKnown items

def AreKnownMembers : List (Option Text × Json) → Prop
  | [] => True
  | (name, value) :: members => name.isSome ∧ value.IsKnown ∧ AreKnownMembers members

end

variable {items : List Json} {members : List (Option Text × Json)}

theorem areKnown_iff : AreKnown items ↔ ∀ item ∈ items, item.IsKnown := by
  induction items with
  | nil => simp [AreKnown]
  | cons item items ih => rw [AreKnown, ih, List.forall_mem_cons]

theorem areKnownMembers_iff :
    AreKnownMembers members ↔ ∀ m ∈ members, m.1.isSome ∧ m.2.IsKnown := by
  induction members with
  | nil => simp [AreKnownMembers]
  | cons m members ih =>
      obtain ⟨name, value⟩ := m
      rw [AreKnownMembers, ih, List.forall_mem_cons, and_assoc]

/-! ## Strings -/

/-- Puts a character in front of the elements of a string that were read. -/
def withChar (c : Char) : Option (List Unit16 × Text) → Option (List Unit16 × Text) :=
  Option.map fun p => (.char c :: p.1, p.2)

theorem readString_short {d : Char} (hd : d ≠ 'u') (h : unescaped? d = some c) (rest : Text) :
    readString ('\\' :: d :: rest) = withChar c (readString rest) := by
  rw [readString]
  · rw [h]
    cases readString rest <;> rfl
  · exact fun _ _ _ _ _ hu => absurd hu hd

theorem readString_code {a b e f : Char} (hnumber : Text.number? 16 [a, b, e, f] = some n)
    (hn : n < 0xD800) (rest : Text) : readString ('\\' :: 'u' :: a :: b :: e :: f :: rest) =
      withChar (Char.ofNat n) (readString rest) := by
  have hhalf : ¬(0xD800 ≤ n ∧ n ≤ 0xDFFF) := by omega
  rw [readString, hnumber]
  simp only [Option.bind_eq_bind, Option.bind_some, if_neg hhalf]
  cases readString rest <;> rfl

theorem readString_plain (hquote : c ≠ '"') (hslash : c ≠ '\\') (h : 0x20 ≤ c.toNat)
    (rest : Text) :
    readString (c :: rest) = withChar c (readString rest) := by
  rw [readString]
  · rw [if_neg (by omega)]
    cases readString rest <;> rfl
  · exact hquote
  · exact fun _ _ _ _ _ h _ => hslash h
  · exact fun _ _ h _ => hslash h

theorem digitValue?_hexDigit :
    ∀ n < 16, Text.digitValue? 16 (hexDigit n) = some n := by decide

theorem number?_hexDigits (h : n < 256) :
    Text.number? 16 ['0', '0', hexDigit (n / 16), hexDigit (n % 16)] = some n :=
  Text.number?_two_digits (digitValue?_hexDigit (n / 16) (by omega))
    (digitValue?_hexDigit (n % 16) (by omega))

/-- The characters that have a short escape. -/
def shortEscapes : Text := ['"', '\\', '\x08', '\x0c', '\n', '\r', '\t']

theorem escaped_of_mem (h : c ∈ shortEscapes) :
    ∃ d, escaped c = ['\\', d] ∧ d ≠ 'u' ∧ unescaped? d = some c := by
  simp only [shortEscapes, List.mem_cons, List.not_mem_nil, or_false] at h
  rcases h with rfl | rfl | rfl | rfl | rfl | rfl | rfl <;> exact ⟨_, rfl, by decide, rfl⟩

theorem escaped_of_not_mem (h : c ∉ shortEscapes) : escaped c =
    if c.toNat < 0x20 then
      ['\\', 'u', '0', '0', hexDigit (c.toNat / 16), hexDigit (c.toNat % 16)]
    else [c] := by
  simp only [shortEscapes, List.mem_cons, List.not_mem_nil, or_false, not_or] at h
  simp [escaped, h]

/-- What is written for a character is read as the character. -/
theorem readString_escaped (c : Char) (rest : Text) :
    readString (escaped c ++ rest) = withChar c (readString rest) := by
  by_cases hmem : c ∈ shortEscapes
  · obtain ⟨d, hd, hu, hc⟩ := escaped_of_mem hmem
    rw [hd]
    exact readString_short hu hc rest
  · rw [escaped_of_not_mem hmem]
    split
    · rename_i hcontrol
      have hcode :=
        readString_code (number?_hexDigits (n := c.toNat) (by omega)) (by omega) rest
      rwa [Char.ofNat_toNat] at hcode
    · rename_i hplain
      refine readString_plain ?_ ?_ (by omega) rest
      · rintro rfl
        exact hmem (by decide)
      · rintro rfl
        exact hmem (by decide)

/-- A text is read back from between its quotes. -/
theorem readString_flatMap_escaped (t rest : Text) :
    readString (t.flatMap escaped ++ '"' :: rest) = some (t.map .char, rest) := by
  induction t with
  | nil => rfl
  | cons c t ih =>
      rw [List.flatMap_cons, List.append_assoc, readString_escaped, ih]
      rfl

theorem joinHalves_map_char (t : Text) : joinHalves (t.map .char) = some t := by
  induction t with
  | nil => rfl
  | cons c t ih => rw [List.map_cons, joinHalves, ih, Option.map_some]

/-! ## Numbers -/

/-- What may stand behind a number without going on with it. -/
def EndsNumber (rest : Text) : Prop :=
  ∀ c ∈ rest.head?, c.isDigit = false ∧ c ≠ '.' ∧ c ≠ 'e' ∧ c ≠ 'E'

theorem endsNumber_nil : EndsNumber [] := by simp [EndsNumber]

theorem endsNumber_cons (h : c ∈ [',', ']', '\x7d']) (rest : Text) :
    EndsNumber (c :: rest) := by
  simp only [EndsNumber, List.head?_cons, Option.mem_some_iff, forall_eq']
  simp only [List.mem_cons, List.not_mem_nil, or_false] at h
  rcases h with rfl | rfl | rfl <;> decide

theorem readDigits_ofNat (n : Nat) (hrest : Text.StopsAt Char.isDigit rest) :
    readDigits (Text.ofNat n ++ rest) = some (Text.ofNat n, rest) := by
  have hdigits : ∀ c ∈ Text.ofNat n, c.isDigit = true :=
    fun c hc => Text.isDigit_of_mem_ofNat hc
  have hne : (Text.ofNat n).isEmpty = false := by simpa using Text.ofNat_ne_nil n
  simp only [readDigits, Text.takeWhile_append_of_stopsAt hdigits hrest,
    Text.dropWhile_append_of_stopsAt hdigits hrest, hne, Bool.false_eq_true, if_false]

theorem readFraction_of_endsNumber (h : EndsNumber rest) :
    readFraction rest = some (false, rest) := by
  cases rest with
  | nil => rfl
  | cons c rest =>
      obtain ⟨-, hdot, -⟩ := h c rfl
      rw [readFraction]
      exact fun _ h => hdot (List.cons_eq_cons.mp h).1

theorem readExponent_of_endsNumber (h : EndsNumber rest) :
    readExponent rest = some (false, rest) := by
  cases rest with
  | nil => rfl
  | cons c rest =>
      obtain ⟨-, -, hlower, hupper⟩ := h c rfl
      have hother : ¬(c = 'e' ∨ c = 'E') := not_or.mpr ⟨hlower, hupper⟩
      unfold readExponent
      exact if_neg hother

/-- A numeral has no needless zero in front. -/
theorem not_needless_zero (n : Nat) :
    ¬((Text.ofNat n).head? = some '0' ∧ (Text.ofNat n).length > 1) := by
  rintro ⟨hzero, hlength⟩
  obtain rfl := Text.eq_zero_of_head?_ofNat hzero
  exact absurd hlength (by decide)

/-- The numeral of an integer is read as the integer. -/
theorem readNumber_numeral (i : Int) (hrest : EndsNumber rest) :
    readNumber (numeral i ++ rest) = some (number (some i), rest) := by
  have hstops : Text.StopsAt Char.isDigit rest := fun c hc => (hrest c hc).1
  cases i with
  | ofNat n =>
      rw [numeral, readNumber, readDigits_ofNat n hstops]
      · simp [not_needless_zero, readFraction_of_endsNumber hrest,
          readExponent_of_endsNumber hrest, Text.number?_ofNat]
      · obtain ⟨d, ds, hd, hdigit⟩ := Text.exists_ofNat_eq_cons n
        intro _ h
        rw [hd, List.cons_append, List.cons_eq_cons] at h
        rw [h.1] at hdigit
        cases hdigit
  | negSucc n =>
      rw [numeral, List.cons_append, readNumber, readDigits_ofNat (n + 1) hstops]
      simp [not_needless_zero, readFraction_of_endsNumber hrest,
        readExponent_of_endsNumber hrest, Text.number?_ofNat, Int.negSucc_eq]

/-! ## Values -/

variable {fuel : Nat} {item value : Json} {name : Text}

theorem skip_cons (h : isBlank c = false) (t : Text) : skip (c :: t) = c :: t := by
  rw [skip, List.dropWhile_cons_of_neg (by simp [h])]

theorem readValue_quote (fuel : Nat) (t : Text) : readValue (fuel + 1) ('"' :: t) =
    (readString t).map fun p => (string (joinHalves p.1), p.2) := rfl

theorem readValue_bracket (hblank : isBlank c = false) (hc : c ≠ ']') :
    readValue (fuel + 1) ('[' :: c :: t) =
      (readItems fuel (c :: t)).map fun p => (array p.1, p.2) := by
  rw [readValue, skip_cons (by decide)]
  simp [skip_cons hblank, hc]

theorem readValue_brace (hblank : isBlank c = false) (hc : c ≠ '\x7d') :
    readValue (fuel + 1) ('\x7b' :: c :: t) =
      (readMembers fuel (c :: t)).map fun p => (object p.1, p.2) := by
  rw [readValue, skip_cons (by decide)]
  simp [skip_cons hblank, hc]

/-- The characters that a value begins with unless it is a number. -/
def openings : Text := ['n', 't', 'f', '"', '[', '\x7b']

theorem readValue_other (hblank : isBlank c = false) (hc : c ∉ openings) :
    readValue (fuel + 1) (c :: t) = readNumber (c :: t) := by
  simp only [openings, List.mem_cons, List.not_mem_nil, or_false, not_or] at hc
  rw [readValue, skip_cons hblank]
  simp [hc]

theorem isDigit_not_opening (h : c.isDigit = true) :
    isBlank c = false ∧ c ∉ ']' :: '\x7d' :: openings := by
  have hne (d : Char) (hd : d.isDigit = false) : c ≠ d := Text.ne_of_kind h hd
  refine ⟨?_, ?_⟩
  · simp [isBlank, hne ' ' rfl, hne '\n' rfl, hne '\t' rfl, hne '\r' rfl]
  · intro hmem
    have hall : (']' :: '\x7d' :: openings).all (!·.isDigit) = true := rfl
    exact hne c (by simpa using List.all_eq_true.mp hall c hmem) rfl

/-- What is written for an integer begins with a digit or a minus. -/
theorem exists_numeral_eq_cons (i : Int) :
    ∃ c t, numeral i = c :: t ∧ isBlank c = false ∧ c ∉ ']' :: '\x7d' :: openings := by
  cases i with
  | ofNat n =>
      obtain ⟨d, ds, hd, hdigit⟩ := Text.exists_ofNat_eq_cons n
      exact ⟨d, ds, hd, isDigit_not_opening hdigit⟩
  | negSucc n => exact ⟨'-', _, rfl, by decide, by decide⟩

/-- What is written begins with a character that neither is a blank nor closes anything. -/
theorem exists_write_eq_cons (j : Json) :
    ∃ c t, j.write = c :: t ∧ isBlank c = false ∧ c ≠ ']' := by
  cases j with
  | null => exact ⟨_, _, rfl, by decide, by decide⟩
  | bool b => cases b <;> exact ⟨_, _, rfl, by decide, by decide⟩
  | number value =>
      cases value with
      | none => exact ⟨_, _, rfl, by decide, by decide⟩
      | some i =>
          obtain ⟨c, t, hi, hblank, hc⟩ := exists_numeral_eq_cons i
          exact ⟨c, t, hi, hblank, fun h => hc (h ▸ List.mem_cons_self)⟩
  | string value => cases value <;> exact ⟨_, _, rfl, by decide, by decide⟩
  | array items => exact ⟨_, _, rfl, by decide, by decide⟩
  | object members => exact ⟨_, _, rfl, by decide, by decide⟩

theorem readValue_number (fuel : Nat) (i : Int) (hrest : EndsNumber rest) :
    readValue (fuel + 1) ((number (some i)).write ++ rest) =
      some (number (some i), rest) := by
  obtain ⟨c, t, hi, hblank, hc⟩ := exists_numeral_eq_cons i
  have hwrite : (number (some i)).write = c :: t := hi
  have hopening : c ∉ openings :=
    fun h => hc (List.mem_cons_of_mem _ (List.mem_cons_of_mem _ h))
  rw [hwrite, List.cons_append, readValue_other hblank hopening, ← List.cons_append, ← hi]
  exact readNumber_numeral i hrest

theorem quoted_append (t rest : Text) :
    quoted t ++ rest = '"' :: (t.flatMap escaped ++ '"' :: rest) := by simp [quoted]

theorem readValue_string (fuel : Nat) (t rest : Text) :
    readValue (fuel + 1) ((string (some t)).write ++ rest) =
      some (string (some t), rest) := by
  have hwrite : (string (some t)).write = quoted t := rfl
  rw [hwrite, quoted_append, readValue_quote, readString_flatMap_escaped, Option.map_some,
    joinHalves_map_char]

/-! ### Items -/

theorem writeItems_cons (item : Json) (hne : items ≠ []) :
    writeItems (item :: items) = item.write ++ ',' :: writeItems items := by
  cases items with
  | nil => exact absurd rfl hne
  | cons next items => rfl

theorem exists_writeItems_eq_cons (item : Json) (items : List Json) :
    ∃ c t, writeItems (item :: items) = c :: t ∧ isBlank c = false ∧ c ≠ ']' := by
  obtain ⟨c, t, hc, h⟩ := exists_write_eq_cons item
  cases items with
  | nil => exact ⟨c, t, hc, h⟩
  | cons next items =>
      refine ⟨c, t ++ ',' :: writeItems (next :: items), ?_, h⟩
      rw [writeItems_cons item (by simp), hc, List.cons_append]

theorem readValue_array (hitems : readItems fuel (writeItems (item :: items) ++ ']' :: rest) =
    some (item :: items, rest)) :
    readValue (fuel + 1) ((array (item :: items)).write ++ rest) =
      some (array (item :: items), rest) := by
  obtain ⟨c, t, hc, hblank, hclose⟩ := exists_writeItems_eq_cons item items
  have hwrite : (array (item :: items)).write ++ rest =
      '[' :: c :: (t ++ ']' :: rest) := by simp [write, hc]
  rw [hwrite, readValue_bracket hblank hclose, ← List.cons_append, ← hc, hitems,
    Option.map_some]

theorem readItems_last (h :
    readValue fuel (item.write ++ ']' :: rest) = some (item, ']' :: rest)) :
    readItems (fuel + 1) (writeItems [item] ++ ']' :: rest) = some ([item], rest) := by
  rw [readItems, writeItems, h]
  simp [skip_cons (show isBlank ']' = false by decide)]

theorem readItems_cons (hne : items ≠ [])
    (h : readValue fuel (item.write ++ ',' :: (writeItems items ++ ']' :: rest)) =
      some (item, ',' :: (writeItems items ++ ']' :: rest)))
    (hitems : readItems fuel (writeItems items ++ ']' :: rest) = some (items, rest)) :
    readItems (fuel + 1) (writeItems (item :: items) ++ ']' :: rest) =
      some (item :: items, rest) := by
  rw [readItems, writeItems_cons item hne, List.append_assoc, List.cons_append, h]
  simp [skip_cons (show isBlank ',' = false by decide), hitems]

/-! ### Members -/

theorem writeMembers_cons (name : Text) (value : Json) (hne : members ≠ []) :
    writeMembers ((some name, value) :: members) =
      quoted name ++ ':' :: value.write ++ ',' :: writeMembers members := by
  cases members with
  | nil => exact absurd rfl hne
  | cons next members => rfl

theorem exists_writeMembers_eq_cons (name : Text) (value : Json)
    (members : List (Option Text × Json)) :
    ∃ t, writeMembers ((some name, value) :: members) = '"' :: t := by
  cases members with
  | nil => exact ⟨_, rfl⟩
  | cons next members => exact ⟨_, writeMembers_cons name value (by simp)⟩

theorem readValue_object (hmembers :
    readMembers fuel (writeMembers ((some name, value) :: members) ++ '\x7d' :: rest) =
      some ((some name, value) :: members, rest)) :
    readValue (fuel + 1) ((object ((some name, value) :: members)).write ++ rest) =
      some (object ((some name, value) :: members), rest) := by
  obtain ⟨t, ht⟩ := exists_writeMembers_eq_cons name value members
  have hwrite : (object ((some name, value) :: members)).write ++ rest =
      '\x7b' :: '"' :: (t ++ '\x7d' :: rest) := by simp [write, ht]
  rw [hwrite, readValue_brace (by decide) (by decide), ← List.cons_append, ← ht, hmembers,
    Option.map_some]

theorem readMembers_last
    (h : readValue fuel (value.write ++ '\x7d' :: rest) = some (value, '\x7d' :: rest)) :
    readMembers (fuel + 1) (writeMembers [(some name, value)] ++ '\x7d' :: rest) =
      some ([(some name, value)], rest) := by
  have hwrite : writeMembers [(some name, value)] ++ '\x7d' :: rest =
      '"' :: (name.flatMap escaped ++ '"' :: ':' :: (value.write ++ '\x7d' :: rest)) := by
    simp [writeMembers, quoted]
  rw [hwrite, readMembers, skip_cons (by decide)]
  simp [readString_flatMap_escaped, joinHalves_map_char, h,
    skip_cons (show isBlank ':' = false by decide),
    skip_cons (show isBlank '\x7d' = false by decide)]

theorem readMembers_cons (hne : members ≠ [])
    (h : readValue fuel (value.write ++ ',' :: (writeMembers members ++ '\x7d' :: rest)) =
      some (value, ',' :: (writeMembers members ++ '\x7d' :: rest)))
    (hmembers :
      readMembers fuel (writeMembers members ++ '\x7d' :: rest) = some (members, rest)) :
    readMembers (fuel + 1) (writeMembers ((some name, value) :: members) ++ '\x7d' :: rest) =
      some ((some name, value) :: members, rest) := by
  have hwrite : writeMembers ((some name, value) :: members) ++ '\x7d' :: rest =
      '"' :: (name.flatMap escaped ++ '"' :: ':' ::
        (value.write ++ ',' :: (writeMembers members ++ '\x7d' :: rest))) := by
    simp [writeMembers_cons name value hne, quoted]
  rw [hwrite, readMembers, skip_cons (by decide)]
  simp [readString_flatMap_escaped, joinHalves_map_char, h, hmembers,
    skip_cons (show isBlank ':' = false by decide),
    skip_cons (show isBlank ',' = false by decide)]

/-! ### All values -/

theorem length_write_pos (j : Json) : 0 < j.write.length := by
  obtain ⟨c, t, h, -⟩ := exists_write_eq_cons j
  simp [h]

mutual

/-- A known value is read back, if there is as much fuel as there are characters. -/
theorem readValue_write (j : Json) (h : j.IsKnown) (fuel : Nat) (rest : Text)
    (hfuel : j.write.length ≤ fuel) (hrest : EndsNumber rest) :
    readValue fuel (j.write ++ rest) = some (j, rest) := by
  obtain ⟨fuel, rfl⟩ := Nat.exists_eq_succ_of_ne_zero (n := fuel)
    (by have := length_write_pos j; omega)
  match j with
  | null => rfl
  | bool b => cases b <;> rfl
  | number value =>
      obtain ⟨i, rfl⟩ := Option.isSome_iff_exists.mp h
      exact readValue_number fuel i hrest
  | string value =>
      obtain ⟨t, rfl⟩ := Option.isSome_iff_exists.mp h
      exact readValue_string fuel t rest
  | array [] => rfl
  | array (item :: items) =>
      refine readValue_array (readItems_write (item :: items) (by simp) h fuel rest ?_)
      simp only [write, List.length_cons, List.length_append] at hfuel
      omega
  | object [] => rfl
  | object ((name, value) :: members) =>
      obtain ⟨name, rfl⟩ := Option.isSome_iff_exists.mp h.1
      refine readValue_object (readMembers_write _ (by simp) h fuel rest ?_)
      simp only [write, List.length_cons, List.length_append] at hfuel
      omega

theorem readItems_write (items : List Json) (hne : items ≠ [])
    (h : AreKnown items) (fuel : Nat) (rest : Text)
    (hfuel : (writeItems items).length < fuel) :
    readItems fuel (writeItems items ++ ']' :: rest) = some (items, rest) := by
  obtain ⟨fuel, rfl⟩ := Nat.exists_eq_succ_of_ne_zero (n := fuel) (by omega)
  match items with
  | [] => exact absurd rfl hne
  | [item] =>
      refine readItems_last
        (readValue_write item h.1 fuel _ ?_ (endsNumber_cons (by decide) rest))
      simp only [writeItems] at hfuel
      omega
  | item :: next :: items =>
      rw [writeItems_cons item (by simp), List.length_append, List.length_cons] at hfuel
      refine readItems_cons (by simp) (readValue_write item h.1 fuel _ ?_ ?_) ?_
      · omega
      · exact endsNumber_cons (by decide) _
      · exact readItems_write (next :: items) (by simp) h.2 fuel rest (by omega)

theorem readMembers_write (members : List (Option Text × Json)) (hne : members ≠ [])
    (h : AreKnownMembers members) (fuel : Nat) (rest : Text)
    (hfuel : (writeMembers members).length < fuel) :
    readMembers fuel (writeMembers members ++ '\x7d' :: rest) = some (members, rest) := by
  obtain ⟨fuel, rfl⟩ := Nat.exists_eq_succ_of_ne_zero (n := fuel) (by omega)
  match members with
  | [] => exact absurd rfl hne
  | [(name, value)] =>
      obtain ⟨name, rfl⟩ := Option.isSome_iff_exists.mp h.1
      refine readMembers_last
        (readValue_write value h.2.1 fuel _ ?_ (endsNumber_cons (by decide) rest))
      simp only [writeMembers, List.length_append, List.length_cons] at hfuel
      omega
  | (name, value) :: next :: members =>
      obtain ⟨name, rfl⟩ := Option.isSome_iff_exists.mp h.1
      simp only [writeMembers_cons name value (List.cons_ne_nil _ _), List.length_append,
        List.length_cons] at hfuel
      refine readMembers_cons (by simp) (readValue_write value h.2.1 fuel _ ?_ ?_) ?_
      · omega
      · exact endsNumber_cons (by decide) _
      · exact readMembers_write (next :: members) (by simp) h.2.2 fuel rest (by omega)

end

/-- A known value is read back from its own text. -/
theorem read_write (j : Json) (h : j.IsKnown) : read j.write = some j := by
  have hread := readValue_write j h (j.write.length + 1) [] (by omega) endsNumber_nil
  rw [List.append_nil] at hread
  rw [read, hread]
  rfl

end ControlSearch.Json
