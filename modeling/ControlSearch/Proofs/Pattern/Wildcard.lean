import ControlSearch.Proofs.Regex.NormalForm
import ControlSearch.Pattern.Wildcard

/-!
# What wildcard specs describe

The texts that a spec describes are read off the spec from left to right. Reading the parts of
the spec first, and running their expressions, comes to the same. With nothing in its runs, a
spec describes its least text, which has the least size of the expression.
-/
namespace ControlSearch.Wildcard

/-- Wildcards stand for every character, for line feeds only if they are told to. -/
def Covers (dotNewLine : Bool) (c : Char) : Prop := dotNewLine = true ∨ c ≠ '\n'

/-- A spec describes a text. -/
inductive Describes (dotNewLine : Bool) : Text → Text → Prop
  | nil : Describes dotNewLine [] []
  /-- A backslash makes a special character stand for itself. -/
  | escaped {c : Char} {spec t : Text} : isSpecial c = true → Describes dotNewLine spec t →
      Describes dotNewLine ('\\' :: c :: spec) (c :: t)
  /-- In front of any other character, or at the end, a backslash stands for itself. -/
  | backslash {spec t : Text} : (∀ c ∈ spec.head?, isSpecial c = false) →
      Describes dotNewLine spec t → Describes dotNewLine ('\\' :: spec) ('\\' :: t)
  | anyRun {spec u t : Text} : (∀ c ∈ u, Covers dotNewLine c) → Describes dotNewLine spec t →
      Describes dotNewLine ('*' :: spec) (u ++ t)
  | anyChar {c : Char} {spec t : Text} : Covers dotNewLine c → Describes dotNewLine spec t →
      Describes dotNewLine ('?' :: spec) (c :: t)
  | char {c : Char} {spec t : Text} : isSpecial c = false → Describes dotNewLine spec t →
      Describes dotNewLine (c :: spec) (c :: t)

/-- The texts that the parts of a spec stand for. -/
def Accepts (dotNewLine : Bool) : List Wildcard → Text → Prop
  | [], t => t = []
  | .char c :: parts, t => ∃ u, t = c :: u ∧ Accepts dotNewLine parts u
  | .anyChar :: parts, t =>
    ∃ c u, t = c :: u ∧ Covers dotNewLine c ∧ Accepts dotNewLine parts u
  | .anyRun :: parts, t =>
    ∃ u v, t = u ++ v ∧ (∀ c ∈ u, Covers dotNewLine c) ∧ Accepts dotNewLine parts v

variable {dotNewLine : Bool} {parts : List Wildcard} {spec t : Text}

/-! ## Reading specs -/

theorem isSpecial_eq_false_iff {c : Char} :
    isSpecial c = false ↔ c ≠ '*' ∧ c ≠ '?' ∧ c ≠ '\\' := by
  simp [isSpecial, and_assoc]

theorem plain_of_not_special {c : Char} (h : isSpecial c = false) : plain c = .char c := by
  obtain ⟨hstar, hmark, -⟩ := isSpecial_eq_false_iff.mp h
  simp [plain, hstar, hmark]

theorem ofSpec_escaped {c : Char} (h : isSpecial c = true) (rest : Text) :
    ofSpec ('\\' :: c :: rest) = .char c :: ofSpec rest := by
  simp [ofSpec, h]

theorem ofSpec_cons {c : Char} (h : c ≠ '\\') (rest : Text) :
    ofSpec (c :: rest) = plain c :: ofSpec rest := by
  rw [ofSpec]
  · intro h'
    subst h'
    exact absurd rfl h
  · intro d rest' h'
    subst h'
    exact absurd rfl h

theorem ofSpec_char {c : Char} (h : isSpecial c = false) (rest : Text) :
    ofSpec (c :: rest) = .char c :: ofSpec rest := by
  rw [ofSpec_cons (isSpecial_eq_false_iff.mp h).2.2, plain_of_not_special h]

theorem ofSpec_backslash (h : ∀ c ∈ spec.head?, isSpecial c = false) :
    ofSpec ('\\' :: spec) = .char '\\' :: ofSpec spec := by
  cases spec with
  | nil => rfl
  | cons c rest =>
      have hc : isSpecial c = false := h c rfl
      rw [ofSpec_char hc]
      simp [ofSpec, hc]

/-- The parts of a spec accept what the spec describes. -/
theorem describes_iff : Describes dotNewLine spec t ↔ Accepts dotNewLine (ofSpec spec) t := by
  constructor
  · intro h
    induction h with
    | nil => rfl
    | escaped hc _ ih => exact ofSpec_escaped hc _ ▸ ⟨_, rfl, ih⟩
    | backslash hc _ ih => exact ofSpec_backslash hc ▸ ⟨_, rfl, ih⟩
    | anyRun hu _ ih => exact ⟨_, _, rfl, hu, ih⟩
    | anyChar hc _ ih => exact ⟨_, _, rfl, hc, ih⟩
    | char hc _ ih => exact ofSpec_char hc _ ▸ ⟨_, rfl, ih⟩
  · intro h
    fun_induction ofSpec spec generalizing t with
    | case1 =>
        obtain rfl : t = [] := h
        exact .nil
    | case2 =>
        obtain ⟨u, rfl, rfl⟩ := h
        exact .backslash (by simp) .nil
    | case3 c rest hc ih =>
        obtain ⟨u, rfl, hu⟩ := h
        exact .escaped hc (ih hu)
    | case4 c rest hc ih =>
        obtain ⟨_, rfl, u, rfl, hu⟩ := h
        have hc : isSpecial c = false := by simpa using hc
        exact .backslash (by simpa using hc) (.char hc (ih hu))
    | case5 c rest hend hmore ih =>
        have hc : c ≠ '\\' := by
          intro h'
          subst h'
          cases rest with
          | nil => exact hend rfl rfl
          | cons d rest => exact hmore d rest rfl rfl
        by_cases hstar : c = '*'
        · subst hstar
          obtain ⟨u, v, rfl, hu, hv⟩ := h
          exact .anyRun hu (ih hv)
        · by_cases hmark : c = '?'
          · subst hmark
            obtain ⟨d, u, rfl, hd, hu⟩ := h
            exact .anyChar hd (ih hu)
          · have hplain : isSpecial c = false := isSpecial_eq_false_iff.mpr ⟨hstar, hmark, hc⟩
            rw [plain_of_not_special hplain] at h
            obtain ⟨u, rfl, hu⟩ := h
            exact .char hplain (ih hu)

/-- A spec has nothing but open runs if it has nothing but stars. -/
theorem isOpen_iff : isOpen (ofSpec spec) = true ↔ ∀ c ∈ spec, c = '*' := by
  fun_induction ofSpec spec with
  | case1 => simp [isOpen]
  | case2 => simp [isOpen]
  | case3 c rest hc ih => simp [isOpen]
  | case4 c rest hc ih => simp [isOpen]
  | case5 c rest hend hmore ih =>
      have hplain : (plain c == anyRun) = true ↔ c = '*' := by
        unfold plain
        split
        · simp [*]
        · split <;> simp [*]
      rw [isOpen, List.all_cons, Bool.and_eq_true, hplain, List.forall_mem_cons]
      exact and_congr_right fun _ => ih

/-- Just the parts of open specs stand for the empty text. -/
theorem accepts_nil_iff : Accepts dotNewLine parts [] ↔ isOpen parts = true := by
  induction parts with
  | nil => simp [Accepts, isOpen]
  | cons p parts ih =>
      cases p with
      | char c => simp [Accepts, isOpen]
      | anyChar => simp [Accepts, isOpen]
      | anyRun =>
          have hopen : isOpen (.anyRun :: parts) = isOpen parts := by simp [isOpen]
          rw [hopen, ← ih, Accepts]
          constructor
          · intro h'
            rcases h' with ⟨u, v, h, -, hv⟩
            obtain ⟨rfl, rfl⟩ := List.append_eq_nil_iff.mp h.symm
            exact hv
          · exact fun h => ⟨[], [], rfl, by simp, h⟩

/-- Parts that are all characters are the characters of the word that they make up. -/
theorem eq_map_char_of_literal? {w : Text} (h : literal? parts = some w) :
    parts = w.map char := by
  induction parts generalizing w with
  | nil =>
      obtain rfl : [] = w := by simpa [literal?] using h
      rfl
  | cons p parts ih =>
      simp only [literal?, List.mapM_cons, Option.pure_def, Option.bind_eq_bind,
        Option.bind_eq_some_iff, Option.some.injEq] at h
      obtain ⟨c, hc, v, hv, rfl⟩ := h
      cases p with
      | char d =>
          obtain rfl := Option.some.inj hc
          rw [ih hv]
          rfl
      | anyChar | anyRun => cases hc

theorem accepts_map_char {w : Text} : Accepts dotNewLine (w.map char) t ↔ t = w := by
  induction w generalizing t with
  | nil => rfl
  | cons c w ih =>
      simp only [List.map_cons, Accepts, ih]
      constructor
      · intro h
        rcases h with ⟨u, rfl, rfl⟩
        rfl
      · intro h
        subst h
        exact ⟨w, rfl, rfl⟩

/-- Parts that are all characters accept the word that they make up. -/
theorem accepts_of_literal? {w : Text} (h : literal? parts = some w) :
    Accepts dotNewLine parts t ↔ t = w := by
  rw [eq_map_char_of_literal? h]
  exact accepts_map_char

/-- Parts that are all characters, but not none, make up a word that is not empty. -/
theorem ne_nil_of_literal? {w : Text} (hopen : isOpen parts = false)
    (h : literal? parts = some w) :
    w ≠ [] := by
  intro hnil
  have hempty : Accepts false parts [] := (accepts_of_literal? h).mpr hnil.symm
  rw [accepts_nil_iff, hopen] at hempty
  cases hempty

/-! ## Least texts -/

/-- A text without anything in its runs. -/
def least : List Wildcard → Text
  | [] => []
  | .char c :: parts => c :: least parts
  | .anyChar :: parts => 'a' :: least parts
  | .anyRun :: parts => least parts

theorem accepts_least (parts : List Wildcard) : Accepts dotNewLine parts (least parts) := by
  induction parts with
  | nil => rfl
  | cons p parts ih =>
      cases p with
      | char c => exact ⟨_, rfl, ih⟩
      | anyChar => exact ⟨'a', _, rfl, .inr (by decide), ih⟩
      | anyRun => exact ⟨[], _, rfl, by simp, ih⟩

theorem least_append (parts more : List Wildcard) :
    least (parts ++ more) = least parts ++ least more := by
  induction parts with
  | nil => rfl
  | cons p parts ih => cases p <;> simp [least, ih]

theorem least_eq_nil_iff : least parts = [] ↔ isOpen parts = true := by
  constructor
  · intro h
    have hleast : Accepts false parts (least parts) := accepts_least parts
    rw [h] at hleast
    exact accepts_nil_iff.mp hleast
  · intro h
    induction parts with
    | nil => rfl
    | cons p parts ih =>
        rw [isOpen, List.all_cons, Bool.and_eq_true, beq_iff_eq] at h
        obtain ⟨rfl, hparts⟩ := h
        exact ih hparts

/-! ## The expressions of parts -/

theorem contains_anyChars (dotNewLine : Bool) (c : Char) :
    (anyChars dotNewLine).contains c = true ↔ Covers dotNewLine c := by
  cases dotNewLine
  · simp [anyChars, Covers, CharSet.contains_complement (CharSet.proper_singleton _),
      CharSet.contains_singleton]
  · simp [anyChars, Covers, CharSet.contains_all]

theorem proper_anyChars (dotNewLine : Bool) : (anyChars dotNewLine).Proper := by
  cases dotNewLine
  · exact CharSet.proper_complement _
  · exact CharSet.proper_all

/-- The expression of some parts. -/
def expression (dotNewLine : Bool) (parts : List Wildcard) : Regex :=
  Regex.ofMembers (parts.map (regex dotNewLine))

theorem expression_cons_cons (dotNewLine : Bool) (p q : Wildcard) (parts : List Wildcard) :
    expression dotNewLine (p :: q :: parts) =
      .cat (regex dotNewLine p) (expression dotNewLine (q :: parts)) := rfl

/-- The expressions of parts have nothing to be flattened. -/
theorem sequence_eq_expression (dotNewLine : Bool) (parts : List Wildcard) :
    Regex.sequence (parts.map (regex dotNewLine)) = expression dotNewLine parts := by
  have hflat : (parts.map (regex dotNewLine)).flatMap Regex.members =
      parts.map (regex dotNewLine) := by
    rw [List.flatMap_map]
    induction parts with
    | nil => rfl
    | cons p parts ih =>
        rw [List.flatMap_cons, ih, List.map_cons]
        cases p <;> rfl
  rw [Regex.sequence, hflat, expression]

theorem proper_expression (dotNewLine : Bool) (parts : List Wildcard) :
    (expression dotNewLine parts).Proper := by
  refine Regex.proper_ofMembers ?_
  intro r hr
  obtain ⟨p, -, rfl⟩ := List.mem_map.mp hr
  cases p with
  | char c => exact Regex.proper_set (CharSet.proper_singleton c)
  | anyChar => exact Regex.proper_set (proper_anyChars dotNewLine)
  | anyRun => exact Regex.proper_set (proper_anyChars dotNewLine)

/-- Any number of characters of a set. -/
theorem rounds_char_iff {chars : CharSet} {last next : Option Char} :
    (Regex.Language.char chars).rounds 0 none last t next ↔
      ∀ c ∈ t, chars.contains c = true := by
  rw [Regex.Language.rounds_iff]
  constructor
  · intro h'
    rcases h' with ⟨n, -, -, h⟩
    induction n generalizing last t with
    | zero =>
        obtain rfl : t = [] := by simpa using h
        simp
    | succ n ih =>
        rw [pow_succ', Regex.Language.char_mul_iff] at h
        obtain ⟨c, u, rfl, hc, hu⟩ := h
        exact List.forall_mem_cons.mpr ⟨hc, ih hu⟩
  · intro h
    refine ⟨t.length, Nat.zero_le _, by simp, ?_⟩
    induction t generalizing last with
    | nil => simp
    | cons c u ih =>
        obtain ⟨hc, hu⟩ := List.forall_mem_cons.mp h
        rw [List.length_cons, pow_succ', Regex.Language.char_mul_iff]
        exact ⟨c, u, rfl, hc, ih hu⟩

/-- The expression of parts accepts what the parts stand for, whatever the neighbours are. -/
theorem language_expression {last next : Option Char} :
    (expression dotNewLine parts).language last t next ↔ Accepts dotNewLine parts t := by
  rw [expression, Regex.language_ofMembers]
  induction parts generalizing last t with
  | nil => rfl
  | cons p parts ih =>
      rw [List.map_cons, Regex.languageOfAll_cons]
      cases p with
      | char a =>
          simp only [regex, Regex.char, Regex.language, Regex.Language.char_mul_iff, ih,
            CharSet.contains_singleton, Accepts]
          constructor
          · intro h
            rcases h with ⟨c, u, rfl, rfl, hu⟩
            exact ⟨u, rfl, hu⟩
          · intro h
            rcases h with ⟨u, rfl, hu⟩
            exact ⟨a, u, rfl, rfl, hu⟩
      | anyChar =>
          simp only [regex, Regex.language, Regex.Language.char_mul_iff, ih,
            contains_anyChars, Accepts]
      | anyRun =>
          simp only [regex, Regex.language, Regex.Language.mul_iff, rounds_char_iff, ih,
            contains_anyChars, Accepts]

/-! ## Least sizes -/

theorem minSize?_char (c : Char) : (Regex.char c).minSize? = some c.utf8Size := by
  simp [Regex.char, Regex.minSize?, CharSet.minSize?, CharSet.singleton, CharSet.width_toNat]

theorem minSize?_anyChars (dotNewLine : Bool) : (anyChars dotNewLine).minSize? = some 1 := by
  have hproper := proper_anyChars dotNewLine
  have hmember : (anyChars dotNewLine).contains 'a' = true :=
    (contains_anyChars dotNewLine 'a').mpr (.inr (by decide))
  obtain ⟨n, hn, hle⟩ := CharSet.minSize?_le hproper hmember
  have hwidth : Char.utf8Size 'a' = 1 := rfl
  have hcontent := Regex.hasContent_set hproper hmember
  simp only [Regex.hasContent, Regex.minSize?, hn, decide_eq_true_eq] at hcontent
  rw [hn]
  congr 1
  omega

/-- A part takes no fewer bytes than it does in the least text. -/
theorem minSize?_regex (part : Wildcard) :
    (regex dotNewLine part).minSize? = some (least [part]).size := by
  cases part with
  | char c => simp [regex, minSize?_char, least]
  | anyChar => exact minSize?_anyChars dotNewLine
  | anyRun => simp [regex, Regex.minSize?, minSize?_anyChars, least]

/-- The least size of an expression is that of the least text of its parts. -/
theorem minSize?_expression (dotNewLine : Bool) (parts : List Wildcard) :
    (expression dotNewLine parts).minSize? = some (least parts).size := by
  induction parts with
  | nil => rfl
  | cons p parts ih =>
      cases parts with
      | nil => exact minSize?_regex p
      | cons q parts =>
          have hleast : least (p :: q :: parts) = least [p] ++ least (q :: parts) :=
            least_append [p] (q :: parts)
          rw [expression_cons_cons, Regex.minSize?, minSize?_regex, ih, hleast,
            Text.size_append]
          rfl

end ControlSearch.Wildcard
