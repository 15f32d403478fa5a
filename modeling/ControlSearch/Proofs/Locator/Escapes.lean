import ControlSearch.Proofs.Locator.Quoted

/-!
# Escapes that are read twice

A backslash is read as an escape when a locator is split, and again when a segment is
compiled. Of two backslashes that are read together the split leaves one, and this one is read
together with what follows it. So a locator of one segment means what it means as a spec if
and only if no such pair stands in front of a character that a backslash escapes.
-/
namespace ControlSearch

namespace Wildcard

variable {dotNewLine : Bool} {parts : List Wildcard} {spec t : Text} {c : Char}

/-! ## The cost of a spec -/

/-- The characters of a text, of which backslashes and question marks count twice. -/
def cost : Text → Nat
  | [] => 0
  | c :: rest => (if c = '\\' ∨ c = '?' then 2 else 1) + cost rest

theorem cost_append (t u : Text) : cost (t ++ u) = cost t + cost u := by
  induction t with
  | nil => exact (Nat.zero_add _).symm
  | cons c t ih => rw [List.cons_append, cost, ih, cost, Nat.add_assoc]

/-- What the least text of a spec costs. -/
def leastCost (spec : Text) : Nat := cost (least (ofSpec spec))

/-- No text that is accepted costs less than the least one. -/
theorem cost_least_le (h : Accepts dotNewLine parts t) : cost (least parts) ≤ cost t := by
  induction parts generalizing t with
  | nil => exact Nat.zero_le _
  | cons p parts ih =>
      cases p with
      | char c =>
          obtain ⟨u, rfl, hu⟩ := h
          exact Nat.add_le_add_left (ih hu) _
      | anyChar =>
          obtain ⟨c, u, rfl, -, hu⟩ := h
          have hle := ih hu
          have hleast : ¬('a' = '\\' ∨ 'a' = '?') := by decide
          rw [least, cost, cost, if_neg hleast]
          split <;> omega
      | anyRun =>
          obtain ⟨u, v, rfl, -, hv⟩ := h
          have hle := ih hv
          rw [least, cost_append]
          omega

theorem leastCost_backslash (h : ∀ c ∈ spec.head?, isSpecial c = false) :
    leastCost ('\\' :: spec) = 2 + leastCost spec := by
  rw [leastCost, ofSpec_backslash h]
  rfl

theorem leastCost_pair (rest : Text) :
    leastCost ('\\' :: '\\' :: rest) = 2 + leastCost rest := rfl

/-- What a character adds to the cost of a spec: a special one adds more if it is escaped, but
not as much more as a backslash alone would. -/
theorem exists_leastCost_cons (hc : c ≠ '\\') : ∃ m n, m < n ∧ n ≤ 2 + m ∧
    (isSpecial c = true → n < 2 + m) ∧ ∀ rest : Text,
      leastCost (c :: rest) = m + leastCost rest ∧
      leastCost ('\\' :: c :: rest) = n + leastCost rest := by
  by_cases hstar : c = '*'
  · subst hstar
    exact ⟨0, 1, by decide, by decide, by decide, fun rest => ⟨(Nat.zero_add _).symm, rfl⟩⟩
  · by_cases hmark : c = '?'
    · subst hmark
      exact ⟨1, 2, by decide, by decide, by decide, fun rest => ⟨rfl, rfl⟩⟩
    · have hplain : isSpecial c = false := isSpecial_eq_false_iff.mpr ⟨hstar, hmark, hc⟩
      have hchar (rest : Text) : leastCost (c :: rest) = 1 + leastCost rest := by
        rw [leastCost, ofSpec_char hplain, least, cost,
          if_neg (by simp [hmark, hc]), leastCost]
      refine ⟨1, 3, by decide, by decide, by simp [hplain], fun rest => ⟨hchar rest, ?_⟩⟩
      rw [leastCost_backslash (by simpa using hplain), hchar]
      omega

end Wildcard

namespace Locator

open Wildcard

variable {s t raw : Text} {c : Char}

/-! ## One segment -/

/-- What the split leaves of a text without separators. -/
def unescaped : Text → Text
  | [] => []
  | '\\' :: [] => ['\\']
  | '\\' :: c :: rest =>
      if c = '\\' then '\\' :: unescaped rest else '\\' :: c :: unescaped rest
  | c :: rest => c :: unescaped rest

theorem unescaped_pair (rest : Text) :
    unescaped ('\\' :: '\\' :: rest) = '\\' :: unescaped rest := by
  simp [unescaped]

theorem unescaped_escape (h : c ≠ '\\') (rest : Text) :
    unescaped ('\\' :: c :: rest) = '\\' :: c :: unescaped rest := by
  simp [unescaped, h]

theorem unescaped_cons (h : c ≠ '\\') (rest : Text) :
    unescaped (c :: rest) = c :: unescaped rest := by
  rw [unescaped]
  · intro h'
    exact absurd h' h
  · intro d rest' h'
    exact absurd h' h

/-- A text is read as it stands, a pair of backslashes, one backslash with the character
behind it, or one character at a time. -/
theorem token_induction {motive : Text → Prop} (nil : motive []) (dangling : motive ['\\'])
    (pair : ∀ rest, motive rest → motive ('\\' :: '\\' :: rest))
    (escape : ∀ c rest, c ≠ '\\' → motive rest → motive ('\\' :: c :: rest))
    (char : ∀ c rest, c ≠ '\\' → motive rest → motive (c :: rest)) (s : Text) : motive s := by
  fun_induction unescaped s with
  | case1 => exact nil
  | case2 => exact dangling
  | case3 rest ih => exact pair rest ih
  | case4 c rest hc ih => exact escape c rest hc ih
  | case5 c rest hend hmore ih =>
      refine char c rest ?_ ih
      rintro rfl
      cases rest with
      | nil => exact hend rfl rfl
      | cons d rest => exact hmore d rest rfl rfl

theorem segmentsOf_eq_unescaped (h : '>' ∉ s) : segmentsOf s = [unescaped s] := by
  induction s using token_induction with
  | nil => rfl
  | dangling => rfl
  | pair rest ih =>
      have hrest : '>' ∉ rest := fun hmem => h (by simp [hmem])
      rw [segmentsOf_escaped (.inr rfl), ih hrest, unescaped_pair, prepend]
  | escape c rest hc ih =>
      simp only [List.mem_cons, not_or] at h
      obtain ⟨-, hsep, hrest⟩ := h
      have hplain : ¬(c = '>' ∨ c = '\\') := not_or.mpr ⟨Ne.symm hsep, hc⟩
      rw [segmentsOf, if_neg hplain, ih hrest, unescaped_escape hc, prepend, prepend]
  | char c rest hc ih =>
      simp only [List.mem_cons, not_or] at h
      obtain ⟨hsep, hrest⟩ := h
      rw [segmentsOf_cons hc (Ne.symm hsep), ih hrest, unescaped_cons hc, prepend]

/-- The first character stays where it is. -/
theorem head?_unescaped (s : Text) : (unescaped s).head? = s.head? := by
  induction s using token_induction with
  | nil | dangling => rfl
  | pair rest => simp [unescaped_pair]
  | escape c rest hc => simp [unescaped_escape hc]
  | char c rest hc => simp [unescaped_cons hc]

/-- So does the last one. -/
theorem getLast?_unescaped (s : Text) : (unescaped s).getLast? = s.getLast? := by
  induction s using token_induction with
  | nil | dangling => rfl
  | pair rest ih => simp [unescaped_pair, List.getLast?_cons, ih]
  | escape c rest hc ih => simp [unescaped_escape hc, List.getLast?_cons, ih]
  | char c rest hc ih => simp [unescaped_cons hc, List.getLast?_cons, ih]

theorem unescaped_append_left (h : '\\' ∉ t) (s : Text) :
    unescaped (t ++ s) = t ++ unescaped s := by
  induction t with
  | nil => rfl
  | cons c t ih =>
      simp only [List.mem_cons, not_or] at h
      rw [List.cons_append, unescaped_cons (Ne.symm h.1), ih h.2, List.cons_append]

theorem unescaped_eq_self (h : '\\' ∉ t) : unescaped t = t := by
  have happend := unescaped_append_left h []
  rwa [List.append_nil, unescaped, List.append_nil] at happend

/-- Behind a text, nothing without backslashes is changed, even if a backslash of the text is
read together with it. -/
theorem unescaped_append_right (h : '\\' ∉ t) (s : Text) :
    unescaped (s ++ t) = unescaped s ++ t := by
  induction s using token_induction with
  | nil => exact unescaped_eq_self h
  | dangling =>
      cases t with
      | nil => rfl
      | cons c t =>
          simp only [List.mem_cons, not_or] at h
          have hescape := unescaped_escape (Ne.symm h.1) t
          rw [unescaped_eq_self h.2] at hescape
          exact hescape
  | pair rest ih =>
      rw [List.cons_append, List.cons_append, unescaped_pair, unescaped_pair, ih,
        List.cons_append]
  | escape c rest hc ih =>
      rw [List.cons_append, List.cons_append, unescaped_escape hc, unescaped_escape hc, ih,
        List.cons_append, List.cons_append]
  | char c rest hc ih =>
      rw [List.cons_append, unescaped_cons hc, unescaped_cons hc, ih, List.cons_append]

theorem trim_unescaped (s : Text) : (unescaped s).trim = unescaped s.trim := by
  obtain ⟨front, back, hs, hfront, hback⟩ := Text.exists_eq_trim s
  have hplain {t : Text} (ht : ∀ c ∈ t, Text.isBlank c = true) : '\\' ∉ t :=
    fun hmem => absurd (ht _ hmem) (by decide)
  have hself : s.trim.trim = s.trim := by
    conv_rhs => rw [hs, Text.trim_append hfront hback]
  obtain ⟨hhead, hlast⟩ := Text.trim_eq_self_iff.mp hself
  have htrimmed : (unescaped s.trim).trim = unescaped s.trim := by
    refine Text.trim_eq_self_iff.mpr ⟨?_, ?_⟩
    · rwa [head?_unescaped]
    · rwa [getLast?_unescaped]
  conv_lhs =>
    rw [hs, unescaped_append_left (hplain hfront), unescaped_append_right (hplain hback)]
  rw [Text.trim_append hfront hback, htrimmed]

/-! ## Reading twice -/

/-- Whether no pair of backslashes stands in front of a character that a backslash escapes. -/
def keepsEscapes : Text → Bool
  | [] => true
  | '\\' :: [] => true
  | '\\' :: c :: rest => (c != '\\' || rest.head?.all (!isSpecial ·)) && keepsEscapes rest
  | _ :: rest => keepsEscapes rest

theorem keepsEscapes_pair (rest : Text) : keepsEscapes ('\\' :: '\\' :: rest) =
    (rest.head?.all (!isSpecial ·) && keepsEscapes rest) := by
  simp [keepsEscapes]

theorem keepsEscapes_escape (h : c ≠ '\\') (rest : Text) :
    keepsEscapes ('\\' :: c :: rest) = keepsEscapes rest := by
  simp [keepsEscapes, h]

theorem keepsEscapes_cons (h : c ≠ '\\') (rest : Text) :
    keepsEscapes (c :: rest) = keepsEscapes rest := by
  rw [keepsEscapes]
  · intro h'
    exact absurd h' h
  · intro d rest' h'
    exact absurd h' h

/-- Where no pair escapes anything the second time, a text has the parts that it has as a
spec. -/
theorem ofSpec_unescaped (h : keepsEscapes s = true) : ofSpec (unescaped s) = ofSpec s := by
  induction s using token_induction with
  | nil | dangling => rfl
  | pair rest ih =>
      rw [keepsEscapes_pair, Bool.and_eq_true, Option.all_eq_true] at h
      obtain ⟨hnext, hrest⟩ := h
      have hplain : ∀ c ∈ (unescaped rest).head?, isSpecial c = false := by
        intro c hc
        rw [head?_unescaped] at hc
        simpa using hnext c hc
      rw [unescaped_pair, ofSpec_backslash hplain, ih hrest, ofSpec_escaped rfl]
  | escape c rest hc ih =>
      rw [keepsEscapes_escape hc] at h
      rw [unescaped_escape hc]
      by_cases hspecial : isSpecial c = true
      · rw [ofSpec_escaped hspecial, ofSpec_escaped hspecial, ih h]
      · have hplain : isSpecial c = false := by simpa using hspecial
        have hhead (v : Text) : ∀ d ∈ (c :: v).head?, isSpecial d = false := by
          simpa using hplain
        rw [ofSpec_backslash (hhead _), ofSpec_backslash (hhead _), ofSpec_char hplain,
          ofSpec_char hplain, ih h]
  | char c rest hc ih =>
      rw [keepsEscapes_cons hc] at h
      rw [unescaped_cons hc, ofSpec_cons hc, ofSpec_cons hc, ih h]

/-- Splitting never adds to the cost of a spec. In front of what is left, a backslash adds no
more than its own cost, and less if it escapes something. -/
theorem leastCost_unescaped_le (s : Text) : leastCost (unescaped s) ≤ leastCost s ∧
    leastCost ('\\' :: unescaped s) ≤ 2 + leastCost s ∧
    ((∃ c ∈ s.head?, isSpecial c = true) →
      leastCost ('\\' :: unescaped s) < 2 + leastCost s) := by
  induction s using token_induction with
  | nil => exact ⟨Nat.le_refl _, Nat.le_refl _, by simp⟩
  | dangling => exact ⟨by decide, by decide, fun _ => by decide⟩
  | pair rest ih =>
      obtain ⟨hle, hback, -⟩ := ih
      rw [unescaped_pair, leastCost_pair, leastCost_pair]
      exact ⟨hback, by omega, fun _ => by omega⟩
  | escape c rest hc ih =>
      obtain ⟨m, n, hmn, -, -, hcost⟩ := exists_leastCost_cons hc
      obtain ⟨hle, -, -⟩ := ih
      have hkept := hcost (unescaped rest)
      have hread := hcost rest
      rw [unescaped_escape hc, leastCost_pair]
      exact ⟨by omega, by omega, fun _ => by omega⟩
  | char c rest hc ih =>
      obtain ⟨m, n, -, hnm, hspecial, hcost⟩ := exists_leastCost_cons hc
      obtain ⟨hle, -, -⟩ := ih
      have hkept := hcost (unescaped rest)
      have hread := hcost rest
      rw [unescaped_cons hc]
      refine ⟨by omega, by omega, ?_⟩
      rintro ⟨d, hd, hescaped⟩
      obtain rfl : c = d := by simpa using hd
      have hlt := hspecial hescaped
      omega

/-- A pair that escapes something the second time makes a spec cheaper. -/
theorem leastCost_unescaped_lt (h : keepsEscapes s = false) :
    leastCost (unescaped s) < leastCost s := by
  induction s using token_induction with
  | nil | dangling => cases h
  | pair rest ih =>
      rw [unescaped_pair, leastCost_pair]
      by_cases hnext : ∃ c ∈ rest.head?, isSpecial c = true
      · exact (leastCost_unescaped_le rest).2.2 hnext
      · have hplain : ∀ c ∈ rest.head?, isSpecial c = false := by
          intro c hc
          by_contra hspecial
          exact hnext ⟨c, hc, by simpa using hspecial⟩
        have hall : rest.head?.all (!isSpecial ·) = true := by
          rw [Option.all_eq_true]
          intro c hc
          simpa using hplain c hc
        rw [keepsEscapes_pair, hall, Bool.true_and] at h
        rw [leastCost_backslash (by rwa [head?_unescaped])]
        exact Nat.add_lt_add_left (ih h) 2
  | escape c rest hc ih =>
      rw [keepsEscapes_escape hc] at h
      obtain ⟨m, n, -, -, -, hcost⟩ := exists_leastCost_cons hc
      rw [unescaped_escape hc, (hcost _).2, (hcost _).2]
      exact Nat.add_lt_add_left (ih h) n
  | char c rest hc ih =>
      rw [keepsEscapes_cons hc] at h
      obtain ⟨m, n, -, -, -, hcost⟩ := exists_leastCost_cons hc
      rw [unescaped_cons hc, (hcost _).1, (hcost _).1]
      exact Nat.add_lt_add_left (ih h) m

/-! ## Locators of one segment -/

/-- The pattern of what the split leaves accepts what the spec accepts just where escapes are
kept: otherwise the least text that it accepts costs less than any that the spec accepts. -/
theorem accepts_unescaped_iff {settings : PatternSettings} {node p : Pattern}
    (hnode : Pattern.compile settings (unescaped s) = .ok node)
    (hp : Pattern.compile settings s = .ok p) :
    (∀ t, node.accepts t = true ↔ p.accepts t = true) ↔ keepsEscapes s = true := by
  constructor
  · intro hsame
    by_contra hlost
    have hlt := leastCost_unescaped_lt (s := s) (by simpa using hlost)
    have haccepts : node.accepts (least (ofSpec (unescaped s))) = true :=
      (Pattern.accepts_compile_parts hnode _).mpr (.inr (accepts_least _))
    rcases (Pattern.accepts_compile_parts hp _).mp ((hsame _).mp haccepts) with hopen | hparts
    · have hzero : leastCost s = 0 := by rw [leastCost, least_eq_nil_iff.mpr hopen, cost]
      omega
    · exact absurd (cost_least_le hparts) (Nat.not_le.mpr hlt)
  · intro hkept t
    rw [Pattern.accepts_compile_parts hnode, Pattern.accepts_compile_parts hp,
      ofSpec_unescaped hkept]

/-- A text without separators, but with other text than blanks, is a locator of one segment:
of what the split leaves. -/
theorem ofText_eq_of_one_segment (hsep : '>' ∉ raw) (hne : raw.trim ≠ []) :
    ofText raw = (fun p => ⟨[unescaped raw.trim], some ⟨none, p, p, none⟩⟩) <$>
      Pattern.compile {} (unescaped raw.trim) := by
  have hunescaped : unescaped raw.trim ≠ [] := by
    intro hnil
    have hhead := head?_unescaped raw.trim
    rw [hnil, List.head?_nil, eq_comm, List.head?_eq_none_iff] at hhead
    exact hne hhead
  have htidy : tidy (split raw) = [unescaped raw.trim] := by
    rw [tidy_split, segmentsOf_eq_unescaped hsep, tidy_cons hunescaped (trim_unescaped raw)]
    rfl
  have hwhole (s : Text) : Pattern.joinSegments ([] ++ [s]) = s :=
    Pattern.joinSegments_singleton s
  rw [ofText, ofSegments, ofSegmentsWith, htidy]
  simp only [List.getLast?_singleton, List.dropLast_singleton, compileWith, hwhole]
  cases Pattern.compile {} (unescaped raw.trim) <;> rfl

theorem exists_compile_node {l : Locator} (hsep : '>' ∉ raw) (hne : raw.trim ≠ [])
    (hl : ofText raw = .ok l) :
    ∃ q, l.patterns = some q ∧ Pattern.compile {} (unescaped raw.trim) = .ok q.node := by
  rw [ofText_eq_of_one_segment hsep hne] at hl
  cases hnode : Pattern.compile {} (unescaped raw.trim) with
  | error e =>
      rw [hnode] at hl
      cases hl
  | ok p =>
      rw [hnode] at hl
      cases hl
      exact ⟨_, rfl, rfl⟩

/-- A locator of one segment accepts the texts that the segment accepts as a spec if and only
if no pair of backslashes stands in front of `*`, `?` or a backslash. -/
theorem node_accepts_as_spec_iff {l : Locator} {p : Pattern} (hsep : '>' ∉ raw)
    (hne : raw.trim ≠ []) (hl : ofText raw = .ok l)
    (hp : Pattern.compile {} raw.trim = .ok p) :
    ∃ q, l.patterns = some q ∧
      ((∀ t, q.node.accepts t = true ↔ p.accepts t = true) ↔
        keepsEscapes raw.trim = true) := by
  obtain ⟨q, hq, hnode⟩ := exists_compile_node hsep hne hl
  exact ⟨q, hq, accepts_unescaped_iff hnode hp⟩

/-- A pair in front of a letter, an escaped star, and blanks around them. -/
theorem node_accepts_as_spec_letter : ∃ l q p, ofText " a\\\\b\\* ".toList = .ok l ∧
    l.patterns = some q ∧ Pattern.compile {} "a\\\\b\\*".toList = .ok p ∧
    ∀ t, q.node.accepts t = true ↔ p.accepts t = true := by
  have hmade : ∃ l, ofText " a\\\\b\\* ".toList = .ok l := ⟨_, rfl⟩
  have hcompile : ∃ p, Pattern.compile {} "a\\\\b\\*".toList = .ok p := ⟨_, rfl⟩
  obtain ⟨l, hl⟩ := hmade
  obtain ⟨p, hp⟩ := hcompile
  obtain ⟨q, hq, hiff⟩ := node_accepts_as_spec_iff (by decide) (by decide) hl hp
  exact ⟨l, q, p, hl, hq, hp, hiff.mpr (by decide)⟩

set_option maxRecDepth 10000 in
theorem compile_backslash_run : Pattern.compile {} "\\\\*".toList =
    .ok ⟨"\\\\*".toList, .automaton (expression true [.char '\\', .anyRun])⟩ := by
  cbv

/-- Behind a pair of backslashes a star is escaped, but the backslash in front of it is used
up by the one that is left of the pair: the locator accepts any text behind a backslash. -/
theorem escaped_star_becomes_run :
    ∃ l q p, ofText "\\\\\\*".toList = .ok l ∧ l.patterns = some q ∧
    Pattern.compile {} "\\\\\\*".toList = .ok p ∧
    q.node.accepts ['\\', 'x'] = true ∧ p.accepts ['\\', 'x'] = false ∧
    p.accepts ['\\', '*'] = true := by
  have hleft : unescaped (Text.trim "\\\\\\*".toList) = "\\\\*".toList := by decide
  have hmade : ofText "\\\\\\*".toList = _ := ofText_eq_of_one_segment (by decide) (by decide)
  rw [hleft, compile_backslash_run] at hmade
  refine ⟨_, _, _, hmade, rfl, rfl, ?_, by decide, by decide⟩
  rw [Pattern.accepts_expression_iff]
  exact ⟨['x'], rfl, ['x'], [], rfl, fun _ _ => .inl rfl, rfl⟩

end Locator
end ControlSearch
