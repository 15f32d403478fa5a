import ControlSearch.Proofs.Pattern.Acceptance

/-!
# Specs written as expressions

The parts of a wildcard spec can be written as the text of an expression, with a backslash in
front of each character that means something there. Reading the text gives the expression of
the parts back. So it is never refused as malformed, and a word that is escaped stands for
itself.
-/
namespace ControlSearch

namespace Regex

/-- A character as it is written in an expression to stand for itself. -/
def escapeChar (c : Char) : Text := if Expression.isMeta c then ['\\', c] else [c]

/-- A text as it is written in an expression to stand for itself. -/
def escape (t : Text) : Text := t.flatMap escapeChar

/-- The characters of a word, one behind the other. -/
def word (w : Text) : Regex := ofMembers (w.map char)

theorem choice_singleton {r : Regex} (h : r.alternatives = [r]) : choice [r] = r := by
  simp [choice, h, plainChoice]

namespace Expression

variable {p : Progress} {c : Char} {rest : Text}

/-- A character that means nothing in an expression stands for itself. -/
theorem readPart_of_not_isMeta (h : isMeta c = false) :
    readPart p c rest = .ok (p.push (symbol ⟨c, false⟩), rest) := by
  have hne (d : Char) (hd : isMeta d = true) : c ≠ d := by
    rintro rfl
    rw [h] at hd
    cases hd
  rw [readPart]
  · rfl
  all_goals exact hne _ (by decide)

/-- Behind a backslash, a character that means something stands for itself. -/
theorem readEscape_of_isMeta (ignore : Bool) (h : isMeta c = true) :
    readEscape ignore (c :: rest) = .ok (symbol ⟨c, false⟩, rest) := by
  have hne (d : Char) (hd : isMeta d = false) : c ≠ d := by
    rintro rfl
    rw [h] at hd
    cases hd
  have hescapable : isEscapable c = true := by simp [isEscapable, h]
  rw [readEscape]
  · rw [if_pos hescapable]
    rfl
  all_goals exact hne _ (by decide)

theorem readPart_escaped (h : isMeta c = true) :
    readPart p '\\' (c :: rest) = .ok (p.push (symbol ⟨c, false⟩), rest) := by
  simp only [readPart, readEscape_of_isMeta p.ignore h]
  rfl

theorem readOn_succ {fuel : Nat} {p' : Progress} {rest' : Text} (hignore : p.ignore = false)
    (h : readPart p c rest = .ok (p', rest')) :
    readOn (fuel + 1) p (c :: rest) = readOn fuel p' rest' := by
  rw [readOn, skip, hignore]
  simp only [Bool.false_eq_true, if_false, h]
  rfl

end Expression
end Regex

namespace Wildcard
open Regex Regex.Expression

variable {dotNewLine : Bool}

/-- A part as it is written in an expression. -/
def written : Wildcard → Text
  | char c => escapeChar c
  | anyChar => ['.']
  | anyRun => ['.', '*']

/-- What is read of a written part. -/
def tree : Wildcard → Expression
  | char c => .symbol ⟨c, false⟩
  | anyChar => .dot
  | anyRun => .rounds .dot 0 none true

/-! ## Reading -/

/-- Nothing written begins with a question mark, so a star in front of it stays eager. -/
theorem readEager_written (parts : List Wildcard) :
    readEager (parts.flatMap written) = (true, parts.flatMap written) := by
  cases parts with
  | nil => rfl
  | cons p parts =>
      cases p with
      | char c =>
          by_cases hc : isMeta c = true
          · simp [written, escapeChar, hc, readEager]
          · have hmark : c ≠ '?' := by
              rintro rfl
              exact hc (by decide)
            simp [written, escapeChar, hc, readEager, hmark]
      | anyChar | anyRun => rfl

/-- A written part is read as one part of a sequence, in no more steps than it has
characters. -/
theorem readOn_append (part : Wildcard) {p : Progress} {rest : Text}
    (hignore : p.ignore = false) (hrest : readEager rest = (true, rest)) :
    ∃ n ≤ part.written.length, ∀ fuel,
      readOn (fuel + n) p (part.written ++ rest) = readOn fuel (p.push part.tree) rest := by
  cases part with
  | char c =>
      by_cases hc : isMeta c = true
      · have hwritten : (char c).written = ['\\', c] := if_pos hc
        rw [hwritten]
        exact ⟨1, by simp, fun fuel => readOn_succ hignore (readPart_escaped hc)⟩
      · have hc : isMeta c = false := by simpa using hc
        have hwritten : (char c).written = [c] := by simp [written, escapeChar, hc]
        rw [hwritten]
        exact ⟨1, le_rfl, fun fuel => readOn_succ hignore (readPart_of_not_isMeta hc)⟩
  | anyChar => exact ⟨1, le_rfl, fun fuel => readOn_succ hignore rfl⟩
  | anyRun =>
      have hdot : readPart p '.' ('*' :: rest) = .ok (p.push .dot, '*' :: rest) := rfl
      have hstar :
          readPart (p.push .dot) '*' rest =
            .ok (p.push (.rounds .dot 0 none true), rest) := by
        simp [readPart, repeated, Progress.lastPart, Progress.push, hrest]
        rfl
      refine ⟨2, le_rfl, fun fuel => ?_⟩
      exact (readOn_succ hignore hdot).trans (readOn_succ (p := p.push .dot) hignore hstar)

/-- Written parts are read as a sequence of parts. -/
theorem readOn_written (parts : List Wildcard) {p : Progress} {fuel : Nat}
    (hignore : p.ignore = false) (hstack : p.stack = [])
    (hfuel : (parts.flatMap written).length ≤ fuel) :
    readOn fuel p (parts.flatMap written) =
      .ok { p with parts := (parts.map tree).reverse ++ p.parts }.whole := by
  induction parts generalizing p fuel with
  | nil =>
      simp [readOn, skip, hignore, hstack]
      rfl
  | cons part parts ih =>
      obtain ⟨n, hn, hstep⟩ := readOn_append part hignore (readEager_written parts)
      rw [List.flatMap_cons, List.length_append] at hfuel
      have hrest := @ih (p.push part.tree) (fuel - n) hignore hstack (by omega)
      have hsplit : fuel = fuel - n + n := by omega
      rw [List.flatMap_cons, hsplit, hstep, hrest]
      simp [Progress.push]

/-- A sequence is one level, however many parts it has. -/
theorem depth_sequence_le {front last : Expression}
    (h : front.depth ≤ 1 ∨ ∃ a b, front = .sequence a b ∧ front.depth ≤ 2)
    (hlast : last.depth ≤ 1) :
    (Expression.sequence front last).depth ≤ 2 := by
  by_cases hfront : ∃ a b, front = .sequence a b
  · obtain ⟨a, b, rfl⟩ := hfront
    have hle : (Expression.sequence a b).depth ≤ 2 := by
      rcases h with h | ⟨-, -, -, h⟩
      · omega
      · exact h
    rw [Expression.depth]
    omega
  · rcases h with h | ⟨a, b, h, -⟩
    · rw [Expression.depth]
      · omega
      · exact fun a b h => hfront ⟨a, b, h⟩
    · exact absurd ⟨a, b, h⟩ hfront

theorem depth_tree_le (p : Wildcard) : (tree p).depth ≤ 1 := by
  cases p <;> simp [tree, Expression.depth]

theorem depth_foldl_sequence_le {parts : List Wildcard} {front : Expression}
    (h : front.depth ≤ 1 ∨ ∃ a b, front = .sequence a b ∧ front.depth ≤ 2) :
    ((parts.map tree).foldl .sequence front).depth ≤ 2 := by
  induction parts generalizing front with
  | nil =>
      rcases h with h | ⟨a, b, rfl, h⟩
      · exact h.trans (by decide)
      · exact h
  | cons p parts ih => exact ih (.inr ⟨_, _, rfl, depth_sequence_le h (depth_tree_le p)⟩)

theorem depth_ofSequence_le (parts : List Wildcard) :
    (ofSequence (parts.map tree)).depth ≤ 2 := by
  cases parts with
  | nil => simp [ofSequence, Expression.depth]
  | cons p parts => exact depth_foldl_sequence_le (.inl (depth_tree_le p))

/-- Written parts are an expression, the sequence of what is read of each part. -/
theorem read_written (parts : List Wildcard) :
    Expression.read (parts.flatMap written) = .ok (ofSequence (parts.map tree)) := by
  have hwhole :
      Progress.whole { Progress.start with parts := (parts.map tree).reverse ++ [] } =
      ofSequence (parts.map tree) := by simp [Progress.whole, Progress.start]
  have hread := @readOn_written parts .start _ rfl rfl le_rfl
  have hshallow : ¬(ofSequence (parts.map tree)).depth > maxDepth :=
    Nat.not_lt.mpr ((depth_ofSequence_le parts).trans (by decide))
  refine except_bind_eq_ok.mpr ⟨_, hread.trans (congrArg _ hwhole), ?_⟩
  rw [if_neg hshallow]
  rfl

/-! ## Meaning -/

/-- The members of the expression of some parts are the expressions of the parts. -/
theorem members_expression (dotNewLine : Bool) (parts : List Wildcard) :
    (expression dotNewLine parts).members = parts.map (regex dotNewLine) := by
  induction parts with
  | nil => rfl
  | cons p parts ih =>
      have hp : (regex dotNewLine p).members = [regex dotNewLine p] := by cases p <;> rfl
      cases parts with
      | nil => exact hp
      | cons q parts =>
          rw [expression_cons_cons, Regex.members, hp, ih]
          rfl

theorem choice_expression (dotNewLine : Bool) (parts : List Wildcard) :
    Regex.choice [expression dotNewLine parts] = expression dotNewLine parts := by
  refine Regex.choice_singleton ?_
  cases parts with
  | nil => rfl
  | cons p parts =>
      cases parts with
      | nil => cases p <;> rfl
      | cons q parts => rfl

/-- What is read of a written part means the expression of the part, and sets no flags. -/
theorem options_tree (properties : Regex.Properties) (dotNewLine : Bool) (p : Wildcard) :
    options properties (.initial dotNewLine) (tree p) =
      .ok ([expression dotNewLine [p]], .initial dotNewLine) := by
  cases p with
  | char c => rfl
  | anyChar => rfl
  | anyRun =>
      have hset : Regex.choice [.set (anyChars dotNewLine)] = .set (anyChars dotNewLine) :=
        Regex.choice_singleton rfl
      have hrepeat : repetition (.set (anyChars dotNewLine)) 0 none true =
          .rounds (.set (anyChars dotNewLine)) 0 none true := by
        simp [repetition, isHollow, hasContent_anyChars]
      have hdot : options properties (.initial dotNewLine) .dot =
          .ok ([.set (anyChars dotNewLine)], .initial dotNewLine) := rfl
      rw [tree, options, hdot]
      refine except_bind_eq_ok.mpr ⟨_, rfl, ?_⟩
      simp only [hset]
      exact congrArg (fun r => Except.ok ([r], Flags.initial dotNewLine)) hrepeat

theorem options_foldl_sequence {properties : Regex.Properties} (dotNewLine : Bool)
    {front : Expression} {before : List Wildcard}
    (h : options properties (.initial dotNewLine) front =
      .ok ([expression dotNewLine before], .initial dotNewLine)) (parts : List Wildcard) :
    options properties (.initial dotNewLine) ((parts.map tree).foldl .sequence front) =
      .ok ([expression dotNewLine (before ++ parts)], .initial dotNewLine) := by
  induction parts generalizing front before with
  | nil => simpa using h
  | cons p parts ih =>
      have hjoin : Regex.sequence [expression dotNewLine before, expression dotNewLine [p]] =
          expression dotNewLine (before ++ [p]) := by
        rw [Regex.sequence, List.flatMap_cons, List.flatMap_cons, List.flatMap_nil,
          members_expression, members_expression, List.append_nil,
          ← List.map_append, expression]
      have hfront : options properties (.initial dotNewLine) (.sequence front (tree p)) =
          .ok ([expression dotNewLine (before ++ [p])], .initial dotNewLine) := by
        refine except_bind_eq_ok.mpr
          ⟨_, h, except_bind_eq_ok.mpr ⟨_, options_tree properties dotNewLine p, ?_⟩⟩
        simp only [choice_expression, hjoin]
        rfl
      have hrest := ih hfront
      rw [List.append_assoc] at hrest
      exact hrest

/-- Read as the text of an expression, written parts are the expression of the parts. -/
theorem ofText_written (properties : Regex.Properties) (dotNewLine : Bool)
    (parts : List Wildcard) :
    Regex.ofText properties dotNewLine (parts.flatMap written) =
      .ok (expression dotNewLine parts) := by
  have hoptions : options properties (.initial dotNewLine) (ofSequence (parts.map tree)) =
      .ok ([expression dotNewLine parts], .initial dotNewLine) := by
    cases parts with
    | nil => rfl
    | cons p parts =>
        exact options_foldl_sequence dotNewLine (options_tree properties dotNewLine p) parts
  refine except_bind_eq_ok.mpr ⟨_, read_written parts,
    except_bind_eq_ok.mpr ⟨_, hoptions, ?_⟩⟩
  simp only [choice_expression]
  rfl

/-! ## Compilation -/

theorem asksUnicodeWords_expression (dotNewLine : Bool) (parts : List Wildcard) :
    (expression dotNewLine parts).asksUnicodeWords = false := by
  induction parts with
  | nil => rfl
  | cons p parts ih =>
      have hp : (regex dotNewLine p).asksUnicodeWords = false := by cases p <;> rfl
      cases parts with
      | nil => exact hp
      | cons q parts =>
          rw [expression_cons_cons, asksUnicodeWords, hp, ih]
          rfl

/-- The automaton of some parts is refused for its size only. -/
theorem automaton?_expression (settings : PatternSettings) (spec : Text)
    (parts : List Wildcard) :
    Pattern.automaton? spec settings.sizeLimit (expression settings.dotMatchesNewLine parts) =
      if (expression settings.dotMatchesNewLine parts).isWithin settings.sizeLimit then
        .ok (.automaton (expression settings.dotMatchesNewLine parts))
      else .error (.patternSyntax spec
        (.unbuildable "exceeded the automaton size limit" settings.sizeLimit)) := by
  rw [Pattern.automaton?, asksUnicodeWords_expression]
  rfl

/-- Written parts are never malformed: they compile to the automaton of the parts if it is not
too big. -/
theorem ofRegex_written (settings : PatternSettings) (properties : Regex.Properties)
    (parts : List Wildcard) :
    Pattern.ofRegex settings (parts.flatMap written) properties =
      if (expression settings.dotMatchesNewLine parts).isWithin settings.sizeLimit then
        .ok ⟨parts.flatMap written, .automaton (expression settings.dotMatchesNewLine parts)⟩
      else .error (.patternSyntax (parts.flatMap written)
        (.unbuildable "exceeded the automaton size limit" settings.sizeLimit)) := by
  simp only [Pattern.ofRegex, ofText_written, automaton?_expression]
  split <;> rfl

theorem expression_map_char (dotNewLine : Bool) (w : Text) :
    expression dotNewLine (w.map char) = Regex.word w := by
  rw [expression, List.map_map]
  rfl

/-- An escaped word compiles to the automaton of its characters if that is not too big. -/
theorem ofRegex_escape (settings : PatternSettings)
    (properties : Regex.Properties) (w : Text) :
    Pattern.ofRegex settings (escape w) properties =
      if (Regex.word w).isWithin settings.sizeLimit then
        .ok ⟨escape w, .automaton (Regex.word w)⟩
      else .error (.patternSyntax (escape w)
        (.unbuildable "exceeded the automaton size limit" settings.sizeLimit)) := by
  have hescape : (w.map char).flatMap written = escape w := List.flatMap_map ..
  have hwritten := ofRegex_written settings properties (w.map char)
  rwa [hescape, expression_map_char] at hwritten

end Wildcard
end ControlSearch
