import ControlSearch.Proofs.Locator
import ControlSearch.Proofs.Pattern.Written

/-!
# Why patterns are refused

Whatever stands in a wildcard spec, its translation is a well formed expression. So
compilation can fail for one reason only: the automaton of a spec with wildcards exceeds the
limit on its size. The same holds of a locator, which is refused for one of the specs that its
segments are joined to.
-/
namespace ControlSearch

/-- A computation in two steps fails if one of them does. -/
theorem except_bind_eq_error {ε α β : Type} {x : Except ε α} {f : α → Except ε β} {e : ε} :
    x.bind f = .error e ↔ x = .error e ∨ ∃ a, x = .ok a ∧ f a = .error e := by
  cases x <;> simp [Except.bind]

/-- An error refuses a spec for the size of its automaton: it names the spec as it is written,
and its details end with the limit. -/
def Error.RefusesSize (limit : Nat) (spec : Text) (e : Error) : Prop :=
  ∃ fault, e = .patternSyntax spec fault ∧
    fault.sizeNote? = some s!"(dfa_size_limit {limit} bytes)" ∧
    ∃ details : String, fault.message = s!"{details} (dfa_size_limit {limit} bytes)"

/-- The text of an expression for a spec. -/
def Wildcard.translation (spec : Text) : Text := (ofSpec spec).flatMap written

namespace Pattern
open Wildcard

variable {settings : PatternSettings} {spec : Text} {p : Pattern} {e : Error}

/-- The error for an automaton that is too big. -/
def tooBig (settings : PatternSettings) (spec : Text) : Error :=
  .patternSyntax spec (.unbuildable "exceeded the automaton size limit" settings.sizeLimit)

theorem refusesSize_tooBig (settings : PatternSettings) (spec : Text) :
    (tooBig settings spec).RefusesSize settings.sizeLimit spec :=
  ⟨_, rfl, rfl, "exceeded the automaton size limit", rfl⟩

/-! ## Specs -/

theorem compile_of_isOpen (h : isOpen (ofSpec spec) = true) :
    compile settings spec = .ok ⟨spec, .everything⟩ := by
  rw [compile, if_pos h]
  rfl

theorem compile_of_literal? {w : Text} (hopen : isOpen (ofSpec spec) = false)
    (h : literal? (ofSpec spec) = some w) : compile settings spec = .ok ⟨spec, .word w⟩ := by
  simp only [compile, hopen, h, Bool.false_eq_true, if_false]
  rfl

/-- A spec with wildcards is compiled to the automaton of its expression. -/
theorem compile_of_wildcards (hopen : isOpen (ofSpec spec) = false)
    (h : literal? (ofSpec spec) = none) : compile settings spec =
      (automaton? spec settings.sizeLimit
        (expression settings.dotMatchesNewLine (ofSpec spec))).map (Pattern.mk spec) := by
  simp only [compile, hopen, h, Bool.false_eq_true, if_false, sequence_eq_expression]
  rfl

/-- Compilation fails for specs with wildcards whose automaton is too big, and for no
others. -/
theorem compile_eq_error_iff : compile settings spec = .error e ↔
    isOpen (ofSpec spec) = false ∧ literal? (ofSpec spec) = none ∧
      (expression settings.dotMatchesNewLine (ofSpec spec)).isWithin settings.sizeLimit =
        false ∧
      e = tooBig settings spec := by
  cases hopen : isOpen (ofSpec spec) with
  | true => simp [compile_of_isOpen hopen]
  | false =>
      cases hword : literal? (ofSpec spec) with
      | some w => simp [compile_of_literal? hopen hword]
      | none =>
          rw [compile_of_wildcards hopen hword, automaton?_expression]
          cases (expression settings.dotMatchesNewLine (ofSpec spec)).isWithin
            settings.sizeLimit with
          | true => simp [Except.map]
          | false => simp [Except.map, tooBig, eq_comm]

theorem refusesSize_of_compile (h : compile settings spec = .error e) :
    e.RefusesSize settings.sizeLimit spec := by
  obtain ⟨-, -, -, rfl⟩ := compile_eq_error_iff.mp h
  exact refusesSize_tooBig settings spec

end Pattern

/-! ## Locators -/

namespace Locator
open Pattern

variable {settings : PatternSettings} {raw path : List Text} {last : Text} {e : Error}

theorem compilePath_eq_error (h : compilePath (compile settings) path = .error e) :
    path ≠ [] ∧ compile settings (joinSegments path) = .error e := by
  unfold compilePath at h
  split at h
  · cases h
  · rename_i hne
    refine ⟨by simpa using hne, ?_⟩
    cases hp : compile settings (joinSegments path) with
    | ok p =>
        rw [hp] at h
        cases h
    | error e' =>
        rw [hp] at h
        exact congrArg _ (Except.error.inj h)

theorem compileStart_eq_error {node : Pattern}
    (h : compileStart (compile settings) path last node = .error e) :
    ∃ a, path.getLast? = some a ∧ compile settings (joinSegments [a, last]) = .error e := by
  unfold compileStart at h
  split at h
  · rename_i a ha
    split at h
    · rcases except_bind_eq_error.mp h with h | ⟨p, -, h⟩
      · exact ⟨a, ha, h⟩
      · cases h
    · cases h
  · cases h

/-- The patterns of a locator are refused for a spec that is joined of neighbouring
segments. -/
theorem compileWith_eq_error (h : compileWith (compile settings) path last = .error e) :
    ∃ part, part ≠ [] ∧ part <:+: path ++ [last] ∧
      compile settings (joinSegments part) = .error e := by
  rcases except_bind_eq_error.mp h with h | ⟨node, -, h⟩
  · refine ⟨[last], by simp, ⟨path, [], by simp⟩, ?_⟩
    rwa [joinSegments_singleton]
  rcases except_bind_eq_error.mp h with h | ⟨pathPattern, -, h⟩
  · obtain ⟨hne, h⟩ := compilePath_eq_error h
    exact ⟨path, hne, ⟨[], [last], by simp⟩, h⟩
  rcases except_bind_eq_error.mp h with h | ⟨whole, -, h⟩
  · exact ⟨path ++ [last], by simp, List.infix_rfl, h⟩
  rcases except_bind_eq_error.mp h with h | ⟨startsWith, -, h⟩
  · obtain ⟨a, ha, h⟩ := compileStart_eq_error h
    have hpath : path.dropLast ++ [a] = path := List.dropLast_append_getLast? a ha
    refine ⟨[a, last], by simp, ⟨path.dropLast, [], ?_⟩, h⟩
    rw [List.append_nil, ← List.singleton_append, ← List.append_assoc, hpath]
  · cases h

theorem ofSegmentsWith_eq_error (h : ofSegmentsWith (compile settings) raw = .error e) :
    ∃ part, part ≠ [] ∧ part <:+: tidy raw ∧
    compile settings (joinSegments part) = .error e := by
  unfold ofSegmentsWith at h
  dsimp only at h
  split at h
  · cases h
  · rename_i last hlast
    rcases except_bind_eq_error.mp h with h | ⟨patterns, -, h⟩
    · have hpart := compileWith_eq_error h
      rwa [List.dropLast_append_getLast? last hlast] at hpart
    · cases h

end Locator

namespace Pattern
open Wildcard

/-- The translation of a spec is always well formed, and a spec with wildcards is compiled to
its automaton. So a spec compiles unless that automaton exceeds the limit; a spec of nothing
but stars and a word compile always. A locator is made unless a spec that is joined of its
segments is refused. -/
theorem refused_for_size_only (settings : PatternSettings) (spec : Text) :
    (∃ r, (∀ properties,
        Regex.ofText properties settings.dotMatchesNewLine (translation spec) = .ok r) ∧
      (isOpen (ofSpec spec) = false → literal? (ofSpec spec) = none →
        compile settings spec =
          (automaton? spec settings.sizeLimit r).map (Pattern.mk spec)) ∧
      ((∃ p, compile settings spec = .ok p) ∨
        r.isWithin settings.sizeLimit = false ∧
          ∃ e, compile settings spec = .error e ∧ e.RefusesSize settings.sizeLimit spec)) ∧
    ((∀ c ∈ spec, c = '*') → compile settings spec = .ok ⟨spec, .everything⟩) ∧
    (∀ w, (∃ c ∈ spec, c ≠ '*') → literal? (ofSpec spec) = some w →
      compile settings spec = .ok ⟨spec, .word w⟩) ∧
    ∀ raw e, Locator.ofSegments raw = .error e →
      ∃ part, part ≠ [] ∧ part <:+: Locator.tidy raw ∧
        compile {} (joinSegments part) = .error e ∧
        e.RefusesSize (PatternSettings.sizeLimit {}) (joinSegments part) := by
  refine ⟨⟨_, fun _ => ofText_written _ _ _, compile_of_wildcards, ?_⟩, ?_, ?_, ?_⟩
  · cases h : compile settings spec with
    | ok p => exact .inl ⟨p, rfl⟩
    | error e =>
        obtain ⟨-, -, hsize, -⟩ := compile_eq_error_iff.mp h
        exact .inr ⟨hsize, e, rfl, refusesSize_of_compile h⟩
  · exact fun hstars => compile_of_isOpen (isOpen_iff.mpr hstars)
  · intro w hother hword
    refine compile_of_literal? ?_ hword
    rw [← Bool.not_eq_true, isOpen_iff]
    simpa using hother
  · intro raw e h
    obtain ⟨part, hne, hpart, h⟩ := Locator.ofSegmentsWith_eq_error h
    exact ⟨part, hne, hpart, h, refusesSize_of_compile h⟩

end Pattern
end ControlSearch
