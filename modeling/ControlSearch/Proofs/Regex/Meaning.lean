import ControlSearch.Proofs.CharSet.Folding
import ControlSearch.Proofs.Regex.NormalForm
import ControlSearch.Regex.Expression.Meaning

/-!
# What written expressions accept

The language of a written expression is read off its tree. Whatever is compiled from the
expression accepts that language, however much its shape has changed, and its sets are proper.
-/
namespace ControlSearch

/-- A computation in two steps succeeds if both of them do. -/
theorem except_bind_eq_ok {ε α β : Type} {x : Except ε α} {f : α → Except ε β} {b : β} :
    x.bind f = .ok b ↔ ∃ a, x = .ok a ∧ f a = .ok b := by
  cases x <;> simp [Except.bind]

namespace Regex

variable {flags : Flags}

/-! ## Classes -/

/-- A property or its opposite. -/
def Negated (negated : Bool) (P : Prop) : Prop := if negated then ¬P else P

/-- A character, or one that differs from it in case only where case does not matter, has a
property. -/
def Flags.AnyCase (flags : Flags) (P : Char → Prop) (c : Char) : Prop :=
  ∃ d, P d ∧ (flags.folded (.singleton d)).contains c = true

variable (properties : Properties)

/-- Whether a character is among those that are known to have a property. -/
def Properties.Has (name : PropertyName) (c : Char) : Prop :=
  ∃ members, properties.members name = .ok members ∧ Interval.Covers members c.toNat

/-- Which characters a class in brackets stands for. -/
def ClassExpr.Has (flags : Flags) : ClassExpr → Char → Prop
  | nothing, _ => False
  | symbol s, c => c = s.char
  | range first last, c => first.char.toNat ≤ c.toNat ∧ c.toNat ≤ last.char.toNat
  | shorthand kind negated, c => Negated negated ((kind.members flags).contains c = true)
  | property name negated, c => Negated negated (flags.AnyCase (properties.Has name) c)
  | named members negated, c =>
    Negated negated (flags.AnyCase (fun d => Interval.Covers members d.toNat) c)
  | union front last, c => front.Has flags c ∨ last.Has flags c
  | bracket negated inside, c => Negated negated (flags.AnyCase (inside.Has flags) c)
  | operation .intersection left right, c =>
    flags.AnyCase (left.Has flags) c ∧ flags.AnyCase (right.Has flags) c
  | operation .difference left right, c =>
    flags.AnyCase (left.Has flags) c ∧ ¬flags.AnyCase (right.Has flags) c
  | operation .symmetricDifference left right, c =>
    ¬(flags.AnyCase (left.Has flags) c ↔ flags.AnyCase (right.Has flags) c)

variable {properties}

/-- A proper set of the characters with a property. -/
structure Holds (s : CharSet) (P : Char → Prop) : Prop where
  proper : s.Proper
  contains_iff : ∀ c, s.contains c = true ↔ P c

theorem holds_singleton (a : Char) : Holds (.singleton a) (· = a) :=
  ⟨CharSet.proper_singleton a, CharSet.contains_singleton a⟩

theorem holds_ofIntervals (rs : List Interval) :
    Holds (.ofIntervals rs) (fun c => Interval.Covers rs c.toNat) :=
  ⟨CharSet.proper_ofIntervals rs, CharSet.contains_ofIntervals rs⟩

theorem Holds.congr {s : CharSet} {P Q : Char → Prop} (h : Holds s P) (hpq : ∀ c, P c ↔ Q c) :
    Holds s Q :=
  ⟨h.proper, fun c => (h.contains_iff c).trans (hpq c)⟩

theorem memberwise_folded (flags : Flags) : CharSet.Memberwise flags.folded := by
  unfold Flags.folded
  cases flags.caseInsensitive
  · exact CharSet.memberwise_id
  · cases flags.unicode
    · exact CharSet.memberwise_foldAscii
    · exact CharSet.memberwise_fold

theorem Holds.folded {s : CharSet} {P : Char → Prop} (h : Holds s P) (flags : Flags) :
    Holds (flags.folded s) (flags.AnyCase P) := by
  refine ⟨(memberwise_folded flags).proper h.proper, ?_⟩
  intro c
  rw [(memberwise_folded flags).contains_iff h.proper]
  simp only [h.contains_iff, Flags.AnyCase]

theorem Holds.negated {s : CharSet} {P : Char → Prop} (h : Holds s P) (negated : Bool) :
    Holds (if negated then s.complement else s) (fun c => Negated negated (P c)) := by
  cases negated
  · exact h
  · refine ⟨CharSet.proper_complement s, ?_⟩
    intro c
    simp [CharSet.contains_complement h.proper, h.contains_iff, Negated]

theorem eq_of_checked {s chars : CharSet} (h : flags.checked s = .ok chars) : chars = s := by
  unfold Flags.checked at h
  split at h
  · exact (Except.ok.inj h).symm
  · cases h

theorem Holds.finished {s chars : CharSet} {P : Char → Prop} {negated : Bool} (hs : Holds s P)
    (h : flags.finished negated s = .ok chars) :
    Holds chars (fun c => Negated negated (flags.AnyCase P c)) := by
  rw [eq_of_checked h]
  exact (hs.folded flags).negated negated

theorem eq_of_char {s : Symbol} {c : Char} (h : flags.char s = .ok c) : c = s.char := by
  unfold Flags.char at h
  split at h
  · cases h
  · exact (Except.ok.inj h).symm

theorem eq_of_classChar {s : Symbol} {c : Char} (h : flags.classChar s = .ok c) :
    c = s.char := by
  obtain ⟨d, hd, h⟩ := except_bind_eq_ok.mp h
  dsimp only at h
  split at h
  · cases h
  · obtain rfl := Except.ok.inj h
    exact eq_of_char hd

theorem proper_shorthand (flags : Flags) (kind : Shorthand) :
    (kind.members flags).Proper := by
  cases kind <;> simp only [Shorthand.members] <;> split <;>
    first | exact CharSet.proper_ofTable _ | exact CharSet.proper_union _ _

theorem holds_shorthand {kind : Shorthand} {negated : Bool} {chars : CharSet}
    (h : kind.chars flags negated = .ok chars) :
    Holds chars (fun c => Negated negated ((kind.members flags).contains c = true)) := by
  rw [eq_of_checked h]
  exact Holds.negated ⟨proper_shorthand flags kind, fun _ => Iff.rfl⟩ negated

theorem holds_property {name : PropertyName} {negated : Bool} {chars : CharSet}
    (h : name.chars properties flags negated = .ok chars) :
    Holds chars (fun c => Negated negated (flags.AnyCase (properties.Has name) c)) := by
  unfold PropertyName.chars at h
  split at h
  · cases h
  · obtain ⟨members, hmembers, h⟩ := except_bind_eq_ok.mp h
    refine Holds.finished ((holds_ofIntervals members).congr fun c => ?_) h
    simp [Properties.Has, hmembers]

/-- The set of a class holds just what the class stands for. -/
theorem holds_chars {e : ClassExpr} {chars : CharSet}
    (h : e.chars properties flags = .ok chars) :
    Holds chars (e.Has properties flags) := by
  induction e generalizing chars with
  | nothing =>
      obtain rfl := Except.ok.inj h
      exact ⟨CharSet.proper_empty, fun c => by simp [ClassExpr.Has]⟩
  | symbol s =>
      obtain ⟨c, hc, h⟩ := except_bind_eq_ok.mp h
      obtain rfl := Except.ok.inj h
      rw [eq_of_classChar hc]
      exact holds_singleton s.char
  | range first last =>
      obtain ⟨a, ha, h⟩ := except_bind_eq_ok.mp h
      obtain ⟨b, hb, h⟩ := except_bind_eq_ok.mp h
      obtain rfl := Except.ok.inj h
      rw [eq_of_classChar ha, eq_of_classChar hb]
      exact (holds_ofIntervals _).congr fun c => by simp [ClassExpr.Has]
  | shorthand kind negated => exact holds_shorthand h
  | property name negated => exact holds_property h
  | named members negated => exact (holds_ofIntervals members).finished h
  | union front last ihf ihl =>
      obtain ⟨s, hs, h⟩ := except_bind_eq_ok.mp h
      obtain ⟨t, ht, h⟩ := except_bind_eq_ok.mp h
      obtain rfl := Except.ok.inj h
      refine ⟨CharSet.proper_union s t, ?_⟩
      intro c
      rw [CharSet.contains_union, (ihf hs).contains_iff, (ihl ht).contains_iff, ClassExpr.Has]
  | bracket negated inside ih =>
      obtain ⟨s, hs, h⟩ := except_bind_eq_ok.mp h
      exact (ih hs).finished h
  | operation kind left right ihl ihr =>
      obtain ⟨s, hs, h⟩ := except_bind_eq_ok.mp h
      obtain ⟨t, ht, h⟩ := except_bind_eq_ok.mp h
      obtain rfl := Except.ok.inj h
      have hl := (ihl hs).folded flags
      have hr := (ihr ht).folded flags
      cases kind with
      | intersection =>
          refine ⟨CharSet.proper_complement _, ?_⟩
          intro c
          rw [CharSet.contains_intersection hl.proper hr.proper, hl.contains_iff,
            hr.contains_iff, ClassExpr.Has]
      | difference =>
          refine ⟨CharSet.proper_complement _, ?_⟩
          intro c
          rw [CharSet.contains_difference hl.proper hr.proper, hl.contains_iff,
            hr.contains_iff, ClassExpr.Has]
      | symmetricDifference =>
          refine ⟨CharSet.proper_union _ _, ?_⟩
          intro c
          rw [CharSet.contains_symmetricDifference hl.proper hr.proper, hl.contains_iff,
            hr.contains_iff, ClassExpr.Has]

/-! ## Expressions -/

namespace Language

/-- One character with a property. -/
def one (P : Char → Prop) : Language := fun _ t _ => ∃ c, P c ∧ t = [c]

end Language

theorem Holds.language_eq {chars : CharSet} {P : Char → Prop} (h : Holds chars P) :
    Language.char chars = Language.one P := by
  ext last t next
  simp only [Language.char, Language.one, h.contains_iff]

theorem language_one_option {r : Regex} {L : Language} (hl : r.language = L) (hr : r.Proper) :
    languageOfAny [r] = L ∧ ∀ s ∈ [r], s.Proper :=
  ⟨by simp [hl], List.forall_mem_singleton.mpr hr⟩

theorem Holds.language_set {chars : CharSet} {P : Char → Prop} (h : Holds chars P) :
    languageOfAny [set chars] = .one P ∧ ∀ s ∈ [set chars], s.Proper :=
  language_one_option h.language_eq (proper_set h.proper)

namespace Expression

/-- The flags in force behind an expression. -/
def flagsBehind (flags : Flags) : Expression → Flags
  | switch changes => flags.setAll changes
  | rounds body _ _ _ => body.flagsBehind flags
  | sequence front last => last.flagsBehind (front.flagsBehind flags)
  | choice front last => last.flagsBehind (front.flagsBehind flags)
  | _ => flags

/-- Whether a dot stands for a character. -/
def DotHas (flags : Flags) (c : Char) : Prop :=
  flags.dotNewLine = true ∨ (c ≠ '\n' ∧ (flags.carriageReturn = true → c ≠ '\r'))

/-- What an expression accepts, whatever it prefers. -/
def language (properties : Properties) (flags : Flags) : Expression → Language
  | empty | switch _ => 1
  | symbol s => .one (flags.AnyCase (· = s.char))
  | dot => .one (DotHas flags)
  | anchor kind => .look (kind.look flags)
  | shorthand kind negated =>
    .one fun c => Negated negated ((kind.members flags).contains c = true)
  | property name negated => .one fun c =>
    Negated negated (flags.AnyCase (properties.Has name) c)
  | bracket negated inside =>
    .one fun c => Negated negated (flags.AnyCase (inside.Has properties flags) c)
  | rounds body least most _ => (body.language properties flags).rounds least most
  | capture _ body => body.language properties flags
  | within changes body => body.language properties (flags.setAll changes)
  | sequence front last =>
    front.language properties flags * last.language properties (front.flagsBehind flags)
  | choice front last =>
    front.language properties flags + last.language properties (front.flagsBehind flags)

theorem holds_dotChars (flags : Flags) : Holds flags.dotChars (DotHas flags) := by
  unfold Flags.dotChars DotHas
  split
  · rename_i h
    exact ⟨CharSet.proper_all, fun c => by simp [CharSet.contains_all, h]⟩
  · rename_i h
    split
    · rename_i hcr
      refine ⟨CharSet.proper_complement _, ?_⟩
      intro c
      have hfeed : Interval.Covers [⟨10, 10⟩] c.toNat ↔ c = '\n' :=
        (CharSet.contains_iff _ c).symm.trans (CharSet.contains_singleton '\n' c)
      have hreturn : Interval.Covers [⟨13, 13⟩] c.toNat ↔ c = '\r' :=
        (CharSet.contains_iff _ c).symm.trans (CharSet.contains_singleton '\r' c)
      have hends : Interval.Covers [⟨10, 10⟩, ⟨13, 13⟩] c.toNat ↔ c = '\n' ∨ c = '\r' := by
        rw [← hfeed, ← hreturn]
        exact Interval.covers_append [⟨10, 10⟩] [⟨13, 13⟩] c.toNat
      rw [CharSet.contains_complement (CharSet.proper_ofIntervals _),
        CharSet.contains_ofIntervals, hends]
      simp [h, hcr]
    · rename_i hcr
      refine ⟨CharSet.proper_complement _, ?_⟩
      intro c
      rw [CharSet.contains_complement (CharSet.proper_singleton _),
        CharSet.contains_singleton]
      simp [h, hcr]

theorem proper_look (assertion : Look) : (Regex.look assertion).Proper := by
  simp [Proper, Size.sets]

/-- The alternatives of an expression are proper and accept, taken together, what the
expression does. The induction carries the flags along. -/
theorem language_options {e : Expression} {rs : List Regex} {behind : Flags}
    (h : options properties flags e = .ok (rs, behind)) :
    behind = e.flagsBehind flags ∧ languageOfAny rs = e.language properties flags ∧
      ∀ r ∈ rs, r.Proper := by
  induction e generalizing flags rs behind with
  | empty | switch _ =>
      obtain ⟨rfl, rfl⟩ := Prod.mk.inj (Except.ok.inj h)
      exact ⟨rfl, language_one_option rfl proper_empty⟩
  | anchor kind =>
      obtain ⟨rfl, rfl⟩ := Prod.mk.inj (Except.ok.inj h)
      exact ⟨rfl, language_one_option rfl (proper_look _)⟩
  | dot =>
      rw [options] at h
      split at h
      · obtain ⟨rfl, rfl⟩ := Prod.mk.inj (Except.ok.inj h)
        exact ⟨rfl, (holds_dotChars flags).language_set⟩
      · cases h
  | symbol s =>
      obtain ⟨chars, hchars, h⟩ := except_bind_eq_ok.mp h
      obtain ⟨rfl, rfl⟩ := Prod.mk.inj (Except.ok.inj h)
      obtain ⟨c, hc, hchars⟩ := except_bind_eq_ok.mp hchars
      obtain rfl := Except.ok.inj hchars
      rw [eq_of_char hc]
      exact ⟨rfl, ((holds_singleton s.char).folded flags).language_set⟩
  | shorthand kind negated =>
      obtain ⟨chars, hchars, h⟩ := except_bind_eq_ok.mp h
      obtain ⟨rfl, rfl⟩ := Prod.mk.inj (Except.ok.inj h)
      exact ⟨rfl, (holds_shorthand hchars).language_set⟩
  | property name negated =>
      obtain ⟨chars, hchars, h⟩ := except_bind_eq_ok.mp h
      obtain ⟨rfl, rfl⟩ := Prod.mk.inj (Except.ok.inj h)
      exact ⟨rfl, (holds_property hchars).language_set⟩
  | bracket negated inside =>
      obtain ⟨inner, hinner, h⟩ := except_bind_eq_ok.mp h
      obtain ⟨chars, hchars, h⟩ := except_bind_eq_ok.mp h
      obtain ⟨rfl, rfl⟩ := Prod.mk.inj (Except.ok.inj h)
      exact ⟨rfl, ((holds_chars hinner).finished hchars).language_set⟩
  | rounds body least most eager ih =>
      obtain ⟨⟨inner, after⟩, hinner, h⟩ := except_bind_eq_ok.mp h
      obtain ⟨rfl, rfl⟩ := Prod.mk.inj (Except.ok.inj h)
      obtain ⟨rfl, hl, hp⟩ := ih hinner
      refine ⟨rfl, language_one_option ?_ (proper_repetition (proper_choice hp) _ _ _)⟩
      rw [language_repetition, language_choice, hl, language]
  | capture number body ih =>
      obtain ⟨⟨inner, after⟩, hinner, h⟩ := except_bind_eq_ok.mp h
      obtain ⟨rfl, rfl⟩ := Prod.mk.inj (Except.ok.inj h)
      obtain ⟨-, hl, hp⟩ := ih hinner
      exact ⟨rfl, language_one_option ((language_choice inner).trans hl) (proper_choice hp)⟩
  | within changes body ih =>
      obtain ⟨⟨inner, after⟩, hinner, h⟩ := except_bind_eq_ok.mp h
      obtain ⟨rfl, rfl⟩ := Prod.mk.inj (Except.ok.inj h)
      obtain ⟨-, hl, hp⟩ := ih hinner
      exact ⟨rfl, language_one_option ((language_choice inner).trans hl) (proper_choice hp)⟩
  | sequence front last ihf ihl =>
      obtain ⟨⟨as, between⟩, hfront, h⟩ := except_bind_eq_ok.mp h
      obtain ⟨⟨bs, after⟩, hlast, h⟩ := except_bind_eq_ok.mp h
      obtain ⟨rfl, rfl⟩ := Prod.mk.inj (Except.ok.inj h)
      obtain ⟨rfl, hfl, hfp⟩ := ihf hfront
      obtain ⟨rfl, hll, hlp⟩ := ihl hlast
      refine ⟨rfl, language_one_option ?_ (proper_sequence ?_)⟩
      · simp only [language_sequence, languageOfAll_cons, languageOfAll_nil, mul_one,
          language_choice, hfl, hll, language]
      · exact List.forall_mem_cons.mpr
          ⟨proper_choice hfp, List.forall_mem_singleton.mpr (proper_choice hlp)⟩
  | choice front last ihf ihl =>
      obtain ⟨⟨as, between⟩, hfront, h⟩ := except_bind_eq_ok.mp h
      obtain ⟨⟨bs, after⟩, hlast, h⟩ := except_bind_eq_ok.mp h
      obtain ⟨rfl, rfl⟩ := Prod.mk.inj (Except.ok.inj h)
      obtain ⟨rfl, hfl, hfp⟩ := ihf hfront
      obtain ⟨rfl, hll, hlp⟩ := ihl hlast
      obtain ⟨hone, hproper⟩ :=
        language_one_option ((language_choice bs).trans hll) (proper_choice hlp)
      exact ⟨rfl, by rw [languageOfAny_append, hfl, hone, language],
        List.forall_mem_append.mpr ⟨hfp, hproper⟩⟩

/-- What is compiled from an expression accepts the language of the expression. -/
theorem language_meaning {e : Expression} {dotNewLine : Bool} {r : Regex}
    (h : e.meaning properties dotNewLine = .ok r) :
    r.language = e.language properties (.initial dotNewLine) ∧ r.Proper := by
  obtain ⟨⟨rs, behind⟩, hrs, h⟩ := except_bind_eq_ok.mp h
  obtain rfl := Except.ok.inj h
  obtain ⟨-, hlanguage, hproper⟩ := language_options hrs
  exact ⟨(language_choice rs).trans hlanguage, proper_choice hproper⟩

end Expression
end Regex
end ControlSearch
