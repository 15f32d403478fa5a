import ControlSearch.Proofs.CharSet.Membership
import ControlSearch.Proofs.Regex.Language
import ControlSearch.Regex.Size

/-!
# The least size of accepted texts

No accepted text is shorter than the least size of an expression. There is none at all as soon
as one of the expression's sets is empty, even if that set is one among several alternatives.
-/
namespace ControlSearch.Regex

/-- Each set of the expression is given by ascending intervals. -/
def Proper (r : Regex) : Prop := ∀ chars ∈ Size.sets r, chars.Proper

theorem Proper.set {chars : CharSet} (h : Proper (set chars)) : chars.Proper :=
  h chars (List.mem_singleton_self chars)

theorem proper_cat {a b : Regex} : Proper (cat a b) ↔ Proper a ∧ Proper b := by
  simp only [Proper, Size.sets, List.mem_append, or_imp, forall_and]

theorem proper_alt {a b : Regex} : Proper (alt a b) ↔ Proper a ∧ Proper b := by
  simp only [Proper, Size.sets, List.mem_append, or_imp, forall_and]

variable {last next : Option Char} {t : Text}

theorem minSize?_le {r : Regex} (hr : r.Proper) {n : Nat} (hn : r.minSize? = some n)
    (ht : r.language last t next) : n ≤ t.size := by
  induction r generalizing n last t next with
  | empty | look _ =>
      obtain rfl : 0 = n := Option.some.inj hn
      exact Nat.zero_le _
  | set chars =>
      obtain ⟨c, hc, rfl⟩ := ht
      obtain ⟨m, hm, hle⟩ := CharSet.minSize?_le hr.set hc
      obtain rfl : m = n := Option.some.inj (hm.symm.trans hn)
      simpa using hle
  | group _ body ih => exact ih hr hn ht
  | cat a b iha ihb =>
      obtain ⟨ha, hb⟩ := proper_cat.mp hr
      obtain ⟨u, v, rfl, hu, hv⟩ := ht
      simp only [minSize?, Option.pure_def, Option.bind_eq_bind, Option.bind_eq_some_iff,
        Option.some.injEq] at hn
      obtain ⟨x, hx, y, hy, rfl⟩ := hn
      rw [Text.size_append]
      exact Nat.add_le_add (iha ha hx hu) (ihb hb hy hv)
  | alt a b iha ihb =>
      obtain ⟨ha, hb⟩ := proper_alt.mp hr
      simp only [minSize?, Option.pure_def, Option.bind_eq_bind, Option.bind_eq_some_iff,
        Option.some.injEq] at hn
      obtain ⟨x, hx, y, hy, rfl⟩ := hn
      rcases ht with ht | ht
      · exact (Nat.min_le_left x y).trans (iha ha hx ht)
      · exact (Nat.min_le_right x y).trans (ihb hb hy ht)
  | rounds body least most eager ih =>
      obtain ⟨k, hk, -, ht⟩ := ht
      obtain ⟨x, hx, rfl⟩ := Option.map_eq_some_iff.mp hn
      have hpow : x * k ≤ t.size := by
        clear hk
        induction k generalizing last t next with
        | zero => exact Nat.zero_le _
        | succ k ihk =>
            rw [pow_succ'] at ht
            obtain ⟨u, v, rfl, hu, hv⟩ := ht
            have hfirst := ih hr hx hu
            have hrest := ihk hv
            rw [Text.size_append, Nat.mul_succ]
            omega
      exact (Nat.mul_le_mul_left x hk).trans hpow

/-- A set with a member has a character in every text that it accepts. -/
theorem hasContent_set {chars : CharSet} (hs : chars.Proper) {c : Char}
    (hc : chars.contains c = true) : (set chars).hasContent = true := by
  obtain ⟨n, hn, -⟩ := CharSet.minSize?_le hs hc
  obtain ⟨r, -, rfl⟩ := Option.map_eq_some_iff.mp hn
  have hpos := CharSet.width_pos r.first
  simp only [hasContent, minSize?, hn, ne_eq, decide_not, Bool.not_eq_true',
    decide_eq_false_iff_not]
  omega

/-- One empty set spoils the least size, wherever it stands. -/
theorem minSize?_eq_none_iff {r : Regex} :
    r.minSize? = none ↔ ∃ chars ∈ Size.sets r, chars.isEmpty = true := by
  induction r with
  | empty | look _ => simp [minSize?, Size.sets]
  | set chars => simpa [minSize?, Size.sets] using CharSet.minSize?_eq_none_iff
  | group _ body ih => exact ih
  | rounds body least most eager ih => simpa [minSize?, Size.sets] using ih
  | cat a b iha ihb | alt a b iha ihb =>
      simp only [Size.sets, List.mem_append, or_and_right, exists_or, ← iha, ← ihb]
      cases ha : a.minSize? <;> cases hb : b.minSize? <;> simp [minSize?, ha, hb]

end ControlSearch.Regex
