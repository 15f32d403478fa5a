import Std.Data.HashSet
import ControlSearch.Regex

/-!
# Telling expressions apart

Expressions that are left in a run often differ only at their very ends, where a comparison
finds it out last. They are compared by a cheap weight first.
-/
namespace ControlSearch

/-- A value with a weight. Of two values with different weights, no more has to be
compared. -/
structure Weighed (α : Type) where
  weight : UInt64
  value : α

namespace Weighed

/-- Values are compared only if they have the same weight and are not one and the same. -/
instance {α : Type} [DecidableEq α] : DecidableEq (Weighed α) := fun a b =>
  withPtrEqDecEq a b fun _ =>
    if h : a.weight = b.weight ∧ a.value = b.value then
      isTrue (by cases a; cases b; simp_all)
    else
      isFalse fun hab => h (hab ▸ ⟨rfl, rfl⟩)

instance {α : Type} : Hashable (Weighed α) := ⟨weight⟩

end Weighed

namespace Regex

/-- A number that tells most expressions apart. -/
def weight : Regex → UInt64
  | empty => 1
  | set _ => 2
  | look _ => 3
  | cat a b => 5 * weight a + weight b + 1
  | alt a b => 7 * weight a + weight b + 2
  | rounds body least most _ =>
    11 * weight body + 13 * least.toUInt64 + (most.getD 0).toUInt64 + 3
  | group _ body => weight body

/-- An expression with its weight. -/
def weighed (r : Regex) : Weighed Regex := ⟨r.weight, r⟩

/-- Some expressions with a weight of them all. -/
def weighedAll (rs : List Regex) : Weighed (List Regex) :=
  ⟨rs.foldl (fun sum r => 31 * sum + r.weight) 0, rs⟩

@[simp] theorem value_weighedAll (rs : List Regex) : (weighedAll rs).value = rs := rfl

@[simp] theorem weighed_inj (r s : Regex) : r.weighed = s.weighed ↔ r = s :=
  ⟨fun h => congrArg Weighed.value h, fun h => congrArg weighed h⟩

/-- The first of equal expressions only, without those seen before. -/
def distinctFrom (seen : Std.HashSet (Weighed Regex)) : List Regex → List Regex
  | [] => []
  | r :: rest =>
    let w := r.weighed
    if w ∈ seen then distinctFrom seen rest else r :: distinctFrom (seen.insert w) rest

theorem mem_distinctFrom (r : Regex) (seen : Std.HashSet (Weighed Regex)) (rs : List Regex) :
    r ∈ distinctFrom seen rs ↔ r ∈ rs ∧ r.weighed ∉ seen := by
  induction rs generalizing seen with
  | nil => simp [distinctFrom]
  | cons s rest ih =>
    unfold distinctFrom
    simp only
    split
    · rename_i hs
      rw [ih, List.mem_cons]
      refine ⟨fun h => ⟨.inr h.1, h.2⟩, fun ⟨h, hr⟩ => ⟨h.resolve_left ?_, hr⟩⟩
      rintro rfl
      exact hr hs
    · rename_i hs
      simp only [List.mem_cons, ih, Std.HashSet.mem_insert, beq_iff_eq, weighed_inj, not_or]
      constructor
      · rintro (rfl | ⟨h, -, hr⟩)
        · exact ⟨.inl rfl, hs⟩
        · exact ⟨.inr h, hr⟩
      · rintro ⟨h, hr⟩
        by_cases e : r = s
        · exact .inl e
        · exact .inr ⟨h.resolve_left e, Ne.symm e, hr⟩

/-- The first of equal expressions only. -/
def distinct : List Regex → List Regex
  | [] => []
  | [r] => [r]
  | rs => distinctFrom ∅ rs

@[simp] theorem distinct_nil : distinct [] = [] := rfl

@[simp] theorem mem_distinct (r : Regex) (rs : List Regex) : r ∈ distinct rs ↔ r ∈ rs := by
  unfold distinct
  split
  · rfl
  · rfl
  · simp [mem_distinctFrom]

end Regex
end ControlSearch
