import ControlSearch.CharSet.Folding
import ControlSearch.Proofs.CharSet.Membership

/-!
# Members of folded sets

A set is folded member by member: a character is in the folded set if and only if it is in
what a single member folds to.
-/
namespace ControlSearch.CharSet

open ControlSearch.Interval

/-- Code points that are equal, or a character and its representative. -/
def Linked (pairs : List (Nat × Nat)) (m n : Nat) : Prop :=
  m = n ∨ (m, n) ∈ pairs ∨ (n, m) ∈ pairs

theorem proper_foldStep (pairs : List (Nat × Nat)) (s : CharSet) :
    (foldStep pairs s).Proper :=
  proper_ofIntervals _

theorem covers_foldStep (s : CharSet) (pairs : List (Nat × Nat)) (n : Nat) :
    Covers (foldStep pairs s).intervals n ↔
      ∃ m, Covers s.intervals m ∧ n.isValidChar ∧ Linked pairs m n := by
  have hone (b : Bool) (m : Nat) :
      Covers (if b then [⟨m, m⟩] else []) n ↔ b = true ∧ n = m := by
    cases b <;> simp [Nat.le_antisymm_iff, and_comm]
  have hpair (p : Nat × Nat) :
      Covers ((if s.intervals.any (·.contains p.1) then [⟨p.2, p.2⟩] else []) ++
        (if s.intervals.any (·.contains p.2) then [⟨p.1, p.1⟩] else [])) n ↔
      (Covers s.intervals p.1 ∧ n = p.2) ∨ (Covers s.intervals p.2 ∧ n = p.1) := by
    rw [covers_append, hone, hone, any_contains_iff, any_contains_iff]
  rw [foldStep, covers_ofIntervals, covers_append, covers_flatMap]
  simp only [hpair, Linked]
  constructor
  · intro h
    rcases h with ⟨hn | ⟨⟨a, b⟩, hp, ⟨hm, rfl⟩ | ⟨hm, rfl⟩⟩, hv⟩
    · exact ⟨n, hn, hv, .inl rfl⟩
    · exact ⟨a, hm, hv, .inr (.inl hp)⟩
    · exact ⟨b, hm, hv, .inr (.inr hp)⟩
  · intro h
    rcases h with ⟨m, hm, hv, rfl | hp | hp⟩
    · exact ⟨.inl hm, hv⟩
    · exact ⟨.inr ⟨(m, n), hp, .inl ⟨hm, rfl⟩⟩, hv⟩
    · exact ⟨.inr ⟨(n, m), hp, .inr ⟨hm, rfl⟩⟩, hv⟩

/-- What is done to a set member by member. -/
def Memberwise (f : CharSet → CharSet) : Prop :=
  ∃ R : Nat → Nat → Prop, ∀ s : CharSet, s.Proper → (f s).Proper ∧
    ∀ n, Covers (f s).intervals n ↔ ∃ m, Covers s.intervals m ∧ R m n

theorem Memberwise.comp {f g : CharSet → CharSet} (hf : Memberwise f) (hg : Memberwise g) :
    Memberwise (fun s => f (g s)) := by
  obtain ⟨R, hR⟩ := hf
  obtain ⟨S, hS⟩ := hg
  refine ⟨fun k n => ∃ m, S k m ∧ R m n, fun s hs => ?_⟩
  obtain ⟨hg, hcovers⟩ := hS s hs
  refine ⟨(hR _ hg).1, ?_⟩
  intro n
  rw [(hR _ hg).2]
  simp only [hcovers]
  constructor
  · intro h
    rcases h with ⟨m, ⟨k, hk, hS⟩, hR⟩
    exact ⟨k, hk, m, hS, hR⟩
  · intro h
    rcases h with ⟨k, hk, m, hS, hR⟩
    exact ⟨m, ⟨k, hk, hS⟩, hR⟩

theorem memberwise_id : Memberwise id :=
  ⟨Eq, fun _ hs => ⟨hs, fun _ => by simp⟩⟩

theorem memberwise_foldStep (pairs : List (Nat × Nat)) : Memberwise (foldStep pairs) :=
  ⟨fun m n => n.isValidChar ∧ Linked pairs m n, fun s _ =>
    ⟨proper_foldStep pairs s, covers_foldStep s pairs⟩⟩

theorem memberwise_fold : Memberwise fold :=
  (memberwise_foldStep foldPairs).comp (memberwise_foldStep foldPairs)

theorem memberwise_foldAscii : Memberwise foldAscii := memberwise_foldStep _

theorem Memberwise.proper {f : CharSet → CharSet} (hf : Memberwise f) {s : CharSet}
    (hs : s.Proper) :
    (f s).Proper := by
  obtain ⟨R, hR⟩ := hf
  exact (hR s hs).1

theorem Memberwise.contains_iff {f : CharSet → CharSet} (hf : Memberwise f) {s : CharSet}
    (hs : s.Proper) (c : Char) : (f s).contains c = true ↔
      ∃ d, s.contains d = true ∧ (f (singleton d)).contains c = true := by
  obtain ⟨R, hR⟩ := hf
  have hsingle (d : Char) : (f (singleton d)).contains c = true ↔ R d.toNat c.toNat := by
    rw [CharSet.contains_iff, (hR _ (proper_singleton d)).2]
    simp only [singleton, covers_cons, covers_nil, or_false]
    constructor
    · intro hcase
      rcases hcase with ⟨m, ⟨h, h'⟩, hr⟩
      obtain rfl : d.toNat = m := Nat.le_antisymm h h'
      exact hr
    · exact fun hr => ⟨_, ⟨Nat.le_refl _, Nat.le_refl _⟩, hr⟩
  simp only [hsingle, CharSet.contains_iff, (hR s hs).2]
  constructor
  · intro hcase
    rcases hcase with ⟨m, hm, hr⟩
    have hd : (Char.ofNatAux m (hs.isValidChar m hm)).toNat = m := rfl
    exact ⟨_, by rwa [hd], by rwa [hd]⟩
  · intro hcase
    rcases hcase with ⟨d, hd, hr⟩
    exact ⟨_, hd, hr⟩

end ControlSearch.CharSet
