import Mathlib
import ControlSearch.Proofs.CharSet.Bytes
import ControlSearch.Proofs.Regex.Walk
import ControlSearch.Regex.Automaton

/-!
# What assertions see of their neighbours

Unless an assertion asks for the words of all scripts, it tells two neighbours apart only if
one is a line end or a character of ASCII words and the other is not. So much of a character
shows in each of its bytes, and the first steps of an expression depend on nothing more.
-/
namespace ControlSearch

theorem CharSet.asciiWord_eq :
    asciiWord = ⟨[⟨0x30, 0x39⟩, ⟨0x41, 0x5A⟩, ⟨0x5F, 0x5F⟩, ⟨0x61, 0x7A⟩]⟩ := by cbv

theorem CharSet.toNat_lt_of_asciiWord {c : Char} (h : asciiWord.contains c = true) :
    c.toNat < 0x80 := by
  simp only [asciiWord_eq, contains, List.any_cons, List.any_nil, Bool.or_false,
    Bool.or_eq_true, Interval.contains_mk] at h
  omega

namespace Regex

/-! ## Neighbours -/

theorem neighbour_of_le {c : Char} (h : 0x80 ≤ c.toNat) : neighbour c = ' ' := by
  have hword : CharSet.asciiWord.contains c = false := by
    by_contra hword
    have := CharSet.toNat_lt_of_asciiWord (by simpa using hword)
    omega
  have hend : ¬(c = '\n' ∨ c = '\r') := by
    rintro (rfl | rfl) <;> exact absurd h (by decide)
  rw [neighbour, if_neg hend, hword]
  rfl

/-- Every byte of a character tells what assertions see of it. -/
theorem byteNeighbour_eq {c : Char} {b : Nat} (h : b ∈ charBytes c) :
    byteNeighbour b = neighbour c := by
  unfold byteNeighbour
  rcases Interval.mem_charBytes h with rfl | ⟨hc, hb⟩
  · split
    · rw [Char.ofNat_toNat]
    · rename_i hc
      exact (neighbour_of_le (Nat.le_of_not_lt hc)).symm
  · rw [if_neg (Nat.not_lt.mpr hb), neighbour_of_le hc]

theorem contains_asciiWord_neighbour (c : Char) :
    CharSet.asciiWord.contains (neighbour c) = CharSet.asciiWord.contains c := by
  unfold neighbour
  split
  · rfl
  · split
    · rename_i h
      rw [h]
      cbv
    · rename_i h
      rw [Bool.eq_false_iff.mpr h]
      cbv

theorem neighbour_eq_iff {c d : Char} (hd : d = '\n' ∨ d = '\r') :
    neighbour c = d ↔ c = d := by
  unfold neighbour
  split
  · rfl
  · rename_i h
    have hne : c ≠ d := fun hc => h (hc ▸ hd)
    simp only [hne, iff_false]
    split <;> rcases hd with rfl | rfl <;> decide

/-- A place, as far as assertions can see it. -/
def Place.seen (place : Place) : Place := ⟨place.last.map neighbour, place.next.map neighbour⟩

theorem Look.holds_seen {assertion : Look} (h : assertion.isUnicode = false) (place : Place) :
    assertion.holds place.seen = assertion.holds place := by
  have hword (c? : Option Char) :
      Alphabet.ascii.inWord (c?.map neighbour) = Alphabet.ascii.inWord c? := by
    cases c? with
    | none => rfl
    | some c => exact contains_asciiWord_neighbour c
  have hend (c? : Option Char) {d : Char} (hd : d = '\n' ∨ d = '\r') :
      (c?.map neighbour == some d) = (c? == some d) := by
    cases c? with
    | none => rfl
    | some c => simp [neighbour_eq_iff hd]
  have hend' (c? : Option Char) {d : Char} (hd : d = '\n' ∨ d = '\r') :
      (c?.map neighbour != some d) = (c? != some d) := by rw [bne, bne, hend c? hd]
  cases assertion with
  | textStart | textEnd => simp [Look.holds, Place.seen]
  | lineStart ending | lineEnd ending =>
      cases ending <;> simp [Look.holds, Place.seen, hend, hend']
  | wordEdge a | notWordEdge a | wordStart a | wordEnd a | wordStartHalf a | wordEndHalf a =>
      cases a with
      | unicode => cases h
      | ascii => simp [Look.holds, Place.seen, hword]

/-! ## First steps -/

variable {place : Place} {r : Regex}

theorem asksUnicodeWords_andThen (r second : Regex) :
    (r.andThen second).asksUnicodeWords =
      (r.asksUnicodeWords || second.asksUnicodeWords) := by
  cases r <;> rfl

theorem plainBranches_seen (h : r.asksUnicodeWords = false) (place : Place) :
    r.plainBranches place.seen = r.plainBranches place := by
  induction r with
  | empty | set _ => rfl
  | look assertion => rw [plainBranches, plainBranches, Look.holds_seen h]
  | cat a b iha ihb =>
      obtain ⟨ha, hb⟩ := Bool.or_eq_false_iff.mp h
      rw [plainBranches, plainBranches, iha ha, ihb hb]
  | alt a b iha ihb =>
      obtain ⟨ha, hb⟩ := Bool.or_eq_false_iff.mp h
      rw [plainBranches, plainBranches, iha ha, ihb hb]
  | rounds body least most eager ih => rw [plainBranches, plainBranches, ih h]
  | group _ body ih => exact ih h

theorem opening_seen (h : r.asksUnicodeWords = false) (place : Place) :
    r.opening place.seen = r.opening place := by
  induction r with
  | empty | set _ | alt _ _ | group _ _ => rfl
  | look assertion => rw [opening, opening, Look.holds_seen h]
  | cat a b iha _ => rw [opening, opening, iha (Bool.or_eq_false_iff.mp h).1]
  | rounds body least most eager =>
      rcases least with _ | least <;> rcases most with _ | _ | most <;> rfl

/-- What an expression is opened to asks for no more than the expression. -/
theorem asksUnicodeWords_of_mem_next {s : Regex} (h : r.asksUnicodeWords = false)
    (hs : s ∈ (r.opening place).next) : s.asksUnicodeWords = false := by
  induction r generalizing s with
  | empty | set _ => cases hs
  | look assertion =>
      rw [opening] at hs
      split at hs
      · obtain rfl := List.mem_singleton.mp hs
        rfl
      · cases hs
  | cat a b iha _ =>
      obtain ⟨ha, hb⟩ := Bool.or_eq_false_iff.mp h
      rcases Opening.mem_next_andThen hs with rfl | ⟨q, hq, rfl⟩
      · exact hb
      · rw [asksUnicodeWords_andThen, iha ha hq, hb]
        rfl
  | alt a b =>
      obtain ⟨ha, hb⟩ := Bool.or_eq_false_iff.mp h
      rcases List.mem_pair.mp hs with rfl | rfl
      · exact ha
      · exact hb
  | group _ body =>
      obtain rfl := List.mem_singleton.mp hs
      exact h
  | rounds body least most eager =>
      rcases mem_next_opening_rounds hs with rfl | rfl
      · rfl
      · rw [asksUnicodeWords_andThen, asksUnicodeWords]
        exact Bool.or_eq_false_iff.mpr ⟨h, h⟩

theorem asksUnicodeWords_of_leads {q : Regex} (hq : Leads place r q)
    (h : r.asksUnicodeWords = false) : q.asksUnicodeWords = false := by
  induction hq with
  | refl => exact h
  | step hs _ ih => exact ih (asksUnicodeWords_of_mem_next h hs)

/-- Opened expressions are passed in the same order. -/
theorem walk_seen (place : Place) (fuel : Nat) {passed waiting : List Regex}
    (h : ∀ w ∈ waiting, w.asksUnicodeWords = false) :
    walk place.seen fuel passed waiting = walk place fuel passed waiting := by
  induction fuel generalizing passed waiting with
  | zero => rfl
  | succ fuel ih =>
      cases waiting with
      | nil => rfl
      | cons r waiting =>
          obtain ⟨hr, hwaiting⟩ := List.forall_mem_cons.mp h
          rw [walk, walk, opening_seen hr, ih hwaiting]
          split
          · rfl
          · cases ho : r.opening place with
            | stop => simp only [ih hwaiting]
            | read chars left => simp only [ih hwaiting]
            | ways next =>
                refine ih (List.forall_mem_append.mpr ⟨fun s hs => ?_, hwaiting⟩)
                have hs : s ∈ (r.opening place).next := by rwa [ho]
                exact asksUnicodeWords_of_mem_next hr hs

theorem branches_seen (h : r.asksUnicodeWords = false) (place : Place) :
    branches place.seen r = branches place r := by
  unfold branches
  rw [walk_seen place _ (List.forall_mem_singleton.mpr h), plainBranches_seen h]

/-! ## What first steps leave -/

/-- Whether what is left behind a first step asks for no words of all scripts. -/
def Branch.LeavesBytewise : Branch → Prop
  | accept => True
  | consume _ left => left.asksUnicodeWords = false

/-- Going on with a second expression from first steps that leave nothing of the kind. -/
theorem Branch.leavesBytewise_flatMap {second : Regex} {steps next : List Branch}
    (hsteps : ∀ b ∈ steps, b.LeavesBytewise) (hsecond : second.asksUnicodeWords = false)
    (hnext : ∀ b ∈ next, b.LeavesBytewise) :
    ∀ b ∈ steps.flatMap (andThen second next), b.LeavesBytewise := by
  intro b hb
  obtain ⟨a, ha, hb⟩ := List.mem_flatMap.mp hb
  cases a with
  | accept => exact hnext b hb
  | consume chars left =>
      obtain rfl := List.mem_singleton.mp hb
      rw [LeavesBytewise, asksUnicodeWords_andThen]
      exact Bool.or_eq_false_iff.mpr ⟨hsteps _ ha, hsecond⟩

theorem Branch.leavesBytewise_stop {again : List Branch} (h : ∀ b ∈ again, b.LeavesBytewise)
    (eager : Bool) :
    ∀ b ∈ if eager then again ++ [.accept] else .accept :: again, b.LeavesBytewise := by
  intro b hb
  have hcases : b ∈ again ∨ b = .accept := by
    cases eager <;> simpa [or_comm] using hb
  rcases hcases with hb | rfl
  · exact h b hb
  · trivial

theorem leavesBytewise_roundSteps {body : Regex} {steps : List Branch}
    (hbody : body.asksUnicodeWords = false) (hsteps : ∀ b ∈ steps, b.LeavesBytewise)
    (eager : Bool) (least : Nat) (most : Option Nat) :
    ∀ b ∈ roundSteps body steps eager least most, b.LeavesBytewise := by
  have hrounds (least : Nat) (most : Option Nat) :
      (rounds body least most eager).asksUnicodeWords = false := hbody
  induction least generalizing most with
  | succ least ih =>
      rw [roundSteps, Branch.chain_eq]
      exact Branch.leavesBytewise_flatMap hsteps (hrounds _ _) (ih _)
  | zero =>
      cases most with
      | none =>
          rw [roundSteps]
          exact Branch.leavesBytewise_stop
            (Branch.leavesBytewise_flatMap hsteps (hrounds _ _) (List.forall_mem_nil _)) eager
      | some most =>
          induction most with
          | zero =>
              rw [roundSteps]
              exact List.forall_mem_singleton.mpr trivial
          | succ most ih =>
              rw [roundSteps]
              intro b hb
              rw [Branch.mem_once, Branch.chain_eq] at hb
              exact Branch.leavesBytewise_stop
                (Branch.leavesBytewise_flatMap hsteps (hrounds _ _) ih) eager b hb

theorem leavesBytewise_plainBranches (h : r.asksUnicodeWords = false) :
    ∀ b ∈ r.plainBranches place, b.LeavesBytewise := by
  induction r with
  | empty => exact List.forall_mem_singleton.mpr trivial
  | set chars => exact List.forall_mem_singleton.mpr rfl
  | look assertion =>
      rw [plainBranches]
      split
      · exact List.forall_mem_singleton.mpr trivial
      · exact List.forall_mem_nil _
  | cat a b iha ihb =>
      obtain ⟨ha, hb⟩ := Bool.or_eq_false_iff.mp h
      rw [plainBranches, Branch.chain_eq]
      exact Branch.leavesBytewise_flatMap (iha ha) hb (ihb hb)
  | alt a b iha ihb =>
      obtain ⟨ha, hb⟩ := Bool.or_eq_false_iff.mp h
      intro step hstep
      rw [plainBranches, Branch.mem_once] at hstep
      exact List.forall_mem_append.mpr ⟨iha ha, ihb hb⟩ step hstep
  | rounds body least most eager ih =>
      have hbody : body.asksUnicodeWords = false := h
      rw [plainBranches]
      exact leavesBytewise_roundSteps hbody (ih hbody) eager least most
  | group _ body ih => exact ih h

theorem leavesBytewise_of_mem_steps (h : r.asksUnicodeWords = false) {b : Branch}
    (hb : b ∈ (r.opening place).steps) : b.LeavesBytewise := by
  induction r generalizing b with
  | empty =>
      obtain rfl := List.mem_singleton.mp hb
      trivial
  | set chars =>
      obtain rfl := List.mem_singleton.mp hb
      rfl
  | look _ | alt _ _ | group _ _ => cases hb
  | cat a second iha _ =>
      obtain ⟨ha, hsecond⟩ := Bool.or_eq_false_iff.mp h
      rw [opening] at hb
      cases ho : a.opening place with
      | stop | ways _ => simp [ho, Opening.andThen, Opening.steps] at hb
      | read chars left =>
          simp only [ho, Opening.andThen, Opening.steps, List.mem_singleton] at hb
          have hread : Branch.consume chars left ∈ (a.opening place).steps := by
            rw [ho]
            exact List.mem_singleton_self _
          subst hb
          rw [Branch.LeavesBytewise, asksUnicodeWords_andThen]
          exact Bool.or_eq_false_iff.mpr ⟨iha ha hread, hsecond⟩
  | rounds body least most eager =>
      rcases least with _ | least
      · rcases most with _ | _ | most
        · cases hb
        · obtain rfl := List.mem_singleton.mp hb
          trivial
        · cases hb
      · cases hb

/-- What is left behind a character asks for no more than the expression. -/
theorem leavesBytewise_branches (h : r.asksUnicodeWords = false) :
    ∀ b ∈ branches place r, b.LeavesBytewise := by
  intro b hb
  unfold branches at hb
  split at hb
  · obtain ⟨w, hw, q, hq, hsteps⟩ := exists_of_mem_walk hb
    obtain rfl := List.mem_singleton.mp hw
    exact leavesBytewise_of_mem_steps (asksUnicodeWords_of_leads hq h) hsteps
  · exact leavesBytewise_plainBranches h b hb

end Regex
end ControlSearch
