import ControlSearch.Automaton
import ControlSearch.Proofs.Text.Boundary

/-!
# What a scan comes upon

A scan leaves off early: at its limit, where no match can follow, and where the visitor has
found what it wanted. None of this hides an end that was asked for, so what a scan finds is
told by the ends that the states report when all bytes are read.
-/
namespace ControlSearch

namespace Text

theorem bytes_append (t u : Text) : (t ++ u).bytes = t.bytes ++ u.bytes := List.flatMap_append

theorem bytes_cons (c : Char) (t : Text) :
    bytes (c :: t) = String.utf8EncodeChar c ++ t.bytes := rfl

theorem length_bytes (t : Text) : t.bytes.length = t.size := by
  induction t with
  | nil => rfl
  | cons c t ih =>
      rw [bytes_cons, List.length_append, String.length_utf8EncodeChar, ih, size_cons]

end Text

namespace Automaton

variable {σ α : Type} {a : Automaton σ} {visit : Nat → α → α × Bool} {s : σ}
  {offset limit : Nat} {found : α} {bytes : List UInt8}

/-- The ends that are reported when all bytes are read. -/
def stops (a : Automaton σ) (s : σ) (offset : Nat) : List UInt8 → List Nat
  | [] => if a.isMatch (a.nextEnd s) then [offset] else []
  | b :: rest =>
    (if a.isMatch (a.next s b) then [offset] else []) ++
      a.stops (a.next s b) (offset + 1) rest

/-- Nothing is reported any more once a scan would leave off. -/
def EndsSafely (a : Automaton σ) : Prop :=
  ∀ s, (a.isDead s || a.isQuit s) = true → ∀ offset bytes, a.stops s offset bytes = []

/-- Hands numbers to a visitor until it has what it wants. -/
def visitAll (visit : Nat → α → α × Bool) (found : α) : List Nat → α
  | [] => found
  | n :: rest =>
    if (visit n found).2 then visitAll visit (visit n found).1 rest else (visit n found).1

theorem le_of_mem_stops {stop : Nat} (h : stop ∈ a.stops s offset bytes) : offset ≤ stop := by
  induction bytes generalizing s offset with
  | nil =>
      rw [stops, List.mem_ite_nil_right] at h
      exact Nat.le_of_eq (List.mem_singleton.mp h.2).symm
  | cons b rest ih =>
      rw [stops, List.mem_append, List.mem_ite_nil_right] at h
      rcases h with ⟨-, h⟩ | h
      · exact Nat.le_of_eq (List.mem_singleton.mp h).symm
      · exact Nat.le_of_succ_le (ih h)

/-- A scan visits the ends within its limit, one after the other. -/
theorem scanFrom_eq (ha : a.EndsSafely) (hle : offset ≤ limit) :
    a.scanFrom limit visit s offset found bytes =
      visitAll visit found ((a.stops s offset bytes).filter (· ≤ limit)) := by
  induction bytes generalizing s offset found with
  | nil =>
      rw [scanFrom, stops]
      split
      · simp [hle, visitAll]
      · rfl
  | cons b rest ih =>
      have hlater (found : α) :
          (if limit ≤ offset || a.isDead (a.next s b) || a.isQuit (a.next s b)
          then found else a.scanFrom limit visit (a.next s b) (offset + 1) found rest) =
          visitAll visit found
            ((a.stops (a.next s b) (offset + 1) rest).filter (· ≤ limit)) := by
        split
        · rename_i hend
          have hnone : (a.stops (a.next s b) (offset + 1) rest).filter (· ≤ limit) = [] := by
            rw [Bool.or_assoc, Bool.or_eq_true, decide_eq_true_eq] at hend
            rcases hend with hlimit | hdead
            · refine List.filter_eq_nil_iff.mpr fun stop hstop => ?_
              have := le_of_mem_stops hstop
              simp only [decide_eq_true_eq]
              omega
            · rw [ha _ hdead]
              rfl
          rw [hnone]
          rfl
        · rename_i hgo
          simp only [Bool.or_eq_true, decide_eq_true_eq, not_or] at hgo
          exact ih (by omega)
      rw [scanFrom, stops]
      by_cases hmatch : a.isMatch (a.next s b) = true
      · simp only [hmatch, if_true, List.cons_append, List.nil_append, hle, decide_true,
          List.filter_cons_of_pos, visitAll]
        cases (visit offset found).2
        · rfl
        · exact hlater _
      · simp only [hmatch, Bool.false_eq_true, if_false, List.nil_append]
        exact hlater found

theorem le_length_of_mem_stops {stop : Nat} (h : stop ∈ a.stops s offset bytes) :
    stop ≤ offset + bytes.length := by
  induction bytes generalizing s offset with
  | nil =>
      rw [stops, List.mem_ite_nil_right] at h
      exact Nat.le_of_eq (List.mem_singleton.mp h.2)
  | cons b rest ih =>
      rw [stops, List.mem_append, List.mem_ite_nil_right] at h
      rw [List.length_cons]
      rcases h with ⟨-, h⟩ | h
      · have := List.mem_singleton.mp h
        omega
      · have := ih h
        omega

/-! ## Visitors -/

theorem visitAll_collect (found ends : List Nat) :
    visitAll (fun stop stops => (stops ++ [stop], true)) found ends = found ++ ends := by
  induction ends generalizing found with
  | nil => simp [visitAll]
  | cons n ends ih => simp [visitAll, ih]

theorem visitAll_first (ends : List Nat) :
    visitAll (fun stop _ => (some stop, false)) none ends = ends.head? := by
  cases ends <;> rfl

theorem visitAll_last (found : Option Nat) (ends : List Nat) :
    visitAll (fun stop _ => (some stop, true)) found ends = ends.getLast?.or found := by
  induction ends generalizing found with
  | nil => rfl
  | cons n ends ih =>
      rw [visitAll, if_pos rfl, ih, List.getLast?_cons]
      cases ends.getLast? <;> rfl

theorem visitAll_hit (stop : Nat) (ends : List Nat) :
    visitAll (fun offset _ => (offset == stop, offset != stop)) false ends =
      ends.contains stop := by
  induction ends with
  | nil => rfl
  | cons n ends ih =>
      by_cases h : n = stop
      · simp [visitAll, h]
      · have hne : (n == stop) = false := beq_eq_false_iff_ne.mpr h
        have hne' : (stop == n) = false := beq_eq_false_iff_ne.mpr (Ne.symm h)
        rw [visitAll, if_pos (by simpa using h), hne, ih, List.contains_cons, hne',
          Bool.false_or]

/-! ## Scans of a text -/

/-- From every boundary of a text, the states report given ends, and nothing once a scan would
leave off. -/
structure Reports (a : Automaton σ) (t : Text) (ends : Text.Boundary → List Nat) : Prop where
  endsSafely : a.EndsSafely
  exists_start : ∀ b ∈ t.boundaries, ∃ s, a.start? (t.bytes.take b.offset).getLast? = some s ∧
    a.stops s b.offset (t.bytes.drop b.offset) = ends b

variable {t : Text} {ends : Text.Boundary → List Nat} {b : Text.Boundary}

theorem Reports.scan_eq (h : a.Reports t ends) (hb : b ∈ t.boundaries)
    (hle : b.offset ≤ limit) :
    a.scan t b.offset limit visit found =
      visitAll visit found ((ends b).filter (· ≤ limit)) := by
  obtain ⟨s, hs, hends⟩ := h.exists_start b hb
  rw [scan, hs, ← hends]
  exact scanFrom_eq h.endsSafely hle

theorem Reports.le_size (h : a.Reports t ends) (hb : b ∈ t.boundaries) {stop : Nat}
    (hstop : stop ∈ ends b) : stop ≤ t.size := by
  obtain ⟨s, -, hends⟩ := h.exists_start b hb
  have hle := le_length_of_mem_stops (hends ▸ hstop)
  have hoffset := (Text.offset_le_of_mem_boundariesFrom hb).2
  rw [List.length_drop, Text.length_bytes] at hle
  omega

/-- A scan up to the end of the text visits every end. -/
theorem Reports.scan_size (h : a.Reports t ends) (hb : b ∈ t.boundaries) :
    a.scan t b.offset t.size visit found = visitAll visit found (ends b) := by
  have hoffset := (Text.offset_le_of_mem_boundariesFrom hb).2
  rw [h.scan_eq hb (by omega), List.filter_eq_self.mpr]
  intro stop hstop
  exact decide_eq_true (h.le_size hb hstop)

theorem Reports.visited_eq (h : a.Reports t ends) (hb : b ∈ t.boundaries)
    (hle : b.offset ≤ limit) :
    a.visited t b.offset limit = (ends b).filter (· ≤ limit) := by
  rw [visited, h.scan_eq hb hle, visitAll_collect, List.nil_append]

theorem Reports.shortestEnd?_eq (h : a.Reports t ends) (hb : b ∈ t.boundaries) :
    a.shortestEnd? t b.offset t.size = (ends b).head? := by
  rw [shortestEnd?, h.scan_size hb, visitAll_first]

theorem Reports.longestEnd?_eq (h : a.Reports t ends) (hb : b ∈ t.boundaries) :
    a.longestEnd? t b.offset = (ends b).getLast? := by
  rw [longestEnd?, h.scan_size hb, visitAll_last, Option.or_none]

theorem Reports.endsAt_eq (h : a.Reports t ends) (hb : b ∈ t.boundaries) :
    a.endsAt t b.offset t.size = (ends b).contains t.size := by
  rw [endsAt, h.scan_size hb, visitAll_hit]

end Automaton
end ControlSearch
