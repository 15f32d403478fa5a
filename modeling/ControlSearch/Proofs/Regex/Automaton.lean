import Mathlib.Data.List.TakeWhile
import ControlSearch.Proofs.Automaton
import ControlSearch.Proofs.Regex.Neighbour
import ControlSearch.Proofs.Regex.Run

/-!
# The automaton runs the expression

Over the bytes of one character, the threads of a state become what a run by characters leaves
behind the character: forms are followed to their ends just by the bytes of the members of a
set, and nothing ends inside a character. So the ends that the automaton reports, byte by
byte, are the ends of the run, and they are boundaries of the text.
-/
namespace ControlSearch.Regex

/-! ## The first of equal values only -/

section EraseDups

variable {α β : Type}

theorem length_filter_lt {n : Nat} {p : α → Bool} {x : α} {xs : List α}
    (h : (x :: xs).length = n) : (xs.filter p).length < n := by
  have := List.length_filter_le p xs
  rw [List.length_cons] at h
  omega

variable [BEq α] [LawfulBEq α] [BEq β] [LawfulBEq β]

/-- It changes nothing if equal values have been left out before. -/
theorem eraseDups_filterMap_eraseDups (f : α → Option β) (xs : List α) :
    (xs.eraseDups.filterMap f).eraseDups = (xs.filterMap f).eraseDups := by
  induction h : xs.length using Nat.strong_induction_on generalizing xs f with
  | _ n ih =>
      cases xs with
      | nil => rfl
      | cons x xs =>
          rw [List.eraseDups_cons, List.filterMap_cons, List.filterMap_cons]
          cases hx : f x with
          | none =>
              simp only
              rw [ih _ (length_filter_lt h) _ _ rfl, List.filterMap_filter]
              refine congrArg List.eraseDups (List.filterMap_congr fun y _ => ?_)
              by_cases hy : y = x
              · simp [hy, hx]
              · simp [hy]
          | some z =>
              simp only
              rw [List.eraseDups_cons, List.eraseDups_cons, List.filter_filterMap,
                List.filter_filterMap, ih _ (length_filter_lt h) _ _ rfl,
                List.filterMap_filter]
              refine congrArg (z :: List.eraseDups ·) (List.filterMap_congr fun y _ => ?_)
              by_cases hy : y = x
              · simp [hy, hx, Option.filter]
              · simp [hy]

theorem eraseDups_map {f : α → β} (hf : f.Injective) (xs : List α) :
    (xs.map f).eraseDups = xs.eraseDups.map f := by
  induction h : xs.length using Nat.strong_induction_on generalizing xs with
  | _ n ih =>
      cases xs with
      | nil => rfl
      | cons x xs =>
          rw [List.map_cons, List.eraseDups_cons, List.eraseDups_cons, List.map_cons,
            ← ih _ (length_filter_lt h) _ rfl, List.filter_map]
          refine congrArg (fun ys => f x :: (ys.map f).eraseDups)
            (List.filter_congr fun y _ => ?_)
          simp [hf.eq_iff]

end EraseDups

theorem distinctFrom_eq (seen : Std.HashSet (Weighed Regex)) (rs : List Regex) :
    distinctFrom seen rs = (rs.filter fun r => r.weighed ∉ seen).eraseDups := by
  induction rs generalizing seen with
  | nil => rfl
  | cons r rs ih =>
      simp only [distinctFrom]
      by_cases h : r.weighed ∈ seen
      · rw [if_pos h, ih, List.filter_cons_of_neg (by simpa using h)]
      · rw [if_neg h, ih, List.filter_cons_of_pos (by simpa using h), List.eraseDups_cons,
          List.filter_filter]
        refine congrArg (r :: List.eraseDups ·) (List.filter_congr fun s _ => ?_)
        by_cases hs : s = r
        · simp [hs]
        · have hne : r ≠ s := Ne.symm hs
          simp [Std.HashSet.mem_insert, hs, hne]

theorem distinct_eq_eraseDups (rs : List Regex) : distinct rs = rs.eraseDups := by
  unfold distinct
  split
  · rfl
  · simp [List.eraseDups_cons]
  · rw [distinctFrom_eq]
    exact congrArg List.eraseDups (List.filter_eq_self.mpr fun r _ => by simp)

/-! ## Following forms -/

theorem mem_follow {b : Nat} {forms : List (List Interval)} {rest : List Interval} :
    rest ∈ follow b forms ↔ ∃ r, r :: rest ∈ forms ∧ r.contains b = true := by
  simp only [follow, List.mem_filterMap]
  constructor
  · rintro ⟨form, hform, h⟩
    cases form with
    | nil => cases h
    | cons r form =>
        simp only [Option.ite_none_right_eq_some, Option.some.injEq] at h
        obtain ⟨hb, rfl⟩ := h
        exact ⟨r, hform, hb⟩
  · rintro ⟨r, hform, hb⟩
    exact ⟨_, hform, by simp [hb]⟩

theorem spells_follow {b : Nat} {forms : List (List Interval)} {bytes : List Nat} :
    Interval.Spells (follow b forms) bytes ↔ Interval.Spells forms (b :: bytes) := by
  simp only [Interval.Spells, mem_follow]
  constructor
  · rintro ⟨rest, ⟨r, hform, hb⟩, hbytes⟩
    exact ⟨_, hform, .cons hb hbytes⟩
  · rintro ⟨form, hform, hbytes⟩
    obtain ⟨r, rest, hb, hrest, rfl⟩ := List.forall₂_cons_right_iff.mp hbytes
    exact ⟨rest, ⟨r, hform, hb⟩, hrest⟩

namespace Thread

/-- Inside a character whose next bytes are given, where all forms that begin with the first
of them are as long as they are. -/
def Waits (b : Nat) (bytes : List Nat) : Thread → Prop
  | inside forms _ => ∀ rest ∈ follow b forms, rest.length = bytes.length
  | _ => False

/-- The thread behind some bytes. -/
def read (bytes : List Nat) (thread : Thread) : Option Thread :=
  bytes.foldlM (fun t b => t.after b) thread

theorem read_nil : read [] = some := rfl

theorem read_cons (b : Nat) (bytes : List Nat) (thread : Thread) :
    thread.read (b :: bytes) = (thread.after b).bind (read bytes) := List.foldlM_cons

variable {b c : Nat} {bytes : List Nat} {forms : List (List Interval)} {left : Regex}
  {thread : Thread}

/-- The last byte finishes the character. -/
theorem after_of_waits_nil (h : (inside forms left).Waits b []) :
    (inside forms left).after b = some thread ↔
      thread = between left ∧ Interval.Spells forms [b] := by
  rw [← spells_follow]
  cases hf : follow b forms with
  | nil => simp [after, hf]
  | cons rest others =>
      obtain rfl : rest = [] := List.length_eq_zero_iff.mp (h rest (by simp [hf]))
      have hspells : Interval.Spells ([] :: others) [] := ⟨[], List.mem_cons_self, .nil⟩
      simp [after, hf, hspells, eq_comm]

/-- Any other byte leaves the thread inside. -/
theorem after_of_waits_cons (h : (inside forms left).Waits b (c :: bytes)) :
    (inside forms left).after b =
      if follow b forms = [] then none else some (inside (follow b forms) left) := by
  cases hf : follow b forms with
  | nil => simp [after, hf]
  | cons rest others =>
      obtain ⟨r, rest, rfl⟩ := List.exists_cons_of_length_eq_add_one (h rest (by simp [hf]))
      simp [after, hf]

theorem Waits.follow (h : (inside forms left).Waits b (c :: bytes)) :
    (inside (follow b forms) left).Waits c bytes := by
  intro rest hrest
  obtain ⟨r, hr, -⟩ := mem_follow.mp hrest
  exact Nat.succ.inj (h _ hr)

/-- Behind any other byte, the thread waits for the next one. -/
theorem Waits.after (h : thread.Waits b (c :: bytes)) {behind : Thread}
    (hbehind : thread.after b = some behind) : behind.Waits c bytes := by
  cases thread with
  | ended | between _ => cases h
  | inside forms left =>
      rw [after_of_waits_cons h] at hbehind
      split at hbehind
      · cases hbehind
      · obtain rfl := Option.some.inj hbehind
        exact h.follow

/-- Behind a whole character, a thread goes on if one of its forms spells the character. -/
theorem read_eq_some_iff (h : (inside forms left).Waits b bytes) :
    (inside forms left).read (b :: bytes) = some thread ↔
      thread = between left ∧ Interval.Spells forms (b :: bytes) := by
  induction bytes generalizing b forms with
  | nil =>
      rw [← after_of_waits_nil h, read_cons, read_nil, Option.bind_fun_some]
  | cons c bytes ih =>
      rw [read_cons, after_of_waits_cons h, ← spells_follow]
      split
      · rename_i hf
        simp [hf]
      · exact ih h.follow

/-! ## Sets of characters -/

theorem waits_ofBranch {d : Char} (hd : charBytes d = b :: bytes) {step : Branch}
    (h : step ≠ .accept) : (ofBranch step).Waits b bytes := by
  cases step with
  | accept => exact absurd rfl h
  | consume chars left =>
      intro rest hrest
      obtain ⟨r, hr, hb⟩ := mem_follow.mp hrest
      exact CharSet.length_eq_of_first hr hd hb

/-- The bytes of a character lead to where the character leads. -/
theorem read_ofBranch (d : Char) (step : Branch) :
    (ofBranch step).read (charBytes d) = (step.after d).map between := by
  obtain ⟨b, bytes, hd⟩ : ∃ b bytes, charBytes d = b :: bytes :=
    List.exists_cons_of_length_pos (by rw [length_charBytes]; exact d.utf8Size_pos)
  cases step with
  | accept => rw [hd, read_cons]; rfl
  | consume chars left =>
      ext thread
      have hwaits : (ofBranch (.consume chars left)).Waits b bytes := waits_ofBranch hd nofun
      rw [hd, ofBranch, read_eq_some_iff hwaits, ← hd, CharSet.spells_utf8_iff,
        Branch.after_consume]
      by_cases hc : chars.contains d = true
      · simp [hc, eq_comm]
      · simp [hc]

end Thread

/-! ## States -/

namespace ThreadState

variable {matched : Bool} {last : Option Char} {threads : List Thread} {b : UInt8}
  {bytes : List Nat}

/-- Inside a character, what comes next opens nothing. -/
theorem opened_of_waits {n : Nat} (h : ∀ t ∈ threads, t.Waits n bytes) (next : Option Char) :
    (mk matched last threads).opened next = threads := by
  have hopened : ∀ t ∈ threads, t.opened ⟨last, next⟩ = [t] := by
    intro t ht
    cases t with
    | ended | between _ => cases h _ ht
    | inside forms left => rfl
  rw [opened, List.flatMap_congr hopened, List.flatMap_singleton']

/-- Inside a character no match ends. -/
theorem next_of_waits (h : ∀ t ∈ threads, t.Waits b.toNat bytes) :
    (mk matched last threads).next b = ⟨false, some (byteNeighbour b.toNat),
      (threads.filterMap (Thread.after b.toNat)).eraseDups⟩ := by
  have hended : ∀ t ∈ threads, t ≠ .ended := by
    rintro t ht rfl
    exact h _ ht
  have hcontains : threads.contains .ended = false := by
    rw [List.contains_eq_mem, decide_eq_false_iff_not]
    exact fun hmem => hended _ hmem rfl
  have htake : threads.takeWhile (· != .ended) = threads :=
    List.takeWhile_eq_self_iff.mpr fun t ht => bne_iff_ne.mpr (hended t ht)
  simp only [next, opened_of_waits h, hcontains, htake]

end ThreadState

variable {r : Regex} {matched : Bool} {last : Option Char} {offset : Nat}

theorem stops_cons (s : ThreadState) (b : UInt8) (rest : List UInt8) :
    r.automaton.stops s offset (b :: rest) =
      (if (s.next b).matched then [offset] else []) ++
        r.automaton.stops (s.next b) (offset + 1) rest := rfl

/-- Over the bytes of a character nothing is reported. -/
theorem stops_of_waits {threads : List Thread} {b : UInt8}
    {bytes rest : List UInt8} {d : Char}
    (h : ∀ t ∈ threads, t.Waits b.toNat (bytes.map UInt8.toNat))
    (hd : ∀ x ∈ b :: bytes, byteNeighbour x.toNat = d) :
    r.automaton.stops ⟨matched, last, threads⟩ offset (b :: bytes ++ rest) =
      r.automaton.stops
        ⟨false, some d,
          (threads.filterMap (Thread.read ((b :: bytes).map UInt8.toNat))).eraseDups⟩
        (offset + (b :: bytes).length) rest := by
  have hb := hd b List.mem_cons_self
  induction bytes generalizing threads b matched last offset with
  | nil =>
      have hread : Thread.read [b.toNat] = Thread.after b.toNat := by
        funext t
        rw [Thread.read_cons, Thread.read_nil, Option.bind_fun_some]
      rw [List.cons_append, stops_cons, ThreadState.next_of_waits h, hb,
        List.map_singleton, hread]
      rfl
  | cons c bytes ih =>
      have hwaits : ∀ t ∈ (threads.filterMap (Thread.after b.toNat)).eraseDups,
          t.Waits c.toNat (bytes.map UInt8.toNat) := by
        intro t ht
        obtain ⟨u, hu, ht⟩ := List.mem_filterMap.mp (List.mem_eraseDups.mp ht)
        exact (h u hu).after ht
      have hread : (Thread.read ((b :: c :: bytes).map UInt8.toNat)) = fun t =>
          (t.after b.toNat).bind (Thread.read ((c :: bytes).map UInt8.toNat)) := by
        funext t
        exact Thread.read_cons ..
      rw [List.cons_append, stops_cons, ThreadState.next_of_waits h,
        ih hwaits (fun x hx => hd x (List.mem_cons_of_mem _ hx)) (hd c (by simp)),
        eraseDups_filterMap_eraseDups, List.filterMap_filterMap, hread,
        @List.length_cons _ b (c :: bytes), Nat.add_assoc, Nat.add_comm 1]
      rfl

/-- What was found in front of the state does not matter for what is found behind it. -/
theorem stops_matched (matched' : Bool) (threads : List Thread) (bytes : List UInt8) :
    r.automaton.stops ⟨matched, last, threads⟩ offset bytes =
      r.automaton.stops ⟨matched', last, threads⟩ offset bytes := by
  cases bytes <;> rfl

/-! ## Characters -/

section Steps

variable {steps : List Branch} {c : Char}

theorem ofBranch_ne_ended {b : Branch} (h : b ≠ .accept) : Thread.ofBranch b ≠ .ended := by
  cases b with
  | accept => exact absurd rfl h
  | consume chars left => exact nofun

theorem contains_ended_map :
    (steps.map Thread.ofBranch).contains .ended = true ↔ .accept ∈ steps := by
  simp only [List.contains_eq_mem, decide_eq_true_eq, List.mem_map]
  constructor
  · rintro ⟨b, hb, h⟩
    by_cases ha : b = .accept
    · exact ha ▸ hb
    · exact absurd h (ofBranch_ne_ended ha)
  · exact fun h => ⟨_, h, rfl⟩

/-- The first steps in front of the first stop. -/
theorem takeWhile_map_ofBranch : (steps.map Thread.ofBranch).takeWhile (· != .ended) =
    (steps.takeWhile (· != .accept)).map Thread.ofBranch := by
  induction steps with
  | nil => rfl
  | cons b steps ih =>
      cases b with
      | accept => rfl
      | consume chars left => simpa [List.takeWhile_cons, Thread.ofBranch] using ih

theorem filterMap_after_untilAccept : (untilAccept steps).filterMap (Branch.after c) =
    (steps.takeWhile (· != .accept)).filterMap (Branch.after c) := by
  induction steps with
  | nil => rfl
  | cons b steps ih =>
      cases b with
      | accept => rfl
      | consume chars left =>
          have htake : (Branch.consume chars left :: steps).takeWhile (· != .accept) =
              .consume chars left :: steps.takeWhile (· != .accept) := by simp
          rw [untilAccept_consume, htake, List.filterMap_cons, List.filterMap_cons, ih]

end Steps

/-- The threads that the bytes of a character lead to are those that the character leads
to. -/
theorem filterMap_read_ofBranch (c : Char) (steps : List Branch) :
    (((steps.takeWhile (· != .accept)).map Thread.ofBranch).filterMap
      (Thread.read (charBytes c))).eraseDups =
        (advance c (untilAccept steps)).map Thread.between := by
  have hread : Thread.read (charBytes c) ∘ Thread.ofBranch =
      fun step => (step.after c).map Thread.between :=
    funext (Thread.read_ofBranch c)
  have hbetween : Function.Injective Thread.between := fun _ _ h => Thread.between.inj h
  rw [List.filterMap_map, hread, ← List.map_filterMap, ← filterMap_after_untilAccept,
    eraseDups_map hbetween, ← distinct_eq_eraseDups, advance_eq]

/-- The state between characters in which a run goes on with some threads. -/
def betweenState (last : Option Char) (threads : List Regex) : ThreadState :=
  ⟨false, last.map neighbour, threads.map .between⟩

theorem opened_betweenState (last : Option Char) {threads : List Regex}
    (h : ∀ q ∈ threads, q.asksUnicodeWords = false) (next : Option Char) :
    (betweenState last threads).opened (next.map neighbour) =
      (threads.flatMap (branches ⟨last, next⟩)).map Thread.ofBranch := by
  rw [ThreadState.opened, betweenState, List.flatMap_map, List.map_flatMap]
  refine List.flatMap_congr fun q hq => ?_
  exact congrArg (List.map Thread.ofBranch) (branches_seen (h q hq) ⟨last, next⟩)

/-- In front of a character, its threads wait for its bytes. -/
theorem waits_takeWhile {c : Char} {b : Nat} {bytes : List Nat}
    (hc : charBytes c = b :: bytes) (steps : List Branch) :
    ∀ t ∈ (steps.takeWhile (· != .accept)).map Thread.ofBranch, t.Waits b bytes := by
  intro t ht
  obtain ⟨step, hstep, rfl⟩ := List.mem_map.mp ht
  exact Thread.waits_ofBranch hc (by simpa using List.mem_takeWhile_imp hstep)

/-- The first byte of a character opens the threads, and reports what has ended in front of
it. -/
theorem stops_betweenState {threads : List Regex} {c : Char} {b : UInt8} {bytes : List Nat}
    {rest : List UInt8} (h : ∀ q ∈ threads, q.asksUnicodeWords = false)
    (hc : charBytes c = b.toNat :: bytes) :
    r.automaton.stops (betweenState last threads) offset (b :: rest) =
      (if .accept ∈ threads.flatMap (branches ⟨last, some c⟩) then [offset] else []) ++
        r.automaton.stops ⟨false, last.map neighbour,
          ((threads.flatMap (branches ⟨last, some c⟩)).takeWhile (· != .accept)).map
            Thread.ofBranch⟩ offset (b :: rest) := by
  have hb : byteNeighbour b.toNat = neighbour c := byteNeighbour_eq (hc ▸ List.mem_cons_self)
  have hnext : (betweenState last threads).next b =
      { matched :=
        ((threads.flatMap (branches ⟨last, some c⟩)).map Thread.ofBranch).contains .ended
        last := some (neighbour c)
        threads :=
          ((((threads.flatMap (branches ⟨last, some c⟩)).takeWhile (· != .accept)).map
          Thread.ofBranch).filterMap (Thread.after b.toNat)).eraseDups } := by
    have hopened := opened_betweenState last h (some c)
    rw [Option.map_some] at hopened
    simp only [ThreadState.next, hb, hopened, takeWhile_map_ofBranch]
  rw [stops_cons, stops_cons, hnext, ThreadState.next_of_waits (waits_takeWhile hc _), hb,
    stops_matched false]
  simp only [contains_ended_map, Bool.false_eq_true, if_false, List.nil_append]

/-- Over the bytes of a character, the threads step as a run does over the character. -/
theorem stops_char {threads : List Regex} (h : ∀ q ∈ threads, q.asksUnicodeWords = false)
    (c : Char) (rest : List UInt8) :
    r.automaton.stops (betweenState last threads) offset (String.utf8EncodeChar c ++ rest) =
      (if .accept ∈ threads.flatMap (branches ⟨last, some c⟩) then [offset] else []) ++
        r.automaton.stops (betweenState (some c) (advance c (steps ⟨last, some c⟩ threads)))
          (offset + c.utf8Size) rest := by
  obtain ⟨b, bytes, hbytes⟩ : ∃ b bytes, String.utf8EncodeChar c = b :: bytes :=
    List.exists_cons_of_length_pos
      (by rw [String.length_utf8EncodeChar]; exact c.utf8Size_pos)
  have hc : charBytes c = (b :: bytes).map UInt8.toNat := by rw [charBytes, hbytes]
  have hneighbour : ∀ x ∈ b :: bytes, byteNeighbour x.toNat = neighbour c := by
    intro x hx
    rw [← hbytes] at hx
    exact byteNeighbour_eq (List.mem_map_of_mem hx)
  have hsize : (b :: bytes).length = c.utf8Size := by
    rw [← hbytes, String.length_utf8EncodeChar]
  rw [hbytes, List.cons_append, stops_betweenState h hc, ← List.cons_append,
    stops_of_waits (waits_takeWhile hc _) hneighbour, hsize, ← hc, filterMap_read_ofBranch]
  rfl

/-- At the end of the text, what has ended is reported once more. -/
theorem stops_end {threads : List Regex} (h : ∀ q ∈ threads, q.asksUnicodeWords = false) :
    r.automaton.stops (betweenState last threads) offset [] =
      if .accept ∈ threads.flatMap (branches ⟨last, none⟩) then [offset] else [] := by
  have hopened := opened_betweenState last h none
  have hmatched : ((betweenState last threads).nextEnd).matched = true ↔
      .accept ∈ threads.flatMap (branches ⟨last, none⟩) := by
    rw [← contains_ended_map, ← hopened]
    rfl
  exact if_congr hmatched rfl rfl

/-- What a run goes on with asks for no more than what it has gone on with so far. -/
theorem asksUnicodeWords_of_mem_advance {threads : List Regex} {place : Place} {c : Char}
    (h : ∀ q ∈ threads, q.asksUnicodeWords = false) :
    ∀ q ∈ advance c (steps place threads), q.asksUnicodeWords = false := by
  intro q hq
  obtain ⟨chars, hstep, -⟩ := mem_advance_iff.mp hq
  obtain ⟨p, hp, hstep⟩ := List.mem_flatMap.mp (mem_of_mem_untilAccept hstep)
  exact leavesBytewise_branches (h p hp) _ hstep

/-- The ends that are reported, byte by byte, are those of the run along the characters. -/
theorem stops_eq_endsFrom {threads : List Regex}
    (h : ∀ q ∈ threads, q.asksUnicodeWords = false) (rest : Text) :
    r.automaton.stops (betweenState last threads) offset rest.bytes =
      endsFrom threads offset last rest := by
  induction rest generalizing threads last offset with
  | nil =>
      rw [endsFrom, ← if_congr accept_mem_steps.symm rfl rfl]
      exact stops_end h
  | cons c rest ih =>
      rw [Text.bytes_cons, stops_char h, endsFrom_cons,
        ih (asksUnicodeWords_of_mem_advance h)]

theorem stops_no_threads (r : Regex) (matched : Bool) (last : Option Char) (offset : Nat)
    (bytes : List UInt8) : r.automaton.stops ⟨matched, last, []⟩ offset bytes = [] := by
  induction bytes generalizing matched last offset with
  | nil => rfl
  | cons b bytes ih => exact ih _ _ _

theorem endsSafely_automaton (r : Regex) : r.automaton.EndsSafely := by
  rintro ⟨matched, last, threads⟩ hs offset bytes
  have hdead : (!matched && threads.isEmpty) = true := by
    rwa [← Bool.or_false (!matched && _)]
  obtain rfl := List.isEmpty_iff.mp (Bool.and_eq_true_iff.mp hdead).2
  exact stops_no_threads r matched last offset bytes

/-- The byte in front of a place tells what assertions see of the character there. -/
theorem byteNeighbour_getLast? (u : Text) :
    u.bytes.getLast?.map (fun b => byteNeighbour b.toNat) = u.getLast?.map neighbour := by
  rcases List.eq_nil_or_concat u with rfl | ⟨u, c, rfl⟩
  · rfl
  · have hne : String.utf8EncodeChar c ≠ [] := by
      rw [← List.length_pos_iff, String.length_utf8EncodeChar]
      exact c.utf8Size_pos
    have hbytes : Text.bytes (u ++ [c]) = Text.bytes u ++ String.utf8EncodeChar c := by
      rw [Text.bytes_append, Text.bytes, Text.bytes, List.flatMap_singleton]
    rw [List.concat_eq_append, hbytes, List.getLast?_append_of_ne_nil _ hne,
      List.getLast?_concat, List.getLast?_eq_some_getLast hne, Option.map_some,
      Option.map_some, byteNeighbour_eq (List.mem_map_of_mem (List.getLast_mem hne))]

/-- From every boundary, the automaton reports the ends of the run. -/
theorem reports_automaton {r : Regex} (h : r.asksUnicodeWords = false) (t : Text) :
    r.automaton.Reports t r.ends where
  endsSafely := endsSafely_automaton r
  exists_start b hb := by
    obtain ⟨u, rfl, hoffset, hlast⟩ := Text.mem_boundaries_iff.mp hb
    have hsize : u.bytes.length = b.offset := by rw [Text.length_bytes, hoffset]
    refine ⟨betweenState b.last [r], ?_, ?_⟩
    · rw [Text.bytes_append, List.take_left' hsize]
      rw [betweenState, hlast, ← byteNeighbour_getLast?]
      rfl
    · rw [Text.bytes_append, List.drop_left' hsize]
      exact stops_eq_endsFrom (List.forall_mem_singleton.mpr h) b.rest

end ControlSearch.Regex
