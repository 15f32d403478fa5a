import ControlSearch.Proofs.Pattern.LengthGuards

/-!
# Matches that share their start

The last occurrence may be taken as short or as long as possible. A pattern that accepts no
empty text has no match at the end of a text, so the search for the longest match, which
leaves this start out, begins at the same start as the other one. This is true of words and of
any expression, whatever its runs prefer: where there is a shortest match, there is a longest
one.
-/
namespace ControlSearch.Pattern

variable {settings : PatternSettings} {spec t : Text} {p : Pattern} {r : Regex}
  {occurs : Nat → Nat → Prop}

/-- What all searches for a pattern in a text come across is told by one relation. -/
structure SearchesFor (occurs : Nat → Nat → Prop) (p : Pattern) (t : Text) : Prop where
  le : ∀ b e, occurs b e → b ≤ e ∧ e ≤ t.size
  isFirst_first : IsFirst occurs (p.first t)
  isLast_lastShortest : IsLast occurs IsLeast (p.lastShortest t)
  isLast_lastLongest : IsLast occurs IsGreatest (p.lastLongest t)
  surroundingSize?_eq : ∃ width, IsWidest occurs width ∧
  p.surroundingSize? t = width.map (t.size - ·)

theorem searchesFor_compile (h : compile settings spec = .ok p) (hp : p.isEverything = false)
    (ht : t ≠ []) : SearchesFor (Occurs settings.dotMatchesNewLine spec t) p t := by
  have hanswers := answers_compile h hp ht
  refine ⟨fun b e hocc => ?_, isFirst_first h hp t, hanswers.isLast_lastShortest,
    hanswers.isLast_lastLongest, hanswers.surroundingSize?_eq⟩
  exact ⟨(hocc.start_lt (isOpen_of_compile h hp)).le, hocc.stop_le⟩

/-- No match starts at the end of a text if the least size is a number, and not zero. -/
theorem start_lt_of_matches (hr : r.Proper) (hp : p.matcher = .automaton r)
    (hmin : p.mayBeEmpty = false) (hlong : p.isTooShort t.size = false) {start stop : Nat}
    (h : r.Matches t start stop) :
    start < t.size := by
  have hstop := h.slices.stop_le
  have hsame : p.minSize? = r.minSize? := by simp [minSize?, hp]
  cases hleast : r.minSize? with
  | none => simp [isTooShort, hsame, hleast] at hlong
  | some least =>
      have hpos : least ≠ 0 := by simpa [mayBeEmpty, hsame, hleast] using hmin
      have hbound := start_add_le_of_matches hr hleast h
      omega

/-- An automaton is searched for its matches, or for nothing at all if the text is too
short. -/
theorem exists_searchesFor_automaton (hr : r.Proper) (hp : p.matcher = .automaton r)
    (hmin : p.mayBeEmpty = false) (ht : t ≠ []) : ∃ occurs, SearchesFor occurs p t := by
  by_cases hshort : p.isTooShort t.size = true
  -- Here matches might be hidden by the guard, but all searches are refused alike.
  · have hfirst : p.first t = .notFound := by simp [first, firstFrom, hp, hshort]
    have hshortest : p.lastShortest t = .notFound := by simp [lastShortest, hshort]
    have hlongest : p.lastLongest t = .notFound := by simp [lastLongest, hshort]
    refine ⟨fun _ _ => False, fun _ _ => False.elim, ?_, ?_, ?_, none, fun _ _ => id, ?_⟩
    · rw [hfirst]
      exact fun _ _ => id
    · rw [hshortest]
      exact fun _ _ => id
    · rw [hlongest]
      exact fun _ _ => id
    · simp [surroundingSize?, hp, hshort]
  · have hlong : p.isTooShort t.size = false := by simpa using hshort
    have hfirst := isFirst_firstFrom_matches hp ht (Nat.zero_le _) hlong
    simp only [Nat.zero_le, true_and] at hfirst
    refine ⟨r.Matches t, fun b e h => ⟨h.slices.le, h.slices.stop_le⟩, hfirst,
      isLast_lastShortest_matches hp hlong ht, ?_, surroundingSize?_matches hp hlong⟩
    exact isLast_lastLongest_matches hp hlong ht fun b e h =>
      start_lt_of_matches hr hp hmin hlong h

theorem IsCompiled.exists_searchesFor (h : p.IsCompiled) (hmin : p.mayBeEmpty = false)
    (ht : t ≠ []) :
    ∃ occurs, SearchesFor occurs p t := by
  cases h with
  | ofSpec h => exact ⟨_, searchesFor_compile h (isEverything_of_mayBeEmpty hmin) ht⟩
  | ofExpression h =>
      obtain ⟨e, r, -, rfl, -, hr⟩ := ofRegex_cases h
      exact exists_searchesFor_automaton hr rfl hmin ht

/-- Unless the empty text is accepted, either all queries come upon something or none does.
The last occurrence has one start, taken as short or as long as possible, and the first one
does not start behind it. Taken as long as possible, it leaves no more behind it, and no more
around it is left than around the widest occurrence. -/
theorem queries_share_start (h : p.IsCompiled) (hmin : p.mayBeEmpty = false) (ht : t ≠ []) :
    (p.first t = .notFound ∧ p.lastShortest t = .notFound ∧ p.sizeBeforeLast? t = none ∧
        p.sizeBeforeLastShortest? t = none ∧ p.sizeAfterLast? t = none ∧
        p.sizeAfterLastShortest? t = none ∧ p.surroundingSize? t = none) ∨
      ∃ firstStart firstStop start shortest longest around,
        p.first t = .range firstStart firstStop ∧ p.lastShortest t = .range start shortest ∧
        p.sizeBeforeLast? t = some start ∧ p.sizeBeforeLastShortest? t = some start ∧
        p.sizeAfterLast? t = some (t.size - longest) ∧
        p.sizeAfterLastShortest? t = some (t.size - shortest) ∧
        p.surroundingSize? t = some around ∧
        firstStart ≤ start ∧ shortest ≤ longest ∧ longest ≤ t.size ∧
        around ≤ start + (t.size - longest) := by
  obtain ⟨occurs, hle, hfirst, hshortest, hlongest, width, hwidth, hsurrounding⟩ :=
    h.exists_searchesFor hmin ht
  have hp := isEverything_of_mayBeEmpty hmin
  have hempty : t.isEmpty = false := by simpa using ht
  simp only [sizeBeforeLastShortest?, sizeAfterLastShortest?, sizeBeforeLast?,
    sizeAfterLast?, hempty, hp, Bool.false_eq_true, if_false, hsurrounding]
  rcases last_cases hshortest hlongest hwidth with ⟨hnone, hs, hs', rfl⟩ |
    ⟨start, shortest, longest, n, hstart, hleast, hgreatest, hwidest, hs, hs', rfl⟩
  · refine .inl ⟨?_,
      hs, by rw [hs']; rfl, by rw [hs]; rfl, by rw [hs']; rfl, by rw [hs]; rfl, rfl⟩
    cases hspan : p.first t with
    | notFound => rfl
    | range b e =>
        rw [hspan] at hfirst
        exact absurd hfirst.2.1 (hnone b e)
  · rw [hs, hs']
    cases hspan : p.first t with
    | notFound =>
        rw [hspan] at hfirst
        exact absurd hleast.1 (hfirst start shortest)
    | range b e =>
        rw [hspan] at hfirst
        have hinside := hle start longest hgreatest.1
        have hwide : longest - start ≤ n := hwidest.2 ⟨start, longest, hgreatest.1, rfl⟩
        refine .inr ⟨b, e, start, shortest, longest, t.size - n, rfl, rfl, rfl, rfl,
          rfl, rfl, rfl, hfirst.1.2 hstart.1, hgreatest.2 hleast.1, hinside.2, by omega⟩

set_option maxRecDepth 10000 in
theorem ofRegex_shorter : ofRegex {} "ab|a".toList = .ok ⟨"ab|a".toList,
    .automaton (.alt (.cat (.char 'a') (.char 'b')) (.char 'a'))⟩ := by
  cbv

/-- Of two alternatives one begins the other. What is left behind the last match differs, its
start does not. -/
theorem queries_share_start_shorter :
    ∃ p, ofRegex {} "ab|a".toList = .ok p ∧ p.mayBeEmpty = false ∧
    ∃ start shortest longest, p.sizeBeforeLast? ['b', 'a', 'b'] = some start ∧
      p.sizeBeforeLastShortest? ['b', 'a', 'b'] = some start ∧
      p.sizeAfterLast? ['b', 'a', 'b'] = some (3 - longest) ∧
      p.sizeAfterLastShortest? ['b', 'a', 'b'] = some (3 - shortest) ∧
      shortest ≤ longest := by
  refine ⟨_, ofRegex_shorter, rfl, ?_⟩
  have hpreferred :
      ((Regex.alt (.cat (.char 'a') (.char 'b')) (.char 'a')).preferences
        (some 'b') ['a', 'b']).head? = some (Text.size ['a', 'b']) := by cbv
  have hend :
      3 ∈ (Regex.alt (.cat (.char 'a') (.char 'b')) (.char 'a')).ends
        ⟨1, some 'b', ['a', 'b']⟩ :=
    Regex.mem_endsFrom_size_iff.mpr (by simpa only [List.flatMap_singleton] using hpreferred)
  have hmatch :
      (Regex.alt (.cat (.char 'a') (.char 'b')) (.char 'a')).Matches ['b', 'a', 'b'] 1 3 :=
    ⟨_, by decide, rfl, hend⟩
  have hlast := isLast_lastShortest_matches
    (p := ⟨"ab|a".toList, .automaton (.alt (.cat (.char 'a') (.char 'b')) (.char 'a'))⟩)
    (t := ['b', 'a', 'b']) rfl rfl (List.cons_ne_nil _ _)
  rcases queries_share_start (.ofExpression ofRegex_shorter)
    rfl (List.cons_ne_nil 'b' ['a', 'b']) with
    ⟨-, hnone, -⟩ |
    ⟨-, -, start, shortest, longest, -, -, -, hlongest, hshortest, hbehind,
      hbehind', -, -, hle, -⟩
  · rw [hnone] at hlast
    exact absurd hmatch (hlast 1 3)
  · exact ⟨start, shortest, longest, hlongest, hshortest, hbehind, hbehind', hle⟩

end ControlSearch.Pattern
