import ControlSearch.Locator
import ControlSearch.Proofs.Pattern.Acceptance

/-!
# Segments that have to occur in order

Segments are joined as text, by a star between neighbours. So the joined spec means what it is
meant to mean if and only if no star is escaped: a segment in front of another one must not
end in a backslash that has nothing to escape.
-/
namespace ControlSearch

namespace Wildcard

/-! ## Dangling backslashes -/

/-- Whether a spec ends in a backslash that stands for itself because nothing follows it. -/
def dangles : Text → Bool
  | [] => false
  | '\\' :: [] => true
  | '\\' :: _ :: rest => dangles rest
  | _ :: rest => dangles rest

variable {s t : Text}

theorem dangles_cons {c : Char} (h : c ≠ '\\') (rest : Text) :
    dangles (c :: rest) = dangles rest := by
  rw [dangles]
  · intro h'
    subst h'
    exact absurd rfl h
  · intro d rest' h'
    subst h'
    exact absurd rfl h

/-- A spec dangles if it ends in a backslash that is not escaped itself. -/
theorem dangles_concat (s : Text) (c : Char) :
    dangles (s ++ [c]) = (c == '\\' && !dangles s) := by
  fun_induction dangles s with
  | case1 =>
      by_cases hc : c = '\\'
      · subst hc
        rfl
      · rw [List.nil_append, dangles_cons hc]
        simp [dangles, hc]
  | case2 => simp [dangles]
  | case3 d rest ih =>
      have h : dangles ('\\' :: d :: (rest ++ [c])) = dangles (rest ++ [c]) := rfl
      rw [List.cons_append, List.cons_append, h, ih]
  | case4 d rest hend hmore ih =>
      have hd : d ≠ '\\' := by
        intro h'
        subst h'
        cases rest with
        | nil => exact hend rfl rfl
        | cons e rest => exact hmore e rest rfl rfl
      rw [List.cons_append, dangles_cons hd, ih]

/-- The parts of a spec that does not dangle are not changed by what follows. -/
theorem ofSpec_append (h : dangles s = false) (t : Text) :
    ofSpec (s ++ t) = ofSpec s ++ ofSpec t := by
  fun_induction dangles s with
  | case1 => rfl
  | case2 => cases h
  | case3 d rest ih =>
      by_cases hd : isSpecial d = true
      · rw [List.cons_append, List.cons_append, ofSpec_escaped hd, ofSpec_escaped hd, ih h,
          List.cons_append]
      · simp [ofSpec, hd, ih h]
  | case4 d rest hend hmore ih =>
      have hd : d ≠ '\\' := by
        intro h'
        subst h'
        cases rest with
        | nil => exact hend rfl rfl
        | cons e rest => exact hmore e rest rfl rfl
      rw [List.cons_append, ofSpec_cons hd, ofSpec_cons hd, ih h, List.cons_append]

/-- The backslash at the end of a dangling spec escapes a star that follows it. -/
theorem ofSpec_of_dangles (h : dangles s = true) : ∃ front, ofSpec s = front ++ [.char '\\'] ∧
    ∀ t, ofSpec (s ++ '*' :: t) = front ++ .char '*' :: ofSpec t := by
  rcases List.eq_nil_or_concat s with rfl | ⟨front, c, rfl⟩
  · cases h
  · rw [List.concat_eq_append] at h ⊢
    rw [dangles_concat, Bool.and_eq_true, beq_iff_eq, Bool.not_eq_true'] at h
    obtain ⟨rfl, hfront⟩ := h
    refine ⟨ofSpec front, ofSpec_append hfront _, ?_⟩
    intro t
    rw [List.append_assoc, ofSpec_append hfront]
    rfl

/-! ## Sequences of parts -/

theorem accepts_append {dotNewLine : Bool} {parts more : List Wildcard} :
    Accepts dotNewLine (parts ++ more) t ↔
      ∃ u v, t = u ++ v ∧ Accepts dotNewLine parts u ∧ Accepts dotNewLine more v := by
  induction parts generalizing t with
  | nil => simp [Accepts]
  | cons p parts ih =>
      cases p with
      | char c =>
          simp only [List.cons_append, Accepts, ih]
          constructor
          · intro h
            rcases h with ⟨_, rfl, u, v, rfl, hu, hv⟩
            exact ⟨c :: u, v, rfl, ⟨u, rfl, hu⟩, hv⟩
          · intro h
            rcases h with ⟨_, v, rfl, ⟨u, rfl, hu⟩, hv⟩
            exact ⟨u ++ v, rfl, u, v, rfl, hu, hv⟩
      | anyChar =>
          simp only [List.cons_append, Accepts, ih]
          constructor
          · intro h
            rcases h with ⟨c, _, rfl, hc, u, v, rfl, hu, hv⟩
            exact ⟨c :: u, v, rfl, ⟨c, u, rfl, hc, hu⟩, hv⟩
          · intro h
            rcases h with ⟨_, v, rfl, ⟨c, u, rfl, hc, hu⟩, hv⟩
            exact ⟨c, u ++ v, rfl, hc, u, v, rfl, hu, hv⟩
      | anyRun =>
          simp only [List.cons_append, Accepts, ih]
          constructor
          · intro h
            rcases h with ⟨x, _, rfl, hx, u, v, rfl, hu, hv⟩
            exact ⟨x ++ u, v, (List.append_assoc ..).symm, ⟨x, u, rfl, hx, hu⟩, hv⟩
          · intro h
            rcases h with ⟨_, v, rfl, ⟨x, u, rfl, hx, hu⟩, hv⟩
            exact ⟨x, u ++ v, List.append_assoc .., hx, u, v, rfl, hu, hv⟩

/-- Where a run stands for line feeds too, it leaves a gap of any text. -/
theorem accepts_gap {parts more : List Wildcard} : Accepts true (parts ++ .anyRun :: more) t ↔
    ∃ u v w, t = u ++ (v ++ w) ∧ Accepts true parts u ∧ Accepts true more w := by
  rw [accepts_append]
  constructor
  · intro h
    rcases h with ⟨u, _, rfl, hu, v, w, rfl, -, hw⟩
    exact ⟨u, v, w, rfl, hu, hw⟩
  · intro h
    rcases h with ⟨u, v, w, rfl, hu, hw⟩
    exact ⟨u, v ++ w, rfl, hu, v, w, rfl, fun _ _ => .inl rfl, hw⟩

/-- Where runs stand for line feeds too, an open spec with a star stands for every text. -/
theorem accepts_of_isOpen {parts : List Wildcard} (h : isOpen parts = true)
    (hne : parts ≠ []) :
    Accepts true parts t := by
  cases parts with
  | nil => exact absurd rfl hne
  | cons p parts =>
      rw [isOpen, List.all_cons, Bool.and_eq_true, beq_iff_eq] at h
      obtain ⟨rfl, hparts⟩ := h
      exact ⟨t, [], by simp, fun _ _ => .inl rfl, accepts_nil_iff.mpr hparts⟩

theorem count_least (parts : List Wildcard) :
    (least parts).count '*' = parts.count (.char '*') := by
  induction parts with
  | nil => rfl
  | cons p parts ih => cases p <;> simp [least, List.count_cons, ih]

/-- Every star that stands for itself turns up in the text. -/
theorem count_le_of_accepts {dotNewLine : Bool} {parts : List Wildcard}
    (h : Accepts dotNewLine parts t) : parts.count (.char '*') ≤ t.count '*' := by
  induction parts generalizing t with
  | nil => exact Nat.zero_le _
  | cons p parts ih =>
      cases p with
      | char c =>
          obtain ⟨u, rfl, hu⟩ := h
          have := ih hu
          simp only [List.count_cons, beq_iff_eq, char.injEq]
          omega
      | anyChar =>
          obtain ⟨c, u, rfl, -, hu⟩ := h
          have := ih hu
          simp only [List.count_cons, beq_iff_eq, reduceCtorEq, if_false]
          omega
      | anyRun =>
          obtain ⟨u, v, rfl, -, hv⟩ := h
          have := ih hv
          simp only [List.count_cons, List.count_append, beq_iff_eq, reduceCtorEq, if_false]
          omega

theorem count_of_isOpen {parts : List Wildcard} (h : isOpen parts = true) :
    parts.count (.char '*') = 0 := by
  refine List.count_eq_zero.mpr ?_
  intro hmem
  have := List.all_eq_true.mp h _ hmem
  simp at this

end Wildcard

namespace Pattern
open Wildcard

/-! ## Joined segments -/

/-- A text is accepted by the pattern of a segment. -/
def AcceptedBy (segment t : Text) : Prop :=
  ∃ p, compile {} segment = .ok p ∧ p.accepts t = true

/-- A text is cut into texts that the segments accept, with any texts between neighbours. -/
def InOrder : List Text → Text → Prop
  | [], t => t = []
  | [segment], t => AcceptedBy segment t
  | segment :: next :: rest, t =>
    ∃ u v w, t = u ++ (v ++ w) ∧ AcceptedBy segment u ∧ InOrder (next :: rest) w

variable {segments : List Text} {t : Text} {p : Pattern}

theorem joinSegments_singleton (segment : Text) : joinSegments [segment] = segment :=
  Text.join_singleton ['*'] segment

theorem joinSegments_cons (segment next : Text) (rest : List Text) :
    joinSegments (segment :: next :: rest) = segment ++ '*' :: joinSegments (next :: rest) :=
  Text.join_cons_cons ['*'] segment next rest

/-- Only segments that are open accept more than their parts do. -/
theorem acceptedBy_iff {segment : Text} (h : ∃ p, compile {} segment = .ok p) :
    AcceptedBy segment t ↔
      Accepts true (ofSpec segment) [] ∨ Accepts true (ofSpec segment) t := by
  obtain ⟨p, hp⟩ := h
  rw [accepts_nil_iff]
  constructor
  · intro h'
    rcases h' with ⟨q, hq, hqt⟩
    exact (accepts_compile_parts hq t).mp hqt
  · exact fun h => ⟨p, hp, (accepts_compile_parts hp t).mpr h⟩

/-- In front of a gap, a language that holds of the empty text may as well hold of every
text. -/
theorem gap_left {L M : Text → Prop} :
    (∃ u v w, t = u ++ (v ++ w) ∧ (L [] ∨ L u) ∧ M w) ↔
      ∃ u v w, t = u ++ (v ++ w) ∧ L u ∧ M w := by
  constructor
  · intro h
    rcases h with ⟨u, v, w, rfl, hu | hu, hw⟩
    · exact ⟨[], u ++ v, w, by simp, hu, hw⟩
    · exact ⟨u, v, w, rfl, hu, hw⟩
  · intro h
    rcases h with ⟨u, v, w, rfl, hu, hw⟩
    exact ⟨u, v, w, rfl, .inr hu, hw⟩

theorem gap_right {L M : Text → Prop} :
    (∃ u v w, t = u ++ (v ++ w) ∧ L u ∧ (M [] ∨ M w)) ↔
      ∃ u v w, t = u ++ (v ++ w) ∧ L u ∧ M w := by
  constructor
  · intro h
    rcases h with ⟨u, v, w, rfl, hu, hw | hw⟩
    · exact ⟨u, v ++ w, [], by simp, hu, hw⟩
    · exact ⟨u, v, w, rfl, hu, hw⟩
  · intro h
    rcases h with ⟨u, v, w, rfl, hu, hw⟩
    exact ⟨u, v, w, rfl, hu, .inr hw⟩

theorem ofSpec_joinSegments_cons {segment : Text} (h : dangles segment = false) (next : Text)
    (rest : List Text) : ofSpec (joinSegments (segment :: next :: rest)) =
      ofSpec segment ++ .anyRun :: ofSpec (joinSegments (next :: rest)) := by
  rw [joinSegments_cons, ofSpec_append h, ofSpec_cons (by decide)]
  rfl

/-- Where no star is escaped, the parts of joined segments are the segments in order. -/
theorem accepts_joinSegments_iff {segment next : Text} {rest : List Text}
    (hall : ∀ s ∈ segment :: next :: rest, ∃ p, compile {} s = .ok p)
    (hdangles : ∀ s ∈ (segment :: next :: rest).dropLast, dangles s = false) :
    Accepts true (ofSpec (joinSegments (segment :: next :: rest))) t ↔
      InOrder (segment :: next :: rest) t := by
  induction rest generalizing segment next t with
  | nil =>
      have hsegment := hdangles segment (by simp)
      have hleft {u : Text} := acceptedBy_iff (t := u) (hall segment (by simp))
      have hright {u : Text} := acceptedBy_iff (t := u) (hall next (by simp))
      rw [ofSpec_joinSegments_cons hsegment, accepts_gap, joinSegments_singleton, InOrder]
      simp only [InOrder, hleft, hright, gap_left, gap_right]
  | cons third rest ih =>
      have hsegment := hdangles segment (by simp)
      have hleft {u : Text} := acceptedBy_iff (t := u) (hall segment (by simp))
      have hrest {u : Text} := ih (t := u) (fun s hs => hall s (List.mem_cons_of_mem _ hs))
        fun s hs => hdangles s (List.mem_cons_of_mem _ hs)
      rw [ofSpec_joinSegments_cons hsegment, accepts_gap, InOrder]
      simp only [hleft, gap_left, hrest]

/-- Joined segments are accepted in order where no star is escaped. -/
theorem accepts_iff_inOrder (hne : segments ≠ [])
    (hall : ∀ s ∈ segments, ∃ p, compile {} s = .ok p) (h : ofSegments {} segments = .ok p)
    (hdangles : ∀ s ∈ segments.dropLast, dangles s = false) (t : Text) : p.accepts t = true ↔
      InOrder segments t := by
  have hparts := accepts_compile_parts h t
  match segments, hne with
  | [segment], _ =>
      rw [joinSegments_singleton] at hparts
      rw [hparts, InOrder, acceptedBy_iff (hall segment (by simp)), accepts_nil_iff]
  | segment :: next :: rest, _ =>
      rw [hparts, ← accepts_joinSegments_iff hall hdangles]
      refine or_iff_right_of_imp fun hopen => accepts_of_isOpen hopen ?_
      rw [ofSpec_joinSegments_cons (hdangles segment (by simp))]
      simp

/-- The least texts of the segments stand in order. -/
theorem inOrder_least (hne : segments ≠ [])
    (hall : ∀ s ∈ segments, ∃ p, compile {} s = .ok p) :
    InOrder segments (least (segments.flatMap ofSpec)) := by
  have hleast {s : Text} (h : ∃ p, compile {} s = .ok p) : AcceptedBy s (least (ofSpec s)) :=
    (acceptedBy_iff h).mpr (.inr (accepts_least _))
  induction segments with
  | nil => exact absurd rfl hne
  | cons segment rest ih =>
      obtain ⟨hsegment, hrest⟩ := List.forall_mem_cons.mp hall
      cases rest with
      | nil => simpa [InOrder] using hleast hsegment
      | cons next rest =>
          rw [List.flatMap_cons, least_append]
          exact ⟨_, [], _, rfl, hleast hsegment, ih (by simp) hrest⟩

/-- Joining turns each dangling backslash into a star that stands for itself. -/
theorem count_joinSegments (segments : List Text) :
    (ofSpec (joinSegments segments)).count (.char '*') =
      (segments.flatMap ofSpec).count (.char '*') + segments.dropLast.countP dangles := by
  induction segments with
  | nil => rfl
  | cons segment rest ih =>
      cases rest with
      | nil => simp [joinSegments_singleton]
      | cons next rest =>
          rw [List.flatMap_cons, List.count_append, List.dropLast_cons_cons, List.countP_cons]
          by_cases h : dangles segment = true
          · obtain ⟨front, hfront, hjoined⟩ := ofSpec_of_dangles h
            rw [joinSegments_cons, hjoined, hfront, List.count_append,
              List.count_cons_self, ih, h]
            simp only [List.count_append, List.count_singleton, beq_iff_eq,
              char.injEq, if_true]
            have hne : ¬ ('\\' = '*') := by decide
            rw [if_neg hne]
            omega
          · have h : dangles segment = false := by simpa using h
            rw [ofSpec_joinSegments_cons h, List.count_append, List.count_cons, ih, h]
            simp only [beq_iff_eq, reduceCtorEq, if_false, Bool.false_eq_true]
            omega

/-- Joined segments are accepted in order only if no star is escaped: otherwise the least
texts of the segments have fewer stars than the joined spec asks for. -/
theorem accepts_ofSegments_iff (hne : segments ≠ [])
    (hall : ∀ s ∈ segments, ∃ p, compile {} s = .ok p) (h : ofSegments {} segments = .ok p) :
    (∀ t, p.accepts t = true ↔ InOrder segments t) ↔
      ∀ s ∈ segments.dropLast, dangles s = false := by
  constructor
  · intro hlaw
    have hcount := count_joinSegments segments
    have hzero : segments.dropLast.countP dangles = 0 := by
      have haccepts := (hlaw _).mpr (inOrder_least hne hall)
      rcases (accepts_compile_parts h _).mp haccepts with hopen | hparts
      · have := count_of_isOpen hopen
        omega
      · have := count_le_of_accepts hparts
        rw [count_least] at this
        omega
    intro s hs
    simpa using List.countP_eq_zero.mp hzero s hs
  · exact fun hdangles => accepts_iff_inOrder hne hall h hdangles

end Pattern

namespace Locator
open Pattern Wildcard

/-! ## The patterns of locators -/

variable {settings : PatternSettings} {raw : List Text} {l : Locator} {q : Patterns}

/-- The patterns of a path and a last segment are compiled one by one. -/
theorem compileWith_eq_ok_iff {path : List Text} {last : Text} :
    compileWith (compile settings) path last = .ok q ↔
      compile settings last = .ok q.node ∧
      compilePath (compile settings) path = .ok q.path ∧
      compile settings (joinSegments (path ++ [last])) = .ok q.whole ∧
      compileStart (compile settings) path last q.node = .ok q.startsWith := by
  constructor
  · intro h
    obtain ⟨node, hnode, h⟩ := except_bind_eq_ok.mp h
    obtain ⟨pathPattern, hpath, h⟩ := except_bind_eq_ok.mp h
    obtain ⟨whole, hwhole, h⟩ := except_bind_eq_ok.mp h
    obtain ⟨startsWith, hstart, h⟩ := except_bind_eq_ok.mp h
    obtain rfl := Except.ok.inj h
    exact ⟨hnode, hpath, hwhole, hstart⟩
  · rintro ⟨hnode, hpath, hwhole, hstart⟩
    apply except_bind_eq_ok.mpr ⟨q.node, hnode, ?_⟩
    apply except_bind_eq_ok.mpr ⟨q.path, hpath, ?_⟩
    apply except_bind_eq_ok.mpr ⟨q.whole, hwhole, ?_⟩
    exact except_bind_eq_ok.mpr ⟨q.startsWith, hstart, rfl⟩

/-- A locator without segments is empty. Any other one has the patterns of the segments that
are left, the last of which is compiled on its own. -/
theorem ofSegmentsWith_cases (h : ofSegmentsWith (compile settings) raw = .ok l) :
    (tidy raw = [] ∧ l = empty) ∨
    ∃ last q, (tidy raw).getLast? = some last ∧
      compileWith (compile settings) (tidy raw).dropLast last = .ok q ∧
      l = ⟨tidy raw, some q⟩ := by
  unfold ofSegmentsWith at h
  dsimp only at h
  split at h
  · rename_i hnone
    exact .inl ⟨List.getLast?_eq_none_iff.mp hnone, (Except.ok.inj h).symm⟩
  · rename_i last hlast
    obtain ⟨patterns, hpatterns, h⟩ := except_bind_eq_ok.mp h
    exact .inr ⟨last, patterns, hlast, hpatterns, (Except.ok.inj h).symm⟩

/-- Segments that compile one by one, and joined, make a locator. -/
theorem ofSegmentsWith_eq_ok {last : Text} (hlast : (tidy raw).getLast? = some last)
    (h : compileWith (compile settings) (tidy raw).dropLast last = .ok q) :
    ofSegmentsWith (compile settings) raw = .ok ⟨tidy raw, some q⟩ := by
  simp only [ofSegmentsWith, hlast, h]
  rfl

/-- A path that is not empty has a pattern. -/
theorem exists_of_compilePath {path : List Text} {o : Option Pattern} (hne : path ≠ [])
    (h : compilePath (compile settings) path = .ok o) :
    ∃ p, o = some p ∧ compile settings (joinSegments path) = .ok p := by
  have hempty : path.isEmpty = false := by simpa using hne
  simp only [compilePath, hempty, Bool.false_eq_true, if_false] at h
  cases hp : compile settings (joinSegments path) with
  | error e =>
      rw [hp] at h
      cases h
  | ok p =>
      rw [hp] at h
      exact ⟨p, (Except.ok.inj h).symm, rfl⟩

/-- What the pattern of a path is compiled from. -/
theorem compilePath_eq_some {path : List Text} {p : Pattern}
    (h : compilePath (compile settings) path = .ok (some p)) :
    path ≠ [] ∧ Pattern.ofSegments settings path = .ok p := by
  have hne : path ≠ [] := by
    rintro rfl
    cases h
  obtain ⟨p', hp', hcompile⟩ := exists_of_compilePath hne h
  obtain rfl := Option.some.inj hp'
  exact ⟨hne, hcompile⟩

/-- What the pattern of the last two segments is compiled from. -/
theorem compileStart_eq_some {path : List Text} {last : Text} {node p : Pattern}
    (h : compileStart (compile settings) path last node = .ok (some p)) :
    ∃ a, path.getLast? = some a ∧ Pattern.ofSegments settings [a, last] = .ok p := by
  unfold compileStart at h
  split at h
  · rename_i a ha
    split at h
    · obtain ⟨p', hp', h⟩ := except_bind_eq_ok.mp h
      refine ⟨a, ha, ?_⟩
      have h := Except.ok.inj h
      split at h
      · cases h
      · obtain rfl := Option.some.inj h
        exact hp'
    · cases h
  · cases h

/-- What the patterns of a locator are compiled from. -/
theorem ofSegments_cases (h : ofSegmentsWith (compile settings) raw = .ok l)
    (hq : l.patterns = some q) :
    ∃ last, l.last? = some last ∧ Pattern.ofSegments settings l.segments = .ok q.whole ∧
      (∀ p, q.path = some p → l.path ≠ [] ∧ Pattern.ofSegments settings l.path = .ok p) ∧
      ∀ p, q.startsWith = some p →
        ∃ a, l.path.getLast? = some a ∧ Pattern.ofSegments settings [a, last] = .ok p := by
  rcases ofSegmentsWith_cases h with ⟨-, rfl⟩ | ⟨last, q', hlast, hpatterns, rfl⟩
  · cases hq
  · obtain rfl := Option.some.inj hq
    obtain ⟨-, hpath, hwhole, hstart⟩ := compileWith_eq_ok_iff.mp hpatterns
    have hsegments : (tidy raw).dropLast ++ [last] = tidy raw :=
      List.dropLast_append_getLast? last hlast
    rw [hsegments] at hwhole
    refine ⟨last, hlast, hwhole, fun p hp => ?_, fun p hp => ?_⟩
    · exact compilePath_eq_some (hp ▸ hpath)
    · exact compileStart_eq_some (hp ▸ hstart)

end Locator

namespace Pattern
open Wildcard

/-- Joined segments are accepted in order if and only if no segment in front of another one
ends in a dangling backslash. So are the segments of a locator, its path, and its last two
segments. -/
theorem joined_segments_in_order_iff (segments : List Text)
    (hall : ∀ s ∈ segments, ∃ p, compile {} s = .ok p) :
    (∀ p, segments ≠ [] → ofSegments {} segments = .ok p →
      ((∀ t, p.accepts t = true ↔ InOrder segments t) ↔
        ∀ s ∈ segments.dropLast, dangles s = false)) ∧
    ∀ raw l q, Locator.ofSegments raw = .ok l → l.segments = segments → l.patterns = some q →
      ((∀ t, q.whole.accepts t = true ↔ InOrder segments t) ↔
        ∀ s ∈ segments.dropLast, dangles s = false) ∧
      (∀ p, q.path = some p → ((∀ t, p.accepts t = true ↔ InOrder segments.dropLast t) ↔
        ∀ s ∈ segments.dropLast.dropLast, dangles s = false)) ∧
      ∀ p, q.startsWith = some p →
        ∃ a b, segments.dropLast.getLast? = some a ∧ segments.getLast? = some b ∧
          ((∀ t, p.accepts t = true ↔ InOrder [a, b] t) ↔ dangles a = false) := by
  refine ⟨fun p hne h => accepts_ofSegments_iff hne hall h, ?_⟩
  rintro raw l q h rfl hq
  obtain ⟨last, hlast, hwhole, hpath, hstart⟩ := Locator.ofSegments_cases h hq
  have hne : l.segments ≠ [] := List.ne_nil_of_mem (List.mem_of_getLast? hlast)
  have hallPath : ∀ s ∈ l.path, ∃ p, compile {} s = .ok p :=
    fun s hs => hall s (List.dropLast_subset _ hs)
  refine ⟨accepts_ofSegments_iff hne hall hwhole, fun p hp => ?_, fun p hp => ?_⟩
  · obtain ⟨hne, hp⟩ := hpath p hp
    exact accepts_ofSegments_iff hne hallPath hp
  · obtain ⟨a, ha, hp⟩ := hstart p hp
    refine ⟨a, last, ha, hlast, ?_⟩
    have hpair : ∀ s ∈ [a, last], ∃ p, compile {} s = .ok p :=
      List.forall_mem_cons.mpr ⟨hallPath a (List.mem_of_getLast? ha),
        List.forall_mem_singleton.mpr (hall last (List.mem_of_getLast? hlast))⟩
    have h := accepts_ofSegments_iff (by simp) hpair hp
    simpa using h

theorem compile_dangling : ∀ s ∈ [['a', '\\'], ['b']], ∃ p, compile {} s = .ok p :=
  List.forall_mem_cons.mpr ⟨⟨_, rfl⟩, List.forall_mem_singleton.mpr ⟨_, rfl⟩⟩

theorem ofSegments_dangling : Locator.ofSegments [['a', '\\'], ['b']] =
    .ok ⟨[['a', '\\'], ['b']],
      some ⟨some ⟨['a', '\\'], .word ['a', '\\']⟩, ⟨['b'], .word ['b']⟩,
        ⟨['a', '\\', '*', 'b'], .word ['a', '*', 'b']⟩, none⟩⟩ := rfl

/-- The backslash of the first segment escapes the star between the two. -/
theorem joined_segments_escaped : (∀ s ∈ [['a', '\\'], ['b']], ∃ p, compile {} s = .ok p) ∧
    ∃ p, ofSegments {} [['a', '\\'], ['b']] = .ok p ∧
      InOrder [['a', '\\'], ['b']] ['a', '\\', 'b'] ∧ p.accepts ['a', '\\', 'b'] = false := by
  refine ⟨compile_dangling, _, rfl, ?_, by decide⟩
  exact ⟨['a', '\\'], [], ['b'], rfl, ⟨_, rfl, by decide⟩, ⟨_, rfl, by decide⟩⟩

/-- In order where nothing dangles, and not in order in a locator with a dangling segment. -/
theorem joined_segments_run_and_dangling :
    (∀ p, ofSegments {} [['a'], []] = .ok p →
      ∀ t, p.accepts t = true ↔ InOrder [['a'], []] t) ∧
    ∃ l q, Locator.ofSegments [['a', '\\'], ['b']] = .ok l ∧ l.patterns = some q ∧
      ¬ ∀ t, q.whole.accepts t = true ↔ InOrder l.segments t := by
  constructor
  · intro p hp
    have hall : ∀ s ∈ [['a'], []], ∃ p, compile {} s = .ok p :=
      List.forall_mem_cons.mpr ⟨⟨_, rfl⟩, List.forall_mem_singleton.mpr ⟨_, rfl⟩⟩
    exact ((joined_segments_in_order_iff _ hall).1 p (by simp) hp).mpr (by decide)
  · refine ⟨_, _, ofSegments_dangling, rfl, ?_⟩
    intro hlaw
    have hlocator :=
      (joined_segments_in_order_iff _ compile_dangling).2 _ _ _ ofSegments_dangling
      rfl rfl
    exact absurd (hlocator.1.mp hlaw ['a', '\\'] (by decide)) (by decide)

end Pattern
end ControlSearch
