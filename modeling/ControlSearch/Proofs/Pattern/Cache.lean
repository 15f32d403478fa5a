import Mathlib.Data.Finset.Card
import ControlSearch.Proofs.Locator

/-!
# Caches in use

A cache may be asked for patterns and for whole locators, and be cleared, any number of times.
Whatever it gives up in between, it answers as compilation does. Its counts tell how often it
was asked, and as long as there is room for all that was asked for, how many different specs
that was.
-/
namespace ControlSearch

namespace PatternCache

/-- A call to a cache. A lookup comes with the choice of what to give up for it. -/
inductive Call where
  | get (choice : Nat) (spec : Text)
  | getSegments (choice : Nat) (segments : List Text)
  | clear

/-- The cache behind a call. -/
def Call.run (c : PatternCache) : Call → PatternCache
  | .get choice spec => (c.get choice spec).2
  | .getSegments choice segments => (c.getSegments choice segments).2
  | .clear => c.clear

variable {c : PatternCache} {settings : PatternSettings}

/-! ## What a cache answers -/

/-- What a cache is used for: it is called, or a locator takes its patterns from it. -/
inductive Use where
  | ask (call : Call)
  | locator (choices : Nat → Nat) (raw : Text)

def Use.run (c : PatternCache) : Use → PatternCache
  | .ask call => call.run c
  | .locator choices raw => (Locator.ofTextCached choices raw c).2

/-- A new cache after it was used. -/
def used (settings : PatternSettings) (uses : List Use) : PatternCache :=
  uses.foldl Use.run (empty settings)

/-- Every pattern is the one that the settings give for its spec. -/
def Serves (settings : PatternSettings) (c : PatternCache) : Prop :=
  c.IsSound ∧ c.settings = settings

theorem Serves.get (h : c.Serves settings) (choice : Nat) (spec : Text) :
    (c.get choice spec).2.Serves settings := by
  obtain ⟨hsound, rfl⟩ := h
  exact (hsound.get choice spec).2

theorem Serves.call (h : c.Serves settings) (call : Call) : (call.run c).Serves settings := by
  cases call with
  | get choice spec => exact h.get choice spec
  | getSegments choice segments => exact h.get choice (Pattern.joinSegments segments)
  | clear => exact ⟨isSound_clear c, h.2⟩

theorem Serves.use (h : c.Serves settings) (use : Use) : (use.run c).Serves settings := by
  cases use with
  | ask call => exact h.call call
  | locator choices raw => exact (Locator.Agrees.ofSegmentsWith choices _ c h.1 h.2).2

theorem serves_used (settings : PatternSettings) (uses : List Use) :
    (used settings uses).Serves settings := by
  refine List.foldlRecOn (motive := Serves settings) uses _ ⟨isSound_empty settings, rfl⟩ ?_
  intro c h use _
  exact h.use use

/-- However a cache was used and whatever it gave up, it gives for a spec what compilation
with its settings gives, be it a pattern or an error. With the default settings it gives the
locators that are made without a cache. -/
theorem answers_as_compilation {uses : List Use} (h : used settings uses = c) :
    c.settings = settings ∧
    (∀ choice spec, (c.get choice spec).1 = Pattern.compile c.settings spec) ∧
    (settings = {} → ∀ choices raw,
      (Locator.ofTextCached choices raw c).1 = Locator.ofText raw) := by
  obtain ⟨hsound, hsettings⟩ : c.Serves settings := h ▸ serves_used settings uses
  refine ⟨hsettings, ?_, ?_⟩
  · exact fun choice spec => (hsound.get choice spec).1
  · rintro rfl choices raw
    exact (Locator.Agrees.ofSegmentsWith choices _ c hsound hsettings).1

/-- A pattern that was given up for another one is compiled again, and a locator is the same
whether or not its patterns were kept from before. -/
theorem answers_as_compilation_again :
    (∃ c, used { cacheCapacity := 1 } [.ask (.get 0 ['a']), .ask (.get 0 ['b'])] = c ∧
      c.find? ['a'] = none ∧
      (c.get 0 ['a']).1 = Pattern.compile { cacheCapacity := 1 } ['a']) ∧
    ∃ c, used {} [.locator (fun _ => 0) ['a']] = c ∧ c.size = 1 ∧
      (Locator.ofTextCached (fun _ => 0) ['a', '>', 'b'] c).1 =
        Locator.ofText ['a', '>', 'b'] := by
  constructor
  · obtain ⟨hsettings, hget, -⟩ := answers_as_compilation (c := used { cacheCapacity := 1 }
      [.ask (.get 0 ['a']), .ask (.get 0 ['b'])]) rfl
    exact ⟨_, rfl, by decide, hsettings ▸ hget 0 ['a']⟩
  · obtain ⟨-, -, hlocator⟩ :=
      answers_as_compilation (c := used {} [.locator (fun _ => 0) ['a']]) rfl
    exact ⟨_, rfl, by decide, hlocator rfl _ _⟩

/-! ## What a cache counts -/

/-- The specs under which patterns are kept. -/
def specs (c : PatternCache) : List Text := c.entries.map (·.1)

theorem length_specs (c : PatternCache) : c.specs.length = c.size := List.length_map _

theorem find?_eq_none_iff {spec : Text} : c.find? spec = none ↔ spec ∉ c.specs := by
  simp only [find?, specs, List.lookup_eq_none_iff, List.mem_map, Prod.exists, bne_iff_ne]
  constructor
  · rintro h ⟨a, p, hmem, rfl⟩
    exact h (a, p) hmem rfl
  · rintro h ⟨a, p⟩ hmem rfl
    exact h ⟨spec, p, hmem, rfl⟩

/-- There is room for one more entry, even where none may be kept. -/
theorem length_madeRoom_lt (h : c.size ≤ max c.settings.cacheCapacity 1) (choice : Nat) :
    (c.madeRoom choice).length < max c.settings.cacheCapacity 1 := by
  unfold madeRoom
  split
  · by_cases hsize : c.size = 0
    · have hnil : c.entries = [] := List.length_eq_zero_iff.mp hsize
      simp [hnil]
    · have hlt : choice % c.size < c.entries.length := Nat.mod_lt _ (by omega)
      have hlength : c.entries.length = c.size := rfl
      rw [List.length_eraseIdx_of_lt hlt]
      omega
  · have hlength : c.entries.length = c.size := rfl
    omega

/-- A lookup that succeeds has found a pattern that was kept, or has compiled and kept one. -/
theorem get_cases {choice : Nat} {spec : Text} {p : Pattern} {c' : PatternCache}
    (h : c.get choice spec = (.ok p, c')) :
    (spec ∈ c.specs ∧ c' = { c with hits := c.hits + 1 }) ∨
    (spec ∉ c.specs ∧
      c' = { c with entries := (spec, p) :: c.madeRoom choice, misses := c.misses + 1 }) := by
  unfold get at h
  cases hfind : c.find? spec with
  | some q =>
      have hmem : spec ∈ c.specs := by
        by_contra hnot
        simp [find?_eq_none_iff.mpr hnot] at hfind
      simp only [hfind] at h
      exact .inl ⟨hmem, (Prod.mk.inj h).2.symm⟩
  | none =>
      simp only [hfind] at h
      split at h
      · cases h
      · obtain ⟨hp, rfl⟩ := Prod.mk.inj h
        obtain rfl := Except.ok.inj hp
        exact .inr ⟨find?_eq_none_iff.mp hfind, rfl⟩

/-- A lookup that fails leaves everything as it was, the counts too. -/
theorem eq_of_get_eq_error {choice : Nat} {spec : Text} {e : Error} {c' : PatternCache}
    (h : c.get choice spec = (.error e, c')) : c' = c := by
  unfold get at h
  split at h
  · cases h
  · split at h
    · exact (Prod.mk.inj h).2.symm
    · cases h

/-- A cache and the specs that lookups have found in it or compiled for it since it was
cleared, the last one first. -/
structure Session where
  cache : PatternCache
  found : List Text

namespace Session

/-- The session behind a call. -/
def run (s : Session) (call : Call) : Session where
  cache := call.run s.cache
  found := match call with
    | .get choice spec =>
        if (s.cache.get choice spec).1.isOk then spec :: s.found else s.found
    | .getSegments choice segments =>
      if (s.cache.getSegments choice segments).1.isOk then
        Pattern.joinSegments segments :: s.found
      else s.found
    | .clear => []

end Session

/-- A new cache, with what was found since it was last cleared, after some calls. -/
def session (settings : PatternSettings) (calls : List Call) : Session :=
  calls.foldl Session.run ⟨empty settings, []⟩

/-- What the counts of a cache say about the specs that were found. -/
structure Accounts (found : List Text) (c : PatternCache) : Prop where
  nodup : c.specs.Nodup
  size_le : c.size ≤ max c.settings.cacheCapacity 1
  total : c.hits + c.misses = found.length
  size_le_misses : c.size ≤ c.misses
  subset : c.specs ⊆ found
  /-- As long as there was room, nothing was given up. -/
  complete : found.toFinset.card ≤ c.settings.cacheCapacity →
    found ⊆ c.specs ∧ c.misses = found.toFinset.card

namespace Accounts

variable {found : List Text} {spec : Text} {p : Pattern} {c' : PatternCache} {choice : Nat}

theorem empty (settings : PatternSettings) : Accounts [] (PatternCache.empty settings) := by
  constructor <;> simp [PatternCache.empty, specs, size]

theorem hit (h : Accounts found c) (hspec : spec ∈ c.specs) :
    Accounts (spec :: found) { c with hits := c.hits + 1 } := by
  have hset : (spec :: found).toFinset = found.toFinset := by
    simpa using h.subset hspec
  have htotal := h.total
  refine ⟨h.nodup, h.size_le, by simp; omega, h.size_le_misses, ?_, ?_⟩
  · exact List.Subset.trans h.subset (List.subset_cons_self _ _)
  · rw [hset]
    intro hcard
    obtain ⟨hfound, hmisses⟩ := h.complete hcard
    exact ⟨List.cons_subset.mpr ⟨hspec, hfound⟩, hmisses⟩

theorem miss (h : Accounts found c) (hspec : spec ∉ c.specs) : Accounts (spec :: found)
    { c with entries := (spec, p) :: c.madeRoom choice, misses := c.misses + 1 } := by
  have hsub : ((c.madeRoom choice).map (·.1)).Sublist c.specs :=
    (c.madeRoom_sublist choice).map _
  have hlength : (c.madeRoom choice).length ≤ c.size := (c.madeRoom_sublist choice).length_le
  have htotal := h.total
  have hmisses := h.size_le_misses
  constructor
  · exact List.nodup_cons.mpr ⟨fun hmem => hspec (hsub.subset hmem), h.nodup.sublist hsub⟩
  · exact length_madeRoom_lt h.size_le choice
  · simp only [List.length_cons]
    omega
  · exact Nat.succ_le_succ (hlength.trans hmisses)
  · exact List.cons_subset_cons spec (List.Subset.trans hsub.subset h.subset)
  · intro (hcard : (spec :: found).toFinset.card ≤ c.settings.cacheCapacity)
    have hle : found.toFinset.card ≤ (spec :: found).toFinset.card := by
      rw [List.toFinset_cons]
      exact Finset.card_le_card (Finset.subset_insert _ _)
    obtain ⟨hfound, hcount⟩ := h.complete (hle.trans hcard)
    have hnew : spec ∉ found.toFinset := by
      rw [List.mem_toFinset]
      exact fun hmem => hspec (hfound hmem)
    rw [List.toFinset_cons, Finset.card_insert_of_notMem hnew] at hcard ⊢
    -- what is kept are the specs found so far, so there is room for one more
    have hroom : c.size < c.settings.cacheCapacity := by
      have hkept : c.specs.toFinset ⊆ found.toFinset := by
        intro x hx
        exact List.mem_toFinset.mpr (h.subset (List.mem_toFinset.mp hx))
      have := Finset.card_le_card hkept
      rw [List.toFinset_card_of_nodup h.nodup, length_specs] at this
      omega
    have hall : c.madeRoom choice = c.entries := if_neg (by omega)
    exact ⟨List.cons_subset_cons spec (by rw [hall]; exact hfound), by rw [hcount]⟩

theorem get (h : Accounts found c) (hget : c.get choice spec = (.ok p, c')) :
    Accounts (spec :: found) c' := by
  rcases get_cases hget with ⟨hspec, rfl⟩ | ⟨hspec, rfl⟩
  · exact h.hit hspec
  · exact h.miss hspec

/-- As long as there was room, as many patterns are kept as specs were found. -/
theorem size_eq (h : Accounts found c)
    (hcard : found.toFinset.card ≤ c.settings.cacheCapacity) :
    c.size = found.toFinset.card := by
  have hset : c.specs.toFinset = found.toFinset := by
    ext spec
    simp only [List.mem_toFinset]
    exact ⟨fun hspec => h.subset hspec, fun hspec => (h.complete hcard).1 hspec⟩
  rw [← hset, List.toFinset_card_of_nodup h.nodup, length_specs]

end Accounts

/-! ## What calls preserve -/

theorem Accounts.run {s : Session} (h : Accounts s.found s.cache) (call : Call) :
    Accounts (s.run call).found (s.run call).cache := by
  have hlookup {choice : Nat} {spec : Text} : Accounts
      (if (s.cache.get choice spec).1.isOk then spec :: s.found else s.found)
      (s.cache.get choice spec).2 := by
    rcases hget : s.cache.get choice spec with ⟨e | p, c'⟩
    · rw [eq_of_get_eq_error hget]
      exact h
    · exact h.get hget
  cases call with
  | get choice spec => exact hlookup
  | getSegments choice segments => exact hlookup
  | clear => exact .empty s.cache.settings

theorem serves_session (settings : PatternSettings) (calls : List Call) :
    (session settings calls).cache.Serves settings := by
  refine List.foldlRecOn (motive := fun s : Session => s.cache.Serves settings) calls _
    ⟨isSound_empty settings, rfl⟩ ?_
  intro s h call _
  exact h.call call

theorem accounts_session (settings : PatternSettings) (calls : List Call) :
    Accounts (session settings calls).found (session settings calls).cache := by
  refine List.foldlRecOn (motive := fun s : Session => Accounts s.found s.cache) calls _
    (.empty settings) ?_
  intro s h call _
  exact h.run call

/-- What does not compile changes nothing. -/
theorem Serves.run_get_of_error {s : Session} (h : s.cache.Serves settings)
    {spec : Text} {e : Error} (he : Pattern.compile settings spec = .error e) (choice : Nat) :
    s.run (.get choice spec) = s := by
  obtain ⟨hsound, rfl⟩ := h
  have hanswer := (hsound.get choice spec).1
  rcases hget : s.cache.get choice spec with ⟨answer, c'⟩
  rw [hget, he] at hanswer
  subst hanswer
  obtain rfl := eq_of_get_eq_error hget
  simp [Session.run, Call.run, hget, Except.isOk, Except.toBool]

/-- Over all calls to a cache, whatever it gives up: it keeps no more patterns than it may,
but one at least if it may keep none; it counts the lookups that succeeded since it was
cleared, and kept no more patterns than it compiled; what does not compile changes nothing;
and as long as no more different specs were found than it may keep, it has compiled and keeps
one pattern for each of them. -/
theorem counts_of_calls {calls : List Call} {found : List Text}
    (h : session settings calls = ⟨c, found⟩) :
    c.size ≤ max settings.cacheCapacity 1 ∧
    c.hits + c.misses = found.length ∧
    c.size ≤ c.misses ∧
    (∀ choice spec e, Pattern.compile settings spec = .error e →
      Session.run ⟨c, found⟩ (.get choice spec) = ⟨c, found⟩) ∧
    (∀ choice segments e, Pattern.ofSegments settings segments = .error e →
      Session.run ⟨c, found⟩ (.getSegments choice segments) = ⟨c, found⟩) ∧
    (found.toFinset.card ≤ settings.cacheCapacity →
      c.misses = found.toFinset.card ∧ c.size = found.toFinset.card) := by
  have hserves := serves_session settings calls
  have haccounts := accounts_session settings calls
  rw [h] at hserves haccounts
  obtain rfl : c.settings = settings := hserves.2
  refine ⟨haccounts.size_le, haccounts.total, haccounts.size_le_misses, ?_, ?_, ?_⟩
  · exact fun choice spec e he => hserves.run_get_of_error he choice
  · exact fun choice segments e he => hserves.run_get_of_error he choice
  · exact fun hcard => ⟨(haccounts.complete hcard).2, haccounts.size_eq hcard⟩

/-- Where automata may not take any bytes, wildcards do not compile. -/
theorem compile_anyChar_zero : Pattern.compile { cacheCapacity := 2, sizeLimit := 0 } ['?'] =
    .error (.patternSyntax ['?'] (.unbuildable "exceeded the automaton size limit" 0)) := by
  have hwithin (r : Regex) : r.isWithin 0 = false := by
    simp [Regex.isWithin, Regex.Size.fixedBytes]
  simp only [Pattern.compile, Pattern.automaton?, hwithin]
  rfl

/-- With room for one pattern, the second spec takes the place of the first, which is compiled
again. With room for two, each is compiled once, and a third that does not compile changes
nothing. -/
theorem counts_of_calls_in_turn :
    (∃ c, session { cacheCapacity := 1 }
          [.get 0 ['a'], .get 0 ['b'], .getSegments 0 [['a']]] =
        ⟨c, [['a'], ['b'], ['a']]⟩ ∧
      c.size ≤ 1 ∧ c.hits + c.misses = 3 ∧ c.misses = 3) ∧
    ∃ c, session { cacheCapacity := 2, sizeLimit := 0 }
          [.get 0 ['c'], .clear, .get 0 ['a'], .get 0 ['b'], .getSegments 0 [['a']]] =
        ⟨c, [['a'], ['b'], ['a']]⟩ ∧
      (c.misses = 2 ∧ c.size = 2) ∧
      Session.run ⟨c, [['a'], ['b'], ['a']]⟩ (.get 0 ['?']) = ⟨c, [['a'], ['b'], ['a']]⟩ := by
  constructor
  · obtain ⟨c, h, hmisses⟩ : ∃ c, session { cacheCapacity := 1 }
        [.get 0 ['a'], .get 0 ['b'], .getSegments 0 [['a']]] =
          ⟨c, [['a'], ['b'], ['a']]⟩ ∧ c.misses = 3 := ⟨_, rfl, by decide⟩
    obtain ⟨hsize, htotal, -⟩ := counts_of_calls h
    exact ⟨c, h, hsize, htotal, hmisses⟩
  · obtain ⟨c, h⟩ : ∃ c, session { cacheCapacity := 2, sizeLimit := 0 }
        [.get 0 ['c'], .clear, .get 0 ['a'], .get 0 ['b'], .getSegments 0 [['a']]] =
          ⟨c, [['a'], ['b'], ['a']]⟩ := ⟨_, rfl⟩
    obtain ⟨-, -, -, hunchanged, -, hcounts⟩ := counts_of_calls h
    exact ⟨c, h, hcounts (by decide), hunchanged 0 ['?'] _ compile_anyChar_zero⟩

end PatternCache
end ControlSearch
