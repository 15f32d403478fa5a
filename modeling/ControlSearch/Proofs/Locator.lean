import ControlSearch.Proofs.Pattern.Segments

/-!
# How locators are made

The patterns of a locator are compiled, or taken from a cache that has compiled them before.
Either way they are what compilation with one set of settings gives: a cache keeps patterns
under the specs that they were compiled from, whatever it gives up.
-/
namespace ControlSearch

namespace PatternCache

variable {c : PatternCache} {spec : Text} {p : Pattern}

/-- Every pattern is kept under the spec that it was compiled from, with the settings of the
cache. -/
def IsSound (c : PatternCache) : Prop :=
  ∀ spec p, (spec, p) ∈ c.entries → Pattern.compile c.settings spec = .ok p

theorem isSound_empty (settings : PatternSettings) : (empty settings).IsSound := by
  simp [IsSound, empty]

theorem isSound_clear (c : PatternCache) : c.clear.IsSound := isSound_empty c.settings

theorem IsSound.compile_of_find? (h : c.IsSound) (hp : c.find? spec = some p) :
    Pattern.compile c.settings spec = .ok p := by
  obtain ⟨front, back, hentries, -⟩ := List.lookup_eq_some_iff.mp hp
  apply h spec p
  simp [hentries]

theorem madeRoom_sublist (c : PatternCache) (choice : Nat) :
    (c.madeRoom choice).Sublist c.entries := by
  unfold madeRoom
  split
  · exact List.eraseIdx_sublist _ _
  · exact List.Sublist.refl _

/-- A sound cache answers as compilation does, and stays sound. -/
theorem IsSound.get (h : c.IsSound) (choice : Nat) (spec : Text) :
    (c.get choice spec).1 = Pattern.compile c.settings spec ∧
      (c.get choice spec).2.IsSound ∧ (c.get choice spec).2.settings = c.settings := by
  unfold PatternCache.get
  cases hfind : c.find? spec with
  | some p => exact ⟨(h.compile_of_find? hfind).symm, h, rfl⟩
  | none =>
      cases hcompile : Pattern.compile c.settings spec with
      | error e => exact ⟨rfl, h, rfl⟩
      | ok p =>
          refine ⟨rfl, ?_, rfl⟩
          intro spec' p' hmem
          rcases List.mem_cons.mp hmem with heq | hmem
          · cases heq
            exact hcompile
          · exact h spec' p' ((c.madeRoom_sublist choice).subset hmem)

end PatternCache

namespace Locator

/-- From every sound cache a computation gives what another one gives without a cache, and the
cache stays sound. -/
def Agrees {α : Type} (settings : PatternSettings) (x : ExceptT Error (StateM PatternCache) α)
    (y : Except Error α) : Prop :=
  ∀ c : PatternCache, c.IsSound → c.settings = settings →
    (x.run.run c).1 = y ∧ (x.run.run c).2.IsSound ∧ (x.run.run c).2.settings = settings

namespace Agrees

variable {α β : Type} {settings : PatternSettings} {x : ExceptT Error (StateM PatternCache) α}
  {y : Except Error α}

theorem pure (a : α) : Agrees settings (pure a) (pure a) := fun _ hc hs => ⟨rfl, hc, hs⟩

theorem bind {f : α → ExceptT Error (StateM PatternCache) β} {g : α → Except Error β}
    (h : Agrees settings x y) (hf : ∀ a, Agrees settings (f a) (g a)) :
    Agrees settings (x >>= f) (y >>= g) := by
  intro c hc hs
  obtain ⟨hy, hsound, hsettings⟩ := h c hc hs
  rcases hx : x.run.run c with ⟨e | a, c'⟩
  · rw [hx] at hy hsound hsettings
    subst hy
    have hrun : (x >>= f).run.run c = (.error e, c') := by
      rw [ExceptT.run_bind, StateT.run_bind, hx]
      rfl
    rw [hrun]
    exact ⟨rfl, hsound, hsettings⟩
  · rw [hx] at hy hsound hsettings
    subst hy
    have hrun : (x >>= f).run.run c = (f a).run.run c' := by
      rw [ExceptT.run_bind, StateT.run_bind, hx]
      rfl
    rw [hrun]
    exact hf a c' hsound hsettings

theorem map {f : α → β} (h : Agrees settings x y) : Agrees settings (f <$> x) (f <$> y) := by
  have hbind := h.bind (f := fun a => Pure.pure (f a)) fun a => Agrees.pure (f a)
  rwa [bind_pure_comp, bind_pure_comp] at hbind

/-- A pattern from a cache is the one that compilation gives. -/
theorem fetch (choices : Nat → Nat) (spec : Text) :
    Agrees settings (fetch choices spec) (Pattern.compile settings spec) := by
  intro c hc hs
  subst hs
  exact hc.get (choices c.misses) spec

theorem compilePath (choices : Nat → Nat) (path : List Text) :
    Agrees settings (compilePath (Locator.fetch choices) path)
      (compilePath (Pattern.compile settings) path) := by
  unfold Locator.compilePath
  split
  · exact .pure none
  · exact (fetch choices _).map

theorem compileStart (choices : Nat → Nat) (path : List Text) (last : Text) (node : Pattern) :
    Agrees settings (compileStart (Locator.fetch choices) path last node)
      (compileStart (Pattern.compile settings) path last node) := by
  unfold Locator.compileStart
  split
  · split
    · exact (fetch choices _).bind fun p => .pure _
    · exact .pure none
  · exact .pure none

theorem compileWith (choices : Nat → Nat) (path : List Text) (last : Text) :
    Agrees settings (compileWith (Locator.fetch choices) path last)
      (compileWith (Pattern.compile settings) path last) := by
  apply (fetch choices last).bind
  intro node
  apply (compilePath choices path).bind
  intro pathPattern
  apply (fetch choices _).bind
  intro whole
  apply (compileStart choices path last node).bind
  intro startsWith
  exact .pure _

/-- Locators whose patterns come from a cache are those whose patterns are compiled. -/
theorem ofSegmentsWith (choices : Nat → Nat) (raw : List Text) :
    Agrees settings (ofSegmentsWith (Locator.fetch choices) raw)
      (ofSegmentsWith (Pattern.compile settings) raw) := by
  unfold Locator.ofSegmentsWith
  dsimp only
  split
  · exact .pure empty
  · apply (compileWith choices _ _).bind
    intro patterns
    exact .pure _

end Agrees

/-- A locator comes of some segments, with patterns compiled with given settings. -/
def IsMade (settings : PatternSettings) (l : Locator) : Prop :=
  ∃ raw, ofSegmentsWith (Pattern.compile settings) raw = .ok l

variable {settings : PatternSettings} {raw : List Text} {l : Locator}
  {q : Patterns} {p : Pattern}

/-! ## What the patterns are compiled from -/

/-- A locator with patterns has the segments that are left, the last of which is compiled on
its own. -/
theorem exists_compileWith (h : Locator.ofSegmentsWith (Pattern.compile settings) raw = .ok l)
    (hq : l.patterns = some q) : l.segments = tidy raw ∧
    ∃ last, (tidy raw).getLast? = some last ∧
      compileWith (Pattern.compile settings) (tidy raw).dropLast last = .ok q := by
  rcases ofSegmentsWith_cases h with ⟨-, rfl⟩ | ⟨last, q', hlast, hpatterns, rfl⟩
  · cases hq
  · obtain rfl := Option.some.inj hq
    exact ⟨rfl, last, hlast, hpatterns⟩

theorem isMade_ofSegments (h : Locator.ofSegments raw = .ok l) : l.IsMade {} := ⟨raw, h⟩

theorem isMade_ofText {t : Text} (h : Locator.ofText t = .ok l) : l.IsMade {} := ⟨split t, h⟩

namespace IsMade

/-- A locator has patterns unless it has no segments. -/
theorem exists_patterns (h : l.IsMade settings) (hne : l.isEmpty = false) :
    ∃ q, l.patterns = some q := by
  obtain ⟨raw, h⟩ := h
  rcases ofSegmentsWith_cases h with ⟨-, rfl⟩ | ⟨last, q, -, -, rfl⟩
  · cases hne
  · exact ⟨q, rfl⟩

/-- The pattern of the path is compiled from its spec. -/
theorem compile_path (h : l.IsMade settings) (hq : l.patterns = some q)
    (hp : q.path = some p) :
    Pattern.compile settings p.spec = .ok p := by
  obtain ⟨raw, h⟩ := h
  obtain ⟨last, -, -, hpath, -⟩ := ofSegments_cases h hq
  obtain ⟨-, hcompile⟩ := hpath p hp
  rw [Pattern.ofSegments] at hcompile
  rwa [Pattern.spec_of_compile hcompile]

/-- The pattern of the last segment is compiled from it. -/
theorem compile_node (h : l.IsMade settings) (hq : l.patterns = some q) :
    ∃ last, Pattern.compile settings last = .ok q.node := by
  obtain ⟨raw, h⟩ := h
  obtain ⟨-, last, -, hcompile⟩ := exists_compileWith h hq
  exact ⟨last, (compileWith_eq_ok_iff.mp hcompile).1⟩

/-- The pattern of all segments is compiled from their joined spec. -/
theorem compile_whole (h : l.IsMade settings) (hq : l.patterns = some q) :
    Pattern.compile settings (Pattern.joinSegments l.segments) = .ok q.whole := by
  obtain ⟨raw, h⟩ := h
  obtain ⟨-, -, hwhole, -⟩ := ofSegments_cases h hq
  exact hwhole

end IsMade

end Locator
end ControlSearch
