import ControlSearch.Proofs.Search.PathGate
import ControlSearch.Proofs.Search.Scan

/-!
# Searches list best hits

A search lists an entry for each candidate that any clue hits, and for nothing else. The entry
is the best hit of the candidate, and of equally good hits the one whose clue comes first.
Together with the order of listings this leaves one list, the one that the search returns.
-/
namespace ControlSearch

/-- The elements that can be seen and qualify for a capability. -/
theorem StaticPage.mem_visible_iff {page : StaticPage} {c : Capability} {x : ElementId} :
    x ∈ page.visible c ↔ ∃ placed, page.elements[x]? = some placed ∧
      placed.spec.visible = true ∧ c.isOffered placed.spec.capabilities = true := by
  simp only [visible, List.mem_map, List.mem_filter, Bool.and_eq_true]
  constructor
  · rintro ⟨⟨placed, y⟩, ⟨hmem, hoffers⟩, rfl⟩
    exact ⟨placed, List.mk_mem_zipIdx_iff_getElem?.mp hmem, hoffers⟩
  · rintro ⟨placed, hplaced, hoffers⟩
    exact ⟨(placed, x), ⟨List.mk_mem_zipIdx_iff_getElem?.mpr hplaced, hoffers⟩, rfl⟩

namespace SearchTerm

variable (term : SearchTerm) (page : Page)

/-- An entry is the best hit of an element: that of a clue such that no hit of the clues in
front of it is as good and none of those behind it is better. -/
def IsBestHit (clues : List Clue) (x : ElementId) (e : Entry) : Prop :=
  ∃ front clue back, clues = front ++ clue :: back ∧ term.hit? page x clue = some e ∧
    (∀ k ∈ front, ∀ h, term.hit? page x k = some h → e.cost < h.cost) ∧
    ∀ k ∈ back, ∀ h, term.hit? page x k = some h → e.cost ≤ h.cost

variable {term page} {clue : Clue} {clues : List Clue} {x : ElementId} {e e' : Entry}

theorem isBestHit_nil : ¬term.IsBestHit page [] x e := by
  rintro ⟨front, clue, back, hclues, -⟩
  simp at hclues

theorem isBestHit_cons : term.IsBestHit page (clue :: clues) x e ↔
    (term.hit? page x clue = some e ∧
      ∀ k ∈ clues, ∀ h, term.hit? page x k = some h → e.cost ≤ h.cost) ∨
    (term.IsBestHit page clues x e ∧ ∀ h, term.hit? page x clue = some h →
      e.cost < h.cost) := by
  constructor
  · rintro ⟨front, k, back, hclues, hit, hfront, hback⟩
    cases front with
    | nil =>
        obtain ⟨rfl, rfl⟩ := List.cons_eq_cons.mp hclues
        exact .inl ⟨hit, hback⟩
    | cons k' front =>
        obtain ⟨rfl, rfl⟩ := List.cons_eq_cons.mp hclues
        refine .inr ⟨⟨front, k, back, rfl, hit, ?_, hback⟩, hfront _ List.mem_cons_self⟩
        exact fun j hj => hfront j (List.mem_cons_of_mem _ hj)
  · rintro (⟨hit, hback⟩ | ⟨⟨front, k, back, rfl, hit, hfront, hback⟩, hfirst⟩)
    · exact ⟨[], clue, clues, rfl, hit, by simp, hback⟩
    · refine ⟨clue :: front, k, back, rfl, hit, ?_, hback⟩
      intro j hj
      rcases List.mem_cons.mp hj with rfl | hj
      · exact hfirst
      · exact hfront j hj

/-- The best hit is the first one of least cost. -/
theorem argmin_hits_eq_some_iff :
    (term.hits page clues x).argmin Entry.cost = some e ↔ term.IsBestHit page clues x e := by
  induction clues generalizing e with
  | nil => simp [hits, isBestHit_nil]
  | cons clue clues ih =>
      rw [isBestHit_cons, ← ih]
      cases hhit : term.hit? page x clue with
      | none => simp [hits, hhit]
      | some h =>
          have hhits : term.hits page (clue :: clues) x = h :: term.hits page clues x := by
            simp [hits, hhit]
          have hall : (∀ h' ∈ term.hits page clues x, h.cost ≤ h'.cost) ↔
              ∀ k ∈ clues, ∀ h', term.hit? page x k = some h' → h.cost ≤ h'.cost := by
            simp only [hits, List.mem_filterMap]
            constructor
            · exact fun hle k hk h' hh' => hle h' ⟨k, hk, hh'⟩
            · rintro hle h' ⟨k, hk, hh'⟩
              exact hle k hk h' hh'
          rw [hhits, argmin_cost_cons_iff, hall]
          constructor
          · rintro (⟨rfl, hle⟩ | ⟨hmin, hlt⟩)
            · exact .inl ⟨rfl, hle⟩
            · refine .inr ⟨hmin, ?_⟩
              rintro h' heq
              obtain rfl := Option.some.inj heq
              exact hlt
          · rintro (⟨heq, hle⟩ | ⟨hmin, hlt⟩)
            · obtain rfl := Option.some.inj heq
              exact .inl ⟨rfl, hle⟩
            · exact .inr ⟨hmin, hlt h rfl⟩

theorem IsBestHit.unique (h : term.IsBestHit page clues x e)
    (h' : term.IsBestHit page clues x e') :
    e = e' := by
  rw [← argmin_hits_eq_some_iff] at h h'
  exact Option.some.inj (h.symm.trans h')

theorem IsBestHit.element_eq (h : term.IsBestHit page clues x e) : e.element = x := by
  obtain ⟨front, clue, back, -, hit, -⟩ := h
  exact element_of_hit? hit

/-- An element has a best hit if any clue scores it. -/
theorem exists_isBestHit_iff : (∃ e, term.IsBestHit page clues x e) ↔
    ∃ clue ∈ clues, (term.score? page x clue).isSome = true := by
  simp only [← argmin_hits_eq_some_iff, ← Option.isSome_iff_exists, Option.isSome_iff_ne_none]
  simp [List.argmin_eq_none, hits, hit?]

/-- Nothing is hit where the path was searched in vain. -/
theorem not_isBestHit_of_notFound (h : term.pathSpan = some .notFound) :
    ¬term.IsBestHit page clues x e := by
  intro hbest
  obtain ⟨clue, -, hscore⟩ := exists_isBestHit_iff.mp ⟨e, hbest⟩
  simp [score?, h] at hscore

end SearchTerm

/-- A list shows the best hit of every candidate that has one, each once and in the order of
listings. -/
structure IsListing (term : SearchTerm) (page : StaticPage) (c : Capability)
    (found : List Entry) :
    Prop where
  listed_iff : ∀ x, (∃ e ∈ found, e.element = x) ↔
    (∃ placed, page.elements[x]? = some placed ∧ placed.spec.visible = true ∧
      c.isOffered placed.spec.capabilities = true) ∧
    ∃ clue ∈ Clue.forCapability c, (term.score? page.toPage x clue).isSome = true
  best : ∀ e ∈ found, term.IsBestHit page.toPage (Clue.forCapability c) e.element e
  once : (found.map (·.element)).Nodup
  ascending : found.Pairwise fun a b => a.place < b.place

/-- There is no other listing. -/
theorem IsListing.unique {term : SearchTerm} {page : StaticPage} {c : Capability}
    {found found' : List Entry} (h : IsListing term page c found)
    (h' : IsListing term page c found') :
    found = found' := by
  have hsub {es es' : List Entry} (hes : IsListing term page c es)
      (hes' : IsListing term page c es') {e : Entry} (he : e ∈ es) : e ∈ es' := by
    obtain ⟨e', he', heq⟩ :=
      (hes'.listed_iff e.element).mpr ((hes.listed_iff _).mp ⟨e, he, rfl⟩)
    have hbest' := hes'.best e' he'
    rw [heq] at hbest'
    rwa [(hes.best e he).unique hbest']
  have hperm : found.Perm found' := by
    apply (List.perm_ext_iff_of_nodup (List.Nodup.of_map _ h.once)
      (List.Nodup.of_map _ h'.once)).mpr
    exact fun e => ⟨hsub h h', hsub h' h⟩
  exact Entry.eq_of_perm hperm h.ascending h'.ascending

namespace Page

variable {page : Page} {c : Capability} {l : Locator} {q : Locator.Patterns} {e : Entry}

/-- What a search lists are the best hits of the candidates. -/
theorem mem_findControls_iff (hq : l.patterns = some q) : e ∈ page.findControls c l ↔
    e.element ∈ page.visible c ∧
    (SearchTerm.ofPatterns q page).IsBestHit page (Clue.forCapability c) e.element e := by
  have hinsertions : page.insertions c l e.element =
      (SearchTerm.ofPatterns q page).hits page (Clue.forCapability c) e.element := by
    simp [insertions, hq]
  rw [findControls, Ranking.mem_sorted_iff (page.distinct_ranking c l),
    find?_ranking, hinsertions]
  by_cases hvisible : e.element ∈ page.visible c
  · simp [hvisible, SearchTerm.argmin_hits_eq_some_iff]
  · simp [hvisible]

theorem isListing_findControls {page : StaticPage} (hq : l.patterns = some q) :
    IsListing (SearchTerm.ofPatterns q page.toPage) page c
      (page.toPage.findControls c l) where
  listed_iff := by
    intro x
    rw [← StaticPage.mem_visible_iff, ← SearchTerm.exists_isBestHit_iff]
    constructor
    · rintro ⟨e, he, rfl⟩
      obtain ⟨hvisible, hbest⟩ := (mem_findControls_iff hq).mp he
      exact ⟨hvisible, e, hbest⟩
    · rintro ⟨hvisible, e, hbest⟩
      obtain rfl := hbest.element_eq
      exact ⟨e, (mem_findControls_iff hq).mpr ⟨hvisible, hbest⟩, rfl⟩
  best e he := ((mem_findControls_iff hq).mp he).2
  once := Ranking.nodup_sorted (page.toPage.distinct_ranking c l)
  ascending := Ranking.ascending_sorted (page.toPage.distinct_ranking c l)

variable {settings : PatternSettings}

/-- With a locator a search returns the listing of the best hits and no other list, and
nothing if the path does not occur in the text of the page. -/
theorem eq_findControls_iff (hl : l.IsMade settings) (hne : l.isEmpty = false)
    (page : StaticPage) (c : Capability) : ∃ q, l.patterns = some q ∧
    (∀ path, q.path = some path → path.isEverything = false →
      (∀ b e, ¬Pattern.Occurs settings.dotMatchesNewLine path.spec page.text b e) →
      page.toPage.findControls c l = []) ∧
    ∀ found, found = page.toPage.findControls c l ↔
      IsListing (SearchTerm.ofPatterns q page.toPage) page c found := by
  obtain ⟨q, hq⟩ := hl.exists_patterns hne
  refine ⟨q, hq, ?_, ?_⟩
  · intro path hpath hopen hnowhere
    have hspan : (SearchTerm.ofPatterns q page.toPage).pathSpan = some .notFound := by
      rw [SearchTerm.pathSpan_ofPatterns hpath hopen, Option.some_inj]
      exact (Pattern.first_eq_notFound_iff (hl.compile_path hq hpath) hopen).mpr hnowhere
    apply List.eq_nil_iff_forall_not_mem.mpr
    intro e he
    exact SearchTerm.not_isBestHit_of_notFound hspan ((mem_findControls_iff hq).mp he).2
  · intro found
    constructor
    · rintro rfl
      exact isListing_findControls hq
    · exact fun h => h.unique (isListing_findControls hq)

/-- A control with one text as its id and its name is listed by its id. -/
theorem eq_findControls_by_id : ∃ (page : StaticPage) (l : Locator) (q : Locator.Patterns),
    Locator.ofSegments [['u']] = .ok l ∧ l.isEmpty = false ∧ l.patterns = some q ∧
    IsListing (SearchTerm.ofPatterns q page.toPage) page .set [⟨0, .id, 0, 0, [1], 0⟩] := by
  let page : StaticPage :=
    ⟨[], [⟨{ ElementSpec.textInput with id := some ['u'], name := some ['u'] }, 0, 0, [1]⟩],
      []⟩
  obtain ⟨l, hl, hne, hranking⟩ : ∃ l, Locator.ofSegments [['u']] = .ok l ∧
      l.isEmpty = false ∧
      page.toPage.ranking .set l = ⟨[⟨0, .id, 0, 0, [1], 0⟩]⟩ := ⟨_, rfl, rfl, by decide⟩
  obtain ⟨q, hq, -, hlisting⟩ :=
    eq_findControls_iff (Locator.isMade_ofSegments hl) hne page .set
  refine ⟨page, l, q, hl, hne, hq, (hlisting _).mp ?_⟩
  rw [findControls, hranking, Ranking.sorted, List.mergeSort_singleton]

end Page
end ControlSearch
