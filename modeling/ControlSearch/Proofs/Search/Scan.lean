import Mathlib.Logic.Relation
import ControlSearch.Proofs.Ranking
import ControlSearch.Search

/-!
# Scans that workers share

The visits of the elements may be spread over several workers, which insert their hits into
one ranking at any time. Only the hits of one visit come in the order of the clues. In
whatever order the visits take turns, and however often an element is visited, the ranking
holds the same entries in the end as that of a scan in which one visit follows the other, so
both are listed alike.
-/
namespace ControlSearch

theorem SearchTerm.element_of_hit? {term : SearchTerm} {page : Page}
    {x : ElementId} {clue : Clue} {e : Entry} (h : term.hit? page x clue = some e) :
    e.element = x := by
  obtain ⟨score, -, rfl⟩ := Option.map_eq_some_iff.mp h
  rfl

namespace Page

variable (page : Page) (c : Capability) (l : Locator)

/-- The entries that come in for an element, in this order. -/
def insertions (x : ElementId) : List Entry :=
  match l.patterns with
  | none => [page.candidate x]
  | some q => (SearchTerm.ofPatterns q page).hits page (Clue.forCapability c) x

/-- Without workers, one visit follows the other. -/
theorem ranking_eq_insertAll :
    page.ranking c l =
      Ranking.empty.insertAll ((page.visible c).flatMap (page.insertions c l)) := by
  unfold ranking insertions
  cases l.patterns with
  | none => rw [List.map_eq_flatMap]
  | some q => rfl

variable {page c l}

theorem element_of_mem_insertions {x : ElementId} {e : Entry}
    (h : e ∈ page.insertions c l x) :
    e.element = x := by
  unfold insertions at h
  cases hl : l.patterns with
  | none =>
      simp only [hl, List.mem_singleton] at h
      rw [h, candidate]
  | some q =>
      simp only [hl, SearchTerm.hits, List.mem_filterMap] at h
      obtain ⟨clue, -, hit⟩ := h
      exact SearchTerm.element_of_hit? hit

end Page

/-- A visit of an element, with the entries that it has not inserted yet. -/
structure Visit where
  element : ElementId
  left : List Entry

/-- A scan in progress: all visits, and the ranking that they share. -/
structure Scan where
  visits : List Visit
  ranking : Ranking

namespace Scan

/-- A scan before anything is inserted. An element may be visited several times. -/
def start (insertions : ElementId → List Entry) (elements : List ElementId) : Scan :=
  ⟨elements.map fun x => ⟨x, insertions x⟩, .empty⟩

/-- One of the visits inserts its next entry. -/
inductive Step : Scan → Scan → Prop
  | insert (front back : List Visit) (x : ElementId) (e : Entry) (left : List Entry)
      (r : Ranking) :
      Step ⟨front ++ ⟨x, e :: left⟩ :: back, r⟩ ⟨front ++ ⟨x, left⟩ :: back, r.insert e⟩

/-- Any number of steps, in which the visits take turns as they like. -/
abbrev Run : Scan → Scan → Prop := Relation.ReflTransGen Step

/-- Nothing is left to be inserted. -/
def IsOver (s : Scan) : Prop := ∀ v ∈ s.visits, v.left = []

/-! ## What a step preserves -/

variable {insertions : ElementId → List Entry} {elements : List ElementId} {s s' : Scan}

/-- Every visit, if it went on alone, would bring the ranking to hold the first best entry of
its element. -/
structure Sound (insertions : ElementId → List Entry) (elements : List ElementId) (s : Scan) :
    Prop where
  distinct : s.ranking.Distinct
  elements_eq : s.visits.map (·.element) = elements
  own : ∀ v ∈ s.visits, ∀ e ∈ v.left, e.element = v.element
  settles : ∀ v ∈ s.visits,
    keepAll (s.ranking.find? v.element) v.left = (insertions v.element).argmin Entry.cost
  unvisited : ∀ x ∉ elements, s.ranking.find? x = none

theorem sound_start (hown : ∀ x ∈ elements, ∀ e ∈ insertions x, e.element = x) :
    (start insertions elements).Sound insertions elements where
  distinct := Ranking.distinct_empty
  elements_eq := by simp [start, Function.comp_def]
  own := by simpa [start] using hown
  settles := by simp [start, keepAll_none]
  unvisited := by simp [start]

theorem Sound.step (h : s.Sound insertions elements) (hstep : Step s s') :
    s'.Sound insertions elements := by
  cases hstep with
  | insert front back x e left r =>
      have hmem : (⟨x, e :: left⟩ : Visit) ∈ front ++ ⟨x, e :: left⟩ :: back := by simp
      have he : e.element = x := h.own _ hmem e List.mem_cons_self
      have hx := h.settles _ hmem
      -- all other visits, of the same element or not, are visits of the scan before
      have hvisit {v : Visit} (hv : v ∈ front ++ ⟨x, left⟩ :: back) :
          v = ⟨x, left⟩ ∨ v ∈ front ++ ⟨x, e :: left⟩ :: back := by
        simp only [List.mem_append, List.mem_cons] at hv ⊢
        tauto
      constructor
      · exact h.distinct.insert e
      · simpa using h.elements_eq
      · intro v hv e' he'
        rcases hvisit hv with rfl | hv
        · exact h.own _ hmem e' (List.mem_cons_of_mem e he')
        · exact h.own v hv e' he'
      · intro v hv
        simp only [Ranking.find?_insert]
        rcases hvisit hv with rfl | hv
        · rw [if_pos he]
          exact hx
        · by_cases hxv : e.element = v.element
          · rw [if_pos hxv]
            have hv' := h.settles v hv
            obtain rfl : x = v.element := he.symm.trans hxv
            exact keepAll_keep hx hv'
          · rw [if_neg hxv]
            exact h.settles v hv
      · intro y hy
        have hxy : e.element ≠ y := by
          rintro rfl
          rw [he, ← h.elements_eq] at hy
          exact hy (List.mem_map_of_mem hmem)
        simp only [Ranking.find?_insert, if_neg hxy]
        exact h.unvisited y hy

theorem Sound.run (h : s.Sound insertions elements) (hrun : Run s s') :
    s'.Sound insertions elements := by
  induction hrun with
  | refl => exact h
  | tail _ hstep ih => exact ih.step hstep

/-- In the end the first best entry is held for each element that was visited. -/
theorem Sound.find?_of_isOver (h : s.Sound insertions elements) (hover : s.IsOver)
    (x : ElementId) :
    s.ranking.find? x = if x ∈ elements then (insertions x).argmin Entry.cost else none := by
  split
  · rename_i hx
    rw [← h.elements_eq] at hx
    obtain ⟨v, hv, rfl⟩ := List.mem_map.mp hx
    have hsettled := h.settles v hv
    rwa [hover v hv, keepAll_nil] at hsettled
  · rename_i hx
    exact h.unvisited x hx

/-! ## One visit after the other -/

theorem run_visit (front back : List Visit) (x : ElementId) (left : List Entry)
    (r : Ranking) :
    Run ⟨front ++ ⟨x, left⟩ :: back, r⟩ ⟨front ++ ⟨x, []⟩ :: back, r.insertAll left⟩ := by
  induction left generalizing r with
  | nil => exact .refl
  | cons e left ih => exact .head (.insert front back x e left r) (ih (r.insert e))

theorem run_visits (front visits : List Visit) (r : Ranking) :
    Run ⟨front ++ visits, r⟩
      ⟨front ++ visits.map fun v => ⟨v.element, []⟩,
        r.insertAll (visits.flatMap (·.left))⟩ := by
  induction visits generalizing front r with
  | nil => simpa [Ranking.insertAll] using Relation.ReflTransGen.refl
  | cons v visits ih =>
      have hfirst := run_visit front visits v.element v.left r
      have hrest := ih (front ++ [⟨v.element, []⟩]) (r.insertAll v.left)
      rw [List.append_assoc, List.append_assoc] at hrest
      simp only [Ranking.insertAll, List.flatMap_cons, List.foldl_append] at hrest ⊢
      exact hfirst.trans hrest

/-- Every scan can be brought to its end. -/
theorem exists_run_isOver (s : Scan) : ∃ s', Run s s' ∧ s'.IsOver := by
  refine ⟨_, run_visits [] s.visits s.ranking, ?_⟩
  simp [IsOver]

end Scan

namespace Page

variable (page : Page) (c : Capability) (l : Locator)

theorem sound_start :
    (Scan.start (page.insertions c l) (page.visible c)).Sound (page.insertions c l)
      (page.visible c) :=
  Scan.sound_start fun _ _ _ h => element_of_mem_insertions h

/-- The search scans its elements in turn. -/
theorem exists_run_ranking :
    ∃ s, Scan.Run (Scan.start (page.insertions c l) (page.visible c)) s ∧
    s.IsOver ∧ s.ranking = page.ranking c l := by
  refine ⟨_, Scan.run_visits [] _ _, ?_, ?_⟩
  · simp [Scan.IsOver]
  · rw [ranking_eq_insertAll]
    simp [List.flatMap_map]

theorem distinct_ranking : (page.ranking c l).Distinct := by
  obtain ⟨s, hrun, -, hranking⟩ := page.exists_run_ranking c l
  rw [← hranking]
  exact ((page.sound_start c l).run hrun).distinct

/-- For each candidate the first of its best hits is held, however often it is listed. -/
theorem find?_ranking (x : ElementId) : (page.ranking c l).find? x =
    if x ∈ page.visible c then (page.insertions c l x).argmin Entry.cost else none := by
  obtain ⟨s, hrun, hover, hranking⟩ := page.exists_run_ranking c l
  rw [← hranking]
  exact ((page.sound_start c l).run hrun).find?_of_isOver hover x

/-- However the visits take turns, the scan can be brought to its end, and is then listed as
the search lists it, in whatever order the entries are held. -/
theorem sorted_eq_findControls {s : Scan}
    (hrun : Scan.Run (Scan.start (page.insertions c l) (page.visible c)) s) :
    (∃ s', Scan.Run s s' ∧ s'.IsOver) ∧
    (s.IsOver → ∀ held, held.Perm s.ranking.entries →
      (Ranking.mk held).sorted = page.findControls c l) := by
  refine ⟨s.exists_run_isOver, ?_⟩
  intro hover held hheld
  have hsound := (page.sound_start c l).run hrun
  have hfind (x : ElementId) : s.ranking.find? x = (page.ranking c l).find? x := by
    rw [hsound.find?_of_isOver hover x, find?_ranking]
  have hperm := Ranking.perm_of_find?_eq hsound.distinct (page.distinct_ranking c l) hfind
  exact (Ranking.sorted_eq_of_perm (page.distinct_ranking c l) (hheld.trans hperm).symm).symm

/-- A control with one text as its id and its name, visited by two workers: the second one has
inserted both hits before the first one goes on. -/
theorem sorted_eq_findControls_twice : ∃ (page : Page) (l : Locator) (s : Scan),
    Locator.ofSegments [['u']] = .ok l ∧ page.visible .set = [0, 0] ∧
    Scan.Run (Scan.start (page.insertions .set l) (page.visible .set)) s ∧ s.IsOver ∧
    s.ranking.sorted = page.findControls .set l := by
  let page : Page := { Page.plain [] (fun _ => [0, 0]) (fun _ => []) (fun _ => .range 0 0)
      (fun _ => []) id with
    attributeOf := fun _ a => if a = .id ∨ a = .name then some ['u'] else none }
  let byId : Entry := ⟨0, .id, 0, 0, [], 0⟩
  let byName : Entry := ⟨0, .name, 0, 0, [], 0⟩
  obtain ⟨l, hl, hhits⟩ : ∃ l, Locator.ofSegments [['u']] = .ok l ∧
      page.insertions .set l 0 = [byId, byName] := ⟨_, rfl, by decide⟩
  have hstart : Scan.start (page.insertions .set l) (page.visible .set) =
      ⟨[⟨0, [byId, byName]⟩, ⟨0, [byId, byName]⟩], .empty⟩ := by
    rw [← hhits]
    rfl
  let r : Ranking := Ranking.empty.insertAll [byId, byId, byName, byName]
  have hrun : Scan.Run (Scan.start (page.insertions .set l) (page.visible .set))
      ⟨[⟨0, []⟩, ⟨0, []⟩], r⟩ := by
    rw [hstart]
    apply Relation.ReflTransGen.head (.insert [] [⟨0, [byId, byName]⟩] 0 byId [byName] _)
    apply Relation.ReflTransGen.head (.insert [⟨0, [byName]⟩] [] 0 byId [byName] _)
    apply Relation.ReflTransGen.head (.insert [⟨0, [byName]⟩] [] 0 byName [] _)
    exact Relation.ReflTransGen.single (.insert [] [⟨0, []⟩] 0 byName [] _)
  have hover : Scan.IsOver ⟨[⟨0, []⟩, ⟨0, []⟩], r⟩ := by simp [Scan.IsOver]
  have hlisted :=
    (page.sorted_eq_findControls .set l hrun).2 hover r.entries (List.Perm.refl _)
  exact ⟨page, l, _, hl, rfl, hrun, hover, hlisted⟩

end Page
end ControlSearch
