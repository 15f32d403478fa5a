import ControlSearch.Proofs.Page.DocumentOrder
import ControlSearch.Proofs.Search.BestHit

/-!
# Searches without a locator

Without segments a locator tells no candidates apart, and a search lists all of them by the
text in front of them. On a page that was built this is document order, so the candidates are
listed as they were added.
-/
namespace ControlSearch

/-- A locator without segments has no patterns either. -/
theorem Locator.IsMade.eq_empty {settings : PatternSettings} {l : Locator}
    (h : l.IsMade settings) (hempty : l.isEmpty = true) : l = .empty := by
  obtain ⟨raw, h⟩ := h
  rcases ofSegmentsWith_cases h with ⟨-, rfl⟩ | ⟨last, q, hlast, -, rfl⟩
  · rfl
  · have hnil : tidy raw = [] := List.isEmpty_iff.mp hempty
    simp [hnil] at hlast

/-- What comes first in a page, by place and by the text in front, comes first in listings. -/
theorem Page.place_candidate_lt {page : Page} {x y : ElementId}
    (hbefore : (page.textBefore x).size ≤ (page.textBefore y).size)
    (hplace : (page.hierarchy x : List ℕ) < page.hierarchy y) :
    (page.candidate x).place < (page.candidate y).place := by
  rcases hbefore.lt_or_eq with hlt | heq
  · exact Prod.Lex.toLex_lt_toLex.mpr (.inr ⟨rfl, Prod.Lex.toLex_lt_toLex.mpr (.inl hlt)⟩)
  · refine Prod.Lex.toLex_lt_toLex.mpr
      (.inr ⟨rfl, Prod.Lex.toLex_lt_toLex.mpr (.inr ⟨heq, ?_⟩)⟩)
    exact Prod.Lex.toLex_lt_toLex.mpr (.inl hplace)

namespace StaticPage

variable {page : StaticPage} {c : Capability} {x y : ElementId}

/-- Candidates come in the order of their numbers. -/
theorem pairwise_visible (page : StaticPage) (c : Capability) :
    (page.visible c).Pairwise (· < ·) := by
  have hall : (page.elements.zipIdx.map (·.2)).Pairwise (· < ·) := by
    rw [List.zipIdx_map_snd]
    exact List.pairwise_lt_range' 1
  exact hall.sublist (List.filter_sublist.map _)

theorem IsBuilt.place_candidate_lt (h : page.IsBuilt) (hx : x ∈ page.visible c)
    (hy : y ∈ page.visible c) (hxy : x < y) :
    (page.toPage.candidate x).place < (page.toPage.candidate y).place := by
  obtain ⟨placed, hplaced, -⟩ := mem_visible_iff.mp hx
  obtain ⟨placed', hplaced', -⟩ := mem_visible_iff.mp hy
  obtain ⟨hlt, rfl⟩ := List.getElem?_eq_some_iff.mp hplaced
  obtain ⟨hlt', rfl⟩ := List.getElem?_eq_some_iff.mp hplaced'
  obtain ⟨hstart, hprecedes⟩ := List.pairwise_iff_getElem.mp h.ascending x y hlt hlt' hxy
  apply Page.place_candidate_lt
  · have hsize := h.size_textBefore hplaced
    have hsize' := h.size_textBefore hplaced'
    simp only [toPage]
    omega
  · simpa [toPage, hplaced, hplaced'] using hprecedes.lt

/-- Without a locator the candidates are listed as they come. -/
theorem IsBuilt.findControls_empty (h : page.IsBuilt) (c : Capability) :
    page.toPage.findControls c .empty = (page.visible c).map page.toPage.candidate := by
  have hdistinct := page.toPage.distinct_ranking c .empty
  have hascending : ((page.visible c).map page.toPage.candidate).Pairwise
      fun a b => a.place < b.place :=
    List.pairwise_map.mpr ((page.pairwise_visible c).imp_of_mem h.place_candidate_lt)
  have hnodup : ((page.visible c).map page.toPage.candidate).Nodup := by
    refine hascending.imp ?_
    rintro a b hlt rfl
    exact lt_irrefl _ hlt
  have hmem (e : Entry) : e ∈ page.toPage.findControls c .empty ↔
      e ∈ (page.visible c).map page.toPage.candidate := by
    rw [Page.findControls, Ranking.mem_sorted_iff hdistinct, Page.find?_ranking, List.mem_map]
    constructor
    · intro hfind
      split at hfind
      · rename_i hvisible
        exact ⟨e.element, hvisible, by simpa [Page.insertions, Locator.empty] using hfind⟩
      · cases hfind
    · rintro ⟨x, hvisible, rfl⟩
      have hx : x ∈ page.toPage.visible c := hvisible
      simp [Page.candidate, Page.insertions, Locator.empty, hx]
  have hperm := (List.perm_ext_iff_of_nodup
    (List.Nodup.of_map _ (Ranking.nodup_sorted hdistinct)) hnodup).mpr hmem
  exact Entry.eq_of_perm hperm (Ranking.ascending_sorted hdistinct) hascending

/-- A list shows those of the added elements that can be seen and qualify for a capability,
each once and in the order in which they were added, by the text in front of them. -/
structure ListsCandidates (page : StaticPage) (added : List ElementSpec) (c : Capability)
    (found : List Entry) : Prop where
  listed_iff : ∀ x, (∃ e ∈ found, e.element = x) ↔
    ∃ spec, added[x]? = some spec ∧ spec.visible = true ∧ c.isOffered spec.capabilities = true
  ascending : found.Pairwise fun a b => a.element < b.element
  scored : ∀ e ∈ found, e.foundBy = .id ∧ e.coverage = 0 ∧
    e.distance = (page.toPage.textBefore e.element).size

theorem IsBuilt.listsCandidates (h : page.IsBuilt) (c : Capability) :
    page.ListsCandidates (page.elements.map (·.spec)) c
      (page.toPage.findControls c .empty) := by
  rw [h.findControls_empty c]
  constructor
  · intro x
    have hlisted : (∃ e ∈ (page.visible c).map page.toPage.candidate, e.element = x) ↔
        x ∈ page.visible c := by simp [Page.candidate]
    rw [hlisted, mem_visible_iff]
    simp
  · exact List.pairwise_map.mpr (page.pairwise_visible c)
  · intro e he
    obtain ⟨x, -, rfl⟩ := List.mem_map.mp he
    exact ⟨rfl, rfl, rfl⟩

variable {settings : PatternSettings} {l : Locator}

/-- Without segments a search lists all candidates in the order in which they were added to
the page, be it by calls to a builder or by a description. -/
theorem candidates_in_document_order (hl : l.IsMade settings) (hempty : l.isEmpty = true)
    (c : Capability) :
    (∀ calls : List PageBuilder.Call, ∀ page, (PageBuilder.ofCalls calls).build = page →
      page.ListsCandidates (calls.filterMap (·.element?)) c (page.toPage.findControls c l)) ∧
    ∀ d : PageDescription, ∀ page, ofDescription d = page →
      page.ListsCandidates (PageNode.elementsOf d.nodes) c
        (page.toPage.findControls c l) := by
  obtain rfl := hl.eq_empty hempty
  constructor
  · rintro calls page rfl
    have hbuilt : (PageBuilder.ofCalls calls).build.IsBuilt :=
      ⟨_, PageBuilder.reachable_ofCalls calls, rfl⟩
    rw [← PageBuilder.specs_ofCalls]
    exact hbuilt.listsCandidates c
  · rintro d page rfl
    rw [← PageBuilder.specs_ofDescription]
    exact (isBuilt_ofDescription d).listsCandidates c

/-- A labelled input inside a block, a box that cannot be seen, and a box behind the block,
all with a text in front of them, and a group in a description. -/
theorem candidates_in_document_order_blocks : ∃ l, Locator.ofText [' ', '>', ' '] = .ok l ∧
    (∃ page, (PageBuilder.ofCalls [.text ['가'], .openBlock, .labelled [] .textInput,
          .element { ElementSpec.checkbox with visible := false }, .closeBlock, .closeBlock,
          .element .checkbox]).build = page ∧
      page.ListsCandidates [.textInput,
        { ElementSpec.checkbox with visible := false }, .checkbox]
        .focus (page.toPage.findControls .focus l) ∧
      (page.toPage.textBefore 2).size = 3) ∧
    ∃ page, ofDescription ⟨[.group [.element .textInput], .element .checkbox]⟩ = page ∧
      page.ListsCandidates [.textInput,
        .checkbox] .focus (page.toPage.findControls .focus l) := by
  obtain ⟨l, hl, hempty⟩ : ∃ l, Locator.ofText [' ', '>', ' '] = .ok l ∧ l.isEmpty = true :=
    ⟨_, rfl, rfl⟩
  obtain ⟨hcalls, hdescription⟩ :=
    candidates_in_document_order (Locator.isMade_ofText hl) hempty .focus
  exact ⟨l, hl, ⟨_, rfl, hcalls _ _ rfl, by decide⟩, _, rfl, hdescription _ _ rfl⟩

end StaticPage
end ControlSearch
