import Tabular.Proofs.Group.Fold
import Tabular.Proofs.View.Consistent
/-!
# Toggling a group

Toggling a group folds it or opens it and touches nothing else (`Engine.Toggled`): the state is the
same but for the one path among the folded ones, and the page, which is clamped when there are fewer
pages. The records keep their order. Of the display rows, the fewer are the more with the path
folded in them.

A second toggle undoes the first (`Engine.toggle_twice`), except that the page stays where it was
clamped to in between.
-/

namespace Tabular

variable {α : Type}

theorem page_paginate_eq_min (rows : List (DisplayRow α)) (w : PageWindow) :
    (paginate rows w).2.page = min w.index (paginate rows w).2.totalPages :=
  w.index_clamp (countRecords rows)

namespace Engine

variable {source : Source α} {records : List α} {state : ViewState} {e after back : Engine α}
  {p : GroupPath}

namespace Consistent

/-- The display rows of a consistent engine are those of its sorted records. -/
theorem displayRows_eq (he : e.Consistent) :
    e.view.displayRows =
      groupRows e.source e.state.groupFields e.state.collapsed e.view.sorted := by
  obtain ⟨-, keys, -, hview⟩ := View.compute_eq_ok_iff.mp he.view_eq
  rw [← hview]
  rfl

theorem totalPages_eq (he : e.Consistent) :
    e.view.pageInfo.totalPages = e.state.page.totalPages (countRecords e.view.displayRows) := by
  obtain ⟨-, keys, -, hview⟩ := View.compute_eq_ok_iff.mp he.view_eq
  rw [← hview]
  rfl

/-- A header is marked when its path is folded. -/
theorem collapsed_eq_contains (he : e.Consistent) {h : GroupHeader}
    (hmem : h ∈ headersOf e.view.displayRows) :
    h.collapsed = e.state.collapsed.contains h.path := by
  rw [he.displayRows_eq, groupRows_eq_nestedRows] at hmem
  exact Tabular.collapsed_eq_contains hmem

end Consistent

/-- The state with other folded groups has a view of the same sorted records. -/
theorem exists_compute_withCollapsed (he : e.Consistent) (folded : CollapsedSet) :
    ∃ view, View.compute e.source (e.state.withCollapsed folded) e.records = .ok view ∧
      view.sorted = e.view.sorted ∧
      view.displayRows = groupRows e.source e.state.groupFields folded e.view.sorted ∧
      view.pageInfo.page = min e.state.page.index view.pageInfo.totalPages := by
  obtain ⟨hvalid, keys, hkeys, hview⟩ := View.compute_eq_ok_iff.mp he.view_eq
  let view := View.ofKeys e.source (e.state.withCollapsed folded) e.records keys
  have hsorted : view.sorted = e.view.sorted := by
    rw [← hview]
    rfl
  have hpage := page_paginate_eq_min view.displayRows e.state.page
  refine ⟨view, View.compute_eq_ok_iff.mpr ⟨hvalid, keys, hkeys, rfl⟩, hsorted, ?_, hpage⟩
  rw [← hsorted]
  rfl

/-- What other folded groups make of an engine. -/
structure Refolded (folded : CollapsedSet) (e after : Engine α) : Prop where
  source_eq : after.source = e.source
  records_eq : after.records = e.records
  /-- The page is clamped to the pages there are, and nothing else of the state changes but the
  folded groups. -/
  state_eq : after.state = (e.state.withCollapsed folded).withPage
    (min e.state.page.index after.view.pageInfo.totalPages)
  sorted_eq : after.view.sorted = e.view.sorted
  displayRows_eq : after.view.displayRows =
    groupRows e.source e.state.groupFields folded e.view.sorted

/-- **A command for other folded groups does not fail**, and changes nothing else. -/
theorem step_withCollapsed (he : e.Consistent) (command : Command α) {folded : CollapsedSet}
    (hrequested : e.requested command = .ok (e.state.withCollapsed folded))
    (hrecords : command.recordsFrom e.records = e.records) :
    ∃ after, e.step command = (after, none) ∧ after.Consistent ∧ Refolded folded e after := by
  obtain ⟨view, hcompute, hsorted, hrows, hpage⟩ := exists_compute_withCollapsed he folded
  have hmake : make e.source e.records (e.state.withCollapsed folded) =
      .ok ⟨e.source, e.records, (e.state.withCollapsed folded).withPage view.pageInfo.page, view⟩ :=
    make_eq_ok_iff.mpr ⟨view, hcompute, rfl⟩
  have hnext : e.next command = .ok _ :=
    next_eq_ok_iff.mpr ⟨_, hrequested, by rw [hrecords]; exact hmake⟩
  refine ⟨_, by rw [step_eq, hnext], consistent_make hmake, ?_⟩
  exact
    { source_eq := rfl
      records_eq := rfl
      state_eq := by rw [hpage]
      sorted_eq := hsorted
      displayRows_eq := hrows }

/-- What toggling a group makes of an engine. -/
structure Toggled (p : GroupPath) (e after : Engine α) : Prop where
  source_eq : after.source = e.source
  records_eq : after.records = e.records
  /-- The page is clamped to the pages there are, and nothing else of the state changes but whether
  the path is folded. -/
  state_eq : after.state = (e.state.withCollapsed (e.state.collapsed.toggle p)).withPage
    (min e.state.page.index after.view.pageInfo.totalPages)
  contains_eq : ∀ q, after.state.collapsed.contains q =
    if q = p then !e.state.collapsed.contains p else e.state.collapsed.contains q
  sorted_eq : after.view.sorted = e.view.sorted
  /-- Folding marks the headers of the path and leaves out what is under them. -/
  folds : e.state.collapsed.contains p = false →
    after.view.displayRows = foldRows p e.view.displayRows
  /-- Opening brings back what is under them under the other folded groups. -/
  opens : e.state.collapsed.contains p = true →
    after.view.displayRows = groupRows e.source e.state.groupFields (e.state.collapsed.expand p)
      e.view.sorted ∧ foldRows p after.view.displayRows = e.view.displayRows
  /-- The mark of the path's headers is flipped: it said before whether the path was folded. -/
  marks : (∀ h ∈ headersOf e.view.displayRows, h.path = p →
      h.collapsed = e.state.collapsed.contains p) ∧
    ∀ h ∈ headersOf after.view.displayRows, h.path = p →
      h.collapsed = !e.state.collapsed.contains p

/-- **Toggling a group does not fail**, and changes the engine as it should. -/
theorem step_toggle (he : e.Consistent) (p : GroupPath) :
    ∃ after, e.step (.toggleGroup p) = (after, none) ∧ after.Consistent ∧ Toggled p e after := by
  obtain ⟨after, hstep, hafter, hrefolded⟩ := step_withCollapsed he (.toggleGroup p) rfl rfl
  have hrows := hrefolded.displayRows_eq
  have hcontains : ∀ q, after.state.collapsed.contains q =
      if q = p then !e.state.collapsed.contains p else e.state.collapsed.contains q := by
    rw [hrefolded.state_eq]
    exact e.state.collapsed.contains_toggle p
  refine ⟨after, hstep, hafter, ?_⟩
  exact
    { source_eq := hrefolded.source_eq
      records_eq := hrefolded.records_eq
      state_eq := hrefolded.state_eq
      contains_eq := hcontains
      sorted_eq := hrefolded.sorted_eq
      folds := fun hopen => by
        rw [he.displayRows_eq, ← groupRows_collapse hopen, hrows, CollapsedSet.toggle, hopen]
        rfl
      opens := fun hfolded => by
        have htoggle : e.state.collapsed.toggle p = e.state.collapsed.expand p := by
          rw [CollapsedSet.toggle, if_pos hfolded]
        have hopen : (e.state.collapsed.expand p).contains p = false := by
          simp [CollapsedSet.contains_expand]
        have hback : (e.state.collapsed.expand p).collapse p = e.state.collapsed := by
          have := e.state.collapsed.toggle_toggle p
          rwa [htoggle, CollapsedSet.toggle, hopen] at this
        rw [hrows, htoggle]
        refine ⟨rfl, ?_⟩
        rw [← groupRows_collapse hopen, hback, he.displayRows_eq]
      marks := by
        refine ⟨fun h hmem hpath => ?_, fun h hmem hpath => ?_⟩
        · rw [he.collapsed_eq_contains hmem, hpath]
        · rw [hafter.collapsed_eq_contains hmem, hpath]
          exact (hcontains p).trans (if_pos rfl) }

/-- **A second toggle undoes the first**, apart from the page. -/
theorem Toggled.trans (he : e.Consistent) (hafter : after.Consistent) (hback : back.Consistent)
    (h : Toggled p e after) (h' : Toggled p after back) :
    back.state = e.state.withPage (min e.state.page.index after.view.pageInfo.totalPages) ∧
    back.view.sorted = e.view.sorted ∧ back.view.displayRows = e.view.displayRows := by
  have hsource : back.source = e.source := h'.source_eq.trans h.source_eq
  have hsorted : back.view.sorted = e.view.sorted := h'.sorted_eq.trans h.sorted_eq
  have hcollapsed : back.state.collapsed = e.state.collapsed := by
    rw [h'.state_eq, h.state_eq]
    exact e.state.collapsed.toggle_toggle p
  have hfields : back.state.groupFields = e.state.groupFields := by
    rw [h'.state_eq, h.state_eq]
    rfl
  have hrows : back.view.displayRows = e.view.displayRows := by
    rw [hback.displayRows_eq, he.displayRows_eq, hsource, hsorted, hcollapsed, hfields]
  have hsize : back.state.page.size = e.state.page.size := by
    rw [h'.state_eq, h.state_eq]
    rfl
  have htotal : back.view.pageInfo.totalPages = e.view.pageInfo.totalPages := by
    rw [hback.totalPages_eq, he.totalPages_eq, hrows, PageWindow.totalPages, hsize]
    rfl
  -- the page in between is one of the pages at the start, so it is not clamped again
  have hindex : after.state.page.index =
      max (min e.state.page.index after.view.pageInfo.totalPages) 1 := by
    rw [h.state_eq]
    rfl
  have hpage : min after.state.page.index back.view.pageInfo.totalPages =
      min e.state.page.index after.view.pageInfo.totalPages := by
    have := he.page_le_total
    have := he.one_le_page
    have := hafter.one_le_page
    have := hafter.page_le_total
    omega
  refine ⟨?_, hsorted, hrows⟩
  rw [h'.state_eq, hpage, h.state_eq]
  change (e.state.withCollapsed ((e.state.collapsed.toggle p).toggle p)).withPage _ = _
  rw [CollapsedSet.toggle_toggle]
  rfl

/-- **Toggling a group touches nothing else, and toggling it again undoes it**, in every engine that
commands lead to. The page is the only thing that the second toggle does not bring back: it stays
clamped to the pages that there were in between. -/
theorem toggle_twice {e₀ : Engine α} (h : make source records state = .ok e₀)
    (commands : List (Command α)) (p : GroupPath) :
    ∃ after back, (e₀.run commands).step (.toggleGroup p) = (after, none) ∧
      Toggled p (e₀.run commands) after ∧
      after.step (.toggleGroup p) = (back, none) ∧
      back.view.displayRows = (e₀.run commands).view.displayRows ∧
      back.state = (e₀.run commands).state.withPage
        (min (e₀.run commands).state.page.index after.view.pageInfo.totalPages) ∧
      back.state.page.index =
        min (e₀.run commands).state.page.index after.view.pageInfo.totalPages := by
  have he := consistent_run (consistent_make h) commands
  obtain ⟨after, hstep, hafter, htoggled⟩ := step_toggle he p
  obtain ⟨back, hstep', hback, htoggled'⟩ := step_toggle hafter p
  obtain ⟨hstate, -, hrows⟩ := htoggled.trans he hafter hback htoggled'
  refine ⟨after, back, hstep, htoggled, hstep', hrows, hstate, ?_⟩
  have := he.one_le_page
  have := hafter.one_le_page.trans hafter.page_le_total
  rw [hstate]
  exact Nat.max_eq_left (by omega)

/-- On the second of two pages, the group of the first record is folded and opened again. -/
theorem toggle_twice_flagPairs :
    ∃ e, make flagPairs [(true, false), (false, true)]
        { groupFields := ["a"], page := ⟨2, 1, by decide, by decide⟩ } = .ok e ∧
      ∃ after back, e.step (.toggleGroup ⟨[.text "true"]⟩) = (after, none) ∧
        Toggled ⟨[.text "true"]⟩ e after ∧
        after.step (.toggleGroup ⟨[.text "true"]⟩) = (back, none) ∧
        back.view.displayRows = e.view.displayRows := by
  refine ⟨_, rfl, ?_⟩
  obtain ⟨after, back, hstep, htoggled, hstep', hrows, -⟩ := toggle_twice
    (rfl : make flagPairs [(true, false), (false, true)]
      { groupFields := ["a"], page := ⟨2, 1, by decide, by decide⟩ } = .ok _) []
    ⟨[.text "true"]⟩
  exact ⟨after, back, hstep, htoggled, hstep', hrows⟩

end Engine

end Tabular
