import Tabular.Proofs.Group.Order
import Tabular.Proofs.Page.Cover
import Tabular.View.Compute
/-!
# Valid states have views

A state is valid when its parts pass their checks and its grouping goes with its sort
(`ViewState.validate_eq_ok_iff`); under `GroupOrder.strict` that means that the sort fields begin
with the group fields (`ViewState.prefix_of_validate`).

A valid state has a view over any records, and no other state has one (`View.compute_eq_ok_iff`).
The page that the view comes to is a page that exists, and the state at that page has the same view
(`View.compute_withPage`).
-/

namespace Tabular

variable {α : Type}

/-! ## Valid states -/

namespace ViewState

theorem validate_eq_ok_iff {s : ViewState} {schema : Schema} :
    s.validate schema = .ok () ↔
      s.sort.validate schema = .ok () ∧ s.filters.validate schema = .ok () ∧
      validateGroupFields s.groupFields schema = .ok () ∧
      validateColumns s.visibleColumns schema = .ok () ∧
      ∃ keys, s.groupOrder.sortKeys s.sort s.groupFields = .ok keys := by
  have hpure : (pure () : Except ViewError Unit) = .ok () := rfl
  simp only [validate, bind_eq_ok_iff, hpure]
  constructor
  · rintro ⟨⟨⟩, hsort, ⟨⟩, hfilters, ⟨⟩, hgroups, ⟨⟩, hcolumns, keys, hkeys, -⟩
    exact ⟨hsort, hfilters, hgroups, hcolumns, keys, hkeys⟩
  · rintro ⟨hsort, hfilters, hgroups, hcolumns, keys, hkeys⟩
    exact ⟨(), hsort, (), hfilters, (), hgroups, (), hcolumns, keys, hkeys, trivial⟩

/-- The page has no part in validity. -/
theorem validate_withPage (s : ViewState) (index : Nat) (schema : Schema) :
    (s.withPage index).validate schema = s.validate schema := rfl

/-- The folded groups have no part in validity. -/
theorem validate_withCollapsed (s : ViewState) (collapsed : CollapsedSet) (schema : Schema) :
    (s.withCollapsed collapsed).validate schema = s.validate schema := rfl

/-- A valid state may have any filters that pass their check. -/
theorem validate_otherFilters {s : ViewState} {schema : Schema} {filters : FilterSet}
    (h : s.validate schema = .ok ()) (hfilters : filters.validate schema = .ok ()) :
    { s with filters }.validate schema = .ok () := by
  obtain ⟨hsort, -, hgroups, hcolumns, hkeys⟩ := validate_eq_ok_iff.mp h
  exact validate_eq_ok_iff.mpr ⟨hsort, hfilters, hgroups, hcolumns, hkeys⟩

theorem validate_withoutFilters {s : ViewState} {schema : Schema}
    (h : s.validate schema = .ok ()) : s.withoutFilters.validate schema = .ok () := by
  have hnone : FilterSet.validate {} schema = .ok () := rfl
  exact (validate_withPage ..).trans (validate_otherFilters h hnone)

/-- In a valid state that is strict, the sort fields begin with the group fields. -/
theorem prefix_of_validate {s : ViewState} {schema : Schema} (h : s.validate schema = .ok ())
    (hstrict : s.groupOrder = .strict) : s.groupFields <+: s.sort.fields := by
  obtain ⟨-, -, -, -, keys, hkeys⟩ := validate_eq_ok_iff.mp h
  rw [hstrict] at hkeys
  exact (GroupOrder.sortKeys_strict_eq_ok_iff.mp hkeys).1

end ViewState

/-! ## Views -/

namespace View

/-- The view of a state whose sort keys are known. -/
def ofKeys (source : Source α) (state : ViewState) (records : List α) (keys : List SortKey) :
    View α :=
  let sorted := sortEntries source keys (filtered source state records)
  let displayRows := groupRows source state.groupFields state.collapsed sorted
  { sorted, displayRows
    pageRows := (paginate displayRows state.page).1
    pageInfo := (paginate displayRows state.page).2 }

/-- **A state has a view exactly when it is valid.** -/
theorem compute_eq_ok_iff {source : Source α} {state : ViewState} {records : List α}
    {view : View α} :
    compute source state records = .ok view ↔
      state.validate source.schema = .ok () ∧
      ∃ keys, state.groupOrder.sortKeys state.sort state.groupFields = .ok keys ∧
        ofKeys source state records keys = view := by
  simp only [compute, bind_eq_ok_iff]
  constructor
  · rintro ⟨⟨⟩, hvalid, keys, hkeys, hview⟩
    exact ⟨hvalid, keys, hkeys, Except.ok.inj hview⟩
  · rintro ⟨hvalid, keys, hkeys, rfl⟩
    exact ⟨(), hvalid, keys, hkeys, rfl⟩

theorem exists_compute_eq_ok {source : Source α} {state : ViewState} (records : List α)
    (h : state.validate source.schema = .ok ()) :
    ∃ view, compute source state records = .ok view := by
  obtain ⟨-, -, -, -, keys, hkeys⟩ := ViewState.validate_eq_ok_iff.mp h
  exact ⟨_, compute_eq_ok_iff.mpr ⟨h, keys, hkeys, rfl⟩⟩

/-- The state at the page that its view comes to has the same view. -/
theorem compute_withPage {source : Source α} {state : ViewState} {records : List α} {view : View α}
    (h : compute source state records = .ok view) :
    compute source (state.withPage view.pageInfo.page) records = .ok view := by
  obtain ⟨hvalid, keys, hkeys, rfl⟩ := compute_eq_ok_iff.mp h
  refine compute_eq_ok_iff.mpr ⟨hvalid, keys, hkeys, ?_⟩
  let rows := groupRows source state.groupFields state.collapsed
    (sortEntries source keys (filtered source state records))
  have hpage : paginate rows (state.page.withIndex (paginate rows state.page).2.page) =
      paginate rows state.page := paginate_withIndex_page rows state.page
  exact congrArg (fun cut => View.mk (sortEntries source keys (filtered source state records)) rows
    cut.1 cut.2) hpage

/-- A state at the first page has a view at the first page. -/
theorem page_eq_one_of_compute {source : Source α} {state : ViewState} {records : List α}
    {view : View α} (h : compute source state records = .ok view) (hpage : state.page.index = 1) :
    view.pageInfo.page = 1 := by
  obtain ⟨-, keys, -, rfl⟩ := compute_eq_ok_iff.mp h
  rw [ofKeys, page_paginate, PageWindow.index_clamp, hpage]
  exact Nat.min_eq_left (PageWindow.one_le_totalPages ..)

/-- The page of a view is a page that exists. -/
theorem page_mem_of_compute {source : Source α} {state : ViewState} {records : List α}
    {view : View α} (h : compute source state records = .ok view) :
    1 ≤ view.pageInfo.page ∧ view.pageInfo.page ≤ view.pageInfo.totalPages := by
  obtain ⟨-, keys, -, rfl⟩ := compute_eq_ok_iff.mp h
  exact page_paginate_mem ..

end View

end Tabular
