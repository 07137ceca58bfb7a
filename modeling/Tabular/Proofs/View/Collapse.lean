import Tabular.Proofs.Group.Outermost
import Tabular.Proofs.Order.Sorted
import Tabular.Proofs.View.Toggle
/-!
# Folding and opening all groups

All groups are folded by the paths of all headers that the current records have when nothing is
folded, those under folded parents included. What is left of the display rows are the headers of the
outermost groups (`Engine.step_collapseAll`): the records and their order are as before, but no
record is a row, so there is one page and no item on it. Opening all groups then gives the rows with
nothing folded (`Engine.collapse_then_expand_all`).
-/

namespace Tabular

variable {α : Type}

/-- Rows without a record come to one page without items. -/
theorem pageInfo_of_no_records {rows : List (DisplayRow α)} (h : countRecords rows = 0)
    (w : PageWindow) : (paginate rows w).2 =
      { page := 1, pageSize := w.size, totalItems := 0, totalPages := 1, firstItem := 0,
        lastItem := 0 } := by
  have htotal : w.totalPages 0 = 1 := by simp [PageWindow.totalPages]
  have hclamp : w.clamp 0 = w.withIndex 1 := by
    rw [PageWindow.clamp, htotal, Nat.min_eq_right w.index_pos]
  have hpages : (w.withIndex 1).totalPages 0 = 1 := htotal
  simp only [paginate, h, hclamp, PageInfo.of, hpages, if_true, Nat.min_zero]
  rfl

/-! ## Rows of folded groups -/

theorem countRecords_map_foldedRow (headers : List GroupHeader) :
    countRecords (headers.map fun h => (h.foldedRow : DisplayRow α)) = 0 := by
  refine List.countP_eq_zero.mpr fun row hrow => ?_
  obtain ⟨h, -, rfl⟩ := List.mem_map.mp hrow
  exact Bool.false_ne_true

theorem headersOf_map_foldedRow (headers : List GroupHeader) :
    headersOf (headers.map fun h => (h.foldedRow : DisplayRow α)) =
      headers.map fun h => { h with collapsed := true } := by
  induction headers with
  | nil => rfl
  | cons h headers ih => exact congrArg ({ h with collapsed := true } :: ·) ih

namespace Engine

variable {source : Source α} {records : List α} {state : ViewState} {e after opened : Engine α}

theorem Consistent.pageInfo_eq (he : e.Consistent) :
    e.view.pageInfo = (paginate e.view.displayRows e.state.page).2 := by
  obtain ⟨-, keys, -, hview⟩ := View.compute_eq_ok_iff.mp he.view_eq
  rw [← hview]
  rfl

/-- The rows of the current records with nothing folded. -/
def fullRows (e : Engine α) : List (DisplayRow α) :=
  groupRows e.source e.state.groupFields {} e.view.sorted

/-- What folding all groups makes of an engine. -/
structure Outlined (e after : Engine α) : Prop where
  /-- The paths of all headers are folded, and nothing else of the state changes but the page. -/
  refolded : Refolded (.ofList ((headersOf e.fullRows).map (·.path))) e after
  /-- The headers of the outermost groups are left, all of them marked. -/
  displayRows_eq : after.view.displayRows = (outermostHeaders e.fullRows).map fun h =>
    .header { h with collapsed := true }
  /-- Every record is counted by one of them. -/
  sum_count : ((headersOf after.view.displayRows).map (·.count)).sum = e.view.sorted.length
  pageInfo_eq : after.view.pageInfo =
    { page := 1, pageSize := e.state.page.size, totalItems := 0, totalPages := 1, firstItem := 0,
      lastItem := 0 }

/-- **Folding all groups does not fail**, and leaves the headers of the outermost ones. -/
theorem step_collapseAll (he : e.Consistent) (hgrouped : e.state.groupFields ≠ []) :
    ∃ after, e.step .collapseAll = (after, none) ∧ after.Consistent ∧ Outlined e after := by
  obtain ⟨after, hstep, hafter, hrefolded⟩ :=
    step_withCollapsed he .collapseAll rfl rfl
  obtain ⟨field, fields, hfields⟩ := List.exists_cons_of_ne_nil hgrouped
  have hrows : after.view.displayRows =
      (outermostHeaders e.fullRows).map fun h => h.foldedRow := by
    rw [hrefolded.displayRows_eq, allHeaders, fullRows, hfields]
    exact groupRows_of_folded fun _ => contains_ofList_paths
  refine ⟨after, hstep, hafter, ?_⟩
  exact
    { refolded := hrefolded
      displayRows_eq := hrows
      sum_count := by
        rw [hrows, headersOf_map_foldedRow, List.map_map, fullRows, hfields]
        exact sum_count_outermostHeaders
      pageInfo_eq := by
        rw [hafter.pageInfo_eq, hrows, pageInfo_of_no_records (countRecords_map_foldedRow _),
          hrefolded.state_eq]
        rfl }

/-- **Folding all groups leaves the headers of the outermost ones, and opening them brings all rows
back**, in every grouped engine that commands lead to, whatever groups were folded before. -/
theorem collapse_then_expand_all {e₀ : Engine α} (h : make source records state = .ok e₀)
    (commands : List (Command α)) (hgrouped : (e₀.run commands).state.groupFields ≠ []) :
    ∃ outlined opened,
      (e₀.run commands).step .collapseAll = (outlined, none) ∧
      Outlined (e₀.run commands) outlined ∧
      outlined.view.sortedIndices = (e₀.run commands).view.sortedIndices ∧
      outlined.step .expandAll = (opened, none) ∧
      Refolded {} outlined opened ∧
      opened.view.displayRows = (e₀.run commands).fullRows := by
  have he := consistent_run (consistent_make h) commands
  generalize e₀.run commands = e at hgrouped he ⊢
  obtain ⟨outlined, hstep, houtlined, houtline⟩ := step_collapseAll he hgrouped
  obtain ⟨opened, hstep', -, hopened⟩ :=
    step_withCollapsed houtlined .expandAll rfl rfl
  have hrefolded := houtline.refolded
  have hfields : outlined.state.groupFields = e.state.groupFields := by
    rw [hrefolded.state_eq]
    rfl
  refine ⟨outlined, opened, hstep, houtline, ?_, hstep', hopened, ?_⟩
  · rw [View.sortedIndices, hrefolded.sorted_eq]
    rfl
  · rw [hopened.displayRows_eq, hrefolded.source_eq, hrefolded.sorted_eq, hfields]
    rfl

/-- The first of two outermost groups is interrupted, so its path has two headers, and inside it one
group is folded before. -/
theorem collapse_then_expand_all_flagPairs :
    ∃ e, make flagPairs [(true, true), (false, true), (true, false)]
        { groupFields := ["a", "b"],
          collapsed := .ofList [⟨[.text "true", .text "false"]⟩] } = .ok e ∧
      e.state.groupFields ≠ [] ∧
      ∃ outlined opened, e.step .collapseAll = (outlined, none) ∧
        outlined.step .expandAll = (opened, none) ∧
        outlined.view.displayRows =
          [.header ⟨⟨[.text "true"]⟩, 0, "a", .text "true", 1, true⟩,
           .header ⟨⟨[.text "false"]⟩, 0, "a", .text "false", 1, true⟩,
           .header ⟨⟨[.text "true"]⟩, 0, "a", .text "true", 1, true⟩] ∧
        opened.view.displayRows.length = 9 := by
  refine ⟨_, rfl, by decide, ?_⟩
  obtain ⟨outlined, opened, hstep, houtline, -, hstep', -, hrows⟩ := collapse_then_expand_all
    (rfl : make flagPairs [(true, true), (false, true), (true, false)]
      { groupFields := ["a", "b"],
        collapsed := .ofList [⟨[.text "true", .text "false"]⟩] } = .ok _) [] (by decide)
  have hsorted : sortEntries flagPairs []
      (entriesOf [(true, true), (false, true), (true, false)]) =
      entriesOf [(true, true), (false, true), (true, false)] :=
    sortEntries_of_pairwise (by decide +kernel)
  have hfull := congrArg (groupRows flagPairs ["a", "b"] {}) hsorted
  refine ⟨outlined, opened, hstep, hstep', ?_, ?_⟩
  · rw [houtline.displayRows_eq]
    refine (congrArg (fun rows => (outermostHeaders rows).map fun h =>
      (.header { h with collapsed := true } : DisplayRow (Bool × Bool))) hfull).trans ?_
    decide +kernel
  · rw [hrows]
    exact (congrArg List.length hfull).trans (by decide +kernel)

end Engine

end Tabular
