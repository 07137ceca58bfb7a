import Mathlib
import Tabular.Program.Document
import Tabular.Proofs.Document.Wire
import Tabular.Proofs.View.Consistent
/-!
# Saved views restore the view

A saved view is rebuilt by setting its parts one after the other, each change checked against the
schema. In this order every state on the way is valid when the state that was saved is: the relation
of grouping to sorting is set while nothing is grouped, and the sort before the grouping that it
must begin with. What later changes reset is set after them, folded groups behind the group fields
and the page behind the filters. So a valid state is its own saved form rebuilt
(`ViewConfig.toState_ofState`).

A consistent engine is made by its own state (`Engine.make_of_consistent`). Therefore the saved form
of its state turns any engine over the same records into it, also when the saved form has been
written to a text and read back (`Engine.snapshot_restores`).
-/

namespace Tabular

/-! ## States -/

namespace ViewState

variable {s : ViewState} {schema : Schema}

theorem checked_eq_ok (h : s.validate schema = .ok ()) : s.checked schema = .ok s := by
  rw [checked, h]
  rfl

/-- Where nothing is grouped, any relation of grouping to sorting goes with any sort. -/
theorem validate_ungrouped {sort : SortSpec} (mode : GroupOrder)
    (h : sort.validate schema = .ok ()) :
    validate { groupOrder := mode, sort } schema = .ok () := by
  refine validate_eq_ok_iff.mpr ⟨h, rfl, rfl, rfl, ?_⟩
  cases mode <;> exact ⟨_, rfl⟩

/-- The sort and the grouping of a valid state are valid without its other parts. -/
theorem validate_grouped (h : s.validate schema = .ok ()) :
    validate { groupOrder := s.groupOrder, sort := s.sort, groupFields := s.groupFields } schema =
      .ok () := by
  obtain ⟨hsort, -, hgroups, -, hkeys⟩ := validate_eq_ok_iff.mp h
  exact validate_eq_ok_iff.mpr ⟨hsort, rfl, hgroups, rfl, hkeys⟩

end ViewState

namespace PageWindow

/-- A window of any page comes to another window by its size and its index. -/
theorem exists_withSize_eq_ok (w other : PageWindow) :
    ∃ sized, other.withSize w.size = .ok sized ∧ sized.withIndex w.index = w := by
  refine ⟨⟨max other.index 1, w.size, Nat.le_max_right .., w.size_pos⟩, ?_, w.withIndex_self⟩
  rw [withSize, make, dif_pos w.size_pos]

end PageWindow

namespace ViewConfig

variable {s : ViewState} {schema : Schema}

/-- Filters that pass their checks are set one after the other. Only the page changes otherwise. -/
theorem exists_applyFilters_eq_ok {filters : List (String × Filter)}
    (h : filters.forM (fun (field, f) => FilterSet.checkFilter schema field f.operator) = .ok ()) :
    ∃ page, applyFilters schema filters s = .ok
      { s with filters := ⟨filters.foldl (fun m e => m.insert e.1 e.2) s.filters.map⟩, page } := by
  induction filters generalizing s with
  | nil => exact ⟨s.page, rfl⟩
  | cons e rest ih =>
    obtain ⟨⟨⟩, hcheck, hrest⟩ := bind_eq_ok_iff.mp h
    have hset : s.withFilter e.1 e.2 schema =
        .ok ({ s with filters := s.filters.insert e.1 e.2 }.withPage 1) :=
      bind_eq_ok_iff.mpr ⟨(), hcheck, rfl⟩
    obtain ⟨page, hpage⟩ := @ih ({ s with filters := s.filters.insert e.1 e.2 }.withPage 1) hrest
    refine ⟨page, ?_⟩
    rw [applyFilters, hset]
    exact hpage

/-- **A valid state is its saved form rebuilt.** -/
theorem toState_ofState {id name : String} (h : s.validate schema = .ok ()) :
    (ofState id name s).toState schema = .ok s := by
  obtain ⟨hsort, hfilters, -⟩ := ViewState.validate_eq_ok_iff.mp h
  have hordered : ViewState.withGroupOrder {} s.groupOrder schema =
      .ok { groupOrder := s.groupOrder } :=
    ViewState.checked_eq_ok (ViewState.validate_ungrouped s.groupOrder rfl)
  have hsorted : ViewState.withSort { groupOrder := s.groupOrder } s.sort schema =
      .ok { groupOrder := s.groupOrder, sort := s.sort } :=
    ViewState.checked_eq_ok (ViewState.validate_ungrouped s.groupOrder hsort)
  have hgrouped : ViewState.withGroupFields { groupOrder := s.groupOrder, sort := s.sort }
      s.groupFields schema =
        .ok { groupOrder := s.groupOrder, sort := s.sort, groupFields := s.groupFields } := by
    rw [ViewState.withGroupFields, ite_self]
    exact ViewState.checked_eq_ok (ViewState.validate_grouped h)
  have hshown : ViewState.withColumns
      { groupOrder := s.groupOrder, sort := s.sort, groupFields := s.groupFields }
      s.visibleColumns schema = .ok { s with filters := {}, collapsed := {}, page := .first } :=
    ViewState.checked_eq_ok (ViewState.validate_withoutFilters h)
  have hfolded : ViewState.withCollapsed { s with filters := {}, collapsed := {}, page := .first }
      (.ofList s.collapsed.paths) = { s with filters := {}, page := .first } := by
    rw [s.collapsed.ofList_paths]
    rfl
  obtain ⟨page, hfiltered⟩ :=
    @exists_applyFilters_eq_ok { s with filters := {}, page := .first } schema _ hfilters
  have hset : (⟨s.filters.toList.foldl (fun m e => m.insert e.1 e.2) .empty⟩ : FilterSet) =
      s.filters := s.filters.ofList_toList
  rw [hset] at hfiltered
  obtain ⟨sized, hsized, hpage⟩ := s.page.exists_withSize_eq_ok page
  have hresized : ViewState.withPageSize { s with page } s.page.size =
      .ok { s with page := sized } := bind_eq_ok_iff.mpr ⟨sized, hsized, rfl⟩
  refine bind_eq_ok_iff.mpr ⟨_, hordered, ?_⟩
  refine bind_eq_ok_iff.mpr ⟨_, hsorted, ?_⟩
  refine bind_eq_ok_iff.mpr ⟨_, hgrouped, ?_⟩
  refine bind_eq_ok_iff.mpr ⟨_, hshown, ?_⟩
  refine bind_eq_ok_iff.mpr ⟨_, by rw [ofState, hfolded]; exact hfiltered, ?_⟩
  refine bind_eq_ok_iff.mpr ⟨_, hresized, ?_⟩
  exact congrArg (fun page => Except.ok { s with page }) hpage

end ViewConfig

/-! ## Engines -/

namespace Engine

variable {α : Type} {e other : Engine α}

/-- A consistent engine is the engine of its state. -/
theorem make_of_consistent (he : e.Consistent) : make e.source e.records e.state = .ok e := by
  refine make_eq_ok_iff.mpr ⟨e.view, he.view_eq, ?_⟩
  have hpage : e.state.withPage e.view.pageInfo.page = e.state := by
    rw [← he.page_eq, ViewState.withPage, PageWindow.withIndex_self]
  rw [hpage]

/-- The saved form of the state of a consistent engine turns an engine over the same records into
this engine. -/
theorem step_applyConfig_snapshot (he : e.Consistent) (hsource : other.source = e.source)
    (hrecords : other.records = e.records) (id name : String) :
    other.step (.applyConfig (e.snapshot id name)) = (e, none) := by
  have hnext : other.next (.applyConfig (e.snapshot id name)) = .ok e := by
    refine next_eq_ok_iff.mpr ⟨e.state, ?_, ?_⟩
    · rw [requested, hsource]
      exact ViewConfig.toState_ofState he.valid
    · rw [hsource]
      exact hrecords ▸ make_of_consistent he
  rw [step_eq, hnext]

/-- **Saving a view and restoring it loses nothing.** A valid state is its own saved form rebuilt.
And for any engine, after any commands, whose page and page size are 64-bit words, as they are in a
document: if the text to which its saved view is written is read as what was written, then the saved
view is read back from it, and applied to any engine over the same records, whatever the state of
this engine was, it succeeds and gives the first engine, with its state and its view. -/
theorem snapshot_restores (id name : String) :
    (∀ (schema : Schema) (s : ViewState), s.validate schema = .ok () →
      (ViewConfig.ofState id name s).toState schema = .ok s) ∧
    ∀ (source : Source α) (records : List α) (start : ViewState) (e₀ : Engine α),
      make source records start = .ok e₀ → ∀ (commands : List (Command α)),
      let e := e₀.run commands
      let saved := (e.snapshot id name).toJson
      e.state.page.index < UInt64.size → e.state.page.size < UInt64.size →
      ∀ write : Json → String, Json.readNode (write saved) = (.ofJson saved, false) →
      ∃ config, DocumentFormat.readJson ViewConfig.ofNode (write saved) = .ok config ∧
        ∀ other : Engine α, other.source = e.source → other.records = e.records →
          other.step (.applyConfig config) = (e, none) := by
  refine ⟨fun schema s hvalid => ViewConfig.toState_ofState hvalid, ?_⟩
  intro source records start e₀ hmake commands e saved hindex hsize write hwrite
  have he : e.Consistent := consistent_run (consistent_make hmake) commands
  have hread : ViewConfig.ofNode (.ofJson saved) = .ok (e.snapshot id name) := by
    refine ViewConfig.ofNode_toJson (fun n hn => ?_) fun n hn => ?_
    · obtain rfl := Option.some.inj hn
      exact hsize
    · obtain rfl := Option.some.inj hn
      exact hindex
  refine ⟨e.snapshot id name, ?_, fun other hsource hrecords => ?_⟩
  · rw [DocumentFormat.readJson, hwrite]
    exact bind_eq_ok_iff.mpr ⟨_, hread, rfl⟩
  · exact step_applyConfig_snapshot he hsource hrecords id name

/-- A view is saved with the group of blank values folded. -/
theorem snapshot_restores_flagPairs :
    ∃ e₀, make flagPairs [(true, false), (false, true)] {} = .ok e₀ ∧
      ∃ config,
        DocumentFormat.readJson ViewConfig.ofNode
          (Json.compact ((e₀.run [.foldGroup ⟨[.empty]⟩ true]).snapshot "v" "V").toJson) =
            .ok config ∧
        e₀.step (.applyConfig config) = (e₀.run [.foldGroup ⟨[.empty]⟩ true], none) := by
  have hmake : make flagPairs [(true, false), (false, true)] {} = .ok _ := rfl
  refine ⟨_, hmake, ?_⟩
  obtain ⟨config, hread, hstep⟩ := (snapshot_restores "v" "V").2 flagPairs
    [(true, false), (false, true)] {} _ hmake [.foldGroup ⟨[.empty]⟩ true] (by cbv) (by cbv)
    Json.compact (by set_option maxRecDepth 4000 in cbv)
  refine ⟨config, hread, hstep _ ?_ ?_⟩
  · rw [source_run]
  · rw [records_run (consistent_make hmake)]
    rfl

end Engine

end Tabular
