import Tabular.Proofs.View.Consistent
/-!
# The arrangement of a view

The arrangement of a view is its sort, its grouping and the relation between the two. A strict
relation refuses a sort that does not begin with the group fields (`GroupOrder.Refuses`), which is
a mismatch, and no other check of a state reports one (`ViewState.failsWith_validate`).

So a command that leaves the arrangement alone never reports a mismatch (`Engine.failsWith_apply`).
A command that changes a part of the arrangement gives an engine with the new arrangement, or a
mismatch where that is refused (`Engine.Arranges`).
-/

namespace Tabular

/-! ## Mismatches of sort and grouping -/

namespace ViewError

/-- Whether the error is that a sort does not follow a grouping. -/
def isMismatch : ViewError → Bool
  | groupSortMismatch .. => true
  | _ => false

end ViewError

namespace GroupOrder

variable {mode : GroupOrder} {sort : SortSpec} {groups fields : List String} {position : Nat}

/-- A strict relation refuses a sort that does not begin with the group fields. -/
def Refuses (mode : GroupOrder) (sort : SortSpec) (groups : List String) : Prop :=
  mode = .strict ∧ ¬ groups <+: sort.fields

instance : Decidable (mode.Refuses sort groups) := inferInstanceAs (Decidable (_ ∧ _))

/-- The check of the leading fields reports a mismatch and nothing else. -/
theorem isMismatch_of_checkLeading {err : ViewError}
    (h : checkLeading position groups fields = .error err) : err.isMismatch = true := by
  induction groups generalizing position fields with
  | nil => cases h
  | cons g groups ih =>
    cases fields with
    | nil =>
      cases h
      rfl
    | cons f fields =>
      rw [checkLeading] at h
      split at h
      · exact ih h
      · cases h
        rfl

/-- **A refused arrangement is a mismatch**, and every other one has its sort keys. -/
theorem sortKeys_cases (mode : GroupOrder) (sort : SortSpec) (groups : List String) :
    (mode.Refuses sort groups ∧
      ∃ err, mode.sortKeys sort groups = .error err ∧ err.isMismatch = true) ∨
    (¬ mode.Refuses sort groups ∧ ∃ keys, mode.sortKeys sort groups = .ok keys) := by
  cases mode with
  | unchecked | prepend => exact .inr ⟨fun h => absurd h.1 (by decide), _, rfl⟩
  | strict =>
    cases hcheck : checkLeading 1 groups sort.fields with
    | ok _ =>
      refine .inr ⟨fun h => h.2 (checkLeading_eq_ok_iff.mp hcheck), sort.keys, ?_⟩
      rw [sortKeys, hcheck]
      rfl
    | error err =>
      have hrefuses : ¬ groups <+: sort.fields := fun h => by
        rw [checkLeading_eq_ok_iff.mpr h] at hcheck
        cases hcheck
      refine .inl ⟨⟨rfl, hrefuses⟩, err, ?_, isMismatch_of_checkLeading hcheck⟩
      rw [sortKeys, hcheck]
      rfl

theorem failsWith_sortKeys (h : ¬ mode.Refuses sort groups) :
    failsWith ViewError.isMismatch (mode.sortKeys sort groups) = false := by
  obtain ⟨hrefuses, -⟩ | ⟨-, keys, hkeys⟩ := mode.sortKeys_cases sort groups
  · exact absurd hrefuses h
  · rw [hkeys]
    rfl

end GroupOrder

/-! ### Checks -/

theorem Schema.failsWith_require (schema : Schema) (id : String) (use : FieldUse) :
    failsWith ViewError.isMismatch (schema.require id use) = false := by
  unfold require
  split <;> rfl

/-- Fields are accepted for a use when the schema has each of them. -/
theorem Schema.forM_require_eq_ok_iff {schema : Schema} {fields : List String} {use : FieldUse} :
    (fields.forM fun field => do let _ ← schema.require field use) = .ok () ↔
      ∀ field ∈ fields, schema.contains field = true := by
  rw [forM_eq_ok_iff]
  refine forall₂_congr fun field _ => ?_
  rw [bind_eq_ok_iff, contains, Option.isSome_iff_exists]
  exact exists_congr fun f => (and_iff_left rfl).trans require_eq_ok_iff

theorem SortSpec.validate_eq_ok {sort : SortSpec} {schema : Schema}
    (hfields : ∀ key ∈ sort.keys, schema.contains key.field = true) (hnodup : sort.fields.Nodup) :
    sort.validate schema = .ok () := by
  refine bind_eq_ok_iff.mpr ⟨(), ?_, checkUnique_eq_ok_iff.mpr hnodup⟩
  have hrequire := (@Schema.forM_require_eq_ok_iff schema sort.fields .sort).mpr
    (List.forall_mem_map.mpr hfields)
  rw [forM_eq_ok_iff] at hrequire ⊢
  exact fun key hkey => hrequire key.field (List.mem_map_of_mem hkey)

theorem SortSpec.failsWith_validate (sort : SortSpec) (schema : Schema) :
    failsWith ViewError.isMismatch (sort.validate schema) = false := by
  refine failsWith_bind_eq_false (failsWith_forM_eq_false fun key _ => ?_) fun _ _ => ?_
  · exact failsWith_bind_eq_false (schema.failsWith_require ..) fun _ _ => rfl
  · unfold checkUnique
    split <;> rfl

theorem FilterSet.failsWith_checkFilter (schema : Schema) (field : String) (op : Operator) :
    failsWith ViewError.isMismatch (checkFilter schema field op) = false := by
  refine failsWith_bind_eq_false (schema.failsWith_require ..) fun f _ => ?_
  split <;> rfl

namespace ViewState

variable {s : ViewState} {schema : Schema}

/-- **Only a refused arrangement makes the check of a state report a mismatch.** -/
theorem failsWith_validate (h : ¬ s.groupOrder.Refuses s.sort s.groupFields) :
    failsWith ViewError.isMismatch (s.validate schema) = false := by
  have hrequire (fields : List String) (use : FieldUse) : failsWith ViewError.isMismatch
      (fields.forM fun field => do let _ ← schema.require field use) = false :=
    failsWith_forM_eq_false fun field _ =>
      failsWith_bind_eq_false (schema.failsWith_require ..) fun _ _ => rfl
  refine failsWith_bind_eq_false (s.sort.failsWith_validate schema) fun _ _ => ?_
  refine failsWith_bind_eq_false ?_ fun _ _ => ?_
  · exact failsWith_forM_eq_false fun _ _ => FilterSet.failsWith_checkFilter ..
  refine failsWith_bind_eq_false (hrequire s.groupFields .group) fun _ _ => ?_
  refine failsWith_bind_eq_false (hrequire s.visibleColumns .column) fun _ _ => ?_
  exact failsWith_bind_eq_false (GroupOrder.failsWith_sortKeys h) fun _ _ => rfl

theorem failsWith_checked (h : ¬ s.groupOrder.Refuses s.sort s.groupFields) :
    failsWith ViewError.isMismatch (s.checked schema) = false :=
  failsWith_bind_eq_false (failsWith_validate h) fun _ _ => rfl

/-- A state whose parts fit the schema is valid unless its arrangement is refused. -/
theorem checked_cases (hsort : s.sort.validate schema = .ok ())
    (hfilters : s.filters.validate schema = .ok ())
    (hgroups : validateGroupFields s.groupFields schema = .ok ())
    (hcolumns : validateColumns s.visibleColumns schema = .ok ()) :
    (s.groupOrder.Refuses s.sort s.groupFields ∧
      ∃ err, s.checked schema = .error err ∧ err.isMismatch = true) ∨
    (s.validate schema = .ok () ∧ s.checked schema = .ok s) := by
  obtain ⟨hrefuses, err, hkeys, herr⟩ | ⟨-, keys, hkeys⟩ :=
    s.groupOrder.sortKeys_cases s.sort s.groupFields
  · refine .inl ⟨hrefuses, err, ?_, herr⟩
    rw [checked, validate, hsort, hfilters, hgroups, hcolumns, hkeys]
    rfl
  · have hvalid := validate_eq_ok_iff.mpr ⟨hsort, hfilters, hgroups, hcolumns, keys, hkeys⟩
    refine .inr ⟨hvalid, ?_⟩
    rw [checked, hvalid]
    rfl

end ViewState

/-! ## Commands -/

namespace Command

variable {α : Type}

/-- Whether a command leaves the arrangement of a view alone. -/
def keepsArrangement : Command α → Bool
  | .click .. | .setSort _ | .setGroupFields _ | .setGroupOrder _ | .applyConfig _ => false
  | _ => true

end Command

namespace Engine

variable {α : Type} {source : Source α} {records : List α} {e after : Engine α}
  {command : Command α} {mode : GroupOrder} {sort : SortSpec} {groups : List String}

/-- A command is applied by making the engine that it asks for. -/
theorem apply_eq_next (e : Engine α) (command : Command α) : e.apply command = e.next command := by
  rw [apply, step_eq]
  cases e.next command <;> rfl

theorem apply_eq_ok (h : e.apply command = .ok after) :
    after.Consistent ∧ after.source = e.source := by
  rw [apply_eq_next] at h
  obtain ⟨next, -, hmake⟩ := next_eq_ok_iff.mp h
  exact ⟨consistent_make hmake, source_make hmake⟩

/-- The arrangement of a consistent engine is not refused. -/
theorem Consistent.not_refuses (he : e.Consistent) :
    ¬ e.state.groupOrder.Refuses e.state.sort e.state.groupFields :=
  fun h => h.2 (he.leading h.1)

theorem failsWith_make {state : ViewState}
    (h : ¬ state.groupOrder.Refuses state.sort state.groupFields) :
    failsWith ViewError.isMismatch (make source records state) = false := by
  refine failsWith_bind_eq_false ?_ fun _ _ => rfl
  refine failsWith_bind_eq_false (ViewState.failsWith_validate h) fun _ _ => ?_
  exact failsWith_bind_eq_false (GroupOrder.failsWith_sortKeys h) fun _ _ => rfl

/-- What a command that leaves the arrangement alone asks for. -/
theorem requested_of_keepsArrangement (he : e.Consistent)
    (h : command.keepsArrangement = true) :
    failsWith ViewError.isMismatch (e.requested command) = false ∧
      ∀ next, e.requested command = .ok next →
        ¬ next.groupOrder.Refuses next.sort next.groupFields := by
  have hkept := he.not_refuses
  have hfilter (field : String) (f : Filter) :
      failsWith ViewError.isMismatch (e.state.withFilter field f e.source.schema) = false ∧
        ∀ next, e.state.withFilter field f e.source.schema = .ok next →
          ¬ next.groupOrder.Refuses next.sort next.groupFields := by
    refine ⟨failsWith_bind_eq_false (FilterSet.failsWith_checkFilter ..) fun _ _ => rfl, ?_⟩
    intro next hnext
    obtain ⟨_, -, hnext⟩ := bind_eq_ok_iff.mp hnext
    cases hnext
    exact hkept
  cases command with
  | setFilter field f => exact hfilter field f
  | filterText field raw =>
    refine ⟨failsWith_bind_eq_false (Schema.failsWith_require ..) fun _ _ => (hfilter ..).1, ?_⟩
    intro next hnext
    obtain ⟨_, -, hnext⟩ := bind_eq_ok_iff.mp hnext
    exact (hfilter ..).2 next hnext
  | removeFilter field =>
    refine ⟨failsWith_bind_eq_false (Schema.failsWith_require ..) fun _ _ => rfl, ?_⟩
    intro next hnext
    obtain ⟨_, -, hnext⟩ := bind_eq_ok_iff.mp hnext
    cases hnext
    exact hkept
  | setPageSize size =>
    refine ⟨failsWith_bind_eq_false ?_ fun _ _ => rfl, ?_⟩
    · unfold PageWindow.withSize PageWindow.make
      split <;> rfl
    · intro next hnext
      obtain ⟨_, -, hnext⟩ := bind_eq_ok_iff.mp hnext
      cases hnext
      exact hkept
  | setColumns columns =>
    refine ⟨@ViewState.failsWith_checked { e.state with visibleColumns := columns } _ hkept, ?_⟩
    intro next hnext
    obtain ⟨_, -, hnext⟩ := bind_eq_ok_iff.mp hnext
    cases hnext
    exact hkept
  | clearFilters | toggleGroup | foldGroup | expandAll | collapseAll | setPage | replaceRecords =>
    refine ⟨rfl, fun next hnext => ?_⟩
    cases hnext
    exact hkept
  | click | setSort | setGroupFields | setGroupOrder | applyConfig => cases h

/-- A command that leaves the arrangement alone does not report a mismatch. -/
theorem failsWith_apply (he : e.Consistent) (h : command.keepsArrangement = true) :
    failsWith ViewError.isMismatch (e.apply command) = false := by
  obtain ⟨hrequested, hnext⟩ := requested_of_keepsArrangement he h
  rw [apply_eq_next]
  exact failsWith_bind_eq_false hrequested fun next hok => failsWith_make (hnext next hok)

/-- What a change of the arrangement comes to: an engine that has the new one, or a mismatch where
that is refused. -/
inductive Arranges (source : Source α) (mode : GroupOrder) (sort : SortSpec)
    (groups : List String) : Except ViewError (Engine α) → Prop
  | ok {e : Engine α} (consistent : e.Consistent) (source_eq : e.source = source)
      (groupOrder_eq : e.state.groupOrder = mode) (sort_eq : e.state.sort = sort)
      (groupFields_eq : e.state.groupFields = groups) : Arranges source mode sort groups (.ok e)
  | error {err : ViewError} (refuses : mode.Refuses sort groups)
      (isMismatch : err.isMismatch = true) : Arranges source mode sort groups (.error err)

/-- A consistent engine has the arrangement of its state. -/
theorem Consistent.arranges (he : e.Consistent) :
    Arranges e.source e.state.groupOrder e.state.sort e.state.groupFields (.ok e) :=
  .ok he rfl rfl rfl rfl

/-- A command that asks for a state whose parts fit the schema rearranges the view. -/
theorem arranges_apply {next : ViewState} (he : e.Consistent)
    (hrequested : e.requested command = next.checked e.source.schema)
    (hsort : next.sort.validate e.source.schema = .ok ())
    (hfilters : next.filters = e.state.filters)
    (hgroups : validateGroupFields next.groupFields e.source.schema = .ok ())
    (hcolumns : next.visibleColumns = e.state.visibleColumns) :
    Arranges e.source next.groupOrder next.sort next.groupFields (e.apply command) := by
  obtain ⟨-, hvalid, -, hvalid', -⟩ := ViewState.validate_eq_ok_iff.mp he.valid
  rw [apply_eq_next, Engine.next, hrequested]
  obtain ⟨hrefuses, err, hchecked, herr⟩ | ⟨hnext, hchecked⟩ :=
    ViewState.checked_cases hsort (hfilters ▸ hvalid) hgroups (hcolumns ▸ hvalid')
  · rw [hchecked]
    exact .error hrefuses herr
  · obtain ⟨after, hmake⟩ := exists_make_eq_ok (command.recordsFrom e.records) hnext
    rw [hchecked]
    change Arranges _ _ _ _ (make e.source (command.recordsFrom e.records) next)
    rw [hmake]
    obtain ⟨view, -, rfl⟩ := make_eq_ok_iff.mp hmake
    exact .ok (consistent_make hmake) rfl rfl rfl rfl

theorem arranges_setGroupOrder (he : e.Consistent) (mode : GroupOrder) :
    Arranges e.source mode e.state.sort e.state.groupFields (e.apply (.setGroupOrder mode)) := by
  obtain ⟨hsort, -, hgroups, -⟩ := ViewState.validate_eq_ok_iff.mp he.valid
  exact @arranges_apply _ _ _ { e.state with groupOrder := mode } he rfl hsort rfl hgroups rfl

theorem arranges_setSort (he : e.Consistent) (hsort : sort.validate e.source.schema = .ok ()) :
    Arranges e.source e.state.groupOrder sort e.state.groupFields (e.apply (.setSort sort)) := by
  obtain ⟨-, -, hgroups, -⟩ := ViewState.validate_eq_ok_iff.mp he.valid
  exact @arranges_apply _ _ _ { e.state with sort } he rfl hsort rfl hgroups rfl

theorem arranges_setGroupFields (he : e.Consistent)
    (hgroups : validateGroupFields groups e.source.schema = .ok ()) :
    Arranges e.source e.state.groupOrder e.state.sort groups
      (e.apply (.setGroupFields groups)) := by
  obtain ⟨hsort, -⟩ := ViewState.validate_eq_ok_iff.mp he.valid
  exact @arranges_apply _ _ _ { e.state with groupFields := groups, collapsed := _ } he rfl hsort
    rfl hgroups rfl

end Engine

end Tabular
