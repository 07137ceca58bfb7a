import Tabular.Proofs.Order.Positions
import Tabular.Proofs.View.Valid
/-!
# Filters and sorting

Which records pass a filter set is decided by the filter of each field
(`FilterSet.passes_eq_true_iff`), and the order of two records does not depend on the records around
them. So it makes no difference whether records are filtered before they are sorted or after
(`sortEntries_filter`).

The positions of a view are therefore those of the view without filters, thinned out
(`View.sortedIndices_filtered`). One filter more thins them out further, one filter less brings
positions back between those that were there, and a filter without an operand leaves the whole view
as it is without that filter.
-/

namespace Tabular

/-! ## Filters without an operand -/

/-- A filter is inactive when the operands that it takes are blank, unless it tests for
emptiness. -/
theorem Filter.isActive_eq_false_iff {f : Filter} :
    f.isActive = false ↔ f.operator ≠ .isEmpty ∧ Text.isBlank f.value = true ∧
      (f.operator.isRange = true → Text.isBlank f.secondValue = true) := by
  unfold isActive
  by_cases hempty : f.operator = .isEmpty
  · simp [hempty]
  · cases hrange : f.operator.isRange <;> simp [hempty]

/-! ## Filter sets -/

/-- An entry of a map is what its key finds. -/
theorem SortedMap.find?_eq_some_iff {κ υ : Type} [Ord κ] [Std.TransOrd κ] [Std.LawfulEqOrd κ]
    {m : SortedMap κ υ} {k : κ} {v : υ} : m.find? k = some v ↔ (k, v) ∈ m.entries := by
  unfold find?
  constructor
  · intro h
    obtain ⟨e, he, rfl⟩ := Option.map_eq_some_iff.mp h
    obtain rfl : e.1 = k := by simpa using List.find?_some he
    exact List.mem_of_find?_eq_some he
  · intro h
    obtain ⟨before, after, hsplit⟩ := List.append_of_mem h
    have hbefore : ∀ e ∈ before, compare e.1 k = .lt := fun e he =>
      (List.pairwise_append.mp (hsplit ▸ m.ascending)).2.2 e he (k, v) List.mem_cons_self
    rw [hsplit, List.find?_append, List.find?_eq_none.mpr fun e he => by simp [hbefore e he]]
    simp

namespace FilterSet

variable {α : Type} {s : FilterSet} {source : Source α} {schema : Schema} {record : α}
  {field : String} {f : Filter}

/-- **A record passes when the filter of each field admits its value.** -/
theorem passes_eq_true_iff : s.passes source record = true ↔ ∀ field f, s.find? field = some f →
    f.admits (source.schema.domainOf field) (source.value record field) = true := by
  simp only [passes, active, toList, find?, SortedMap.find?_eq_some_iff, List.all_eq_true,
    List.mem_filter, Prod.forall, and_imp]
  refine forall₃_congr fun field f _ => ⟨fun h => ?_, fun h _ => h⟩
  cases hactive : f.isActive with
  | true => exact h hactive
  | false => exact Filter.admits_of_not_isActive hactive ..

theorem find?_insert (other : String) :
    (s.insert field f).find? other = if field = other then some f else s.find? other := by
  simp only [find?, insert, SortedMap.find?_insert, Std.compare_eq_iff_eq]

theorem find?_erase (other : String) :
    (s.erase field).find? other = if field = other then none else s.find? other := by
  simp only [find?, erase, SortedMap.find?_erase, Std.compare_eq_iff_eq]

/-- What passes with one filter more passes without it. -/
theorem passes_of_passes_insert (hnone : s.find? field = none)
    (h : (s.insert field f).passes source record = true) : s.passes source record = true := by
  refine passes_eq_true_iff.mpr fun other g hother => passes_eq_true_iff.mp h other g ?_
  rw [find?_insert, if_neg, hother]
  rintro rfl
  simp [hnone] at hother

/-- What passes passes with one filter less. -/
theorem passes_erase_of_passes (h : s.passes source record = true) :
    (s.erase field).passes source record = true := by
  refine passes_eq_true_iff.mpr fun other g hother => passes_eq_true_iff.mp h other g ?_
  rw [find?_erase] at hother
  split at hother
  · cases hother
  · exact hother

/-- An inactive filter lets through what passes without it. -/
theorem passes_erase_of_not_isActive (hfind : s.find? field = some f)
    (hactive : f.isActive = false) :
    (s.erase field).passes source record = s.passes source record := by
  rw [Bool.eq_iff_iff]
  refine ⟨fun h => passes_eq_true_iff.mpr fun other g hother => ?_, passes_erase_of_passes⟩
  by_cases hfield : field = other
  · subst hfield
    obtain rfl : f = g := Option.some.inj (hfind.symm.trans hother)
    exact Filter.admits_of_not_isActive hactive ..
  · refine passes_eq_true_iff.mp h other g ?_
    rw [find?_erase, if_neg hfield, hother]

theorem validate_eq_ok_iff : s.validate schema = .ok () ↔
    ∀ e ∈ s.toList, checkFilter schema e.1 e.2.operator = .ok () := by
  rw [validate, forM_eq_ok_iff]

theorem validate_insert (h : s.validate schema = .ok ())
    (hcheck : checkFilter schema field f.operator = .ok ()) :
    (s.insert field f).validate schema = .ok () := by
  refine validate_eq_ok_iff.mpr fun e he => ?_
  obtain rfl | he := SortedMap.mem_insertEntry he
  · exact hcheck
  · exact validate_eq_ok_iff.mp h e he

theorem validate_erase (field : String) (h : s.validate schema = .ok ()) :
    (s.erase field).validate schema = .ok () :=
  validate_eq_ok_iff.mpr fun e he => validate_eq_ok_iff.mp h e (List.mem_of_mem_filter he)

end FilterSet

/-! ## Sorting and filtering -/

variable {α : Type} {source : Source α}

theorem getElem?_of_mem_entriesOf {records : List α} {e : Entry α} (he : e ∈ entriesOf records) :
    records[e.index]? = some e.record := by
  obtain ⟨⟨record, index⟩, hmem, rfl⟩ := List.mem_map.mp he
  exact List.mem_zipIdx_iff_getElem?.mp hmem

/-- **Filtering and sorting commute**, for entries of one record set. -/
theorem sortEntries_filter {keys : List SortKey} {records : List α} {entries : List (Entry α)}
    (h : ∀ e ∈ entries, records[e.index]? = some e.record) (p : Entry α → Bool) :
    sortEntries source keys (entries.filter p) = (sortEntries source keys entries).filter p := by
  have hfiltered : ∀ e ∈ sortEntries source keys (entries.filter p),
      records[e.index]? = some e.record := fun e he =>
    h e (List.mem_of_mem_filter (sortEntries_perm.subset he))
  have hsorted : ∀ e ∈ (sortEntries source keys entries).filter p,
      records[e.index]? = some e.record := fun e he =>
    h e (sortEntries_perm.subset (List.mem_of_mem_filter he))
  exact eq_of_pairwise_precedes hfiltered hsorted
    (sortEntries_perm.trans (sortEntries_perm.symm.filter p)) pairwise_precedes_sortEntries
    (pairwise_precedes_sortEntries.filter p)

/-! ## Views with other filters -/

namespace View

variable {state : ViewState} {records : List α} {filters : FilterSet} {keys : List SortKey}

/-- The view of a state with other filters, sorted by the same keys. -/
theorem compute_otherFilters (hvalid : state.validate source.schema = .ok ())
    (hkeys : state.groupOrder.sortKeys state.sort state.groupFields = .ok keys)
    (hfilters : filters.validate source.schema = .ok ()) :
    compute source { state with filters } records =
      .ok (ofKeys source { state with filters } records keys) :=
  compute_eq_ok_iff.mpr ⟨ViewState.validate_otherFilters hvalid hfilters, keys, hkeys, rfl⟩

/-- The positions of a view are those of all records in order, without those that do not pass. -/
theorem sortedIndices_ofKeys :
    (ofKeys source state records keys).sortedIndices =
      ((sortEntries source keys (entriesOf records)).map (·.index)).filter fun i =>
        (records[i]?).any fun record => state.filters.passes source record := by
  have hsorted : (ofKeys source state records keys).sorted =
      (sortEntries source keys (entriesOf records)).filter fun e =>
        state.filters.passes source e.record :=
    sortEntries_filter (fun _ => getElem?_of_mem_entriesOf) _
  rw [sortedIndices, hsorted, List.filter_map]
  refine congrArg (List.map _) (List.filter_congr fun e he => ?_)
  simp [getElem?_of_mem_entriesOf (sortEntries_perm.subset he)]

/-- Where more passes, there are more positions, and in the same order. -/
theorem sortedIndices_sublist {fewer more : ViewState}
    (h : ∀ record, fewer.filters.passes source record = true →
      more.filters.passes source record = true) :
    (ofKeys source fewer records keys).sortedIndices.Sublist
      (ofKeys source more records keys).sortedIndices := by
  rw [sortedIndices_ofKeys, sortedIndices_ofKeys]
  refine List.monotone_filter_right _ fun i => ?_
  cases records[i]? with
  | none => exact id
  | some record => exact h record

/-- **Filters thin out the sorted records and do nothing else to them.** The positions of a view are
those of the view without filters that have a record which passes, in the same order. A filter on a
field that has none leaves some of them, and removing a filter adds some. A filter whose operands
are blank, unless it tests for emptiness, leaves the whole view as it is without a filter on its
field: the records, the rows with their headers and counts, and the page. -/
theorem sortedIndices_filtered (records : List α) (hvalid : state.validate source.schema = .ok ()) :
    ∃ view whole, compute source state records = .ok view ∧
      compute source { state with filters := {} } records = .ok whole ∧
      view.sortedIndices = whole.sortedIndices.filter (fun i =>
        (records[i]?).any fun record => state.filters.passes source record) ∧
      (∀ field f, state.filters.find? field = none →
        FilterSet.checkFilter source.schema field f.operator = .ok () →
        ∃ fewer, compute source { state with filters := state.filters.insert field f } records =
          .ok fewer ∧ fewer.sortedIndices.Sublist view.sortedIndices) ∧
      (∀ field, ∃ more,
        compute source { state with filters := state.filters.erase field } records = .ok more ∧
          view.sortedIndices.Sublist more.sortedIndices) ∧
      ∀ field f, state.filters.find? field = some f → f.operator ≠ .isEmpty →
        Text.isBlank f.value = true →
        (f.operator.isRange = true → Text.isBlank f.secondValue = true) →
        compute source { state with filters := state.filters.erase field } records = .ok view := by
  obtain ⟨-, hfilters, -, -, keys, hkeys⟩ := ViewState.validate_eq_ok_iff.mp hvalid
  have hcompute {filters : FilterSet} (h : filters.validate source.schema = .ok ()) :
      compute source { state with filters } records = .ok _ := compute_otherFilters hvalid hkeys h
  refine ⟨_, _, hcompute hfilters, @hcompute {} rfl, ?thin, ?add, ?remove, ?inert⟩
  case thin =>
    rw [sortedIndices_ofKeys, sortedIndices_ofKeys, List.filter_filter]
    refine List.filter_congr fun i _ => ?_
    cases records[i]? with
    | none => rfl
    | some record => exact (Bool.and_true _).symm
  case add =>
    intro field f hnone hcheck
    exact ⟨_, hcompute (FilterSet.validate_insert hfilters hcheck),
      sortedIndices_sublist fun _ => FilterSet.passes_of_passes_insert hnone⟩
  case remove =>
    intro field
    exact ⟨_, hcompute (FilterSet.validate_erase field hfilters),
      sortedIndices_sublist fun _ => FilterSet.passes_erase_of_passes⟩
  case inert =>
    intro field f hfind hop hvalue hsecond
    have hactive := Filter.isActive_eq_false_iff.mpr ⟨hop, hvalue, hsecond⟩
    have hsame : filtered source { state with filters := state.filters.erase field } records =
        filtered source state records :=
      List.filter_congr fun e _ => FilterSet.passes_erase_of_not_isActive hfind hactive
    rw [hcompute (FilterSet.validate_erase field hfilters)]
    simp only [ofKeys, hsame]

/-- Of three records that are sorted by their first flag, descending, the filter on the second flag
lets through the last two. -/
theorem sortedIndices_filtered_flagPairs :
    let state : ViewState :=
      { sort := ⟨[⟨"a", .descending⟩]⟩, filters := .ofList [("b", ⟨.equals, "yes", none⟩)] }
    let records := [(true, false), (true, true), (false, true)]
    state.validate flagPairs.schema = .ok () ∧
      ∃ view, compute flagPairs state records = .ok view ∧ view.sortedIndices = [1, 2] := by
  intro state records
  have hvalid : state.validate flagPairs.schema = .ok () := by decide
  have hsorted : sortEntries flagPairs state.sort.keys (entriesOf records) = entriesOf records :=
    sortEntries_of_pairwise (by decide +kernel)
  obtain ⟨view, whole, hview, hwhole, hthin, -⟩ := sortedIndices_filtered records hvalid
  obtain ⟨-, keys, hkeys, rfl⟩ := compute_eq_ok_iff.mp hwhole
  obtain rfl : state.sort.keys = keys := Except.ok.inj hkeys
  refine ⟨hvalid, view, hview, ?_⟩
  rw [hthin, sortedIndices_ofKeys, hsorted]
  decide +kernel

end View

end Tabular
