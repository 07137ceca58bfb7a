import Tabular.Proofs.Group.Fold
/-!
# Outermost groups

The headers of level zero are those of the outermost groups, one for each run of entries
(`outermostHeaders_run_append`). The runs make up the entries, so the counts of these headers sum
to the number of entries (`sum_count_outermostHeaders`). When the outermost groups of all entries
are folded, the rows are these headers and nothing else, whatever other paths are folded
(`groupRows_of_folded`). It suffices to fold the paths of all headers that there are when nothing
is folded, though a path may have several of them (`contains_ofList_paths`).
-/

namespace Tabular

variable {α : Type}

namespace CollapsedSet

theorem ofList_eq_foldl (paths : List GroupPath) : ofList paths = paths.foldl collapse {} := by
  suffices ∀ m : SortedMap GroupPath Unit,
      (⟨(paths.map fun p => (p, ())).foldl (fun m e => m.insert e.1 e.2) m⟩ : CollapsedSet) =
        paths.foldl collapse ⟨m⟩ from this .empty
  induction paths with
  | nil => exact fun m => rfl
  | cons p paths ih => exact fun m => ih (m.insert p ())

/-- The set of the paths of a list contains these paths. -/
theorem contains_ofList (paths : List GroupPath) (p : GroupPath) :
    (ofList paths).contains p = decide (p ∈ paths) := by
  rw [ofList_eq_foldl]
  suffices ∀ s : CollapsedSet,
      (paths.foldl collapse s).contains p = (decide (p ∈ paths) || s.contains p) from
    (this {}).trans (Bool.or_false _)
  induction paths with
  | nil => simp
  | cons q paths ih =>
    intro s
    rw [List.foldl_cons, ih, contains_collapse, Bool.eq_iff_iff]
    simp only [Bool.or_eq_true, decide_eq_true_eq, List.mem_cons]
    tauto

end CollapsedSet

/-- The headers of the outermost groups among rows. -/
def outermostHeaders (rows : List (DisplayRow α)) : List GroupHeader :=
  (headersOf rows).filter fun h => h.level = 0

/-- The row of a header whose group is folded. -/
def GroupHeader.foldedRow (h : GroupHeader) : DisplayRow α := .header { h with collapsed := true }

section Outermost

variable {source : Source α} {folded other : CollapsedSet} {field : String} {fields : List String}
  {entries run rest : List (Entry α)} {value : GroupValue}

/-- Under a header there are no outermost groups. -/
theorem outermostHeaders_nestedRows_singleton :
    outermostHeaders (nestedRows source folded fields [value] entries) = [] := by
  refine List.filter_eq_nil_iff.mpr fun h hmem => ?_
  obtain ⟨row, hrow, hheader⟩ := List.mem_filterMap.mp hmem
  cases row with
  | record e => cases hheader
  | header header =>
    obtain rfl := Option.some.inj hheader
    have hdeeper := isDeeper_of_mem_nestedRows (show 0 < [value].length from Nat.one_pos) hrow
    simp only [isDeeper, DisplayRow.level?, Option.all_some, decide_eq_true_eq] at hdeeper
    simpa using hdeeper.ne'

/-- The first outermost group is the run in front. -/
theorem outermostHeaders_run_append (hfront : FrontRun (groupOf source field) value run rest) :
    outermostHeaders (nestedRows source folded (field :: fields) [] (run ++ rest)) =
      runHeader folded [] field value run.length ::
        outermostHeaders (nestedRows source folded (field :: fields) [] rest) := by
  have hunder : outermostHeaders (if folded.contains ⟨[value]⟩ then [] else
      nestedRows source folded fields [value] run) = [] := by
    split
    · rfl
    · exact outermostHeaders_nestedRows_singleton
  rw [nestedRows_run_append hfront]
  simp only [outermostHeaders, headersOf, List.filterMap_cons, DisplayRow.header?,
    List.filterMap_append, List.filter_cons, List.filter_append, List.nil_append] at hunder ⊢
  rw [hunder]
  rfl

/-- **The counts of the outermost headers sum to the number of entries.** -/
theorem sum_count_outermostHeaders :
    ((outermostHeaders (groupRows source (field :: fields) folded entries)).map (·.count)).sum =
      entries.length := by
  rw [groupRows_eq_nestedRows]
  induction entries using run_induction (groupOf source field) with
  | nil => simp [outermostHeaders, headersOf]
  | append run rest value hfront ih =>
    rw [outermostHeaders_run_append hfront, List.map_cons, List.sum_cons, ih, List.length_append]
    rfl

/-- **When all outermost groups are folded, their headers are the rows**, in the order in which they
stand among the rows under any other folded groups. -/
theorem groupRows_of_folded
    (h : ∀ e ∈ entries, folded.contains ⟨[groupOf source field e]⟩ = true) :
    groupRows source (field :: fields) folded entries =
      (outermostHeaders (groupRows source (field :: fields) other entries)).map (·.foldedRow) := by
  rw [groupRows_eq_nestedRows, groupRows_eq_nestedRows]
  induction entries using run_induction (groupOf source field) with
  | nil => simp [outermostHeaders, headersOf]
  | append run rest value hfront ih =>
    obtain ⟨hrun, hrest⟩ := List.forall_mem_append.mp h
    have hvalue : folded.contains ⟨[value]⟩ = true := by
      obtain ⟨e, he⟩ := List.exists_mem_of_ne_nil run hfront.ne_nil
      rw [← hfront.eq e he]
      exact hrun e he
    rw [nestedRows_run_append hfront, outermostHeaders_run_append hfront, ih hrest]
    simp [hvalue, GroupHeader.foldedRow, runHeader]

/-- Folding the paths of all headers folds the outermost group of every entry. -/
theorem contains_ofList_paths {e : Entry α} (he : e ∈ entries) :
    (CollapsedSet.ofList
      ((headersOf (groupRows source (field :: fields) {} entries)).map (·.path))).contains
        ⟨[groupOf source field e]⟩ = true := by
  obtain ⟨h, hmem, hpath⟩ : ∃ h ∈ nestedHeaders source {} (field :: fields) [] entries,
    h.path.values = [groupOf source field e] := exists_mem_of_mem he
  rw [CollapsedSet.contains_ofList, decide_eq_true_eq, groupRows_eq_nestedRows, ← hpath]
  exact List.mem_map_of_mem hmem

end Outermost

end Tabular
