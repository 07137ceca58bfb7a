import Tabular.Proofs.Group.Whole
import Tabular.Proofs.Order.Sorted
import Tabular.Proofs.View.Valid
/-!
# When the groups of a view are whole

A view that sorts by its group fields first puts the records of a group between the first and the
last of them in that order. The group is whole unless a record of another group comes strictly
between two of its own (`Unsplit`, `View.groups_whole_iff`).

That happens when records of one group are not read alike. The records of one day are one group of
a date field and are sorted by their instants, so that at the next group field the records of a day
may come in any order; and what cannot be read in its domain may have the label of what can.
Where records of one group are read alike, groups are whole (`unsplit_of_readings`).
-/

namespace Tabular

variable {α : Type} {source : Source α} {folded : CollapsedSet} {sort : SortSpec}
  {field : String} {fields : List String} {ancestors : List GroupValue}
  {entries : List (Entry α)}

/-! ## Groups with a header -/

/-- No group on the way from the groups around to a group inside them is folded. -/
def OpenTo (folded : CollapsedSet) (ancestors path : List GroupValue) : Prop :=
  ∀ outer, outer <+: path → outer ≠ [] → outer ≠ path → folded.contains ⟨ancestors ++ outer⟩ = false

theorem openTo_cons {value : GroupValue} {path : List GroupValue}
    (hopen : folded.contains ⟨ancestors ++ [value]⟩ = false)
    (h : OpenTo folded (ancestors ++ [value]) path) : OpenTo folded ancestors (value :: path) := by
  intro outer hprefix hne hproper
  obtain ⟨first, inner, rfl⟩ := List.exists_cons_of_ne_nil hne
  obtain ⟨rfl, hinner⟩ := List.cons_prefix_cons.mp hprefix
  by_cases hnil : inner = []
  · subst hnil
    exact hopen
  · have := h inner hinner hnil fun heq => hproper (heq ▸ rfl)
    rwa [List.append_assoc, List.singleton_append] at this

theorem openTo_of_cons {value : GroupValue} {path : List GroupValue} (hne : path ≠ [])
    (h : OpenTo folded ancestors (value :: path)) :
    folded.contains ⟨ancestors ++ [value]⟩ = false ∧
      OpenTo folded (ancestors ++ [value]) path := by
  constructor
  · refine h [value] (List.prefix_append [value] path) (List.cons_ne_nil _ _) ?_
    exact fun heq => hne (List.cons.inj heq).2.symm
  · intro outer hprefix houter hproper
    have := h (value :: outer) ((List.prefix_cons_inj value).mpr hprefix) (List.cons_ne_nil _ _)
      fun heq => hproper (List.cons.inj heq).2
    rwa [List.append_assoc, List.singleton_append]

theorem openTo_singleton {value : GroupValue} : OpenTo folded ancestors [value] := by
  intro outer hprefix hne hproper
  obtain ⟨first, inner, rfl⟩ := List.exists_cons_of_ne_nil hne
  obtain ⟨rfl, hinner⟩ := List.cons_prefix_cons.mp hprefix
  exact absurd (by rw [List.prefix_nil.mp hinner]) hproper

/-! ## Groups in a sorted list -/

/-- The order under the fields, after some earlier keys, splits no group that has a header: what
comes strictly between two entries of a group is in the group. The groups are inside
`ancestors`. -/
def UnsplitUnder (source : Source α) (folded : CollapsedSet) (sort : SortSpec)
    (earlier : List SortKey) (ancestors : List GroupValue) (fields : List String)
    (entries : List (Entry α)) : Prop :=
  ∀ outer, outer <+: fields → ∀ x ∈ entries, ∀ y ∈ entries, ∀ z ∈ entries,
    OpenTo folded ancestors (groupTuple source outer x) →
    groupTuple source outer x = groupTuple source outer z →
    compareBy source (earlier ++ sort.leadingKeys outer) x y = .lt →
    compareBy source (earlier ++ sort.leadingKeys outer) y z = .lt →
    groupTuple source outer y = groupTuple source outer x

/-- The order under the fields splits no group that has a header. -/
def Unsplit (source : Source α) (folded : CollapsedSet) (sort : SortSpec) (fields : List String)
    (entries : List (Entry α)) : Prop :=
  UnsplitUnder source folded sort [] [] fields entries

theorem groupOf_eq_of_readingOf_eq {a b : Entry α}
    (h : readingOf source field a = readingOf source field b) :
    groupOf source field a = groupOf source field b := by
  unfold readingOf at h
  simp only [groupOf, GroupValue.of, h]

/-- Entries that come in order and are not in one group at the last field come in strict order. -/
theorem compareBy_eq_lt_of_ne {keys more : List SortKey} {key : SortKey} {a b : Entry α}
    (hle : (compareBy source (keys ++ key :: more) a b).isLE)
    (hne : groupOf source key.field a ≠ groupOf source key.field b) :
    compareBy source (keys ++ [key]) a b = .lt := by
  rw [← List.singleton_append, ← List.append_assoc] at hle
  have hle := isLE_compareBy_of_append hle
  cases horder : compareBy source (keys ++ [key]) a b with
  | lt => rfl
  | eq =>
    have hread := compareBy_eq_eq_iff.mp horder key (by simp)
    exact absurd (groupOf_eq_of_readingOf_eq hread) hne
  | gt => simp [horder] at hle

theorem leadingKeys_cons :
    sort.leadingKeys (field :: fields) = sort.leadingKey field :: sort.leadingKeys fields := rfl

theorem leadingKeys_append {outer inner : List String} :
    sort.leadingKeys (outer ++ inner) = sort.leadingKeys outer ++ sort.leadingKeys inner :=
  List.map_append

theorem append_leadingKeys_cons (earlier : List SortKey) :
    earlier ++ sort.leadingKeys (field :: fields) =
      (earlier ++ [sort.leadingKey field]) ++ sort.leadingKeys fields := by
  rw [leadingKeys_cons, List.append_assoc, List.singleton_append]

section Step

variable {earlier : List SortKey}

/-- When no outermost group is split, the entries of each stand together. -/
theorem contiguous_of_unsplitUnder
    (hsorted : entries.Pairwise fun a b =>
      (compareBy source (earlier ++ sort.leadingKeys (field :: fields)) a b).isLE)
    (h : UnsplitUnder source folded sort earlier ancestors (field :: fields) entries) :
    Contiguous (groupOf source field) entries := by
  intro x y z hsub hxz
  by_contra hne
  obtain ⟨hfromx, hrest⟩ := List.pairwise_cons.mp (hsorted.sublist hsub)
  obtain ⟨hfromy, -⟩ := List.pairwise_cons.mp hrest
  have hxy := compareBy_eq_lt_of_ne (hfromx y (by simp)) (Ne.symm hne)
  have hyz := compareBy_eq_lt_of_ne (hfromy z (by simp)) fun heq => hne (heq.trans hxz.symm)
  have hyx := h [field] (List.prefix_append [field] fields)
    x (hsub.subset (by simp)) y (hsub.subset (by simp)) z (hsub.subset (by simp))
    openTo_singleton (congrArg ([·]) hxz) hxy hyz
  exact hne (List.cons.inj hyx).1

/-- When no group is split, none is split inside an outermost group that is open. -/
theorem unsplitUnder_filter {value : GroupValue}
    (hopen : folded.contains ⟨ancestors ++ [value]⟩ = false)
    (h : UnsplitUnder source folded sort earlier ancestors (field :: fields) entries) :
    UnsplitUnder source folded sort (earlier ++ [sort.leadingKey field]) (ancestors ++ [value])
      fields (entries.filter fun e => groupOf source field e = value) := by
  intro outer houter x hx y hy z hz hinner hxz hxy hyz
  simp only [List.mem_filter, decide_eq_true_eq] at hx hy hz
  rw [← append_leadingKeys_cons] at hxy hyz
  have hyx := h (field :: outer) ((List.prefix_cons_inj field).mpr houter)
    x hx.1 y hy.1 z hz.1 ?_ ?_ hxy hyz
  · exact (List.cons.inj hyx).2
  · rw [groupTuple_cons, hx.2]
    exact openTo_cons hopen hinner
  · rw [groupTuple_cons, groupTuple_cons, hx.2, hz.2, hxz]

/-- No group is split when each outermost one stands together and none is split inside it. -/
theorem unsplitUnder_cons
    (hsorted : entries.Pairwise fun a b =>
      (compareBy source (earlier ++ sort.leadingKeys (field :: fields)) a b).isLE)
    (hcontiguous : Contiguous (groupOf source field) entries)
    (hinner : ∀ value, folded.contains ⟨ancestors ++ [value]⟩ = false →
      UnsplitUnder source folded sort (earlier ++ [sort.leadingKey field]) (ancestors ++ [value])
        fields (entries.filter fun e => groupOf source field e = value)) :
    UnsplitUnder source folded sort earlier ancestors (field :: fields) entries := by
  intro outer houter x hx y hy z hz hopen hxz hxy hyz
  cases outer with
  | nil => rfl
  | cons first inner =>
    obtain ⟨rfl, rest, rfl⟩ := List.cons_prefix_cons.mp houter
    obtain ⟨hfirst, htuple⟩ := List.cons.inj hxz
    have hsub : [x, y, z].Sublist entries := by
      rw [← List.cons_append, leadingKeys_append, ← List.append_assoc] at hsorted
      exact triple_sublist_of_pairwise hsorted hx hy hz hxy hyz
    have hyx := hcontiguous x y z hsub hfirst
    rw [groupTuple_cons, groupTuple_cons, hyx, List.cons_inj_right]
    by_cases hnil : inner = []
    · rw [hnil]
      rfl
    · have hne : groupTuple source inner x ≠ [] := by simpa [groupTuple] using hnil
      obtain ⟨hfirst_open, hopen⟩ := openTo_of_cons hne hopen
      rw [append_leadingKeys_cons] at hxy hyz
      exact hinner _ hfirst_open inner (List.prefix_append inner rest)
        x (by simp [hx]) y (by simp [hy, hyx]) z (by simp [hz, hfirst]) hopen htuple hxy hyz

end Step

/-- **In a sorted list, no group is interrupted exactly when none is split by the order.** -/
theorem unbroken_iff_unsplitUnder {earlier : List SortKey}
    (hsorted : entries.Pairwise fun a b =>
      (compareBy source (earlier ++ sort.leadingKeys fields) a b).isLE) :
    Unbroken source folded fields ancestors entries ↔
      UnsplitUnder source folded sort earlier ancestors fields entries := by
  induction fields generalizing earlier ancestors entries with
  | nil =>
    refine ⟨fun _ outer houter x _ y _ z _ _ _ _ _ => ?_, fun _ => trivial⟩
    rw [List.prefix_nil.mp houter]
    rfl
  | cons field fields ih =>
    have hgroup (value : GroupValue) := by
      have := hsorted.filter fun e => groupOf source field e = value
      rw [append_leadingKeys_cons] at this
      exact @ih (ancestors ++ [value]) _ _ this
    constructor
    · rintro ⟨hcontiguous, hinner⟩
      exact unsplitUnder_cons hsorted hcontiguous fun value hopen =>
        (hgroup value).mp (hinner value hopen)
    · intro h
      exact ⟨contiguous_of_unsplitUnder hsorted h, fun value hopen =>
        (hgroup value).mpr (unsplitUnder_filter hopen h)⟩

/-- Among fewer entries, no more groups are split. -/
theorem unsplit_of_subset {more : List (Entry α)} (hsub : more ⊆ entries)
    (h : Unsplit source folded sort fields entries) : Unsplit source folded sort fields more :=
  fun outer houter x hx y hy z hz => h outer houter x (hsub hx) y (hsub hy) z (hsub hz)

/-- Where records of one group are read alike, nothing comes strictly between two of them. -/
theorem unsplit_of_readings (h : ∀ x ∈ entries, ∀ z ∈ entries, ∀ field ∈ fields,
    groupOf source field x = groupOf source field z →
      readingOf source field x = readingOf source field z) :
    Unsplit source folded sort fields entries := by
  intro outer houter x hx y _ z hz _ hxz hxy hyz
  have hlt : compareBy source (sort.leadingKeys outer) x z = .lt := Std.TransCmp.lt_trans hxy hyz
  have heq : compareBy source (sort.leadingKeys outer) x z = .eq := by
    refine compareBy_eq_eq_iff.mpr fun key hkey => ?_
    obtain ⟨field, hfield, rfl⟩ := List.mem_map.mp hkey
    refine h x hx z hz field (houter.subset hfield) ?_
    exact List.map_inj_left.mp hxz field hfield
  simp [heq] at hlt

/-! ## Views -/

namespace View

theorem sortKeys_of_validate {state : ViewState} {keys : List SortKey}
    (hvalid : state.validate source.schema = .ok ()) (hmode : state.groupOrder ≠ .unchecked)
    (hkeys : state.groupOrder.sortKeys state.sort state.groupFields = .ok keys) :
    ∃ more, keys = state.sort.leadingKeys state.groupFields ++ more := by
  obtain ⟨hsort, -⟩ := ViewState.validate_eq_ok_iff.mp hvalid
  exact GroupOrder.exists_leadingKeys_append hmode (SortSpec.nodup_fields_of_validate hsort) hkeys

/-- **The groups of a view are whole exactly when the order under the group fields splits none of
them.** -/
theorem groups_whole_iff {state : ViewState} (records : List α)
    (hvalid : state.validate source.schema = .ok ()) (hmode : state.groupOrder ≠ .unchecked) :
    ∃ view, compute source state records = .ok view ∧
      (GroupsWhole source state.groupFields (filtered source state records) view.displayRows ↔
        Unsplit source state.collapsed state.sort state.groupFields
          (filtered source state records)) := by
  obtain ⟨view, hview⟩ := exists_compute_eq_ok records hvalid
  refine ⟨view, hview, ?_⟩
  obtain ⟨-, keys, hkeys, rfl⟩ := compute_eq_ok_iff.mp hview
  obtain ⟨more, rfl⟩ := sortKeys_of_validate hvalid hmode hkeys
  have hperm := @sortEntries_perm _ source (state.sort.leadingKeys state.groupFields ++ more)
    (filtered source state records)
  have hsorted := @pairwise_sortEntries_append _ source
    (state.sort.leadingKeys state.groupFields) more (filtered source state records)
  constructor
  · intro h
    have hunbroken := groupsWhole_groupRows_iff.mp (groupsWhole_of_perm hperm h)
    refine unsplit_of_subset hperm.symm.subset ?_
    exact (@unbroken_iff_unsplitUnder _ _ _ _ _ _ _ [] hsorted).mp hunbroken
  · intro h
    have hunsplit := unsplit_of_subset hperm.subset h
    refine groupsWhole_of_perm hperm.symm (groupsWhole_groupRows_iff.mpr ?_)
    exact (@unbroken_iff_unsplitUnder _ _ _ _ _ _ _ [] hsorted).mpr hunsplit

/-- Times of day with a flag, read as a record with the day and the flag. -/
def flaggedTimes : Source (String × Bool) where
  schema := ⟨[⟨"day", .date, none⟩, ⟨"done", .boolean, none⟩]⟩
  value r field := if field = "day" then .text r.1 else .flag r.2
  transliterate := id

/-- Grouped by the flag, the same flags are read alike, and the groups are whole. -/
theorem groups_whole_iff_flaggedTimes :
    let state : ViewState :=
      { sort := ⟨[⟨"done", .descending⟩]⟩, groupFields := ["done"], groupOrder := .strict }
    let records := [("2024-01-01T01:00:00", true), ("2024-01-01T02:00:00", false),
      ("2024-01-01T03:00:00", true)]
    state.validate flaggedTimes.schema = .ok () ∧ state.groupOrder ≠ .unchecked ∧
      ∃ view, compute flaggedTimes state records = .ok view ∧
        GroupsWhole flaggedTimes ["done"] (filtered flaggedTimes state records)
          view.displayRows := by
  intro state records
  have hvalid : state.validate flaggedTimes.schema = .ok () := by decide
  have hmode : state.groupOrder ≠ .unchecked := by decide
  obtain ⟨view, hview, hwhole⟩ := groups_whole_iff records hvalid hmode
  refine ⟨hvalid, hmode, view, hview, hwhole.mpr (unsplit_of_readings ?_)⟩
  decide +kernel

/-- Grouped by the day and then by the flag, a day is sorted by its times, and a flag between two
times of the other flag splits their group. -/
theorem groups_split_within_day :
    let state : ViewState := { groupFields := ["day", "done"], groupOrder := .prepend }
    let records := [("2024-01-01T01:00:00", true), ("2024-01-01T02:00:00", false),
      ("2024-01-01T03:00:00", true)]
    state.validate flaggedTimes.schema = .ok () ∧
      ∃ view, compute flaggedTimes state records = .ok view ∧
        (headersOf view.displayRows).map (fun h => (h.path, h.count)) =
          [(⟨[.text "2024-01-01"]⟩, 3), (⟨[.text "2024-01-01", .text "true"]⟩, 1),
           (⟨[.text "2024-01-01", .text "false"]⟩, 1), (⟨[.text "2024-01-01", .text "true"]⟩, 1)] ∧
        ¬ GroupsWhole flaggedTimes ["day", "done"] (filtered flaggedTimes state records)
          view.displayRows := by
  intro state records
  have hvalid : state.validate flaggedTimes.schema = .ok () := by decide
  have hkeys : state.groupOrder.sortKeys state.sort state.groupFields =
      .ok [⟨"day", .ascending⟩, ⟨"done", .ascending⟩] := by decide
  have hsorted : sortEntries flaggedTimes [⟨"day", .ascending⟩, ⟨"done", .ascending⟩]
      (filtered flaggedTimes state records) = filtered flaggedTimes state records :=
    sortEntries_of_pairwise (by decide +kernel)
  obtain ⟨view, hview, hrows⟩ : ∃ view, compute flaggedTimes state records = .ok view ∧
      view.displayRows =
        groupRows flaggedTimes ["day", "done"] {} (filtered flaggedTimes state records) :=
    ⟨_, compute_eq_ok_iff.mpr ⟨hvalid, _, hkeys, rfl⟩, congrArg _ hsorted⟩
  refine ⟨hvalid, view, hview, ?headers, fun hwhole => ?split⟩
  case headers =>
    rw [hrows]
    decide +kernel
  case split =>
    have hcount := hwhole.count_eq
    rw [hrows] at hcount
    revert hcount
    decide +kernel

end View

end Tabular
