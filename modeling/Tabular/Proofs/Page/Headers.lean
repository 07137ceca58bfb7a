import Mathlib.Data.List.Sort
import Tabular.Proofs.Group.Shape
/-!
# Headers of a page

The page of a window among grouped rows, with the positions of its rows in the list (`shownRows`).
What the page shows of a group comes from two sides: the shape of grouped rows says that a header
has nothing under it just when it is folded, and the cut says that a header is on the page when a
row of its run has a place there.

So a page reads well on its own (`page_shows_groups`). Above a row stand the headers of all the
groups around it, outermost first (`filter_inRun_above`, `filterMap_path_inRun`), and a header is
there for a record, or for a folded group that belongs to the page (`header_mem_shownRows_iff`).
-/

namespace Tabular

variable {α : Type}

/-- The rows of the page of a window, with their positions in the list. -/
def shownRows (rows : List (DisplayRow α)) (w : PageWindow) : List (DisplayRow α × Nat) :=
  markedPage rows (w.clamp (countRecords rows))

/-- Whether the page of a window is where a header without rows belongs, by its position: the page
shows the next record, or is the last page when no record follows. -/
def IsAnchorPage (rows : List (DisplayRow α)) (w : PageWindow) (i : Nat) : Prop :=
  match (rows.zipIdx.drop (i + 1)).find? (·.1.isRecord) with
  | some next => next ∈ shownRows rows w
  | none => (paginate rows w).2.page = (paginate rows w).2.totalPages

/-- The values of the groups around a row, outermost first. -/
def DisplayRow.around (source : Source α) (fields : List String) : DisplayRow α → List GroupValue
  | .record e => groupTuple source fields e
  | .header h => h.path.values.dropLast

section Shown

variable {rows : List (DisplayRow α)} {w : PageWindow} {h : GroupHeader} {i j : Nat}

theorem paginate_eq_map_shownRows (rows : List (DisplayRow α)) (w : PageWindow) :
    (paginate rows w).1 = (shownRows rows w).map (·.1) := by
  have key : pageRowsFrom DisplayRow.level? (w.clamp (countRecords rows)) (countRecords rows) [] 0
      (rows.zipIdx.map Prod.fst) = (shownRows rows w).map Prod.fst :=
    pageRowsFrom_map Prod.fst [] 0 rows.zipIdx
  rwa [List.zipIdx_map_fst] at key

theorem shownRows_withIndex {k : Nat} (hpos : 1 ≤ k)
    (hle : k ≤ w.totalPages (countRecords rows)) :
    shownRows rows (w.withIndex k) = markedPage rows (w.withIndex k) := by
  rw [shownRows, w.clamp_withIndex hpos hle]

/-- Rows with their positions, in ascending positions, are determined by their members. -/
theorem eq_of_mem_iff_of_pairwise {β : Type} {l l' : List (β × Nat)}
    (hl : l.Pairwise (·.2 < ·.2)) (hl' : l'.Pairwise (·.2 < ·.2)) (h : ∀ p, p ∈ l ↔ p ∈ l') :
    l = l' := by
  have : Std.Irrefl fun p q : β × Nat => p.2 < q.2 := ⟨fun p => Nat.lt_irrefl p.2⟩
  have : Std.Antisymm fun p q : β × Nat => p.2 < q.2 := ⟨fun p q hpq hqp => by omega⟩
  exact hl.eq_of_mem_iff hl' h

/-- Positions with no record from one to the other are at the same place among the records. -/
theorem countRecords_take_eq {m : Nat} (hle : i ≤ m)
    (hnone : ∀ n r, i ≤ n → n < m → rows[n]? = some r → r.isRecord = false) :
    countRecords (rows.take m) = countRecords (rows.take i) := by
  obtain ⟨d, rfl⟩ : ∃ d, m = i + d := ⟨m - i, by omega⟩
  have hrest : countRecords ((rows.drop i).take d) = 0 := by
    refine List.countP_eq_zero.mpr fun r hr => ?_
    obtain ⟨n, hn⟩ := List.mem_iff_getElem?.mp hr
    rw [List.getElem?_take] at hn
    split at hn
    · next hlt =>
      rw [List.getElem?_drop] at hn
      simp [hnone (i + n) r (by omega) (by omega) hn]
    · cases hn
  rw [List.take_add, countRecords_append, hrest, Nat.add_zero]

/-! ## Anchor pages -/

theorem mem_drop_zipIdx_iff {row : DisplayRow α} :
    (row, j) ∈ rows.zipIdx.drop (i + 1) ↔ i < j ∧ rows[j]? = some row := by
  rw [List.mem_iff_getElem?]
  simp only [List.getElem?_drop, List.getElem?_zipIdx, Option.map_eq_some_iff, Prod.mk.injEq]
  constructor
  · rintro ⟨n, r, hr, rfl, rfl⟩
    exact ⟨by omega, by rwa [Nat.zero_add]⟩
  · rintro ⟨hlt, hrow⟩
    exact ⟨j - (i + 1), row, by rwa [show i + 1 + (j - (i + 1)) = j by omega], rfl, by omega⟩

/-- The record that is found behind a position is the next one. -/
theorem exists_next_of_find? {next : DisplayRow α × Nat}
    (hnext : (rows.zipIdx.drop (i + 1)).find? (·.1.isRecord) = some next) :
    ∃ e m, next = (.record e, m) ∧ i < m ∧ rows[m]? = some (.record e) ∧
      ∀ n r, i < n → n < m → rows[n]? = some r → r.isRecord = false := by
  obtain ⟨hrecord, front, back, hdrop, hfront⟩ := List.find?_eq_some_iff_append.mp hnext
  obtain ⟨row, m⟩ := next
  have hpair : (front ++ (row, m) :: back).Pairwise (·.2 < ·.2) := by
    rw [← hdrop]
    exact (List.pairwise_map.mp (pairwise_zipIdx_snd rows)).sublist (List.drop_sublist ..)
  have hmem : (row, m) ∈ rows.zipIdx.drop (i + 1) := by simp [hdrop]
  obtain ⟨hlt, hm⟩ := mem_drop_zipIdx_iff.mp hmem
  cases row with
  | header h => cases hrecord
  | record e =>
    refine ⟨e, m, rfl, hlt, hm, fun n r hin hnm hr => ?_⟩
    have hr : (r, n) ∈ front ++ (.record e, m) :: back := hdrop ▸ mem_drop_zipIdx_iff.mpr ⟨hin, hr⟩
    obtain hr | hr := List.mem_append.mp hr
    · simpa using hfront _ hr
    · -- what is behind the record found is behind its position
      obtain hr | hr := List.mem_cons.mp hr
      · obtain ⟨-, rfl⟩ := Prod.mk.inj hr
        omega
      · have hmn : m < n := (List.pairwise_cons.mp (List.pairwise_append.mp hpair).2.1).1 _ hr
        omega

/-- Whether a page is the anchor page of a header, by the number of records before it. -/
theorem isAnchorPage_iff (hnest : LevelsNest DisplayRow.level? 0 rows)
    (hi : rows[i]? = some (.header h)) :
    IsAnchorPage rows w i ↔
      anchorPage (w.clamp (countRecords rows)) (countRecords rows) (countRecords (rows.take i)) =
        (w.clamp (countRecords rows)).index := by
  have hheader : ∀ r, rows[i]? = some r → r.isRecord = false := by
    intro r hr
    obtain rfl : DisplayRow.header h = r := Option.some.inj (hi.symm.trans hr)
    rfl
  rw [IsAnchorPage]
  split
  · next next hnext =>
    obtain ⟨e, m, rfl, him, hm, hnone⟩ := exists_next_of_find? hnext
    have hcount : countRecords (rows.take m) = countRecords (rows.take i) := by
      refine countRecords_take_eq him.le fun n r hin hnm hr => ?_
      obtain rfl | hlt := Nat.eq_or_lt_of_le hin
      · exact hheader r hr
      · exact hnone n r hlt hnm hr
    have hlt : ¬ countRecords rows ≤ countRecords (rows.take i) := by
      have htake : rows.take (m + 1) = rows.take m ++ [.record e] := by
        simp [List.take_add_one, hm]
      have hle : countRecords (rows.take (m + 1)) ≤ countRecords rows :=
        (List.take_sublist (m + 1) rows).countP_le
      rw [htake, countRecords_append, hcount] at hle
      have hone : countRecords [DisplayRow.record e] = 1 := rfl
      omega
    rw [shownRows, record_mem_markedPage_iff hnest, hcount, anchorPage, if_neg hlt]
    exact and_iff_right hm
  · next hnext =>
    have hcount : countRecords (rows.take rows.length) = countRecords (rows.take i) := by
      refine countRecords_take_eq (List.getElem?_eq_some_iff.mp hi).1.le fun n r hin _ hr => ?_
      obtain rfl | hlt := Nat.eq_or_lt_of_le hin
      · exact hheader r hr
      · simpa using List.find?_eq_none.mp hnext _ (mem_drop_zipIdx_iff.mpr ⟨hlt, hr⟩)
    rw [List.take_length] at hcount
    rw [anchorPage, if_pos hcount.le]
    exact eq_comm

/-! ## Rows with a place of their own -/

variable {source : Source α} {fields : List String}

theorem placedAt_record_iff (hnest : LevelsNest DisplayRow.level? 0 rows) {e : Entry α}
    (hj : rows[j]? = some (.record e)) :
    PlacedAt rows w j ↔ (.record e, j) ∈ markedPage rows w := by
  rw [record_mem_markedPage_iff hnest, PlacedAt, hj]
  constructor
  · rintro ⟨row, hrow, hplaced⟩
    obtain rfl := Option.some.inj hrow
    exact ⟨rfl, (isPlaced_record rfl).mp hplaced⟩
  · rintro ⟨-, hpage⟩
    exact ⟨_, rfl, (isPlaced_record rfl).mpr hpage⟩

theorem placedAt_header_iff (hrows : WellNested source fields [] rows)
    (hj : rows[j]? = some (.header h)) :
    PlacedAt rows w j ↔ h.collapsed = true ∧
      anchorPage w (countRecords rows) (countRecords (rows.take j)) = w.index := by
  have hlevel : (DisplayRow.header h : DisplayRow α).level? = some h.level := rfl
  rw [← isChildless_eq_collapsed hrows hj, PlacedAt, hj]
  constructor
  · rintro ⟨row, hrow, hplaced⟩
    obtain rfl := Option.some.inj hrow
    exact (isPlaced_header hlevel).mp hplaced
  · exact fun hplaced => ⟨_, rfl, (isPlaced_header hlevel).mpr hplaced⟩

/-- **A header is shown** on the page of a record of its run, and on the anchor page of a folded
header of its run. -/
theorem header_mem_shownRows_iff (hrows : WellNested source fields [] rows)
    (hi : rows[i]? = some (.header h)) :
    (.header h, i) ∈ shownRows rows w ↔ ∃ j, inRun rows i j ∧
      ((∃ e, (.record e, j) ∈ shownRows rows w) ∨
        ∃ h', rows[j]? = some (.header h') ∧ h'.collapsed = true ∧ IsAnchorPage rows w j) := by
  have hnest := levelsNest_of_wellNested hrows
  rw [shownRows, header_mem_markedPage_iff hnest hi]
  refine exists_congr fun j => and_congr_right fun hrun => ?_
  constructor
  · rintro ⟨row, hj, hplaced⟩
    cases row with
    | record e => exact .inl ⟨e, (placedAt_record_iff hnest hj).mp ⟨_, hj, hplaced⟩⟩
    | header h' =>
      obtain ⟨hcollapsed, hpage⟩ := (placedAt_header_iff hrows hj).mp ⟨_, hj, hplaced⟩
      exact .inr ⟨h', hj, hcollapsed, (isAnchorPage_iff hnest hj).mpr hpage⟩
  · rintro (⟨e, he⟩ | ⟨h', hj, hcollapsed, hpage⟩)
    · exact (placedAt_record_iff hnest ((record_mem_markedPage_iff hnest).mp he).1).mpr he
    · exact (placedAt_header_iff hrows hj).mpr ⟨hcollapsed, (isAnchorPage_iff hnest hj).mp hpage⟩

/-! ## Headers over a row -/

theorem getElem?_of_mem_shownRows {row : DisplayRow α} (hmem : (row, j) ∈ shownRows rows w) :
    rows[j]? = some row :=
  List.mem_zipIdx_iff_getElem?.mp ((markedPage_sublist _ _).subset hmem)

/-- With a row, the page shows the headers over it. -/
theorem mem_shownRows_of_inRun (hnest : LevelsNest DisplayRow.level? 0 rows) {row : DisplayRow α}
    (hmem : (row, j) ∈ shownRows rows w) (hrun : inRun rows i j)
    (hi : rows[i]? = some (.header h)) : (.header h, i) ∈ shownRows rows w := by
  have hj := getElem?_of_mem_shownRows hmem
  rw [shownRows, header_mem_markedPage_iff hnest hi]
  cases row with
  | record e => exact ⟨j, hrun, (placedAt_record_iff hnest hj).mpr hmem⟩
  | header h' =>
    obtain ⟨k, hrun', hplaced⟩ := (header_mem_markedPage_iff hnest hj).mp hmem
    exact ⟨k, inRun_trans hrun hrun', hplaced⟩

/-- Among the rows before a row, the headers over it are found by the levels. -/
theorem inRun_eq_isOver {row : DisplayRow α} (hj : rows[j]? = some row) {p : DisplayRow α × Nat}
    (hp : p ∈ (rows.take j).zipIdx) : inRun rows p.2 j = isOver (rows.take j) row.level? p := by
  obtain ⟨r, i⟩ := p
  have hp : (rows.take j)[i]? = some r := List.mem_zipIdx_iff_getElem?.mp hp
  rw [List.getElem?_take] at hp
  split at hp
  · next hlt =>
    have hlength := (List.getElem?_eq_some_iff.mp hj).1
    have htake : (rows.take (j + 1)).drop (i + 1) = (rows.take j).drop (i + 1) ++ [row] := by
      rw [List.take_add_one, hj, List.drop_append_of_le_length (by simp; omega)]
      rfl
    simp only [inRun, isOver, hp, Option.bind_some, htake, List.all_append, hlt.le, hlength,
      isDeeper, decide_true, Bool.true_and, List.all_cons, List.all_nil, Bool.and_true]
    congr 1
    funext level
    exact Bool.and_comm ..
  · cases hp

/-- The rows before a row leave the groups open that the row stands in. -/
theorem around_eq (hrows : WellNested source fields [] rows) {row : DisplayRow α}
    (hj : rows[j]? = some row) :
    row.around source fields =
      row.level?.elim (openPath [] (rows.take j)) (openPath [] (rows.take j)).take := by
  obtain ⟨hlt, hrow⟩ := List.getElem?_eq_some_iff.mp hj
  rw [← List.take_append_drop j rows, List.drop_eq_getElem_cons hlt, hrow] at hrows
  have hopen := wellNested_of_append hrows
  cases row with
  | record e => exact hopen.1
  | header h =>
    rw [DisplayRow.around, hopen.2.1, List.dropLast_concat]
    rfl

/-- Before a row, the page shows all the headers of the list that are over the row. -/
theorem filter_inRun_above (hnest : LevelsNest DisplayRow.level? 0 rows) {row : DisplayRow α}
    {above below : List (DisplayRow α × Nat)}
    (hpage : shownRows rows w = above ++ (row, j) :: below) :
    above.filter (inRun rows ·.2 j) = (rows.take j).zipIdx.filter (inRun rows ·.2 j) := by
  have hsorted : (above ++ (row, j) :: below).Pairwise (·.2 < ·.2) := by
    rw [← hpage]
    exact (List.pairwise_map.mp (pairwise_zipIdx_snd rows)).sublist (markedPage_sublist ..)
  obtain ⟨habove, hbelow, hacross⟩ := List.pairwise_append.mp hsorted
  have hmem : (row, j) ∈ shownRows rows w := by simp [hpage]
  refine eq_of_mem_iff_of_pairwise (habove.filter _)
    ((List.pairwise_map.mp (pairwise_zipIdx_snd _)).filter _) fun p => ?_
  obtain ⟨r, i⟩ := p
  simp only [List.mem_filter, List.mem_zipIdx_iff_getElem?, List.getElem?_take]
  refine and_congr_left fun hrun => ?_
  constructor
  · intro hp
    have hlt : i < j := hacross _ hp _ List.mem_cons_self
    rw [if_pos hlt]
    exact getElem?_of_mem_shownRows (hpage ▸ List.mem_append_left _ hp)
  · intro hp
    split at hp
    · next hlt =>
      obtain ⟨h, hi⟩ := exists_header_of_inRun hrun
      obtain rfl : r = .header h := Option.some.inj (hp.symm.trans hi)
      have hshown := mem_shownRows_of_inRun hnest hmem hrun hi
      rw [hpage] at hshown
      obtain hin | hin := List.mem_append.mp hshown
      · exact hin
      · -- what is not above is at the row or behind it
        obtain hin | hin := List.mem_cons.mp hin
        · obtain ⟨-, rfl⟩ := Prod.mk.inj hin
          omega
        · have hji : j < i := (List.pairwise_cons.mp hbelow).1 _ hin
          omega
    · cases hp

/-- **The headers over a row are those of the groups around it**, outermost first. -/
theorem filterMap_path_inRun (hrows : WellNested source fields [] rows) {row : DisplayRow α}
    (hj : rows[j]? = some row) :
    ((rows.take j).zipIdx.filter (inRun rows ·.2 j)).filterMap (fun p => p.1.header?.map (·.path)) =
      pathsDown (row.around source fields) := by
  rw [List.filter_congr fun p hp => inRun_eq_isOver hj hp, around_eq hrows hj]
  rw [← List.take_append_drop j rows] at hrows
  exact filterMap_path_over hrows row.level?

/-! ## Headers without records -/

/-- A header none of whose records are visible is on the page of the next record and no other. -/
theorem mem_shownRows_iff_of_no_record (hrows : WellNested source fields [] rows)
    (hi : rows[i]? = some (.header h))
    (hnone : ∀ j e, inRun rows i j → rows[j]? ≠ some (.record e)) {k : Nat} (hpos : 1 ≤ k)
    (hle : k ≤ w.totalPages (countRecords rows)) :
    (.header h, i) ∈ shownRows rows (w.withIndex k) ↔
      k = anchorPage w (countRecords rows) (countRecords (rows.take i)) := by
  have hindex : (w.withIndex k).index = k := Nat.max_eq_left hpos
  rw [shownRows_withIndex hpos hle]
  constructor
  · intro hmem
    obtain ⟨j, hrun, row, hj, hplaced⟩ :=
      (header_mem_markedPage_iff (levelsNest_of_wellNested hrows) hi).mp hmem
    cases row with
    | record e => exact absurd hj (hnone j e hrun)
    | header h' =>
      have hcount : countRecords (rows.take j) = countRecords (rows.take i) := by
        refine countRecords_take_eq (le_of_inRun hrun) fun n r hin hnj hr => ?_
        cases r with
        | record e => exact absurd hr (hnone n e (inRun_of_le hrun hin hnj.le))
        | header h'' => rfl
      have hpage := ((placedAt_header_iff hrows hj).mp ⟨_, hj, hplaced⟩).2
      rw [hcount, hindex] at hpage
      exact hpage.symm
  · intro hk
    have hlt := (List.getElem?_eq_some_iff.mp hi).1
    have hsplit : rows.zipIdx =
        (rows.take i).zipIdx ++ (.header h, i) :: rows.zipIdx.drop (i + 1) := by
      have hget : rows.zipIdx[i]? = some (.header h, i) := by simp [hi]
      conv_lhs => rw [← List.take_append_drop i rows.zipIdx]
      rw [take_zipIdx, List.drop_eq_getElem?_toList_append, hget]
      rfl
    refine mem_markedPage hsplit ?_
    rw [length_recordsOf_zipIdx, hindex]
    exact hk.symm

/-- **A header none of whose records are visible is on exactly one page.** -/
theorem existsUnique_page (hrows : WellNested source fields [] rows)
    (hi : rows[i]? = some (.header h))
    (hnone : ∀ j e, inRun rows i j → rows[j]? ≠ some (.record e)) :
    ∃! k, (1 ≤ k ∧ k ≤ w.totalPages (countRecords rows)) ∧
      (.header h, i) ∈ shownRows rows (w.withIndex k) := by
  have hanchor := anchorPage_mem w (countRecords rows) (countRecords (rows.take i))
  refine ⟨_, ⟨hanchor, ?shown⟩, ?unique⟩
  case shown => exact (mem_shownRows_iff_of_no_record hrows hi hnone hanchor.1 hanchor.2).mpr rfl
  case unique =>
    rintro k ⟨⟨hpos, hle⟩, hmem⟩
    exact (mem_shownRows_iff_of_no_record hrows hi hnone hpos hle).mp hmem

end Shown

/-- **A page shows groups whole.** For any records in any order, any fields to group by, any folded
groups and any window, let `rows` be the grouped rows and `shownRows rows` the rows of a page with
their positions.

* The page has these rows, in the order of the list.
* Above each of its rows are all the headers of the list whose runs the row is in, and these are
  the headers of the groups around the row, outermost first.
* A header is on the page exactly when a record of its run is, or the page is the anchor page of a
  folded header of its run: that of the next record, or the last page when no record follows.
* A header without a record in its run is on exactly one page. -/
theorem page_shows_groups (source : Source α) (fields : List String) (folded : CollapsedSet)
    (entries : List (Entry α)) (w : PageWindow) :
    let rows := groupRows source fields folded entries
    ((paginate rows w).1 = (shownRows rows w).map (·.1) ∧
      (shownRows rows w).Sublist rows.zipIdx) ∧
    (∀ above row j below, shownRows rows w = above ++ (row, j) :: below →
      above.filter (inRun rows ·.2 j) = (rows.take j).zipIdx.filter (inRun rows ·.2 j) ∧
        (above.filter (inRun rows ·.2 j)).filterMap (fun p => p.1.header?.map (·.path)) =
          pathsDown (row.around source fields)) ∧
    (∀ h i, rows[i]? = some (.header h) →
      ((.header h, i) ∈ shownRows rows w ↔ ∃ j, inRun rows i j ∧
        ((∃ e, (.record e, j) ∈ shownRows rows w) ∨
          ∃ h', rows[j]? = some (.header h') ∧ h'.collapsed = true ∧ IsAnchorPage rows w j))) ∧
    (∀ h i, rows[i]? = some (.header h) →
      (∀ j e, inRun rows i j → rows[j]? ≠ some (.record e)) →
      ∃! k, (1 ≤ k ∧ k ≤ w.totalPages (countRecords rows)) ∧
        (.header h, i) ∈ shownRows rows (w.withIndex k)) := by
  intro rows
  have hrows : WellNested source fields [] rows := wellNested_groupRows source fields folded entries
  refine ⟨⟨paginate_eq_map_shownRows rows w, markedPage_sublist rows _⟩, ?above, ?shown, ?once⟩
  case above =>
    intro above row j below hpage
    have hover := filter_inRun_above (levelsNest_of_wellNested hrows) hpage
    have hmem : (row, j) ∈ shownRows rows w := by simp [hpage]
    refine ⟨hover, ?_⟩
    rw [hover]
    exact filterMap_path_inRun hrows (getElem?_of_mem_shownRows hmem)
  case shown => exact fun h i hi => header_mem_shownRows_iff hrows hi
  case once => exact fun h i hi hnone => existsUnique_page hrows hi hnone

-- The second of pages of one record has a folded group, in front of the record and its group.
example :
    (paginate (groupRows flagPairs ["a"] (.ofList [⟨[.text "false"]⟩])
        (entriesAt [(true, true), (false, true), (true, false)] [0, 1, 2]))
      ⟨2, 1, by decide, by decide⟩).1 =
      [.header ⟨⟨[.text "false"]⟩, 0, "a", .text "false", 1, true⟩,
       .header ⟨⟨[.text "true"]⟩, 0, "a", .text "true", 1, false⟩,
       .record ⟨2, (true, false)⟩] := by decide +kernel

end Tabular
