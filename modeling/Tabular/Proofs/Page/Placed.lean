import Tabular.Proofs.Page.Cover
/-!
# What brings a header onto a page

Some rows have a place of their own: a record is on the page of its number, and a header with
nothing under it on the page of the next record (`isPlaced`). Any other header comes along with the
rows below it.

In rows whose levels nest (`LevelsNest`), the headers in force are those that a row stands under,
one for each level. So the page takes exactly the rows with a place on it and the headers with such
a row in their run, in the order of the list (`pageRowsFrom_eq`). With the positions of the rows as
marks, this says of each row of the list whether it is shown (`header_mem_markedPage_iff`,
`record_mem_markedPage_iff`).
-/

namespace Tabular

open PendingHeader

section Cut

variable {ρ σ : Type} {level? : ρ → Option Nat} {w : PageWindow} {items : Nat}

/-! ## Rows with a place of their own -/

/-- Whether a row has a place of its own on the page, given the number of records before it and the
rows behind it. -/
def isPlaced (level? : ρ → Option Nat) (w : PageWindow) (items ordinal : Nat) (row : ρ)
    (rest : List ρ) : Bool :=
  match level? row with
  | some level => isChildless level? level rest && anchorPage w items ordinal == w.index
  | none => w.pageOf ordinal == w.index

/-- Whether a row behind a header of a level stands under it, as far as the row itself tells: it is
a record or a header of a deeper level. -/
def isDeeper (level? : ρ → Option Nat) (level : Nat) (row : ρ) : Bool :=
  (level? row).all (level < ·)

/-- The number of records passed after a row. -/
def nextOrdinal (level? : ρ → Option Nat) (ordinal : Nat) (row : ρ) : Nat :=
  if (level? row).isNone then ordinal + 1 else ordinal

/-- Whether a row with a place on the page stands under a header of a level, given the rows behind
the header. -/
def isCalled (level? : ρ → Option Nat) (w : PageWindow) (items level : Nat) : Nat → List ρ → Bool
  | _, [] => false
  | ordinal, row :: rest =>
    isDeeper level? level row &&
      (isPlaced level? w items ordinal row rest ||
        isCalled level? w items level (nextOrdinal level? ordinal row) rest)

/-- Whether the page takes a row: one with a place on it, or a header over such a row. -/
def isTaken (level? : ρ → Option Nat) (w : PageWindow) (items ordinal : Nat) (row : ρ)
    (rest : List ρ) : Bool :=
  isPlaced level? w items ordinal row rest ||
    (level? row).any fun level => isCalled level? w items level ordinal rest

/-- The rows that the page takes. -/
def takenRows (level? : ρ → Option Nat) (w : PageWindow) (items : Nat) : Nat → List ρ → List ρ
  | _, [] => []
  | ordinal, row :: rest =>
    (if isTaken level? w items ordinal row rest then [row] else []) ++
      takenRows level? w items (nextOrdinal level? ordinal row) rest

/-- No header is more than one level below the header before it, given the number of headers in
force. -/
def LevelsNest (level? : ρ → Option Nat) : Nat → List ρ → Prop
  | _, [] => True
  | depth, row :: rest =>
    match level? row with
    | some level => level ≤ depth ∧ LevelsNest level? (level + 1) rest
    | none => LevelsNest level? depth rest

/-- The levels of rows nest in whatever form the rows are. -/
theorem levelsNest_map (f : σ → ρ) {depth : Nat} {rows : List σ} :
    LevelsNest level? depth (rows.map f) ↔ LevelsNest (level? ∘ f) depth rows := by
  induction rows generalizing depth with
  | nil => rfl
  | cons row rest ih =>
    simp only [List.map_cons, LevelsNest, Function.comp_apply]
    cases level? (f row) with
    | some level => exact and_congr_right fun _ => ih
    | none => exact ih

/-! ## Headers in force -/

/-- The headers in force that the page does not show yet, of the levels that are called for. -/
def pendingAt (called : Nat → Bool) (headers : List (PendingHeader ρ)) : List ρ :=
  (headers.zipIdx.filter fun p => !p.1.shown && called p.2).map (·.1.row)

theorem pendingAt_congr {called called' : Nat → Bool} {headers : List (PendingHeader ρ)}
    (h : ∀ level < headers.length, called level = called' level) :
    pendingAt called headers = pendingAt called' headers := by
  rw [pendingAt, List.filter_congr fun p hp => ?_]
  · rfl
  · rw [h p.2 (List.snd_lt_of_mem_zipIdx hp)]

theorem pendingAt_append (called : Nat → Bool) (headers : List (PendingHeader ρ))
    (p : PendingHeader ρ) :
    pendingAt called (headers ++ [p]) =
      pendingAt called headers ++ if !p.shown && called headers.length then [p.row] else [] := by
  rw [pendingAt, List.zipIdx_append, List.filter_append, List.map_append]
  congr 1
  cases hp : !p.shown && called headers.length <;> simp [hp]

theorem pendingAt_all (headers : List (PendingHeader ρ)) :
    pendingAt (fun _ => true) headers = missing headers := by
  induction headers using List.reverseRecOn with
  | nil => rfl
  | append_singleton headers p ih =>
    rw [pendingAt_append, ih]
    cases hp : p.shown <;> simp [missing, hp]

theorem pendingAt_markShown (called : Nat → Bool) (headers : List (PendingHeader ρ)) :
    pendingAt called (markShown headers) = [] := by
  have hshown : ∀ p ∈ (markShown headers).zipIdx, ¬ (!p.1.shown && called p.2) = true := by
    intro p hp
    obtain ⟨q, -, hq⟩ := List.mem_map.mp (List.fst_mem_of_mem_zipIdx hp)
    simp [← hq]
  rw [pendingAt, List.filter_eq_nil_iff.mpr hshown]
  rfl

/-- Headers of levels that are not called for may be left out. -/
theorem pendingAt_take {called : Nat → Bool} {headers : List (PendingHeader ρ)} (depth : Nat)
    (h : ∀ level, depth ≤ level → called level = false) :
    pendingAt called headers = pendingAt called (headers.take depth) := by
  induction headers using List.reverseRecOn with
  | nil => simp
  | append_singleton headers p ih =>
    rw [pendingAt_append]
    by_cases hdepth : depth ≤ headers.length
    · rw [List.take_append_of_le_length hdepth, h _ hdepth, ih]
      simp
    · rw [List.take_of_length_le (by simp; omega), pendingAt_append]

/-! ## The page -/

theorem isCalled_header {level level' ordinal : Nat} {row : ρ} {rest : List ρ}
    (hrow : level? row = some level') :
    isCalled level? w items level ordinal (row :: rest) =
      (decide (level < level') && (isPlaced level? w items ordinal row rest ||
        isCalled level? w items level ordinal rest)) := by
  simp [isCalled, isDeeper, nextOrdinal, hrow]

theorem isCalled_record {level ordinal : Nat} {row : ρ} {rest : List ρ} (hrow : level? row = none) :
    isCalled level? w items level ordinal (row :: rest) =
      (isPlaced level? w items ordinal row rest ||
        isCalled level? w items level (ordinal + 1) rest) := by
  simp [isCalled, isDeeper, nextOrdinal, hrow]

theorem takenRows_header {level ordinal : Nat} {row : ρ} {rest : List ρ}
    (hrow : level? row = some level) :
    takenRows level? w items ordinal (row :: rest) =
      (if isPlaced level? w items ordinal row rest || isCalled level? w items level ordinal rest
        then [row] else []) ++ takenRows level? w items ordinal rest := by
  simp [takenRows, isTaken, nextOrdinal, hrow]

theorem takenRows_record {ordinal : Nat} {row : ρ} {rest : List ρ} (hrow : level? row = none) :
    takenRows level? w items ordinal (row :: rest) =
      (if isPlaced level? w items ordinal row rest then [row] else []) ++
        takenRows level? w items (ordinal + 1) rest := by
  simp [takenRows, isTaken, nextOrdinal, hrow]

theorem isPlaced_header {level ordinal : Nat} {row : ρ} {rest : List ρ}
    (hrow : level? row = some level) :
    isPlaced level? w items ordinal row rest ↔
      isChildless level? level rest ∧ anchorPage w items ordinal = w.index := by
  simp [isPlaced, hrow]

theorem isPlaced_record {ordinal : Nat} {row : ρ} {rest : List ρ} (hrow : level? row = none) :
    isPlaced level? w items ordinal row rest ↔ w.pageOf ordinal = w.index := by
  simp [isPlaced, hrow]

theorem pageRowsFrom_header {headers : List (PendingHeader ρ)} {level ordinal : Nat} {row : ρ}
    {rest : List ρ} (hrow : level? row = some level) :
    pageRowsFrom level? w items headers ordinal (row :: rest) =
      if isPlaced level? w items ordinal row rest then
        missing (enter headers level row) ++
          pageRowsFrom level? w items (markShown (enter headers level row)) ordinal rest
      else pageRowsFrom level? w items (enter headers level row) ordinal rest := by
  simp only [pageRowsFrom, hrow]
  exact if_congr (isPlaced_header hrow).symm rfl rfl

theorem pageRowsFrom_record {headers : List (PendingHeader ρ)} {ordinal : Nat} {row : ρ}
    {rest : List ρ} (hrow : level? row = none) :
    pageRowsFrom level? w items headers ordinal (row :: rest) =
      if isPlaced level? w items ordinal row rest then
        missing headers ++ row ::
          pageRowsFrom level? w items (markShown headers) (ordinal + 1) rest
      else pageRowsFrom level? w items headers (ordinal + 1) rest := by
  simp only [pageRowsFrom, hrow, w.start_le_and_lt_stop_iff]
  exact if_congr (isPlaced_record hrow).symm rfl rfl

/-- Of the headers in force, a header leaves those of the outer levels to be called for. -/
theorem pendingAt_header {headers : List (PendingHeader ρ)} {level ordinal : Nat} {row : ρ}
    {rest : List ρ} (hrow : level? row = some level) :
    pendingAt (fun outer => isCalled level? w items outer ordinal (row :: rest)) headers =
      pendingAt (fun outer => isPlaced level? w items ordinal row rest ||
        isCalled level? w items outer ordinal rest) (headers.take level) := by
  rw [pendingAt_take level fun outer hout => ?_]
  · refine pendingAt_congr fun outer hout => ?_
    rw [List.length_take] at hout
    have hlt : outer < level := by omega
    simp [isCalled_header hrow, hlt]
  · simp [isCalled_header hrow, hout]

/-- **The page is made of the rows it takes**, after those of the headers in force that these call
for. -/
theorem pageRowsFrom_eq {headers : List (PendingHeader ρ)} {ordinal : Nat} {rows : List ρ}
    (h : LevelsNest level? headers.length rows) :
    pageRowsFrom level? w items headers ordinal rows =
      pendingAt (fun level => isCalled level? w items level ordinal rows) headers ++
        takenRows level? w items ordinal rows := by
  induction rows generalizing headers ordinal with
  | nil =>
    have hnone : pendingAt (fun _ => false) headers = [] := by simp [pendingAt]
    simp [pageRowsFrom, takenRows, isCalled, hnone]
  | cons row rest ih =>
    cases hrow : level? row with
    | some level =>
      obtain ⟨hle, hrest⟩ : level ≤ headers.length ∧ LevelsNest level? (level + 1) rest := by
        simpa [LevelsNest, hrow] using h
      have hlength : (headers.take level).length = level := by simp [hle]
      have hdepth : (enter headers level row).length = level + 1 := by simp [enter, hlength]
      rw [pageRowsFrom_header hrow, pendingAt_header hrow, takenRows_header hrow]
      split
      · next hplaced =>
        have hmissing : missing (enter headers level row) =
            missing (headers.take level) ++ [row] := by simp [missing, enter]
        have hshown : LevelsNest level? (markShown (enter headers level row)).length rest := by
          simpa [markShown, hdepth] using hrest
        rw [ih hshown, pendingAt_markShown, hmissing]
        simp [hplaced, pendingAt_all]
      · next hplaced =>
        rw [ih (by rwa [hdepth]), enter, pendingAt_append, hlength, List.append_assoc]
        simp [hplaced]
    | none =>
      have hrest : LevelsNest level? headers.length rest := by simpa [LevelsNest, hrow] using h
      simp only [pageRowsFrom_record hrow, takenRows_record hrow, isCalled_record hrow]
      split
      · next hplaced =>
        have hshown : LevelsNest level? (markShown headers).length rest := by
          simpa [markShown] using hrest
        rw [ih hshown, pendingAt_markShown]
        simp [hplaced, pendingAt_all]
      · next hplaced =>
        rw [ih hrest]
        simp [hplaced]

theorem ordinal_cons {ordinal k : Nat} {first : ρ} {rest : List ρ} :
    ordinal + (recordsOf level? ((first :: rest).take (k + 1))).length =
      nextOrdinal level? ordinal first + (recordsOf level? (rest.take k)).length := by
  rw [List.take_succ_cons]
  cases hfirst : level? first with
  | some level => simp [recordsOf_cons_header hfirst, nextOrdinal, hfirst]
  | none =>
    rw [recordsOf_cons_record hfirst, List.length_cons, nextOrdinal, hfirst, Option.isNone_none,
      if_pos rfl]
    omega

/-- A row is taken as the rows before and behind it tell. -/
theorem mem_takenRows_iff {ordinal : Nat} {rows : List ρ} {row : ρ} :
    row ∈ takenRows level? w items ordinal rows ↔
      ∃ k, rows[k]? = some row ∧
        isTaken level? w items (ordinal + (recordsOf level? (rows.take k)).length) row
          (rows.drop (k + 1)) := by
  induction rows generalizing ordinal with
  | nil => simp [takenRows]
  | cons first rest ih =>
    rw [takenRows, List.mem_append, ih]
    constructor
    · rintro (hfirst | ⟨k, hk, htaken⟩)
      · split at hfirst
        · next htaken =>
          obtain rfl := List.mem_singleton.mp hfirst
          exact ⟨0, rfl, htaken⟩
        · cases hfirst
      · exact ⟨k + 1, hk, by rwa [ordinal_cons]⟩
    · rintro ⟨k, hk, htaken⟩
      cases k with
      | zero =>
        obtain rfl : first = row := by simpa using hk
        exact .inl (by simpa [recordsOf] using htaken)
      | succ k => exact .inr ⟨k, hk, by rwa [ordinal_cons] at htaken⟩

/-- A header is called for by a row with a place on the page that is reached without leaving what
stands under the header. -/
theorem isCalled_iff {level ordinal : Nat} {rows : List ρ} :
    isCalled level? w items level ordinal rows ↔
      ∃ k row, rows[k]? = some row ∧ (∀ r ∈ rows.take (k + 1), isDeeper level? level r) ∧
        isPlaced level? w items (ordinal + (recordsOf level? (rows.take k)).length) row
          (rows.drop (k + 1)) := by
  induction rows generalizing ordinal with
  | nil => simp [isCalled]
  | cons first rest ih =>
    rw [isCalled, Bool.and_eq_true, Bool.or_eq_true, ih]
    constructor
    · rintro ⟨hdeeper, hplaced | ⟨k, row, hk, hrun, hplaced⟩⟩
      · exact ⟨0, first, rfl, by simpa using hdeeper, hplaced⟩
      · refine ⟨k + 1, row, hk, ?_, by rwa [ordinal_cons]⟩
        rw [List.take_succ_cons]
        exact List.forall_mem_cons.mpr ⟨hdeeper, hrun⟩
    · rintro ⟨k, row, hk, hrun, hplaced⟩
      rw [List.take_succ_cons] at hrun
      obtain ⟨hdeeper, hrun⟩ := List.forall_mem_cons.mp hrun
      cases k with
      | zero =>
        obtain rfl : first = row := by simpa using hk
        exact ⟨hdeeper, .inl (by simpa [recordsOf] using hplaced)⟩
      | succ k => exact ⟨hdeeper, .inr ⟨k, row, hk, hrun, by rwa [ordinal_cons] at hplaced⟩⟩

/-! ## Rows in another form -/

theorem isPlaced_map (f : σ → ρ) (ordinal : Nat) (row : σ) (rest : List σ) :
    isPlaced level? w items ordinal (f row) (rest.map f) =
      isPlaced (level? ∘ f) w items ordinal row rest := by
  simp only [isPlaced, isChildless_map, Function.comp_apply]

theorem isCalled_map (f : σ → ρ) (level ordinal : Nat) (rows : List σ) :
    isCalled level? w items level ordinal (rows.map f) =
      isCalled (level? ∘ f) w items level ordinal rows := by
  induction rows generalizing ordinal with
  | nil => rfl
  | cons row rest ih =>
    rw [List.map_cons, isCalled, isPlaced_map, ih]
    rfl

theorem isTaken_map (f : σ → ρ) (ordinal : Nat) (row : σ) (rest : List σ) :
    isTaken level? w items ordinal (f row) (rest.map f) =
      isTaken (level? ∘ f) w items ordinal row rest := by
  simp only [isTaken, isPlaced_map, isCalled_map, Function.comp_apply]

end Cut

/-! ## Rows of a page by their positions -/

section Positions

variable {α : Type} {rows : List (DisplayRow α)} {w : PageWindow}

theorem length_recordsOf (rows : List (DisplayRow α)) :
    (recordsOf DisplayRow.level? rows).length = countRecords rows := by
  rw [countRecords, List.countP_eq_length_filter, recordsOf]
  congr 1
  exact List.filter_congr fun row _ => (isRecord_eq_isNone_level? row).symm

/-- Whether the row at a position stands under the header at another one, or is this header: no
header of the same level or an outer one comes in between. -/
def inRun (rows : List (DisplayRow α)) (i j : Nat) : Bool :=
  (rows[i]?.bind DisplayRow.level?).any fun level =>
    decide (i ≤ j) && decide (j < rows.length) &&
      ((rows.take (j + 1)).drop (i + 1)).all (isDeeper DisplayRow.level? level)

/-- The row at a position has a place of its own on the page. -/
def PlacedAt (rows : List (DisplayRow α)) (w : PageWindow) (j : Nat) : Prop :=
  ∃ row, rows[j]? = some row ∧
    isPlaced DisplayRow.level? w (countRecords rows) (countRecords (rows.take j)) row
      (rows.drop (j + 1))

theorem take_zipIdx {β : Type} (l : List β) (n : Nat) : l.zipIdx.take n = (l.take n).zipIdx := by
  refine List.ext_getElem? fun i => ?_
  rw [List.getElem?_take, List.getElem?_zipIdx, List.getElem?_zipIdx, List.getElem?_take]
  split <;> rfl

theorem mem_markedPage_iff (hnest : LevelsNest DisplayRow.level? 0 rows) {row : DisplayRow α}
    {i : Nat} :
    (row, i) ∈ markedPage rows w ↔ rows[i]? = some row ∧
      isTaken DisplayRow.level? w (countRecords rows) (countRecords (rows.take i)) row
        (rows.drop (i + 1)) := by
  have hnest' : LevelsNest (DisplayRow.level? ∘ Prod.fst) 0 rows.zipIdx := by
    rw [← levelsNest_map, List.zipIdx_map_fst]
    exact hnest
  have hpage : markedPage rows w =
      takenRows (DisplayRow.level? ∘ Prod.fst) w (countRecords rows) 0 rows.zipIdx := by
    rw [markedPage, pageRowsFrom_eq]
    · rfl
    · exact hnest'
  have hrest : ∀ k, isTaken (DisplayRow.level? ∘ Prod.fst) w (countRecords rows)
      (0 + (recordsOf (DisplayRow.level? ∘ Prod.fst) (rows.zipIdx.take k)).length) (row, i)
      (rows.zipIdx.drop (k + 1)) =
      isTaken DisplayRow.level? w (countRecords rows) (countRecords (rows.take k)) row
        (rows.drop (k + 1)) := by
    intro k
    rw [Nat.zero_add, take_zipIdx, length_recordsOf_zipIdx, ← isTaken_map Prod.fst, List.map_drop,
      List.zipIdx_map_fst]
  rw [hpage, mem_takenRows_iff]
  simp only [hrest, List.getElem?_zipIdx]
  constructor
  · rintro ⟨k, hk, htaken⟩
    obtain ⟨r, hr, hpair⟩ := Option.map_eq_some_iff.mp hk
    obtain ⟨rfl, rfl⟩ := Prod.mk.inj hpair
    simp only [Nat.zero_add] at *
    exact ⟨hr, htaken⟩
  · rintro ⟨hrow, htaken⟩
    exact ⟨i, by simp [hrow], htaken⟩

/-- A record is on the page of its number. -/
theorem record_mem_markedPage_iff (hnest : LevelsNest DisplayRow.level? 0 rows) {e : Entry α}
    {i : Nat} :
    (.record e, i) ∈ markedPage rows w ↔ rows[i]? = some (.record e) ∧
      w.pageOf (countRecords (rows.take i)) = w.index := by
  rw [mem_markedPage_iff hnest]
  refine and_congr_right fun _ => ?_
  have htaken : ∀ items ordinal rest,
      isTaken DisplayRow.level? w items ordinal (DisplayRow.record e) rest =
        isPlaced DisplayRow.level? w items ordinal (.record e) rest := by
    simp [isTaken, DisplayRow.level?]
  rw [htaken]
  exact isPlaced_record rfl

/-! ### Runs -/

variable {h : GroupHeader} {i j k : Nat}

/-- The rows behind a position up to another one. -/
theorem mem_drop_take_iff {β : Type} {l : List β} {i j : Nat} {b : β} :
    b ∈ (l.take (j + 1)).drop (i + 1) ↔ ∃ n, i < n ∧ n ≤ j ∧ l[n]? = some b := by
  rw [List.mem_iff_getElem?]
  simp only [List.getElem?_drop, List.getElem?_take]
  constructor
  · rintro ⟨m, hm⟩
    split at hm
    · exact ⟨i + 1 + m, by omega, by omega, hm⟩
    · cases hm
  · rintro ⟨n, hlt, hle, hn⟩
    refine ⟨n - (i + 1), ?_⟩
    rw [show i + 1 + (n - (i + 1)) = n by omega, if_pos (by omega), hn]

theorem inRun_iff (hi : rows[i]? = some (.header h)) :
    inRun rows i j ↔ i ≤ j ∧ j < rows.length ∧
      ∀ r ∈ (rows.take (j + 1)).drop (i + 1), isDeeper DisplayRow.level? h.level r := by
  simp [inRun, hi, DisplayRow.level?, and_assoc]

/-- A run is that of a header. -/
theorem exists_header_of_inRun (hrun : inRun rows i j) : ∃ h, rows[i]? = some (.header h) := by
  cases hrow : rows[i]? with
  | none => simp [inRun, hrow] at hrun
  | some row =>
    cases row with
    | record e => simp [inRun, hrow, DisplayRow.level?] at hrun
    | header h => exact ⟨h, rfl⟩

theorem le_of_inRun (hrun : inRun rows i j) : i ≤ j := by
  obtain ⟨h, hi⟩ := exists_header_of_inRun hrun
  exact ((inRun_iff hi).mp hrun).1

theorem isDeeper_of_inRun {n : Nat} {r : DisplayRow α} (hi : rows[i]? = some (.header h))
    (hrun : inRun rows i j) (hlt : i < n) (hle : n ≤ j) (hn : rows[n]? = some r) :
    isDeeper DisplayRow.level? h.level r :=
  ((inRun_iff hi).mp hrun).2.2 r (mem_drop_take_iff.mpr ⟨n, hlt, hle, hn⟩)

theorem inRun_self (hi : rows[i]? = some (.header h)) : inRun rows i i := by
  rw [inRun_iff hi]
  refine ⟨Nat.le_refl i, (List.getElem?_eq_some_iff.mp hi).1, fun r hr => ?_⟩
  obtain ⟨n, hlt, hle, -⟩ := mem_drop_take_iff.mp hr
  omega

theorem inRun_of_le (hrun : inRun rows i k) (hij : i ≤ j) (hjk : j ≤ k) : inRun rows i j := by
  obtain ⟨h, hi⟩ := exists_header_of_inRun hrun
  obtain ⟨-, hlt, -⟩ := (inRun_iff hi).mp hrun
  refine (inRun_iff hi).mpr ⟨hij, by omega, fun r hr => ?_⟩
  obtain ⟨n, hin, hnj, hr⟩ := mem_drop_take_iff.mp hr
  exact isDeeper_of_inRun hi hrun hin (hnj.trans hjk) hr

/-- What stands under a header that stands under another one stands under both. -/
theorem inRun_trans (hij : inRun rows i j) (hjk : inRun rows j k) : inRun rows i k := by
  obtain ⟨h, hi⟩ := exists_header_of_inRun hij
  obtain ⟨h', hj⟩ := exists_header_of_inRun hjk
  obtain ⟨hle, -⟩ := (inRun_iff hi).mp hij
  obtain ⟨hle', hlength, -⟩ := (inRun_iff hj).mp hjk
  refine (inRun_iff hi).mpr ⟨hle.trans hle', hlength, fun r hr => ?_⟩
  obtain ⟨n, hlt, hn, hr⟩ := mem_drop_take_iff.mp hr
  obtain hnj | hnj := Nat.lt_or_ge j n
  · -- behind the inner header, rows are deeper than it, and it is deeper than the outer one
    obtain rfl | hij' := Nat.eq_or_lt_of_le hle
    · exact isDeeper_of_inRun hi hjk hlt hn hr
    · have hinner := isDeeper_of_inRun hi hij hij' (Nat.le_refl j) hj
      have hrow := isDeeper_of_inRun hj hjk hnj hn hr
      cases r with
      | record e => rfl
      | header h'' =>
        simp only [isDeeper, DisplayRow.level?, Option.all_some, decide_eq_true_eq] at hinner hrow ⊢
        omega
  · exact isDeeper_of_inRun hi hij hlt hnj hr

theorem countRecords_append (front back : List (DisplayRow α)) :
    countRecords (front ++ back) = countRecords front + countRecords back :=
  List.countP_append

/-- A header is on the page when a row of its run has a place there. -/
theorem header_mem_markedPage_iff (hnest : LevelsNest DisplayRow.level? 0 rows)
    (hi : rows[i]? = some (.header h)) :
    (.header h, i) ∈ markedPage rows w ↔ ∃ j, inRun rows i j ∧ PlacedAt rows w j := by
  have htake : rows.take (i + 1) = rows.take i ++ [.header h] := by
    simp [List.take_add_one, hi]
  have hcount : ∀ m, countRecords (rows.take (i + 1 + m)) =
      countRecords (rows.take i) + countRecords ((rows.drop (i + 1)).take m) := by
    intro m
    rw [List.take_add, htake, countRecords_append, countRecords_append]
    simp [countRecords, DisplayRow.isRecord]
  rw [mem_markedPage_iff hnest, isTaken, Bool.or_eq_true]
  simp only [DisplayRow.level?, Option.any_some, isCalled_iff, length_recordsOf]
  constructor
  · rintro ⟨-, hplaced | ⟨m, row, hrow, hrun, hplaced⟩⟩
    · exact ⟨i, inRun_self hi, _, hi, hplaced⟩
    · rw [List.getElem?_drop] at hrow
      refine ⟨i + 1 + m, (inRun_iff hi).mpr ⟨by omega, ?_, ?_⟩, row, hrow, ?_⟩
      · exact (List.getElem?_eq_some_iff.mp hrow).1
      · rw [List.drop_take]
        rwa [show i + 1 + m + 1 - (i + 1) = m + 1 by omega]
      · rw [hcount]
        rwa [List.drop_drop] at hplaced
  · rintro ⟨j, hrun, row, hrow, hplaced⟩
    obtain ⟨hle, hlength, hdeeper⟩ := (inRun_iff hi).mp hrun
    refine ⟨hi, ?_⟩
    obtain rfl | hlt := Nat.eq_or_lt_of_le hle
    · obtain rfl : DisplayRow.header h = row := Option.some.inj (hi.symm.trans hrow)
      exact .inl hplaced
    · obtain ⟨m, rfl⟩ : ∃ m, j = i + 1 + m := ⟨j - (i + 1), by omega⟩
      refine .inr ⟨m, row, by rwa [List.getElem?_drop], ?_, ?_⟩
      · rw [List.drop_take] at hdeeper
        rwa [show i + 1 + m + 1 - (i + 1) = m + 1 by omega] at hdeeper
      · rw [hcount] at hplaced
        rwa [List.drop_drop]

end Positions

end Tabular
