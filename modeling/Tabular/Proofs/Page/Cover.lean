import Mathlib.Algebra.Order.Floor.Div
import Tabular.Page
/-!
# Pages cover their rows

Which rows stand on a page depends on the levels of the headers alone, so a page may be cut out of
rows that carry a mark (`pageRowsFrom_map`). With the positions of the rows as marks, three facts
about one page say where each row goes:

* the page takes rows of the list in their order, pending headers first
  (`pageRowsFrom_sublist`);
* its records are the block of records that its index and size name (`filter_pageRowsFrom`);
* a header stands on the page of the next record, or on the last page when no record follows
  (`mem_pageRowsFrom`). A header with rows under it has none of its own level before the next
  record or childless header, so it is still in force, and pending, when that row is reached
  (`mem_of_waiting`).

Together the pages show every row, each record once (`paginate_covers`).
-/

namespace Tabular

/-! ## Numbers of pages -/

namespace PageWindow

theorem totalPages_eq (w : PageWindow) (items : Nat) :
    w.totalPages items = max 1 (items ⌈/⌉ w.size) := by
  have hs := w.size_pos
  have hdiv : items ⌈/⌉ w.size =
      if items % w.size = 0 then items / w.size else items / w.size + 1 := by
    rw [Nat.ceilDiv_eq_add_pred_div]
    have hmod : items % w.size < w.size := Nat.mod_lt _ hs
    have hrec := Nat.div_add_mod items w.size
    split
    · rw [Nat.div_eq_of_lt_le] <;> lia
    · rw [Nat.div_eq_of_lt_le] <;> lia
  rw [totalPages, hdiv, max_comm]

theorem one_le_totalPages (w : PageWindow) (items : Nat) : 1 ≤ w.totalPages items :=
  Nat.le_max_right ..

theorem totalPages_mul_size (w : PageWindow) (items : Nat) :
    items ≤ w.totalPages items * w.size := by
  have hle : items ≤ (items ⌈/⌉ w.size) * w.size := by
    rw [mul_comm, ← smul_eq_mul]
    exact le_smul_ceilDiv w.size_pos
  rw [totalPages_eq]
  exact hle.trans (Nat.mul_le_mul_right _ (Nat.le_max_right ..))

/-- The page of a record is one of the pages there are. -/
theorem pageOf_le_totalPages (w : PageWindow) {items ordinal : Nat} (h : ordinal < items) :
    w.pageOf ordinal ≤ w.totalPages items := by
  have hlt : ordinal < w.totalPages items * w.size := h.trans_le (w.totalPages_mul_size items)
  exact Nat.div_lt_of_lt_mul (by rwa [mul_comm] at hlt)

/-- A record stands between the first and the last record of its page. -/
theorem start_le_and_lt_stop_iff (w : PageWindow) (ordinal : Nat) :
    w.start ≤ ordinal ∧ ordinal < w.stop ↔ w.pageOf ordinal = w.index := by
  have hs := w.size_pos
  have hi := w.index_pos
  obtain ⟨k, hk⟩ : ∃ k, w.index = k + 1 := ⟨w.index - 1, by omega⟩
  rw [stop, start, pageOf, hk, Nat.add_sub_cancel, Nat.add_right_cancel_iff]
  rw [Nat.div_eq_iff hs]
  omega

theorem clamp_withIndex (w : PageWindow) {items index : Nat} (hpos : 1 ≤ index)
    (hle : index ≤ w.totalPages items) :
    (w.withIndex index).clamp items = w.withIndex index := by
  have htotal : (w.withIndex index).totalPages items = w.totalPages items := rfl
  have hindex : (w.withIndex index).index = index := Nat.max_eq_left hpos
  rw [clamp, htotal, hindex, Nat.min_eq_left hle]
  rfl

/-- The index of a clamped window is a page that exists. -/
theorem index_clamp (w : PageWindow) (items : Nat) :
    (w.clamp items).index = min w.index (w.totalPages items) := by
  have hpages := w.one_le_totalPages items
  have hindex := w.index_pos
  exact Nat.max_eq_left (by omega)

theorem index_clamp_le (w : PageWindow) (items : Nat) :
    (w.clamp items).index ≤ w.totalPages items := by
  rw [index_clamp]
  exact Nat.min_le_right ..

/-- Clamping a window again does not move it. -/
theorem clamp_withIndex_clamp (w : PageWindow) (items : Nat) :
    (w.withIndex (w.clamp items).index).clamp items = w.clamp items := by
  rw [w.clamp_withIndex (w.clamp items).index_pos (w.index_clamp_le items)]
  exact (w.clamp items).withIndex_self

end PageWindow

/-- The page of a header without rows is one of the pages there are. -/
theorem anchorPage_mem (w : PageWindow) (items ordinal : Nat) :
    1 ≤ anchorPage w items ordinal ∧ anchorPage w items ordinal ≤ w.totalPages items := by
  unfold anchorPage
  split
  · exact ⟨w.one_le_totalPages items, Nat.le_refl _⟩
  · next h => exact ⟨Nat.le_add_left .., w.pageOf_le_totalPages (Nat.lt_of_not_le h)⟩

/-- Blocks of equal size, as many as are needed, are the whole list. -/
theorem flatMap_range_take_drop {β : Type} (l : List β) (size count : Nat)
    (h : l.length ≤ count * size) :
    ((List.range count).flatMap fun k => (l.drop (k * size)).take size) = l := by
  have htake : ∀ n, ((List.range n).flatMap fun k => (l.drop (k * size)).take size) =
      l.take (n * size) := by
    intro n
    induction n with
    | zero => simp
    | succ n ih => simp [List.range_succ, ih, Nat.succ_mul, List.take_add]
  rw [htake, List.take_of_length_le h]

/-! ## Marked rows -/

section Cut

open PendingHeader

variable {ρ σ : Type} {level? : ρ → Option Nat} {w : PageWindow} {items : Nat}

/-- A pending header with its row in another form. -/
def PendingHeader.map (f : σ → ρ) (p : PendingHeader σ) : PendingHeader ρ := ⟨f p.row, p.shown⟩

theorem missing_map (f : σ → ρ) (headers : List (PendingHeader σ)) :
    missing (headers.map (PendingHeader.map f)) = (missing headers).map f := by
  simp [missing, List.filter_map, Function.comp_def, PendingHeader.map]

theorem markShown_map (f : σ → ρ) (headers : List (PendingHeader σ)) :
    markShown (headers.map (PendingHeader.map f)) =
      (markShown headers).map (PendingHeader.map f) := by
  simp [markShown, PendingHeader.map]

theorem enter_map (f : σ → ρ) (headers : List (PendingHeader σ)) (level : Nat) (row : σ) :
    enter (headers.map (PendingHeader.map f)) level (f row) =
      (enter headers level row).map (PendingHeader.map f) := by
  simp [enter, PendingHeader.map]

theorem isChildless_map (f : σ → ρ) (level : Nat) (rest : List σ) :
    isChildless level? level (rest.map f) = isChildless (level? ∘ f) level rest := by
  cases rest <;> rfl

/-- **Marks do not matter**: the page of rows in another form is the page of the rows, put into
this form. -/
theorem pageRowsFrom_map (f : σ → ρ) (headers : List (PendingHeader σ)) (ordinal : Nat)
    (rows : List σ) :
    pageRowsFrom level? w items (headers.map (PendingHeader.map f)) ordinal (rows.map f) =
      (pageRowsFrom (level? ∘ f) w items headers ordinal rows).map f := by
  induction rows generalizing headers ordinal with
  | nil => rfl
  | cons row rest ih =>
    simp only [List.map_cons, pageRowsFrom, Function.comp_apply]
    cases level? (f row) with
    | some level =>
      simp only [enter_map, isChildless_map, missing_map, markShown_map, ih]
      split <;> simp
    | none =>
      simp only [missing_map, markShown_map, ih]
      split <;> simp

/-! ## What a page takes -/

@[simp] theorem missing_markShown (headers : List (PendingHeader ρ)) :
    missing (markShown headers) = [] := by
  simp [missing, markShown, List.filter_map, Function.comp_def]

theorem missing_enter_sublist (headers : List (PendingHeader ρ)) (level : Nat) (row : ρ) :
    (missing (enter headers level row)).Sublist (missing headers ++ [row]) := by
  simp only [missing, enter, List.filter_append, List.map_append]
  exact ((List.take_sublist _ _).filter _ |>.map _).append (List.Sublist.refl _)

/-- **A page keeps the order of the rows**: it takes some of the pending headers and then some of
the rows. -/
theorem pageRowsFrom_sublist (headers : List (PendingHeader ρ)) (ordinal : Nat) (rows : List ρ) :
    (pageRowsFrom level? w items headers ordinal rows).Sublist (missing headers ++ rows) := by
  induction rows generalizing headers ordinal with
  | nil => simp [pageRowsFrom]
  | cons row rest ih =>
    have hshown : ∀ hs n, (pageRowsFrom level? w items (markShown hs) n rest).Sublist rest := by
      intro hs n
      simpa using ih (markShown hs) n
    rw [pageRowsFrom]
    split
    · next level _ =>
      have henter := missing_enter_sublist headers level row
      split
      · simpa using henter.append (hshown (enter headers level row) ordinal)
      · simpa using (ih (enter headers level row) ordinal).trans
          (henter.append (List.Sublist.refl rest))
    · split
      · exact (List.Sublist.refl _).append ((hshown headers (ordinal + 1)).cons_cons row)
      · exact (ih headers (ordinal + 1)).trans
          ((List.Sublist.refl _).append (List.sublist_cons_self row rest))

/-- The rows that are records. -/
def recordsOf (level? : ρ → Option Nat) (rows : List ρ) : List ρ :=
  rows.filter fun row => (level? row).isNone

/-- The pending headers are headers. -/
def AllHeaders (level? : ρ → Option Nat) (headers : List (PendingHeader ρ)) : Prop :=
  ∀ p ∈ headers, (level? p.row).isSome

theorem AllHeaders.markShown {headers : List (PendingHeader ρ)} (h : AllHeaders level? headers) :
    AllHeaders level? (markShown headers) := by
  intro p hp
  obtain ⟨q, hq, rfl⟩ := List.mem_map.mp hp
  exact h q hq

theorem AllHeaders.enter {headers : List (PendingHeader ρ)} (h : AllHeaders level? headers)
    {level : Nat} {row : ρ} (hrow : level? row = some level) :
    AllHeaders level? (enter headers level row) := by
  intro p hp
  rcases List.mem_append.mp hp with hp | hp
  · exact h p (List.mem_of_mem_take hp)
  · rw [List.mem_singleton.mp hp, hrow]
    rfl

theorem AllHeaders.recordsOf_missing {headers : List (PendingHeader ρ)}
    (h : AllHeaders level? headers) : recordsOf level? (missing headers) = [] := by
  refine List.filter_eq_nil_iff.mpr fun row hrow => ?_
  obtain ⟨p, hp, rfl⟩ := List.mem_map.mp hrow
  have := h p (List.mem_of_mem_filter hp)
  simpa [Option.isSome_iff_ne_none] using this

theorem recordsOf_append (rows more : List ρ) :
    recordsOf level? (rows ++ more) = recordsOf level? rows ++ recordsOf level? more :=
  List.filter_append ..

theorem recordsOf_cons_header {row : ρ} {level : Nat} (h : level? row = some level)
    (rows : List ρ) : recordsOf level? (row :: rows) = recordsOf level? rows := by
  simp [recordsOf, h]

theorem recordsOf_cons_record {row : ρ} (h : level? row = none) (rows : List ρ) :
    recordsOf level? (row :: rows) = row :: recordsOf level? rows := by
  simp [recordsOf, h]

/-- **The records of a page are a block of the records**: those from the first number of the page
to the last, where the records passed count as well. -/
theorem recordsOf_pageRowsFrom {headers : List (PendingHeader ρ)} (h : AllHeaders level? headers)
    (ordinal : Nat) (rows : List ρ) :
    recordsOf level? (pageRowsFrom level? w items headers ordinal rows) =
      ((recordsOf level? rows).drop (w.start - ordinal)).take (w.stop - max w.start ordinal) := by
  induction rows generalizing headers ordinal with
  | nil => simp [pageRowsFrom, recordsOf]
  | cons row rest ih =>
    rw [pageRowsFrom]
    split
    · next level hrow =>
      have henter := h.enter hrow
      rw [recordsOf_cons_header hrow]
      split
      · rw [recordsOf_append, henter.recordsOf_missing, List.nil_append, ih henter.markShown]
      · rw [ih henter]
    · next hrow =>
      rw [recordsOf_cons_record hrow]
      split
      · next hin =>
        rw [recordsOf_append, h.recordsOf_missing, List.nil_append, recordsOf_cons_record hrow,
          ih h.markShown]
        obtain ⟨n, hn⟩ : ∃ n, w.stop - max w.start ordinal = n + 1 :=
          ⟨w.stop - max w.start ordinal - 1, by omega⟩
        rw [hn, show w.start - ordinal = 0 by omega, show w.start - (ordinal + 1) = 0 by omega,
          show w.stop - max w.start (ordinal + 1) = n by omega]
        rfl
      · next hout =>
        rw [ih h]
        rcases Nat.lt_or_ge ordinal w.start with hlt | hge
        · rw [show w.start - ordinal = (w.start - (ordinal + 1)) + 1 by omega, List.drop_succ_cons,
            show max w.start (ordinal + 1) = max w.start ordinal by omega]
        · rw [show w.stop - max w.start (ordinal + 1) = 0 by omega,
            show w.stop - max w.start ordinal = 0 by omega, List.take_zero, List.take_zero]

/-! ## Where a header goes -/

/-- The rows after a header of the level `depth - 1` or less begin under it: with a record, or with
a header that leaves `depth` headers in force. -/
def Continues (level? : ρ → Option Nat) (depth : Nat) : List ρ → Prop
  | next :: _ => ∀ level ∈ level? next, depth ≤ level
  | [] => False

theorem continues_of_not_isChildless {level : Nat} {rest : List ρ}
    (h : ¬ isChildless level? level rest = true) : Continues level? (level + 1) rest := by
  cases rest with
  | nil => simp [isChildless] at h
  | cons next rest =>
    intro l hl
    have hl : level? next = some l := hl
    have hlt : level < l := by simpa [isChildless, hl] using h
    exact hlt

theorem Continues.mono {depth depth' : Nat} {rest : List ρ} (h : Continues level? depth rest)
    (hle : depth' ≤ depth) : Continues level? depth' rest := by
  cases rest with
  | nil => exact h
  | cons next rest => exact fun level hlevel => hle.trans (h level hlevel)

theorem mem_missing {headers : List (PendingHeader ρ)} {row : ρ} (h : ⟨row, false⟩ ∈ headers) :
    row ∈ missing headers :=
  List.mem_map.mpr ⟨⟨row, false⟩, List.mem_filter.mpr ⟨h, rfl⟩, rfl⟩

theorem length_enter_le (headers : List (PendingHeader ρ)) (level : Nat) (row : ρ) :
    (enter headers level row).length ≤ level + 1 := by
  simp only [enter, List.length_append, List.length_take, List.length_singleton]
  omega

/-- **A header that waits is shown**: when the rows that follow begin under the headers in force,
each of these that the page does not show yet is on the page of the next record or childless
header, which is the same page. -/
theorem mem_of_waiting {headers : List (PendingHeader ρ)} {row : ρ} {ordinal : Nat}
    {rest : List ρ} (hrow : ⟨row, false⟩ ∈ headers)
    (hcont : Continues level? headers.length rest)
    (hitems : ordinal + (recordsOf level? rest).length = items)
    (hpage : anchorPage w items ordinal = w.index) :
    row ∈ pageRowsFrom level? w items headers ordinal rest := by
  induction rest generalizing headers with
  | nil => exact hcont.elim
  | cons next rest ih =>
    rw [pageRowsFrom]
    split
    · next level hnext =>
      have hdepth : headers.length ≤ level := hcont level hnext
      have hrow' : ⟨row, false⟩ ∈ enter headers level next := by
        rw [enter, List.take_of_length_le hdepth]
        exact List.mem_append_left _ hrow
      split
      · exact List.mem_append_left _ (mem_missing hrow')
      · next hnot =>
        -- The page is the right one, so the header has rows under it, and these come next.
        have hcont' : Continues level? (level + 1) rest :=
          continues_of_not_isChildless fun hchildless => hnot ⟨hchildless, hpage⟩
        rw [recordsOf_cons_header hnext] at hitems
        exact ih hrow' (hcont'.mono (length_enter_le headers level next)) hitems
    · next hnext =>
      rw [recordsOf_cons_record hnext, List.length_cons] at hitems
      have hlt : ¬ items ≤ ordinal := by omega
      rw [anchorPage, if_neg hlt] at hpage
      rw [if_pos ((w.start_le_and_lt_stop_iff ordinal).mpr hpage)]
      exact List.mem_append_left _ (mem_missing hrow)

/-- **A header is on the page of the next record**, or on the last page when no record follows. -/
theorem mem_pageRowsFrom {headers : List (PendingHeader ρ)} {ordinal level : Nat}
    {before after : List ρ} {row : ρ} (hrow : level? row = some level)
    (hitems : ordinal + (recordsOf level? (before ++ row :: after)).length = items)
    (hpage : anchorPage w items (ordinal + (recordsOf level? before).length) = w.index) :
    row ∈ pageRowsFrom level? w items headers ordinal (before ++ row :: after) := by
  induction before generalizing headers ordinal with
  | nil =>
    rw [List.nil_append, recordsOf_cons_header hrow] at hitems
    have hin : ⟨row, false⟩ ∈ enter headers level row :=
      List.mem_append_right _ (List.mem_singleton_self _)
    simp only [List.nil_append, pageRowsFrom, hrow]
    split
    · exact List.mem_append_left _ (mem_missing hin)
    · next hnot =>
      have hcont : Continues level? (level + 1) after :=
        continues_of_not_isChildless fun hchildless => hnot ⟨hchildless, hpage⟩
      exact mem_of_waiting hin (hcont.mono (length_enter_le headers level row)) hitems hpage
  | cons first before ih =>
    rw [List.cons_append] at hitems ⊢
    rw [pageRowsFrom]
    split
    · next hfirst =>
      rw [recordsOf_cons_header hfirst] at hitems hpage
      split
      · exact List.mem_append_right _ (ih hitems hpage)
      · exact ih hitems hpage
    · next hfirst =>
      rw [recordsOf_cons_record hfirst, List.length_cons] at hitems hpage
      have hitems' : ordinal + 1 + (recordsOf level? (before ++ row :: after)).length = items := by
        omega
      have hpage' : anchorPage w items (ordinal + 1 + (recordsOf level? before).length) =
          w.index := by
        rw [← hpage]
        congr 1
        omega
      split
      · exact List.mem_append_right _ (List.mem_cons_of_mem _ (ih hitems' hpage'))
      · exact ih hitems' hpage'

end Cut

/-! ## All pages -/

section Pages

variable {α : Type}

theorem isRecord_eq_isNone_level? (row : DisplayRow α) : row.isRecord = row.level?.isNone := by
  cases row <;> rfl

/-- The page of a window among rows with their positions. -/
def markedPage (rows : List (DisplayRow α)) (w : PageWindow) : List (DisplayRow α × Nat) :=
  pageRowsFrom (DisplayRow.level? ∘ Prod.fst) w (countRecords rows) [] 0 rows.zipIdx

theorem recordsOf_zipIdx (rows : List (DisplayRow α)) :
    recordsOf (DisplayRow.level? ∘ Prod.fst) rows.zipIdx =
      rows.zipIdx.filter fun p => p.1.isRecord :=
  List.filter_congr fun p _ => (isRecord_eq_isNone_level? p.1).symm

theorem length_recordsOf_zipIdx (rows : List (DisplayRow α)) :
    (recordsOf (DisplayRow.level? ∘ Prod.fst) rows.zipIdx).length = countRecords rows := by
  have hfst : rows = rows.zipIdx.map Prod.fst := (List.zipIdx_map_fst 0 rows).symm
  rw [recordsOf_zipIdx, countRecords]
  conv_rhs => rw [hfst]
  rw [List.countP_map, List.countP_eq_length_filter]
  rfl

/-- The page of a window that is among the pages there are, through the marked rows. -/
theorem paginate_eq_map_markedPage (rows : List (DisplayRow α)) (w : PageWindow) {k : Nat}
    (hpos : 1 ≤ k) (hle : k ≤ w.totalPages (countRecords rows)) :
    (paginate rows (w.withIndex k)).1 = (markedPage rows (w.withIndex k)).map (·.1) := by
  have key : pageRowsFrom DisplayRow.level? (w.withIndex k) (countRecords rows) [] 0
      (rows.zipIdx.map Prod.fst) = (markedPage rows (w.withIndex k)).map Prod.fst :=
    pageRowsFrom_map Prod.fst [] 0 rows.zipIdx
  rw [List.zipIdx_map_fst] at key
  rw [paginate, w.clamp_withIndex hpos hle]
  exact key

theorem markedPage_sublist (rows : List (DisplayRow α)) (w : PageWindow) :
    (markedPage rows w).Sublist rows.zipIdx :=
  pageRowsFrom_sublist [] 0 rows.zipIdx

theorem pairwise_zipIdx_snd {β : Type} (l : List β) : (l.zipIdx.map (·.2)).Pairwise (· < ·) := by
  rw [List.zipIdx_map_snd]
  exact List.pairwise_lt_range'

theorem filter_markedPage (rows : List (DisplayRow α)) (w : PageWindow) :
    (markedPage rows w).filter (·.1.isRecord) =
      ((rows.zipIdx.filter (·.1.isRecord)).drop w.start).take w.size := by
  have hnone : AllHeaders (DisplayRow.level? ∘ Prod.fst)
      ([] : List (PendingHeader (DisplayRow α × Nat))) := fun p hp => nomatch hp
  have key : recordsOf _ (markedPage rows w) = _ := recordsOf_pageRowsFrom hnone 0 rows.zipIdx
  rw [recordsOf_zipIdx] at key
  have hstop : w.stop - max w.start 0 = w.size := by rw [PageWindow.stop]; omega
  rw [hstop, Nat.sub_zero] at key
  rw [← key]
  exact List.filter_congr fun p _ => isRecord_eq_isNone_level? p.1

/-- A header is on the page of the next record, or on the last page when no record follows. -/
theorem mem_markedPage {rows : List (DisplayRow α)} {w : PageWindow} {h : GroupHeader} {i : Nat}
    {before after : List (DisplayRow α × Nat)}
    (hrows : rows.zipIdx = before ++ (.header h, i) :: after)
    (hpage : anchorPage w (countRecords rows)
      (recordsOf (DisplayRow.level? ∘ Prod.fst) before).length = w.index) :
    (.header h, i) ∈ markedPage rows w := by
  have hitems := length_recordsOf_zipIdx rows
  rw [markedPage, hrows]
  rw [hrows] at hitems
  have hlevel : (DisplayRow.level? ∘ Prod.fst) ((DisplayRow.header h, i) : DisplayRow α × Nat) =
      some h.level := rfl
  refine mem_pageRowsFrom hlevel ?_ ?_
  · rw [Nat.zero_add, hitems]
  · rw [Nat.zero_add, hpage]

theorem page_paginate (rows : List (DisplayRow α)) (w : PageWindow) :
    (paginate rows w).2.page = (w.clamp (countRecords rows)).index := rfl

/-- The page that a window comes to is the page of that window. -/
theorem paginate_withIndex_page (rows : List (DisplayRow α)) (w : PageWindow) :
    paginate rows (w.withIndex (paginate rows w).2.page) = paginate rows w := by
  rw [page_paginate, paginate, w.clamp_withIndex_clamp, paginate]

theorem page_paginate_mem (rows : List (DisplayRow α)) (w : PageWindow) :
    1 ≤ (paginate rows w).2.page ∧ (paginate rows w).2.page ≤ (paginate rows w).2.totalPages :=
  ⟨(w.clamp (countRecords rows)).index_pos, w.index_clamp_le _⟩

/-- **The pages cover the rows.** For any rows and any size of a page, let `shown k` be the rows of
page `k` with their positions in the list. Each page takes its rows from the list in strictly
ascending positions; its records are the `k`-th block of the records of the list; all pages one
after the other give the records of the list; and every header of the list is on some page. -/
theorem paginate_covers (rows : List (DisplayRow α)) (w : PageWindow) :
    ∃ shown : Nat → List (DisplayRow α × Nat),
      (∀ k, 1 ≤ k → k ≤ max 1 (countRecords rows ⌈/⌉ w.size) →
        (paginate rows (w.withIndex k)).1 = (shown k).map (·.1) ∧
        (paginate rows (w.withIndex k)).2.page = k ∧
        (paginate rows (w.withIndex k)).2.totalPages = max 1 (countRecords rows ⌈/⌉ w.size) ∧
        (shown k).Sublist rows.zipIdx ∧
        ((shown k).map (·.2)).Pairwise (· < ·) ∧
        (shown k).filter (·.1.isRecord) =
          ((rows.zipIdx.filter (·.1.isRecord)).drop ((k - 1) * w.size)).take w.size) ∧
      ((List.range (max 1 (countRecords rows ⌈/⌉ w.size))).flatMap fun k =>
          (shown (k + 1)).filter (·.1.isRecord)) = rows.zipIdx.filter (·.1.isRecord) ∧
      ∀ h i, (.header h, i) ∈ rows.zipIdx →
        ∃ k, 1 ≤ k ∧ k ≤ max 1 (countRecords rows ⌈/⌉ w.size) ∧ (.header h, i) ∈ shown k := by
  rw [← w.totalPages_eq]
  refine ⟨fun k => markedPage rows (w.withIndex k), fun k hpos hle => ?_, ?_, fun h i hmem => ?_⟩
  · have hindex : (w.withIndex k).index = k := Nat.max_eq_left hpos
    have hstart : (w.withIndex k).start = (k - 1) * w.size := by rw [PageWindow.start, hindex]; rfl
    have hsublist := markedPage_sublist rows (w.withIndex k)
    refine ⟨paginate_eq_map_markedPage rows w hpos hle, ?_, ?_, hsublist, ?_, ?_⟩
    · rw [paginate, w.clamp_withIndex hpos hle]
      exact hindex
    · rw [paginate, w.clamp_withIndex hpos hle]
      rfl
    · exact (pairwise_zipIdx_snd rows).sublist (hsublist.map _)
    · rw [filter_markedPage, hstart]
      rfl
  · have hstart : ∀ k, (w.withIndex (k + 1)).start = k * w.size := by
      intro k
      have hindex : (w.withIndex (k + 1)).index = k + 1 := Nat.max_eq_left (by omega)
      rw [PageWindow.start, hindex]
      rfl
    simp only [filter_markedPage, hstart]
    refine flatMap_range_take_drop _ w.size _ ?_
    rw [← recordsOf_zipIdx, length_recordsOf_zipIdx]
    exact w.totalPages_mul_size _
  · obtain ⟨before, after, hrows⟩ := List.append_of_mem hmem
    have hanchor := anchorPage_mem w (countRecords rows)
      (recordsOf (DisplayRow.level? ∘ Prod.fst) before).length
    refine ⟨_, hanchor.1, hanchor.2, mem_markedPage hrows ?_⟩
    exact (Nat.max_eq_left hanchor.1).symm

end Pages

end Tabular
