import Tabular.Proofs.Page.Placed
/-!
# Pages in machine words

The numbers of a page are 64-bit words on a machine. `paginate?` cuts the page out in checked
arithmetic, which fails where a result is no word, a difference is negative, or a divisor is zero.

It never fails (`paginate?_eq_some`), for fewer than `2 ^ 63` rows and a window whose index and size
are words, however large. Since the window is clamped first, a page behind the first one begins at
the number of a record (`PageWindow.start_clamp_lt`), and such a page is no longer than what is in
front of it. So the end of a page is a word as well.

What the description of a page says about it is exact (`PageInfo.Describes`, `paginate_exact`).
-/

namespace Tabular

/-! ## Checked arithmetic -/

namespace Word

/-- A number, if it is a word. -/
def word? (n : Nat) : Option Nat := if n < UInt64.size then some n else none

def add? (a b : Nat) : Option Nat := word? (a + b)

def mul? (a b : Nat) : Option Nat := word? (a * b)

def sub? (a b : Nat) : Option Nat := if b ≤ a then some (a - b) else none

def div? (a b : Nat) : Option Nat := if b = 0 then none else some (a / b)

def mod? (a b : Nat) : Option Nat := if b = 0 then none else some (a % b)

variable {a b n : Nat}

theorem word?_eq_some (h : n < UInt64.size) : word? n = some n := if_pos h

theorem add?_eq_some (h : a + b < UInt64.size) : add? a b = some (a + b) := if_pos h

theorem mul?_eq_some (h : a * b < UInt64.size) : mul? a b = some (a * b) := if_pos h

theorem sub?_eq_some (h : b ≤ a) : sub? a b = some (a - b) := if_pos h

theorem div?_eq_some (h : 0 < b) : div? a b = some (a / b) := if_neg h.ne'

theorem mod?_eq_some (h : 0 < b) : mod? a b = some (a % b) := if_neg h.ne'

end Word

open Word

/-! ## Windows -/

namespace PageWindow

/-- A window that is made from words and changed with them. -/
inductive Reachable : PageWindow → Prop
  | make {index size : Nat} {w : PageWindow} (hindex : index < UInt64.size)
      (hsize : size < UInt64.size) (h : make index size = .ok w) : Reachable w
  | withIndex {w : PageWindow} {index : Nat} (hindex : index < UInt64.size) (h : Reachable w) :
      Reachable (w.withIndex index)
  | withSize {w sized : PageWindow} {size : Nat} (hsize : size < UInt64.size) (hw : Reachable w)
      (h : w.withSize size = .ok sized) : Reachable sized
  | clamp {w : PageWindow} (items : Nat) (h : Reachable w) : Reachable (w.clamp items)

/-- The index and the size of a window that is made from words are words. -/
theorem Reachable.fits {w : PageWindow} (h : Reachable w) :
    w.index < UInt64.size ∧ w.size < UInt64.size := by
  have hone : 1 < UInt64.size := by decide
  have hmake {index size : Nat} {w : PageWindow} (hindex : index < UInt64.size)
      (hsize : size < UInt64.size) (h : PageWindow.make index size = .ok w) :
      w.index < UInt64.size ∧ w.size < UInt64.size := by
    unfold PageWindow.make at h
    split at h
    · obtain rfl := Except.ok.inj h
      exact ⟨max_lt hindex hone, hsize⟩
    · cases h
  induction h with
  | make hindex hsize h => exact hmake hindex hsize h
  | withIndex hindex _ ih => exact ⟨max_lt hindex hone, ih.2⟩
  | withSize hsize _ h ih => exact hmake ih.1 hsize h
  | clamp items _ ih => exact ⟨max_lt ((Nat.min_le_left ..).trans_lt ih.1) hone, ih.2⟩

variable (w : PageWindow) (items : Nat)

/-- The number of pages, in checked arithmetic. -/
def totalPages? : Option Nat := do
  let full ← div? items w.size
  let rest ← mod? items w.size
  let pages ← (if 0 < rest then add? full 1 else some full)
  return max pages 1

/-- The window with its index clamped to the pages there are, in checked arithmetic. -/
def clamp? : Option PageWindow := do
  return w.withIndex (min w.index (← w.totalPages? items))

/-- The page of the record with the given number, in checked arithmetic. -/
def pageOf? (ordinal : Nat) : Option Nat := do
  add? (← div? ordinal w.size) 1

/-- The number of the first record of the page, in checked arithmetic. -/
def start? : Option Nat := do
  mul? (← sub? w.index 1) w.size

end PageWindow

section Cut

variable {ρ : Type} (level? : ρ → Option Nat) (w : PageWindow) (items pages start stop : Nat)

/-- Whether a header has nothing under it and belongs to the page, in checked arithmetic. -/
def isAnchored? (ordinal level : Nat) (rest : List ρ) : Option Bool :=
  if isChildless level? level rest then do
    let anchor ← (if items ≤ ordinal then some pages else w.pageOf? ordinal)
    return anchor == w.index
  else some false

/-- The rows of a page among the remaining rows, in checked arithmetic, given the headers in force,
the position of the first row that remains, and the number of records passed. -/
def pageRowsFrom? : List (PendingHeader ρ) → Nat → Nat → List ρ → Option (List ρ)
  | _, _, _, [] => some []
  | headers, position, ordinal, row :: rest => do
    let next ← add? position 1
    match level? row with
    | some level =>
      let headers := PendingHeader.enter headers level row
      let anchored ← isAnchored? level? w items pages ordinal level rest
      if anchored then
        let more ← pageRowsFrom? (PendingHeader.markShown headers) next ordinal rest
        return PendingHeader.missing headers ++ more
      else pageRowsFrom? headers next ordinal rest
    | none =>
      let following ← add? ordinal 1
      if start ≤ ordinal ∧ ordinal < stop then
        let more ← pageRowsFrom? (PendingHeader.markShown headers) next following rest
        return PendingHeader.missing headers ++ row :: more
      else pageRowsFrom? headers next following rest

end Cut

/-- The page of a window and its description, in checked arithmetic. -/
def paginate? {α : Type} (rows : List (DisplayRow α)) (window : PageWindow) :
    Option (List (DisplayRow α) × PageInfo) := do
  let items ← word? (countRecords rows)
  let w ← window.clamp? items
  let pages ← w.totalPages? items
  let start ← w.start?
  let stop ← add? start w.size
  let page ← pageRowsFrom? DisplayRow.level? w items pages start stop [] 0 0 rows
  let first ← (if items = 0 then some 0 else add? start 1)
  return (page,
    { page := w.index
      pageSize := w.size
      totalItems := items
      totalPages := pages
      firstItem := first
      lastItem := min stop items })

/-! ## No result is out of range -/

namespace PageWindow

variable {w : PageWindow} {items ordinal : Nat}

/-- A page is not the last one when it is full and records are left. -/
theorem lt_totalPages_iff {k : Nat} (hk : 1 ≤ k) :
    k < w.totalPages items ↔ k * w.size < items := by
  have hceil : items ⌈/⌉ w.size ≤ k ↔ items ≤ k * w.size := by
    rw [ceilDiv_le_iff_le_smul w.size_pos, smul_eq_mul, mul_comm]
  rw [totalPages_eq, lt_max_iff, ← not_le, ← not_le, hceil]
  omega

theorem start_pos_iff : 0 < w.start ↔ 1 < w.index := by
  rw [start, Nat.mul_pos_iff_of_pos_right w.size_pos, Nat.sub_pos_iff_lt]

/-- The records up to the end of a page fill the pages up to it. -/
theorem stop_eq : w.stop = w.index * w.size := by
  rw [stop, start, ← Nat.succ_mul, Nat.succ_eq_add_one, Nat.sub_add_cancel w.index_pos]

/-- A page behind the first one begins at the number of a record. -/
theorem start_clamp_lt (h : 1 < (w.clamp items).index) : (w.clamp items).start < items := by
  have hsame : (w.clamp items).totalPages items = w.totalPages items := rfl
  have hle := w.index_clamp_le items
  refine (lt_totalPages_iff (Nat.le_sub_one_of_lt h)).mp ?_
  omega

/-- **The end of a clamped page is a word.** -/
theorem stop_clamp_lt (hitems : items < 2 ^ 63) (hsize : w.size < UInt64.size) :
    (w.clamp items).stop < UInt64.size := by
  have hsame : (w.clamp items).size = w.size := rfl
  rcases Nat.lt_or_ge 1 (w.clamp items).index with hlater | hfirst
  · have hstart := start_clamp_lt hlater
    -- Behind the first page, at least one page lies in front, so the size is bounded as well.
    have hle : w.size ≤ (w.clamp items).start :=
      Nat.le_mul_of_pos_left _ (Nat.sub_pos_of_lt hlater)
    have htwice : 2 ^ 63 + 2 ^ 63 = UInt64.size := by decide
    rw [stop, hsame]
    omega
  · have hindex := (w.clamp items).index_pos
    have hzero : (w.clamp items).start = 0 := by
      rw [start, show (w.clamp items).index = 1 by omega, Nat.sub_self, Nat.zero_mul]
    rwa [stop, hzero, Nat.zero_add]

theorem totalPages?_eq_some (h : items < UInt64.size) :
    w.totalPages? items = some (w.totalPages items) := by
  rw [totalPages?, div?_eq_some w.size_pos, mod?_eq_some w.size_pos, totalPages]
  rcases Nat.eq_zero_or_pos (items % w.size) with hrest | hrest
  · simp [hrest]
  · have hparts := Nat.div_add_mod items w.size
    have hquotient : items / w.size ≤ w.size * (items / w.size) :=
      Nat.le_mul_of_pos_left _ w.size_pos
    have hfull : items / w.size + 1 < UInt64.size := by omega
    simp [hrest, hrest.ne', add?_eq_some hfull]

theorem clamp?_eq_some (h : items < UInt64.size) : w.clamp? items = some (w.clamp items) := by
  rw [clamp?, totalPages?_eq_some h]
  rfl

theorem pageOf?_eq_some (h : ordinal + 1 < UInt64.size) :
    w.pageOf? ordinal = some (w.pageOf ordinal) := by
  have hquotient : ordinal / w.size ≤ ordinal := Nat.div_le_self ..
  have hpage : ordinal / w.size + 1 < UInt64.size := by omega
  rw [pageOf?, div?_eq_some w.size_pos]
  exact add?_eq_some hpage

theorem start?_eq_some (h : w.start < UInt64.size) : w.start? = some w.start := by
  rw [start?, sub?_eq_some w.index_pos]
  exact mul?_eq_some h

end PageWindow

section Cut

variable {ρ : Type} {level? : ρ → Option Nat} {w : PageWindow} {items ordinal level : Nat}

theorem isAnchored?_eq_some (h : ordinal + 1 < UInt64.size) (rest : List ρ) :
    isAnchored? level? w items (w.totalPages items) ordinal level rest =
      some (isChildless level? level rest && anchorPage w items ordinal == w.index) := by
  have hanchor : (if items ≤ ordinal then some (w.totalPages items) else w.pageOf? ordinal) =
      some (anchorPage w items ordinal) := by
    rw [anchorPage, PageWindow.pageOf?_eq_some h, apply_ite some]
  rw [isAnchored?, hanchor]
  cases isChildless level? level rest <;> rfl

/-- **The rows of a page are cut out without leaving the words**: the position and the number of
records grow by one with a row at most. -/
theorem pageRowsFrom?_eq_some {headers : List (PendingHeader ρ)} {position : Nat} {rows : List ρ}
    (hposition : position + rows.length < UInt64.size)
    (hordinal : ordinal + rows.length < UInt64.size) :
    pageRowsFrom? level? w items (w.totalPages items) w.start w.stop headers position ordinal rows =
      some (pageRowsFrom level? w items headers ordinal rows) := by
  induction rows generalizing headers position ordinal with
  | nil => rfl
  | cons row rest ih =>
    rw [List.length_cons] at hposition hordinal
    have hnext : add? position 1 = some (position + 1) := add?_eq_some (by omega)
    have hfollowing : add? ordinal 1 = some (ordinal + 1) := add?_eq_some (by omega)
    rw [pageRowsFrom?, hnext, pageRowsFrom]
    cases level? row with
    | some level =>
      have hrest := fun headers => @ih ordinal headers (position + 1) (by omega) (by omega)
      simp only [Option.bind_eq_bind, Option.bind_some,
        isAnchored?_eq_some (show ordinal + 1 < UInt64.size by omega), hrest, Bool.and_eq_true,
        beq_iff_eq]
      split <;> rfl
    | none =>
      have hrest := fun headers => @ih (ordinal + 1) headers (position + 1) (by omega) (by omega)
      simp only [Option.bind_eq_bind, Option.bind_some, hfollowing, hrest]
      split <;> rfl

end Cut

section Pages

variable {α : Type} {rows : List (DisplayRow α)} {w : PageWindow}

theorem countRecords_le_length (rows : List (DisplayRow α)) : countRecords rows ≤ rows.length :=
  List.countP_le_length

/-- **A page is cut out and described without leaving the words.** -/
theorem paginate?_eq_some (hrows : rows.length < 2 ^ 63) (hsize : w.size < UInt64.size) :
    paginate? rows w = some (paginate rows w) := by
  have hitems := (countRecords_le_length rows).trans_lt hrows
  have hhalf : 2 ^ 63 < UInt64.size := by decide
  have hword := hitems.trans hhalf
  have hstop := PageWindow.stop_clamp_lt hitems hsize
  simp only [paginate?, paginate, word?_eq_some hword, PageWindow.clamp?_eq_some hword,
    Option.bind_eq_bind, Option.bind_some]
  generalize w.clamp (countRecords rows) = cut at hstop ⊢
  have hpos := cut.size_pos
  rw [PageWindow.stop] at hstop
  have hfirst : (if countRecords rows = 0 then some 0 else add? cut.start 1) =
      some (if countRecords rows = 0 then 0 else cut.start + 1) := by
    rw [add?_eq_some (show cut.start + 1 < UInt64.size by omega), apply_ite some]
  have hpage : pageRowsFrom? DisplayRow.level? cut (countRecords rows)
      (cut.totalPages (countRecords rows)) cut.start (cut.start + cut.size) [] 0 0 rows =
      some (pageRowsFrom DisplayRow.level? cut (countRecords rows) [] 0 rows) :=
    pageRowsFrom?_eq_some (by omega) (by omega)
  simp only [PageWindow.totalPages?_eq_some hword,
    PageWindow.start?_eq_some ((Nat.le_add_right ..).trans_lt hstop), add?_eq_some hstop, hpage,
    hfirst, Option.bind_some]
  rfl

/-! ## What the description says -/

namespace PageInfo

/-- What a description says about the page of a window among some number of records, given the
number of records that the page shows. -/
structure Describes (info : PageInfo) (w : PageWindow) (items shown : Nat) : Prop where
  page_eq : info.page = max 1 (min w.index info.totalPages)
  pageSize_eq : info.pageSize = w.size
  totalItems_eq : info.totalItems = items
  totalPages_eq : info.totalPages = max 1 (items ⌈/⌉ w.size)
  none_shown : items = 0 → info.firstItem = 0 ∧ info.lastItem = 0
  firstItem_eq : items ≠ 0 → info.firstItem = (info.page - 1) * w.size + 1
  firstItem_le : items ≠ 0 → info.firstItem ≤ info.lastItem
  lastItem_le : info.lastItem ≤ items
  shown_eq : items ≠ 0 → info.lastItem - info.firstItem + 1 = shown
  hasPrevious_iff : info.hasPrevious ↔ 1 < info.firstItem
  hasNext_iff : info.hasNext ↔ info.lastItem < items

end PageInfo

/-- The page of a window shows the records from its first number to its last one. -/
theorem countRecords_paginate (rows : List (DisplayRow α)) (w : PageWindow) :
    countRecords (paginate rows w).1 =
      min (w.clamp (countRecords rows)).stop (countRecords rows) -
        (w.clamp (countRecords rows)).start := by
  have hnone : AllHeaders DisplayRow.level? ([] : List (PendingHeader (DisplayRow α))) :=
    fun p hp => nomatch hp
  rw [← length_recordsOf, paginate, recordsOf_pageRowsFrom hnone, List.length_take,
    List.length_drop, length_recordsOf]
  omega

/-- **The description of a page is exact.** -/
theorem describes_paginate (rows : List (DisplayRow α)) (w : PageWindow) :
    (paginate rows w).2.Describes w (countRecords rows) (countRecords (paginate rows w).1) := by
  let cut := w.clamp (countRecords rows)
  have hpos : 1 ≤ cut.size := cut.size_pos
  have hstop : cut.stop = cut.start + cut.size := rfl
  have hstart : 0 < cut.start → cut.start < countRecords rows := fun h =>
    PageWindow.start_clamp_lt (PageWindow.start_pos_iff.mp h)
  have hfirst : (paginate rows w).2.firstItem =
      if countRecords rows = 0 then 0 else cut.start + 1 := rfl
  have hlast : (paginate rows w).2.lastItem = min cut.stop (countRecords rows) := rfl
  have hshown : countRecords (paginate rows w).1 = min cut.stop (countRecords rows) - cut.start :=
    countRecords_paginate rows w
  constructor
  case page_eq => exact Nat.max_comm ..
  case pageSize_eq => rfl
  case totalItems_eq => rfl
  case totalPages_eq => exact cut.totalPages_eq _
  case none_shown => intro hnone; rw [hfirst, hlast, hnone]; simp
  case firstItem_eq => intro hsome; rw [hfirst, if_neg hsome]; rfl
  case firstItem_le => intro hsome; rw [hfirst, if_neg hsome]; omega
  case lastItem_le => exact Nat.min_le_right ..
  case shown_eq => intro hsome; rw [hfirst, if_neg hsome]; omega
  case hasPrevious_iff =>
    have hpage : (paginate rows w).2.hasPrevious ↔ 1 < cut.index := decide_eq_true_iff
    rw [hpage, ← PageWindow.start_pos_iff, hfirst]
    split <;> omega
  case hasNext_iff =>
    have hpage : (paginate rows w).2.hasNext ↔ cut.index < cut.totalPages (countRecords rows) :=
      decide_eq_true_iff
    rw [hpage, PageWindow.lt_totalPages_iff cut.index_pos, ← PageWindow.stop_eq, hlast]
    omega

/-- **Pages are cut out in machine words.** For fewer than `2 ^ 63` rows and any window that is made
from words, no result is out of range, no difference is negative and no divisor is zero, and what
the description says about the page is exact. -/
theorem paginate_exact (hrows : rows.length < 2 ^ 63) (hw : w.Reachable) :
    paginate? rows w = some (paginate rows w) ∧
      (paginate rows w).2.Describes w (countRecords rows) (countRecords (paginate rows w).1) :=
  ⟨paginate?_eq_some hrows hw.fits.2, describes_paginate rows w⟩

/-- The largest index and the largest size there are come to one page of all the records. -/
theorem paginate_exact_largest_window :
    ∃ w, PageWindow.make (2 ^ 64 - 1) (2 ^ 64 - 1) = .ok w ∧
      let rows : List (DisplayRow Bool) := [.record ⟨0, true⟩, .record ⟨1, false⟩]
      rows.length < 2 ^ 63 ∧ w.Reachable ∧ paginate rows w = (rows, ⟨1, 2 ^ 64 - 1, 2, 1, 1, 2⟩) ∧
        paginate? rows w = some (paginate rows w) ∧
        (paginate rows w).2.Describes w (countRecords rows) (countRecords (paginate rows w).1) :=
  have hlargest : 2 ^ 64 - 1 < UInt64.size := by decide
  have hreachable := PageWindow.Reachable.make hlargest hlargest rfl
  ⟨_, rfl, by decide, hreachable, by decide, paginate_exact (by decide) hreachable⟩

end Pages

end Tabular
