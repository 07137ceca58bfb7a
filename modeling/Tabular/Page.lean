import Tabular.Group.Rows
/-!
# Pages

A page holds a given number of records, and the headers in force come on top of that: a page
repeats every header over one of its records. A header without visible records belongs to the page
of the next record, or to the last page when no record follows.

`PageWindow` asks for a page; its index and size are at least one by type. `paginate` clamps the
window to the pages there are and cuts the page out.
-/

namespace Tabular

/-- A page that is asked for: its index, counted from one, and the number of records on a page. -/
structure PageWindow where
  index : Nat
  size : Nat
  index_pos : 1 ≤ index
  size_pos : 1 ≤ size
deriving DecidableEq, Repr

namespace PageWindow

/-- The number of records on a page unless something else is asked for. -/
def defaultSize : Nat := 10

/-- The first page of the default size. -/
def first : PageWindow := ⟨1, defaultSize, by decide, by decide⟩

instance : Inhabited PageWindow := ⟨first⟩

/-- The window at another index; index zero means the first page. -/
def withIndex (w : PageWindow) (index : Nat) : PageWindow :=
  { w with index := max index 1, index_pos := Nat.le_max_right .. }

/-- The window of an index and a size. An empty page is refused. -/
def make (index size : Nat) : Except ViewError PageWindow :=
  if h : 1 ≤ size then .ok ⟨max index 1, size, Nat.le_max_right .., h⟩ else .error .invalidPageSize

/-- The window with another size. -/
def withSize (w : PageWindow) (size : Nat) : Except ViewError PageWindow := make w.index size

/-- The number of pages for a number of records, one when there are none. -/
def totalPages (w : PageWindow) (items : Nat) : Nat :=
  let full := items / w.size
  max (if items % w.size = 0 then full else full + 1) 1

/-- The window with its index clamped to the pages there are. -/
def clamp (w : PageWindow) (items : Nat) : PageWindow :=
  w.withIndex (min w.index (w.totalPages items))

/-- The page of the record with the given number, counted from zero. -/
def pageOf (w : PageWindow) (ordinal : Nat) : Nat := ordinal / w.size + 1

/-- The number of the first record of the page, counted from zero. -/
def start (w : PageWindow) : Nat := (w.index - 1) * w.size

/-- The number after the last record of a full page. -/
def stop (w : PageWindow) : Nat := w.start + w.size

theorem withIndex_self (w : PageWindow) : w.withIndex w.index = w := by
  cases w with
  | mk index size hi hs => simp [withIndex, Nat.max_eq_left hi]

end PageWindow

/-- What a pager shows about a page. -/
structure PageInfo where
  page : Nat
  pageSize : Nat
  totalItems : Nat
  totalPages : Nat
  /-- The number of the first record on the page, counted from one; zero when there are none. -/
  firstItem : Nat
  /-- The number of the last record on the page, counted from one; zero when there are none. -/
  lastItem : Nat
deriving DecidableEq, Repr

namespace PageInfo

def hasPrevious (i : PageInfo) : Bool := 1 < i.page

def hasNext (i : PageInfo) : Bool := i.page < i.totalPages

/-- The description of the page of a window that is clamped to the records there are. -/
def of (w : PageWindow) (items : Nat) : PageInfo :=
  { page := w.index
    pageSize := w.size
    totalItems := items
    totalPages := w.totalPages items
    firstItem := if items = 0 then 0 else w.start + 1
    lastItem := min w.stop items }

end PageInfo

/-- A header in force, and whether the page shows it already. -/
structure PendingHeader (ρ : Type) where
  row : ρ
  shown : Bool

namespace PendingHeader

variable {ρ : Type}

/-- The headers that the page does not show yet. -/
def missing (headers : List (PendingHeader ρ)) : List ρ :=
  (headers.filter fun p => !p.shown).map (·.row)

/-- The headers with all of them shown. -/
def markShown (headers : List (PendingHeader ρ)) : List (PendingHeader ρ) :=
  headers.map fun p => { p with shown := true }

/-- The headers in force after another one of a level: its ancestors and itself. -/
def enter (headers : List (PendingHeader ρ)) (level : Nat) (row : ρ) : List (PendingHeader ρ) :=
  headers.take level ++ [⟨row, false⟩]

end PendingHeader

section Cut

variable {ρ : Type} (level? : ρ → Option Nat) (w : PageWindow) (items : Nat)

/-- Whether a header of a level has nothing under it, given the rows that follow. -/
def isChildless (level : Nat) : List ρ → Bool
  | next :: _ => (level? next).any (· ≤ level)
  | [] => true

/-- The page of a header that has nothing under it: the page of the next record, if there is one. -/
def anchorPage (ordinal : Nat) : Nat :=
  if items ≤ ordinal then w.totalPages items else w.pageOf ordinal

/-- The rows of a page among the remaining rows, given the headers in force and the number of
records passed. Of a row nothing matters but whether it is a header, and of which level. -/
def pageRowsFrom : List (PendingHeader ρ) → Nat → List ρ → List ρ
  | _, _, [] => []
  | headers, ordinal, row :: rest =>
    match level? row with
    | some level =>
      let headers := PendingHeader.enter headers level row
      if isChildless level? level rest ∧ anchorPage w items ordinal = w.index then
        PendingHeader.missing headers
          ++ pageRowsFrom (PendingHeader.markShown headers) ordinal rest
      else pageRowsFrom headers ordinal rest
    | none =>
      if w.start ≤ ordinal ∧ ordinal < w.stop then
        PendingHeader.missing headers ++ row
          :: pageRowsFrom (PendingHeader.markShown headers) (ordinal + 1) rest
      else pageRowsFrom headers (ordinal + 1) rest

end Cut

/-- The number of records among rows. -/
def countRecords {α : Type} (rows : List (DisplayRow α)) : Nat := rows.countP (·.isRecord)

/-- The page of a window, clamped to the pages there are, and its description. -/
def paginate {α : Type} (rows : List (DisplayRow α)) (window : PageWindow) :
    List (DisplayRow α) × PageInfo :=
  let items := countRecords rows
  let w := window.clamp items
  (pageRowsFrom DisplayRow.level? w items [] 0 rows, .of w items)

end Tabular
