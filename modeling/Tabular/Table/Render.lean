import Tabular.Group.Rows
import Tabular.Order.Spec
import Tabular.Page
import Tabular.Table.Cell
/-!
# Tables

One page of a view as text: a line of headings, a line for each row, and a footer. Rows of records
are aligned in columns, numbers to the right; group headers are lines of their own, and records
are indented under the deepest of them. A column is as wide as its widest cell up to `maxWidth`;
where the table has to fit, the widest columns give way first (`shrinkToFit`), but none below
`minWidth`.

Texts are cut and filled up under a measure of characters and texts (`Text.Measure`), which the
program gives.
-/

namespace Tabular.Table

/-- The greatest width of a column. -/
def maxWidth : Nat := 40

/-- The width below which no column is narrowed. -/
def minWidth : Nat := 3

/-- What stands between two columns. -/
def gap : String := "  "

/-- The line of cells. -/
def joinCells (cells : List String) : String := Text.join gap cells

/-- Narrows the widest column that is wider than the least width, the last of several. The second
component is the width that was narrowed. -/
def narrowWidest : List Nat → Option (List Nat × Nat)
  | [] => none
  | w :: rest =>
    match narrowWidest rest with
    | some (narrowed, widest) =>
      if widest < w then some ((w - 1) :: rest, w) else some (w :: narrowed, widest)
    | none => if minWidth < w then some ((w - 1) :: rest, w) else none

/-- Narrows columns by so many steps, or until none can be narrowed. -/
def shrinkBy : Nat → List Nat → List Nat
  | 0, widths => widths
  | excess + 1, widths =>
    match narrowWidest widths with
    | some (narrowed, _) => shrinkBy excess narrowed
    | none => widths

/-- The width of a row of columns with the gaps between them. -/
def rowWidth (widths : List Nat) : Nat := widths.foldl (· + ·) 0 + gap.length * (widths.length - 1)

/-- Narrows the widest columns until a row fits. -/
def shrinkToFit (widths : List Nat) (available : Nat) : List Nat :=
  shrinkBy (rowWidth widths - available) widths

/-- The emphasis of a part of a table. -/
inductive Emphasis where
  | heading | group | faint
deriving DecidableEq, Repr

/-- The terminal codes that begin an emphasis. -/
def Emphasis.code : Emphasis → String
  | heading => "\x1b[1m"
  | group => "\x1b[36m\x1b[1m"
  | faint => "\x1b[2m"

/-- A text under an emphasis, in terminal codes if there is color. -/
def emphasize (color : Bool) (e : Emphasis) (s : String) : String :=
  if color then e.code ++ s ++ "\x1b[0m" else s

/-- The heading of a column: its label with an arrow if it is sorted, and the rank of the key if
it is one of several. -/
def heading (sort : SortSpec) (column : Field) : String :=
  match sort.direction? column.id, sort.order? column.id with
  | some direction, some order =>
    let arrow := match direction with
      | .ascending => "▲"
      | .descending => "▼"
    column.heading ++ " " ++ arrow ++ (if 1 < sort.keys.length then toString order else "")
  | _, _ => column.heading

/-- What the field of a group header is called: its label if it has a column. -/
def groupLabel (columns : List Field) (h : GroupHeader) : String :=
  ((columns.find? fun c => c.id == h.field).map Field.heading).getD h.field

/-- The line of a group header. -/
def groupLine (columns : List Field) (h : GroupHeader) : String :=
  let marker := if h.collapsed then "▸" else "▾"
  Text.spaces (2 * h.level)
    ++ s!"{marker} {groupLabel columns h}: {h.value.label} ({h.count})"

/-- The footer. -/
def footer (info : PageInfo) : String :=
  if info.totalItems = 0 then "No matching records"
  else
    let items := s!"Showing {info.firstItem}–{info.lastItem} of {info.totalItems}"
    s!"{items} · page {info.page}/{info.totalPages}"

/-- How far records are indented. -/
def recordIndent {α : Type} (rows : List (DisplayRow α)) : Nat :=
  ((rows.filterMap DisplayRow.header?).map fun h => 2 * (h.level + 1)).foldl max 0

/-- The cells of a record. -/
def recordCells {α : Type} (value : α → String → Value) (columns : List Field) (record : α) :
    List Cell :=
  columns.map fun c => Cell.of (value record c.id) c.domain

/-- A column with its width in the table. -/
structure Column where
  field : Field
  heading : String
  width : Nat

/-- The widths of the columns as their headings and cells want them. -/
def naturalWidths (m : Text.Measure) (headings : List String) (cells : List (List Cell)) :
    List Nat :=
  headings.zipIdx.map fun (h, i) =>
    min maxWidth ((cells.filterMap fun row => row[i]?.map fun cell => m.width cell.shown).foldl
      max (m.width h))

/-- The line of a record. -/
def recordLine (m : Text.Measure) (color : Bool) (indent : Nat) (columns : List Column)
    (cells : List Cell) : String :=
  let texts := (columns.zip cells).map fun (c, cell) =>
    let text := m.fit cell.shown c.width c.field.domain.isNumeric
    if cell = .empty then emphasize color .faint text else text
  Text.spaces indent ++ String.ofList (Text.trimEnd (joinCells texts).toList)

/-- The line of a row. -/
def rowLine {α : Type} (m : Text.Measure) (color : Bool) (value : α → String → Value)
    (indent : Nat) (columns : List Column) : DisplayRow α → String
  | .header h => emphasize color .group (groupLine (columns.map (·.field)) h)
  | .record e => recordLine m color indent columns
      (recordCells value (columns.map (·.field)) e.record)

/-- The columns of a table. With a width they are narrowed to fit it. -/
def layout {α : Type} (m : Text.Measure) (value : α → String → Value) (width : Option Nat)
    (rows : List (DisplayRow α)) (fields : List Field) (sort : SortSpec) : List Column :=
  let headings := fields.map (heading sort)
  let cells := (rows.filterMap DisplayRow.record?).map fun e => recordCells value fields e.record
  let natural := naturalWidths m headings cells
  let widths := match width with
    | some w => shrinkToFit natural (w - recordIndent rows)
    | none => natural
  (fields.zip (headings.zip widths)).map fun (f, h, w) => Column.mk f h w

/-- The line of headings. -/
def headingLine (m : Text.Measure) (color : Bool) (indent : Nat) (columns : List Column) : String :=
  let texts := columns.map fun c => m.fit c.heading c.width c.field.domain.isNumeric
  Text.spaces indent ++ emphasize color .heading (joinCells texts)

/-- The lines of a table. -/
def lines {α : Type} (m : Text.Measure) (value : α → String → Value) (width : Option Nat)
    (color : Bool) (rows : List (DisplayRow α)) (fields : List Field) (sort : SortSpec)
    (info : PageInfo) : List String :=
  let indent := recordIndent rows
  let columns := layout m value width rows fields sort
  headingLine m color indent columns
    :: rows.map (rowLine m color value indent columns)
    ++ [emphasize color .faint (footer info)]

/-- A table as text. -/
def text {α : Type} (m : Text.Measure) (value : α → String → Value) (width : Option Nat)
    (color : Bool) (rows : List (DisplayRow α)) (fields : List Field) (sort : SortSpec)
    (info : PageInfo) : String :=
  String.join ((lines m value width color rows fields sort info).map fun l => l ++ "\n")

end Tabular.Table

namespace Tabular.Schema

/-- The fields of the visible columns, every field if no column is chosen. -/
def columns (s : Schema) (visible : List String) : List Field :=
  if visible.isEmpty then s.fields else visible.filterMap s.find?

end Tabular.Schema
