import Tabular.Group.Path
import Tabular.Source
/-!
# Grouped rows

The rows of a view: records, and headers that introduce the groups of consecutive records with equal
group values. Headers nest, one level for each group field. The header of a folded group stays, with
the count of its records, and what is under it does not.

`groupRows` goes through the records once. It carries the chain of groups that the last record
belongs to, outermost first, each with the rows found under it so far. A record that belongs to
the same groups down to some level leaves them open; below that level the chain is closed, which
turns it into rows, and a new chain is opened.
-/

namespace Tabular

/-- A row that introduces a group. -/
structure GroupHeader where
  path : GroupPath
  /-- The depth of nesting, zero for an outermost group. -/
  level : Nat
  field : String
  value : GroupValue
  /-- The number of records in the group, hidden ones included. -/
  count : Nat
  /-- Whether this group itself is folded. -/
  collapsed : Bool
deriving DecidableEq, Repr

/-- A row of a view. -/
inductive DisplayRow (α : Type) where
  | record (e : Entry α)
  | header (h : GroupHeader)
deriving DecidableEq

namespace DisplayRow

def isRecord {α : Type} : DisplayRow α → Bool
  | record _ => true
  | header _ => false

/-- The level of a header, none for a record. -/
def level? {α : Type} : DisplayRow α → Option Nat
  | record _ => none
  | header h => some h.level

/-- The record of a row. -/
def record? {α : Type} : DisplayRow α → Option (Entry α)
  | record e => some e
  | header _ => none

/-- The header of a row. -/
def header? {α : Type} : DisplayRow α → Option GroupHeader
  | record _ => none
  | header h => some h

end DisplayRow

/-- A group that the last record belongs to, with its header as it stands and the rows found under
it. -/
structure OpenGroup (α : Type) where
  header : GroupHeader
  rows : List (DisplayRow α)

/-- The group of a record at one level. -/
structure GroupKey where
  field : String
  value : GroupValue
deriving DecidableEq, Repr

/-- The groups of a record, outermost first. -/
def groupKeys {α : Type} (source : Source α) (fields : List String) (record : α) : List GroupKey :=
  fields.map fun field => ⟨field, .of (source.value record field) (source.schema.domainOf field)⟩

/-- The rows of a chain of groups, each inside the one before it. -/
def closeChain {α : Type} : List (OpenGroup α) → List (DisplayRow α)
  | [] => []
  | g :: inner =>
    .header g.header :: (if g.header.collapsed then [] else g.rows ++ closeChain inner)

/-- The chain of groups that a record opens under the given ancestors, and the rows it adds at
once. The record itself is a row of the innermost group, and a row of its own when there are no
groups. -/
def openChain {α : Type} (folded : CollapsedSet) (e : Entry α) :
    List GroupValue → List GroupKey → List (DisplayRow α) × List (OpenGroup α)
  | _, [] => ([.record e], [])
  | ancestors, key :: keys =>
    let path : GroupPath := ⟨ancestors ++ [key.value]⟩
    let (rows, inner) := openChain folded e path.values keys
    let header : GroupHeader :=
      { path, level := ancestors.length, field := key.field, value := key.value, count := 1,
        collapsed := folded.contains path }
    ([], ⟨header, rows⟩ :: inner)

/-- Puts a record into a chain of groups. The result is the rows that are complete at this level
and the chain afterwards. -/
def placeRecord {α : Type} (folded : CollapsedSet) (e : Entry α) :
    List GroupValue → List (OpenGroup α) → List GroupKey →
      List (DisplayRow α) × List (OpenGroup α)
  | ancestors, g :: inner, key :: keys =>
    if g.header.value = key.value then
      let (rows, chain) := placeRecord folded e (ancestors ++ [key.value]) inner keys
      let header := { g.header with count := g.header.count + 1 }
      ([], ⟨header, g.rows ++ rows⟩ :: chain)
    else
      let (rows, chain) := openChain folded e ancestors (key :: keys)
      (closeChain (g :: inner) ++ rows, chain)
  | ancestors, chain, keys =>
    let (rows, opened) := openChain folded e ancestors keys
    (closeChain chain ++ rows, opened)

/-- The rows of the remaining records, given the chain of groups that is open. -/
def groupRowsFrom {α : Type} (source : Source α) (fields : List String) (folded : CollapsedSet) :
    List (OpenGroup α) → List (Entry α) → List (DisplayRow α)
  | chain, [] => closeChain chain
  | chain, e :: rest =>
    let (rows, chain) := placeRecord folded e [] chain (groupKeys source fields e.record)
    rows ++ groupRowsFrom source fields folded chain rest

/-- The records with the headers of their groups. -/
def groupRows {α : Type} (source : Source α) (fields : List String) (folded : CollapsedSet)
    (entries : List (Entry α)) : List (DisplayRow α) :=
  groupRowsFrom source fields folded [] entries

end Tabular
