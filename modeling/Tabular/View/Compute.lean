import Tabular.Order.Sort
import Tabular.View.State
/-!
# Computed views

What a state makes of a record set: the records that pass the filters, sorted; these with the
headers of their groups; and the page of them. A state that fits the schema always has a view.
-/

namespace Tabular

/-- What a state makes of a record set. -/
structure View (α : Type) where
  /-- The records that pass the filters, in sort order. -/
  sorted : List (Entry α)
  /-- The records with the headers of their groups, folded groups without what is under them. -/
  displayRows : List (DisplayRow α)
  /-- The rows of the page. -/
  pageRows : List (DisplayRow α)
  pageInfo : PageInfo
deriving DecidableEq

namespace View

variable {α : Type}

/-- The records that pass the filters of a state, in their order. -/
def filtered (source : Source α) (state : ViewState) (records : List α) : List (Entry α) :=
  (entriesOf records).filter fun e => state.filters.passes source e.record

/-- The view of a state that fits the schema. -/
def compute (source : Source α) (state : ViewState) (records : List α) :
    Except ViewError (View α) := do
  state.validate source.schema
  let keys ← state.groupOrder.sortKeys state.sort state.groupFields
  let sorted := sortEntries source keys (filtered source state records)
  let displayRows := groupRows source state.groupFields state.collapsed sorted
  let (pageRows, pageInfo) := paginate displayRows state.page
  return { sorted, displayRows, pageRows, pageInfo }

/-- The positions of the records that pass the filters, in sort order. -/
def sortedIndices (v : View α) : List Nat := v.sorted.map (·.index)

/-- The records that pass the filters, in sort order. -/
def records (v : View α) : List α := v.sorted.map (·.record)

end View

end Tabular
