import Tabular.View.State
/-!
# Saved views

A saved view is a state with an id and a name, in the form in which it is written to a document.
`ViewConfig.ofState` captures a state and `ViewConfig.toState` rebuilds it against a schema; parts
that a document leaves out take their defaults.
-/

namespace Tabular

/-- A view as it is saved. -/
structure ViewConfig where
  id : String
  name : String
  visibleColumns : List String := []
  groupBy : List String := []
  sort : SortSpec := {}
  filters : FilterSet := {}
  pageSize? : Option Nat := none
  page? : Option Nat := none
  collapsedGroups : List GroupPath := []
  groupOrder? : Option GroupOrder := none
deriving DecidableEq

namespace ViewConfig

/-- The saved form of a state. -/
def ofState (id name : String) (s : ViewState) : ViewConfig :=
  { id, name
    visibleColumns := s.visibleColumns
    groupBy := s.groupFields
    sort := s.sort
    filters := s.filters
    pageSize? := some s.page.size
    page? := some s.page.index
    collapsedGroups := s.collapsed.paths
    groupOrder? := some s.groupOrder }

/-- Sets the filters of a list one after the other. -/
def applyFilters (schema : Schema) : List (String × Filter) → ViewState →
    Except ViewError ViewState
  | [], s => .ok s
  | (field, f) :: rest, s => do applyFilters schema rest (← s.withFilter field f schema)

/-- The state of a saved view. The relation of grouping to sorting comes first and the page last,
since setting a filter returns to the first page. -/
def toState (c : ViewConfig) (schema : Schema) : Except ViewError ViewState := do
  let s : ViewState := {}
  let s ← s.withGroupOrder (c.groupOrder?.getD .unchecked) schema
  let s ← s.withSort c.sort schema
  let s ← s.withGroupFields c.groupBy schema
  let s ← s.withColumns c.visibleColumns schema
  let s := s.withCollapsed (.ofList c.collapsedGroups)
  let s ← applyFilters schema c.filters.toList s
  let s ← match c.pageSize? with
    | some size => s.withPageSize size
    | none => pure s
  return s.withPage (c.page?.getD 1)

end ViewConfig

end Tabular
