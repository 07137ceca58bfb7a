import Tabular.Filter.Expression
import Tabular.Filter.Set
import Tabular.Group.Order
import Tabular.Page
/-!
# View states

The configuration of a view: sort, filters, grouping, folded groups, page, and columns. A change
is a function from a state to a state; the ones that depend on the schema check the result and
fail with a `ViewError`, and the others cannot fail.
-/

namespace Tabular

/-- The configuration of a view. -/
structure ViewState where
  sort : SortSpec := {}
  filters : FilterSet := {}
  groupFields : List String := []
  collapsed : CollapsedSet := {}
  page : PageWindow := .first
  groupOrder : GroupOrder := .unchecked
  /-- The columns to show, in order. No columns means every field of the schema. -/
  visibleColumns : List String := []
deriving DecidableEq

namespace ViewState

instance : Inhabited ViewState := ⟨{}⟩

/-- Checks that every column is in the schema. -/
def validateColumns (columns : List String) (schema : Schema) : Except ViewError Unit :=
  columns.forM fun column => do
    let _ ← schema.require column .column

/-- Checks every part of a state against a schema. -/
def validate (s : ViewState) (schema : Schema) : Except ViewError Unit := do
  s.sort.validate schema
  s.filters.validate schema
  validateGroupFields s.groupFields schema
  validateColumns s.visibleColumns schema
  let _ ← s.groupOrder.sortKeys s.sort s.groupFields

/-- A state that fits a schema. -/
def checked (s : ViewState) (schema : Schema) : Except ViewError ViewState := do
  s.validate schema
  return s

/-- The state after a click on a column heading. -/
def withClick (s : ViewState) (field : String) (additive : Bool) (schema : Schema) :
    Except ViewError ViewState := do
  let _ ← schema.require field .sort
  { s with sort := s.sort.click field additive }.checked schema

/-- The state with another sort specification. -/
def withSort (s : ViewState) (sort : SortSpec) (schema : Schema) : Except ViewError ViewState :=
  { s with sort }.checked schema

/-- The state at a page, which is clamped when the view is computed. -/
def withPage (s : ViewState) (index : Nat) : ViewState :=
  { s with page := s.page.withIndex index }

/-- The state with the filter of a field set. It returns to the first page. -/
def withFilter (s : ViewState) (field : String) (f : Filter) (schema : Schema) :
    Except ViewError ViewState := do
  FilterSet.checkFilter schema field f.operator
  return { s with filters := s.filters.insert field f }.withPage 1

/-- The state without the filter of a field. It returns to the first page. -/
def withoutFilter (s : ViewState) (field : String) (schema : Schema) :
    Except ViewError ViewState := do
  let _ ← schema.require field .filter
  return { s with filters := s.filters.erase field }.withPage 1

/-- The state without filters. It returns to the first page. -/
def withoutFilters (s : ViewState) : ViewState := { s with filters := {} }.withPage 1

/-- The state with other group fields. Groups that were folded under another grouping are opened. -/
def withGroupFields (s : ViewState) (fields : List String) (schema : Schema) :
    Except ViewError ViewState :=
  let collapsed := if s.groupFields = fields then s.collapsed else {}
  { s with groupFields := fields, collapsed }.checked schema

/-- The state with another relation of grouping to sorting. -/
def withGroupOrder (s : ViewState) (mode : GroupOrder) (schema : Schema) :
    Except ViewError ViewState :=
  { s with groupOrder := mode }.checked schema

/-- The state with a group folded that was open, or the other way round. -/
def withGroupToggled (s : ViewState) (path : GroupPath) : ViewState :=
  { s with collapsed := s.collapsed.toggle path }

/-- The state with a group folded or open. -/
def withGroupFolded (s : ViewState) (path : GroupPath) (folded : Bool) : ViewState :=
  { s with collapsed := if folded then s.collapsed.collapse path else s.collapsed.expand path }

/-- The state with the given groups folded and no others. -/
def withCollapsed (s : ViewState) (collapsed : CollapsedSet) : ViewState := { s with collapsed }

/-- The state with another number of records on a page. -/
def withPageSize (s : ViewState) (size : Nat) : Except ViewError ViewState := do
  return { s with page := ← s.page.withSize size }

/-- The state with other columns. -/
def withColumns (s : ViewState) (columns : List String) (schema : Schema) :
    Except ViewError ViewState :=
  { s with visibleColumns := columns }.checked schema

/-- The filter that typed text means on a field. Other text than a numeric expression goes under the
operator of the field's filter, if that has one operand, or else under the first operator of the
domain. -/
def filterOfText (s : ViewState) (field raw : String) (domain : Domain) : Filter :=
  let current := ((s.filters.find? field).map (·.operator)).filter fun op => !op.isRange
  Filter.ofInput raw domain (current.getD (.defaultFor domain))

end ViewState

end Tabular
