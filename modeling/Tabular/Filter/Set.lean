import Tabular.Filter.Evaluate
import Tabular.SortedMap
import Tabular.Source
/-!
# Filter sets

The filters of a view, at most one for a field, in the order of the field ids. A record passes when
it passes every active filter.
-/

namespace Tabular

/-- The filters of a view by field. -/
structure FilterSet where
  map : SortedMap String Filter := .empty
deriving DecidableEq

namespace FilterSet

/-- The filters with their fields, in the order of the field ids. -/
def toList (s : FilterSet) : List (String × Filter) := s.map.entries

/-- The filter of a field. -/
def find? (s : FilterSet) (field : String) : Option Filter := s.map.find? field

/-- Sets the filter of a field. -/
def insert (s : FilterSet) (field : String) (f : Filter) : FilterSet := ⟨s.map.insert field f⟩

/-- Removes the filter of a field. -/
def erase (s : FilterSet) (field : String) : FilterSet := ⟨s.map.erase field⟩

/-- The filters of a list, of which the last for a field counts. -/
def ofList (l : List (String × Filter)) : FilterSet := ⟨.ofList l⟩

/-- Filters are the filters of their own listing. -/
theorem ofList_toList (s : FilterSet) : ofList s.toList = s := by
  cases s with
  | mk map => exact congrArg mk map.ofList_entries

/-- The filters that constrain something. -/
def active (s : FilterSet) : List (String × Filter) := s.toList.filter fun e => e.2.isActive

/-- Checks that a field exists and that an operator belongs to its domain. -/
def checkFilter (schema : Schema) (field : String) (op : Operator) : Except ViewError Unit := do
  let f ← schema.require field .filter
  if op.supports f.domain then return ()
  else throw (.unsupportedOperator field op f.domain)

/-- Checks every filter against a schema, in order. -/
def validate (s : FilterSet) (schema : Schema) : Except ViewError Unit :=
  s.toList.forM fun (field, f) => checkFilter schema field f.operator

/-- Whether a record passes every active filter. A field that the schema does not have is read as
text. -/
def passes {α : Type} (s : FilterSet) (source : Source α) (record : α) : Bool :=
  s.active.all fun (field, f) =>
    f.admits (source.schema.domainOf field) (source.value record field)

end FilterSet

end Tabular
