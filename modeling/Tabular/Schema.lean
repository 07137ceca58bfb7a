import Tabular.Filter.Operator
/-!
# Schemas

A schema lists the fields of a record set with their domains. Lookups take the first field of an
id. What is wrong with a view's configuration is always a field or an operator that does not fit
the schema, a repeated sort field, a sort that does not follow the grouping, or an empty page;
`ViewError` has a case for each, and its message names the field.
-/

namespace Tabular

/-- The part of a view that names a field. -/
inductive FieldUse where
  | sort | filter | group | column
deriving DecidableEq, Repr

/-- The word for a use of a field. -/
def FieldUse.name : FieldUse → String
  | sort => "sort"
  | filter => "filter"
  | group => "group"
  | column => "column"

/-- Why a view does not fit a schema. -/
inductive ViewError where
  | unknownField (field : String) (use : FieldUse)
  | unsupportedOperator (field : String) (operator : Operator) (domain : Domain)
  | duplicateSortField (field : String)
  /-- The sort has `found` at a position, counted from one, where the grouping expects a field. -/
  | groupSortMismatch (expected : String) (position : Nat) (found : Option String)
  | invalidPageSize
deriving DecidableEq, Repr

namespace ViewError

/-- The message of an error. -/
def message : ViewError → String
  | unknownField field use => s!"unknown {use.name} field '{field}'"
  | unsupportedOperator field operator domain =>
    s!"operator '{operator.name}' is not valid for {domain.name} field '{field}'"
  | duplicateSortField field =>
    s!"field '{field}' appears more than once in the sort specification"
  | groupSortMismatch expected position found =>
    let actual := match found with
      | some field => s!"'{field}'"
      | none => "no key"
    s!"group field '{expected}' must be sort key #{position}, found {actual}"
  | invalidPageSize => "page size must be at least 1"

/-- The field an error is about. -/
def field? : ViewError → Option String
  | unknownField field _ | unsupportedOperator field _ _ | duplicateSortField field => some field
  | groupSortMismatch expected _ _ => some expected
  | invalidPageSize => none

end ViewError

/-- A field: its id, its domain and the heading it is shown under. -/
structure Field where
  id : String
  domain : Domain
  label? : Option String := none
deriving DecidableEq, Repr

/-- The heading of a field, its id unless it has a label. -/
def Field.heading (f : Field) : String := f.label?.getD f.id

/-- The fields of a record set, in order. -/
structure Schema where
  fields : List Field := []
deriving DecidableEq, Repr

namespace Schema

/-- The ids of the fields, in order. -/
def ids (s : Schema) : List String := s.fields.map (·.id)

/-- The first field of an id. -/
def find? (s : Schema) (id : String) : Option Field := s.fields.find? fun f => f.id == id

/-- Whether the schema has a field of an id. -/
def contains (s : Schema) (id : String) : Bool := (s.find? id).isSome

/-- The domain of a field. -/
def domain? (s : Schema) (id : String) : Option Domain := (s.find? id).map (·.domain)

/-- The domain of a field, string for a field that the schema does not have. -/
def domainOf (s : Schema) (id : String) : Domain := (s.domain? id).getD .string

/-- The field of an id, or the error that names it. -/
def require (s : Schema) (id : String) (use : FieldUse) : Except ViewError Field :=
  match s.find? id with
  | some f => .ok f
  | none => .error (.unknownField id use)

/-- Replaces the first field of the same id. -/
def replaceFirst (f : Field) : List Field → List Field
  | [] => []
  | g :: rest => if g.id == f.id then f :: rest else g :: replaceFirst f rest

/-- Adds a field without a label, in the place of a field of the same id if there is one. -/
def withField (s : Schema) (id : String) (domain : Domain) : Schema :=
  if s.contains id then ⟨replaceFirst ⟨id, domain, none⟩ s.fields⟩
  else ⟨s.fields ++ [⟨id, domain, none⟩]⟩

theorem require_eq_ok_iff {s : Schema} {id : String} {use : FieldUse} {f : Field} :
    s.require id use = .ok f ↔ s.find? id = some f := by
  unfold require
  split <;> simp_all

theorem require_eq_error_iff {s : Schema} {id : String} {use : FieldUse} {e : ViewError} :
    s.require id use = .error e ↔ s.contains id = false ∧ e = .unknownField id use := by
  unfold require contains
  cases s.find? id with
  | none => simpa using eq_comm
  | some f => simp

end Schema

end Tabular
