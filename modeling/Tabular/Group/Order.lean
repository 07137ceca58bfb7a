import Tabular.Order.Spec
/-!
# Sorting for groups

A grouping comes out whole when the records are sorted by the group fields first. A view says how
this is seen to: `unchecked` leaves it to the sort specification, `strict` refuses a specification
that does not begin with the group fields in their order, and `prepend` sorts by the group fields
first, in the directions that the specification gives them.
-/

namespace Tabular

/-- How a grouping relates to the sort specification. -/
inductive GroupOrder where
  | unchecked | strict | prepend
deriving DecidableEq, Repr, Inhabited

namespace GroupOrder

/-- The written name. -/
def name : GroupOrder → String
  | unchecked => "unchecked"
  | strict => "strict"
  | prepend => "prepend"

/-- Every way, in the order of their strength. -/
def all : List GroupOrder := [unchecked, strict, prepend]

/-- The way of a name in a document. -/
def ofName? (s : String) : Option GroupOrder := all.find? fun g => g.name == s

/-- The way that a person's spelling means: a name in any ASCII case. -/
def ofWord (s : String) : Except String GroupOrder :=
  let word := Text.asciiLower s
  match ofName? word with
  | some g => .ok g
  | none => .error s!"unknown group order mode '{word}'"

/-- Checks that the sort fields begin with the group fields, from a position on. -/
def checkLeading (position : Nat) : List String → List String → Except ViewError Unit
  | [], _ => .ok ()
  | g :: groups, f :: fields =>
    if f = g then checkLeading (position + 1) groups fields
    else .error (.groupSortMismatch g position (some f))
  | g :: _, [] => .error (.groupSortMismatch g position none)

/-- The sort keys to apply for a grouping. -/
def sortKeys (mode : GroupOrder) (sort : SortSpec) (groupFields : List String) :
    Except ViewError (List SortKey) :=
  match mode with
  | unchecked => .ok sort.keys
  | strict => (checkLeading 1 groupFields sort.fields).map fun _ => sort.keys
  | prepend =>
    let leading := groupFields.map fun f => ⟨f, (sort.direction? f).getD .ascending⟩
    .ok (leading ++ sort.keys.filter fun k => !groupFields.contains k.field)

end GroupOrder

/-- Checks that every group field is in the schema. -/
def validateGroupFields (fields : List String) (schema : Schema) : Except ViewError Unit :=
  fields.forM fun field => do
    let _ ← schema.require field .group

end Tabular
