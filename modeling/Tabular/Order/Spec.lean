import Tabular.Schema
/-!
# Sort specifications

The sort keys of a view in the order of their priority. A valid specification names a field at most
once; `SortSpec.ofKeys` refuses another. A click on a column heading edits the specification
(`SortSpec.click`): a plain click makes the field the only key and turns its direction over, and an
additive click takes the field through ascending, descending and absent without touching other keys.
-/

namespace Tabular

/-- The direction of a sort key. -/
inductive Direction where
  /-- Smallest first. -/
  | ascending
  /-- Largest first. -/
  | descending
deriving DecidableEq, Repr, Inhabited

namespace Direction

/-- An order as seen in a direction. -/
def apply : Direction → Ordering → Ordering
  | ascending, o => o
  | descending, o => o.swap

/-- The written name. -/
def name : Direction → String
  | ascending => "ascending"
  | descending => "descending"

/-- The direction of a name in a document, where short forms are also written. -/
def ofName? (s : String) : Option Direction :=
  if s == "ascending" || s == "asc" then some ascending
  else if s == "descending" || s == "desc" then some descending
  else none

/-- The direction that a person's spelling means: a name or short form in any ASCII case. -/
def ofWord (s : String) : Except String Direction :=
  let word := Text.asciiLower s
  match ofName? word with
  | some d => .ok d
  | none => .error s!"unknown sort direction '{word}'"

end Direction

/-- A field to sort by and the direction. -/
structure SortKey where
  field : String
  direction : Direction := .ascending
deriving DecidableEq, Repr

/-- The sort keys of a view, the first with the highest priority. -/
structure SortSpec where
  keys : List SortKey := []
deriving DecidableEq, Repr

namespace SortSpec

/-- The fields of the keys, in order. -/
def fields (s : SortSpec) : List String := s.keys.map (·.field)

/-- The first key of a field. -/
def key? (s : SortSpec) (field : String) : Option SortKey := s.keys.find? fun k => k.field == field

/-- The direction of a field, if it is sorted by. -/
def direction? (s : SortSpec) (field : String) : Option Direction :=
  (s.key? field).map (·.direction)

/-- The priority of a field, counted from one. -/
def order? (s : SortSpec) (field : String) : Option Nat :=
  (s.keys.findIdx? fun k => k.field == field).map (· + 1)

/-- Sets the direction of the first key of a field. -/
def setDirection (field : String) (direction : Direction) : List SortKey → List SortKey
  | [] => []
  | k :: rest =>
    if k.field == field then { k with direction } :: rest
    else k :: setDirection field direction rest

/-- Sets the direction of a field, behind all keys if it is not sorted by. -/
def set (s : SortSpec) (field : String) (direction : Direction) : SortSpec :=
  if (s.direction? field).isSome then ⟨setDirection field direction s.keys⟩
  else ⟨s.keys ++ [⟨field, direction⟩]⟩

/-- Removes the first key of a field. -/
def remove (s : SortSpec) (field : String) : SortSpec :=
  ⟨s.keys.eraseP fun k => k.field == field⟩

/-- The specification with one key. -/
def only (field : String) (direction : Direction) : SortSpec := ⟨[⟨field, direction⟩]⟩

/-- The specification after a click on the heading of a field. -/
def click (s : SortSpec) (field : String) (additive : Bool) : SortSpec :=
  if additive then
    match s.direction? field with
    | none => ⟨s.keys ++ [⟨field, .ascending⟩]⟩
    | some .ascending => s.set field .descending
    | some .descending => s.remove field
  else
    match s.direction? field with
    | some .ascending => only field .descending
    | _ => only field .ascending

/-- The first field in a list that also stands before it, given the fields before the list. -/
def firstRepeated? (before : List String) : List String → Option String
  | [] => none
  | field :: rest =>
    if before.contains field then some field else firstRepeated? (field :: before) rest

/-- Checks that no field is named twice. -/
def checkUnique (s : SortSpec) : Except ViewError Unit :=
  match firstRepeated? [] s.fields with
  | some field => .error (.duplicateSortField field)
  | none => .ok ()

/-- The specification with the given keys, unless a field is named twice. -/
def ofKeys (keys : List SortKey) : Except ViewError SortSpec := do
  checkUnique ⟨keys⟩
  return ⟨keys⟩

/-- Checks that every key names a field of the schema, and no field twice. -/
def validate (s : SortSpec) (schema : Schema) : Except ViewError Unit := do
  s.keys.forM fun k => do
    let _ ← schema.require k.field .sort
  s.checkUnique

end SortSpec

end Tabular
