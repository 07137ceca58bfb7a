import Tabular.Json.Text
import Tabular.Source
/-!
# Fields of JSON records

A field id names a member of a record, or, with dots between the parts, a member of an object
inside it. A member of the very name of the id goes before a member inside an object.
-/

namespace Tabular

/-- What the segments of a path lead to from a value on. -/
def Json.descend (value : Json) : List String → Option Json
  | [] => some value
  | segment :: segments =>
    match value.get? segment with
    | some next => next.descend segments
    | none => none

/-- The part that a field id names in a record with the given members. -/
def partIn? (member? : String → Option Json) (field : String) : Option Json :=
  match member? field with
  | some value => some value
  | none =>
    match Text.split "." field with
    | [] => none
    | first :: segments =>
      match member? first with
      | some value => value.descend segments
      | none => none

/-- An item of a list as a text of its own. -/
def Json.itemText : Json → Option String
  | .null => none
  | .string s => some s
  | item => some item.compact

/-- The value of a cell that holds a JSON value. Lists become collections without their nulls, and
objects are not cells. -/
def Value.ofJson : Json → Value
  | .null | .object _ => .missing
  | .bool b => .flag b
  | .number n => .number n
  | .string s => .text s
  | .array items => .collection (items.filterMap Json.itemText)

/-- The value of a field of a JSON record. A record that is no object has no fields. -/
def Json.fieldValue (record : Json) (field : String) : Value :=
  match record with
  | object members =>
    match partIn? (fun key => members.lookup key) field with
    | some value => .ofJson value
    | none => .missing
  | _ => .missing

end Tabular
