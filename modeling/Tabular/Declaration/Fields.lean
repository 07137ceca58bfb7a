import Tabular.Declaration.Basic
import Tabular.Text.Identifier
import Tabular.Value
/-!
# Fields of declared records

The fields that a declaration gives (`Declaration.fields`), with a constant for each field id, and
the schema of these fields. The domain of a field decides of which kind its values are
(`Domain.valueKind`).
-/

namespace Tabular

/-- The name of the constant of a field id: upper case, with underscores for dots and dashes, and
one between a character that is not upper case and an upper-case letter behind it. The flag says
whether the character before was such a one. -/
def constantName : Bool → List Char → List Char
  | _, [] => []
  | afterLower, c :: rest =>
    if Text.isUppercase c then
      (if afterLower then ['_', c] else [c]) ++ constantName false rest
    else if c == '_' || c == '-' || c == '.' then '_' :: constantName false rest
    else c.toUpper :: constantName true rest

/-- A field that a declaration gives. -/
structure DeclaredField where
  id : String
  /-- The name of the constant that holds the id. -/
  constant : String
  domain : Domain
  label? : Option String
  /-- The member of the struct that holds the value. -/
  member : String
deriving DecidableEq, Repr

/-- The kind of a value. -/
inductive ValueKind where
  | text | number | instant | collection | flag
deriving DecidableEq, Repr

/-- The kind of the values of a declared field. -/
def Domain.valueKind : Domain → ValueKind
  | .string => .text
  | .number | .currency => .number
  | .date | .datetime => .instant
  | .collection => .collection
  | .boolean => .flag

/-- The kind of a value, none for a missing one. -/
def Value.kind? : Value → Option ValueKind
  | .text _ => some .text
  | .number _ => some .number
  | .instant _ => some .instant
  | .collection _ => some .collection
  | .flag _ => some .flag
  | .missing => none

/-- The fields of a list of members, given the ids that are taken already. -/
def declaredFields (taken : List String) :
    List Member → Except DeclarationError (List DeclaredField)
  | [] => .ok []
  | m :: rest => do
    let a ← m.annotation
    match a.skip, a.domain? with
    | true, _ | _, none => declaredFields taken rest
    | false, some domain =>
      let id := a.rename?.getD m.name
      if taken.contains id then throw (.duplicateId id)
      let constant := constantName false id.toList
      if !Text.isIdentifier constant then throw (.invalidConstant (String.ofList constant))
      let fields ← declaredFields (id :: taken) rest
      return ⟨id, String.ofList constant, domain, a.label?, m.name⟩ :: fields

/-- The fields that a declaration gives. -/
def Declaration.fields : Declaration → Except DeclarationError (List DeclaredField)
  | struct members => declaredFields [] members
  | tuple => .error .unnamedMembers
  | other => .error .notStruct

/-- A declared field in a schema. -/
def DeclaredField.toField (f : DeclaredField) : Field := ⟨f.id, f.domain, f.label?⟩

/-- The schema of declared fields. -/
def Schema.ofDeclared (fields : List DeclaredField) : Schema := ⟨fields.map DeclaredField.toField⟩

example : constantName false "hiredOn".toList = "HIRED_ON".toList := by decide +kernel
example : constantName false "a.b-c_d".toList = "A_B_C_D".toList := by decide +kernel
example : constantName false "ABc".toList = "ABC".toList := by decide +kernel

end Tabular
