import Tabular.Schema
/-!
# Declarations of records

A record type is declared as a struct with named members. A member becomes a field of the record
when its `field` annotation gives it a domain; the annotation may also give the field an id and a
label, or leave the member out. `FieldAnnotation.ofSettings` reads an annotation, and
`DeclarationError` has a case for everything a declaration can be refused for.
-/

namespace Tabular

/-- Why a declaration gives no record type. -/
inductive DeclarationError where
  /-- The text is not a declaration. -/
  | malformed
  | notStruct
  | unnamedMembers
  | unknownDomain (name : String)
  | notDomainOrSkip
  /-- The value of a setting is not a text. -/
  | notText (setting : String)
  | unknownSetting
  | unknownForm
  | skipCombined
  | duplicateId (id : String)
  /-- The constant of a field id would have a name that is none. -/
  | invalidConstant (name : String)
deriving DecidableEq, Repr

/-- The message of an error. -/
def DeclarationError.message : DeclarationError → String
  | malformed => "malformed declaration"
  | notStruct => "Record can only be derived for structs"
  | unnamedMembers => "Record can only be derived for structs with named fields"
  | unknownDomain name => s!"unknown field domain: '{name}'. Expected one of: " ++
      "String, Number, Currency, Date, DateTime, Collection, Bool"
  | notDomainOrSkip => "expected a field domain or skip"
  | notText setting => s!"{setting} must be a string literal"
  | unknownSetting => "unknown attribute. Expected: rename, label or domain"
  | unknownForm => "unknown field attribute. Expected a domain, skip, rename = \"...\", " ++
      "label = \"...\" or domain = \"...\""
  | skipCombined => "skip cannot be combined with other field attributes"
  | duplicateId id => s!"duplicate field id '{id}'"
  | invalidConstant name => s!"'{name}' is not a constant name"

/-- A part of an annotation. The name is none where it is a path of several names. -/
inductive Setting where
  | word (name? : Option String)
  /-- A name with a value, which is none where it is not a text. -/
  | assign (name? : Option String) (value? : Option String)
  /-- A name with a list of arguments. -/
  | arguments
deriving DecidableEq, Repr

/-- The domain of a name in an annotation. -/
def Domain.ofSetting (name : String) : Except DeclarationError Domain :=
  match name with
  | "String" | "string" => .ok .string
  | "Number" | "number" => .ok .number
  | "Currency" | "currency" => .ok .currency
  | "Date" | "date" => .ok .date
  | "DateTime" | "Datetime" | "datetime" => .ok .datetime
  | "Collection" | "collection" => .ok .collection
  | "Bool" | "Boolean" | "boolean" | "bool" => .ok .boolean
  | _ => .error (.unknownDomain name)

/-- What an annotation says of a member. -/
structure FieldAnnotation where
  domain? : Option Domain := none
  /-- The member is left out of the record. -/
  skip : Bool := false
  rename? : Option String := none
  label? : Option String := none
deriving DecidableEq, Repr

namespace FieldAnnotation

/-- The text that a setting must have as its value. -/
def text (setting : String) : Option String → Except DeclarationError String
  | some s => .ok s
  | none => .error (.notText setting)

/-- Adds a setting, which goes before an earlier one of its kind. -/
def add (a : FieldAnnotation) : Setting → Except DeclarationError FieldAnnotation
  | .word (some "skip") => .ok { a with skip := true }
  | .word (some name) => do return { a with domain? := some (← Domain.ofSetting name) }
  | .word none => .error .notDomainOrSkip
  | .assign (some "rename") value => do return { a with rename? := some (← text "rename" value) }
  | .assign (some "label") value => do return { a with label? := some (← text "label" value) }
  | .assign (some "domain") value => do
    return { a with domain? := some (← Domain.ofSetting (← text "domain" value)) }
  | .assign _ _ => .error .unknownSetting
  | .arguments => .error .unknownForm

/-- Whether the annotation says anything beside leaving the member out. -/
def isCombined (a : FieldAnnotation) : Bool :=
  a.domain?.isSome || a.rename?.isSome || a.label?.isSome

/-- The annotation of a list of settings. A member that is left out takes no other setting. -/
def ofSettings (settings : List Setting) : Except DeclarationError FieldAnnotation := do
  let a ← settings.foldlM add {}
  if a.skip && a.isCombined then throw .skipCombined
  return a

end FieldAnnotation

/-- A member of a declared struct with the settings of its first `field` annotation. The settings
are none where the annotation is malformed, which matters only when it is looked at. -/
structure Member where
  name : String
  annotation? : Option (Option (List Setting)) := none
deriving DecidableEq, Repr

/-- What a member is annotated with, nothing without an annotation. -/
def Member.annotation (m : Member) : Except DeclarationError FieldAnnotation :=
  match m.annotation? with
  | none => .ok {}
  | some none => .error .malformed
  | some (some settings) => FieldAnnotation.ofSettings settings

/-- A declared type. -/
inductive Declaration where
  | struct (members : List Member)
  /-- A struct whose members, if any, have no names. -/
  | tuple
  /-- A type that is not a struct. -/
  | other
deriving DecidableEq, Repr

end Tabular
