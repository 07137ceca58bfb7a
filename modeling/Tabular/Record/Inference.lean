import Tabular.Record.Lookup
/-!
# Inferred schemas

The schema of JSON records that come without one. Its fields are the keys of the records in the
order of their first appearance, and the domain of a field comes from the first value of the key
that is neither null nor an object. A text that reads as an instant makes a date if it is no
longer than a date alone, and otherwise a date with a time of day.
-/

namespace Tabular

/-- The length of a date alone, in bytes. -/
def dateLength : Nat := "YYYY-MM-DD".utf8ByteSize

/-- The domain that a value suggests. -/
def Domain.suggestedBy? : Json → Option Domain
  | .null | .object _ => none
  | .bool _ => some .boolean
  | .number _ => some .number
  | .array _ => some .collection
  | .string s =>
    match Instant.ofText? s with
    | none => some .string
    | some _ => if (Text.trim s).utf8ByteSize ≤ dateLength then some .date else some .datetime

namespace Schema

/-- Takes note of a member: a new key comes last, and a key without a domain takes the one
suggested. -/
def note (key : String) (value : Json) :
    List (String × Option Domain) → List (String × Option Domain)
  | [] => [(key, Domain.suggestedBy? value)]
  | (k, domain) :: rest =>
    if k == key then (k, domain.or (Domain.suggestedBy? value)) :: rest
    else (k, domain) :: note key value rest

/-- Takes note of the members of a record that is an object. -/
def noteRecord (noted : List (String × Option Domain)) : Json → List (String × Option Domain)
  | .object members => members.foldl (fun noted (key, value) => note key value noted) noted
  | _ => noted

/-- The schema of JSON records. A field without a usable value is a string. -/
def infer (records : List Json) : Schema :=
  ⟨(records.foldl noteRecord []).map fun (id, domain) => ⟨id, domain.getD .string, none⟩⟩

end Schema

end Tabular
