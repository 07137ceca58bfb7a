import Tabular.Declaration.Fields
/-!
# Records of a declared type

The members of a struct have types, and a record of the struct has a content of its type for every
member. The value of a field is the content of its member, converted as the domain of the field
wants it (`Domain.conversion?`): a text, a number, an instant, a flag, or the items of a collection
one by one. Where a domain has no conversion for the type of a member the declaration does not hold
together. So a `RecordType` has a conversion for each of its fields, chosen once for all records,
and nothing is left to be checked when a value is read (`RecordType.value`).
-/

namespace Tabular

/-- A time of day on a date. -/
structure DateTime where
  date : Date
  hour : Nat
  minute : Nat
  second : Nat
  /-- Nanoseconds, which count on through a leap second. -/
  nano : Nat

/-- The instant of a time of day on a date, in whole milliseconds. -/
def DateTime.instant (t : DateTime) : Instant :=
  .ofDateTime t.date t.hour t.minute t.second (t.nano / 1000000 : Nat)

/-- The type of a member of a struct. -/
inductive MemberType : Type 1 where
  | text
  /-- Integers of so many bits, with a sign. -/
  | signed (bits : Nat)
  | unsigned (bits : Nat)
  /-- Floating-point numbers. Those of single precision are doubles too. -/
  | real
  | flag
  /-- A type with an instant for each of its elements. -/
  | timed (γ : Type) (toInstant : γ → Instant)
  /-- Collections of items with a text each. -/
  | items (ι : Type) (itemText : ι → String)
  | other

namespace MemberType

def instant : MemberType := timed Instant id

/-- Dates, which begin at midnight. -/
def date : MemberType := timed Date .ofDate

def dateTime : MemberType := timed DateTime DateTime.instant

/-- What a member of a type holds. The items of a collection are in the order in which it lists
them. -/
def Content : MemberType → Type
  | text => String
  | signed bits | unsigned bits => BitVec bits
  | real => Binary64
  | flag => Bool
  | timed γ _ => γ
  | items ι _ => List ι
  | other => Unit

/-- The content of a type as a text. -/
def asText? : (t : MemberType) → Option (t.Content → String)
  | text => some id
  | _ => none

/-- The content of a type as a number. Integers are widened to 64 bits, and wider ones are not
numbers. -/
def asNumber? : (t : MemberType) → Option (t.Content → Number)
  | signed bits => if bits ≤ 64 then some fun n => .signed (Int64.ofInt n.toInt) else none
  | unsigned bits => if bits ≤ 64 then some fun n => .unsigned (UInt64.ofNat n.toNat) else none
  | real => some .real
  | _ => none

/-- The content of a type as an instant. Integers of 64 bits count milliseconds. -/
def asInstant? : (t : MemberType) → Option (t.Content → Instant)
  | signed 64 => some fun n => ⟨Int64.ofBitVec n⟩
  | timed _ toInstant => some toInstant
  | _ => none

/-- The content of a type as the texts of its items. -/
def asItems? : (t : MemberType) → Option (t.Content → List String)
  | items _ itemText => some fun c => c.map itemText
  | _ => none

/-- The content of a type as a flag. -/
def asFlag? : (t : MemberType) → Option (t.Content → Bool)
  | flag => some id
  | _ => none

end MemberType

/-- The conversion of a member of a type to the values of a domain, if it has one. -/
def Domain.conversion? (d : Domain) (t : MemberType) : Option (t.Content → Value) :=
  match d.valueKind with
  | .text => t.asText?.map fun read c => .text (read c)
  | .number => t.asNumber?.map fun read c => .number (read c)
  | .instant => t.asInstant?.map fun read c => .instant (read c)
  | .collection => t.asItems?.map fun read c => .collection (read c)
  | .flag => t.asFlag?.map fun read c => .flag (read c)

/-- The fields of a declared struct with the types of its members, by their names. -/
structure RecordType where
  fields : List DeclaredField
  memberType : String → MemberType
  /-- Every field has a domain that the content of its member can be converted to. -/
  fits : ∀ f ∈ fields, (f.domain.conversion? (memberType f.member)).isSome

namespace RecordType

/-- A record: the contents of its members. -/
def Content (r : RecordType) : Type := (name : String) → (r.memberType name).Content

/-- The value of a field of a record, that of its member. -/
def value (r : RecordType) (content : r.Content) (id : String) : Value :=
  match h : r.fields.find? fun f => f.id == id with
  | some f =>
    let convert := (f.domain.conversion? (r.memberType f.member)).get
      (r.fits f (List.mem_of_find?_eq_some h))
    convert (content f.member)
  | none => .missing

end RecordType

end Tabular
