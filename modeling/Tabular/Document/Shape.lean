import Tabular.Document.Node
/-!
# Shapes

Reading a value of a shape from a `Node`. Every function looks at the node in the order of the
text and stops at the first problem, be it a fault of the text or a value of another shape.

A record is a table of named parts or, in JSON, just as well a list of its parts in their order. In
a table, names that the record does not have are passed over and a repeated name is refused. A
record is read into a draft that notes which parts have come by (`Part`), and what is missing
shows in the end. In YAML, an empty scalar is also an empty list or table.
-/

namespace Tabular.Node

/-- A text. -/
def asText : Node → Except Fault String
  | text s => .ok s
  | scalar s => .ok s.text
  | n => .error n.strictFault

/-- The result of reading a scalar. -/
def ofScalar {α : Type} : Option α → Except Fault α
  | some a => .ok a
  | none => .error .mismatch

/-- An unsigned 64-bit integer. -/
def asCount : Node → Except Fault Nat
  | number (.unsigned n) => .ok n.toNat
  | number (.signed n) => if 0 ≤ n.toInt then .ok n.toInt.toNat else .error .mismatch
  | scalar s => ofScalar s.natural?
  | n => .error n.strictFault

/-- A value that may be null. -/
def asOptional {α : Type} (read : Node → Except Fault α) : Node → Except Fault (Option α)
  | null => .ok none
  | scalar s => do
    if ← ofScalar s.isMissing? then return none
    return some (← read (scalar s))
  | n => (read n).map some

/-- One of a set of names. In JSON, a name may also be the only member of a table, with a null
behind it. -/
def asChoice {α : Type} (ofName? : String → Option α) : Node → Except Fault α
  | text s => named s
  | scalar s => do named (← ofScalar s.choice?)
  | badText strict _ => .error strict
  | absent | list _ (some .truncated) | table [] (some .truncated) => .error .truncated
  | table ((key, value) :: others) ending => do
    let choice ← named (← keyText key)
    match value with
    | null => pure ()
    | n => throw n.strictFault
    if others.isEmpty then raise ending else throw .malformed
    return choice
  | _ => .error .malformed
where
  /-- The choice of a name. -/
  named (s : String) : Except Fault α :=
    match ofName? s with
    | some a => .ok a
    | none => .error .mismatch

/-- A list of values of one shape. -/
def asList {α : Type} (read : Node → Except Fault α) : Node → Except Fault (List α)
  | list items ending => do
    let values ← items.mapM read
    raise ending
    return values
  | sequence _ items => items.mapM read
  | scalar s => if s.isEmpty then .ok [] else .error .mismatch
  | n => .error n.strictFault

/-- A table with any keys and values of one shape, in the order of the text. -/
def asMembers {α : Type} (read : Node → Except Fault α) : Node → Except Fault (List (String × α))
  | table members ending => do
    let values ← members.mapM readMember
    raise ending
    return values
  | mapping _ members => members.mapM readMember
  | scalar s => if s.isEmpty then .ok [] else .error .mismatch
  | n => .error n.strictFault
where
  /-- A member with a value of the shape. -/
  readMember : NodeKey × Node → Except Fault (String × α)
    | (key, n) => do
      let key ← keyText key
      return (key, ← read n)

/-- A part of a record that is read into drafts of type `δ`. -/
structure Part (δ : Type) where
  name : String
  /-- Whether the draft has the part. -/
  isRead : δ → Bool
  /-- Reads the part into the draft. -/
  read : Node → δ → Except Fault δ

/-- A part that is a field of the draft. -/
def part {δ α : Type} (name : String) (get : δ → Option α) (set : δ → Option α → δ)
    (read : Node → Except Fault α) : Part δ where
  name := name
  isRead d := (get d).isSome
  read n d := do return set d (some (← read n))

/-- Reads the members of a table into a draft. -/
def readMembers {δ : Type} (parts : List (Part δ)) : List (NodeKey × Node) → δ → Except Fault δ
  | [], d => .ok d
  | (key, n) :: rest, d => do
    let name ← keyText key
    match parts.find? fun p => p.name == name with
    | none =>
      raise n.skipFault?
      readMembers parts rest d
    | some p => if p.isRead d then throw .mismatch else readMembers parts rest (← p.read n d)

/-- Reads the items of a list into a draft, one for each part. Items may be missing at the end. -/
def readItems {δ : Type} (ending : Option Fault) : List (Part δ) → List Node → δ → Except Fault δ
  | p :: parts, n :: items, d => do readItems ending parts items (← p.read n d)
  | [], _ :: _, _ => .error .malformed
  | _, [], d => do
    raise ending
    return d

/-- A record of the given parts, as a draft. -/
def asRecord {δ : Type} (parts : List (Part δ)) (start : δ) : Node → Except Fault δ
  | table members ending => do
    let d ← readMembers parts members start
    raise ending
    return d
  | list items ending => readItems ending parts items start
  | mapping _ members => readMembers parts members start
  | scalar s => if s.isEmpty then .ok start else .error .mismatch
  | n => .error n.strictFault

/-- A part that a record must have. -/
def required {α : Type} : Option α → Except Fault α
  | some a => .ok a
  | none => .error .mismatch

end Tabular.Node
