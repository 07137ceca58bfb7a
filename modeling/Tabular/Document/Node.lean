import Tabular.Document.Scalar
/-!
# Documents as they are read

A reader of documents goes through a text once and notes what it finds as a `Node`. Where the text
stops making sense, the node says so and why, so that whoever looks at the nodes in the order of
the text meets the first problem first, be it a fault of the text or a value of the wrong shape.

Some values are faulty only to those who look at them: a text with half a character, or a number
beyond all doubles, is passed over without complaint by a reader that does not need it. Hence the
two causes in `badText` and `badWord`: `strict` for those who read the value, and `skipped`, if
any, for those who pass over it.

In JSON all values show their kind. In YAML they may carry tags, and what a scalar stands for
depends on what is wanted. Hence the values that only YAML has: `scalar`, `sequence` and `mapping`.
-/

namespace Tabular

/-- Why a document cannot be read. -/
inductive Fault where
  /-- The text breaks a rule of its format. -/
  | malformed
  /-- The text ends too early. -/
  | truncated
  /-- The text is fine so far, but not of the shape that is wanted. -/
  | mismatch
deriving DecidableEq, Repr

/-- The key of a member as it is read. -/
inductive NodeKey where
  | text (s : String)
  | bad (strict : Fault) (skipped : Option Fault)
deriving DecidableEq, Repr

/-- A value as it is read. -/
inductive Node where
  | null
  | bool (b : Bool)
  | number (n : Number)
  | text (s : String)
  | list (items : List Node) (ending : Option Fault)
  | table (members : List (NodeKey × Node)) (ending : Option Fault)
  /-- A scalar whose meaning depends on what is wanted. -/
  | scalar (s : Scalar)
  /-- A list that may have a tag. -/
  | sequence (tag? : Option Tag) (items : List Node)
  /-- A table that may have a tag. -/
  | mapping (tag? : Option Tag) (members : List (NodeKey × Node))
  /-- A quoted text that is faulty. -/
  | badText (strict : Fault) (skipped : Option Fault)
  /-- Anything else that is faulty. -/
  | badWord (strict : Fault) (skipped : Option Fault)
  /-- The text ends where a value should begin. -/
  | absent

namespace Node

instance : Inhabited Node := ⟨null⟩

/-- The fault that stops a reader who passes over the value. -/
def skipFault? : Node → Option Fault
  | badText _ skipped | badWord _ skipped => skipped
  | list _ ending | table _ ending => ending
  | absent => some .truncated
  | _ => none

/-- The fault that stops a reader who looks at a value of another kind. -/
def strictFault : Node → Fault
  | badText strict _ | badWord strict _ => strict
  | absent => .truncated
  | _ => .mismatch

/-- Fails with a fault if there is one. -/
def raise : Option Fault → Except Fault Unit
  | some f => .error f
  | none => .ok ()

/-- A value as the key of a member. -/
def toKey : Node → NodeKey
  | text s => .text s
  | scalar s => .text s.text
  | n => .bad n.strictFault n.skipFault?

/-- The text of a key. -/
def keyText : NodeKey → Except Fault String
  | .text s => .ok s
  | .bad strict _ => .error strict

mutual

/-- The value without its faults, or the first of them. A value nested in more than `depth` lists
and tables is malformed. A value whose tag names a choice has no JSON form. -/
def toJson (depth : Nat) : Node → Except Fault Json
  | null => .ok .null
  | bool b => .ok (.bool b)
  | number n => .ok (.number n)
  | text s => .ok (.string s)
  | scalar s =>
    match s.toJson? with
    | some j => .ok j
    | none => .error .mismatch
  | list items ending =>
    match depth with
    | 0 => .error .malformed
    | depth + 1 => do
      let values ← itemsToJson depth items
      raise ending
      return .array values
  | table members ending =>
    match depth with
    | 0 => .error .malformed
    | depth + 1 => do
      let values ← membersToJson depth members
      raise ending
      return .object (Json.uniqueMembers values)
  | sequence tag? items =>
    match depth with
    | 0 => .error .malformed
    | depth + 1 =>
      if tag?.any Tag.isChoice then .error .mismatch
      else (itemsToJson depth items).map .array
  | mapping tag? members =>
    match depth with
    | 0 => .error .malformed
    | depth + 1 =>
      if tag?.any Tag.isChoice then .error .mismatch
      else (membersToJson depth members).map fun values => .object (Json.uniqueMembers values)
  | badText strict _ => .error strict
  | badWord strict _ => .error strict
  | absent => .error .truncated

/-- The items of a list without their faults. -/
def itemsToJson (depth : Nat) : List Node → Except Fault (List Json)
  | [] => .ok []
  | n :: rest => do
    let j ← n.toJson depth
    return j :: (← itemsToJson depth rest)

/-- The members of a table without their faults. -/
def membersToJson (depth : Nat) : List (NodeKey × Node) → Except Fault (List (String × Json))
  | [] => .ok []
  | (k, n) :: rest => do
    let key ← keyText k
    let j ← n.toJson depth
    return (key, j) :: (← membersToJson depth rest)

end

mutual

/-- A value as a reader would note it. -/
def ofJson : Json → Node
  | .null => null
  | .bool b => bool b
  | .number n => number n
  | .string s => text s
  | .array items => list (ofItems items) none
  | .object members => table (ofMembers members) none

/-- The items of an array as a reader would note them. -/
def ofItems : List Json → List Node
  | [] => []
  | j :: rest => ofJson j :: ofItems rest

/-- The members of an object as a reader would note them. -/
def ofMembers : List (String × Json) → List (NodeKey × Node)
  | [] => []
  | (k, j) :: rest => (.text k, ofJson j) :: ofMembers rest

end

end Node

end Tabular
