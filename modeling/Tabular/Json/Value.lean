import Tabular.Number
/-!
# JSON values

A JSON value with its object members in the order of their first appearance. A number is an integer
where its literal is one that fits 64 bits, and a double otherwise.
-/

namespace Tabular

/-- A JSON value. -/
inductive Json where
  | null
  | bool (b : Bool)
  | number (n : Number)
  | string (s : String)
  | array (items : List Json)
  | object (members : List (String × Json))

namespace Json

instance : Inhabited Json := ⟨null⟩

/-- Sets a member: in place of the member of the same key, or behind all members. -/
def setMember (key : String) (value : Json) : List (String × Json) → List (String × Json)
  | [] => [(key, value)]
  | (k, v) :: rest =>
    if k == key then (k, value) :: rest else (k, v) :: setMember key value rest

/-- The members of an object from a list in which a key may be repeated. -/
def uniqueMembers (members : List (String × Json)) : List (String × Json) :=
  members.foldl (fun seen (k, v) => setMember k v seen) []

/-- The member of an object, none for any other value. -/
def get? (j : Json) (key : String) : Option Json :=
  match j with
  | object members => members.lookup key
  | _ => none

/-- A number from an integer. -/
def ofInt (n : Int) : Json := number (.ofInt n)

end Json

end Tabular
