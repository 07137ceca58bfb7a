import Tabular.Document.Word
import Tabular.Json.Value
/-!
# Scalars

Scalars of a document whose values may be written without quotes and may carry tags. A plain scalar
without a tag is a word (`Tabular.Word`); a tag of the core types forces its type, and other tags
make it a text. A tag of the document's own names a choice.
-/

namespace Tabular

/-- How a scalar is written. -/
inductive ScalarStyle where
  /-- Without quotes. -/
  | plain
  /-- As a block of lines. -/
  | literal
  /-- In quotes, or as a block of lines that are put together. -/
  | quoted
deriving DecidableEq, Repr

/-- What a tag says about a value. -/
inductive Tag where
  | null | bool | integer | real
  /-- A choice of the document's own. -/
  | choice (name : String)
  /-- Nothing that matters. -/
  | other
deriving DecidableEq, Repr

/-- What the name of a tag says. -/
def Tag.ofName (name : String) : Tag :=
  if name == "tag:yaml.org,2002:null" then null
  else if name == "tag:yaml.org,2002:bool" then bool
  else if name == "tag:yaml.org,2002:int" then integer
  else if name == "tag:yaml.org,2002:float" then real
  else
    match name.toList with
    | '!' :: rest => choice (String.ofList rest)
    | _ => other

/-- Whether a tag names a choice. -/
def Tag.isChoice : Tag → Bool
  | choice _ => true
  | _ => false

/-- A scalar as it is read. -/
structure Scalar where
  text : String
  style : ScalarStyle := .plain
  tag? : Option Tag := none
deriving DecidableEq, Repr

namespace Scalar

/-- Whether nothing is written. -/
def isEmpty (s : Scalar) : Bool := s.style == .plain && s.text.isEmpty

/-- Whether a scalar stands for nothing, whatever its tag. -/
def isNull (s : Scalar) : Bool := s.style == .plain && Word.isNull s.text

/-- A double as JSON, which has no number for one that is not finite. -/
def realToJson (x : Binary64) : Json := if x.isFinite then .number (.real x) else .null

/-- The value of a word, none for an integer beyond 64 bits. Integers so large that they are none
are doubles. -/
def wordToJson? (s : String) : Option Json :=
  if Word.isNull s then some .null
  else
    match Word.flag? s with
    | some b => some (.bool b)
    | none =>
      match Word.integer? s, Word.real? s with
      | some n, _ => if Number.isWord n then some (.ofInt n) else none
      | none, some x => some (realToJson x)
      | none, none => some (.string s)

/-- The value of a scalar where no shape is asked for, none if its text is not of the type that its
tag forces, or the tag names a choice. -/
def toJson? (s : Scalar) : Option Json :=
  match s.tag? with
  | none => if s.style == .plain then wordToJson? s.text else some (.string s.text)
  | some .null => if Word.isNull s.text && s.text != "" then some .null else none
  | some .bool => (Word.flag? s.text).map .bool
  | some .integer => ((Word.integer? s.text).filter fun n => Number.isWord n).map .ofInt
  | some .real => (Word.double? s.text).map realToJson
  | some (.choice _) => none
  | some .other => some (.string s.text)

/-- The unsigned 64-bit integer that a scalar stands for. A block of lines must be tagged as an
integer. -/
def natural? (s : Scalar) : Option Nat :=
  if s.style == .plain || (s.style == .literal && s.tag? == some .integer) then
    Word.natural? s.text
  else none

/-- Whether a scalar stands for a missing value. There is no answer if it is tagged as null and is
not. -/
def isMissing? (s : Scalar) : Option Bool :=
  if s.style != .plain then some false
  else
    match s.tag? with
    | none => some s.isNull
    | some .null => if Word.isNull s.text && s.text != "" then some true else none
    | some _ => some false

/-- The name of the choice that a scalar stands for: its text, or the name in its tag if nothing but
that is written. -/
def choice? (s : Scalar) : Option String :=
  match s.tag? with
  | some (.choice name) => if s.isNull then some name else none
  | _ => some s.text

end Scalar

end Tabular
