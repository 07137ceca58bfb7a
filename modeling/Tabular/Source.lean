import Tabular.Schema
import Tabular.Value
/-!
# Sources of records

The library never looks into a record. A source says how the records of a set are read: their
fields, the value of a field of a record, and the transliteration under which texts are put in
order. A record goes with its position in the set as an `Entry`.
-/

namespace Tabular

/-- How the records of a set are read. -/
structure Source (α : Type) where
  schema : Schema
  /-- The value of a field of a record, missing for a field that the record does not have. -/
  value : α → String → Value
  /-- The text under which a text is put in order, before letter case is dropped. -/
  transliterate : String → String

/-- A record with its position in the record set. -/
structure Entry (α : Type) where
  index : Nat
  record : α
deriving DecidableEq

/-- The records of a set with their positions. -/
def entriesOf {α : Type} (records : List α) : List (Entry α) :=
  records.zipIdx.map fun (record, index) => ⟨index, record⟩

/-- The records at the given positions. -/
def entriesAt {α : Type} (records : List α) (indices : List Nat) : List (Entry α) :=
  indices.filterMap fun index => records[index]?.map fun record => ⟨index, record⟩

end Tabular
