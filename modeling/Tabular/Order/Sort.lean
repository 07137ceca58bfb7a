import Tabular.Order.Compare
import Tabular.Order.Spec
import Tabular.Source
/-!
# Sorting

Records are sorted by several keys. The first key on which two records differ decides, in the
direction of that key; records that agree on every key stand in the order of their positions,
whatever the directions.
-/

namespace Tabular

/-- An entry with its readings under the sort keys. -/
structure Keyed (α : Type) where
  entry : Entry α
  readings : List (Direction × SortReading)

namespace Keyed

/-- The entry with its readings under the given keys. -/
def of {α : Type} (source : Source α) (keys : List SortKey) (e : Entry α) : Keyed α :=
  ⟨e, keys.map fun k =>
    (k.direction, .of source.transliterate (source.value e.record k.field)
      (source.schema.domainOf k.field))⟩

/-- The order of two rows of readings: the first difference decides, in its direction. -/
def compareReadings : List (Direction × SortReading) → List (Direction × SortReading) → Ordering
  | (direction, a) :: as, (_, b) :: bs =>
    (direction.apply (a.compare b)).then (compareReadings as bs)
  | _, _ => .eq

/-- The order of two entries: by their readings, then by position. -/
def compare {α : Type} (a b : Keyed α) : Ordering :=
  (compareReadings a.readings b.readings).then (Ord.compare a.entry.index b.entry.index)

end Keyed

/-- The entries sorted by the given keys. Without keys the values are not looked at. -/
def sortEntries {α : Type} (source : Source α) (keys : List SortKey) (entries : List (Entry α)) :
    List (Entry α) :=
  if keys.isEmpty then entries.mergeSort fun a b => a.index ≤ b.index
  else
    let keyed := entries.map (Keyed.of source keys)
    (keyed.mergeSort fun a b => (a.compare b).isLE).map (·.entry)

end Tabular
