import Tabular.Order.Reading
import Tabular.Text.Lowercase
/-!
# The order of values

Values of a field are put in order by their readings: numbers by size, dates by instant, false
before true, texts by a transliterated lower-case form and then by the text itself, collections by
length and then item by item. The transliteration is a parameter.
-/

namespace Tabular

/-- A text with the form that decides its place: what is compared first, and the text itself. -/
structure Collated where
  folded : String
  raw : String
deriving DecidableEq, Repr

namespace Collated

/-- The collated form of a text under a transliteration. -/
def of (transliterate : String → String) (s : String) : Collated :=
  ⟨Text.lower (transliterate s), s⟩

/-- The folded forms decide, and then the texts. -/
def compare (a b : Collated) : Ordering :=
  (Ord.compare a.folded b.folded).then (Ord.compare a.raw b.raw)

end Collated

/-- A reading in the form in which it is sorted. -/
abbrev SortReading := Reading Collated

namespace SortReading

/-- The order of two readings of one kind. Readings of different kinds are not told apart here. -/
def compareAlike : SortReading → SortReading → Ordering
  | .number a, .number b => compare a.rank b.rank
  | .time a, .time b => compare a b
  | .flag a, .flag b => compare a b
  | .text a, .text b => a.compare b
  | .unreadable a, .unreadable b => a.compare b
  | .collection a, .collection b =>
    (compare a.length b.length).then (List.compareLex Collated.compare a b)
  | _, _ => .eq

/-- The order of two readings: by rank, then within the kind. -/
def compare (a b : SortReading) : Ordering :=
  (Ord.compare a.rank b.rank).then (compareAlike a b)

/-- The reading by which a value of a domain is sorted. -/
def of (transliterate : String → String) (v : Value) (domain : Domain) : SortReading :=
  (Reading.of v domain).map (Collated.of transliterate)

end SortReading

/-- The ascending order of two values of a domain. -/
def compareValues (transliterate : String → String) (domain : Domain) (a b : Value) : Ordering :=
  (SortReading.of transliterate a domain).compare (SortReading.of transliterate b domain)

end Tabular
