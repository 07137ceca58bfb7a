import Tabular.Filter.Basic
import Tabular.Text.Lowercase
import Tabular.Value
/-!
# What a filter admits

`Filter.admits` decides whether a value passes a filter, given the domain of the field. Texts are
compared in lower case, numbers as doubles, dates by day and datetimes by the millisecond, and a
collection as the set of its items in lower case. A value that cannot be read in the domain passes
no filter but the test for emptiness.
-/

namespace Tabular

open Text

/-- Reads a bound of a range: a blank text is an open bound, and a text that cannot be read makes
the range unsatisfiable. -/
def readBound? {τ : Type} (read : String → Option τ) (raw : String) : Option (Option τ) :=
  if Text.isBlank raw then some none else (read raw).map some

/-- The bounds of a range filter, the lower first. -/
def readBounds? {τ : Type} (cmp : τ → τ → Option Ordering) (read : String → Option τ)
    (f : Filter) : Option (Option τ × Option τ) := do
  let low ← readBound? read f.value
  let high ← readBound? read f.secondValue
  match low, high with
  | some a, some b => if cmp b a = some .lt then return (some b, some a) else return (low, high)
  | _, _ => return (low, high)

/-- Whether a value lies within bounds, both included. -/
def withinBounds {τ : Type} (cmp : τ → τ → Option Ordering) (x : τ)
    (bounds : Option τ × Option τ) : Bool :=
  (match bounds.1 with
    | some low => cmp x low = some .gt || cmp x low = some .eq
    | none => true)
  && (match bounds.2 with
    | some high => cmp x high = some .lt || cmp x high = some .eq
    | none => true)

/-- The items of a collection cell. Another value that is not blank is a collection of one. -/
def Value.items : Value → List String
  | .collection items => items
  | v => if v.isBlank then [] else [v.shown]

/-- The form in which items of collections are compared. -/
def normalItem (s : String) : String := lower (trim s)

/-- The parts of a comma-separated operand in the form of items, without the blank ones. -/
def operandItems (raw : String) : List String :=
  ((split "," raw).map normalItem).filter fun s => !s.isEmpty

namespace Filter

/-- Text filters: containment and equality in lower case. -/
def admitsText (f : Filter) (v : Value) : Bool :=
  let hay := lowerList v.shown.toList
  let needle := lowerList f.value.toList
  match f.operator with
  | .contains => hasInfix needle hay
  | .doesNotContain => !hasInfix needle hay
  | .equals => hay == needle
  | .startsWith => needle.isPrefixOf hay
  | .endsWith => needle.isSuffixOf hay
  | _ => false

/-- Number filters. -/
def admitsNumber (f : Filter) (v : Value) : Bool :=
  match v.asNumber? with
  | none => false
  | some x =>
    match f.operator with
    | .between =>
      match readBounds? Binary64.compare? readNumber? f with
      | some bounds => withinBounds Binary64.compare? x bounds
      | none => false
    | .eq | .neq | .gt | .lt | .gte | .lte =>
      match (readNumber? f.value).bind fun target => x.compare? target with
      | some o => f.operator.admits o
      | none => false
    | _ => false

/-- The place of an instant in time as filters see it: the day for dates, the millisecond
otherwise. -/
def timeKey (domain : Domain) (t : Instant) : Int :=
  if domain = .date then t.day else t.toInt

/-- Date and datetime filters. -/
def admitsTime (f : Filter) (domain : Domain) (v : Value) : Bool :=
  let read (raw : String) := (Instant.ofText? raw).map (timeKey domain)
  let order (a b : Int) := some (compare a b)
  match v.asInstant?.map (timeKey domain) with
  | none => false
  | some t =>
    match f.operator with
    | .dateRange =>
      match readBounds? order read f with
      | some bounds => withinBounds order t bounds
      | none => false
    | .is | .isNot | .isBefore | .isAfter =>
      match read f.value with
      | some target => f.operator.admits (compare t target)
      | none => false
    | _ => false

/-- Collection filters. An operand whose parts are all blank constrains nothing. -/
def admitsCollection (f : Filter) (v : Value) : Bool :=
  let items := v.items.map normalItem
  let wanted := operandItems f.value
  match f.operator with
  | .contains => items.contains (normalItem f.value)
  | .doesNotContain => !items.contains (normalItem f.value)
  | .containsAny => wanted.isEmpty || wanted.any (items.contains ·)
  | .containsAll => wanted.all (items.contains ·)
  | _ => false

/-- Boolean filters. -/
def admitsFlag (f : Filter) (v : Value) : Bool :=
  match f.operator, v.asFlag?, readFlag? f.value with
  | .equals, some actual, some wanted => actual == wanted
  | _, _, _ => false

/-- Whether a value of a field of the given domain passes the filter. -/
def admits (f : Filter) (domain : Domain) (v : Value) : Bool :=
  if !f.isActive then true
  else if f.operator = .isEmpty then v.isBlank
  else
    match domain.comparisonClass with
    | .number => f.admitsNumber v
    | .date => f.admitsTime domain v
    | .collection => f.admitsCollection v
    | .boolean => f.admitsFlag v
    | _ => f.admitsText v

theorem admits_of_not_isActive {f : Filter} (h : f.isActive = false) (domain : Domain)
    (v : Value) : f.admits domain v = true := by
  simp [admits, h]

end Filter

end Tabular
