import Tabular.Domain
import Tabular.Text.Blank
/-!
# Filter operators

Each domain has its operators, listed in the order in which they are offered; the first is the one
that a fresh filter starts with. Operators that depend on an order are decided by the order of the
value against the operand (`admits`); those of dates are the ones of numbers under other names.
-/

namespace Tabular

/-- What a filter asks of a value. -/
inductive Operator where
  | contains | doesNotContain | equals | startsWith | endsWith
  | eq | neq | gt | lt | gte | lte
  /-- Within two numbers, both included. -/
  | between
  | is | isNot | isBefore | isAfter
  /-- Within two dates, both included. -/
  | dateRange
  | containsAny | containsAll
  /-- Missing and blank values. -/
  | isEmpty
deriving DecidableEq, Repr

namespace Operator

/-- Every operator. -/
def all : List Operator :=
  [contains, doesNotContain, equals, startsWith, endsWith, eq, neq, gt, lt, gte, lte, between, is,
   isNot, isBefore, isAfter, dateRange, containsAny, containsAll, isEmpty]

/-- The written name. -/
def name : Operator → String
  | contains => "contains"
  | doesNotContain => "doesNotContain"
  | equals => "equals"
  | startsWith => "startsWith"
  | endsWith => "endsWith"
  | eq => "eq"
  | neq => "neq"
  | gt => "gt"
  | lt => "lt"
  | gte => "gte"
  | lte => "lte"
  | between => "between"
  | is => "is"
  | isNot => "isNot"
  | isBefore => "isBefore"
  | isAfter => "isAfter"
  | dateRange => "dateRange"
  | containsAny => "containsAny"
  | containsAll => "containsAll"
  | isEmpty => "isEmpty"

/-- The operator of a name in a document. -/
def ofName? (s : String) : Option Operator := all.find? fun op => op.name == s

/-- The operator that a person's spelling means: its name in any ASCII case, white space around it
aside. -/
def ofWord (s : String) : Except String Operator :=
  let word := Text.asciiLower (Text.trim s)
  match all.find? fun op => Text.asciiLower op.name == word with
  | some op => .ok op
  | none => .error s!"unknown filter operator '{s}'"

/-- The operators of a domain, in the order in which they are offered. -/
def forDomain (d : Domain) : List Operator :=
  match d.comparisonClass with
  | .number => [eq, neq, gt, lt, gte, lte, between, isEmpty]
  | .date => [is, isNot, isBefore, isAfter, dateRange, isEmpty]
  | .collection => [contains, doesNotContain, containsAny, containsAll, isEmpty]
  | .boolean => [equals, isEmpty]
  | _ => [contains, doesNotContain, equals, startsWith, endsWith, isEmpty]

/-- The operator that a fresh filter of a domain starts with. -/
def defaultFor (d : Domain) : Operator := (forDomain d).headD isEmpty

/-- Whether the operator may be used on fields of a domain. -/
def supports (op : Operator) (d : Domain) : Bool := (forDomain d).contains op

/-- The operators with two operands. -/
def isRange (op : Operator) : Bool := op == between || op == dateRange

/-- Whether an operator that depends on an order admits a value that stands in the given order to
the operand. -/
def admits : Operator → Ordering → Bool
  | eq, o | is, o => o == .eq
  | neq, o | isNot, o => o != .eq
  | gt, o | isAfter, o => o == .gt
  | gte, o => o != .lt
  | lt, o | isBefore, o => o == .lt
  | lte, o => o != .gt
  | _, _ => false

theorem supports_defaultFor (d : Domain) : (defaultFor d).supports d = true := by
  cases d <;> rfl

end Operator

end Tabular
