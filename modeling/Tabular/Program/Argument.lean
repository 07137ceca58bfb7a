import Tabular.Filter.Basic
import Tabular.Order.Spec
import Tabular.Group.Path
/-!
# Arguments

The small notations of the command line: a sort key is `FIELD`, `FIELD:asc` or `FIELD:desc`, and a
filter is `FIELD=TEXT` or `FIELD:OPERATOR=VALUE`, where a range operator has two operands with
`..` between them.
-/

namespace Tabular

/-- A sort key from an argument. The direction stands behind the last colon. -/
def SortKey.ofArgument (s : String) : Except String SortKey := do
  let (field, direction) ← match Text.cutLast? ':' s with
    | some (field, direction) => do pure (field, ← Direction.ofWord direction)
    | none => pure (s, .ascending)
  let field := Text.trim field
  if field.isEmpty then throw s!"missing field name in '{s}'"
  return { field, direction }

/-- A filter from an argument. -/
inductive FilterArgument where
  /-- Text to be read like typed filter input. -/
  | text (field raw : String)
  /-- An operator with its operands. -/
  | structured (field : String) (filter : Filter)
deriving DecidableEq, Repr

namespace FilterArgument

/-- The field that is filtered. -/
def field : FilterArgument → String
  | text field _ | structured field _ => field

/-- The filter of an operator and its operands. Only a range has two operands. -/
def operands (operator : Operator) (value : String) : Filter :=
  match if operator.isRange then Text.cutFirst? ".." value else none with
  | some (low, high) => { operator, value := low, secondValue? := some high }
  | none => { operator, value }

/-- The filter of an argument. Everything behind the first equals sign is the value. -/
def ofArgument (s : String) : Except String FilterArgument := do
  let some (left, value) := Text.cutFirst? "=" s | throw s!"expected FIELD=VALUE, got '{s}'"
  let (field, operator?) ← match Text.cutFirst? ":" left with
    | some (field, operator) => do
      pure (Text.trim field, some (← Operator.ofWord (Text.trim operator)))
    | none => pure (Text.trim left, none)
  if field.isEmpty then throw s!"missing field name in '{s}'"
  match operator? with
  | none => return text field value
  | some operator => return structured field (operands operator value)

end FilterArgument

/-- The group path of an argument, which may not be blank. -/
def GroupPath.ofArgument (s : String) : Except String GroupPath :=
  if Text.isBlank s then .error "group path cannot be empty" else .ok (.ofText s)

end Tabular
