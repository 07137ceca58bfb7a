import Tabular.Filter.Operator
import Tabular.Text.Blank
/-!
# Filters

A filter is an operator with its operands, kept as the text that was entered and read in the light
of the field's domain each time. A filter without an operand is inactive and admits everything, so
that input that is still being typed hides nothing.
-/

namespace Tabular

/-- The filter of one field. -/
structure Filter where
  operator : Operator
  value : String := ""
  /-- The second bound of a range. -/
  secondValue? : Option String := none
deriving DecidableEq, Repr

namespace Filter

/-- The second operand, empty when there is none. -/
def secondValue (f : Filter) : String := f.secondValue?.getD ""

/-- Whether the filter constrains anything: a test for emptiness always does, a range when either
bound is given, and any other operator when its operand is. -/
def isActive (f : Filter) : Bool :=
  if f.operator = .isEmpty then true
  else if f.operator.isRange then !Text.isBlank f.value || !Text.isBlank f.secondValue
  else !Text.isBlank f.value

theorem isActive_of_value {f : Filter} (h : Text.isBlank f.value = false) : f.isActive = true := by
  simp [isActive, h]

end Filter

end Tabular
