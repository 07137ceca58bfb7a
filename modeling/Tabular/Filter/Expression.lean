import Tabular.Filter.Basic
import Tabular.Text.Digit
import Tabular.Text.Split
/-!
# Filter expressions

Shorthand typed for a number: a range such as `20..50`, with `><` and `<>` as other separators, or
a comparison such as `>=50`. `Filter.ofExpression?` reads it, and `Filter.ofInput` keeps any other
text as the operand of the operator in force. Input that is not an expression is no error.

The point of a range is ambiguous: in `1...2` it belongs to the first number, in `1..2` to the
separator. `numerals` offers both readings of a number, the longer first.
-/

namespace Tabular.Filter

open Text

/-- The beginnings of a list that are numerals, each with what follows: digits, with and then
without a point and the digits after it. -/
def numerals (cs : List Char) : List (List Char × List Char) :=
  let whole := cs.takeWhile isDecimalDigit
  let rest := cs.dropWhile isDecimalDigit
  if whole.isEmpty then []
  else
    match rest with
    | '.' :: more =>
      [(whole ++ '.' :: more.takeWhile isDecimalDigit, more.dropWhile isDecimalDigit),
       (whole, rest)]
    | _ => [(whole, rest)]

/-- The separators of a range. -/
def rangeSeparators : List (List Char) := [['>', '<'], ['<', '>'], ['.', '.']]

/-- What follows a range separator at the beginning of a list. -/
def afterSeparator? (cs : List Char) : Option (List Char) :=
  (rangeSeparators.find? fun sep => sep.isPrefixOf cs).map fun sep => cs.drop sep.length

/-- A numeral up to the end of the text, white space after it aside. -/
def lastNumeral? (cs : List Char) : Option (List Char) :=
  ((numerals cs).find? fun (_, rest) => rest.all isSpace).map (·.1)

/-- The bounds of a range expression. -/
def readRange? (cs : List Char) : Option (List Char × List Char) :=
  (numerals cs).findSome? fun (low, rest) => do
    let rest ← afterSeparator? (trimStart rest)
    let high ← lastNumeral? (trimStart rest)
    return (low, high)

/-- The marks of comparisons, two characters before one, so that `>=5` is not read as `>` with
`=5`. -/
def comparisonMarks : List (List Char × Operator) :=
  [(['>', '='], .gte), (['<', '='], .lte), (['!', '='], .neq), (['>'], .gt), (['<'], .lt),
   (['='], .eq)]

/-- The comparison that begins with a given mark. A mark without an operand is none, and neither
is a one-character mark that an equals sign follows. -/
def readComparison? (cs : List Char) (mark : List Char) (op : Operator) : Option Filter :=
  if mark.isPrefixOf cs then
    let operand := trimList (cs.drop mark.length)
    if operand.isEmpty then none
    else if (op = .gt ∨ op = .lt) ∧ operand.head? = some '=' then none
    else some { operator := op, value := String.ofList operand }
  else none

/-- The filter that a numeric expression stands for. -/
def ofExpression? (raw : String) : Option Filter :=
  match readRange? raw.toList with
  | some (low, high) =>
    some { operator := .between, value := String.ofList low, secondValue? := String.ofList high }
  | none =>
    let cs := trimList raw.toList
    comparisonMarks.findSome? fun (mark, op) => readComparison? cs mark op

/-- The filter that typed text stands for on a field of a domain: an expression on a numeric
field, and otherwise the text as it is under the operator in force. -/
def ofInput (raw : String) (domain : Domain) (current : Operator) : Filter :=
  let literal : Filter := { operator := current, value := raw }
  if domain.isNumeric then (ofExpression? raw).getD literal else literal

example : ofExpression? "20><50" = some ⟨.between, "20", some "50"⟩ := by decide +kernel
example : ofExpression? "1...2" = some ⟨.between, "1.", some "2"⟩ := by decide +kernel
example : ofExpression? "1..2" = some ⟨.between, "1", some "2"⟩ := by decide +kernel
example : ofExpression? " >= 5 " = some ⟨.gte, "5", none⟩ := by decide +kernel
example : ofExpression? ">" = none := by decide +kernel
example : ofExpression? "> =5" = none := by decide +kernel

end Tabular.Filter
