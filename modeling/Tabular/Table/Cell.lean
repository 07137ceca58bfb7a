import Tabular.Source
import Tabular.Text.Width
/-!
# Cells

How the value of a cell is shown in the domain of its field. Blank values are shown as empty
cells, and a value that does not read as its domain is shown as its text.
-/

namespace Tabular

/-- The form in which a value is shown. -/
inductive Cell where
  | text (s : String)
  | collection (items : List String)
  | checkbox (checked : Bool)
  | empty
deriving DecidableEq, Repr

/-- Digits with a comma in front of every third digit from the right. -/
def groupThousands : List Char → List Char
  | [] => []
  | c :: rest =>
    if rest.length % 3 = 0 && !rest.isEmpty then c :: ',' :: groupThousands rest
    else c :: groupThousands rest

/-- An amount with two decimal places and grouped digits. An amount that rounds to zero has no
sign. -/
def amountText (x : Binary64) : String :=
  let (whole, places) := x.twoPlaces
  let isZero := x.isFinite && x.hundredths == 0
  String.ofList ((if x.negative && !isZero then ['-'] else [])
    ++ groupThousands whole ++ '.' :: places.getD ['0', '0'])

namespace Cell

/-- The cell of a value in a domain. -/
def of (v : Value) (domain : Domain) : Cell :=
  if v.isBlank then empty
  else
    match domain with
    | .collection => collection (v.asCollection?.getD [v.shown])
    | .boolean => (v.asFlag?.map checkbox).getD (text v.shown)
    | .currency => text ((v.asNumber?.map amountText).getD v.shown)
    | .date => text ((v.asInstant?.map fun t => t.startOfDay.text).getD v.shown)
    | .datetime => text ((v.asInstant?.map Instant.text).getD v.shown)
    | .string | .number => text v.shown

/-- The text of a cell. -/
def shown : Cell → String
  | text s => s
  | collection items => Text.join ", " items
  | checkbox true => "[x]"
  | checkbox false => "[ ]"
  | empty => "-"

end Cell

example : amountText (.ofDecimal true 12345675 (-2)) = "-123,456.75" := by decide +kernel
example : amountText (.ofDecimal true 4 (-3)) = "0.00" := by decide +kernel

end Tabular
