import Tabular.Text.Split
/-!
# Comma-separated values

Rows of fields, one row on a line. A field stands in quotes when it has a comma, a quote or a line
break, and so does an empty field that is alone in its row, since a blank line would be no row at
all.
-/

namespace Tabular.Csv

/-- Characters that a field outside quotes does not have. -/
def isSpecial (c : Char) : Bool := c == ',' || c == '"' || c == '\r' || c == '\n'

/-- A text in quotes, its own quotes written twice. -/
def quote (s : String) : String :=
  String.ofList ('"' :: s.toList.flatMap (fun c => if c == '"' then ['"', '"'] else [c]) ++ ['"'])

/-- A field among others. -/
def field (s : String) : String := if s.toList.any isSpecial then quote s else s

/-- A row without its line break. -/
def row (fields : List String) : String :=
  match fields with
  | [] | [""] => quote ""
  | _ => Text.join "," (fields.map field)

/-- A text of rows. -/
def text (rows : List (List String)) : String :=
  String.join (rows.map fun fields => row fields ++ "\n")

end Tabular.Csv
