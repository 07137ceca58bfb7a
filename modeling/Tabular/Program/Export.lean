import Tabular.Csv
import Tabular.Json.Text
import Tabular.Record.Lookup
import Tabular.Yaml.Text
/-!
# Export

Records as a document or as comma-separated values. With columns, the records of a document keep
these only; rows of values always have columns. Group headers are never exported.
-/

namespace Tabular

/-- The forms in which the program writes records. -/
inductive OutputFormat where
  | table | json | yaml | csv
deriving DecidableEq, Repr

namespace OutputFormat

/-- Every format. -/
def all : List OutputFormat := [table, json, yaml, csv]

/-- The written name. -/
def name : OutputFormat → String
  | table => "table"
  | json => "json"
  | yaml => "yaml"
  | csv => "csv"

/-- The format of a name. -/
def ofName? (s : String) : Option OutputFormat := all.find? fun f => f.name == s

end OutputFormat

namespace Json

/-- The part of a record that a column names: the member of its very name, or what the parts between
the dots of its name lead to. -/
def lookup? (record : Json) (field : String) : Option Json :=
  match record.get? field with
  | some value => some value
  | none => (Text.split "." field).foldlM get? record

/-- A record with the given columns only, null where it has no such part; the whole record if
there are no columns. -/
def project (columns : List Field) (record : Json) : Json :=
  if columns.isEmpty then record
  else .object (uniqueMembers (columns.map fun c => (c.id, (record.lookup? c.id).getD .null)))

/-- Records as rows of texts under a row of field ids. -/
def rows (columns : List Field) (records : List Json) : List (List String) :=
  columns.map (·.id) :: records.map fun r => columns.map fun c => (r.fieldValue c.id).shown

end Json

/-- What export says of a format that is no document. -/
def notStructured : String := "Not a structured output format"

/-- Records in a format. A table is no export. -/
def exportText (format : OutputFormat) (columns : List Field) (records : List Json) :
    Except String String :=
  let projected := Json.array (records.map (Json.project columns))
  match format with
  | .json => .ok (projected.pretty ++ "\n")
  | .yaml => .ok (Yaml.text projected)
  | .csv => .ok (Csv.text (Json.rows columns records))
  | .table => .error notStructured

end Tabular
