import Tabular.Document.Wire
import Tabular.Json.Read
import Tabular.Json.Text
import Tabular.Yaml.Read
import Tabular.Yaml.Text
/-!
# Documents of the program

Records, fields and saved views in files. The extension of a file's name says how it is written:
YAML, JSON with a record on each line, or else JSON. What goes wrong with a file is a `FileError`;
its `context` names the file, and its `message` adds the cause.
-/

namespace Tabular

/-- How a file is written. -/
inductive DocumentFormat where
  | json | jsonLines | yaml
deriving DecidableEq, Repr

/-- The last part of a path, none where that is no name. -/
def fileName? (path : String) : Option String :=
  let parts := (Text.split "/" path).filter fun p => p != "" && p != "."
  parts.getLast?.filter fun p => p != ".."

/-- The stem and the extension of a file name. A point in front is no mark of an extension. -/
def splitExtension (name : String) : String × Option String :=
  match Text.cutLast? '.' name with
  | some (stem, extension) => if stem.isEmpty then (name, none) else (stem, some extension)
  | none => (name, none)

namespace DocumentFormat

/-- The format of a file. -/
def ofPath (path : String) : DocumentFormat :=
  let extension := (fileName? path).bind fun name => (splitExtension name).2
  match extension.map Text.asciiLower with
  | some "yaml" | some "yml" => yaml
  | some "jsonl" | some "ndjson" => jsonLines
  | _ => json

/-- The word for a format in messages. -/
def name : DocumentFormat → String
  | yaml => "YAML"
  | json | jsonLines => "JSON"

end DocumentFormat

/-- The id of a view that is saved in a file: the stem of its name. -/
def viewIdOf (path : String) : String :=
  ((fileName? path).map fun name => (splitExtension name).1).getD "view"

/-- What is wrong with a file. -/
inductive FileError where
  | unreadable (path : String)
  | unwritable (path : String)
  | invalid (path : String) (format : DocumentFormat) (cause : Fault)
  /-- A line, counted from one, is no JSON. -/
  | invalidLine (path : String) (line : Nat) (cause : Fault)
  /-- There is no list of records, neither as the document nor, if it is an object, in it. -/
  | noRecords (path : String) (isObject : Bool)
  | noFields (path : String)
deriving DecidableEq, Repr

/-- The message of a fault. -/
def Fault.message : Fault → String
  | malformed => "malformed text"
  | truncated => "unexpected end of text"
  | mismatch => "unexpected kind of value"

namespace FileError

/-- What is wrong and where. -/
def context : FileError → String
  | unreadable path => s!"failed to read {path}"
  | unwritable path => s!"failed to write {path}"
  | invalid path format _ => s!"invalid {format.name} in {path}"
  | invalidLine path line _ => s!"{path}:{line}: invalid JSON"
  | noRecords path isObject =>
    let expected := s!"{path}: expected an array of records"
    if isObject then expected ++ " or an object with a \x60records\x60 array" else expected
  | noFields path => s!"{path}: no fields defined"

/-- Why it is wrong, if the context does not say so. -/
def cause? : FileError → Option String
  | unreadable _ => some "no such file"
  | unwritable _ => some "no such directory"
  | invalid _ _ cause | invalidLine _ _ cause => some cause.message
  | noRecords _ _ | noFields _ => none

/-- The whole message. -/
def message (e : FileError) : String :=
  match e.cause? with
  | some cause => e.context ++ ": " ++ cause
  | none => e.context

end FileError

namespace DocumentFormat

/-- A JSON text read to a shape; only white space may follow. -/
def readJson {α : Type} (read : Node → Except Fault α) (text : String) : Except Fault α := do
  let (node, trailing) := Json.readNode text
  let value ← read node
  if trailing then .error .malformed else .ok value

/-- A text in a format read to a shape. -/
def read {α : Type} (format : DocumentFormat) (read : Node → Except Fault α) (text : String) :
    Except Fault α :=
  match format with
  | yaml => do read (← Yaml.Document.ofText text).root
  | json | jsonLines => readJson read text

/-- The value of a text in a format. -/
def value (format : DocumentFormat) (text : String) : Except Fault Json :=
  match format with
  | yaml => do
    let d ← Yaml.Document.ofText text
    if d.isExcessive then throw .malformed
    d.root.toJson Yaml.maxDepth
  | json | jsonLines => readJson (Node.toJson Json.maxDepth) text

/-- A value in a format. -/
def write (format : DocumentFormat) (value : Json) : String :=
  match format with
  | yaml => Yaml.text value
  | json | jsonLines => value.pretty ++ "\n"

end DocumentFormat

/-- The content of a file, read in the format that its name says. -/
def readFile {α : Type} (path : String) (read : DocumentFormat → Except Fault α) :
    Except FileError α :=
  let format := DocumentFormat.ofPath path
  match read format with
  | .ok a => .ok a
  | .error cause => .error (.invalid path format cause)

/-- A line without the carriage return in front of its line feed. -/
def dropReturn (l : List Char) : List Char := if l.getLast? == some '\r' then l.dropLast else l

/-- The lines of a text without their line breaks. A line break at the end begins no line. -/
def textLines (text : String) : List String :=
  let lines := Text.splitAll ['\n'] text.toList
  let last := lines.getLast?.filter fun l => !l.isEmpty
  (lines.dropLast.map dropReturn ++ last.toList).map String.ofList

/-- The records of a text with one on each line that is not blank. -/
def readRecordLines (path : String) : Nat → List String → Except FileError (List Json)
  | _, [] => .ok []
  | line, text :: rest => do
    if Text.isBlank text then readRecordLines path (line + 1) rest
    else
      match Json.ofText text with
      | .ok record => return record :: (← readRecordLines path (line + 1) rest)
      | .error cause => throw (.invalidLine path line cause)

/-- The records of a file: a list, or the list that an object has under `records`. -/
def readRecords (path text : String) : Except FileError (List Json) := do
  if DocumentFormat.ofPath path = .jsonLines then readRecordLines path 1 (textLines text)
  else
    match ← readFile path (·.value text) with
    | .array records => return records
    | .object members =>
      match members.lookup "records" with
      | some (.array records) => return records
      | _ => throw (.noRecords path true)
    | _ => throw (.noRecords path false)

/-- The fields of a file, of which there must be some. -/
def readSchema (path text : String) : Except FileError Schema := do
  let schema ← readFile path (·.read Schema.ofNode text)
  if schema.fields.isEmpty then throw (.noFields path)
  return schema

/-- The saved view of a file. -/
def readView (path text : String) : Except FileError ViewConfig :=
  readFile path (·.read ViewConfig.ofNode text)

/-- The text of a file that a view is saved to. -/
def viewText (path : String) (config : ViewConfig) : String :=
  (DocumentFormat.ofPath path).write config.toJson

end Tabular
