import Tabular.Program.Document
import Tabular.Program.Options
import Tabular.Record.Inference
import Tabular.Table.Render
import Tabular.Text.Transliteration
import Tabular.View.Engine
/-!
# The program

What the program does with its options: it loads the records and their fields, starts from a saved
view if there is one, applies the options to it (`Options.apply`), and shows or exports the
result. `run` is a function from the texts of the files to the text of the output; reading and
writing files is left to the caller.
-/

namespace Tabular

/-- Why the program fails. -/
inductive ProgramError where
  | file (e : FileError)
  | view (e : ViewError)
  | viewMismatch (name : String) (e : ViewError)
  | filter (field : String) (e : ViewError)
deriving DecidableEq, Repr

/-- The message of an error. -/
def ProgramError.message : ProgramError → String
  | file e => e.message
  | view e => e.message
  | viewMismatch name e => s!"view '{name}' does not fit these records: {e.message}"
  | filter field e => s!"invalid filter on '{field}': {e.message}"

/-- A result whose error is put under a program error. -/
def Except.within {ε δ α : Type} (wrap : ε → δ) : Except ε α → Except δ α
  | .ok a => .ok a
  | .error e => .error (wrap e)

/-- The source of JSON records with a schema. -/
def Source.json (schema : Schema) : Source Json :=
  { schema, value := Json.fieldValue, transliterate := Text.transliterate }

/-- The command that a filter argument stands for. -/
def FilterArgument.command {α : Type} : FilterArgument → Command α
  | text field raw => .filterText field raw
  | structured field filter => .setFilter field filter

namespace Options

variable {α : Type}

/-- Applies an optional command. -/
def applyOption {β : Type} (option? : Option β) (command : β → Command α) (e : Engine α) :
    Except ViewError (Engine α) :=
  match option? with
  | some b => e.apply (command b)
  | none => .ok e

/-- A list, none if it is empty. -/
def given {β : Type} (l : List β) : Option (List β) := if l.isEmpty then none else some l

/-- Applies the filters, naming the field of one that does not fit. -/
def applyFilters (filters : List FilterArgument) (e : Engine α) : Except ProgramError (Engine α) :=
  filters.foldlM (fun e f => Except.within (.filter f.field) (e.apply f.command)) e

/-- Applies the options to an engine. The relation of grouping to sorting comes first, and the
page last, since setting a filter returns to the first page. -/
def apply (o : Options) (e : Engine α) : Except ProgramError (Engine α) := do
  let e ← Except.within .view (applyOption o.groupOrder? .setGroupOrder e)
  let e ← match given o.sort with
    | some keys => do
      let spec ← Except.within .view (SortSpec.ofKeys keys)
      Except.within .view (e.apply (.setSort spec))
    | none => pure e
  let e ← Except.within .view (applyOption (given o.groupBy) .setGroupFields e)
  let e ← applyFilters o.filters e
  let e ← Except.within .view (o.collapse.foldlM (fun e p => e.apply (.foldGroup p true)) e)
  let e ← Except.within .view (applyOption (given o.columns) .setColumns e)
  let e ← Except.within .view (applyOption o.pageSize? .setPageSize e)
  Except.within .view (applyOption o.page? .setPage e)

end Options

/-- The files that the program may read, and its standard input. -/
structure Inputs where
  file? : String → Option String
  standardInput : String

/-- The name that stands for the standard input. -/
def standardInputPath : String := "-"

/-- The text of a path, given the paths read before. The standard input can be read once and is
empty afterwards. -/
def Inputs.text (i : Inputs) (earlier : List String) (path : String) :
    Except ProgramError String :=
  if path = standardInputPath then
    .ok (if earlier.contains standardInputPath then "" else i.standardInput)
  else
    match i.file? path with
    | some text => .ok text
    | none => .error (.file (.unreadable path))

/-- What the program has to show for its options. -/
structure Outcome where
  /-- A file to be written before the output, with its text. -/
  saved? : Option (String × String)
  output : String
deriving DecidableEq, Repr

/-- The engine of a program run, over the loaded records. -/
def load (o : Options) (i : Inputs) : Except ProgramError (Engine Json) := do
  let records ← Except.within .file (readRecords o.records (← i.text [] o.records))
  let schema ← match o.fields? with
    | some path => do Except.within .file (readSchema path (← i.text [o.records] path))
    | none => pure (Schema.infer records)
  let e ← Except.within .view (Engine.make (Source.json schema) records {})
  match o.view? with
  | some path => do
    let earlier := o.records :: o.fields?.toList
    let config ← Except.within .file (readView path (← i.text earlier path))
    Except.within (.viewMismatch config.name) (e.apply (.applyConfig config))
  | none => return e

/-- The text that an engine is shown as. -/
def render (o : Options) (width : Option Nat) (color : Bool) (e : Engine Json) : String :=
  let schema := e.source.schema
  let visible := e.state.visibleColumns
  let records :=
    if o.all then e.view.records else (e.view.pageRows.filterMap (·.record?)).map (·.record)
  let columns := if visible.isEmpty && o.format != .csv then [] else schema.columns visible
  match exportText o.format columns records with
  | .ok text => text
  | .error _ =>
    Table.text Text.terminal e.source.value width color e.view.pageRows (schema.columns visible)
      e.state.sort e.view.pageInfo

/-- What the program has to show for its options. With a width, tables are narrowed to it. -/
def run (o : Options) (i : Inputs) (width : Option Nat) (color : Bool) :
    Except ProgramError Outcome := do
  let e ← o.apply (← load o i)
  let saved? := o.saveView?.map fun path =>
    (path, viewText path (e.snapshot (viewIdOf path) (viewIdOf path)))
  return { saved?, output := render o width (color && !o.noColor) e }

/-- The line that names the program and its version. -/
def versionLine : String := "tabview 0.3.0\n"

/-- How the program is used. -/
def helpText : String :=
  "Filter, sort, group and page tabular data in the terminal\n\n" ++
  "Usage: tabview [OPTIONS] <RECORDS>\n"

/-- The code with which the program ends when the command line is wrong. -/
def usageExitCode : Nat := 2

/-- The code with which the program ends when it fails. -/
def failureExitCode : Nat := 1

/-- The line that reports a failure. -/
def errorLine (message : String) : String := s!"error: {message}\n"

end Tabular
