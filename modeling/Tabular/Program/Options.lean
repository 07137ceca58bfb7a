import Tabular.Group.Order
import Tabular.Program.Argument
import Tabular.Program.Export
import Tabular.Text.Digit
/-!
# Options

The command line as `Options`. Arguments are taken from left to right and the first that does not
fit is a `UsageError`. An option's value is the next argument, or stands behind an equals sign, or
directly behind a short option; the next argument is no value if it looks like an option. Options
for a list may be repeated, and others may not.
-/

namespace Tabular

/-- What the command line asks for. -/
structure Options where
  records : String
  fields? : Option String := none
  view? : Option String := none
  sort : List SortKey := []
  filters : List FilterArgument := []
  groupBy : List String := []
  groupOrder? : Option GroupOrder := none
  collapse : List GroupPath := []
  page? : Option Nat := none
  pageSize? : Option Nat := none
  columns : List String := []
  format : OutputFormat := .table
  /-- Every record instead of one page. -/
  all : Bool := false
  saveView? : Option String := none
  noColor : Bool := false
deriving DecidableEq

/-- Why a command line cannot be followed. -/
inductive UsageError where
  | unknownOption (argument : String)
  | unexpectedArgument (argument : String)
  | missingValue (option : String)
  | needlessValue (option : String)
  | repeated (option : String)
  | invalidValue (option value reason : String)
  | missingRecords
deriving DecidableEq, Repr

/-- The message of an error. -/
def UsageError.message : UsageError → String
  | unknownOption argument => s!"unknown option '{argument}'"
  | unexpectedArgument argument => s!"unexpected argument '{argument}'"
  | missingValue option => s!"option '{option}' needs a value"
  | needlessValue option => s!"option '{option}' takes no value"
  | repeated option => s!"option '{option}' is given more than once"
  | invalidValue option value reason => s!"invalid value '{value}' for '{option}': {reason}"
  | missingRecords => "no records are given"

/-- An option with a value. -/
inductive OptionName where
  | fields | view | sort | filter | groupBy | groupOrder | collapse | page | pageSize | columns
  | format | saveView
deriving DecidableEq, Repr

/-- An option without a value. -/
inductive FlagName where
  | all | noColor | version | help
deriving DecidableEq, Repr

namespace OptionName

/-- Every option with a value. -/
def every : List OptionName :=
  [fields, view, sort, filter, groupBy, groupOrder, collapse, page, pageSize, columns, format,
   saveView]

/-- The name behind two dashes. -/
def long : OptionName → String
  | fields => "fields"
  | view => "view"
  | sort => "sort"
  | filter => "filter"
  | groupBy => "group-by"
  | groupOrder => "group-order"
  | collapse => "collapse"
  | page => "page"
  | pageSize => "page-size"
  | columns => "columns"
  | format => "format"
  | saveView => "save-view"

/-- The letter behind one dash. -/
def short? : OptionName → Option Char
  | sort => some 's'
  | filter => some 'f'
  | groupBy => some 'g'
  | page => some 'p'
  | columns => some 'c'
  | _ => none

end OptionName

namespace FlagName

/-- Every option without a value. -/
def every : List FlagName := [all, noColor, version, help]

/-- The name behind two dashes. -/
def long : FlagName → String
  | all => "all"
  | noColor => "no-color"
  | version => "version"
  | help => "help"

/-- The letter behind one dash. -/
def short? : FlagName → Option Char
  | version => some 'V'
  | help => some 'h'
  | _ => none

end FlagName

/-- What the program is asked to do. -/
inductive Request where
  | run (options : Options)
  | showVersion
  | showHelp
deriving DecidableEq

/-- Options under construction. A part that may be given once is none until it is given. -/
structure OptionsDraft where
  records? : Option String := none
  format? : Option OutputFormat := none
  options : Options := { records := "" }

namespace OptionsDraft

/-- An unsigned 64-bit integer in decimal digits, with an optional plus sign. -/
def readCount (s : String) : Except String Nat :=
  let digits := match s.toList with
    | '+' :: rest => rest
    | cs => cs
  let n := Text.natOfDigits digits
  if digits.isEmpty || !digits.all Text.isAsciiDigit then .error "not a number"
  else if n < 0x10000000000000000 then .ok n
  else .error "number too large"

/-- The path of an argument, which may not be empty. -/
def readPath (s : String) : Except String String :=
  if s.isEmpty then .error "path is empty" else .ok s

/-- A format of an argument. -/
def readFormat (s : String) : Except String OutputFormat :=
  match OutputFormat.ofName? s with
  | some f => .ok f
  | none => .error "unknown format"

/-- Reads the value of an option. -/
def value {α : Type} (o : OptionName) (read : String → Except String α) (s : String) :
    Except UsageError α :=
  match read s with
  | .ok a => .ok a
  | .error reason => .error (.invalidValue o.long s reason)

/-- Reads the value of an option that may be given once. -/
def once {α : Type} (o : OptionName) (read : String → Except String α) (earlier : Option α)
    (s : String) : Except UsageError (Option α) :=
  match earlier with
  | some _ => .error (.repeated o.long)
  | none => (value o read s).map some

/-- Sets an option. -/
def set (d : OptionsDraft) (o : OptionName) (s : String) : Except UsageError OptionsDraft := do
  let x := d.options
  match o with
  | .fields => return { d with options.fields? := ← once o readPath x.fields? s }
  | .view => return { d with options.view? := ← once o readPath x.view? s }
  | .sort => return { d with options.sort := x.sort ++ [← value o SortKey.ofArgument s] }
  | .filter =>
    return { d with options.filters := x.filters ++ [← value o FilterArgument.ofArgument s] }
  | .groupBy => return { d with options.groupBy := x.groupBy ++ Text.split "," s }
  | .groupOrder =>
    return { d with options.groupOrder? := ← once o GroupOrder.ofWord x.groupOrder? s }
  | .collapse =>
    return { d with options.collapse := x.collapse ++ [← value o GroupPath.ofArgument s] }
  | .page => return { d with options.page? := ← once o readCount x.page? s }
  | .pageSize => return { d with options.pageSize? := ← once o readCount x.pageSize? s }
  | .columns => return { d with options.columns := x.columns ++ Text.split "," s }
  | .format => return { d with format? := ← once o readFormat d.format? s }
  | .saveView => return { d with options.saveView? := ← once o readPath x.saveView? s }

/-- Sets the records, which are the only argument that belongs to no option. -/
def setRecords (d : OptionsDraft) (s : String) : Except UsageError OptionsDraft :=
  match d.records? with
  | some _ => .error (.unexpectedArgument s)
  | none => if s.isEmpty then .error (.invalidValue "records" s "path is empty") else
    .ok { d with records? := some s }

/-- The request of a complete draft. -/
def finish (d : OptionsDraft) : Except UsageError Request :=
  match d.records? with
  | some records =>
    .ok (.run { d.options with records, format := d.format?.getD .table })
  | none => .error .missingRecords

/-- The draft with an option without a value, or the request that it makes. -/
def setFlag (d : OptionsDraft) (f : FlagName) : Except UsageError (OptionsDraft ⊕ Request) :=
  match f with
  | .all =>
    if d.options.all then .error (.repeated f.long)
    else .ok (.inl { d with options.all := true })
  | .noColor =>
    if d.options.noColor then .error (.repeated f.long)
    else .ok (.inl { d with options.noColor := true })
  | .version => .ok (.inr .showVersion)
  | .help => .ok (.inr .showHelp)

end OptionsDraft

/-- Whether an argument looks like an option. A dash alone stands for a file. -/
def looksLikeOption (argument : String) : Bool := argument.startsWith "-" && argument != "-"

/-- Arguments behind two dashes, none of which is an option. -/
def positionals (d : OptionsDraft) (args : List String) : Except UsageError Request := do
  (← args.foldlM OptionsDraft.setRecords d).finish

/-- An argument that looks like an option, cut into its parts. -/
inductive OptionArgument where
  | flag (f : FlagName) (value? : Option String)
  | option (o : OptionName) (value? : Option String)
  | unknown

namespace OptionArgument

/-- The option behind two dashes. -/
def ofLong (s : String) : OptionArgument :=
  let (name, value?) := match Text.cutFirst? "=" s with
    | some (name, value) => (name, some value)
    | none => (s, none)
  match FlagName.every.find? fun f => f.long == name,
    OptionName.every.find? fun o => o.long == name with
  | some f, _ => flag f value?
  | none, some o => option o value?
  | none, none => unknown

/-- The option behind one dash, with what follows its letter as its value. -/
def ofShort : List Char → OptionArgument
  | [] => unknown
  | c :: rest =>
    match FlagName.every.find? fun f => f.short? == some c,
      OptionName.every.find? fun o => o.short? == some c with
    | some f, _ => flag f none
    | none, some o =>
      match rest with
      | [] => option o none
      | '=' :: value => option o (some (String.ofList value))
      | value => option o (some (String.ofList value))
    | none, none => unknown

/-- The option of an argument. -/
def of (argument : String) : OptionArgument :=
  match argument.toList with
  | '-' :: '-' :: name => ofLong (String.ofList name)
  | '-' :: name => ofShort name
  | _ => unknown

end OptionArgument

/-- The request of a list of arguments, given what earlier arguments said. -/
def Request.ofArgumentsFrom (d : OptionsDraft) : List String → Except UsageError Request
  | [] => d.finish
  | "--" :: rest => positionals d rest
  | argument :: rest =>
    if looksLikeOption argument then
      match OptionArgument.of argument with
      | .unknown => .error (.unknownOption argument)
      | .flag f (some _) => .error (.needlessValue f.long)
      | .flag f none =>
        match d.setFlag f with
        | .ok (.inl d) => ofArgumentsFrom d rest
        | .ok (.inr request) => .ok request
        | .error e => .error e
      | .option o (some value) =>
        match d.set o value with
        | .ok d => ofArgumentsFrom d rest
        | .error e => .error e
      | .option o none =>
        match rest with
        | value :: rest =>
          if looksLikeOption value then .error (.missingValue o.long)
          else
            match d.set o value with
            | .ok d => ofArgumentsFrom d rest
            | .error e => .error e
        | [] => .error (.missingValue o.long)
    else
      match d.setRecords argument with
      | .ok d => ofArgumentsFrom d rest
      | .error e => .error e

/-- The request of a command line. -/
def Request.ofArguments (args : List String) : Except UsageError Request :=
  ofArgumentsFrom {} args

end Tabular
