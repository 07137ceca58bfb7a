import Tabular.View.Compute
import Tabular.View.Config
/-!
# View engines

An engine keeps a record set, the state of a view of it, and the view itself. A `Command` changes
the state; the view is computed anew and the page it comes to is stored back, so that the state
always names a page that exists. A command is carried out in place (`Engine.perform`), and one that
does not fit the schema fails on the way.
-/

namespace Tabular

/-- A record set with the state of a view and the view. -/
structure Engine (α : Type) where
  source : Source α
  records : List α
  state : ViewState
  view : View α

/-- A change to an engine. -/
inductive Command (α : Type) where
  /-- A click on a column heading, plain or additive. -/
  | click (field : String) (additive : Bool)
  | setSort (sort : SortSpec)
  | setFilter (field : String) (f : Filter)
  | removeFilter (field : String)
  /-- Sets the filter of a field from typed text. -/
  | filterText (field raw : String)
  | clearFilters
  | setGroupFields (fields : List String)
  | setGroupOrder (mode : GroupOrder)
  | toggleGroup (path : GroupPath)
  | foldGroup (path : GroupPath) (folded : Bool)
  | expandAll
  /-- Folds every group of the current records. -/
  | collapseAll
  | setPage (index : Nat)
  | setPageSize (size : Nat)
  | setColumns (columns : List String)
  /-- Puts another record set in place of the current one. -/
  | replaceRecords (records : List α)
  /-- Puts a saved view in place of the whole state. -/
  | applyConfig (config : ViewConfig)

/-- A change to an engine in place, one assignment after the other. When it fails, the engine stays
as the assignments before the failure left it. -/
abbrev Change (α : Type) : Type → Type := ExceptT ViewError (StateM (Engine α))

namespace Engine

variable {α : Type}

/-- The engine of a state over a record set, at the page that the view comes to. -/
def make (source : Source α) (records : List α) (state : ViewState) :
    Except ViewError (Engine α) := do
  let view ← View.compute source state records
  return { source, records, state := state.withPage view.pageInfo.page, view }

/-- The headers of all groups of the current records, none of them folded. -/
def allHeaders (e : Engine α) : List GroupHeader :=
  (groupRows e.source e.state.groupFields {} e.view.sorted).filterMap (·.header?)

/-- The state that a command asks for. -/
def requested (e : Engine α) (command : Command α) : Except ViewError ViewState := do
  let schema := e.source.schema
  match command with
  | .click field additive => e.state.withClick field additive schema
  | .setSort sort => e.state.withSort sort schema
  | .setFilter field f => e.state.withFilter field f schema
  | .removeFilter field => e.state.withoutFilter field schema
  | .filterText field raw =>
    let domain := (← schema.require field .filter).domain
    e.state.withFilter field (e.state.filterOfText field raw domain) schema
  | .clearFilters => return e.state.withoutFilters
  | .setGroupFields fields => e.state.withGroupFields fields schema
  | .setGroupOrder mode => e.state.withGroupOrder mode schema
  | .toggleGroup path => return e.state.withGroupToggled path
  | .foldGroup path folded => return e.state.withGroupFolded path folded
  | .expandAll => return e.state.withCollapsed {}
  | .collapseAll => return e.state.withCollapsed (.ofList (e.allHeaders.map (·.path)))
  | .setPage index => return e.state.withPage index
  | .setPageSize size => e.state.withPageSize size
  | .setColumns columns => e.state.withColumns columns schema
  | .replaceRecords _ => return e.state
  | .applyConfig config => config.toState schema

/-- Computes the view of the next state, and stores both. -/
def commit (next : ViewState) : Change α Unit := do
  let e ← get
  let view ← View.compute e.source next e.records
  modify fun e => { e with state := next.withPage view.pageInfo.page }
  modify fun e => { e with view }

/-- Carries out a command. -/
def perform (command : Command α) : Change α Unit := do
  let e ← get
  let next ← e.requested command
  match command with
  | .replaceRecords records =>
    let view ← View.compute e.source next records
    modify fun e => { e with records }
    modify fun e => { e with state := e.state.withPage view.pageInfo.page }
    modify fun e => { e with view }
  | _ => commit next

/-- The engine after a command, and the error if the command fails. -/
def step (e : Engine α) (command : Command α) : Engine α × Option ViewError :=
  match (perform command).run.run e with
  | (.ok (), next) => (next, none)
  | (.error err, next) => (next, some err)

/-- The engine after a command that does not fail. -/
def apply (e : Engine α) (command : Command α) : Except ViewError (Engine α) :=
  match e.step command with
  | (next, none) => .ok next
  | (_, some err) => .error err

/-- The engine after a list of commands, whichever of them fail. -/
def run (e : Engine α) (commands : List (Command α)) : Engine α :=
  commands.foldl (fun e c => (e.step c).1) e

/-- The saved form of the current state. -/
def snapshot (e : Engine α) (id name : String) : ViewConfig := .ofState id name e.state

end Engine

end Tabular
