import Tabular.Document.Shape
import Tabular.View.Config
/-!
# Views in documents

The written forms of fields, filters, sort keys, group paths and saved views: `toJson` writes a
value and `ofNode` reads one. Parts that are absent are left out in writing, and parts that are
left out take their defaults in reading.
-/

namespace Tabular

/-- An optional member of an object. -/
def Json.optionalMember (key : String) (value : Option Json) : List (String × Json) :=
  match value with
  | some v => [(key, v)]
  | none => []

namespace Field

/-- A field under construction. -/
structure Draft where
  id : Option String := none
  domain : Option Domain := none
  label : Option (Option String) := none

/-- The parts of a written field. -/
def parts : List (Node.Part Draft) :=
  [Node.part "id" (·.id) (fun d x => { d with id := x }) Node.asText,
   Node.part "dataDomain" (·.domain) (fun d x => { d with domain := x })
    (Node.asChoice Domain.ofName?),
   Node.part "label" (·.label) (fun d x => { d with label := x }) (Node.asOptional Node.asText)]

/-- Reads a field. -/
def ofNode (n : Node) : Except Fault Field := do
  let d ← n.asRecord parts {}
  return { id := ← Node.required d.id, domain := ← Node.required d.domain, label? := d.label.join }

/-- A field as written. -/
def toJson (f : Field) : Json :=
  .object ([("id", .string f.id), ("dataDomain", .string f.domain.name)]
    ++ Json.optionalMember "label" (f.label?.map .string))

end Field

namespace Schema

/-- Reads the fields of a schema. -/
def ofNode (n : Node) : Except Fault Schema := do return ⟨← n.asList Field.ofNode⟩

/-- The fields of a schema as written. -/
def toJson (s : Schema) : Json := .array (s.fields.map Field.toJson)

end Schema

namespace Filter

/-- A filter under construction. -/
structure Draft where
  operator : Option Operator := none
  value : Option String := none
  secondValue : Option (Option String) := none

/-- The parts of a written filter. -/
def parts : List (Node.Part Draft) :=
  [Node.part "operator" (·.operator) (fun d x => { d with operator := x })
    (Node.asChoice Operator.ofName?),
   Node.part "value" (·.value) (fun d x => { d with value := x }) Node.asText,
   Node.part "secondValue" (·.secondValue) (fun d x => { d with secondValue := x })
    (Node.asOptional Node.asText)]

/-- Reads a filter. -/
def ofNode (n : Node) : Except Fault Filter := do
  let d ← n.asRecord parts {}
  return { operator := ← Node.required d.operator
           value := d.value.getD ""
           secondValue? := d.secondValue.join }

/-- A filter as written. -/
def toJson (f : Filter) : Json :=
  .object ([("operator", .string f.operator.name), ("value", .string f.value)]
    ++ Json.optionalMember "secondValue" (f.secondValue?.map .string))

end Filter

namespace FilterSet

/-- Reads filters by field, of which the last for a field counts. -/
def ofNode (n : Node) : Except Fault FilterSet := do
  return .ofList (← n.asMembers Filter.ofNode)

/-- Filters by field, in the order of the field ids, as written. -/
def toJson (s : FilterSet) : Json := .object (s.toList.map fun (field, f) => (field, f.toJson))

end FilterSet

namespace SortKey

/-- A sort key under construction. -/
structure Draft where
  field : Option String := none
  direction : Option Direction := none

/-- The parts of a written sort key. -/
def parts : List (Node.Part Draft) :=
  [Node.part "field" (·.field) (fun d x => { d with field := x }) Node.asText,
   Node.part "direction" (·.direction) (fun d x => { d with direction := x })
    (Node.asChoice Direction.ofName?)]

/-- Reads a sort key. -/
def ofNode (n : Node) : Except Fault SortKey := do
  let d ← n.asRecord parts {}
  return { field := ← Node.required d.field, direction := d.direction.getD .ascending }

/-- A sort key as written. -/
def toJson (k : SortKey) : Json :=
  .object [("field", .string k.field), ("direction", .string k.direction.name)]

end SortKey

namespace SortSpec

/-- Reads sort keys. -/
def ofNode (n : Node) : Except Fault SortSpec := do return ⟨← n.asList SortKey.ofNode⟩

/-- Sort keys as written. -/
def toJson (s : SortSpec) : Json := .array (s.keys.map SortKey.toJson)

end SortSpec

namespace GroupPath

/-- Reads a path, in which null stands for the group of blank values. -/
def ofNode (n : Node) : Except Fault GroupPath := do
  return ⟨(← n.asList (Node.asOptional Node.asText)).map GroupValue.ofOption⟩

/-- A path, with null for the group of blank values, as written. -/
def toJson (p : GroupPath) : Json :=
  .array (p.values.map fun v => (v.toOption.map Json.string).getD .null)

end GroupPath

namespace ViewConfig

/-- A saved view under construction. -/
structure Draft where
  id : Option String := none
  name : Option String := none
  visibleColumns : Option (List String) := none
  groupBy : Option (List String) := none
  sort : Option SortSpec := none
  filters : Option FilterSet := none
  pageSize : Option (Option Nat) := none
  page : Option (Option Nat) := none
  collapsedGroups : Option (List GroupPath) := none
  groupOrder : Option (Option GroupOrder) := none

/-- The parts of a written view. -/
def parts : List (Node.Part Draft) :=
  [Node.part "id" (·.id) (fun d x => { d with id := x }) Node.asText,
   Node.part "name" (·.name) (fun d x => { d with name := x }) Node.asText,
   Node.part "visibleColumns" (·.visibleColumns) (fun d x => { d with visibleColumns := x })
    (Node.asList Node.asText),
   Node.part "groupBy" (·.groupBy) (fun d x => { d with groupBy := x })
    (Node.asList Node.asText),
   Node.part "sortConfig" (·.sort) (fun d x => { d with sort := x }) SortSpec.ofNode,
   Node.part "filterConfig" (·.filters) (fun d x => { d with filters := x }) FilterSet.ofNode,
   Node.part "pageSize" (·.pageSize) (fun d x => { d with pageSize := x })
    (Node.asOptional Node.asCount),
   Node.part "page" (·.page) (fun d x => { d with page := x }) (Node.asOptional Node.asCount),
   Node.part "collapsedGroups" (·.collapsedGroups) (fun d x => { d with collapsedGroups := x })
    (Node.asList GroupPath.ofNode),
   Node.part "groupOrder" (·.groupOrder) (fun d x => { d with groupOrder := x })
    (Node.asOptional (Node.asChoice GroupOrder.ofName?))]

/-- Reads a saved view. -/
def ofNode (n : Node) : Except Fault ViewConfig := do
  let d ← n.asRecord parts {}
  return { id := ← Node.required d.id
           name := ← Node.required d.name
           visibleColumns := d.visibleColumns.getD []
           groupBy := d.groupBy.getD []
           sort := d.sort.getD {}
           filters := d.filters.getD {}
           pageSize? := d.pageSize.join
           page? := d.page.join
           collapsedGroups := d.collapsedGroups.getD []
           groupOrder? := d.groupOrder.join }

/-- A saved view as written. -/
def toJson (c : ViewConfig) : Json :=
  .object
    ([("id", .string c.id), ("name", .string c.name),
      ("visibleColumns", .array (c.visibleColumns.map .string)),
      ("groupBy", .array (c.groupBy.map .string)),
      ("sortConfig", c.sort.toJson),
      ("filterConfig", c.filters.toJson)]
    ++ Json.optionalMember "pageSize" (c.pageSize?.map fun n : Nat => .ofInt n)
    ++ Json.optionalMember "page" (c.page?.map fun n : Nat => .ofInt n)
    ++ Json.optionalMember "collapsedGroups"
      (if c.collapsedGroups.isEmpty then none
       else some (.array (c.collapsedGroups.map GroupPath.toJson)))
    ++ Json.optionalMember "groupOrder" (c.groupOrder?.map fun g => .string g.name))

end ViewConfig

end Tabular
