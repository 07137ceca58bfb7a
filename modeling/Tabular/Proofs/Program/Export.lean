import Mathlib
import Tabular.Program.Document
import Tabular.Program.Export
import Tabular.Proofs.Csv
import Tabular.Proofs.Document.Wire
/-!
# Exports of the same columns

A view finds the value of a field in a record in one way and an export finds the part of a column
in another. The two agree (`Json.fieldValue_eq_lookup?`), and the part is put into the exported
record under the very name of the column, dots and all. So the fields of an exported record are
those of the record itself (`Json.fieldValue_project`). What is read from an exported document has
the values of the records in every column, and a cell of the comma-separated values has the text of
the same value (`exportText_agrees`).
-/

namespace Tabular

namespace Json

/-! ## Two ways to a part -/

theorem descend_eq_foldlM (value : Json) (segments : List String) :
    value.descend segments = segments.foldlM get? value := by
  induction segments generalizing value with
  | nil => rfl
  | cons segment segments ih =>
    rw [descend, List.foldlM_cons]
    cases value.get? segment with
    | none => rfl
    | some next => exact ih next

theorem split_ne_nil (sep s : String) : Text.split sep s ≠ [] := by
  simpa [Text.split] using Text.splitAll_ne_nil sep.toList s.toList

theorem partIn?_eq_lookup? (members : List (String × Json)) (field : String) :
    partIn? (fun key => members.lookup key) field = (object members).lookup? field := by
  unfold partIn? lookup?
  obtain ⟨first, segments, hsplit⟩ := List.exists_cons_of_ne_nil (split_ne_nil "." field)
  rw [hsplit, List.foldlM_cons]
  simp only [get?, descend_eq_foldlM]
  cases members.lookup field with
  | some value => rfl
  | none => cases members.lookup first <;> rfl

/-- A value that is no object has no parts. -/
theorem lookup?_eq_none {record : Json} (h : ∀ key, record.get? key = none) (field : String) :
    record.lookup? field = none := by
  obtain ⟨first, segments, hsplit⟩ := List.exists_cons_of_ne_nil (split_ne_nil "." field)
  rw [lookup?, h, hsplit, List.foldlM_cons, h]
  rfl

/-- **The value of a field is that of the part that an export finds.** -/
theorem fieldValue_eq_lookup? (record : Json) (field : String) :
    record.fieldValue field = ((record.lookup? field).map Value.ofJson).getD .missing := by
  cases record with
  | object members =>
    rw [fieldValue, ← partIn?_eq_lookup?]
    cases partIn? (fun key => members.lookup key) field <;> rfl
  | _ =>
    rw [lookup?_eq_none fun _ => rfl]
    rfl

/-! ## Exported records -/

theorem lookup_cons_eq (name k : String) (value : Json) (members : List (String × Json)) :
    ((name, value) :: members).lookup k = if k = name then some value else members.lookup k := by
  rw [List.lookup_cons]
  by_cases h : k = name
  · simp [h]
  · rw [if_neg h, beq_false_of_ne h]

theorem lookup_setMember (key k : String) (value : Json) (members : List (String × Json)) :
    (setMember key value members).lookup k = if k = key then some value else members.lookup k := by
  induction members with
  | nil => rw [setMember, lookup_cons_eq]
  | cons member members ih =>
    obtain ⟨name, old⟩ := member
    rw [lookup_cons_eq, setMember]
    by_cases hname : name = key
    · subst hname
      rw [if_pos (beq_self_eq_true name), lookup_cons_eq]
      by_cases h : k = name <;> simp [h]
    · rw [if_neg (by simpa using hname), lookup_cons_eq, ih]
      by_cases h : k = name
      · simp [h, hname]
      · simp [h]

/-- Members that are given by their keys are found, however often a key is repeated. -/
theorem lookup_uniqueMembers (f : String → Json) (keys : List String) (k : String) :
    (uniqueMembers (keys.map fun key => (key, f key))).lookup k =
      if k ∈ keys then some (f k) else none := by
  suffices ∀ seen : List (String × Json),
      ((keys.map fun key => (key, f key)).foldl (fun seen m => setMember m.1 m.2 seen) seen).lookup
        k = if k ∈ keys then some (f k) else seen.lookup k from this []
  induction keys with
  | nil => exact fun seen => rfl
  | cons key keys ih =>
    intro seen
    rw [List.map_cons, List.foldl_cons, ih, lookup_setMember]
    by_cases hkey : k = key <;> by_cases hmem : k ∈ keys <;> simp [hkey, hmem]

theorem get?_project {columns : List Field} {c : Field} (hc : c ∈ columns) (record : Json) :
    (project columns record).get? c.id = some ((record.lookup? c.id).getD .null) := by
  have hids : (columns.map fun c => (c.id, (record.lookup? c.id).getD .null)) =
      (columns.map (·.id)).map fun id => (id, (record.lookup? id).getD .null) := by
    rw [List.map_map]
    rfl
  have hmem : c.id ∈ columns.map (·.id) := List.mem_map_of_mem hc
  rw [project, if_neg (by simpa using List.ne_nil_of_mem hc), get?, hids, lookup_uniqueMembers,
    if_pos hmem]

/-- **The fields of an exported record are those of the record**, for every column. -/
theorem fieldValue_project {columns : List Field} {c : Field} (hc : c ∈ columns) (record : Json) :
    (project columns record).fieldValue c.id = record.fieldValue c.id := by
  rw [fieldValue_eq_lookup?, fieldValue_eq_lookup?, lookup?, get?_project hc]
  cases record.lookup? c.id <;> rfl

example : (project [⟨"a.b", .string, none⟩]
    (.object [("a", .object [("b", .string "x")])])).fieldValue "a.b" = .text "x" := by
  decide +kernel

end Json

/-! ## Formats -/

namespace Node

/-- An item of a list as it is read. -/
def item? : Node → Nat → Option Node
  | list items _, i => items[i]?
  | _, _ => none

/-- The member of a table under a key as it is read. -/
def member? : Node → String → Option Node
  | table members _, key => members.lookup (.text key)
  | _, _ => none

theorem item?_ofJson_array (items : List Json) (i : Nat) :
    (ofJson (.array items)).item? i = items[i]?.map ofJson := by
  rw [ofJson, item?, ofItems_eq_map, List.getElem?_map]

theorem member?_ofJson (j : Json) (key : String) :
    (ofJson j).member? key = (j.get? key).map ofJson := by
  cases j with
  | object members =>
    rw [ofJson, member?, ofMembers_eq_map, Json.get?]
    induction members with
    | nil => rfl
    | cons m members ih =>
      obtain ⟨name, value⟩ := m
      have hkey : (NodeKey.text key == .text name) = (key == name) := by
        rw [Bool.eq_iff_iff, beq_iff_eq, beq_iff_eq, NodeKey.text.injEq]
      rw [List.map_cons, List.lookup_cons, List.lookup_cons, ih, hkey]
      cases key == name <;> rfl
  | _ => rfl

end Node

/-- **The formats agree on every column.** The value of a field is that of the part that an export
finds, and an exported record has the fields of the record itself. JSON and YAML are written from
one list of exported records. If the text is read as what was written, then what is read of a record
has the value of that record in every column. In the comma-separated values, the cell in the row of
a record and a column has the text of that column in the exported record. -/
theorem exportText_agrees (columns : List Field) (records : List Json) :
    let values := records.map (Json.project columns)
    let json := (Json.array values).pretty ++ "\n"
    let yaml := Yaml.text (.array values)
    (∀ (record : Json) field,
      record.fieldValue field = ((record.lookup? field).map Value.ofJson).getD .missing) ∧
    (∀ record, ∀ c ∈ columns,
      (Json.project columns record).fieldValue c.id = record.fieldValue c.id) ∧
    (exportText .json columns records = .ok json ∧
      (Json.readNode json = (.ofJson (.array values), false) →
        ∀ (i : Nat) (record : Json) c, records[i]? = some record → c ∈ columns →
          ∃ part, ((Json.readNode json).1.item? i).bind (·.member? c.id) = some (.ofJson part) ∧
            Value.ofJson part = record.fieldValue c.id)) ∧
    (exportText .yaml columns records = .ok yaml ∧
      (DocumentFormat.yaml.value yaml = .ok (.array values) →
        ∃ items : List Json, DocumentFormat.yaml.value yaml = .ok (.array items) ∧
          ∀ (i : Nat) (record : Json) c, records[i]? = some record → c ∈ columns →
            ∃ item : Json, items[i]? = some item ∧ item.fieldValue c.id = record.fieldValue c.id)) ∧
    ∃ text, exportText .csv columns records = .ok text ∧
      (∀ j c, columns[j]? = some c → Csv.cell? text 0 j = some c.id) ∧
      ∀ i j value c, values[i]? = some value → columns[j]? = some c →
        Csv.cell? text (i + 1) j = some (value.fieldValue c.id).shown := by
  intro values json yaml
  have hvalue {i : Nat} {record : Json} (h : records[i]? = some record) :
      values[i]? = some (Json.project columns record) := by
    rw [List.getElem?_map, h, Option.map_some]
  refine ⟨Json.fieldValue_eq_lookup?, fun record c hc => Json.fieldValue_project hc record,
    ⟨rfl, fun hread i record c hrecord hc => ?json⟩,
    ⟨rfl, fun hread => ⟨values, hread, fun i record c hrecord hc => ?yaml⟩⟩, _, rfl, ?csv⟩
  case json =>
    refine ⟨(record.lookup? c.id).getD .null, ?_, ?_⟩
    · rw [hread, Node.item?_ofJson_array, hvalue hrecord, Option.map_some, Option.bind_some,
        Node.member?_ofJson, Json.get?_project hc, Option.map_some]
    · rw [Json.fieldValue_eq_lookup?]
      cases record.lookup? c.id <;> rfl
  case yaml => exact ⟨_, hvalue hrecord, Json.fieldValue_project hc record⟩
  have hrows (hne : columns ≠ []) :
      Csv.rowsOf (Csv.text (Json.rows columns records)) = Json.rows columns records := by
    refine Csv.rowsOf_text fun fields hfields => ?_
    obtain rfl | hfields := List.mem_cons.mp hfields
    · simpa using hne
    · obtain ⟨record, -, rfl⟩ := List.mem_map.mp hfields
      simpa using hne
  have hne {j : Nat} {c : Field} (hc : columns[j]? = some c) : columns ≠ [] := by
    rintro rfl
    cases hc
  constructor
  · intro j c hc
    rw [Csv.cell?, hrows (hne hc)]
    simp [Json.rows, hc]
  · intro i j value c hvalue hc
    rw [List.getElem?_map, Option.map_eq_some_iff] at hvalue
    obtain ⟨record, hrecord, rfl⟩ := hvalue
    have hmem : c ∈ columns := List.mem_of_getElem? hc
    rw [Csv.cell?, hrows (hne hc), Json.fieldValue_project hmem]
    simp [Json.rows, hc, hrecord]

/-- A column of a nested part is read back from both documents and from its cell. -/
theorem exportText_agrees_nested :
    let c : Field := ⟨"a.b", .string, none⟩
    let record : Json := .object [("a", .object [("b", .string "x")])]
    let json := "[\n  \x7b\n    \"a.b\": \"x\"\n  \x7d\n]\n"
    let yaml := "- a.b: x\n"
    exportText .json [c] [record] = .ok json ∧
      (∃ part, ((Json.readNode json).1.item? 0).bind (·.member? "a.b") = some (.ofJson part) ∧
        Value.ofJson part = .text "x") ∧
      exportText .yaml [c] [record] = .ok yaml ∧
      (∃ items : List Json, DocumentFormat.yaml.value yaml = .ok (.array items) ∧
        ∃ item : Json, items[0]? = some item ∧ item.fieldValue "a.b" = .text "x") ∧
      ∃ text, exportText .csv [c] [record] = .ok text ∧ Csv.cell? text 1 0 = some "x" := by
  intro c record json yaml
  have hjson : (Json.array ([record].map (Json.project [c]))).pretty ++ "\n" = json := by
    decide +kernel
  have hyaml : Yaml.text (.array ([record].map (Json.project [c]))) = yaml := by decide +kernel
  have hfield : record.fieldValue c.id = .text "x" := by decide +kernel
  obtain ⟨-, hproject, ⟨hjsonText, hpart⟩, ⟨hyamlText, hitems⟩, text, htext, -, hcell⟩ :=
    exportText_agrees [c] [record]
  rw [hjson] at hjsonText hpart
  rw [hyaml] at hyamlText hitems
  have hpart := hpart (by cbv) 0 record c rfl List.mem_cons_self
  obtain ⟨items, hread, hitem⟩ := hitems (by cbv)
  have hitem := hitem 0 record c rfl List.mem_cons_self
  have hcell := hcell 0 0 _ c rfl rfl
  rw [hproject record c List.mem_cons_self, hfield] at hcell
  rw [hfield] at hpart hitem
  exact ⟨hjsonText, hpart, hyamlText, ⟨items, hread, hitem⟩, text, htext, hcell⟩

end Tabular
