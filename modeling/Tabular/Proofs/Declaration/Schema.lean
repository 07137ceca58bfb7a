import Tabular.Declaration.Read
import Tabular.Proofs.Declaration.Content
import Tabular.Proofs.Declaration.Fields
/-!
# Schemas of declared records

The constants, the schema and the values of a declared record are made from one list of fields, and
the theorem is that they agree (`schema_and_values_agree`): the schema lists what the members
declare, in order, and a value is found under an id exactly when the schema has the id: what the
member that declared it holds, as the domain shows it. An id may be the name of another member.

What a member declares is stated without the order in which its annotation is read: the settings of
its first `field` attribute give a domain, an id and a label, and of each the last one counts
(`FieldAnnotation.ofSettings_eq_ok`). Whatever is read as members comes from such declared members
(`exists_toMember_of_readMembers`).
-/

namespace Tabular

/-! ## What settings say -/

namespace Setting

/-- The domain that a setting gives. -/
def domain? : Setting → Option Domain
  | word (some name) | assign (some "domain") (some name) => (Domain.ofSetting name).toOption
  | _ => none

/-- The id that a setting gives. -/
def rename? : Setting → Option String
  | assign (some "rename") value? => value?
  | _ => none

/-- The label that a setting gives. -/
def label? : Setting → Option String
  | assign (some "label") value? => value?
  | _ => none

/-- The last of what settings give of a kind. -/
def last? {γ : Type} (part? : Setting → Option γ) (settings : List Setting) : Option γ :=
  (settings.filterMap part?).getLast?

theorem last?_nil {γ : Type} (part? : Setting → Option γ) : last? part? [] = none := rfl

theorem last?_cons {γ : Type} (part? : Setting → Option γ) (s : Setting) (rest : List Setting) :
    last? part? (s :: rest) = (last? part? rest).or (part? s) := by
  unfold last?
  cases hs : part? s with
  | none => simp [hs]
  | some c =>
    rw [List.filterMap_cons_some hs, List.getLast?_cons]
    cases (rest.filterMap part?).getLast? <;> rfl

end Setting

namespace FieldAnnotation

/-- An annotation with more settings, each of which goes before the earlier ones of its kind. -/
def updated (a : FieldAnnotation) (settings : List Setting) : FieldAnnotation where
  domain? := (Setting.last? Setting.domain? settings).or a.domain?
  skip := a.skip || settings.contains (.word (some "skip"))
  rename? := (Setting.last? Setting.rename? settings).or a.rename?
  label? := (Setting.last? Setting.label? settings).or a.label?

variable {a b : FieldAnnotation} {s : Setting} {settings : List Setting}

theorem updated_cons (a : FieldAnnotation) (s : Setting) (rest : List Setting) :
    a.updated (s :: rest) = (a.updated [s]).updated rest := by
  simp [updated, Setting.last?_nil, Setting.last?_cons, Option.or_assoc, Bool.or_assoc]

theorem text_eq_ok_iff {setting : String} {value? : Option String} {value : String} :
    text setting value? = .ok value ↔ value? = some value := by
  cases value? <;> simp [text]

/-- A setting that is taken changes what it gives and nothing else. -/
theorem add_eq_ok (h : a.add s = .ok b) : b = a.updated [s] := by
  simp only [updated, Setting.last?_cons, Setting.last?_nil, Option.none_or]
  unfold add at h
  split at h
  · cases h
    simp [Setting.domain?, Setting.rename?, Setting.label?, Domain.ofSetting, Except.toOption]
  · next name hname =>
    obtain ⟨domain, hdomain, ⟨⟩⟩ := bind_eq_ok_iff.mp h
    have hskip : ([Setting.word (some name)].contains (.word (some "skip"))) = false := by
      simpa using fun heq => hname heq.symm
    rw [hskip]
    simp [Setting.domain?, Setting.rename?, Setting.label?, hdomain, Except.toOption]
  · cases h
  · obtain ⟨value, hvalue, ⟨⟩⟩ := bind_eq_ok_iff.mp h
    simp [Setting.domain?, Setting.rename?, Setting.label?, text_eq_ok_iff.mp hvalue]
  · obtain ⟨value, hvalue, ⟨⟩⟩ := bind_eq_ok_iff.mp h
    simp [Setting.domain?, Setting.rename?, Setting.label?, text_eq_ok_iff.mp hvalue]
  · obtain ⟨value, hvalue, h⟩ := bind_eq_ok_iff.mp h
    obtain ⟨domain, hdomain, ⟨⟩⟩ := bind_eq_ok_iff.mp h
    simp [Setting.domain?, Setting.rename?, Setting.label?, text_eq_ok_iff.mp hvalue, hdomain,
      Except.toOption]
  · cases h
  · cases h

/-- **The last setting of a kind counts.** -/
theorem foldlM_add_eq_ok (h : settings.foldlM add a = .ok b) : b = a.updated settings := by
  induction settings generalizing a with
  | nil =>
    cases h
    simp [updated, Setting.last?_nil]
  | cons s rest ih =>
    rw [List.foldlM_cons] at h
    obtain ⟨next, hnext, h⟩ := bind_eq_ok_iff.mp h
    rw [updated_cons, ← add_eq_ok hnext]
    exact ih h

theorem ofSettings_eq_ok (h : ofSettings settings = .ok a) :
    a = updated {} settings := by
  obtain ⟨b, hb, h⟩ := bind_eq_ok_iff.mp h
  split at h
  · cases h
  · cases h
    exact foldlM_add_eq_ok hb

end FieldAnnotation

/-! ## What a member declares -/

/-- A member of a struct as it is declared: its name, and the attributes in front of it. -/
structure DeclaredMember where
  name : String
  attributes : List (Option String × Declaration.Form) := []

namespace DeclaredMember

/-- What is kept of a declared member. -/
def toMember (m : DeclaredMember) : Member := ⟨m.name, Declaration.annotation? m.attributes⟩

/-- The settings in the parentheses of the first `field` attribute, if there is one. -/
def settings (m : DeclaredMember) : List Setting :=
  match m.attributes.find? fun (name?, _) => name? == some "field" with
  | some (_, .arguments inner) => (Declaration.readSettings (inner.length + 1) inner).getD []
  | _ => []

/-- The field that a member declares, when it is given a domain and not left out. -/
def field? (m : DeclaredMember) : Option Field :=
  if .word (some "skip") ∈ m.settings then none
  else (Setting.last? Setting.domain? m.settings).map fun domain =>
    ⟨(Setting.last? Setting.rename? m.settings).getD m.name, domain,
      Setting.last? Setting.label? m.settings⟩

variable {m : DeclaredMember} {a : FieldAnnotation} {f : DeclaredField}

theorem annotation_eq_ok (h : m.toMember.annotation = .ok a) :
    a = FieldAnnotation.updated {} m.settings := by
  unfold toMember Member.annotation Declaration.annotation? at h
  unfold settings
  split at h
  · next hnone =>
    cases h
    rw [Option.map_eq_none_iff.mp hnone]
    rfl
  · cases h
  · next settings hsettings =>
    obtain ⟨⟨name?, form⟩, hfind, hform⟩ := Option.map_eq_some_iff.mp hsettings
    rw [hfind]
    cases form with
    | arguments inner =>
      dsimp only at hform ⊢
      rw [hform]
      exact FieldAnnotation.ofSettings_eq_ok h
    | word => cases hform
    | assign value? => cases hform

/-- **A member that is accepted gives the field that it declares.** -/
theorem map_toField_field? (h : m.toMember.annotation = .ok a) :
    m.toMember.field?.map DeclaredField.toField = m.field? := by
  rw [Member.field?, h]
  dsimp only
  rw [annotation_eq_ok h, Member.fieldOf?, field?]
  simp only [Option.or_none, Bool.false_or, List.contains_iff_mem, FieldAnnotation.updated]
  split_ifs
  · rfl
  · rw [Option.map_map]
    rfl

end DeclaredMember

/-- What is read as the members of a struct is kept of members as they are declared. -/
theorem exists_toMember_of_readMembers {fuel : Nat} {ts : List Declaration.Token}
    {members : List Member} (h : Declaration.readMembers fuel ts = some members) :
    ∃ declared : List DeclaredMember, declared.map DeclaredMember.toMember = members := by
  induction fuel generalizing ts members with
  | zero => cases h
  | succ fuel ih =>
    rw [Declaration.readMembers] at h
    split_ifs at h
    · cases h
      exact ⟨[], rfl⟩
    · obtain ⟨⟨attributes, rest⟩, -, h⟩ := Option.bind_eq_some_iff.mp h
      dsimp only at h
      split at h
      · next name _ _ _ =>
        split_ifs at h
        obtain ⟨behind, -, h⟩ := Option.bind_eq_some_iff.mp h
        split at h
        · cases h
          exact ⟨[⟨name, attributes⟩], rfl⟩
        · obtain ⟨more, hmore, ⟨⟩⟩ := Option.bind_eq_some_iff.mp h
          obtain ⟨declared, rfl⟩ := ih hmore
          exact ⟨⟨name, attributes⟩ :: declared, rfl⟩
        · cases h
      · cases h

/-! ## Schema and values -/

namespace RecordType

variable {r : RecordType} {id : String} (content : r.Content)

/-- The first field with an id is shown as what its member holds. -/
theorem shows_value {f : DeclaredField} (h : r.fields.find? (fun f => f.id == id) = some f) :
    f.domain.Shows (r.memberType f.member) (content f.member) (r.value content id) := by
  unfold value
  split
  · next g hg =>
    obtain rfl : g = f := Option.some.inj (hg.symm.trans h)
    exact Domain.shows_iff.mpr ⟨_, (Option.some_get _).symm, rfl⟩
  · next hnone =>
    rw [h] at hnone
    cases hnone

theorem value_eq_missing (h : r.fields.find? (fun f => f.id == id) = none) :
    r.value content id = .missing := by
  unfold value
  split
  · next g hg =>
    rw [h] at hg
    cases hg
  · rfl

end RecordType

/-- **Schema and values agree.** The schema of a struct that is accepted lists the fields that the
members declare, in order, with distinct ids. Of every record, the value under the id of a field is
what its member holds, shown as the domain wants it, and of the kind of the domain. Under every
other id there is no value. -/
theorem schema_and_values_agree {members : List DeclaredMember} {r : RecordType}
    (h : (Declaration.struct (members.map DeclaredMember.toMember)).fields = .ok r.fields) :
    (Schema.ofDeclared r.fields).fields = members.filterMap DeclaredMember.field? ∧
    (Schema.ofDeclared r.fields).ids.Nodup ∧
    ∀ content : r.Content,
      (∀ m ∈ members, ∀ f, m.field? = some f →
        f.domain.Shows (r.memberType m.name) (content m.name) (r.value content f.id) ∧
        (r.value content f.id).kind? = some f.domain.valueKind) ∧
      ∀ id ∉ (Schema.ofDeclared r.fields).ids, r.value content id = .missing := by
  obtain ⟨hanns, hfields, hnodup, -, -⟩ := declaredFields_eq_ok_iff.mp h
  rw [List.forall_mem_map] at hanns
  have hfield : ∀ m ∈ members, m.toMember.field?.map DeclaredField.toField = m.field? :=
    fun m hm => DeclaredMember.map_toField_field? (hanns m hm).choose_spec
  have hids : (Schema.ofDeclared r.fields).ids = r.fields.map (·.id) := List.map_map
  refine ⟨?_, hids ▸ hnodup, fun content => ⟨fun m hm f hf => ?_, fun id hid => ?_⟩⟩
  · rw [Schema.ofDeclared, ← hfields, List.filterMap_map, List.map_filterMap]
    exact List.filterMap_congr hfield
  · rw [← hfield m hm] at hf
    obtain ⟨d, hd, rfl⟩ := Option.map_eq_some_iff.mp hf
    have hmem : d ∈ r.fields :=
      hfields ▸ List.mem_filterMap.mpr ⟨m.toMember, List.mem_map_of_mem hm, hd⟩
    have hname : d.member = m.name := (Member.of_field?_eq_some hd).2
    have hshows := RecordType.shows_value content
      (find?_key_eq_some DeclaredField.id hnodup hmem)
    rw [hname] at hshows
    exact ⟨hshows, hshows.kind?_eq⟩
  · refine RecordType.value_eq_missing content (List.find?_eq_none.mpr fun d hd heq => hid ?_)
    rw [hids]
    exact List.mem_map.mpr ⟨d, hd, by simpa using heq⟩

/-- Members that are renamed to each other, and others that are no fields. -/
def renamedMembers : List DeclaredMember :=
  [⟨"a", [(some "doc", .assign none), (some "field", .arguments
    [.word "String", .mark ',' false, .word "rename", .mark '=' false, .text "b"])]⟩,
  ⟨"b", [(some "field", .arguments
    [.word "Number", .mark ',' false, .word "domain", .mark '=' false, .text "Date",
      .mark ',' false, .word "rename", .mark '=' false, .text "a"])]⟩,
  ⟨"c", [(some "field", .arguments [.word "skip"]), (some "field", .arguments [.word "String"])]⟩,
  ⟨"d", []⟩]

/-- The contents of the members of a record, with their types. -/
def renamedContents (name : String) : (t : MemberType) × t.Content :=
  if name = "a" then ⟨.text, "x"⟩
  else if name = "b" then ⟨.signed 64, (-1 : BitVec 64)⟩
  else ⟨.other, ()⟩

/-- The record type of the renamed members. -/
def renamedType : RecordType where
  fields := [⟨"b", "B", .string, none, "a"⟩, ⟨"a", "A", .date, none, "b"⟩]
  memberType name := (renamedContents name).1
  fits := by decide +kernel

theorem schema_and_values_agree_renamed :
    (Declaration.struct (renamedMembers.map DeclaredMember.toMember)).fields =
      .ok renamedType.fields ∧
    (Schema.ofDeclared renamedType.fields).fields = [⟨"b", .string, none⟩, ⟨"a", .date, none⟩] ∧
    let value := renamedType.value fun name => (renamedContents name).2
    Domain.Shows .string .text "x" (value "b") ∧ value "b" = .text "x" ∧
      Domain.Shows .date (.signed 64) (-1 : BitVec 64) (value "a") ∧ value "a" = .instant ⟨-1⟩ ∧
      value "c" = .missing := by
  have hfields : (Declaration.struct (renamedMembers.map DeclaredMember.toMember)).fields =
      .ok renamedType.fields := by
    decide +kernel
  have hdeclared : renamedMembers.filterMap DeclaredMember.field? =
      [⟨"b", .string, none⟩, ⟨"a", .date, none⟩] := by
    decide +kernel
  obtain ⟨hschema, -, hvalues⟩ := schema_and_values_agree hfields
  obtain ⟨hlisted, hothers⟩ := hvalues fun name => (renamedContents name).2
  have hfirst := hlisted _ List.mem_cons_self ⟨"b", .string, none⟩ (by decide +kernel)
  have hsecond := hlisted _ (List.mem_cons_of_mem _ List.mem_cons_self) ⟨"a", .date, none⟩
    (by decide +kernel)
  exact ⟨hfields, hschema.trans hdeclared, hfirst.1, by decide +kernel, hsecond.1,
    by decide +kernel, hothers "c" (by decide +kernel)⟩

end Tabular
