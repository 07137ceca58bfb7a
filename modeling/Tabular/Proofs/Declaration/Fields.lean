import Tabular.Proofs.Check
import Tabular.Proofs.Declaration.Constant
/-!
# The fields of a declaration

`declaredFields` reads members one after the other and stops at the first that something is wrong
with. Here it is described as a whole: when members give fields and which
(`declaredFields_eq_ok_iff`), and when they are refused for the name of a constant
(`declaredFields_eq_invalidConstant_iff`).

Ids are checked to be distinct before the names of the constants are made from them. Distinct ids
can have one constant, and an id can have none (`constants_of_struct`).
-/

namespace Tabular

open Text

namespace Member

/-- The field that a member gives with an annotation, if any. -/
def fieldOf? (m : Member) (a : FieldAnnotation) : Option DeclaredField :=
  if a.skip then none
  else a.domain?.map fun domain =>
    let id := a.rename?.getD m.name
    ⟨id, String.ofList (constantName false id.toList), domain, a.label?, m.name⟩

/-- The field that a member gives. A member whose annotation is refused gives none. -/
def field? (m : Member) : Option DeclaredField :=
  match m.annotation with
  | .ok a => m.fieldOf? a
  | .error _ => none

end Member

variable {m : Member} {a : FieldAnnotation} {f : DeclaredField} {taken : List String}
  {members : List Member} {fields : List DeclaredField}

/-! ## One member after the other -/

/-- A member that gives no field is passed over. Otherwise its id must not be taken, its constant
must be an identifier, and the id is taken from there on. -/
theorem declaredFields_cons (taken : List String) (m : Member) (rest : List Member) :
    declaredFields taken (m :: rest) = m.annotation >>= fun a =>
      match m.fieldOf? a with
      | none => declaredFields taken rest
      | some f =>
        if f.id ∈ taken then .error (.duplicateId f.id)
        else if isIdentifier f.constant.toList then
          declaredFields (f.id :: taken) rest >>= fun fields => .ok (f :: fields)
        else .error (.invalidConstant f.constant) := by
  rw [declaredFields]
  congr 1
  funext a
  rcases a with ⟨domain?, skip, rename?, label?⟩
  cases skip <;> cases domain? <;> try rfl
  simp only [Member.fieldOf?, Bool.false_eq_true, if_false, Option.map_some,
    List.contains_iff_mem, String.toList_ofList]
  by_cases htaken : rename?.getD m.name ∈ taken
  · rw [if_pos htaken, if_pos htaken]
    rfl
  · rw [if_neg htaken, if_neg htaken]
    cases isIdentifier (constantName false (rename?.getD m.name).toList) <;> rfl

theorem declaredFields_cons_of_none (ha : m.annotation = .ok a) (hf : m.fieldOf? a = none) :
    declaredFields taken (m :: members) = declaredFields taken members := by
  rw [declaredFields_cons, ha, ok_bind, hf]

theorem declaredFields_cons_of_some (ha : m.annotation = .ok a) (hf : m.fieldOf? a = some f) :
    declaredFields taken (m :: members) =
      if f.id ∈ taken then .error (.duplicateId f.id)
      else if isIdentifier f.constant.toList then
        declaredFields (f.id :: taken) members >>= fun fields => .ok (f :: fields)
      else .error (.invalidConstant f.constant) := by
  rw [declaredFields_cons, ha, ok_bind, hf]

theorem declaredFields_cons_of_some_eq_ok_iff (ha : m.annotation = .ok a)
    (hf : m.fieldOf? a = some f) :
    declaredFields taken (m :: members) = .ok fields ↔
      ∃ more, f :: more = fields ∧ f.id ∉ taken ∧ isIdentifier f.constant.toList = true ∧
        declaredFields (f.id :: taken) members = .ok more := by
  rw [declaredFields_cons_of_some ha hf]
  split_ifs with htaken hident
  · simp [htaken]
  · simp [bind_eq_ok_iff, htaken, hident, and_comm]
  · simp [hident]

/-- **Members give fields** when no annotation is refused, the ids are distinct and not taken, and
the constants are identifiers. These are then the fields of the members one after the other. -/
theorem declaredFields_eq_ok_iff :
    declaredFields taken members = .ok fields ↔
      (∀ m ∈ members, ∃ a, m.annotation = .ok a) ∧ members.filterMap Member.field? = fields ∧
        (fields.map (·.id)).Nodup ∧ (∀ f ∈ fields, f.id ∉ taken) ∧
          ∀ f ∈ fields, isIdentifier f.constant.toList = true := by
  induction members generalizing taken fields with
  | nil =>
    simp only [declaredFields, Except.ok.injEq, List.filterMap_nil, List.not_mem_nil,
      false_implies, implies_true, true_and]
    refine ⟨?_, And.left⟩
    rintro rfl
    simp
  | cons m rest ih =>
    rw [List.forall_mem_cons, List.filterMap_cons, Member.field?]
    cases ha : m.annotation with
    | error err => simp [declaredFields_cons, ha, bind_eq_ok_iff]
    | ok a =>
      dsimp only
      cases hf : m.fieldOf? a with
      | none => simpa [declaredFields_cons_of_none ha hf] using ih
      | some f =>
        -- the ids behind a field are distinct from its own, since it takes it
        rw [declaredFields_cons_of_some_eq_ok_iff ha hf]
        simp only [ih, List.mem_cons, not_or]
        constructor
        · rintro ⟨more, rfl, htaken, hident, hanns, rfl, hnodup, hfree, hidents⟩
          refine ⟨⟨⟨a, rfl⟩, hanns⟩, rfl, List.nodup_cons.mpr ⟨?_, hnodup⟩, ?_, ?_⟩
          · rw [List.mem_map]
            exact fun ⟨g, hg, heq⟩ => (hfree g hg).1 heq
          · exact List.forall_mem_cons.mpr ⟨htaken, fun g hg => (hfree g hg).2⟩
          · exact List.forall_mem_cons.mpr ⟨hident, hidents⟩
        · rintro ⟨⟨-, hanns⟩, rfl, hnodup, hfree, hidents⟩
          obtain ⟨hnew, hnodup⟩ := List.nodup_cons.mp hnodup
          obtain ⟨htaken, hfree⟩ := List.forall_mem_cons.mp hfree
          obtain ⟨hident, hidents⟩ := List.forall_mem_cons.mp hidents
          refine ⟨_, rfl, htaken, hident, hanns, rfl, hnodup, fun g hg => ⟨?_, hfree g hg⟩, hidents⟩
          exact fun heq => hnew (List.mem_map.mpr ⟨g, hg, heq⟩)

/-! ## Constants that are refused -/

/-- Whether the error is that a constant would have a name that is none. -/
def DeclarationError.isInvalidConstant : DeclarationError → Bool
  | invalidConstant _ => true
  | _ => false

theorem Domain.failsWith_ofSetting (name : String) :
    failsWith DeclarationError.isInvalidConstant (Domain.ofSetting name) = false := by
  unfold Domain.ofSetting
  split <;> rfl

namespace FieldAnnotation

theorem failsWith_text (setting : String) (value? : Option String) :
    failsWith DeclarationError.isInvalidConstant (text setting value?) = false := by
  cases value? <;> rfl

theorem failsWith_add (a : FieldAnnotation) (s : Setting) :
    failsWith DeclarationError.isInvalidConstant (a.add s) = false := by
  unfold add
  split <;> try rfl
  · exact failsWith_bind_eq_false (Domain.failsWith_ofSetting _) fun _ _ => rfl
  · exact failsWith_bind_eq_false (failsWith_text ..) fun _ _ => rfl
  · exact failsWith_bind_eq_false (failsWith_text ..) fun _ _ => rfl
  · exact failsWith_bind_eq_false (failsWith_text ..) fun _ _ =>
      failsWith_bind_eq_false (Domain.failsWith_ofSetting _) fun _ _ => rfl

end FieldAnnotation

/-- What is wrong with an annotation is not the name of a constant. -/
theorem Member.failsWith_annotation (m : Member) :
    failsWith DeclarationError.isInvalidConstant m.annotation = false := by
  unfold annotation
  split
  · rfl
  · rfl
  · refine failsWith_bind_eq_false ?_ fun a _ => by split <;> rfl
    exact failsWith_foldlM_eq_false FieldAnnotation.failsWith_add ..

theorem declaredFields_append (taken : List String) (before after : List Member) :
    declaredFields taken (before ++ after) = declaredFields taken before >>= fun fields =>
      declaredFields ((fields.map (·.id)).reverse ++ taken) after >>= fun more =>
        .ok (fields ++ more) := by
  induction before generalizing taken with
  | nil =>
    change declaredFields taken after = declaredFields taken after >>= fun more => .ok more
    cases declaredFields taken after <;> rfl
  | cons m before ih =>
    rw [List.cons_append, declaredFields_cons, declaredFields_cons, bind_assoc]
    congr 1
    funext a
    cases m.fieldOf? a with
    | none => exact ih taken
    | some f =>
      dsimp only
      split_ifs
      · rfl
      · rw [ih, bind_assoc, bind_assoc]
        congr 1
        funext fields
        change _ = declaredFields ((f.id :: fields.map (·.id)).reverse ++ taken) after >>= _
        rw [List.reverse_cons, List.append_assoc, List.singleton_append, bind_assoc]
        rfl
      · rfl

/-- **A constant is refused** at the first member that something is wrong with, when its id is new
and its constant is no identifier. -/
theorem declaredFields_eq_invalidConstant_iff {name : String} :
    declaredFields taken members = .error (.invalidConstant name) ↔
      ∃ before m after fields f, members = before ++ m :: after ∧
        declaredFields taken before = .ok fields ∧ m.field? = some f ∧ f.id ∉ taken ∧
          f.id ∉ fields.map (·.id) ∧ isIdentifier f.constant.toList = false ∧ f.constant = name := by
  constructor
  · intro h
    induction members generalizing taken with
    | nil => cases h
    | cons m rest ih =>
      rw [declaredFields_cons, bind_eq_error_iff] at h
      rcases h with hrefused | ⟨a, ha, h⟩
      · have := m.failsWith_annotation
        rw [hrefused] at this
        cases this
      · have hfield : m.field? = m.fieldOf? a := by rw [Member.field?, ha]
        split at h
        · next hnone =>
          obtain ⟨before, m', after, fields, f, rfl, hfields, hrest⟩ := ih h
          refine ⟨m :: before, m', after, fields, f, rfl, ?_, hrest⟩
          rw [declaredFields_cons_of_none ha hnone]
          exact hfields
        · next f hf =>
          split_ifs at h with htaken hident
          · cases h
          · obtain h | ⟨_, -, ⟨⟩⟩ := bind_eq_error_iff.mp h
            obtain ⟨before, m', after, fields, g, rfl, hfields, hg, hfree, hnew, hrest⟩ := ih h
            rw [List.mem_cons, not_or] at hfree
            refine ⟨m :: before, m', after, f :: fields, g, rfl, ?_, hg, hfree.2, ?_, hrest⟩
            · exact (declaredFields_cons_of_some_eq_ok_iff ha hf).mpr
                ⟨fields, rfl, htaken, hident, hfields⟩
            · rw [List.map_cons, List.mem_cons, not_or]
              exact ⟨hfree.1, hnew⟩
          · cases h
            exact ⟨[], m, rest, [], f, rfl, rfl, hfield.trans hf, htaken, List.not_mem_nil,
              Bool.eq_false_iff.mpr hident, rfl⟩
  · rintro ⟨before, m, after, fields, f, rfl, hfields, hf, hfree, hnew, hident, rfl⟩
    have htaken : f.id ∉ (fields.map (·.id)).reverse ++ taken := by
      simpa [hfree] using hnew
    cases ha : m.annotation with
    | error err => simp [Member.field?, ha] at hf
    | ok a =>
      replace hf : m.fieldOf? a = some f := by rwa [Member.field?, ha] at hf
      have hrefused : declaredFields ((fields.map (·.id)).reverse ++ taken) (m :: after) =
          .error (.invalidConstant f.constant) := by
        rw [declaredFields_cons_of_some ha hf, if_neg htaken, if_neg (by simp [hident])]
      rw [declaredFields_append, hfields, ok_bind, hrefused]
      rfl

/-! ## The constants of a struct -/

/-- The constant of a field is named by its id, and its value is that of its member. -/
theorem Member.of_field?_eq_some (h : m.field? = some f) :
    f.constant = String.ofList (constantName false f.id.toList) ∧ f.member = m.name := by
  unfold field? at h
  split at h
  · next a _ =>
    unfold fieldOf? at h
    split_ifs at h
    obtain ⟨domain, -, rfl⟩ := Option.map_eq_some_iff.mp h
    exact ⟨rfl, rfl⟩
  · cases h

section Constants

variable (hconstant : ∀ f ∈ fields, f.constant = String.ofList (constantName false f.id.toList))
include hconstant

/-- Constants are distinct when the ids are distinct in snake case. -/
theorem nodup_constants_iff :
    (fields.map (·.constant)).Nodup ↔ (fields.map fun f => snakeName false f.id.toList).Nodup := by
  simp only [List.Nodup, List.pairwise_map]
  refine List.Pairwise.iff_of_mem fun {f g} hf hg => not_congr ?_
  rw [hconstant f hf, hconstant g hg, String.ofList_inj, constantName_eq_iff]

theorem nodup_constants_of_isSnake (hsnake : ∀ f ∈ fields, isSnake f.id.toList = true)
    (hnodup : (fields.map (·.id)).Nodup) : (fields.map (·.constant)).Nodup := by
  rw [nodup_constants_iff hconstant]
  simp only [List.Nodup, List.pairwise_map] at hnodup ⊢
  refine hnodup.imp_of_mem fun {f g} hf hg hne heq => hne ?_
  rw [snakeName_of_isSnake (hsnake f hf), snakeName_of_isSnake (hsnake g hg)] at heq
  exact String.toList_inj.mp heq

end Constants

/-- **Which constants a struct has.** The constants of the fields that a struct gives are
identifiers, and no words of the language unless an id is a single dot, dash or underscore. They are
distinct when the ids differ in snake case, so always when these are in snake case already. But a
constant is refused, and with it the struct, at the first member that something is wrong with, when
its id is new and is no identifier with underscores for its dots and dashes. -/
theorem constants_of_struct (members : List Member) :
    (∀ fields, (Declaration.struct members).fields = .ok fields →
      (∀ f ∈ fields, isIdentifier f.constant.toList = true ∧
        (f.constant ∈ Declaration.keywords ↔ f.id ∈ ["_", "-", "."])) ∧
      ((fields.map (·.constant)).Nodup ↔ (fields.map fun f => snakeName false f.id.toList).Nodup) ∧
      ((∀ f ∈ fields, isSnake f.id.toList = true) → (fields.map (·.constant)).Nodup)) ∧
    ((∃ name, (Declaration.struct members).fields = .error (.invalidConstant name)) ↔
      ∃ before m after fields f, members = before ++ m :: after ∧
        (Declaration.struct before).fields = .ok fields ∧ m.field? = some f ∧
          f.id ∉ fields.map (·.id) ∧ isIdentifier (f.id.toList.map underscored) = false) := by
  constructor
  · intro fields h
    obtain ⟨-, rfl, hnodup, -, hidents⟩ := declaredFields_eq_ok_iff.mp h
    have hconstant : ∀ f ∈ members.filterMap Member.field?,
        f.constant = String.ofList (constantName false f.id.toList) := by
      intro f hf
      obtain ⟨m, -, hm⟩ := List.mem_filterMap.mp hf
      exact (Member.of_field?_eq_some hm).1
    refine ⟨fun f hf => ⟨hidents f hf, ?_⟩, nodup_constants_iff hconstant, fun hsnake => ?_⟩
    · rw [hconstant f hf, constantName_mem_keywords_iff]
    · exact nodup_constants_of_isSnake hconstant hsnake hnodup
  · have hrefused {m : Member} {f : DeclaredField} (hf : m.field? = some f) :
        isIdentifier f.constant.toList = isIdentifier (f.id.toList.map underscored) := by
      rw [(Member.of_field?_eq_some hf).1, String.toList_ofList, isIdentifier_constantName]
    simp only [Declaration.fields, declaredFields_eq_invalidConstant_iff]
    constructor
    · rintro ⟨name, before, m, after, fields, f, hsplit, hfields, hf, -, hnew, hident, -⟩
      exact ⟨before, m, after, fields, f, hsplit, hfields, hf, hnew, hrefused hf ▸ hident⟩
    · rintro ⟨before, m, after, fields, f, hsplit, hfields, hf, hnew, hident⟩
      exact ⟨f.constant, before, m, after, fields, f, hsplit, hfields, hf, List.not_mem_nil, hnew,
        (hrefused hf).trans hident, rfl⟩

/-- Two members of a struct can have one constant, and a member can have none, though nothing else
is wrong with either struct. -/
theorem constants_collide_or_fail :
    (Declaration.struct [⟨"aB", some (some [.word "String"])⟩,
      ⟨"a_b", some (some [.word "String"])⟩]).fields =
        .ok [⟨"aB", "A_B", .string, none, "aB"⟩, ⟨"a_b", "A_B", .string, none, "a_b"⟩] ∧
    (Declaration.struct [⟨"r#type", some (some [.word "String"])⟩]).fields =
      .error (.invalidConstant "R#TYPE") := by
  decide +kernel

end Tabular
