import Mathlib.Data.List.Nodup
import Tabular.Order.Spec
import Tabular.Proofs.Check
/-!
# Clicks on headings

A sort specification is made from keys with distinct fields and then edited (`SortSpec.Edit`): a
direction is set, a key is removed, or a heading is clicked. An additive click is one of the first
two (`SortSpec.click_additive`). Both leave the keys of the other fields alone, in their order
(`SortSpec.without_set`, `SortSpec.without_remove`), and keep the fields distinct. So the fields of
an edited specification are always distinct, and a field has its place in the list as its priority.

Three additive clicks take a field through its cycle. A field that was absent is absent again, and
the specification is what it was (`SortSpec.clickThrice_of_not_mem`). A field that was present has
been removed on the way, and is back behind the others with its direction
(`SortSpec.clickThrice_of_mem`).
-/

namespace Tabular.SortSpec

variable {s : SortSpec} {schema : Schema} {keys : List SortKey} {field other : String}
  {direction : Direction}

/-! ## Distinct fields -/

theorem firstRepeated?_eq_none_iff {before fields : List String} :
    firstRepeated? before fields = none ↔ (∀ f ∈ fields, f ∉ before) ∧ fields.Nodup := by
  induction fields generalizing before with
  | nil => simp [firstRepeated?]
  | cons field fields ih =>
    rw [firstRepeated?]
    split
    · next h => simp [List.contains_iff_mem.mp h]
    · next h =>
      have hfield : field ∉ before := fun hmem => h (List.contains_iff_mem.mpr hmem)
      rw [ih, List.nodup_cons, List.forall_mem_cons]
      constructor
      · rintro ⟨hout, hnodup⟩
        refine ⟨⟨hfield, fun f hf hmem => ?_⟩, fun hmem => ?_, hnodup⟩
        · exact hout f hf (List.mem_cons_of_mem _ hmem)
        · exact hout field hmem List.mem_cons_self
      · rintro ⟨⟨-, hout⟩, hfields, hnodup⟩
        refine ⟨fun f hf hmem => ?_, hnodup⟩
        obtain rfl | hmem := List.mem_cons.mp hmem
        · exact hfields hf
        · exact hout f hf hmem

theorem checkUnique_eq_ok_iff : s.checkUnique = .ok () ↔ s.fields.Nodup := by
  have hnone : s.fields.Nodup ↔ firstRepeated? [] s.fields = none := by
    simp [firstRepeated?_eq_none_iff]
  rw [hnone, checkUnique]
  cases firstRepeated? [] s.fields <;> simp

/-- A valid specification names a field at most once. -/
theorem nodup_fields_of_validate (h : s.validate schema = .ok ()) : s.fields.Nodup := by
  obtain ⟨⟨⟩, -, hunique⟩ := bind_eq_ok_iff.mp h
  exact checkUnique_eq_ok_iff.mp hunique

/-- **Keys make a specification when their fields are distinct.** -/
theorem ofKeys_eq_ok_iff :
    ofKeys keys = .ok s ↔ (keys.map (·.field)).Nodup ∧ ⟨keys⟩ = s := by
  rw [ofKeys, bind_eq_ok_iff]
  constructor
  · rintro ⟨⟨⟩, hunique, hs⟩
    exact ⟨checkUnique_eq_ok_iff.mp hunique, Except.ok.inj hs⟩
  · rintro ⟨hnodup, rfl⟩
    exact ⟨(), checkUnique_eq_ok_iff.mpr hnodup, rfl⟩

/-! ## Priorities -/

/-- Where fields are distinct, the priority of a field is its place in the list. -/
theorem order?_getElem (hnodup : s.fields.Nodup) {i : Nat} (hi : i < s.keys.length) :
    s.order? s.keys[i].field = some (i + 1) := by
  have hfirst : s.keys.findIdx? (fun k => k.field == s.keys[i].field) = some i := by
    rw [List.findIdx?_eq_some_iff_getElem]
    refine ⟨hi, by simp, fun j hj heq => ?_⟩
    have hlength : s.fields.length = s.keys.length := List.length_map ..
    have hi' : i < s.fields.length := by omega
    have hj' : j < s.fields.length := by omega
    have hfields : s.fields[j] = s.fields[i] := by simpa [fields] using heq
    exact absurd (hnodup.getElem_inj_iff.mp hfields) (by omega)
  rw [order?, hfirst]
  rfl

/-- **The fields are numbered from one, in the order of the list.** -/
theorem map_order?_fields (hnodup : s.fields.Nodup) :
    s.fields.map s.order? = (List.range' 1 s.keys.length).map some := by
  refine List.ext_getElem (by simp [fields]) fun i hi _ => ?_
  have hi' : i < s.keys.length := by simpa [fields] using hi
  simpa [fields, Nat.add_comm 1 i] using order?_getElem hnodup hi'

theorem order?_eq_none_iff : s.order? field = none ↔ field ∉ s.fields := by
  simp [order?, fields]

/-! ## Setting and removing -/

theorem map_field_setDirection :
    (setDirection field direction keys).map (·.field) = keys.map (·.field) := by
  induction keys with
  | nil => rfl
  | cons k keys ih =>
    rw [setDirection]
    split
    · rfl
    · rw [List.map_cons, ih, List.map_cons]

theorem setDirection_setDirection {d : Direction} :
    setDirection field direction (setDirection field d keys) =
      setDirection field direction keys := by
  induction keys with
  | nil => rfl
  | cons k keys ih => by_cases hk : k.field = field <;> simp [setDirection, hk, ih]

/-- Keys of other fields in front are passed over. -/
theorem setDirection_append (h : field ∉ keys.map (·.field)) (more : List SortKey) :
    setDirection field direction (keys ++ more) = keys ++ setDirection field direction more := by
  induction keys with
  | nil => rfl
  | cons k keys ih =>
    have hk : k.field ≠ field := fun heq => h (heq ▸ List.mem_cons_self)
    have hrest : field ∉ keys.map (·.field) := fun hmem => h (List.mem_cons_of_mem _ hmem)
    simp [setDirection, hk, ih hrest]

theorem find?_setDirection (h : field ∈ keys.map (·.field)) :
    (setDirection field direction keys).find? (fun k => k.field == field) =
      some ⟨field, direction⟩ := by
  induction keys with
  | nil => cases h
  | cons k keys ih =>
    by_cases hk : k.field = field
    · simp [setDirection, hk]
    · have hrest : field ∈ keys.map (·.field) := by simpa [Ne.symm hk] using h
      simpa [setDirection, hk] using ih hrest

theorem eraseP_setDirection :
    (setDirection field direction keys).eraseP (fun k => k.field == field) =
      keys.eraseP (fun k => k.field == field) := by
  induction keys with
  | nil => rfl
  | cons k keys ih => by_cases hk : k.field = field <;> simp [setDirection, hk, ih]

theorem filter_setDirection :
    (setDirection field direction keys).filter (·.field ≠ field) =
      keys.filter (·.field ≠ field) := by
  induction keys with
  | nil => rfl
  | cons k keys ih =>
    rw [setDirection]
    split
    · next hk => simp [eq_of_beq hk]
    · rw [List.filter_cons, ih, List.filter_cons]

/-- The keys of the other fields. -/
def without (s : SortSpec) (field : String) : List SortKey := s.keys.filter (·.field ≠ field)

theorem direction?_eq_none_iff : s.direction? field = none ↔ field ∉ s.fields := by
  simp [direction?, key?, fields]

theorem mem_fields_of_direction? (h : s.direction? field = some direction) : field ∈ s.fields := by
  by_contra hnot
  rw [direction?_eq_none_iff.mpr hnot] at h
  cases h

theorem set_of_mem (h : field ∈ s.fields) :
    s.set field direction = ⟨setDirection field direction s.keys⟩ := by
  have hsome : (s.direction? field).isSome := by
    rw [Option.isSome_iff_ne_none, ne_eq, direction?_eq_none_iff]
    exact not_not_intro h
  rw [set, if_pos hsome]

theorem set_of_not_mem (h : field ∉ s.fields) :
    s.set field direction = ⟨s.keys ++ [⟨field, direction⟩]⟩ := by
  rw [set, direction?_eq_none_iff.mpr h]
  rfl

/-- Setting a direction keeps the fields, and puts a new one behind them. -/
theorem fields_set :
    (s.set field direction).fields =
      if field ∈ s.fields then s.fields else s.fields ++ [field] := by
  split
  · next h =>
    rw [set_of_mem h]
    exact map_field_setDirection
  · next h =>
    rw [set_of_not_mem h]
    exact List.map_append

theorem mem_fields_set : field ∈ (s.set field direction).fields := by
  rw [fields_set]
  split
  · assumption
  · exact List.mem_append_right _ (List.mem_singleton_self _)

theorem nodup_fields_set (h : s.fields.Nodup) : (s.set field direction).fields.Nodup := by
  rw [fields_set]
  split
  · exact h
  · next hnot => exact h.append (List.nodup_singleton _) (by simpa using hnot)

theorem without_set : (s.set field direction).without field = s.without field := by
  by_cases h : field ∈ s.fields
  · rw [set_of_mem h]
    exact filter_setDirection
  · rw [set_of_not_mem h]
    simp [without]

theorem direction?_set : (s.set field direction).direction? field = some direction := by
  by_cases h : field ∈ s.fields
  · rw [set_of_mem h, direction?, key?, find?_setDirection h]
    rfl
  · have hnone : s.keys.find? (fun k => k.field == field) = none := by
      simpa [fields] using h
    rw [set_of_not_mem h, direction?, key?, List.find?_append, hnone]
    simp

/-- Of two directions set one after the other, the second counts. -/
theorem set_set {d : Direction} : (s.set field d).set field direction = s.set field direction := by
  rw [set_of_mem mem_fields_set]
  by_cases h : field ∈ s.fields
  · rw [set_of_mem h, set_of_mem h, setDirection_setDirection]
  · rw [set_of_not_mem h, set_of_not_mem h, setDirection_append h]
    simp [setDirection]

theorem fields_remove : (s.remove field).fields = s.fields.erase field := by
  have hcomp : (fun f => field == f) ∘ SortKey.field = fun k => k.field == field :=
    funext fun k => Bool.beq_comm
  rw [fields, fields, List.erase_eq_eraseP, List.eraseP_map, hcomp]
  rfl

theorem nodup_fields_remove (h : s.fields.Nodup) : (s.remove field).fields.Nodup := by
  rw [fields_remove]
  exact h.erase field

theorem not_mem_fields_remove (h : s.fields.Nodup) : field ∉ (s.remove field).fields := by
  rw [fields_remove]
  exact h.not_mem_erase

theorem without_remove : (s.remove field).without field = s.without field := by
  unfold without remove
  induction s.keys with
  | nil => rfl
  | cons k keys ih => by_cases hk : k.field = field <;> simp_all

/-- Where fields are distinct, removing a field leaves the keys of the others. -/
theorem keys_remove (h : s.fields.Nodup) : (s.remove field).keys = s.without field := by
  rw [← without_remove, without, List.filter_eq_self.mpr]
  intro k hk
  have hne : k.field ≠ field := fun heq =>
    not_mem_fields_remove h (heq ▸ List.mem_map_of_mem hk)
  simpa using hne

/-- A field that was set last is removed with the direction it was set to. -/
theorem remove_set_of_mem (h : field ∈ s.fields) :
    (s.set field direction).remove field = s.remove field := by
  rw [set_of_mem h, remove, eraseP_setDirection]
  rfl

theorem remove_set_of_not_mem (h : field ∉ s.fields) :
    (s.set field direction).remove field = s := by
  have hnone : ∀ k ∈ s.keys, ¬ (k.field == field) = true := by simpa [fields] using h
  rw [set_of_not_mem h, remove, List.eraseP_append_right _ hnone]
  simp

/-! ## Clicks -/

/-- **An additive click sets a direction or removes the key**, as the direction before says. -/
theorem click_additive (s : SortSpec) (field : String) :
    s.click field true =
      match s.direction? field with
      | none => s.set field .ascending
      | some .ascending => s.set field .descending
      | some .descending => s.remove field := by
  cases hdir : s.direction? field with
  | none =>
    rw [set_of_not_mem (direction?_eq_none_iff.mp hdir), click, if_pos rfl, hdir]
  | some d => cases d <;> rw [click, if_pos rfl, hdir]

/-- An additive click leaves the keys of the other fields alone. -/
theorem without_click : (s.click field true).without field = s.without field := by
  rw [click_additive]
  split
  · exact without_set
  · exact without_set
  · exact without_remove

/-- **A plain click leaves one key**, and turns an ascending field over. -/
theorem click_plain (s : SortSpec) (field : String) :
    ∃ d, (s.click field false).keys = [⟨field, d⟩] ∧
      (d = .descending ↔ s.direction? field = some .ascending) := by
  cases hdir : s.direction? field with
  | none => exact ⟨.ascending, by simp [click, hdir, only], by simp⟩
  | some d =>
    cases d with
    | ascending => exact ⟨.descending, by simp [click, hdir, only], by simp⟩
    | descending => exact ⟨.ascending, by simp [click, hdir, only], by simp⟩

/-- The specification after three additive clicks on one heading. -/
def clickThrice (s : SortSpec) (field : String) : SortSpec :=
  ((s.click field true).click field true).click field true

/-- **Three additive clicks on an absent field change nothing.** -/
theorem clickThrice_of_not_mem (h : field ∉ s.fields) : s.clickThrice field = s := by
  have hfirst : s.click field true = s.set field .ascending := by
    rw [click_additive, direction?_eq_none_iff.mpr h]
  have hsecond : (s.set field .ascending).click field true = s.set field .descending := by
    rw [click_additive, direction?_set]
    exact set_set
  have hthird : (s.set field .descending).click field true = s := by
    rw [click_additive, direction?_set]
    exact remove_set_of_not_mem h
  rw [clickThrice, hfirst, hsecond, hthird]

/-- **Three additive clicks on a present field bring it behind the others**, with its direction. -/
theorem clickThrice_of_mem (hnodup : s.fields.Nodup) (h : s.direction? field = some direction) :
    (s.clickThrice field).keys = s.without field ++ [⟨field, direction⟩] := by
  have habsent : field ∉ (s.remove field).fields := not_mem_fields_remove hnodup
  have hreturn : (s.remove field).click field true = (s.remove field).set field .ascending := by
    rw [click_additive, direction?_eq_none_iff.mpr habsent]
  have hback : s.clickThrice field = (s.remove field).set field direction := by
    cases direction with
    | ascending =>
      have hfirst : s.click field true = s.set field .descending := by rw [click_additive, h]
      have hsecond : (s.set field .descending).click field true = s.remove field := by
        rw [click_additive, direction?_set]
        exact remove_set_of_mem (mem_fields_of_direction? h)
      rw [clickThrice, hfirst, hsecond, hreturn]
    | descending =>
      have hfirst : s.click field true = s.remove field := by rw [click_additive, h]
      have hthird : ((s.remove field).set field .ascending).click field true =
          (s.remove field).set field .descending := by
        rw [click_additive, direction?_set]
        exact set_set
      rw [clickThrice, hfirst, hreturn, hthird]
  rw [hback, set_of_not_mem habsent, ← keys_remove hnodup]

/-! ## Edited specifications -/

/-- A change to a sort specification. -/
inductive Edit where
  | set (field : String) (direction : Direction)
  | remove (field : String)
  /-- A click on the heading of a field, plain or additive. -/
  | click (field : String) (additive : Bool)

/-- The specification after a change. -/
def edit (s : SortSpec) : Edit → SortSpec
  | .set field direction => s.set field direction
  | .remove field => s.remove field
  | .click field additive => s.click field additive

/-- The specification after a list of changes. -/
def edited (s : SortSpec) (edits : List Edit) : SortSpec := edits.foldl edit s

theorem nodup_fields_click (h : s.fields.Nodup) (field : String) (additive : Bool) :
    (s.click field additive).fields.Nodup := by
  cases additive with
  | false =>
    obtain ⟨d, hkeys, -⟩ := s.click_plain field
    rw [fields, hkeys]
    exact List.nodup_singleton _
  | true =>
    rw [click_additive]
    split
    · exact nodup_fields_set h
    · exact nodup_fields_set h
    · exact nodup_fields_remove h

/-- A change keeps the fields distinct. -/
theorem nodup_fields_edit (h : s.fields.Nodup) (e : Edit) : (s.edit e).fields.Nodup := by
  cases e with
  | set field direction => exact nodup_fields_set h
  | remove field => exact nodup_fields_remove h
  | click field additive => exact nodup_fields_click h field additive

theorem nodup_fields_edited (h : s.fields.Nodup) (edits : List Edit) :
    (s.edited edits).fields.Nodup := by
  induction edits generalizing s with
  | nil => exact h
  | cons e edits ih => exact ih (nodup_fields_edit h e)

/-- **A sort specification stays in order** under any changes to one that is made from keys: its
fields are distinct and numbered from one as they stand in the list; an additive click does not
touch the keys of other fields; three of them change nothing when the field is absent, and bring it
behind the others with its direction when it is present; and a plain click leaves the field alone,
descending when it was ascending before. -/
theorem edited_keeps_order (h : ofKeys keys = .ok s) (edits : List Edit) (field : String) :
    let t := s.edited edits
    t.fields.Nodup ∧
    t.fields.map t.order? = (List.range' 1 t.keys.length).map some ∧
    (∀ other, t.order? other = none ↔ other ∉ t.fields) ∧
    (t.click field true).without field = t.without field ∧
    (field ∉ t.fields → t.clickThrice field = t) ∧
    (∀ d, t.direction? field = some d →
      (t.clickThrice field).keys = t.without field ++ [⟨field, d⟩]) ∧
    ∃ d, (t.click field false).keys = [⟨field, d⟩] ∧
      (d = .descending ↔ t.direction? field = some .ascending) := by
  intro t
  obtain ⟨hkeys, rfl⟩ := ofKeys_eq_ok_iff.mp h
  have hnodup : t.fields.Nodup := nodup_fields_edited hkeys edits
  exact ⟨hnodup, map_order?_fields hnodup, fun _ => order?_eq_none_iff, without_click,
    clickThrice_of_not_mem, fun _ => clickThrice_of_mem hnodup, t.click_plain field⟩

/-- A third field is clicked and a direction set. Then the first field is taken through its cycle,
and a field that is absent. -/
theorem edited_keeps_order_three_fields :
    ∃ s, ofKeys [⟨"a", .ascending⟩, ⟨"b", .descending⟩] = .ok s ∧
      let t := s.edited [.click "c" true, .set "b" .ascending]
      (t.clickThrice "a").keys = [⟨"b", .ascending⟩, ⟨"c", .ascending⟩, ⟨"a", .ascending⟩] ∧
      t.clickThrice "d" = t := by
  have hkeys : ofKeys [⟨"a", .ascending⟩, ⟨"b", .descending⟩] = .ok _ := rfl
  have hedited := edited_keeps_order hkeys [.click "c" true, .set "b" .ascending]
  obtain ⟨-, -, -, -, -, hpresent, -⟩ := hedited "a"
  obtain ⟨-, -, -, -, habsent, -⟩ := hedited "d"
  exact ⟨_, hkeys, hpresent .ascending rfl, habsent (by decide)⟩

end Tabular.SortSpec
