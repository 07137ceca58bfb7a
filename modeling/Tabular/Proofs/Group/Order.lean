import Tabular.Group.Order
import Tabular.Proofs.Order.Click
/-!
# Sorting for groups

A grouping sorts by its fields first: each in the direction that the sort specification gives it
(`SortSpec.leadingKeys`), and then by the keys of the other fields (`SortSpec.remainingKeys`).

A specification that begins with the group fields is made of just these two
(`SortSpec.leadingKeys_append_remainingKeys`). Then the three relations of a grouping to the sort
agree (`GroupOrder.sortKeys_of_prefix`), and a strict one accepts no other specification
(`GroupOrder.sortKeys_strict_eq_ok_iff`). What prepending the group fields gives is such a
specification, when they are distinct, so that prepending them again changes nothing
(`GroupOrder.sortKeys_agree`).
-/

namespace Tabular

variable {sort : SortSpec} {groups : List String} {keys : List SortKey} {mode : GroupOrder}

namespace SortSpec

/-- The key by which a grouping sorts at one of its fields. -/
def leadingKey (s : SortSpec) (field : String) : SortKey :=
  ⟨field, (s.direction? field).getD .ascending⟩

/-- The keys by which a grouping sorts first. -/
def leadingKeys (s : SortSpec) (groups : List String) : List SortKey := groups.map s.leadingKey

/-- The keys by which a grouping sorts behind those of its fields. -/
def remainingKeys (s : SortSpec) (groups : List String) : List SortKey :=
  s.keys.filter (·.field ∉ groups)

theorem leadingKey_field {s : SortSpec} {k : SortKey} (hnodup : s.fields.Nodup) (hk : k ∈ s.keys) :
    s.leadingKey k.field = k := by
  rw [leadingKey, direction?, key?, find?_key_eq_some SortKey.field hnodup hk]
  rfl

theorem map_field_leadingKeys : (sort.leadingKeys groups).map (·.field) = groups := by
  simp [leadingKeys, leadingKey, Function.comp_def]

/-- A specification that begins with the group fields begins with their keys. -/
theorem exists_keys_eq_append (hnodup : sort.fields.Nodup) (hbegins : groups <+: sort.fields) :
    ∃ more, sort.keys = sort.leadingKeys groups ++ more := by
  obtain ⟨rest, hrest⟩ := hbegins
  obtain ⟨leading, more, hkeys, rfl, -⟩ := List.map_eq_append_iff.mp hrest.symm
  refine ⟨more, ?_⟩
  have hleading : ∀ k ∈ leading, (sort.leadingKey ∘ (·.field)) k = id k := fun k hk =>
    leadingKey_field hnodup (hkeys ▸ List.mem_append_left more hk)
  rw [leadingKeys, List.map_map, List.map_congr_left hleading, List.map_id, hkeys]

/-- **A specification that begins with the group fields is made of their keys and the others.** -/
theorem leadingKeys_append_remainingKeys (hnodup : sort.fields.Nodup)
    (hbegins : groups <+: sort.fields) :
    sort.leadingKeys groups ++ sort.remainingKeys groups = sort.keys := by
  obtain ⟨more, hkeys⟩ := exists_keys_eq_append hnodup hbegins
  have hfields : sort.fields = groups ++ more.map (·.field) := by
    rw [fields, hkeys, List.map_append, map_field_leadingKeys]
  have hdisjoint := (List.nodup_append'.mp (hfields ▸ hnodup)).2.2
  have hleading : (sort.leadingKeys groups).filter (·.field ∉ groups) = [] := by
    refine List.filter_eq_nil_iff.mpr fun k hk => ?_
    have hmem : k.field ∈ (sort.leadingKeys groups).map (·.field) := List.mem_map_of_mem hk
    rw [map_field_leadingKeys] at hmem
    simpa using hmem
  have hmore : more.filter (·.field ∉ groups) = more := by
    refine List.filter_eq_self.mpr fun k hk => ?_
    have hnot : k.field ∉ groups := fun hmem => hdisjoint hmem (List.mem_map_of_mem hk)
    simpa using hnot
  rw [remainingKeys, hkeys, List.filter_append, hleading, hmore, List.nil_append]

/-- No key is lost. -/
theorem mem_leadingKeys_append (hnodup : sort.fields.Nodup) {k : SortKey} (hk : k ∈ sort.keys) :
    k ∈ sort.leadingKeys groups ++ sort.remainingKeys groups := by
  by_cases hmem : k.field ∈ groups
  · refine List.mem_append_left _ (List.mem_map.mpr ⟨k.field, hmem, ?_⟩)
    exact leadingKey_field hnodup hk
  · exact List.mem_append_right _ (List.mem_filter.mpr ⟨hk, by simpa using hmem⟩)

/-- Behind distinct group fields, the fields of a specification are distinct. -/
theorem nodup_fields_leadingKeys_append (hnodup : sort.fields.Nodup) (hgroups : groups.Nodup) :
    ((sort.leadingKeys groups ++ sort.remainingKeys groups).map (·.field)).Nodup := by
  rw [List.map_append, map_field_leadingKeys]
  have hremaining : ((sort.remainingKeys groups).map (·.field)).Nodup :=
    hnodup.sublist (List.filter_sublist.map _)
  refine hgroups.append hremaining fun field hfield hmem => ?_
  obtain ⟨k, hk, rfl⟩ := List.mem_map.mp hmem
  have hnot : k.field ∉ groups := by simpa using (List.mem_filter.mp hk).2
  exact hnot hfield

end SortSpec

namespace GroupOrder

/-- The sort fields begin with the group fields exactly when the check passes. -/
theorem checkLeading_eq_ok_iff {position : Nat} {groups fields : List String} :
    checkLeading position groups fields = .ok () ↔ groups <+: fields := by
  induction groups generalizing position fields with
  | nil => simp [checkLeading]
  | cons g groups ih =>
    cases fields with
    | nil => simp [checkLeading]
    | cons f fields =>
      rw [checkLeading, List.cons_prefix_cons]
      split
      · next h => simp [ih, h]
      · next h => simp [Ne.symm h]

theorem sortKeys_strict_eq_ok_iff :
    strict.sortKeys sort groups = .ok keys ↔ groups <+: sort.fields ∧ sort.keys = keys := by
  rw [← @checkLeading_eq_ok_iff 1, sortKeys]
  cases checkLeading 1 groups sort.fields <;> simp [Except.map]

theorem sortKeys_prepend (sort : SortSpec) (groups : List String) :
    prepend.sortKeys sort groups =
      .ok (sort.leadingKeys groups ++ sort.remainingKeys groups) := by
  simp [sortKeys, SortSpec.leadingKeys, SortSpec.leadingKey, SortSpec.remainingKeys]

/-- **A grouping sorts by its fields first**, in the directions of the sort specification. -/
theorem exists_leadingKeys_append (hmode : mode ≠ .unchecked) (hnodup : sort.fields.Nodup)
    (h : mode.sortKeys sort groups = .ok keys) :
    ∃ more, keys = sort.leadingKeys groups ++ more := by
  cases mode with
  | unchecked => exact absurd rfl hmode
  | strict =>
    obtain ⟨hbegins, rfl⟩ := sortKeys_strict_eq_ok_iff.mp h
    exact SortSpec.exists_keys_eq_append hnodup hbegins
  | prepend =>
    rw [sortKeys_prepend] at h
    exact ⟨_, (Except.ok.inj h).symm⟩

/-- **Where the sort begins with the group fields, it is kept in every relation to the grouping.** -/
theorem sortKeys_of_prefix (hnodup : sort.fields.Nodup) (hbegins : groups <+: sort.fields)
    (mode : GroupOrder) : mode.sortKeys sort groups = .ok sort.keys := by
  cases mode with
  | unchecked => rfl
  | strict => exact sortKeys_strict_eq_ok_iff.mpr ⟨hbegins, rfl⟩
  | prepend =>
    rw [sortKeys_prepend, SortSpec.leadingKeys_append_remainingKeys hnodup hbegins]

/-- **The relations of a grouping to the sort agree** where they can. A strict one accepts the
specifications that begin with the group fields, and there all three give the keys as they are.
Prepending gives the keys of the group fields, in their order and in the directions of the
specification, and then the others as they were, so that none is lost. When the group fields are
distinct this is itself a specification, on which again all three give the keys as they are. -/
theorem sortKeys_agree (hnodup : sort.fields.Nodup) (groups : List String) :
    ((∃ keys, strict.sortKeys sort groups = .ok keys) ↔ groups <+: sort.fields) ∧
    (groups <+: sort.fields → ∀ mode : GroupOrder, mode.sortKeys sort groups = .ok sort.keys) ∧
    ∃ leading remaining : List SortKey,
      prepend.sortKeys sort groups = .ok (leading ++ remaining) ∧
      leading.map (·.field) = groups ∧
      (∀ k ∈ leading, k.direction = (sort.direction? k.field).getD .ascending) ∧
      remaining = sort.keys.filter (·.field ∉ groups) ∧
      (∀ k ∈ sort.keys, k ∈ leading ++ remaining) ∧
      (groups.Nodup →
        SortSpec.ofKeys (leading ++ remaining) = .ok ⟨leading ++ remaining⟩ ∧
        ∀ mode : GroupOrder,
          mode.sortKeys ⟨leading ++ remaining⟩ groups = .ok (leading ++ remaining)) := by
  refine ⟨?strict, sortKeys_of_prefix hnodup, sort.leadingKeys groups, sort.remainingKeys groups,
    sortKeys_prepend sort groups, SortSpec.map_field_leadingKeys, ?direction, rfl,
    fun k hk => SortSpec.mem_leadingKeys_append hnodup hk, fun hgroups => ?again⟩
  case strict => simp [sortKeys_strict_eq_ok_iff]
  case direction =>
    intro k hk
    obtain ⟨field, -, rfl⟩ := List.mem_map.mp hk
    rfl
  case again =>
    have hfields := SortSpec.nodup_fields_leadingKeys_append hnodup hgroups
    refine ⟨SortSpec.ofKeys_eq_ok_iff.mpr ⟨hfields, rfl⟩, sortKeys_of_prefix hfields ?_⟩
    rw [SortSpec.fields, List.map_append, SortSpec.map_field_leadingKeys]
    exact List.prefix_append ..

/-- The second sort field is the group field, and a group field that is not sorted by comes first. -/
theorem sortKeys_agree_two_fields :
    (["name", "dept"] : List String).Nodup ∧ (["city", "dept"] : List String).Nodup ∧
      prepend.sortKeys ⟨[⟨"name", .ascending⟩, ⟨"dept", .descending⟩]⟩ ["city", "dept"] =
        .ok [⟨"city", .ascending⟩, ⟨"dept", .descending⟩, ⟨"name", .ascending⟩] ∧
      ∀ mode : GroupOrder,
        mode.sortKeys ⟨[⟨"city", .ascending⟩, ⟨"dept", .descending⟩, ⟨"name", .ascending⟩]⟩
          ["city", "dept"] =
          .ok [⟨"city", .ascending⟩, ⟨"dept", .descending⟩, ⟨"name", .ascending⟩] := by
  have hsort : (["name", "dept"] : List String).Nodup := by decide
  have hgroups : (["city", "dept"] : List String).Nodup := by decide
  obtain ⟨-, -, leading, remaining, hkeys, -, -, -, -, hagain⟩ :=
    @sortKeys_agree ⟨[⟨"name", .ascending⟩, ⟨"dept", .descending⟩]⟩ hsort ["city", "dept"]
  have hprepended : leading ++ remaining =
      [⟨"city", .ascending⟩, ⟨"dept", .descending⟩, ⟨"name", .ascending⟩] :=
    (Except.ok.inj hkeys).symm
  rw [hprepended] at hkeys hagain
  exact ⟨hsort, hgroups, hkeys, (hagain hgroups).2⟩

end GroupOrder

end Tabular
