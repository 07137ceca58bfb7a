import Tabular.Program.Run
import Tabular.Proofs.View.Arrangement
/-!
# Options one after the other

The options change the arrangement of a view in three steps: the relation of grouping to sorting,
then the sort, then the grouping. A strict relation is checked after each. So a mismatch is reported
when one of the three arrangements on the way is refused (`Options.apply_mismatch_iff`), and the
options behind these steps report none (`Options.isHarmless_applyRest`).

The last of the three arrangements is the one that the options ask for. When it is accepted and one
before it is not, the options fail all the same: a view that is saved with a strict relation cannot
be sorted and grouped anew by another field at once (`Options.refused_on_the_way`).
-/

namespace Tabular

/-! ## Failures of the program -/

/-- Whether the error is that the sort of a view does not follow its grouping. -/
def ProgramError.isMismatch : ProgramError → Bool
  | file _ => false
  | view e | viewMismatch _ e | filter _ e => e.isMismatch

theorem failsWith_within {ε δ β : Type} {p : δ → Bool} (wrap : ε → δ) (x : Except ε β) :
    failsWith p (Except.within wrap x) = failsWith (fun err => p (wrap err)) x := by
  cases x <;> rfl

theorem within_eq_ok_iff {ε δ β : Type} {wrap : ε → δ} {x : Except ε β} {b : β} :
    Except.within wrap x = .ok b ↔ x = .ok b := by
  cases x <;> simp [Except.within]

namespace Options

variable {α β : Type}

/-! ## Options that leave the arrangement alone -/

/-- A change that keeps engines consistent and does not report a mismatch. -/
def IsHarmless (change : Engine α → Except ProgramError (Engine α)) : Prop :=
  ∀ e, e.Consistent → failsWith ProgramError.isMismatch (change e) = false ∧
    ∀ after, change e = .ok after → after.Consistent

theorem isHarmless_ok : IsHarmless (@Except.ok ProgramError (Engine α)) :=
  fun _ he => ⟨rfl, fun _ h => Except.ok.inj h ▸ he⟩

theorem IsHarmless.bind {f g : Engine α → Except ProgramError (Engine α)} (hf : IsHarmless f)
    (hg : IsHarmless g) : IsHarmless fun e => f e >>= g := by
  intro e he
  obtain ⟨hfails, hconsistent⟩ := hf e he
  refine ⟨failsWith_bind_eq_false hfails fun next hnext => (hg next (hconsistent next hnext)).1, ?_⟩
  intro after hafter
  obtain ⟨next, hnext, hafter⟩ := bind_eq_ok_iff.mp hafter
  exact (hg next (hconsistent next hnext)).2 after hafter

theorem isHarmless_foldlM {change : Engine α → β → Except ProgramError (Engine α)}
    (h : ∀ b, IsHarmless fun e => change e b) (l : List β) :
    IsHarmless fun e => l.foldlM change e := by
  induction l with
  | nil => exact isHarmless_ok
  | cons b l ih => exact (h b).bind ih

/-- A command that leaves the arrangement alone is harmless, whatever its errors are put under. -/
theorem isHarmless_apply {command : Command α} {wrap : ViewError → ProgramError}
    (hwrap : ∀ err, (wrap err).isMismatch = err.isMismatch)
    (h : command.keepsArrangement = true) :
    IsHarmless fun e => Except.within wrap (e.apply command) := by
  intro e he
  constructor
  · rw [failsWith_within]
    simp only [hwrap]
    exact Engine.failsWith_apply he h
  · exact fun after hafter => (Engine.apply_eq_ok (within_eq_ok_iff.mp hafter)).1

theorem isHarmless_applyOption {option? : Option β} {command : β → Command α}
    (h : ∀ b, (command b).keepsArrangement = true) :
    IsHarmless fun e => Except.within .view (applyOption option? command e) := by
  cases option? with
  | none => exact isHarmless_ok
  | some b => exact isHarmless_apply (fun _ => rfl) (h b)

theorem isHarmless_applyFilters (filters : List FilterArgument) :
    IsHarmless (α := α) (applyFilters filters) :=
  isHarmless_foldlM (fun f => isHarmless_apply (fun _ => rfl) (by cases f <;> rfl)) filters

/-- The errors of a list of changes are put under another error one by one or all at once. -/
theorem within_foldlM {change : Engine α → β → Except ViewError (Engine α)}
    {wrap : ViewError → ProgramError} (l : List β) (e : Engine α) :
    Except.within wrap (l.foldlM change e) =
      l.foldlM (fun e b => Except.within wrap (change e b)) e := by
  induction l generalizing e with
  | nil => rfl
  | cons b l ih =>
    rw [List.foldlM_cons, List.foldlM_cons]
    cases change e b with
    | ok next => exact ih next
    | error err => rfl

theorem isHarmless_collapse (paths : List GroupPath) :
    IsHarmless (α := α) fun e =>
      Except.within .view (paths.foldlM (fun e p => e.apply (.foldGroup p true)) e) := by
  simp only [within_foldlM]
  exact isHarmless_foldlM (fun _ => isHarmless_apply (fun _ => rfl) rfl) paths

/-! ## The three steps of an arrangement -/

/-- The options behind those of the arrangement. -/
def applyRest (o : Options) (e : Engine α) : Except ProgramError (Engine α) := do
  let e ← applyFilters o.filters e
  let e ← Except.within .view (o.collapse.foldlM (fun e p => e.apply (.foldGroup p true)) e)
  let e ← Except.within .view (applyOption (given o.columns) .setColumns e)
  let e ← Except.within .view (applyOption o.pageSize? .setPageSize e)
  Except.within .view (applyOption o.page? .setPage e)

/-- The options behind those of the arrangement report no mismatch. -/
theorem isHarmless_applyRest (o : Options) : IsHarmless (α := α) o.applyRest := by
  refine (isHarmless_applyFilters o.filters).bind ?_
  refine (isHarmless_collapse o.collapse).bind ?_
  refine (isHarmless_applyOption fun _ => rfl).bind ?_
  exact (isHarmless_applyOption fun _ => rfl).bind (isHarmless_applyOption fun _ => rfl)

/-- The relation of grouping to sorting that the options ask for, in place of another. -/
def modeOver (o : Options) (mode : GroupOrder) : GroupOrder := o.groupOrder?.getD mode

/-- The sort that the options ask for, in place of another. -/
def sortOver (o : Options) (sort : SortSpec) : SortSpec :=
  ((given o.sort).map SortSpec.mk).getD sort

/-- The grouping that the options ask for, in place of another. -/
def groupsOver (o : Options) (groups : List String) : List String := (given o.groupBy).getD groups

section Steps

variable {source : Source α} {mode : GroupOrder} {sort : SortSpec} {groups : List String}
  {e : Engine α} {o : Options}

theorem eq_of_given {l l' : List β} (h : given l = some l') : l = l' := by
  unfold given at h
  split at h
  · cases h
  · exact Option.some.inj h

/-- The options are applied in three steps and the rest. -/
theorem apply_eq (e : Engine α) (hnodup : (o.sort.map (·.field)).Nodup) :
    o.apply e = (do
      let e ← Except.within .view (applyOption o.groupOrder? .setGroupOrder e)
      let e ← Except.within .view (applyOption ((given o.sort).map SortSpec.mk) .setSort e)
      let e ← Except.within .view (applyOption (given o.groupBy) .setGroupFields e)
      o.applyRest e) := by
  have hkeys : SortSpec.ofKeys o.sort = .ok ⟨o.sort⟩ :=
    SortSpec.ofKeys_eq_ok_iff.mpr ⟨hnodup, rfl⟩
  unfold apply
  cases hgiven : given o.sort with
  | none => rfl
  | some keys =>
    obtain rfl := eq_of_given hgiven
    simp only [hkeys]
    rfl

theorem arranges_groupOrder (he : e.Consistent) :
    Engine.Arranges e.source (o.modeOver e.state.groupOrder) e.state.sort e.state.groupFields
      (applyOption o.groupOrder? .setGroupOrder e) := by
  unfold modeOver
  cases o.groupOrder? with
  | none => exact he.arranges
  | some mode => exact Engine.arranges_setGroupOrder he mode

theorem arranges_sort (he : e.Consistent)
    (hsort : ∀ key ∈ o.sort, e.source.schema.contains key.field = true)
    (hnodup : (o.sort.map (·.field)).Nodup) :
    Engine.Arranges e.source e.state.groupOrder (o.sortOver e.state.sort) e.state.groupFields
      (applyOption ((given o.sort).map SortSpec.mk) .setSort e) := by
  unfold sortOver
  cases hgiven : given o.sort with
  | none => exact he.arranges
  | some keys =>
    obtain rfl := eq_of_given hgiven
    exact Engine.arranges_setSort he (SortSpec.validate_eq_ok hsort hnodup)

theorem arranges_groups (he : e.Consistent)
    (hgroups : ∀ field ∈ o.groupBy, e.source.schema.contains field = true) :
    Engine.Arranges e.source e.state.groupOrder e.state.sort (o.groupsOver e.state.groupFields)
      (applyOption (given o.groupBy) .setGroupFields e) := by
  unfold groupsOver
  cases hgiven : given o.groupBy with
  | none => exact he.arranges
  | some fields =>
    obtain rfl := eq_of_given hgiven
    exact Engine.arranges_setGroupFields he (Schema.forM_require_eq_ok_iff.mpr hgroups)

/-- A step reports a mismatch where its arrangement is refused, or leaves it to what follows. -/
theorem failsWith_within_bind_iff {x : Except ViewError (Engine α)}
    {f : Engine α → Except ProgramError (Engine α)} {P : Prop}
    (hx : Engine.Arranges source mode sort groups x)
    (hf : ∀ e, Engine.Arranges source mode sort groups (.ok e) →
      (failsWith ProgramError.isMismatch (f e) = true ↔ P)) :
    failsWith ProgramError.isMismatch (Except.within .view x >>= f) = true ↔
      mode.Refuses sort groups ∨ P := by
  cases hx with
  | @ok e he hsource hmode hsort hgroups =>
    have hnot : ¬ mode.Refuses sort groups := by
      subst hmode hsort hgroups
      exact he.not_refuses
    exact (hf e (.ok he hsource hmode hsort hgroups)).trans (or_iff_right hnot).symm
  | error hrefuses hmismatch => exact iff_of_true hmismatch (.inl hrefuses)

end Steps

/-! ## Mismatches -/

/-- The engine of a record set at the saved view of the options, if they name one. -/
def start (o : Options) (i : Inputs) (records : List Json) (schema : Schema) :
    Except ProgramError (Engine Json) := do
  let e ← Except.within .view (Engine.make (Source.json schema) records {})
  match o.view? with
  | some path => do
    let config ← Except.within .file
      (readView path (← i.text (o.records :: o.fields?.toList) path))
    Except.within (.viewMismatch config.name) (e.apply (.applyConfig config))
  | none => return e

theorem consistent_start {o : Options} {i : Inputs} {records : List Json} {schema : Schema}
    {e : Engine Json} (h : o.start i records schema = .ok e) : e.Consistent := by
  obtain ⟨initial, hmake, h⟩ := bind_eq_ok_iff.mp h
  split at h
  · obtain ⟨_, -, h⟩ := bind_eq_ok_iff.mp h
    obtain ⟨_, -, h⟩ := bind_eq_ok_iff.mp h
    exact (Engine.apply_eq_ok (within_eq_ok_iff.mp h)).1
  · cases h
    exact Engine.consistent_make (within_eq_ok_iff.mp hmake)

theorem consistent_load {o : Options} {i : Inputs} {e : Engine Json} (h : load o i = .ok e) :
    e.Consistent := by
  unfold load at h
  obtain ⟨_, -, h⟩ := bind_eq_ok_iff.mp h
  obtain ⟨records, -, h⟩ := bind_eq_ok_iff.mp h
  dsimp only at h
  split at h
  · obtain ⟨_, -, h⟩ := bind_eq_ok_iff.mp h
    obtain ⟨schema, -, h⟩ := bind_eq_ok_iff.mp h
    exact @consistent_start _ _ _ schema _ h
  · exact @consistent_start _ _ _ (Schema.infer records) _ h

/-- **Every arrangement on the way is checked.** The options report a mismatch exactly when a strict
relation refuses the arrangement that was there, or the one with the new sort, or the one with the
new sort and grouping. -/
theorem apply_mismatch_iff {o : Options} {i : Inputs} {e : Engine Json} (hload : load o i = .ok e)
    (hsort : ∀ key ∈ o.sort, e.source.schema.contains key.field = true)
    (hnodup : (o.sort.map (·.field)).Nodup)
    (hgroups : ∀ field ∈ o.groupBy, e.source.schema.contains field = true) :
    failsWith ProgramError.isMismatch (o.apply e) = true ↔
      (o.modeOver e.state.groupOrder).Refuses e.state.sort e.state.groupFields ∨
      (o.modeOver e.state.groupOrder).Refuses (o.sortOver e.state.sort) e.state.groupFields ∨
      (o.modeOver e.state.groupOrder).Refuses (o.sortOver e.state.sort)
        (o.groupsOver e.state.groupFields) := by
  rw [apply_eq e hnodup]
  refine failsWith_within_bind_iff (arranges_groupOrder (consistent_load hload)) ?_
  rintro e₁ ⟨he₁, hsource₁, hmode₁, hsort₁, hgroups₁⟩
  have harranges₁ := arranges_sort he₁ (hsource₁ ▸ hsort) hnodup
  rw [hsource₁, hmode₁, hsort₁, hgroups₁] at harranges₁
  refine failsWith_within_bind_iff harranges₁ ?_
  rintro e₂ ⟨he₂, hsource₂, hmode₂, hsort₂, hgroups₂⟩
  have harranges₂ := arranges_groups he₂ (hsource₂ ▸ hgroups)
  rw [hsource₂, hmode₂, hsort₂, hgroups₂] at harranges₂
  rw [failsWith_within_bind_iff (P := False) harranges₂, or_false]
  rintro e₃ ⟨he₃, -⟩
  rw [(o.isHarmless_applyRest e₃ he₃).1]
  exact iff_of_false Bool.false_ne_true id

/-- Two records, and a view of them that is strictly sorted and grouped by their first field. -/
def strictByA : Inputs where
  file? path :=
    if path = "v.json" then
      some ("\x7b\"id\": \"v\", \"name\": \"v\", \"groupBy\": [\"a\"], " ++
        "\"sortConfig\": [\x7b\"field\": \"a\"\x7d], \"groupOrder\": \"strict\"\x7d")
    else none
  standardInput := "[\x7b\"a\": 1, \"b\": 2\x7d, \x7b\"a\": 2, \"b\": 1\x7d]"

/-- Options that change the sort and the grouping of the saved view. -/
def rearranging (sort : List SortKey) (groupBy : List String) : Options where
  records := standardInputPath
  view? := some "v.json"
  sort := sort
  groupBy := groupBy

theorem load_rearranging :
    ∃ e, (∀ sort groupBy, load (rearranging sort groupBy) strictByA = .ok e) ∧
      e.source.schema = ⟨[⟨"a", .number, none⟩, ⟨"b", .number, none⟩]⟩ ∧
      e.state.groupOrder = .strict ∧ e.state.sort = ⟨[⟨"a", .ascending⟩]⟩ ∧
      e.state.groupFields = ["a"] := by
  have harrangement : (load (rearranging [] []) strictByA).toOption.map (fun e =>
      (e.source.schema, e.state.groupOrder, e.state.sort, e.state.groupFields)) =
        some (⟨[⟨"a", .number, none⟩, ⟨"b", .number, none⟩]⟩, .strict,
          ⟨[⟨"a", .ascending⟩]⟩, ["a"]) := by
    decide +kernel
  cases hload : load (rearranging [] []) strictByA with
  | error err =>
    rw [hload] at harrangement
    cases harrangement
  | ok e =>
    rw [hload] at harrangement
    simp only [Except.toOption, Option.map_some, Option.some.injEq, Prod.mk.injEq] at harrangement
    exact ⟨e, fun _ _ => hload, harrangement⟩

/-- The sort of the saved view is turned over and a second key is put behind it. -/
theorem apply_mismatch_iff_rearranging :
    let o := rearranging [⟨"a", .descending⟩, ⟨"b", .ascending⟩] ["a"]
    ∃ e, load o strictByA = .ok e ∧ failsWith ProgramError.isMismatch (o.apply e) = false := by
  intro o
  obtain ⟨e, hload, hschema, hmode, hsort, hgroups⟩ := load_rearranging
  have hiff := @apply_mismatch_iff o strictByA e (hload _ _) (by rw [hschema]; decide) (by decide)
    (by rw [hschema]; decide)
  rw [hmode, hsort, hgroups] at hiff
  exact ⟨e, hload _ _, Bool.eq_false_iff.mpr fun hfails => absurd (hiff.mp hfails) (by decide)⟩

/-- The strict view is sorted and grouped by the other field. This is a strict arrangement, and yet
the options fail, since the old grouping does not go with the new sort. -/
theorem refused_on_the_way :
    let o := rearranging [⟨"b", .ascending⟩] ["b"]
    ∃ e, load o strictByA = .ok e ∧
      (∀ key ∈ o.sort, e.source.schema.contains key.field = true) ∧
      (o.sort.map (·.field)).Nodup ∧
      (∀ field ∈ o.groupBy, e.source.schema.contains field = true) ∧
      ¬ (o.modeOver e.state.groupOrder).Refuses (o.sortOver e.state.sort)
        (o.groupsOver e.state.groupFields) ∧
      failsWith ProgramError.isMismatch (o.apply e) = true := by
  intro o
  obtain ⟨e, hload, hschema, hmode, hsort, hgroups⟩ := load_rearranging
  have hfails : failsWith ProgramError.isMismatch (load o strictByA >>= o.apply) = true := by
    decide +kernel
  rw [hload] at hfails
  refine ⟨e, hload _ _, ?_, by decide, ?_, ?_, hfails⟩
  · rw [hschema]
    decide
  · rw [hschema]
    decide
  · rw [hmode, hsort, hgroups]
    decide

end Options

end Tabular
