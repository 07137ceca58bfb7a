import Mathlib.Data.List.Infix
import Tabular.Proofs.Group.Whole
import Tabular.Proofs.Page.Placed
/-!
# The shape of grouped rows

Grouped rows can be read without the records they come from: the last header tells which groups are
open. `WellNested` says of rows that they are read so. A header adds its own value to the path of
the groups around it, a record stands under the last header, and a header has nothing under it
exactly when it is folded.

The rows of a grouping are of this shape (`wellNested_groupRows`). Therefore the headers over a row,
found by their levels alone, are the headers of the groups around the row, outermost first
(`filterMap_path_over`).
-/

namespace Tabular

variable {α : Type}

/-- Rows that continue rows under the open groups `current`: every record is in these groups, every
header is for a group inside the outer ones of them, and has nothing under it just when it is
folded. -/
def WellNested (source : Source α) (fields : List String) :
    List GroupValue → List (DisplayRow α) → Prop
  | _, [] => True
  | current, .record e :: rest =>
    groupTuple source fields e = current ∧ WellNested source fields current rest
  | current, .header h :: rest =>
    h.level ≤ current.length ∧ h.path.values = current.take h.level ++ [h.value] ∧
    isChildless DisplayRow.level? h.level rest = h.collapsed ∧
    WellNested source fields h.path.values rest

/-! ## Nested rows -/

section Nested

variable {source : Source α} {folded : CollapsedSet} {all fields : List String}
  {ancestors current : List GroupValue} {entries : List (Entry α)} {more : List (DisplayRow α)}

theorem isChildless_mono {ρ : Type} {level? : ρ → Option Nat} {level level' : Nat} {rest : List ρ}
    (h : isChildless level? level rest = true) (hle : level ≤ level') :
    isChildless level? level' rest = true := by
  cases rest with
  | nil => rfl
  | cons next rest =>
    obtain ⟨l, hl, hlevel⟩ := (Option.any_eq_true ..).mp h
    exact (Option.any_eq_true ..).mpr ⟨l, hl, by simp only [decide_eq_true_eq] at *; omega⟩

/-- The rows of entries begin with a record, or with a header inside the groups around. -/
theorem isChildless_nestedRows_append {level : Nat} (hne : entries ≠ []) :
    isChildless DisplayRow.level? level
        (nestedRows source folded fields ancestors entries ++ more) =
      (!fields.isEmpty && decide (ancestors.length ≤ level)) := by
  cases fields with
  | nil =>
    obtain ⟨e, rest, rfl⟩ := List.exists_cons_of_ne_nil hne
    rfl
  | cons field fields =>
    induction entries using run_induction (groupOf source field) with
    | nil => exact absurd rfl hne
    | append run rest value hfront ih =>
      rw [nestedRows_run_append hfront]
      simp [isChildless, DisplayRow.level?, runHeader]

/-- What follows the rows of entries outside the groups around is outside these rows as well. -/
theorem isChildless_nestedRows_append_of_isChildless {field : String} {level : Nat}
    (hle : ancestors.length ≤ level)
    (h : isChildless DisplayRow.level? ancestors.length more = true) :
    isChildless DisplayRow.level? level
      (nestedRows source folded (field :: fields) ancestors entries ++ more) = true := by
  by_cases hne : entries = []
  · subst hne
    simpa using isChildless_mono h hle
  · rw [isChildless_nestedRows_append hne]
    simpa using hle

/-- **Nested rows are of this shape**, whatever rows of this shape follow outside the groups
around. -/
theorem wellNested_nestedRows_append
    (hentries : ∀ e ∈ entries,
      groupTuple source all e = ancestors ++ groupTuple source fields e)
    (haround : ancestors <+: current) (hcurrent : fields = [] → current = ancestors)
    (hchildless : isChildless DisplayRow.level? ancestors.length more = true)
    (hmore : ∀ path, ancestors <+: path → WellNested source all path more) :
    WellNested source all current
      (nestedRows source folded fields ancestors entries ++ more) := by
  induction fields generalizing ancestors current entries more with
  | nil =>
    obtain rfl := hcurrent rfl
    induction entries with
    | nil => exact hmore current haround
    | cons e entries ih =>
      obtain ⟨he, hentries⟩ := List.forall_mem_cons.mp hentries
      exact ⟨by simpa [groupTuple] using he, ih hentries⟩
  | cons field fields ihFields =>
    induction entries using run_induction (groupOf source field) generalizing current with
    | nil => simpa using hmore current haround
    | append run rest value hfront ihRest =>
      have hrest : ∀ path, ancestors ++ [value] <+: path → WellNested source all path
          (nestedRows source folded (field :: fields) ancestors rest ++ more) := by
        intro path hpath
        refine ihRest (fun e he => hentries e (List.mem_append_right _ he)) ?_ (by simp)
        exact (List.prefix_append ancestors [value]).trans hpath
      have hparent : current.take ancestors.length = ancestors :=
        (List.prefix_iff_eq_take.mp haround).symm
      rw [nestedRows_run_append hfront, List.cons_append, List.append_assoc]
      refine ⟨haround.length_le, by simp [runHeader, hparent], ?childless, ?rest⟩
      case childless =>
        simp only [runHeader]
        split
        · next hfolded =>
          rw [hfolded, List.nil_append]
          exact isChildless_nestedRows_append_of_isChildless (Nat.le_refl _) hchildless
        · next hfolded =>
          rw [isChildless_nestedRows_append hfront.ne_nil]
          simp [Bool.eq_false_iff.mpr hfolded]
      case rest =>
        split
        · exact hrest _ List.prefix_rfl
        · refine ihFields (fun e he => ?_) List.prefix_rfl (fun _ => rfl) ?_ hrest
          · rw [hentries e (List.mem_append_left _ he), groupTuple_cons, hfront.eq e he,
              List.append_assoc, List.singleton_append]
          · exact isChildless_nestedRows_append_of_isChildless (by simp) hchildless

/-- **The rows of a grouping are of this shape.** -/
theorem wellNested_groupRows (source : Source α) (fields : List String) (folded : CollapsedSet)
    (entries : List (Entry α)) :
    WellNested source fields [] (groupRows source fields folded entries) := by
  have key : WellNested source fields [] (nestedRows source folded fields [] entries ++ []) :=
    wellNested_nestedRows_append (fun e _ => rfl) List.prefix_rfl (fun _ => rfl) rfl
      fun path _ => trivial
  rwa [groupRows_eq_nestedRows, ← List.append_nil (nestedRows ..)]

end Nested

/-! ## Reading the shape -/

section Shape

variable {source : Source α} {fields : List String} {current : List GroupValue}
  {rows before rest : List (DisplayRow α)}

theorem levelsNest_of_wellNested (h : WellNested source fields current rows) :
    LevelsNest DisplayRow.level? current.length rows := by
  induction rows generalizing current with
  | nil => trivial
  | cons row rest ih =>
    cases row with
    | record e => exact ih h.2
    | header header =>
      obtain ⟨hle, hpath, -, hrest⟩ := h
      have hlength : header.path.values.length = header.level + 1 := by simp [hpath, hle]
      exact ⟨hle, hlength ▸ ih hrest⟩

/-- The path of the groups that rows leave open: that of the last header. -/
def openPath (current : List GroupValue) (rows : List (DisplayRow α)) : List GroupValue :=
  rows.foldl (fun path row => (row.header?.map (·.path.values)).getD path) current

theorem wellNested_of_append (h : WellNested source fields current (before ++ rest)) :
    WellNested source fields (openPath current before) rest := by
  induction before generalizing current with
  | nil => exact h
  | cons row before ih =>
    cases row with
    | record e => exact ih h.2
    | header header => exact ih h.2.2.2

/-- A header is childless exactly when it is folded. -/
theorem isChildless_eq_collapsed {h : GroupHeader} {i : Nat}
    (hrows : WellNested source fields current rows) (hi : rows[i]? = some (.header h)) :
    isChildless DisplayRow.level? h.level (rows.drop (i + 1)) = h.collapsed := by
  obtain ⟨hlt, hi⟩ := List.getElem?_eq_some_iff.mp hi
  rw [← List.take_append_drop i rows, List.drop_eq_getElem_cons hlt, hi] at hrows
  exact (wellNested_of_append hrows).2.2.1

/-! ### Headers over a row -/

/-- The paths of the groups on the way down a path, outermost first. -/
def pathsDown (path : List GroupValue) : List GroupPath := path.inits.tail.map GroupPath.mk

theorem pathsDown_concat (path : List GroupValue) (value : GroupValue) :
    pathsDown (path ++ [value]) = pathsDown path ++ [⟨path ++ [value]⟩] := by
  have hne : path.inits ≠ [] := by cases path <;> simp
  rw [pathsDown, List.inits_append, List.tail_append_of_ne_nil hne]
  simp [pathsDown]

/-- Whether a header among rows, by its position, is over what follows these rows, if this is a
record or a header of the level `bound`. -/
def isOver (before : List (DisplayRow α)) (bound : Option Nat) (p : DisplayRow α × Nat) : Bool :=
  p.1.level?.any fun level =>
    bound.all (level < ·) && (before.drop (p.2 + 1)).all (isDeeper DisplayRow.level? level)

theorem isOver_append_record {bound : Option Nat} {e : Entry α} {p : DisplayRow α × Nat}
    (hp : p.2 < before.length) :
    isOver (before ++ [.record e]) bound p = isOver before bound p := by
  simp [isOver, List.drop_append_of_le_length hp, isDeeper, DisplayRow.level?]

theorem isOver_append_header {bound : Option Nat} {h : GroupHeader} {p : DisplayRow α × Nat}
    (hp : p.2 < before.length) :
    isOver (before ++ [.header h]) bound p =
      isOver before (some (bound.elim h.level (min h.level))) p := by
  have hbound : ∀ level, (some (bound.elim h.level (min h.level))).all (level < ·) =
      (bound.all (level < ·) && decide (level < h.level)) := by
    intro level
    rw [Bool.eq_iff_iff]
    simp only [Option.all_some, Bool.and_eq_true, decide_eq_true_eq]
    cases bound with
    | none => simp
    | some b => simpa using and_comm
  simp only [isOver, hbound, List.drop_append_of_le_length hp, List.all_append, List.all_cons,
    List.all_nil, Bool.and_true, Bool.and_assoc]
  congr 1
  funext level
  rw [Bool.and_comm (decide _)]
  rfl

/-- **The headers over a row are those of the groups around it**, outermost first: under the groups
that the rows before leave open, all of them over a record, and over a header those outside its
level. -/
theorem filterMap_path_over (h : WellNested source fields [] (before ++ rest))
    (bound : Option Nat) :
    (before.zipIdx.filter (isOver before bound)).filterMap (fun p => p.1.header?.map (·.path)) =
      pathsDown (bound.elim (openPath [] before) (openPath [] before).take) := by
  induction before using List.reverseRecOn generalizing rest bound with
  | nil => cases bound <;> simp [openPath, pathsDown]
  | append_singleton before row ih =>
    rw [List.append_assoc, List.singleton_append] at h
    have hrow := wellNested_of_append h
    have hindex : ∀ p ∈ before.zipIdx, p.2 < before.length := fun p hp =>
      List.snd_lt_of_mem_zipIdx hp
    rw [List.zipIdx_append, List.filter_append, List.filterMap_append]
    cases row with
    | record e =>
      rw [List.filter_congr fun p hp => isOver_append_record (hindex p hp), ih h]
      simp [isOver, openPath, DisplayRow.level?, DisplayRow.header?]
    | header header =>
      obtain ⟨hle, hpath, -⟩ := hrow
      have hopen : openPath [] (before ++ [.header header]) =
          (openPath [] before).take header.level ++ [header.value] := by
        rw [← hpath]
        simp [openPath, DisplayRow.header?]
      have hself : isOver (before ++ [.header header]) bound (.header header, before.length) =
          bound.all (header.level < ·) := by
        simp [isOver, DisplayRow.level?]
      rw [List.filter_congr fun p hp => isOver_append_header (hindex p hp), ih h, hopen]
      simp only [List.zipIdx_singleton, Nat.zero_add, List.filter_singleton, hself]
      have hheader : header.path = ⟨(openPath [] before).take header.level ++ [header.value]⟩ := by
        rw [← hpath]
      cases bound with
      | none => simp [pathsDown_concat, DisplayRow.header?, hheader]
      | some b =>
        by_cases hb : header.level < b
        · -- the header itself is over what follows, and the innermost of those that are
          have hall : ((openPath [] before).take header.level ++ [header.value]).take b =
              (openPath [] before).take header.level ++ [header.value] :=
            List.take_of_length_le (by simp; omega)
          simp only [Option.elim_some, hall, pathsDown_concat]
          simp [hb, min_eq_left hb.le, DisplayRow.header?, hheader]
        · have hle' : b ≤ header.level := Nat.le_of_not_lt hb
          have hlength : ((openPath [] before).take header.level).length = header.level := by
            simp [hle]
          have hout : ((openPath [] before).take header.level ++ [header.value]).take b =
              (openPath [] before).take b := by
            rw [List.take_append_of_le_length (by omega), List.take_take, min_eq_left hle']
          simp [hb, hout, min_eq_right hle']

end Shape

end Tabular
