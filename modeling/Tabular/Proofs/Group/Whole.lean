import Mathlib.Data.List.TakeWhile
import Tabular.Proofs.Group.Nested
/-!
# When groups are whole

A group is cut in pieces when its entries do not stand together. `Unbroken` says that no group with
a header is, level by level: at the outermost field the entries of each group stand together, and
inside each group that is open the same is true of the fields below.

The first run of the entries is the step of every proof here. It is a group of its own when none of
the other entries belongs to it, and then the entries are unbroken as the run and the rest are
(`unbroken_append_iff`). So no two headers of the nested rows have the same path exactly when the
entries are unbroken (`nodup_paths_iff`), and then a header counts all entries of its group
(`count_eq_countP`). Both together say that the groups are whole (`groupsWhole_groupRows_iff`).
-/

namespace Tabular

variable {α β γ : Type}

/-! ## Runs at the front -/

/-- The elements of each class stand together. -/
def Contiguous (f : β → γ) (l : List β) : Prop :=
  ∀ x y z, [x, y, z].Sublist l → f x = f z → f y = f x

/-- A run of one class stands in front of a rest that does not begin with this class. -/
structure FrontRun (f : β → γ) (value : γ) (run rest : List β) : Prop where
  ne_nil : run ≠ []
  eq : ∀ a ∈ run, f a = value
  head_ne : ∀ b ∈ rest.head?, f b ≠ value

/-- A run at the front stands together with the rest when nothing in the rest belongs to it. -/
theorem contiguous_append_iff {f : β → γ} {value : γ} {run rest : List β}
    (hfront : FrontRun f value run rest) :
    Contiguous f (run ++ rest) ↔ (∀ b ∈ rest, f b ≠ value) ∧ Contiguous f rest := by
  have hrun := hfront.eq
  constructor
  · intro h
    refine ⟨fun b hb hvalue => ?_, fun x y z hsub => ?_⟩
    · obtain ⟨a, ha⟩ := List.exists_mem_of_ne_nil run hfront.ne_nil
      cases rest with
      | nil => cases hb
      | cons c rest =>
        have hc : f c ≠ value := hfront.head_ne c rfl
        have hb' : b ∈ rest := by
          refine List.mem_of_ne_of_mem ?_ hb
          rintro rfl
          exact hc hvalue
        have hsub : [a, c, b].Sublist (run ++ c :: rest) :=
          (List.singleton_sublist.mpr ha).append ((List.singleton_sublist.mpr hb').cons_cons c)
        have := h a c b hsub (by rw [hrun a ha, hvalue])
        exact hc (by rw [this, hrun a ha])
    · exact h x y z (hsub.trans (List.sublist_append_right ..))
  · rintro ⟨hout, h⟩ x y z hsub hxz
    obtain ⟨front, back, hsplit, hleft, hright⟩ := List.sublist_append_iff.mp hsub
    match front, hsplit with
    | [], hsplit => exact h x y z (hsplit ▸ hright) hxz
    | [a], hsplit =>
      obtain ⟨rfl, rfl⟩ := List.cons.inj hsplit
      have hx := hrun x (hleft.subset (by simp))
      exact absurd (hxz.symm.trans hx) (hout z (hright.subset (by simp)))
    | [a, b], hsplit =>
      simp only [List.cons_append, List.nil_append, List.cons.injEq] at hsplit
      obtain ⟨rfl, rfl, rfl⟩ := hsplit
      have hx := hrun x (hleft.subset (by simp))
      exact absurd (hxz.symm.trans hx) (hout z (hright.subset (by simp)))
    | a :: b :: c :: front, hsplit =>
      simp only [List.cons_append, List.cons.injEq] at hsplit
      obtain ⟨rfl, rfl, rfl, -⟩ := hsplit
      rw [hrun x (hleft.subset (by simp)), hrun y (hleft.subset (by simp))]

/-- What holds of no elements, and of a run in front of elements of which it holds, holds always. -/
theorem run_induction [DecidableEq γ] (f : β → γ) {P : List β → Prop} (nil : P [])
    (append : ∀ run rest value, FrontRun f value run rest → P rest → P (run ++ rest)) : ∀ l, P l
  | [] => nil
  | a :: l => by
    let same := fun b => decide (f b = f a)
    have hsplit : a :: l = (a :: l.takeWhile same) ++ l.dropWhile same := by
      rw [List.cons_append, List.takeWhile_append_dropWhile]
    rw [hsplit]
    refine append _ _ (f a) ⟨List.cons_ne_nil _ _, ?_, ?_⟩ (run_induction f nil append _)
    · intro b hb
      obtain rfl | hb := List.mem_cons.mp hb
      · rfl
      · have hb' : same b = true := List.mem_takeWhile_imp hb
        exact of_decide_eq_true hb'
    · intro b hb
      have hnot := List.head?_dropWhile_not same l
      rw [Option.mem_def.mp hb] at hnot
      have hb' : same b = false := by simpa using hnot
      exact of_decide_eq_false hb'
termination_by l => l.length
decreasing_by exact Nat.lt_succ_of_le (List.length_dropWhile_le ..)

/-! ## Groups level by level -/

/-- The group values of an entry, outermost first. -/
def groupTuple (source : Source α) (fields : List String) (e : Entry α) : List GroupValue :=
  fields.map fun field => groupOf source field e

/-- The headers among rows. -/
def headersOf (rows : List (DisplayRow α)) : List GroupHeader := rows.filterMap (·.header?)

/-- No group that has a header is interrupted: the entries of each outermost group stand together,
and inside each of these groups that is open the same is true of the groups below. -/
def Unbroken (source : Source α) (folded : CollapsedSet) :
    List String → List GroupValue → List (Entry α) → Prop
  | [], _, _ => True
  | field :: fields, ancestors, entries =>
    Contiguous (groupOf source field) entries ∧
    ∀ value, folded.contains ⟨ancestors ++ [value]⟩ = false →
      Unbroken source folded fields (ancestors ++ [value])
        (entries.filter fun e => groupOf source field e = value)

section Levels

variable {source : Source α} {folded : CollapsedSet} {field : String} {fields : List String}
  {ancestors : List GroupValue} {run rest entries : List (Entry α)} {value : GroupValue}

theorem groupTuple_cons (e : Entry α) :
    groupTuple source (field :: fields) e =
      groupOf source field e :: groupTuple source fields e := rfl

theorem unbroken_nil : Unbroken source folded fields ancestors [] := by
  induction fields generalizing ancestors with
  | nil => trivial
  | cons field fields ih =>
    refine ⟨fun x y z hsub => ?_, fun value _ => ih⟩
    cases List.sublist_nil.mp hsub

/-- The entries of a group are the run in front when nothing in the rest belongs to it. -/
theorem filter_run_append (hrun : ∀ e ∈ run, groupOf source field e = value)
    (hrest : ∀ e ∈ rest, groupOf source field e ≠ value) :
    (run ++ rest).filter (fun e => groupOf source field e = value) = run := by
  have hkeep : run.filter (fun e => groupOf source field e = value) = run :=
    List.filter_eq_self.mpr fun e he => decide_eq_true (hrun e he)
  have hdrop : rest.filter (fun e => groupOf source field e = value) = [] :=
    List.filter_eq_nil_iff.mpr fun e he => by simpa using hrest e he
  rw [List.filter_append, hkeep, hdrop, List.append_nil]

/-- The entries of another group than the run in front are in the rest. -/
theorem filter_run_append_of_ne {other : GroupValue}
    (hrun : ∀ e ∈ run, groupOf source field e = value) (hne : other ≠ value) :
    (run ++ rest).filter (fun e => groupOf source field e = other) =
      rest.filter fun e => groupOf source field e = other := by
  have hdrop : run.filter (fun e => groupOf source field e = other) = [] :=
    List.filter_eq_nil_iff.mpr fun e he => by simp [hrun e he, hne.symm]
  rw [List.filter_append, hdrop, List.nil_append]

/-- **The run in front is unbroken by itself**, and so is the rest, which does not belong to it. -/
theorem unbroken_append_iff (hfront : FrontRun (groupOf source field) value run rest) :
    Unbroken source folded (field :: fields) ancestors (run ++ rest) ↔
      (∀ e ∈ rest, groupOf source field e ≠ value) ∧
      (folded.contains ⟨ancestors ++ [value]⟩ = false →
        Unbroken source folded fields (ancestors ++ [value]) run) ∧
      Unbroken source folded (field :: fields) ancestors rest := by
  have hrun := hfront.eq
  simp only [Unbroken, contiguous_append_iff hfront]
  constructor
  · rintro ⟨⟨hrest, hcontiguous⟩, hinner⟩
    refine ⟨hrest, fun hopen => ?_, hcontiguous, fun other hopen => ?_⟩
    · have := hinner value hopen
      rwa [filter_run_append hrun hrest] at this
    · by_cases hother : other = value
      · subst hother
        have hnone : rest.filter (fun e => groupOf source field e = other) = [] :=
          List.filter_eq_nil_iff.mpr fun e he => by simpa using hrest e he
        rw [hnone]
        exact unbroken_nil
      · have := hinner other hopen
        rwa [filter_run_append_of_ne hrun hother] at this
  · rintro ⟨hrest, hfirst, hcontiguous, hinner⟩
    refine ⟨⟨hrest, hcontiguous⟩, fun other hopen => ?_⟩
    by_cases hother : other = value
    · subst hother
      rw [filter_run_append hrun hrest]
      exact hfirst hopen
    · rw [filter_run_append_of_ne hrun hother]
      exact hinner other hopen

/-- The run in front has a header, with the rows under it unless it is folded. -/
theorem nestedRows_run_append (hfront : FrontRun (groupOf source field) value run rest) :
    nestedRows source folded (field :: fields) ancestors (run ++ rest) =
      .header (runHeader folded ancestors field value run.length) ::
        ((if folded.contains ⟨ancestors ++ [value]⟩ then [] else
            nestedRows source folded fields (ancestors ++ [value]) run) ++
          nestedRows source folded (field :: fields) ancestors rest) := by
  have hmeet : ∀ a ∈ run.getLast?, ∀ b ∈ rest.head?,
      groupOf source field a ≠ groupOf source field b := by
    intro a ha b hb
    rw [hfront.eq a (List.mem_of_getLast? ha)]
    exact (hfront.head_ne b hb).symm
  rw [nestedRows_append hmeet, nestedRows_of_forall_eq hfront.ne_nil hfront.eq, List.cons_append]

/-! ## Headers -/

/-- The headers of the nested rows of entries. -/
def nestedHeaders (source : Source α) (folded : CollapsedSet) (fields : List String)
    (ancestors : List GroupValue) (entries : List (Entry α)) : List GroupHeader :=
  headersOf (nestedRows source folded fields ancestors entries)

@[simp] theorem nestedHeaders_nil : nestedHeaders source folded fields ancestors [] = [] := by
  rw [nestedHeaders, nestedRows_nil]
  rfl

@[simp] theorem nestedHeaders_no_fields :
    nestedHeaders source folded [] ancestors entries = [] := by
  simp [nestedHeaders, nestedRows, headersOf, DisplayRow.header?]

/-- The run in front has a header, with the headers under it unless it is folded. -/
theorem nestedHeaders_append (hfront : FrontRun (groupOf source field) value run rest) :
    nestedHeaders source folded (field :: fields) ancestors (run ++ rest) =
      runHeader folded ancestors field value run.length ::
        ((if folded.contains ⟨ancestors ++ [value]⟩ then [] else
            nestedHeaders source folded fields (ancestors ++ [value]) run) ++
          nestedHeaders source folded (field :: fields) ancestors rest) := by
  simp only [nestedHeaders, nestedRows_run_append hfront, headersOf, List.filterMap_cons,
    List.filterMap_append, DisplayRow.header?]
  split <;> rfl

theorem mem_nestedHeaders_append {h : GroupHeader}
    (hfront : FrontRun (groupOf source field) value run rest) :
    h ∈ nestedHeaders source folded (field :: fields) ancestors (run ++ rest) ↔
      h = runHeader folded ancestors field value run.length ∨
      (folded.contains ⟨ancestors ++ [value]⟩ = false ∧
        h ∈ nestedHeaders source folded fields (ancestors ++ [value]) run) ∨
      h ∈ nestedHeaders source folded (field :: fields) ancestors rest := by
  rw [nestedHeaders_append hfront, List.mem_cons, List.mem_append]
  cases folded.contains ⟨ancestors ++ [value]⟩ <;> simp

/-- **A header is for a group of an entry**, at some of the outermost fields. -/
theorem exists_path_eq {h : GroupHeader}
    (hmem : h ∈ nestedHeaders source folded fields ancestors entries) :
    ∃ e ∈ entries, ∃ outer, outer <+: fields ∧ outer ≠ [] ∧
      h.path.values = ancestors ++ groupTuple source outer e := by
  induction fields generalizing ancestors entries with
  | nil => simp at hmem
  | cons field fields ihFields =>
    induction entries using run_induction (groupOf source field) with
    | nil => simp at hmem
    | append run rest value hfront ihRest =>
      obtain rfl | ⟨-, hinner⟩ | hrest := (mem_nestedHeaders_append hfront).mp hmem
      · obtain ⟨e, he⟩ := List.exists_mem_of_ne_nil run hfront.ne_nil
        refine ⟨e, List.mem_append_left _ he, [field], ?_, List.cons_ne_nil _ _, ?_⟩
        · exact List.prefix_append [field] fields
        · rw [← hfront.eq e he]
          rfl
      · obtain ⟨e, he, outer, houter, -, hpath⟩ := ihFields hinner
        refine ⟨e, List.mem_append_left _ he, field :: outer, ?_, List.cons_ne_nil _ _, ?_⟩
        · exact (List.prefix_cons_inj field).mpr houter
        · rw [hpath, groupTuple_cons, hfront.eq e he, List.append_assoc, List.singleton_append]
      · obtain ⟨e, he, hpath⟩ := ihRest hrest
        exact ⟨e, List.mem_append_right _ he, hpath⟩

/-- A header is for a group inside an outermost group of an entry, or for that group. -/
theorem exists_prefix_path {h : GroupHeader}
    (hmem : h ∈ nestedHeaders source folded (field :: fields) ancestors entries) :
    ∃ e ∈ entries, ancestors ++ [groupOf source field e] <+: h.path.values := by
  obtain ⟨e, he, outer, houter, hne, hpath⟩ := exists_path_eq hmem
  obtain ⟨first, inner, rfl⟩ := List.exists_cons_of_ne_nil hne
  obtain ⟨rfl, -⟩ := List.cons_prefix_cons.mp houter
  refine ⟨e, he, groupTuple source inner e, ?_⟩
  rw [hpath, groupTuple_cons, List.append_assoc, List.singleton_append]

/-- The path of a header is longer than the paths of the groups around it. -/
theorem length_lt_of_mem {h : GroupHeader}
    (hmem : h ∈ nestedHeaders source folded fields ancestors entries) :
    ancestors.length < h.path.values.length := by
  obtain ⟨e, -, outer, -, hne, hpath⟩ := exists_path_eq hmem
  have := List.length_pos_of_ne_nil hne
  simp only [hpath, List.length_append, groupTuple, List.length_map]
  omega

/-- The outermost group of an entry has a header. -/
theorem exists_mem_of_mem {e : Entry α} (he : e ∈ entries) :
    ∃ h ∈ nestedHeaders source folded (field :: fields) ancestors entries,
      h.path.values = ancestors ++ [groupOf source field e] := by
  induction entries using run_induction (groupOf source field) with
  | nil => cases he
  | append run rest value hfront ih =>
    obtain he | he := List.mem_append.mp he
    · refine ⟨_, (mem_nestedHeaders_append hfront).mpr (.inl rfl), ?_⟩
      rw [hfront.eq e he]
      rfl
    · obtain ⟨h, hmem, hpath⟩ := ih he
      exact ⟨h, (mem_nestedHeaders_append hfront).mpr (.inr (.inr hmem)), hpath⟩

/-- A path leads through one group only at each level. -/
theorem value_unique {path : List GroupValue} {other : GroupValue}
    (h : ancestors ++ [value] <+: path) (h' : ancestors ++ [other] <+: path) : value = other := by
  have hlength : (ancestors ++ [value]).length = (ancestors ++ [other]).length := by simp
  have heq := (List.prefix_of_prefix_length_le h h' hlength.le).eq_of_length hlength
  simpa using heq

/-- No header of the rest is for a group of the run in front. -/
theorem not_prefix_of_mem {h : GroupHeader} (hrest : ∀ e ∈ rest, groupOf source field e ≠ value)
    (hmem : h ∈ nestedHeaders source folded (field :: fields) ancestors rest) :
    ¬ ancestors ++ [value] <+: h.path.values := by
  intro hprefix
  obtain ⟨e, he, hpath⟩ := exists_prefix_path hmem
  exact hrest e he (value_unique hpath hprefix)

/-- The path of a header begins with the groups around it. -/
theorem prefix_of_mem {h : GroupHeader}
    (hmem : h ∈ nestedHeaders source folded fields ancestors entries) :
    ancestors <+: h.path.values := by
  obtain ⟨e, -, outer, -, -, hpath⟩ := exists_path_eq hmem
  exact ⟨_, hpath.symm⟩

/-- The paths of the headers of entries. -/
def nestedPaths (source : Source α) (folded : CollapsedSet) (fields : List String)
    (ancestors : List GroupValue) (entries : List (Entry α)) : List GroupPath :=
  (nestedHeaders source folded fields ancestors entries).map (·.path)

/-- The paths are different when those of the run are, those of the rest are, and nothing in the
rest belongs to the group of the run. -/
theorem nodup_paths_append_iff (hfront : FrontRun (groupOf source field) value run rest) :
    (nestedPaths source folded (field :: fields) ancestors (run ++ rest)).Nodup ↔
      (∀ e ∈ rest, groupOf source field e ≠ value) ∧
      (folded.contains ⟨ancestors ++ [value]⟩ = false →
        (nestedPaths source folded fields (ancestors ++ [value]) run).Nodup) ∧
      (nestedPaths source folded (field :: fields) ancestors rest).Nodup := by
  have hinside : ∀ h ∈ (if folded.contains ⟨ancestors ++ [value]⟩ then [] else
      nestedHeaders source folded fields (ancestors ++ [value]) run),
      h ∈ nestedHeaders source folded fields (ancestors ++ [value]) run := by
    intro h hmem
    split at hmem
    · cases hmem
    · exact hmem
  rw [nestedPaths, nestedHeaders_append hfront, List.map_cons, List.map_append,
    List.nodup_cons, List.nodup_append, List.mem_append, not_or]
  constructor
  · rintro ⟨⟨-, hfirst⟩, hinner, hrest, -⟩
    refine ⟨fun e he hvalue => ?_, fun hopen => ?_, hrest⟩
    · obtain ⟨h, hmem, hpath⟩ : ∃ h ∈ nestedHeaders source folded (field :: fields) ancestors rest,
        h.path.values = ancestors ++ [groupOf source field e] := exists_mem_of_mem he
      refine hfirst (List.mem_map.mpr ⟨h, hmem, ?_⟩)
      exact congrArg GroupPath.mk (hvalue ▸ hpath)
    · simpa [nestedPaths, hopen] using hinner
  · rintro ⟨hrest, hinner, hnodup⟩
    refine ⟨⟨fun hmem => ?_, fun hmem => ?_⟩, ?_, hnodup, fun p hp q hq heq => ?_⟩
    · obtain ⟨h, hmem, hpath⟩ := List.mem_map.mp hmem
      have hlength := length_lt_of_mem (hinside h hmem)
      rw [hpath] at hlength
      exact hlength.false
    · obtain ⟨h, hmem, hpath⟩ := List.mem_map.mp hmem
      refine not_prefix_of_mem hrest hmem ?_
      rw [hpath]
      exact List.prefix_rfl
    · split
      · exact List.nodup_nil
      · next hopen => exact hinner (Bool.eq_false_iff.mpr hopen)
    · obtain ⟨h, hmem, rfl⟩ := List.mem_map.mp hp
      obtain ⟨h', hmem', rfl⟩ := List.mem_map.mp hq
      refine not_prefix_of_mem hrest hmem' ?_
      rw [← heq]
      exact prefix_of_mem (hinside h hmem)

/-- **No two headers have the same path exactly when no group is interrupted.** -/
theorem nodup_paths_iff :
    (nestedPaths source folded fields ancestors entries).Nodup ↔
      Unbroken source folded fields ancestors entries := by
  induction fields generalizing ancestors entries with
  | nil => simp [nestedPaths, Unbroken]
  | cons field fields ihFields =>
    induction entries using run_induction (groupOf source field) with
    | nil => simp [nestedPaths, unbroken_nil]
    | append run rest value hfront ihRest =>
      rw [nodup_paths_append_iff hfront, unbroken_append_iff hfront, ihRest,
        ihFields]

/-- An entry is under a group inside an outermost group only if it is in that outermost group. -/
theorem groupOf_eq_of_isPrefixOf {path : GroupPath} {e : Entry α}
    (hpath : ancestors ++ [value] <+: path.values)
    (he : path.isPrefixOf ⟨ancestors ++ groupTuple source (field :: fields) e⟩) :
    groupOf source field e = value := by
  have hentry : ancestors ++ [value] <+: ancestors ++ groupTuple source (field :: fields) e :=
    hpath.trans (List.isPrefixOf_iff_prefix.mp he)
  refine value_unique ⟨groupTuple source fields e, ?_⟩ hentry
  rw [groupTuple_cons, List.append_assoc, List.singleton_append]

/-- **When no group is interrupted, a header counts the entries of its group.** -/
theorem count_eq_countP {h : GroupHeader}
    (hunbroken : Unbroken source folded fields ancestors entries)
    (hmem : h ∈ nestedHeaders source folded fields ancestors entries) :
    h.count = entries.countP fun e =>
      h.path.isPrefixOf ⟨ancestors ++ groupTuple source fields e⟩ := by
  induction fields generalizing ancestors entries with
  | nil => simp at hmem
  | cons field fields ihFields =>
    induction entries using run_induction (groupOf source field) with
    | nil => simp at hmem
    | append run rest value hfront ihRest =>
      obtain ⟨hrest, hinner, hunbroken⟩ := (unbroken_append_iff hfront).mp hunbroken
      -- the rest has nothing under a header of the run, nor the run under a header of the rest
      have hnone (hpath : ancestors ++ [value] <+: h.path.values) : rest.countP (fun e =>
          h.path.isPrefixOf ⟨ancestors ++ groupTuple source (field :: fields) e⟩) = 0 :=
        List.countP_eq_zero.mpr fun e he hprefix =>
          hrest e he (groupOf_eq_of_isPrefixOf hpath hprefix)
      rw [List.countP_append]
      obtain rfl | ⟨hopen, hmem⟩ | hmem := (mem_nestedHeaders_append hfront).mp hmem
      · rw [hnone List.prefix_rfl, Nat.add_zero]
        refine (List.countP_eq_length.mpr fun e he => ?_).symm
        refine List.isPrefixOf_iff_prefix.mpr ⟨groupTuple source fields e, ?_⟩
        rw [groupTuple_cons, hfront.eq e he]
        exact List.append_assoc ..
      · rw [hnone (prefix_of_mem hmem), Nat.add_zero, ihFields (hinner hopen) hmem]
        refine List.countP_congr fun e he => ?_
        rw [groupTuple_cons, hfront.eq e he, List.append_assoc, List.singleton_append]
      · obtain ⟨e', he', hpath⟩ := exists_prefix_path hmem
        have hzero : run.countP (fun e =>
            h.path.isPrefixOf ⟨ancestors ++ groupTuple source (field :: fields) e⟩) = 0 :=
          List.countP_eq_zero.mpr fun e he hprefix =>
            hrest e' he' ((groupOf_eq_of_isPrefixOf hpath hprefix).symm.trans (hfront.eq e he))
        rw [hzero, Nat.zero_add, ihRest hunbroken hmem]

/-- The groups of entries are whole in some rows: no two headers have the same path, and each header
counts the entries whose group values begin with its path. -/
structure GroupsWhole (source : Source α) (fields : List String) (entries : List (Entry α))
    (rows : List (DisplayRow α)) : Prop where
  nodup_paths : ((headersOf rows).map (·.path)).Nodup
  count_eq : ∀ h ∈ headersOf rows, h.count = entries.countP fun e =>
    h.path.isPrefixOf ⟨groupTuple source fields e⟩

/-- The order of the entries has no part in the counts. -/
theorem groupsWhole_of_perm {more : List (Entry α)} {rows : List (DisplayRow α)}
    (hperm : more.Perm entries) (h : GroupsWhole source fields entries rows) :
    GroupsWhole source fields more rows :=
  ⟨h.nodup_paths, fun header hmem => by rw [h.count_eq header hmem, hperm.countP_eq]⟩

/-- **The groups are whole exactly when none of them is interrupted.** -/
theorem groupsWhole_groupRows_iff :
    GroupsWhole source fields entries (groupRows source fields folded entries) ↔
      Unbroken source folded fields [] entries := by
  rw [groupRows_eq_nestedRows, ← nodup_paths_iff]
  refine ⟨fun h => h.nodup_paths, fun h => ⟨h, fun header hmem => ?_⟩⟩
  exact count_eq_countP (nodup_paths_iff.mp h) hmem

end Levels

end Tabular
