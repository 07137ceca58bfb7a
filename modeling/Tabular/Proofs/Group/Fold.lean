import Mathlib.Data.List.Sort
import Tabular.Proofs.Group.Shape
/-!
# Folding a group

A group path is folded or not, and nothing else about the folded groups can change: a set of folded
paths is determined by what it contains, and toggling a path twice gives the set back
(`CollapsedSet.toggle_toggle`).

Folding a path in rows that are there already (`foldRows`) marks every header of the path and leaves
out the rows under it. This gives the rows that the records have when the path is among the folded
ones (`groupRows_collapse`). The path may have several headers, when its group is cut in pieces;
other folded groups play no part, since a header keeps its own mark while it is hidden.
-/

namespace Tabular

open Std

/-! ## Sets of folded paths -/

theorem SortedMap.contains_iff_mem_keys {κ υ : Type} [Ord κ] [LawfulEqOrd κ] {m : SortedMap κ υ}
    {k : κ} : m.contains k = true ↔ k ∈ m.keys := by
  simp only [contains, find?, keys, Option.isSome_map, List.find?_isSome, beq_iff_eq, List.mem_map,
    Std.compare_eq_iff_eq]

namespace CollapsedSet

variable {s t : CollapsedSet} {p q : GroupPath}

/-- A set is determined by the paths that it contains. -/
theorem ext_contains (h : ∀ p, s.contains p = t.contains p) : s = t := by
  have : Std.Irrefl fun p q : GroupPath => compare p q = .lt :=
    ⟨fun p h => by simp [ReflCmp.compare_self] at h⟩
  have : Std.Antisymm fun p q : GroupPath => compare p q = .lt :=
    ⟨fun p q hpq hqp => absurd (hqp.symm.trans (OrientedCmp.gt_of_lt hpq)) nofun⟩
  have hascending (s : CollapsedSet) : s.paths.Pairwise fun p q => compare p q = .lt :=
    List.pairwise_map.mpr s.map.ascending
  have hpaths : s.paths = t.paths := (hascending s).eq_of_mem_iff (hascending t) fun p => by
    have hmem := h p
    rw [Bool.eq_iff_iff] at hmem
    exact SortedMap.contains_iff_mem_keys.symm.trans (hmem.trans SortedMap.contains_iff_mem_keys)
  rw [← ofList_paths s, hpaths, ofList_paths]

theorem contains_collapse (s : CollapsedSet) (p q : GroupPath) :
    (s.collapse p).contains q = (decide (q = p) || s.contains q) := by
  rw [contains, collapse, SortedMap.contains, SortedMap.find?_insert]
  by_cases h : q = p
  · simp [h]
  · simp [h, Ne.symm h]
    rfl

theorem contains_expand (s : CollapsedSet) (p q : GroupPath) :
    (s.expand p).contains q = (!decide (q = p) && s.contains q) := by
  rw [contains, expand, SortedMap.contains, SortedMap.find?_erase]
  by_cases h : q = p
  · simp [h]
  · simp [h, Ne.symm h]
    rfl

/-- Toggling a path changes whether that path is folded, and nothing else. -/
theorem contains_toggle (s : CollapsedSet) (p q : GroupPath) :
    (s.toggle p).contains q = if q = p then !s.contains p else s.contains q := by
  unfold toggle
  split
  case isTrue hp => by_cases h : q = p <;> simp [contains_expand, h, hp]
  case isFalse hp => by_cases h : q = p <;> simp [contains_collapse, h, hp]

theorem toggle_toggle (s : CollapsedSet) (p : GroupPath) : (s.toggle p).toggle p = s := by
  refine ext_contains fun q => ?_
  rw [contains_toggle, contains_toggle, contains_toggle]
  by_cases h : q = p <;> simp [h]

end CollapsedSet

/-! ## Rows with a path folded -/

variable {α : Type}

/-- The rows with a path folded: its headers are marked, and the rows under them are left out. -/
def foldRows (p : GroupPath) : List (DisplayRow α) → List (DisplayRow α)
  | [] => []
  | .record e :: rest => .record e :: foldRows p rest
  | .header h :: rest =>
    if h.path = p then
      .header { h with collapsed := true } ::
        foldRows p (rest.dropWhile (isDeeper DisplayRow.level? h.level))
    else .header h :: foldRows p rest
termination_by rows => rows.length
decreasing_by
  · simp
  · exact Nat.lt_succ_of_le (List.dropWhile_sublist _).length_le
  · simp

section Fold

open CollapsedSet

variable {source : Source α} {folded : CollapsedSet} {fields : List String} {p : GroupPath}
  {ancestors : List GroupValue} {entries : List (Entry α)} {more : List (DisplayRow α)}

theorem foldRows_header_self {h : GroupHeader} {rest : List (DisplayRow α)} (hpath : h.path = p) :
    foldRows p (.header h :: rest) =
      .header { h with collapsed := true } ::
        foldRows p (rest.dropWhile (isDeeper DisplayRow.level? h.level)) := by
  rw [foldRows, if_pos hpath]

theorem foldRows_header_of_ne {h : GroupHeader} {rest : List (DisplayRow α)} (hpath : h.path ≠ p) :
    foldRows p (.header h :: rest) = .header h :: foldRows p rest := by
  rw [foldRows, if_neg hpath]

/-- Nested rows stand under the groups around them. -/
theorem isDeeper_of_mem_nestedRows {level : Nat} (hlevel : level < ancestors.length)
    {row : DisplayRow α} (hrow : row ∈ nestedRows source folded fields ancestors entries) :
    isDeeper DisplayRow.level? level row = true := by
  induction fields generalizing ancestors entries with
  | nil =>
    obtain ⟨e, -, rfl⟩ := List.mem_map.mp hrow
    rfl
  | cons field fields ihFields =>
    induction entries using run_induction (groupOf source field) with
    | nil => simp at hrow
    | append run rest value hfront ihRest =>
      rw [nestedRows_run_append hfront, List.mem_cons, List.mem_append] at hrow
      obtain rfl | hrow | hrow := hrow
      · simpa [isDeeper, DisplayRow.level?, runHeader] using hlevel
      · split at hrow
        · cases hrow
        · exact ihFields (by simp; omega) hrow
      · exact ihRest hrow

/-- A header is marked exactly when its path is folded. -/
theorem collapsed_eq_contains {h : GroupHeader}
    (hmem : h ∈ nestedHeaders source folded fields ancestors entries) :
    h.collapsed = folded.contains h.path := by
  induction fields generalizing ancestors entries with
  | nil => simp at hmem
  | cons field fields ihFields =>
    induction entries using run_induction (groupOf source field) with
    | nil => simp at hmem
    | append run rest value hfront ihRest =>
      obtain rfl | ⟨-, hinner⟩ | hrest := (mem_nestedHeaders_append hfront).mp hmem
      · rfl
      · exact ihFields hinner
      · exact ihRest hrest

/-- What stands under a header ends where a row outside its group begins. -/
theorem dropWhile_isDeeper_append {level : Nat} {inner : List (DisplayRow α)}
    (hinner : ∀ row ∈ inner, isDeeper DisplayRow.level? level row = true)
    (hmore : isChildless DisplayRow.level? level more = true) :
    (inner ++ more).dropWhile (isDeeper DisplayRow.level? level) = more := by
  rw [List.dropWhile_append_of_pos hinner]
  cases more with
  | nil => rfl
  | cons row more =>
    obtain ⟨l, hl, hle⟩ := (Option.any_eq_true ..).mp hmore
    refine List.dropWhile_cons_of_neg ?_
    rw [isDeeper, Option.mem_def.mp hl]
    simpa using hle

/-- **Folding a path in nested rows** gives the nested rows with the path folded, whatever rows
follow outside the groups around. -/
theorem foldRows_nestedRows_append (hopen : folded.contains p = false)
    (hmore : isChildless DisplayRow.level? ancestors.length more = true) :
    foldRows p (nestedRows source folded fields ancestors entries ++ more) =
      nestedRows source (folded.collapse p) fields ancestors entries ++ foldRows p more := by
  induction fields generalizing ancestors entries more with
  | nil =>
    induction entries with
    | nil => rfl
    | cons e entries ih =>
      change foldRows p (.record e :: (nestedRows source folded [] ancestors entries ++ more)) =
        .record e :: (nestedRows source (folded.collapse p) [] ancestors entries ++ foldRows p more)
      rw [foldRows, ih]
  | cons field fields ihFields =>
    induction entries using run_induction (groupOf source field) with
    | nil => simp
    | append run rest value hfront ihRest =>
      have hbehind : isChildless DisplayRow.level? ancestors.length
          (nestedRows source folded (field :: fields) ancestors rest ++ more) = true :=
        isChildless_nestedRows_append_of_isChildless (Nat.le_refl _) hmore
      rw [nestedRows_run_append hfront, nestedRows_run_append hfront, List.cons_append,
        List.append_assoc, List.cons_append, List.append_assoc, ← ihRest]
      by_cases hpath : (⟨ancestors ++ [value]⟩ : GroupPath) = p
      · -- the run was open, and all its rows stand under the header
        have hinner : ∀ row ∈ nestedRows source folded fields (ancestors ++ [value]) run,
            isDeeper DisplayRow.level? ancestors.length row = true :=
          fun row => isDeeper_of_mem_nestedRows (by simp)
        have hbefore : folded.contains ⟨ancestors ++ [value]⟩ = false := hpath ▸ hopen
        have hafter : (folded.collapse p).contains ⟨ancestors ++ [value]⟩ = true := by
          simp [contains_collapse, hpath]
        have hdrop := dropWhile_isDeeper_append hinner hbehind
        rw [foldRows_header_self (h := runHeader folded ancestors field value run.length) hpath]
        simp [runHeader, hbefore, hafter, hdrop]
      · have hsame : (folded.collapse p).contains ⟨ancestors ++ [value]⟩ =
            folded.contains ⟨ancestors ++ [value]⟩ := by
          simp [contains_collapse, hpath]
        rw [foldRows_header_of_ne hpath, runHeader, runHeader, hsame]
        congr 1
        split
        · rfl
        · exact ihFields (isChildless_mono hbehind (by simp))

/-- **Folding a path in the rows of a grouping** gives the rows with the path folded. -/
theorem groupRows_collapse (hopen : folded.contains p = false) :
    groupRows source fields (folded.collapse p) entries =
      foldRows p (groupRows source fields folded entries) := by
  have h : foldRows p (nestedRows source folded fields [] entries ++ []) =
      nestedRows source (folded.collapse p) fields [] entries ++ foldRows p [] :=
    foldRows_nestedRows_append hopen rfl
  rw [groupRows_eq_nestedRows, groupRows_eq_nestedRows]
  simpa [foldRows] using h.symm

end Fold

end Tabular
