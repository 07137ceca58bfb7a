import Mathlib.Data.List.SplitBy
import Tabular.Group.Rows
/-!
# Grouped rows are nested runs

`nestedRows` says what the rows of a grouping are, level by level: the entries are cut into maximal
runs with one group value at the outermost field, and each run becomes a header with the rows of
the run at the fields below it, or nothing more if the header is folded.

`groupRows` finds the same rows in one pass. What carries the pass is `Tracks`, a relation between
the entries seen so far, the rows that are complete and the chain of groups that is open: the chain
describes the last run, and inside it the last run of the next level, and so on. Placing an entry
keeps the relation (`Tracks.placeRecord`), and closing the chain turns it into the nested rows of
the entries seen (`Tracks.closeChain`). So the pass gives the nested rows of all entries
(`groupRows_eq_nestedRows`), also when these are the records at listed positions
(`groupRows_at_positions`).
-/

namespace Tabular

variable {α : Type}

/-! ## Runs and their rows -/

/-- The group of an entry at a field. -/
def groupOf (source : Source α) (field : String) (e : Entry α) : GroupValue :=
  .of (source.value e.record field) (source.schema.domainOf field)

theorem groupKeys_cons (source : Source α) (field : String) (fields : List String) (e : Entry α) :
    groupKeys source (field :: fields) e.record =
      ⟨field, groupOf source field e⟩ :: groupKeys source fields e.record := rfl

/-- The maximal runs of consecutive entries with one group at a field. -/
def groupRuns (source : Source α) (field : String) (entries : List (Entry α)) :
    List (List (Entry α)) :=
  entries.splitBy fun a b => groupOf source field a == groupOf source field b

/-- The header of a run of entries with a group value, under the groups around it. -/
def runHeader (folded : CollapsedSet) (ancestors : List GroupValue) (field : String)
    (value : GroupValue) (count : Nat) : GroupHeader :=
  { path := ⟨ancestors ++ [value]⟩
    level := ancestors.length
    field, value, count
    collapsed := folded.contains ⟨ancestors ++ [value]⟩ }

/-- The rows of a run of entries that are grouped by the remaining fields, under the groups around
it: a header for every maximal run, with the rows of the run at the next field unless the header is
folded, and the entries themselves once no field is left. -/
def nestedRows (source : Source α) (folded : CollapsedSet) :
    List String → List GroupValue → List (Entry α) → List (DisplayRow α)
  | [], _, entries => entries.map .record
  | field :: fields, ancestors, entries =>
    (groupRuns source field entries).flatMap fun
      | [] => []
      | e :: rest =>
        let value := groupOf source field e
        let header := runHeader folded ancestors field value (e :: rest).length
        .header header :: (if header.collapsed then [] else
          nestedRows source folded fields (ancestors ++ [value]) (e :: rest))

section Runs

variable {source : Source α} {folded : CollapsedSet} {field : String} {fields : List String}
  {ancestors : List GroupValue}

@[simp] theorem groupRuns_nil : groupRuns source field [] = [] := rfl

/-- Two lists of entries whose groups differ where they meet have their runs side by side. -/
theorem groupRuns_append {entries more : List (Entry α)}
    (h : ∀ a ∈ entries.getLast?, ∀ b ∈ more.head?,
      groupOf source field a ≠ groupOf source field b) :
    groupRuns source field (entries ++ more) =
      groupRuns source field entries ++ groupRuns source field more :=
  List.splitBy_append fun a ha b hb => beq_eq_false_iff_ne.mpr (h a ha b hb)

/-- Entries of one group are one run. -/
theorem groupRuns_of_forall_eq {run : List (Entry α)} {value : GroupValue} (hne : run ≠ [])
    (h : ∀ e ∈ run, groupOf source field e = value) : groupRuns source field run = [run] := by
  refine List.splitBy_of_isChain hne (List.Pairwise.isChain ?_)
  refine List.pairwise_of_forall_mem_list fun a ha b hb => ?_
  simp [h a ha, h b hb]

@[simp] theorem nestedRows_nil : nestedRows source folded fields ancestors [] = [] := by
  cases fields <;> rfl

theorem nestedRows_append {entries more : List (Entry α)}
    (h : ∀ a ∈ entries.getLast?, ∀ b ∈ more.head?,
      groupOf source field a ≠ groupOf source field b) :
    nestedRows source folded (field :: fields) ancestors (entries ++ more) =
      nestedRows source folded (field :: fields) ancestors entries ++
        nestedRows source folded (field :: fields) ancestors more := by
  simp only [nestedRows, groupRuns_append h, List.flatMap_append]

/-- The rows of a single run: its header, and the rows under it. -/
theorem nestedRows_of_forall_eq {run : List (Entry α)} {value : GroupValue} (hne : run ≠ [])
    (h : ∀ e ∈ run, groupOf source field e = value) :
    nestedRows source folded (field :: fields) ancestors run =
      .header (runHeader folded ancestors field value run.length) ::
        (if folded.contains ⟨ancestors ++ [value]⟩ then [] else
          nestedRows source folded fields (ancestors ++ [value]) run) := by
  obtain ⟨e, rest, rfl⟩ := List.exists_cons_of_ne_nil hne
  have he : groupOf source field e = value := h e List.mem_cons_self
  simp [nestedRows, groupRuns_of_forall_eq hne h, he, runHeader]

end Runs

/-! ## The pass -/

/-- After the entries `seen` of a run under the groups `ancestors`, grouped by the fields, the rows
`done` are complete and `chain` is open. -/
inductive Tracks (source : Source α) (folded : CollapsedSet) : List String → List GroupValue →
    List (Entry α) → List (DisplayRow α) → List (OpenGroup α) → Prop
  /-- Without fields, entries are rows and nothing is open. -/
  | entries (ancestors : List GroupValue) (seen : List (Entry α)) :
    Tracks source folded [] ancestors seen (seen.map .record) []
  | start (field : String) (fields : List String) (ancestors : List GroupValue) :
    Tracks source folded (field :: fields) ancestors [] [] []
  /-- The rows before the last run are complete, and the last run is the group that is open. -/
  | run {field : String} {fields : List String} {ancestors : List GroupValue}
      (before run : List (Entry α)) (value : GroupValue) {rows : List (DisplayRow α)}
      {inner : List (OpenGroup α)} (hne : run ≠ [])
      (hrun : ∀ e ∈ run, groupOf source field e = value)
      (hbefore : ∀ e ∈ before.getLast?, groupOf source field e ≠ value)
      (hinner : Tracks source folded fields (ancestors ++ [value]) run rows inner) :
    Tracks source folded (field :: fields) ancestors (before ++ run)
      (nestedRows source folded (field :: fields) ancestors before)
      (⟨runHeader folded ancestors field value run.length, rows⟩ :: inner)

variable {source : Source α} {folded : CollapsedSet} {fields : List String}
  {ancestors : List GroupValue} {seen : List (Entry α)} {done : List (DisplayRow α)}
  {chain : List (OpenGroup α)}

namespace Tracks

/-- **Closing the chain gives the nested rows** of the entries seen. -/
theorem closeChain (h : Tracks source folded fields ancestors seen done chain) :
    done ++ Tabular.closeChain chain = nestedRows source folded fields ancestors seen := by
  induction h with
  | entries ancestors seen => simp [Tabular.closeChain, nestedRows]
  | start field fields ancestors => simp [Tabular.closeChain]
  | @run field fields ancestors before run value rows inner hne hrun hbefore hinner ih =>
    have hmeet : ∀ a ∈ before.getLast?, ∀ b ∈ run.head?,
        groupOf source field a ≠ groupOf source field b := by
      intro a ha b hb
      rw [hrun b (List.mem_of_mem_head? hb)]
      exact hbefore a ha
    rw [nestedRows_append hmeet, nestedRows_of_forall_eq hne hrun, Tabular.closeChain, ih]
    rfl

/-- An entry opens a chain of its own. -/
theorem openChain (e : Entry α) (fields : List String) (ancestors : List GroupValue) :
    Tracks source folded fields ancestors [e]
      (Tabular.openChain folded e ancestors (groupKeys source fields e.record)).1
      (Tabular.openChain folded e ancestors (groupKeys source fields e.record)).2 := by
  induction fields generalizing ancestors with
  | nil => exact .entries ancestors [e]
  | cons field fields ih =>
    exact .run [] [e] (groupOf source field e) (by simp) (by simp) (by simp)
      (ih (ancestors ++ [groupOf source field e]))

/-- **Placing an entry keeps track**: what was seen grows by the entry, and what is complete by the
rows that the entry completes. -/
theorem placeRecord (h : Tracks source folded fields ancestors seen done chain) (e : Entry α) :
    Tracks source folded fields ancestors (seen ++ [e])
      (done ++ (Tabular.placeRecord folded e ancestors chain
        (groupKeys source fields e.record)).1)
      (Tabular.placeRecord folded e ancestors chain (groupKeys source fields e.record)).2 := by
  induction h with
  | entries ancestors seen =>
    have key : Tracks source folded [] ancestors (seen ++ [e]) ((seen ++ [e]).map .record) [] :=
      .entries ancestors (seen ++ [e])
    simpa [groupKeys, Tabular.placeRecord, Tabular.openChain, Tabular.closeChain] using key
  | start field fields ancestors => exact openChain e (field :: fields) ancestors
  | @run field fields ancestors before run value rows inner hne hrun hbefore hinner ih =>
    by_cases hvalue : value = groupOf source field e
    · -- The entry stays in the open group, and the chain changes below it.
      have hrun' : ∀ d ∈ run ++ [e], groupOf source field d = value := by
        intro d hd
        rcases List.mem_append.mp hd with hd | hd
        · exact hrun d hd
        · rw [List.mem_singleton.mp hd, hvalue]
      have key := Tracks.run before (run ++ [e]) value (by simp) hrun' hbefore ih
      rw [List.length_append, List.length_singleton, ← List.append_assoc] at key
      simpa only [groupKeys_cons, Tabular.placeRecord, runHeader, hvalue, if_true,
        List.append_nil] using key
    · -- The entry ends the open group, whose rows become complete.
      have hlast : ∀ d ∈ (before ++ run).getLast?,
          groupOf source field d ≠ groupOf source field e := by
        intro d hd
        rw [List.getLast?_append_of_ne_nil _ hne] at hd
        rw [hrun d (List.mem_of_mem_getLast? hd)]
        exact hvalue
      have hdone := closeChain (.run before run value hne hrun hbefore hinner)
      have hopen : Tracks source folded fields (ancestors ++ [groupOf source field e]) [e] _ _ :=
        openChain e fields _
      have key := Tracks.run (before ++ run) [e] (groupOf source field e) (by simp) (by simp) hlast
        hopen
      rw [← hdone] at key
      simpa only [groupKeys_cons, Tabular.placeRecord, Tabular.openChain, runHeader, hvalue,
        if_false, List.append_nil, List.length_singleton] using key

/-- The pass over the remaining entries completes the nested rows of all entries. -/
theorem groupRowsFrom (h : Tracks source folded fields [] seen done chain)
    (rest : List (Entry α)) :
    done ++ Tabular.groupRowsFrom source fields folded chain rest =
      nestedRows source folded fields [] (seen ++ rest) := by
  induction rest generalizing seen done chain with
  | nil => simpa [Tabular.groupRowsFrom] using h.closeChain
  | cons e rest ih =>
    have := ih (h.placeRecord e)
    rw [List.append_assoc, List.append_assoc] at this
    exact this

end Tracks

/-- The pass begins with nothing seen and nothing open. -/
theorem tracks_nil (source : Source α) (folded : CollapsedSet) (fields : List String) :
    Tracks source folded fields [] [] [] [] := by
  cases fields with
  | nil => exact .entries [] []
  | cons field fields => exact .start field fields []

/-- **The rows of the pass are the nested rows.** -/
theorem groupRows_eq_nestedRows (source : Source α) (fields : List String) (folded : CollapsedSet)
    (entries : List (Entry α)) :
    groupRows source fields folded entries = nestedRows source folded fields [] entries :=
  (tracks_nil source folded fields).groupRowsFrom entries

/-! ## Records at listed positions -/

/-- Positions of records give the entries of these records, one for each. -/
theorem entriesAt_eq_pmap {records : List α} {positions : List Nat}
    (h : ∀ i ∈ positions, i < records.length) :
    entriesAt records positions = positions.pmap (fun i hi => ⟨i, records[i]⟩) h := by
  induction positions with
  | nil => rfl
  | cons i rest ih =>
    have hi : i < records.length := h i List.mem_cons_self
    have := ih fun j hj => h j (List.mem_cons_of_mem i hj)
    simp only [entriesAt] at this ⊢
    simp [List.getElem?_eq_getElem hi, this]

/-- **The rows of records at listed positions**, in whatever order these come, are the nested rows
of the records at these positions. -/
theorem groupRows_at_positions (source : Source α) (fields : List String) (folded : CollapsedSet)
    (records : List α) (positions : List Nat) (h : ∀ i ∈ positions, i < records.length) :
    groupRows source fields folded (entriesAt records positions) =
      nestedRows source folded fields []
        (positions.pmap (fun i hi => (⟨i, records[i]⟩ : Entry α)) h) := by
  rw [entriesAt_eq_pmap h, groupRows_eq_nestedRows]

/-- Pairs of flags, read as a record with two fields. -/
def flagPairs : Source (Bool × Bool) where
  schema := ⟨[⟨"a", .boolean, none⟩, ⟨"b", .boolean, none⟩]⟩
  value r field := .flag (if field = "a" then r.1 else r.2)
  transliterate := id

/-- The first group is split by the order of the positions, and one group inside it is folded. -/
theorem groupRows_at_positions_flagPairs :
    (∀ i ∈ [3, 0, 2, 1], i < [(true, true), (true, false), (false, true), (true, false)].length) ∧
    groupRows flagPairs ["a", "b"] (.ofList [⟨[.text "true", .text "false"]⟩])
        (entriesAt [(true, true), (true, false), (false, true), (true, false)] [3, 0, 2, 1]) =
      [.header ⟨⟨[.text "true"]⟩, 0, "a", .text "true", 2, false⟩,
       .header ⟨⟨[.text "true", .text "false"]⟩, 1, "b", .text "false", 1, true⟩,
       .header ⟨⟨[.text "true", .text "true"]⟩, 1, "b", .text "true", 1, false⟩,
       .record ⟨0, (true, true)⟩,
       .header ⟨⟨[.text "false"]⟩, 0, "a", .text "false", 1, false⟩,
       .header ⟨⟨[.text "false", .text "true"]⟩, 1, "b", .text "true", 1, false⟩,
       .record ⟨2, (false, true)⟩,
       .header ⟨⟨[.text "true"]⟩, 0, "a", .text "true", 1, false⟩,
       .header ⟨⟨[.text "true", .text "false"]⟩, 1, "b", .text "false", 1, true⟩] :=
  ⟨by decide, (groupRows_at_positions _ _ _ _ _ (by decide)).trans (by decide +kernel)⟩

end Tabular
