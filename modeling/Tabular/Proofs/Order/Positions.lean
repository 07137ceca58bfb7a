import Tabular.Proofs.Group.Nested
import Tabular.Proofs.Order.Sorted
/-!
# Sorted positions

A sort of the records at listed positions lists these positions anew. Of two positions the earlier
one is decided by the first key at which the records differ, in the direction of that key, and where
they differ at no key the smaller position is the earlier one (`Precedes`).

That is what the order of entries amounts to (`isLE_compareEntries_iff`). No two positions are equal
in it, since a position has one record. So there is one list of the positions in this order, and
every sort gives it, however the positions are listed at first (`sortEntries_at_positions`).
-/

namespace Tabular

variable {α : Type}

/-! ## What comes first -/

/-- The ascending order of two entries by their values at a field. -/
def compareAtField (source : Source α) (field : String) (a b : Entry α) : Ordering :=
  compareValues source.transliterate (source.schema.domainOf field)
    (source.value a.record field) (source.value b.record field)

/-- Under sort keys, an entry precedes another or is the same. -/
inductive Precedes (source : Source α) : List SortKey → Entry α → Entry α → Prop
  /-- Where no key is left, the positions decide, in ascending order. -/
  | position {a b : Entry α} (h : a.index ≤ b.index) : Precedes source [] a b
  /-- A key at which the values differ decides, in its direction. -/
  | differ {key : SortKey} {keys : List SortKey} {a b : Entry α}
      (h : key.direction.apply (compareAtField source key.field a b) = .lt) :
      Precedes source (key :: keys) a b
  /-- A key at which the values are equal leaves the decision to the next key. -/
  | agree {key : SortKey} {keys : List SortKey} {a b : Entry α}
      (h : compareAtField source key.field a b = .eq) (hkeys : Precedes source keys a b) :
      Precedes source (key :: keys) a b

section Compare

variable {source : Source α} {key : SortKey} {keys : List SortKey} {a b : Entry α}

theorem compareAt_eq : compareAt source key a b =
    key.direction.apply (compareAtField source key.field a b) := rfl

theorem compareEntries_cons : compareEntries source (key :: keys) a b =
    (compareAt source key a b).then (compareEntries source keys a b) := by
  rw [compareEntries, compareLex, compareBy_cons, Ordering.then_assoc]
  rfl

/-- **The order of entries is the order by the first difference.** -/
theorem isLE_compareEntries_iff :
    (compareEntries source keys a b).isLE ↔ Precedes source keys a b := by
  induction keys with
  | nil =>
    have hnil : (compareEntries source [] a b).isLE ↔ a.index ≤ b.index := Nat.isLE_compare
    rw [hnil]
    constructor
    · exact .position
    · rintro ⟨h⟩
      exact h
  | cons key keys ih =>
    rw [compareEntries_cons]
    constructor
    · intro h
      cases horder : compareAt source key a b with
      | lt => exact .differ horder
      | eq =>
        rw [horder] at h
        exact .agree (Direction.apply_eq_eq_iff.mp horder) (ih.mp h)
      | gt =>
        rw [horder] at h
        cases h
    · intro h
      cases h with
      | differ h =>
        rw [compareAt_eq, h]
        rfl
      | agree h hkeys =>
        rw [compareAt_eq, Direction.apply_eq_eq_iff.mpr h]
        exact ih.mpr hkeys

instance : Decidable (Precedes source keys a b) := decidable_of_iff _ isLE_compareEntries_iff

end Compare

/-! ## Entries at positions -/

section Positions

variable {source : Source α} {keys : List SortKey} {records : List α} {positions other : List Nat}
  {entries : List (Entry α)}

theorem map_index_entriesAt (h : ∀ i ∈ positions, i < records.length) :
    (entriesAt records positions).map (·.index) = positions := by
  rw [entriesAt_eq_pmap h, List.map_pmap]
  simp

/-- An entry at one of the positions has the record at its position. -/
theorem getElem?_of_mem_entriesAt {e : Entry α} (he : e ∈ entriesAt records positions) :
    records[e.index]? = some e.record := by
  obtain ⟨i, -, hi⟩ := List.mem_filterMap.mp he
  obtain ⟨record, hrecord, rfl⟩ := Option.map_eq_some_iff.mp hi
  exact hrecord

/-- Entries that have the records at their positions are the entries at these positions. -/
theorem entriesAt_map_index (h : ∀ e ∈ entries, records[e.index]? = some e.record) :
    entriesAt records (entries.map (·.index)) = entries := by
  induction entries with
  | nil => rfl
  | cons e entries ih =>
    obtain ⟨he, hentries⟩ := List.forall_mem_cons.mp h
    simp only [entriesAt] at ih ⊢
    simp [he, ih hentries]

/-- **Entries in order are determined by their positions.** -/
theorem eq_of_pairwise_precedes {more : List (Entry α)}
    (hentries : ∀ e ∈ entries, records[e.index]? = some e.record)
    (hmore : ∀ e ∈ more, records[e.index]? = some e.record) (hperm : entries.Perm more)
    (h : entries.Pairwise (Precedes source keys)) (h' : more.Pairwise (Precedes source keys)) :
    entries = more := by
  refine hperm.eq_of_pairwise (fun a b ha hb hab hba => ?_) h h'
  have heq : compareEntries source keys a b = .eq := by
    rw [← isLE_compareEntries_iff] at hab hba
    exact Std.OrientedCmp.isLE_antisymm hab hba
  have hindex : a.index = b.index := Nat.compare_eq_eq.mp (Ordering.then_eq_eq.mp heq).2
  have hrecord : some a.record = some b.record := by
    rw [← hentries a ha, ← hmore b hb, hindex]
  cases a
  cases b
  simp_all

theorem pairwise_precedes_sortEntries :
    (sortEntries source keys entries).Pairwise (Precedes source keys) :=
  pairwise_sortEntries.imp isLE_compareEntries_iff.mp

/-- **Sorting lists the positions in their one order.** The result is a list of the same positions
in which every earlier one precedes every later one; it is the only such list, and so it is the
same for all ways to list the positions at first, and sorting it again changes nothing. Without keys
it is in ascending order. -/
theorem sortEntries_at_positions (source : Source α) (keys : List SortKey) (records : List α)
    (positions : List Nat) (h : ∀ i ∈ positions, i < records.length) :
    ∃ sorted : List Nat,
      sortEntries source keys (entriesAt records positions) = entriesAt records sorted ∧
      sorted.Perm positions ∧
      (entriesAt records sorted).Pairwise (Precedes source keys) ∧
      (∀ other : List Nat, other.Perm positions →
        sortEntries source keys (entriesAt records other) = entriesAt records sorted ∧
        ((entriesAt records other).Pairwise (Precedes source keys) → other = sorted)) ∧
      sortEntries source keys (entriesAt records sorted) = entriesAt records sorted ∧
      (keys = [] → sorted.Pairwise (· ≤ ·)) := by
  let result := sortEntries source keys (entriesAt records positions)
  have hperm : result.Perm (entriesAt records positions) := sortEntries_perm
  have hresult : ∀ e ∈ result, records[e.index]? = some e.record := fun e he =>
    getElem?_of_mem_entriesAt (hperm.mem_iff.mp he)
  have hback : entriesAt records (result.map (·.index)) = result := entriesAt_map_index hresult
  have hsorted : (entriesAt records (result.map (·.index))).Pairwise (Precedes source keys) := by
    rw [hback]
    exact pairwise_precedes_sortEntries
  have hpositions : (result.map (·.index)).Perm positions := by
    have := hperm.map (·.index)
    rwa [map_index_entriesAt h] at this
  -- entries in order at the same positions are the result
  have hunique : ∀ entries : List (Entry α), entries.Perm (entriesAt records positions) →
      entries.Pairwise (Precedes source keys) → entries = result := by
    intro entries hentries hpairwise
    refine eq_of_pairwise_precedes (fun e he => ?_) hresult (hentries.trans hperm.symm) hpairwise
      pairwise_precedes_sortEntries
    exact getElem?_of_mem_entriesAt (hentries.mem_iff.mp he)
  have hother : ∀ other : List Nat, other.Perm positions →
      sortEntries source keys (entriesAt records other) = result := by
    intro other hother
    exact hunique _ (sortEntries_perm.trans (hother.filterMap _)) pairwise_precedes_sortEntries
  refine ⟨result.map (·.index), hback.symm, hpositions, hsorted, fun other hother' => ⟨?_, ?_⟩,
    ?_, ?_⟩
  · rw [hother other hother', hback]
  · intro hpairwise
    rw [← hunique _ (hother'.filterMap _) hpairwise]
    exact (map_index_entriesAt fun i hi => h i (hother'.mem_iff.mp hi)).symm
  · rw [hother _ hpositions, hback]
  · rintro rfl
    refine List.pairwise_map.mpr ((@pairwise_precedes_sortEntries _ source [] _).imp ?_)
    rintro a b ⟨hle⟩
    exact hle

/-- Sorted by the first flag, true before false, records of one flag stand in the order of their
positions. -/
theorem sortEntries_at_positions_flagPairs :
    (∀ i ∈ [3, 0, 2, 1], i < [(true, true), (true, false), (false, true), (true, false)].length) ∧
    sortEntries flagPairs [⟨"a", .descending⟩]
        (entriesAt [(true, true), (true, false), (false, true), (true, false)] [3, 0, 2, 1]) =
      [⟨0, (true, true)⟩, ⟨1, (true, false)⟩, ⟨3, (true, false)⟩, ⟨2, (false, true)⟩] := by
  refine ⟨by decide, ?_⟩
  obtain ⟨sorted, hsort, -, -, hunique, -⟩ := sortEntries_at_positions flagPairs
    [⟨"a", .descending⟩] [(true, true), (true, false), (false, true), (true, false)] [3, 0, 2, 1]
    (by decide)
  have hsorted : [0, 1, 3, 2] = sorted := (hunique [0, 1, 3, 2] (by decide)).2 (by decide +kernel)
  rw [hsort, ← hsorted]
  rfl

end Positions

end Tabular
