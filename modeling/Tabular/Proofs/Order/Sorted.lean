import Tabular.Order.Sort
import Tabular.Proofs.Order.Total
/-!
# Sorted entries

Under sort keys entries are in a total order (`compareBy`): the order of their values at the first
key, in the direction of the key, then at the next key, and so on. `sortEntries` puts entries in
this order, and those that it does not tell apart in the order of their positions
(`pairwise_sortEntries`).

So entries that come strictly one after the other under the first few of the keys stand one after
the other in the sorted list (`triple_sublist_of_pairwise`).
-/

namespace Tabular

variable {α : Type}

/-! ## The order under sort keys -/

/-- A direction keeps an order an order. -/
theorem Direction.transCmp_apply {β : Type} {cmp : β → β → Ordering} [Std.TransCmp cmp]
    (direction : Direction) : Std.TransCmp fun a b => direction.apply (cmp a b) := by
  cases direction with
  | ascending => exact inferInstanceAs (Std.TransCmp cmp)
  | descending =>
    have hswap : (fun a b => (cmp a b).swap) = fun a b => cmp b a :=
      funext fun a => funext fun b => Std.OrientedCmp.eq_swap.symm
    have hflip : Std.TransCmp fun a b => cmp b a :=
      { eq_swap := Std.OrientedCmp.eq_swap
        isLE_trans hab hbc := Std.TransCmp.isLE_trans hbc hab }
    exact hswap ▸ hflip

theorem Direction.apply_eq_eq_iff {direction : Direction} {o : Ordering} :
    direction.apply o = .eq ↔ o = .eq := by
  cases direction <;> cases o <;> decide

/-- The reading of an entry at a field. -/
def readingOf (source : Source α) (field : String) (e : Entry α) : Reading String :=
  .of (source.value e.record field) (source.schema.domainOf field)

/-- The order of two entries at one sort key. -/
def compareAt (source : Source α) (key : SortKey) (a b : Entry α) : Ordering :=
  key.direction.apply (compareValues source.transliterate (source.schema.domainOf key.field)
    (source.value a.record key.field) (source.value b.record key.field))

/-- The order of two entries under sort keys, their positions aside. -/
def compareBy (source : Source α) (keys : List SortKey) (a b : Entry α) : Ordering :=
  Keyed.compareReadings (Keyed.of source keys a).readings (Keyed.of source keys b).readings

section Compare

variable {source : Source α} {key : SortKey} {keys more : List SortKey} {a b : Entry α}

theorem compareBy_nil : compareBy source [] a b = .eq := rfl

theorem compareBy_cons :
    compareBy source (key :: keys) a b =
      (compareAt source key a b).then (compareBy source keys a b) := rfl

theorem compareBy_append :
    compareBy source (keys ++ more) a b =
      (compareBy source keys a b).then (compareBy source more a b) := by
  induction keys with
  | nil => rfl
  | cons key keys ih =>
    rw [List.cons_append, compareBy_cons, ih, compareBy_cons, Ordering.then_assoc]

instance : Std.TransCmp (compareAt source key) :=
  have := @Direction.transCmp_apply _
    (compareValues source.transliterate (source.schema.domainOf key.field)) _ key.direction
  { eq_swap := this.eq_swap
    isLE_trans := this.isLE_trans }

/-- **The order under sort keys is total and transitive.** -/
instance : Std.TransCmp (compareBy source keys) := by
  induction keys with
  | nil => exact { eq_swap := rfl, isLE_trans _ _ := rfl }
  | cons key keys ih =>
    exact inferInstanceAs (Std.TransCmp (compareLex (compareAt source key) (compareBy source keys)))

/-- Sort keys do not tell two entries apart exactly when these are read alike at every key. -/
theorem compareBy_eq_eq_iff :
    compareBy source keys a b = .eq ↔
      ∀ key ∈ keys, readingOf source key.field a = readingOf source key.field b := by
  induction keys with
  | nil => simp [compareBy_nil]
  | cons key keys ih =>
    rw [compareBy_cons, Ordering.then_eq_eq, ih, compareAt, Direction.apply_eq_eq_iff,
      compareValues_eq_eq_iff, List.forall_mem_cons]
    rfl

/-- What does not come later under all keys does not come later under the first few. -/
theorem isLE_compareBy_of_append (h : (compareBy source (keys ++ more) a b).isLE) :
    (compareBy source keys a b).isLE := by
  rw [compareBy_append, Ordering.isLE_then_iff_and] at h
  exact h.1

end Compare

/-! ## The sorted list -/

section Sorting

variable {source : Source α} {keys more : List SortKey} {entries : List (Entry α)}

/-- The order in which entries are sorted: under the keys, and then by position. -/
def compareEntries (source : Source α) (keys : List SortKey) : Entry α → Entry α → Ordering :=
  compareLex (compareBy source keys) (compareOn Entry.index)

instance : Std.TransCmp (compareEntries source keys) :=
  inferInstanceAs (Std.TransCmp (compareLex _ _))

/-- Sorting the decorated entries, and without keys the positions, puts entries in this order. -/
theorem sortEntries_eq_mergeSort :
    sortEntries source keys entries =
      entries.mergeSort fun a b => (compareEntries source keys a b).isLE := by
  cases keys with
  | nil =>
    have hle : (fun a b : Entry α => decide (a.index ≤ b.index)) =
        fun a b => (compareEntries source [] a b).isLE := by
      funext a b
      rw [Bool.eq_iff_iff, decide_eq_true_iff]
      exact Nat.isLE_compare.symm
    rw [sortEntries, hle]
    rfl
  | cons key keys =>
    have hmap : (entries.mergeSort fun a b => (compareEntries source (key :: keys) a b).isLE).map
        (Keyed.of source (key :: keys)) =
        (entries.map (Keyed.of source (key :: keys))).mergeSort fun a b => (a.compare b).isLE :=
      List.map_mergeSort fun a _ b _ => rfl
    simp only [sortEntries, List.isEmpty_cons, Bool.false_eq_true, if_false, ← hmap, List.map_map]
    exact List.map_id _

theorem sortEntries_perm : (sortEntries source keys entries).Perm entries := by
  rw [sortEntries_eq_mergeSort]
  exact List.mergeSort_perm ..

/-- **No entry of the sorted list comes before an earlier one.** -/
theorem pairwise_sortEntries :
    (sortEntries source keys entries).Pairwise fun a b =>
      (compareEntries source keys a b).isLE := by
  rw [sortEntries_eq_mergeSort]
  refine List.pairwise_mergeSort (fun a b c => Std.TransCmp.isLE_trans) (fun a b => ?_) entries
  rw [@Std.OrientedCmp.eq_swap _ (compareEntries source keys) _ b a]
  cases compareEntries source keys a b <;> rfl

/-- Entries that are in order stay where they are. -/
theorem sortEntries_of_pairwise
    (h : entries.Pairwise fun a b => (compareEntries source keys a b).isLE) :
    sortEntries source keys entries = entries := by
  rw [sortEntries_eq_mergeSort, List.mergeSort_of_pairwise h]

/-- No entry of the sorted list comes before an earlier one under the first few keys. -/
theorem pairwise_sortEntries_append :
    (sortEntries source (keys ++ more) entries).Pairwise fun a b =>
      (compareBy source keys a b).isLE := by
  refine pairwise_sortEntries.imp fun {a b} h => ?_
  rw [compareEntries, compareLex, Ordering.isLE_then_iff_and] at h
  exact isLE_compareBy_of_append h.1

end Sorting

/-- A list that is in strict order and taken from a list that is in order is a part of it. -/
theorem sublist_of_subset_of_pairwise {β : Type} {cmp : β → β → Ordering} [Std.TransCmp cmp]
    {part whole : List β} (hpart : part.Pairwise fun a b => cmp a b = .lt)
    (hwhole : whole.Pairwise fun a b => (cmp a b).isLE) (h : part ⊆ whole) :
    part.Sublist whole := by
  induction whole generalizing part with
  | nil => rw [List.eq_nil_of_subset_nil h]
  | cons b whole ih =>
    obtain ⟨hb, hrest⟩ := List.pairwise_cons.mp hwhole
    cases part with
    | nil => exact List.nil_sublist _
    | cons a part =>
      obtain ⟨ha, hpart'⟩ := List.pairwise_cons.mp hpart
      obtain ⟨hmem, hsub⟩ := List.cons_subset.mp h
      by_cases hab : a = b
      · subst hab
        refine (ih hpart' hrest fun c hc => ?_).cons_cons a
        obtain rfl | hc' := List.mem_cons.mp (hsub hc)
        · exact absurd (ha c hc) (by simp [Std.ReflCmp.compare_self])
        · exact hc'
      · -- the first of the whole does not come after `a`, so it is none of the part
        have hmem' : a ∈ whole := List.mem_of_ne_of_mem hab hmem
        refine (ih hpart hrest fun c hc => ?_).cons b
        obtain rfl | hc := List.mem_cons.mp hc
        · exact hmem'
        · refine List.mem_of_ne_of_mem ?_ (hsub hc)
          rintro rfl
          exact Std.OrientedCmp.not_isLE_of_lt (ha c hc) (hb a hmem')

/-- **Three entries in strict order under the first few keys** stand in this order in a list that is
in order. -/
theorem triple_sublist_of_pairwise {source : Source α} {keys more : List SortKey}
    {entries : List (Entry α)} {x y z : Entry α}
    (hsorted : entries.Pairwise fun a b => (compareBy source (keys ++ more) a b).isLE)
    (hx : x ∈ entries) (hy : y ∈ entries) (hz : z ∈ entries)
    (hxy : compareBy source keys x y = .lt) (hyz : compareBy source keys y z = .lt) :
    [x, y, z].Sublist entries := by
  have hxz : compareBy source keys x z = .lt := Std.TransCmp.lt_trans hxy hyz
  refine @sublist_of_subset_of_pairwise _ (compareBy source keys) _ _ _ ?_
    (hsorted.imp isLE_compareBy_of_append) ?_
  · simp [hxy, hyz, hxz]
  · simp [hx, hy, hz]

end Tabular
