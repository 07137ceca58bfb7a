/-!
# Maps kept in the order of their keys

A finite map as a list of entries with strictly ascending keys. The order is part of the type, so
two maps with the same entries are equal and a listing has one form. `insert` replaces the entry
of an equal key; `find?_insert` and `find?_erase` say what a lookup finds afterwards.
-/

namespace Tabular

open Std

/-- A finite map with its entries in ascending order of their keys. -/
structure SortedMap (κ υ : Type) [Ord κ] where
  entries : List (κ × υ)
  ascending : entries.Pairwise fun a b => compare a.1 b.1 = .lt

namespace SortedMap

variable {κ υ : Type} [Ord κ]

instance [DecidableEq κ] [DecidableEq υ] : DecidableEq (SortedMap κ υ)
  | ⟨a, _⟩, ⟨b, _⟩ => decidable_of_iff (a = b) ⟨fun h => by subst h; rfl, fun h => by cases h; rfl⟩

@[ext] theorem ext {m n : SortedMap κ υ} (h : m.entries = n.entries) : m = n := by
  cases m; cases n; cases h; rfl

/-- The map without entries. -/
def empty : SortedMap κ υ := ⟨[], List.Pairwise.nil⟩

instance : Inhabited (SortedMap κ υ) := ⟨empty⟩

/-- The keys, in ascending order. -/
def keys (m : SortedMap κ υ) : List κ := m.entries.map (·.1)

/-- The number of entries. -/
def size (m : SortedMap κ υ) : Nat := m.entries.length

/-- Whether there are no entries. -/
def isEmpty (m : SortedMap κ υ) : Bool := m.entries.isEmpty

/-- The value of a key. -/
def find? (m : SortedMap κ υ) (k : κ) : Option υ :=
  (m.entries.find? fun e => compare e.1 k == .eq).map (·.2)

/-- Whether there is an entry of a key. -/
def contains (m : SortedMap κ υ) (k : κ) : Bool := (m.find? k).isSome

/-- Puts an entry in its place among ascending entries, instead of one with an equal key. -/
def insertEntry (k : κ) (v : υ) : List (κ × υ) → List (κ × υ)
  | [] => [(k, v)]
  | e :: rest =>
    match compare k e.1 with
    | .lt => (k, v) :: e :: rest
    | .eq => (k, v) :: rest
    | .gt => e :: insertEntry k v rest

theorem mem_insertEntry {k : κ} {v : υ} {l : List (κ × υ)} {e : κ × υ}
    (h : e ∈ insertEntry k v l) : e = (k, v) ∨ e ∈ l := by
  induction l with
  | nil => simpa [insertEntry] using h
  | cons d rest ih =>
    rw [insertEntry] at h
    split at h
    · simpa using h
    · simp only [List.mem_cons] at h ⊢
      exact h.imp id .inr
    · simp only [List.mem_cons] at h ⊢
      rcases h with rfl | h
      · exact .inr (.inl rfl)
      · exact (ih h).imp id .inr

theorem pairwise_insertEntry [TransOrd κ] [LawfulEqOrd κ] {k : κ} {v : υ} {l : List (κ × υ)}
    (h : l.Pairwise fun a b => compare a.1 b.1 = .lt) :
    (insertEntry k v l).Pairwise fun a b => compare a.1 b.1 = .lt := by
  induction l with
  | nil => simp [insertEntry]
  | cons d rest ih =>
    have hd := List.pairwise_cons.mp h
    rw [insertEntry]
    split
    · next hk =>
      refine List.pairwise_cons.mpr ⟨fun e he => ?_, h⟩
      rcases List.mem_cons.mp he with rfl | he
      · exact hk
      · exact TransCmp.lt_trans hk (hd.1 e he)
    · next hk =>
      cases LawfulEqOrd.eq_of_compare hk
      exact List.pairwise_cons.mpr ⟨fun e he => hd.1 e he, hd.2⟩
    · next hk =>
      refine List.pairwise_cons.mpr ⟨fun e he => ?_, ih hd.2⟩
      rcases mem_insertEntry he with rfl | he
      · exact OrientedCmp.gt_iff_lt.mp hk
      · exact hd.1 e he

/-- The map with an entry set. -/
def insert [TransOrd κ] [LawfulEqOrd κ] (m : SortedMap κ υ) (k : κ) (v : υ) : SortedMap κ υ :=
  ⟨insertEntry k v m.entries, pairwise_insertEntry m.ascending⟩

/-- The map without the entry of a key. -/
def erase (m : SortedMap κ υ) (k : κ) : SortedMap κ υ :=
  ⟨m.entries.filter fun e => compare e.1 k != .eq, m.ascending.filter _⟩

/-- The map of a list of entries, of which the last of a key counts. -/
def ofList [TransOrd κ] [LawfulEqOrd κ] (l : List (κ × υ)) : SortedMap κ υ :=
  l.foldl (fun m e => m.insert e.1 e.2) empty

/-! ### Lookups -/

theorem find?_insertEntry [LawfulEqOrd κ] {k k' : κ} {v : υ} (l : List (κ × υ)) :
    ((insertEntry k v l).find? fun e => compare e.1 k' == .eq) =
      if compare k k' = .eq then some (k, v) else l.find? fun e => compare e.1 k' == .eq := by
  induction l with
  | nil => by_cases h : compare k k' = .eq <;> simp [insertEntry, h]
  | cons d rest ih =>
    rw [insertEntry]
    split
    · by_cases h : compare k k' = .eq <;> simp [h]
    · next hk =>
      cases LawfulEqOrd.eq_of_compare hk
      by_cases h : compare d.1 k' = .eq <;> simp [h]
    · next hk =>
      by_cases h : compare d.1 k' = .eq
      · cases LawfulEqOrd.eq_of_compare h
        simp [hk]
      · simp [h, ih]

theorem find?_insert [TransOrd κ] [LawfulEqOrd κ] (m : SortedMap κ υ) (k k' : κ) (v : υ) :
    (m.insert k v).find? k' = if compare k k' = .eq then some v else m.find? k' := by
  unfold find? insert
  rw [find?_insertEntry]
  split <;> rfl

theorem find?_erase [TransOrd κ] [LawfulEqOrd κ] (m : SortedMap κ υ) (k k' : κ) :
    (m.erase k).find? k' = if compare k k' = .eq then none else m.find? k' := by
  unfold find? erase
  by_cases h : compare k k' = .eq
  · cases LawfulEqOrd.eq_of_compare h
    simp [List.find?_filter]
  · have hne : ∀ e : κ × υ, compare e.1 k' = .eq → compare e.1 k ≠ .eq := by
      intro e he hk
      cases LawfulEqOrd.eq_of_compare he
      exact h (OrientedCmp.eq_comm.mp hk)
    rw [if_neg h, List.find?_filter]
    congr 2
    funext e
    by_cases he : compare e.1 k' = .eq <;> simp [he, hne e]

/-! ### Listings -/

/-- A key above all others goes behind them. -/
theorem insertEntry_of_forall_gt {k : κ} {v : υ} {l : List (κ × υ)}
    (h : ∀ e ∈ l, compare k e.1 = .gt) : insertEntry k v l = l ++ [(k, v)] := by
  induction l with
  | nil => rfl
  | cons d rest ih =>
    obtain ⟨hd, hrest⟩ := List.forall_mem_cons.mp h
    rw [insertEntry, hd]
    exact congrArg (d :: ·) (ih hrest)

theorem entries_foldl_insert [TransOrd κ] [LawfulEqOrd κ] {l : List (κ × υ)}
    {m : SortedMap κ υ}
    (h : (m.entries ++ l).Pairwise fun a b => compare a.1 b.1 = .lt) :
    (l.foldl (fun m e => m.insert e.1 e.2) m).entries = m.entries ++ l := by
  induction l generalizing m with
  | nil => simp
  | cons e rest ih =>
    have hlast : (m.insert e.1 e.2).entries = m.entries ++ [e] := by
      refine insertEntry_of_forall_gt fun d hd => OrientedCmp.gt_iff_lt.mpr ?_
      exact (List.pairwise_append.mp h).2.2 d hd e List.mem_cons_self
    have hassoc : m.entries ++ e :: rest = (m.insert e.1 e.2).entries ++ rest := by
      rw [hlast, List.append_assoc, List.singleton_append]
    rw [hassoc] at h ⊢
    exact ih h

/-- A map is the map of its own listing. -/
theorem ofList_entries [TransOrd κ] [LawfulEqOrd κ] (m : SortedMap κ υ) :
    ofList m.entries = m :=
  ext (entries_foldl_insert (m := empty) m.ascending)

end SortedMap

end Tabular
