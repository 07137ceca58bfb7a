import Mathlib.Data.Finset.Basic
import Tabular.Proofs.Filter.Ordered
import Tabular.Proofs.Text.Cut
import Tabular.Proofs.Text.Lowercase
import Tabular.Proofs.Text.Split
/-!
# Collections as sets

A collection filter does not see the order of the items of a value, their repetition, their letter
case or the white space around them: it sees the set of their normal forms (`itemSet`), and asks
whether the operand, any of its pieces or all of them are in it. The pieces of an operand
(`operandPieces`) are the texts between its commas without the blank ones, and the filter sees the
set of these. So a filter on pieces is the filter on single items applied to one piece after the
other, and operands with the same set of pieces are the same filter (`Filter.admits_collection`).

Pieces are normalised after the operand is split. That normalising a text neither makes nor loses a
comma (`comma_mem_normalItem_iff`) is why a piece may be replaced by any text with the same normal
form.
-/

namespace Tabular

open Text

/-! ## Normal forms -/

theorem normalItem_eq_empty_iff {s : String} : normalItem s = "" ↔ isBlank s = true := by
  rw [normalItem, lower, ← String.toList_inj, String.toList_ofList, String.toList_empty,
    lowerList_eq_nil_iff, String.toList_eq_nil_iff, trim_eq_empty_iff]

theorem normalItem_trim (s : String) : normalItem (trim s) = normalItem s := by
  rw [normalItem, trim_trim, normalItem]

theorem comma_mem_trim_iff {s : String} : ',' ∈ (trim s).toList ↔ ',' ∈ s.toList := by
  rw [trim, String.toList_ofList]
  exact ⟨fun h => (trimList_isInfix _).subset h, fun h => mem_trimList h (by decide)⟩

theorem comma_mem_normalItem_iff {s : String} : ',' ∈ (normalItem s).toList ↔ ',' ∈ s.toList := by
  rw [normalItem, lower, String.toList_ofList, comma_mem_lowerList_iff, comma_mem_trim_iff]

/-! ## Sets of items -/

/-- The set of the normal forms of texts. -/
def itemSet (items : List String) : Finset String := (items.map normalItem).toFinset

theorem mem_itemSet {items : List String} {s : String} :
    s ∈ itemSet items ↔ ∃ item ∈ items, normalItem item = s := by
  rw [itemSet, List.mem_toFinset, List.mem_map]

theorem itemSet_eq_empty_iff {items : List String} : itemSet items = ∅ ↔ items = [] := by
  rw [itemSet, List.toFinset_eq_empty_iff, List.map_eq_nil_iff]

/-! ## Pieces of an operand -/

/-- The texts between the commas of an operand without the white space around them and without the
blank ones. -/
def operandPieces (raw : String) : List String :=
  ((split "," raw).map trim).filter fun s => !s.isEmpty

/-- The pieces may as well be normalised before the blank ones are dropped. -/
theorem operandItems_eq (raw : String) :
    operandItems raw = (operandPieces raw).map normalItem := by
  have hempty (s : String) : (normalItem s).isEmpty = (trim s).isEmpty := by
    rw [Bool.eq_iff_iff, String.isEmpty_iff, String.isEmpty_iff, normalItem_eq_empty_iff,
      trim_eq_empty_iff]
  simp [operandItems, operandPieces, List.filter_map, Function.comp_def, hempty, normalItem_trim]

theorem not_comma_mem_of_mem_split {raw s : String} (h : s ∈ split "," raw) : ',' ∉ s.toList := by
  obtain ⟨-, hsplit⟩ := (@split_eq_iff "," raw (by decide) (split "," raw)).mp rfl
  intro hcomma
  exact hsplit.not_infix _ (List.mem_map_of_mem h) ((List.singleton_infix_iff _ _).mpr hcomma)

/-- Texts without a comma come back from the operand in which they are joined. -/
theorem split_join_comma {parts : List String} (hne : parts ≠ [])
    (hcomma : ∀ s ∈ parts, ',' ∉ s.toList) : split "," (join "," parts) = parts := by
  have hparts (cs : List Char) (h : cs ∈ parts.map String.toList) : ¬ [','] <:+: cs := by
    obtain ⟨s, hs, rfl⟩ := List.mem_map.mp h
    rw [List.singleton_infix_iff]
    exact hcomma s hs
  refine (split_eq_iff (by decide)).mpr ⟨rfl, mt List.map_eq_nil_iff.mp hne, hparts, ?_⟩
  intro cs h
  rw [show ",".toList.dropLast = [] by decide, List.append_nil]
  exact hparts cs (List.mem_of_mem_dropLast h)

theorem of_mem_operandPieces {raw p : String} (h : p ∈ operandPieces raw) :
    isBlank p = false ∧ ',' ∉ p.toList := by
  rw [operandPieces, List.mem_filter, List.mem_map] at h
  obtain ⟨⟨s, hs, rfl⟩, hne⟩ := h
  constructor
  · rw [← Bool.not_eq_true, ← trim_eq_empty_iff, trim_trim, ← String.isEmpty_iff]
    simpa using hne
  · rw [comma_mem_trim_iff]
    exact not_comma_mem_of_mem_split hs

theorem operandPieces_of_isBlank {raw : String} (h : isBlank raw = true) :
    operandPieces raw = [] := by
  have hcomma : ',' ∉ raw.toList := by
    intro hmem
    have hspace := List.all_eq_true.mp h _ hmem
    revert hspace
    decide
  have hsplit : split "," raw = [raw] :=
    split_join_comma (List.cons_ne_nil raw []) (List.forall_mem_singleton.mpr hcomma)
  simp [operandPieces, hsplit, trim_eq_empty_iff.mpr h]

/-- Texts that are not blank and have no comma are the pieces of the operand in which they are
joined, but for the white space around them. -/
theorem operandPieces_join {parts : List String}
    (hparts : ∀ s ∈ parts, isBlank s = false ∧ ',' ∉ s.toList) :
    operandPieces (join "," parts) = parts.map trim := by
  by_cases hne : parts = []
  · rw [hne]
    exact operandPieces_of_isBlank rfl
  · rw [operandPieces, split_join_comma hne fun s hs => (hparts s hs).2, List.filter_eq_self]
    intro t ht
    obtain ⟨s, hs, rfl⟩ := List.mem_map.mp ht
    simp [trim_eq_empty_iff, (hparts s hs).1]

theorem itemSet_map_trim (items : List String) : itemSet (items.map trim) = itemSet items := by
  simp [itemSet, Function.comp_def, normalItem_trim]

/-- Pieces may be put in another order, repeated, and replaced by texts with the same normal
forms. -/
theorem itemSet_operandPieces_join {parts : List String} {raw : String}
    (h : itemSet parts = itemSet (operandPieces raw)) :
    itemSet (operandPieces (join "," parts)) = itemSet (operandPieces raw) := by
  have hparts : ∀ s ∈ parts, isBlank s = false ∧ ',' ∉ s.toList := by
    intro s hs
    have hmem : normalItem s ∈ itemSet parts := mem_itemSet.mpr ⟨s, hs, rfl⟩
    rw [h] at hmem
    obtain ⟨p, hp, hnormal⟩ := mem_itemSet.mp hmem
    obtain ⟨hblank, hcomma⟩ := of_mem_operandPieces hp
    constructor
    · rwa [← Bool.not_eq_true, ← normalItem_eq_empty_iff, ← hnormal, normalItem_eq_empty_iff,
        Bool.not_eq_true]
    · rwa [← comma_mem_normalItem_iff, ← hnormal, comma_mem_normalItem_iff]
  rw [operandPieces_join hparts, itemSet_map_trim, h]

/-! ## Filters -/

namespace Filter

variable {f : Filter}

/-- The operators of filters on collections that have an operand. -/
def collectionOperators : List Operator := [.contains, .doesNotContain, .containsAny, .containsAll]

theorem of_mem_collectionOperators {o : Operator} (ho : o ∈ collectionOperators) :
    o ≠ .isEmpty ∧ o.isRange = false := by
  revert ho
  cases o <;> decide

theorem admitsBy_collection {o : Operator} (ho : o ∈ collectionOperators) (f : Filter)
    (v : Value) :
    f.admitsBy o .collection v =
      (isBlank f.value || { f with operator := o }.admitsCollection v) := by
  obtain ⟨hempty, hrange⟩ := of_mem_collectionOperators ho
  cases hvalue : isBlank f.value <;>
    simp [admitsBy, admits, isActive, hvalue, hempty, hrange, Domain.comparisonClass]

theorem admitsBy_contains_iff (hvalue : isBlank f.value = false) (v : Value) :
    f.admitsBy .contains .collection v = true ↔ normalItem f.value ∈ itemSet v.items := by
  rw [admitsBy_collection (by decide), hvalue, itemSet, List.mem_toFinset]
  exact List.contains_iff_mem

theorem admitsBy_doesNotContain (hvalue : isBlank f.value = false) (v : Value) :
    f.admitsBy .doesNotContain .collection v = !f.admitsBy .contains .collection v := by
  rw [admitsBy_collection (by decide), admitsBy_collection (by decide), hvalue]
  rfl

/-- `containsAny` asks whether the set of the pieces meets that of the items. -/
theorem admitsBy_containsAny_iff (f : Filter) (v : Value) :
    f.admitsBy .containsAny .collection v = true ↔
      itemSet (operandPieces f.value) = ∅ ∨
        (itemSet (operandPieces f.value) ∩ itemSet v.items).Nonempty := by
  rw [admitsBy_collection (by decide), itemSet_eq_empty_iff]
  cases hblank : isBlank f.value with
  | true => simp [operandPieces_of_isBlank hblank]
  | false =>
    simp only [admitsCollection, operandItems_eq]
    simp [itemSet, Finset.Nonempty]

/-- `containsAll` asks whether the set of the pieces is part of that of the items. -/
theorem admitsBy_containsAll_iff (f : Filter) (v : Value) :
    f.admitsBy .containsAll .collection v = true ↔
      itemSet (operandPieces f.value) ⊆ itemSet v.items := by
  rw [admitsBy_collection (by decide)]
  cases hblank : isBlank f.value with
  | true => simp [itemSet_eq_empty_iff.mpr (operandPieces_of_isBlank hblank)]
  | false =>
    simp only [admitsCollection, operandItems_eq]
    simp [itemSet, Finset.subset_iff]

/-! ## What does not change a filter -/

theorem admitsBy_eq_of_itemSet_eq {o : Operator} (ho : o ∈ collectionOperators)
    (hvalue : isBlank f.value = false) {v w : Value} (h : itemSet w.items = itemSet v.items) :
    f.admitsBy o .collection w = f.admitsBy o .collection v := by
  have hcontains : f.admitsBy .contains .collection w = f.admitsBy .contains .collection v := by
    rw [Bool.eq_iff_iff, admitsBy_contains_iff hvalue, admitsBy_contains_iff hvalue, h]
  simp only [collectionOperators, List.mem_cons, List.not_mem_nil, or_false] at ho
  rcases ho with rfl | rfl | rfl | rfl
  · exact hcontains
  · rw [admitsBy_doesNotContain hvalue, admitsBy_doesNotContain hvalue, hcontains]
  · rw [Bool.eq_iff_iff, admitsBy_containsAny_iff, admitsBy_containsAny_iff, h]
  · rw [Bool.eq_iff_iff, admitsBy_containsAll_iff, admitsBy_containsAll_iff, h]

theorem admitsBy_eq_of_normalItem_eq {o : Operator} (ho : o ∈ [.contains, .doesNotContain])
    (hvalue : isBlank f.value = false) {raw : String} (h : normalItem raw = normalItem f.value)
    (v : Value) :
    { f with value := raw }.admitsBy o .collection v = f.admitsBy o .collection v := by
  have hraw : isBlank raw = false := by
    rwa [← Bool.not_eq_true, ← normalItem_eq_empty_iff, h, normalItem_eq_empty_iff,
      Bool.not_eq_true]
  have hcontains : { f with value := raw }.admitsBy .contains .collection v =
      f.admitsBy .contains .collection v := by
    rw [Bool.eq_iff_iff, admitsBy_contains_iff hvalue,
      admitsBy_contains_iff (f := { f with value := raw }) hraw, h]
  simp only [List.mem_cons, List.not_mem_nil, or_false] at ho
  rcases ho with rfl | rfl
  · exact hcontains
  · rw [admitsBy_doesNotContain hvalue,
      admitsBy_doesNotContain (f := { f with value := raw }) hraw, hcontains]

theorem admitsBy_eq_of_pieces {o : Operator} (ho : o ∈ [.containsAny, .containsAll])
    {raw : String} (h : itemSet (operandPieces raw) = itemSet (operandPieces f.value))
    (v : Value) :
    { f with value := raw }.admitsBy o .collection v = f.admitsBy o .collection v := by
  simp only [List.mem_cons, List.not_mem_nil, or_false] at ho
  rcases ho with rfl | rfl
  · rw [Bool.eq_iff_iff, admitsBy_containsAny_iff, admitsBy_containsAny_iff, h]
  · rw [Bool.eq_iff_iff, admitsBy_containsAll_iff, admitsBy_containsAll_iff, h]

/-! ## One set semantics -/

/-- **Collection filters are filters on sets.** `contains` asks for an item, `doesNotContain` is its
opposite, and `containsAny` and `containsAll` ask it for each piece of the operand alone. No filter
tells apart values with the same set of items, `contains` and `doesNotContain` do not tell apart
operands with the same normal form, and `containsAny` and `containsAll` none with the same set of
pieces. -/
theorem admits_collection (hvalue : isBlank f.value = false) (v : Value) :
    (f.admitsBy .contains .collection v = true ↔ normalItem f.value ∈ itemSet v.items) ∧
    f.admitsBy .doesNotContain .collection v = !f.admitsBy .contains .collection v ∧
    (f.admitsBy .containsAny .collection v = true ↔ operandPieces f.value = [] ∨
      ∃ p ∈ operandPieces f.value,
        { f with value := p }.admitsBy .contains .collection v = true) ∧
    (f.admitsBy .containsAll .collection v = true ↔ ∀ p ∈ operandPieces f.value,
      { f with value := p }.admitsBy .contains .collection v = true) ∧
    (∀ o ∈ collectionOperators, ∀ w : Value, itemSet w.items = itemSet v.items →
      f.admitsBy o .collection w = f.admitsBy o .collection v) ∧
    (∀ o ∈ [.contains, .doesNotContain], ∀ raw, normalItem raw = normalItem f.value →
      { f with value := raw }.admitsBy o .collection v = f.admitsBy o .collection v) ∧
    ∀ o ∈ [.containsAny, .containsAll],
      (∀ raw, itemSet (operandPieces raw) = itemSet (operandPieces f.value) →
        { f with value := raw }.admitsBy o .collection v = f.admitsBy o .collection v) ∧
      ∀ parts, itemSet parts = itemSet (operandPieces f.value) →
        { f with value := join "," parts }.admitsBy o .collection v =
          f.admitsBy o .collection v := by
  have hpiece {p : String} (hp : p ∈ operandPieces f.value) :
      { f with value := p }.admitsBy .contains .collection v = true ↔
        normalItem p ∈ itemSet v.items :=
    admitsBy_contains_iff (f := { f with value := p }) (of_mem_operandPieces hp).1 v
  refine ⟨admitsBy_contains_iff hvalue v, admitsBy_doesNotContain hvalue v, ?_, ?_,
    fun o ho w h => admitsBy_eq_of_itemSet_eq ho hvalue h,
    fun o ho raw h => admitsBy_eq_of_normalItem_eq ho hvalue h v,
    fun o ho => ⟨fun raw h => admitsBy_eq_of_pieces ho h v,
      fun parts h => admitsBy_eq_of_pieces ho (itemSet_operandPieces_join h) v⟩⟩
  · rw [admitsBy_containsAny_iff, itemSet_eq_empty_iff]
    refine or_congr_right ⟨?_, ?_⟩
    · rintro ⟨s, hs⟩
      obtain ⟨hpieces, hitems⟩ := Finset.mem_inter.mp hs
      obtain ⟨p, hp, rfl⟩ := mem_itemSet.mp hpieces
      exact ⟨p, hp, (hpiece hp).mpr hitems⟩
    · rintro ⟨p, hp, hadmits⟩
      exact ⟨normalItem p, Finset.mem_inter.mpr
        ⟨mem_itemSet.mpr ⟨p, hp, rfl⟩, (hpiece hp).mp hadmits⟩⟩
  · rw [admitsBy_containsAll_iff]
    constructor
    · intro hall p hp
      exact (hpiece hp).mpr (hall (mem_itemSet.mpr ⟨p, hp, rfl⟩))
    · intro hall s hs
      obtain ⟨p, hp, rfl⟩ := mem_itemSet.mp hs
      exact (hpiece hp).mp (hall p hp)

/-- Padded texts in mixed case, and an operand with a repeated and a blank piece. -/
theorem admits_collection_padded :
    isBlank "GO,, zig ,go" = false ∧
    itemSet (Value.collection ["go ", "rust"]).items =
      itemSet (Value.collection ["RUST", " Go", "go"]).items ∧
    normalItem " go,, ZIG ,go" = normalItem "GO,, zig ,go" ∧
    itemSet (operandPieces "zig,go") = itemSet (operandPieces "GO,, zig ,go") ∧
    itemSet ["Zig ", "gO"] = itemSet (operandPieces "GO,, zig ,go") ∧
    (⟨.contains, "GO,, zig ,go", none⟩ : Filter).admitsBy .containsAll .collection
        (.collection ["go ", "rust"]) =
      (⟨.contains, "GO,, zig ,go", none⟩ : Filter).admitsBy .containsAll .collection
        (.collection ["RUST", " Go", "go"]) ∧
    (⟨.contains, " go,, ZIG ,go", none⟩ : Filter).admitsBy .doesNotContain .collection
        (.collection ["RUST", " Go", "go"]) =
      (⟨.contains, "GO,, zig ,go", none⟩ : Filter).admitsBy .doesNotContain .collection
        (.collection ["RUST", " Go", "go"]) ∧
    (⟨.contains, "zig,go", none⟩ : Filter).admitsBy .containsAny .collection
        (.collection ["RUST", " Go", "go"]) =
      (⟨.contains, "GO,, zig ,go", none⟩ : Filter).admitsBy .containsAny .collection
        (.collection ["RUST", " Go", "go"]) ∧
    (⟨.contains, join "," ["Zig ", "gO"], none⟩ : Filter).admitsBy .containsAll .collection
        (.collection ["RUST", " Go", "go"]) =
      (⟨.contains, "GO,, zig ,go", none⟩ : Filter).admitsBy .containsAll .collection
        (.collection ["RUST", " Go", "go"]) := by
  have hvalue : isBlank "GO,, zig ,go" = false := by decide +kernel
  have hitems : itemSet (Value.collection ["go ", "rust"]).items =
      itemSet (Value.collection ["RUST", " Go", "go"]).items := by decide +kernel
  have hnormal : normalItem " go,, ZIG ,go" = normalItem "GO,, zig ,go" := by decide +kernel
  have hpieces : itemSet (operandPieces "zig,go") = itemSet (operandPieces "GO,, zig ,go") := by
    decide +kernel
  have hparts : itemSet ["Zig ", "gO"] = itemSet (operandPieces "GO,, zig ,go") := by
    decide +kernel
  obtain ⟨-, -, -, -, hvalues, hoperands, hlists⟩ :=
    admits_collection (f := ⟨.contains, "GO,, zig ,go", none⟩) hvalue
      (.collection ["RUST", " Go", "go"])
  exact ⟨hvalue, hitems, hnormal, hpieces, hparts,
    hvalues .containsAll (by decide) _ hitems, hoperands .doesNotContain (by decide) _ hnormal,
    (hlists .containsAny (by decide)).1 _ hpieces, (hlists .containsAll (by decide)).2 _ hparts⟩

end Filter

end Tabular
