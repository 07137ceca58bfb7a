import Mathlib.Data.Set.Basic
import Tabular.Proofs.Filter.Ordered
import Tabular.Text.Transliteration
/-!
# Filters see the reading of a value

Values are sorted by their readings, but a filter reads a value for itself: as a number, an instant
or a flag, or as the items of a collection. Outside the domain of texts the reading tells all of
this: the place of the value in the order of the domain (`Domain.place?_eq`), the flag
(`Value.asFlag?_eq`) and the items in lower case (`Value.map_normalItem_items`).

A filter on an ordered domain asks for the place of a value and nothing else
(`Filter.admits_iff_place`). So values that sort as equal are not told apart by any filter
(`Filter.admits_eq_of_compareValues_eq`). Texts are: sorting looks at them without the white space
around them, and filters do not.
-/

namespace Tabular

open Text

/-! ## What a reading tells -/

namespace Reading

/-- The place of a reading in the order of a domain, when it is a number or a time. -/
def place? (domain : Domain) : Reading String → Option Int
  | .number x => some x.rank
  | .time millis => some (if domain = .date then millis / Instant.millisPerDay else millis)
  | _ => none

/-- The flag of a reading. -/
def flag? : Reading String → Option Bool
  | .flag b => some b
  | _ => none

/-- The items of a reading. -/
def items : Reading String → List String
  | .collection items => items
  | _ => []

end Reading

section Values

variable {v w : Value} {d : Domain}

/-- Values that are read alike are both blank or both not. -/
theorem Value.isBlank_eq_of_reading_eq (h : Reading.of v d = Reading.of w d) :
    v.isBlank = w.isBlank := by
  rw [Bool.eq_iff_iff, ← @Reading.of_eq_blank_iff v d, h, Reading.of_eq_blank_iff]

/-- **The place of a value is that of its reading.** -/
theorem Domain.place?_eq (hd : d.isOrdered = true) (v : Value) :
    d.place? v = (Reading.of v d).place? d := by
  by_cases hblank : v.isBlank = true
  · have hread := @Value.not_isReadable_of_isBlank v d hblank
    rw [Reading.of_eq_blank_iff.mpr hblank]
    cases d <;> simp_all [Value.isReadable, comparisonClass, place?, Reading.place?, isOrdered,
      isNumeric, isTemporal]
  · rw [Reading.of, if_neg hblank, Reading.ofReadable?]
    cases d
    case number | currency =>
      cases hread : v.asNumber? <;>
        simp [place?, Reading.place?, comparisonClass, hread, Binary64.rank_foldZero]
    case date =>
      cases hread : v.asInstant? <;>
        simp [place?, Reading.place?, comparisonClass, hread, Instant.day]
    case datetime =>
      cases hread : v.asInstant? <;> simp [place?, Reading.place?, comparisonClass, hread]
    case string | collection | boolean => cases hd

theorem Value.asFlag?_eq (v : Value) : v.asFlag? = (Reading.of v .boolean).flag? := by
  by_cases hblank : v.isBlank = true
  · have hread : v.asFlag?.isSome = false :=
      @Value.not_isReadable_of_isBlank v .boolean hblank
    rw [Reading.of_eq_blank_iff.mpr hblank]
    simpa [Reading.flag?] using hread
  · rw [Reading.of, if_neg hblank, Reading.ofReadable?]
    cases hread : v.asFlag? <;> simp [Reading.flag?, Domain.comparisonClass]

/-- The items of a collection without the white space around them. -/
theorem Value.map_trim_items (v : Value) :
    v.items.map trim = (Reading.of v .collection).items := by
  by_cases hblank : v.isBlank = true
  · rw [Reading.of_eq_blank_iff.mpr hblank]
    cases v with
    | collection items =>
      rw [List.isEmpty_iff.mp hblank]
      rfl
    | _ => simp [items, hblank, Reading.items]
  · rw [Reading.of, if_neg hblank]
    cases v <;> simp [items, hblank, Reading.items, Reading.ofReadable?, Domain.comparisonClass,
      asCollection?]

/-- The items of a collection in the form in which they are compared. -/
theorem Value.map_normalItem_items (v : Value) :
    v.items.map normalItem = (Reading.of v .collection).items.map lower := by
  rw [← map_trim_items, List.map_map]
  rfl

end Values

/-! ## What a filter asks of a place -/

namespace Filter

variable {f : Filter} {d : Domain}

theorem admits_of_isEmpty (hempty : f.operator = .isEmpty) (v : Value) :
    f.admits d v = v.isBlank := by
  simp [admits, isActive, hempty]

theorem admitsNumber_eq_false (hpoint : f.operator ∉ [.lt, .eq, .gt, .neq, .gte, .lte])
    (hwithin : f.operator ≠ .between) (v : Value) : f.admitsNumber v = false := by
  unfold admitsNumber
  split
  · rfl
  · split <;> simp_all

theorem admitsTime_eq_false (hpoint : f.operator ∉ [.isBefore, .is, .isAfter, .isNot])
    (hwithin : f.operator ≠ .dateRange) (v : Value) : f.admitsTime d v = false := by
  unfold admitsTime
  simp only
  split
  · rfl
  · split <;> simp_all

/-- An operator that an ordered domain does not have admits nothing there. -/
theorem admits_eq_false (hd : d.isOrdered = true) (hactive : f.isActive = true)
    (hempty : f.operator ≠ .isEmpty) (hpoint : f.operator ∉ d.pointOperators)
    (hwithin : f.operator ≠ d.orderOperators.within) (v : Value) : f.admits d v = false := by
  rcases (Bool.or_eq_true ..).mp hd with hnumeric | htemporal
  · rw [Domain.pointOperators, if_pos hnumeric] at hpoint
    rw [Domain.orderOperators, if_pos hnumeric] at hwithin
    rw [admits_numeric hnumeric hactive hempty, admitsNumber_eq_false hpoint hwithin]
  · have hnumeric := Domain.isNumeric_of_isTemporal htemporal
    rw [Domain.pointOperators, hnumeric, if_neg Bool.false_ne_true] at hpoint
    rw [Domain.orderOperators, hnumeric, if_neg Bool.false_ne_true] at hwithin
    rw [admits_temporal htemporal hactive hempty, admitsTime_eq_false hpoint hwithin]

/-- The places that an active filter of an ordered domain admits, when it does not test for
emptiness. -/
def places (f : Filter) (d : Domain) : Set ℤ :=
  if f.operator = d.orderOperators.within then {x | InBounds d.operandPlace? f x}
  else if f.operator ∈ d.pointOperators then
    {x | ∃ t, d.operandPlace? f.value = some t ∧ f.operator.admits (compare x t) = true}
  else ∅

/-- **A filter on an ordered domain asks for the place of a value**, unless it is inactive or tests
for emptiness. -/
theorem admits_iff_place (hd : d.isOrdered = true) (hactive : f.isActive = true)
    (hempty : f.operator ≠ .isEmpty) (v : Value) :
    f.admits d v = true ↔ ∃ x, d.place? v = some x ∧ x ∈ f.places d := by
  unfold places
  split
  case isTrue hwithin => exact admits_within_iff hd hwithin hactive v
  case isFalse hwithin =>
    split
    case isTrue hpoint =>
      have hvalue : isBlank f.value = false := by
        have hrange : f.operator.isRange = false := by
          generalize f.operator = op at hpoint
          revert hpoint
          cases d <;> cases op <;> decide
        simpa [isActive, hempty, hrange] using hactive
      rw [admits_point_iff hd hpoint hvalue]
      simp
    case isFalse hpoint => simp [admits_eq_false hd hactive hempty hpoint hwithin v]

/-! ## Values that are read alike -/

/-- **Values that sort as equal are not told apart by a filter**, in every domain but that of
texts. -/
theorem admits_eq_of_compareValues_eq {transliterate : String → String} (hd : d ≠ .string)
    {v w : Value} (h : compareValues transliterate d v w = .eq) (f : Filter) :
    f.admits d v = f.admits d w := by
  have hreading := compareValues_eq_eq_iff.mp h
  have hblank := Value.isBlank_eq_of_reading_eq hreading
  by_cases hactive : f.isActive = true
  case neg =>
    rw [Bool.not_eq_true] at hactive
    rw [admits_of_not_isActive hactive, admits_of_not_isActive hactive]
  by_cases hempty : f.operator = .isEmpty
  case pos => rw [admits_of_isEmpty hempty, admits_of_isEmpty hempty, hblank]
  by_cases hordered : d.isOrdered = true
  case pos =>
    rw [Bool.eq_iff_iff, admits_iff_place hordered hactive hempty,
      admits_iff_place hordered hactive hempty, Domain.place?_eq hordered,
      Domain.place?_eq hordered, hreading]
  cases d
  case collection =>
    have hitems : v.items.map normalItem = w.items.map normalItem := by
      rw [Value.map_normalItem_items, hreading, ← Value.map_normalItem_items]
    simp only [admits, hblank, Domain.comparisonClass, admitsCollection, hitems]
  case boolean =>
    have hflag : v.asFlag? = w.asFlag? := by rw [Value.asFlag?_eq, hreading, ← Value.asFlag?_eq]
    simp only [admits, hblank, Domain.comparisonClass, admitsFlag, hflag]
  case string => exact absurd rfl hd
  case number | currency | date | datetime => exact absurd rfl hordered

/-- A quoted number with its currency and a bare one. -/
theorem admits_eq_of_compareValues_eq_quoted :
    Domain.currency ≠ .string ∧
    compareValues transliterate .currency (.text " $1,250.0 ") (.number (.signed 1250)) = .eq ∧
    (⟨.gt, "1e3", none⟩ : Filter).admits .currency (.text " $1,250.0 ") =
      (⟨.gt, "1e3", none⟩ : Filter).admits .currency (.number (.signed 1250)) := by
  have hequal : compareValues transliterate .currency (.text " $1,250.0 ")
      (.number (.signed 1250)) = .eq := by decide +kernel
  exact ⟨by decide, hequal, admits_eq_of_compareValues_eq (by decide) hequal _⟩

-- texts sort without the white space around them, and are filtered with it
example : compareValues transliterate .string (.text " a") (.text "a") = .eq ∧
    (⟨.startsWith, "a", none⟩ : Filter).admits .string (.text " a") = false ∧
    (⟨.startsWith, "a", none⟩ : Filter).admits .string (.text "a") = true := by
  decide +kernel

end Filter

end Tabular
