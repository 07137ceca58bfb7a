import Tabular.Proofs.Binary64.Integer
import Tabular.Proofs.Group.Label
/-!
# Numbers sort by their doubles

Two numbers of one kind compare exactly as numbers (`Number.compare?_eq`). As values of a field they
are read as doubles first, so they sort as their nearest doubles do
(`compareValues_number`). These grow with the numbers (`Number.rank_toBinary64_mono`): two numbers
are never sorted the wrong way round, but integers with one double sort as equal and share a group
(`compareValues_number_of_kind`), as `2 ^ 53` and its successor do
(`compareValues_number_beyond_exact`).
-/

namespace Tabular

namespace Number

/-- Two numbers are of one kind. -/
inductive SameKind : Number → Number → Prop
  | signed (m n : Int64) : SameKind (.signed m) (.signed n)
  | unsigned (m n : UInt64) : SameKind (.unsigned m) (.unsigned n)
  | real (x y : Binary64) : SameKind (.real x) (.real y)

theorem SameKind.symm {a b : Number} (h : a.SameKind b) : b.SameKind a := by
  cases h <;> constructor

/-- The place of a number among those of its kind. -/
def place : Number → ℤ
  | signed n => n.toInt
  | unsigned n => n.toNat
  | real x => x.rank

/-- A number from a range in which all numbers of its kind are doubles: an integer that is no larger
than `2 ^ 53`, or a double. -/
def IsExact : Number → Prop
  | signed n => n.toInt.natAbs ≤ 2 ^ 53
  | unsigned n => n.toNat ≤ 2 ^ 53
  | real _ => True

instance : DecidablePred IsExact
  | signed n => inferInstanceAs (Decidable (n.toInt.natAbs ≤ 2 ^ 53))
  | unsigned n => inferInstanceAs (Decidable (n.toNat ≤ 2 ^ 53))
  | real _ => .isTrue trivial

variable {a b : Number}

/-- **Numbers of one kind compare by their places**, unless one is no number. -/
theorem compare?_eq (hkind : a.SameKind b) (ha : a.toBinary64.isNaN = false)
    (hb : b.toBinary64.isNaN = false) : a.compare? b = some (compare a.place b.place) := by
  cases hkind with
  | signed m n => rfl
  | unsigned m n =>
    simp only [compare?, place, compare, compareOfLessAndEq, Int.ofNat_lt, Int.natCast_inj]
  | real x y =>
    simp only [toBinary64] at ha hb
    simp [compare?, toBinary64, Binary64.compare?, ha, hb, place]

/-- Numbers of one kind are the same when they have one place. -/
theorem same_iff (hkind : a.SameKind b) (ha : a.toBinary64.isNaN = false)
    (hb : b.toBinary64.isNaN = false) : a.same b = true ↔ a.place = b.place := by
  cases hkind with
  | signed m n => simp [same, place, Int64.toInt_inj]
  | unsigned m n => simp [same, place, UInt64.toNat_inj]
  | real x y =>
    simp only [toBinary64] at ha hb
    simp [same, Binary64.same, Binary64.compare?, ha, hb, place]

/-- Doubles that are numbers are the same when they have one rank. -/
theorem same_toBinary64_iff (ha : a.toBinary64.isNaN = false) (hb : b.toBinary64.isNaN = false) :
    a.toBinary64.same b.toBinary64 = true ↔ a.toBinary64.rank = b.toBinary64.rank := by
  simp [Binary64.same, Binary64.compare?, ha, hb]

/-- **The nearest double grows with the number.** -/
theorem rank_toBinary64_mono (hkind : a.SameKind b) (h : a.place ≤ b.place) :
    a.toBinary64.rank ≤ b.toBinary64.rank := by
  cases hkind with
  | signed | unsigned => exact Binary64.rank_ofInt_mono h
  | real => exact h

/-- Of two exact numbers the greater one has the greater double. -/
theorem rank_toBinary64_lt (hkind : a.SameKind b) (ha : a.IsExact) (hb : b.IsExact)
    (h : a.place < b.place) : a.toBinary64.rank < b.toBinary64.rank := by
  cases hkind with
  | signed | unsigned => exact Binary64.rank_ofInt_strictMono h ha hb
  | real => exact h

/-- Two numbers compare as their doubles do if they have one double only in one place. -/
theorem compare_place_eq (hkind : a.SameKind b)
    (h : a.toBinary64.rank = b.toBinary64.rank → a.place = b.place) :
    compare a.place b.place = compare a.toBinary64.rank b.toBinary64.rank := by
  rcases lt_trichotomy a.place b.place with hlt | heq | hgt
  · have hle := rank_toBinary64_mono hkind hlt.le
    have hne : a.toBinary64.rank ≠ b.toBinary64.rank := fun hr => hlt.ne (h hr)
    rw [compare_lt_iff_lt.mpr hlt, compare_lt_iff_lt.mpr (lt_of_le_of_ne hle hne)]
  · have hle := rank_toBinary64_mono hkind heq.le
    have hge := rank_toBinary64_mono hkind.symm heq.ge
    rw [compare_eq_iff_eq.mpr heq, compare_eq_iff_eq.mpr (le_antisymm hle hge)]
  · have hle := rank_toBinary64_mono hkind.symm hgt.le
    have hne : b.toBinary64.rank ≠ a.toBinary64.rank := fun hr => hgt.ne' (h hr.symm)
    rw [compare_gt_iff_gt.mpr hgt, compare_gt_iff_gt.mpr (lt_of_le_of_ne hle hne)]

/-- Exact numbers that have one double have one place. -/
theorem place_eq_of_isExact (hkind : a.SameKind b) (ha : a.IsExact) (hb : b.IsExact)
    (h : a.toBinary64.rank = b.toBinary64.rank) : a.place = b.place := by
  by_contra hne
  rcases lt_or_gt_of_ne hne with hlt | hgt
  · exact (rank_toBinary64_lt hkind ha hb hlt).ne h
  · exact (rank_toBinary64_lt hkind.symm hb ha hgt).ne' h

end Number

section Values

variable {transliterate : String → String} {domain : Domain} {a b : Number}

theorem Value.asNumber?_number (ha : a.toBinary64.isNaN = false) :
    (number a).asNumber? = some a.toBinary64 := by
  simp [asNumber?, ha]

theorem Reading.of_number (hdomain : domain.isNumeric = true) (ha : a.toBinary64.isNaN = false) :
    Reading.of (.number a) domain = .number a.toBinary64.foldZero := by
  have hclass : domain.comparisonClass = .number := by simpa [Domain.isNumeric] using hdomain
  rw [of, Value.isBlank_number, ofReadable?, hclass]
  simp only [Bool.false_eq_true, if_false, Value.asNumber?_number ha, Option.map_some,
    Option.getD_some]

/-- **Numbers sort as their nearest doubles do.** -/
theorem compareValues_number (hdomain : domain.isNumeric = true)
    (ha : a.toBinary64.isNaN = false) (hb : b.toBinary64.isNaN = false) :
    compareValues transliterate domain (.number a) (.number b) =
      compare a.toBinary64.rank b.toBinary64.rank := by
  rw [compareValues, SortReading.of, SortReading.of, Reading.of_number hdomain ha,
    Reading.of_number hdomain hb, ← Binary64.rank_foldZero a.toBinary64,
    ← Binary64.rank_foldZero b.toBinary64]
  rfl

/-- Numbers share a group exactly when they sort as equal. -/
theorem GroupValue.of_number_eq_iff (transliterate : String → String)
    (hdomain : domain.isNumeric = true) (ha : a.toBinary64.isNaN = false)
    (hb : b.toBinary64.isNaN = false) :
    of (.number a) domain = of (.number b) domain ↔
      compareValues transliterate domain (.number a) (.number b) = .eq := by
  have hclass : domain.comparisonClass = .number := by simpa [Domain.isNumeric] using hdomain
  have hread {n : Number} (hn : n.toBinary64.isNaN = false) :
      (Value.number n).isReadable domain = true := by
    simp [Value.isReadable, hclass, Value.asNumber?_number hn]
  have hday : ¬ Value.SameDay domain (.number a) (.number b) := by
    rintro ⟨rfl, -⟩
    cases hclass
  have hmeet {n m : Number} (hm : m.toBinary64.isNaN = false) :
      ¬ Value.LabelsMeet domain (.number n) (.number m) := by
    rintro ⟨-, hunread, -⟩
    rw [hread hm] at hunread
    cases hunread
  rw [of_eq_of_iff_or_labelsMeet transliterate, or_iff_left (by simp [hmeet ha, hmeet hb]),
    or_iff_left hday]

/-- **The sort of numbers agrees with their order but for rounding.** Two numbers of one kind sort
as they compare unless they have one double and are not the same; then they sort as equal, and share
a group. They are never sorted the wrong way round, and integers up to `2 ^ 53` and doubles are
sorted as they compare. -/
theorem compareValues_number_of_kind (transliterate : String → String)
    (hdomain : domain.isNumeric = true) (hkind : a.SameKind b)
    (ha : a.toBinary64.isNaN = false) (hb : b.toBinary64.isNaN = false) :
    let cmp := compareValues transliterate domain (.number a) (.number b)
    (a.compare? b = some cmp ↔ (a.toBinary64.same b.toBinary64 = true → a.same b = true)) ∧
    (cmp = .eq ↔ a.toBinary64.same b.toBinary64 = true) ∧
    (GroupValue.of (.number a) domain = GroupValue.of (.number b) domain ↔ cmp = .eq) ∧
    (cmp ≠ .eq → a.compare? b = some cmp) ∧
    (a.IsExact → b.IsExact → a.compare? b = some cmp) := by
  intro cmp
  have hcmp : cmp = compare a.toBinary64.rank b.toBinary64.rank :=
    compareValues_number hdomain ha hb
  have hrank := Number.same_toBinary64_iff ha hb
  have heq : cmp = .eq ↔ a.toBinary64.rank = b.toBinary64.rank := by
    rw [hcmp, compare_eq_iff_eq]
  have hagree : (a.toBinary64.rank = b.toBinary64.rank → a.place = b.place) →
      a.compare? b = some cmp := fun h => by
    rw [Number.compare?_eq hkind ha hb, hcmp, Number.compare_place_eq hkind h]
  refine ⟨?_, heq.trans hrank.symm, GroupValue.of_number_eq_iff transliterate hdomain ha hb, ?_, ?_⟩
  · rw [hrank, Number.same_iff hkind ha hb]
    refine ⟨fun h hr => ?_, hagree⟩
    rw [Number.compare?_eq hkind ha hb, heq.mpr hr] at h
    exact compare_eq_iff_eq.mp (Option.some.inj h)
  · exact fun hne => hagree fun hr => absurd (heq.mpr hr) hne
  · exact fun haexact hbexact => hagree (Number.place_eq_of_isExact hkind haexact hbexact)

/-- The largest integers with doubles of their own. -/
theorem compareValues_number_of_kind_exact :
    compareValues Text.transliterate .currency (.number (.signed 9007199254740991))
      (.number (.signed 9007199254740992)) = .lt := by
  obtain ⟨-, -, -, -, hexact⟩ := compareValues_number_of_kind Text.transliterate
    (rfl : Domain.isNumeric .currency = true)
    (Number.SameKind.signed 9007199254740991 9007199254740992)
    (Binary64.isNaN_ofInt _) (Binary64.isNaN_ofInt _)
  exact (Option.some.inj (hexact (by decide) (by decide))).symm

/-- The integers beyond them are told apart as numbers, but not as values of a field. -/
theorem compareValues_number_beyond_exact :
    let a := Number.signed 9007199254740992
    let b := Number.signed 9007199254740993
    a.compare? b = some .lt ∧
      compareValues Text.transliterate .number (.number a) (.number b) = .eq ∧
      GroupValue.of (.number a) .number = GroupValue.of (.number b) .number := by
  decide +kernel

end Values

end Tabular
