import Mathlib.Data.List.Basic
import Mathlib.Data.List.TakeWhile
import Tabular.Order.Compare
import Tabular.Proofs.Text.Cut
/-!
# The order of values is total

Readings of different kinds are not told apart by `SortReading.compare`, so on all readings together
it is no order. The values of one domain are all read in one kind, though, apart from the values
that are unreadable or blank (`Reading.Fits`), and on the readings that fit one domain the order is
that of their codes (`SortReading.compare_eq_compare_code`): a rank, an integer and a list of texts,
compared in this turn.

Hence `compareValues` is total and transitive, whatever the domain and the transliteration, and two
values sort as equal exactly when they are read alike (`compareValues_eq_eq_iff`). The rank of a
reading says whether the value is readable, unreadable or blank (`Reading.rank_of`), so that values
of these three sorts stand one behind the other (`compareValues_total_preorder`).
-/

namespace Tabular

/-! ## Readings of one domain -/

/-- A reading that a value of a domain can have, given the comparison class of the domain. Numbers
are never negative zero. -/
inductive Reading.Fits {τ : Type} : Domain → Reading τ → Prop
  | number {x : Binary64} (h : x.foldZero = x) : Fits .number (.number x)
  | time (millis : Int) : Fits .date (.time millis)
  | flag (b : Bool) : Fits .boolean (.flag b)
  | text (s : τ) : Fits .string (.text s)
  | collection (items : List τ) : Fits .collection (.collection items)
  | unreadable (c : Domain) (s : τ) : Fits c (.unreadable s)
  | blank (c : Domain) : Fits c .blank

namespace Binary64

theorem foldZero_foldZero (x : Binary64) : x.foldZero.foldZero = x.foldZero := by
  by_cases h : x.magnitude = 0 <;> simp [foldZero, h, zero]

/-- Apart from negative zero, the rank of a double tells which double it is. -/
theorem eq_of_rank_eq {x y : Binary64} (hx : x.foldZero = x) (hy : y.foldZero = y)
    (h : x.rank = y.rank) : x = y := by
  have hzero : ∀ z : Binary64, z.foldZero = z → z.magnitude = 0 → z = zero false := by
    intro z hz hmag
    rw [← hz, foldZero, if_pos hmag]
  by_cases hmag : x.magnitude = 0
  · have hmag' : y.magnitude = 0 := by
      unfold rank at h
      split at h <;> split at h <;> omega
    rw [hzero x hx hmag, hzero y hy hmag']
  · obtain ⟨nx, mx, hmx⟩ := x
    obtain ⟨ny, my, hmy⟩ := y
    cases nx <;> cases ny <;>
      simp only [rank, if_true, if_false, Bool.false_eq_true] at h hmag
    case false.false =>
      obtain rfl : mx = my := by omega
      rfl
    case true.true =>
      obtain rfl : mx = my := by omega
      rfl
    all_goals omega

end Binary64

namespace Reading

variable {τ σ : Type}

theorem Fits.map {c : Domain} {r : Reading τ} (f : τ → σ) (h : r.Fits c) : (r.map f).Fits c := by
  cases h <;> constructor
  assumption

/-- A value of a domain is read as the domain is. -/
theorem fits_of (v : Value) (domain : Domain) : (of v domain).Fits domain.comparisonClass := by
  unfold of
  split
  · exact .blank _
  · unfold ofReadable?
    cases hclass : domain.comparisonClass with
    | number =>
      cases v.asNumber? with
      | some x => exact .number x.foldZero_foldZero
      | none => exact .unreadable ..
    | date =>
      cases v.asInstant? with
      | some t => exact .time _
      | none => exact .unreadable ..
    | boolean =>
      cases v.asFlag? with
      | some b => exact .flag b
      | none => exact .unreadable ..
    | collection => exact .collection _
    | string => exact .text _
    | currency | datetime => cases domain <;> cases hclass

end Reading

/-! ## Codes -/

namespace Collated

instance : Std.TransCmp Collated.compare :=
  inferInstanceAs (Std.TransCmp (compareLex (compareOn folded) (compareOn raw)))

instance : Std.LawfulEqCmp Collated.compare where
  compare_self {a} := by
    simp [Collated.compare, Std.ReflOrd.compare_self]
  eq_of_compare {a b} h := by
    obtain ⟨hfolded, hraw⟩ := Ordering.then_eq_eq.mp h
    cases a
    cases b
    simp_all

theorem of_injective (transliterate : String → String) :
    Function.Injective (of transliterate) := fun _ _ h => congrArg raw h

end Collated

/-- What decides the place of a reading among the readings of one domain. -/
structure SortCode where
  rank : Nat
  number : Int
  texts : List Collated

namespace SortCode

/-- The order of two codes, part by part. -/
def compare : SortCode → SortCode → Ordering :=
  compareLex (compareOn rank) (compareLex (compareOn number)
    fun a b => List.compareLex Collated.compare a.texts b.texts)

instance : Std.TransCmp fun a b : SortCode => List.compareLex Collated.compare a.texts b.texts where
  eq_swap {a b} := @Std.OrientedCmp.eq_swap _ (List.compareLex Collated.compare) _ a.texts b.texts
  isLE_trans {a b c} := @Std.TransCmp.isLE_trans _ (List.compareLex Collated.compare) _
    a.texts b.texts c.texts

instance : Std.TransCmp SortCode.compare := inferInstanceAs (Std.TransCmp (compareLex _ _))

theorem compare_eq_eq_iff {a b : SortCode} : a.compare b = .eq ↔ a = b := by
  cases a
  cases b
  simp [compare, compareLex_eq_eq, compareOn, Std.LawfulEqCmp.compare_eq_iff_eq]

end SortCode

namespace SortReading

/-- The code of a reading. -/
def code : SortReading → SortCode
  | .number x => ⟨0, x.rank, []⟩
  | .time millis => ⟨0, millis, []⟩
  | .flag b => ⟨0, if b then 1 else 0, []⟩
  | .text s => ⟨0, 0, [s]⟩
  | .collection items => ⟨0, items.length, items⟩
  | .unreadable s => ⟨1, 0, [s]⟩
  | .blank => ⟨2, 0, []⟩

variable {c : Domain} {a b : SortReading}

/-- **Readings of one domain compare as their codes.** -/
theorem compare_eq_compare_code (ha : a.Fits c) (hb : b.Fits c) :
    a.compare b = a.code.compare b.code := by
  -- readings of different rank are told apart by the rank on both sides
  cases ha <;> cases hb <;> try rfl
  case flag.flag x y => cases x <;> cases y <;> rfl
  case collection.collection items more =>
    have hlength : Ord.compare items.length more.length =
        Ord.compare (items.length : Int) (more.length : Int) := by
      simp only [Ord.compare, compareOfLessAndEq, Int.ofNat_lt, Int.natCast_inj]
    simp [SortReading.compare, compareAlike, Reading.rank, code, SortCode.compare, compareLex,
      compareOn, hlength]
  all_goals
    simp [SortReading.compare, compareAlike, Reading.rank, code, SortCode.compare, compareLex,
      compareOn, List.compareLex_cons_cons, List.compareLex_nil_nil]

/-- The code of a reading tells which reading of its domain it is. -/
theorem eq_of_code_eq (ha : a.Fits c) (hb : b.Fits c) (h : a.code = b.code) : a = b := by
  cases ha <;> cases hb <;> simp_all [code]
  case number.number x hx y hy => exact Binary64.eq_of_rank_eq hx hy h
  case flag.flag x y => cases x <;> cases y <;> simp_all

end SortReading

/-! ## Values -/

section Values

variable {transliterate : String → String} {domain : Domain}

theorem SortReading.fits_of (v : Value) :
    (SortReading.of transliterate v domain).Fits domain.comparisonClass :=
  (Reading.fits_of v domain).map _

theorem compareValues_eq_compare_code (v w : Value) :
    compareValues transliterate domain v w =
      (SortReading.of transliterate v domain).code.compare
        (SortReading.of transliterate w domain).code :=
  SortReading.compare_eq_compare_code (SortReading.fits_of v) (SortReading.fits_of w)

/-- **The order of the values of a domain is total and transitive.** -/
instance : Std.TransCmp (compareValues transliterate domain) where
  eq_swap {v w} := by
    simp only [compareValues_eq_compare_code]
    exact Std.OrientedCmp.eq_swap
  isLE_trans {u v w} := by
    simp only [compareValues_eq_compare_code]
    exact Std.TransCmp.isLE_trans

theorem Reading.map_injective {τ σ : Type} {f : τ → σ} (hf : Function.Injective f) :
    Function.Injective (Reading.map f) := by
  intro r s h
  cases r <;> cases s <;> simp_all [Reading.map, hf.eq_iff, (List.map_injective_iff.mpr hf).eq_iff]

/-- **Two values sort as equal exactly when they are read alike.** -/
theorem compareValues_eq_eq_iff {v w : Value} :
    compareValues transliterate domain v w = .eq ↔ Reading.of v domain = Reading.of w domain := by
  rw [compareValues_eq_compare_code, SortCode.compare_eq_eq_iff]
  constructor
  · intro h
    have hsort := SortReading.eq_of_code_eq (SortReading.fits_of v) (SortReading.fits_of w) h
    exact Reading.map_injective (Collated.of_injective transliterate) hsort
  · intro h
    simp only [SortReading.of, h]

end Values

/-! ## Readable, unreadable and blank values -/

/-- Whether a value can be read in a domain: as the number, instant or flag that the domain wants,
or at all, where the domain takes any text. -/
def Value.isReadable (v : Value) (domain : Domain) : Bool :=
  match domain.comparisonClass with
  | .number => v.asNumber?.isSome
  | .date => v.asInstant?.isSome
  | .boolean => v.asFlag?.isSome
  | _ => !v.isBlank

/-- A blank text is no number, no instant and no flag. -/
theorem read_eq_none_of_isBlank {s : String} (h : Text.isBlank s = true) :
    readNumber? s = none ∧ Instant.ofText? s = none ∧ readFlag? s = none := by
  have htrim := Text.trimList_eq_nil_iff.mpr h
  refine ⟨?_, ?_, ?_⟩
  · simp [readNumber?, htrim]
  · rw [Instant.ofText?, htrim]
    decide
  · rw [readFlag?, Text.trim, htrim]
    decide

/-- What is blank cannot be read. -/
theorem Value.not_isReadable_of_isBlank {v : Value} {domain : Domain} (h : v.isBlank = true) :
    v.isReadable domain = false := by
  have hread : v.asNumber? = none ∧ v.asInstant? = none ∧ v.asFlag? = none := by
    cases v with
    | text s =>
      obtain ⟨hnumber, hinstant, hflag⟩ := read_eq_none_of_isBlank h
      simp [asNumber?, asInstant?, asFlag?, hnumber, hinstant, hflag]
    | missing | collection items => exact ⟨rfl, rfl, rfl⟩
    | number n | instant t | flag b => cases h
  unfold isReadable
  split <;> simp [hread, h]

/-- The rank of the reading of a value: readable, unreadable or blank. -/
theorem Reading.rank_of (v : Value) (domain : Domain) :
    (Reading.of v domain).rank = if v.isReadable domain then 0 else if v.isBlank then 2 else 1 := by
  by_cases hblank : v.isBlank = true
  · rw [Value.not_isReadable_of_isBlank hblank, of, if_pos hblank, if_pos hblank]
    rfl
  · rw [of, if_neg hblank, if_neg hblank, ofReadable?, Value.isReadable]
    cases hclass : domain.comparisonClass with
    | number => cases v.asNumber? <;> rfl
    | date => cases v.asInstant? <;> rfl
    | boolean => cases v.asFlag? <;> rfl
    | string | currency | datetime | collection => simp [hblank, rank]

section Values

variable {transliterate : String → String} {domain : Domain}

/-- A value whose reading has the lower rank comes first. -/
theorem compareValues_eq_lt_of_rank {v w : Value}
    (h : (Reading.of v domain).rank < (Reading.of w domain).rank) :
    compareValues transliterate domain v w = .lt := by
  have hrank : ∀ u : Value,
      (SortReading.of transliterate u domain).rank = (Reading.of u domain).rank :=
    fun u => Reading.rank_map _ _
  rw [compareValues, SortReading.compare, hrank, hrank, Nat.compare_eq_lt.mpr h]
  rfl

/-- **The order of the values of a domain is a total preorder**, whatever the transliteration: every
value is equal to itself, the order of two values turns over with them, and it is transitive, also
through values that are equal. The values that can be read come before all others, and of these the
ones that are not blank before the blank ones. -/
theorem compareValues_total_preorder (transliterate : String → String) (domain : Domain) :
    let cmp := compareValues transliterate domain
    (∀ a, cmp a a = .eq) ∧
    (∀ a b, cmp b a = (cmp a b).swap) ∧
    (∀ a b c o, cmp a b = o → cmp b c = o → cmp a c = o) ∧
    (∀ a b c, cmp a b = .eq → cmp a c = cmp b c ∧ cmp c a = cmp c b) ∧
    (∀ a b c, (cmp a b).isLE → (cmp b c).isLE → (cmp a c).isLE) ∧
    (∀ a b, a.isReadable domain = true → b.isReadable domain = false → cmp a b = .lt) ∧
    (∀ a b, a.isReadable domain = false → a.isBlank = false → b.isBlank = true →
      cmp a b = .lt) := by
  intro cmp
  have hcmp : Std.TransCmp cmp := inferInstanceAs (Std.TransCmp (compareValues _ _))
  refine ⟨fun a => Std.ReflCmp.compare_self, fun a b => Std.OrientedCmp.eq_swap,
    fun a b c o hab hbc => ?trans, fun a b c hab => ?congr,
    fun a b c => Std.TransCmp.isLE_trans, fun a b ha hb => ?readable, fun a b ha hrest hb => ?blank⟩
  case trans =>
    cases o with
    | lt => exact Std.TransCmp.lt_trans hab hbc
    | eq => exact Std.TransCmp.eq_trans hab hbc
    | gt => exact Std.TransCmp.gt_trans hab hbc
  case congr => exact ⟨Std.TransCmp.congr_left hab, Std.TransCmp.congr_right hab⟩
  case readable =>
    refine compareValues_eq_lt_of_rank ?_
    rw [Reading.rank_of, Reading.rank_of, ha, hb]
    cases a.isBlank <;> cases b.isBlank <;> decide
  case blank =>
    refine compareValues_eq_lt_of_rank ?_
    rw [Reading.rank_of, Reading.rank_of, Value.not_isReadable_of_isBlank hb, ha, hrest, hb]
    decide

end Values

end Tabular
