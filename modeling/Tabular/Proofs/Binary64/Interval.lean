import Mathlib.Algebra.Order.Field.Power
import Mathlib.Data.Rat.Cast.Order
import Mathlib.Tactic.FieldSimp
import Mathlib.Tactic.Linarith
import Mathlib.Tactic.NormNum
import Mathlib.Tactic.Positivity
import Mathlib.Tactic.Ring
import Tabular.Binary64.Shortest
/-!
# Rounding intervals

The rationals that round to a double lie between the two points half way to its neighbours, and
these ends belong to it when its significand is even (`Binary64.RoundsFrom`). The test of the
printer, in whole numbers, says the same of decimals (`Binary64.rounds_iff`).

The codes of doubles count them in the order of their values. From one code to the next either the
significand grows by one, or a binade ends and the exponent grows by one (`code_succ`). In both
cases the interval of the next code begins where the interval before it ends, and one of the two
significands is odd. So a rational rounds to one magnitude only (`magnitude_eq_of_roundsFrom`).
-/

namespace Tabular

/-- The value of a decimal. -/
def Decimal.value (d : Decimal) : ℚ := d.digits * 10 ^ d.exponent

namespace Binary64

/-! ## Powers in whole numbers -/

theorem pow_toNat {b : ℚ} (hb : b ≠ 0) (k : ℤ) : b ^ k.toNat = b ^ k * b ^ (-k).toNat := by
  obtain ⟨n, rfl | rfl⟩ := k.eq_nat_or_neg
  · simp
  · rw [Int.toNat_neg_natCast, neg_neg, Int.toNat_natCast, zpow_neg, zpow_natCast, pow_zero,
      inv_mul_cancel₀ (pow_ne_zero n hb)]

theorem cast_scaleNum (m : ℕ) (q : ℤ) : (scaleNum m q : ℚ) = m * 2 ^ q * scaleDen q := by
  simp only [scaleNum, scaleDen, Nat.pow_eq, Nat.cast_mul, Nat.cast_pow, Nat.cast_ofNat]
  rw [pow_toNat two_ne_zero, mul_assoc]

theorem scaleDen_pos (q : ℤ) : (0 : ℚ) < scaleDen q := by
  simp only [scaleDen, Nat.pow_eq]
  positivity

/-! ## The interval of a double -/

/-- The lower end of the rounding interval. -/
def lowEnd (x : Binary64) : ℚ := x.scaledLow * 2 ^ (x.exponent - 2)

/-- The upper end of the rounding interval. -/
def highEnd (x : Binary64) : ℚ := x.scaledHigh * 2 ^ (x.exponent - 2)

/-- A rational rounds to the absolute value of a double, a half to the even neighbour. -/
def RoundsFrom (x : Binary64) (v : ℚ) : Prop :=
  if x.significand % 2 = 0 then x.lowEnd ≤ v ∧ v ≤ x.highEnd else x.lowEnd < v ∧ v < x.highEnd

theorem RoundsFrom.le {x : Binary64} {v : ℚ} (h : x.RoundsFrom v) :
    x.lowEnd ≤ v ∧ v ≤ x.highEnd := by
  unfold RoundsFrom at h
  split at h
  · exact h
  · exact ⟨h.1.le, h.2.le⟩

/-- What lies within the ends rounds to the double. -/
theorem roundsFrom_of_lt {x : Binary64} {v : ℚ} (hlow : x.lowEnd < v) (hhigh : v < x.highEnd) :
    x.RoundsFrom v := by
  unfold RoundsFrom
  split
  · exact ⟨hlow.le, hhigh.le⟩
  · exact ⟨hlow, hhigh⟩

/-- **The test in whole numbers** says whether a decimal rounds to the double. -/
theorem rounds_iff {x : Binary64} {digits : ℕ} {k : ℤ} :
    x.rounds digits k = true ↔ x.RoundsFrom (digits * 10 ^ k) := by
  -- both sides of every comparison are multiplied by the denominators of the two powers
  have hscale : (0 : ℚ) < scaleDen (x.exponent - 2) * 10 ^ (-k).toNat := by
    have := scaleDen_pos (x.exponent - 2)
    positivity
  have hend (s : ℕ) : ((s * scaleNum 1 (x.exponent - 2) * Nat.pow 10 (-k).toNat : ℕ) : ℚ) =
      s * 2 ^ (x.exponent - 2) * (scaleDen (x.exponent - 2) * 10 ^ (-k).toNat) := by
    simp only [Nat.pow_eq, Nat.cast_mul, Nat.cast_pow, Nat.cast_ofNat, cast_scaleNum, Nat.cast_one]
    ring
  have hvalue : ((digits * Nat.pow 10 k.toNat * scaleDen (x.exponent - 2) : ℕ) : ℚ) =
      digits * 10 ^ k * (scaleDen (x.exponent - 2) * 10 ^ (-k).toNat) := by
    simp only [Nat.pow_eq, Nat.cast_mul, Nat.cast_pow, Nat.cast_ofNat]
    rw [pow_toNat (by norm_num)]
    ring
  have hle {a b : ℕ} {s t : ℚ} (ha : (a : ℚ) = s * (scaleDen (x.exponent - 2) * 10 ^ (-k).toNat))
      (hb : (b : ℚ) = t * (scaleDen (x.exponent - 2) * 10 ^ (-k).toNat)) :
      (a ≤ b ↔ s ≤ t) ∧ (a < b ↔ s < t) := by
    rw [← Nat.cast_le (α := ℚ), ← Nat.cast_lt (α := ℚ), ha, hb]
    exact ⟨mul_le_mul_iff_left₀ hscale, mul_lt_mul_iff_left₀ hscale⟩
  have hlow := hle (hend x.scaledLow) hvalue
  have hhigh := hle hvalue (hend x.scaledHigh)
  unfold rounds RoundsFrom lowEnd highEnd
  split <;> simp only [Bool.and_eq_true, decide_eq_true_eq, hlow, hhigh]

/-! ## Neighbours -/

/-- The significand of a code. -/
def codeSignificand (code : ℕ) : ℕ :=
  if code / 2 ^ 52 = 0 then code % 2 ^ 52 else 2 ^ 52 + code % 2 ^ 52

/-- The exponent of a code. -/
def codeExponent (code : ℕ) : ℤ :=
  if code / 2 ^ 52 = 0 then -1074 else ((code / 2 ^ 52 : ℕ) : ℤ) - 1075

theorem significand_eq (x : Binary64) : x.significand = codeSignificand x.magnitude := rfl

theorem exponent_eq (x : Binary64) : x.exponent = codeExponent x.magnitude := rfl

theorem scaledLow_eq (x : Binary64) :
    x.scaledLow = if x.magnitude % 2 ^ 52 = 0 ∧ 2 ^ 52 < x.magnitude then
      4 * codeSignificand x.magnitude - 1 else 4 * codeSignificand x.magnitude - 2 := rfl

/-- The next code has the next significand, or begins a binade. -/
theorem code_succ (code : ℕ) :
    (codeSignificand (code + 1) = codeSignificand code + 1 ∧
      codeExponent (code + 1) = codeExponent code ∧
      ¬ ((code + 1) % 2 ^ 52 = 0 ∧ 2 ^ 52 < code + 1)) ∨
    (codeSignificand (code + 1) = 2 ^ 52 ∧ codeSignificand code = 2 ^ 53 - 1 ∧
      codeExponent (code + 1) = codeExponent code + 1 ∧
      (code + 1) % 2 ^ 52 = 0 ∧ 2 ^ 52 < code + 1) := by
  unfold codeSignificand codeExponent
  norm_num
  split <;> split <;> omega

/-- The significands of neighbours differ in parity. -/
theorem codeSignificand_succ_mod_two (code : ℕ) :
    codeSignificand (code + 1) % 2 ≠ codeSignificand code % 2 := by
  obtain ⟨h, -⟩ | ⟨h, h', -⟩ := code_succ code
  · omega
  · rw [h, h']
    decide

/-- The upper end of the rounding interval of a code. -/
def codeEnd (code : ℕ) : ℚ := (4 * codeSignificand code + 2) * 2 ^ (codeExponent code - 2)

theorem highEnd_eq (x : Binary64) : x.highEnd = codeEnd x.magnitude := by
  rw [highEnd, scaledHigh, scaledSignificand, significand_eq, exponent_eq, codeEnd]
  push_cast
  rfl

theorem two_zpow_succ (q : ℤ) : (2 : ℚ) ^ (q + 1 - 2) = 2 * 2 ^ (q - 2) := by
  rw [show q + 1 - 2 = (q - 2) + 1 by ring, zpow_add_one₀ two_ne_zero, mul_comm]

/-- The interval of a code begins where the interval of the code before it ends. -/
theorem lowEnd_eq {x : Binary64} {code : ℕ} (h : x.magnitude = code + 1) :
    x.lowEnd = codeEnd code := by
  rw [lowEnd, scaledLow_eq, exponent_eq, h, codeEnd]
  obtain ⟨hsig, hexp, hbinade⟩ | ⟨hsig, hsig', hexp, hbinade⟩ := code_succ code
  · rw [if_neg hbinade, hsig, hexp, show 4 * (codeSignificand code + 1) - 2 =
      4 * codeSignificand code + 2 by omega]
    push_cast
    rfl
  · rw [if_pos hbinade, hsig, hsig', hexp, two_zpow_succ]
    norm_num
    ring

theorem codeEnd_strictMono : StrictMono codeEnd := by
  refine strictMono_nat_of_lt_succ fun code => ?_
  have hpos : (0 : ℚ) < 2 ^ (codeExponent code - 2) := by positivity
  unfold codeEnd
  obtain ⟨hsig, hexp, -⟩ | ⟨hsig, hsig', hexp, -⟩ := code_succ code
  · rw [hsig, hexp]
    refine mul_lt_mul_of_pos_right ?_ hpos
    push_cast
    linarith
  · rw [hsig, hsig', hexp, two_zpow_succ, ← mul_assoc]
    refine mul_lt_mul_of_pos_right ?_ hpos
    norm_num

/-- **A rational rounds to one magnitude only.** -/
theorem magnitude_eq_of_roundsFrom {x y : Binary64} {v : ℚ} (hx : x.RoundsFrom v)
    (hy : y.RoundsFrom v) : x.magnitude = y.magnitude := by
  wlog hlt : x.magnitude < y.magnitude generalizing x y
  · by_contra hne
    exact hne (this hy hx (by omega)).symm
  exfalso
  obtain ⟨code, hcode⟩ : ∃ code, y.magnitude = code + 1 := ⟨y.magnitude - 1, by omega⟩
  have hlow := lowEnd_eq hcode
  have hhigh := highEnd_eq x
  have hbelow : codeEnd code ≤ v := hlow ▸ hy.le.1
  have habove : v ≤ codeEnd x.magnitude := hhigh ▸ hx.le.2
  have hle : codeEnd x.magnitude ≤ codeEnd code := codeEnd_strictMono.monotone (by omega)
  -- the intervals have an end in common, which belongs to even significands only
  obtain rfl : x.magnitude = code :=
    codeEnd_strictMono.injective (le_antisymm hle (hbelow.trans habove))
  have hxeven : x.significand % 2 = 0 := by
    by_contra hodd
    rw [RoundsFrom, if_neg hodd, hhigh] at hx
    exact absurd hx.2 (not_lt.mpr hbelow)
  have hyeven : y.significand % 2 = 0 := by
    by_contra hodd
    rw [RoundsFrom, if_neg hodd, hlow] at hy
    exact absurd hy.1 (not_lt.mpr habove)
  refine codeSignificand_succ_mod_two x.magnitude ?_
  rw [← hcode, ← significand_eq, ← significand_eq, hxeven, hyeven]

end Binary64

end Tabular
