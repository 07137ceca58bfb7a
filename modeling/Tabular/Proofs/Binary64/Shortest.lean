import Mathlib.Data.Nat.Log
import Tabular.Proofs.Binary64.Interval
/-!
# Seventeen digits suffice

The printer looks for a decimal on grids of more and more digits and takes the first that rounds to
the double. The value of a finite double other than zero has seventeen digits before the last grid
ends: the estimate of its decimal exponent is never too large (`zpow_decimalExponent_le`). The
nearest point of that grid is then nearer to the value than either end of the rounding interval
(`exists_nearestOnGrid?`). So the search finds a decimal on some grid, and what it finds
rounds to the double (`roundsFrom_shortest`).
-/

namespace Tabular

namespace Decimal

theorem value_stripZeros (fuel : ℕ) (d : Decimal) : (d.stripZeros fuel).value = d.value := by
  induction fuel generalizing d with
  | zero => rfl
  | succ fuel ih =>
    rw [stripZeros]
    split
    case isTrue h =>
      rw [ih, value, value]
      have hdigits : (d.digits : ℚ) = (d.digits / 10 : ℕ) * 10 := by
        exact_mod_cast (by omega : d.digits = d.digits / 10 * 10)
      rw [hdigits, zpow_add_one₀ (by norm_num)]
      ring
    case isFalse => rfl

theorem digits_stripZeros_ne_zero {fuel : ℕ} {d : Decimal} (h : d.digits ≠ 0) :
    (d.stripZeros fuel).digits ≠ 0 := by
  induction fuel generalizing d with
  | zero => exact h
  | succ fuel ih =>
    rw [stripZeros]
    split
    case isTrue hdigit =>
      refine ih ?_
      change d.digits / 10 ≠ 0
      omega
    case isFalse => exact h

end Decimal

namespace Binary64

/-! ## The decimal exponent -/

section Exponent

variable {num den : ℕ}

/-- The test of `raiseExponent`. -/
theorem mul_pow_le_iff (hden : 0 < den) (e : ℤ) :
    den * Nat.pow 10 e.toNat ≤ num * Nat.pow 10 (-e).toNat ↔ (10 : ℚ) ^ e ≤ num / den := by
  have hden' : (0 : ℚ) < den := by exact_mod_cast hden
  have hpow : (0 : ℚ) < 10 ^ (-e).toNat := by positivity
  rw [le_div_iff₀ hden', ← mul_le_mul_iff_left₀ hpow, ← Nat.cast_le (α := ℚ)]
  simp only [Nat.pow_eq, Nat.cast_mul, Nat.cast_pow, Nat.cast_ofNat]
  rw [pow_toNat (by norm_num) e]
  refine iff_of_eq (congrArg (· ≤ _) ?_)
  ring

/-- Raising a decimal exponent does not overshoot. -/
theorem zpow_raiseExponent_le (hden : 0 < den) {e : ℤ} (fuel : ℕ) (he : (10 : ℚ) ^ e ≤ num / den) :
    (10 : ℚ) ^ raiseExponent num den fuel e ≤ num / den := by
  induction fuel generalizing e with
  | zero => exact he
  | succ fuel ih =>
    rw [raiseExponent]
    split
    case isTrue h => exact ih ((mul_pow_le_iff hden (e + 1)).mp h)
    case isFalse => exact he

/-- The binary exponents of the values of finite doubles. -/
theorem zpow_estimate_le {bits : ℤ} (hlow : -1100 ≤ bits) (hhigh : bits ≤ 1100) :
    (10 : ℚ) ^ (bits * 30103 / 100000 - 1) ≤ 2 ^ bits := by
  have hup : ∀ b < 1101, 10 ^ (b * 30103 / 100000) ≤ 10 * 2 ^ b := by decide +kernel
  have hdown : ∀ c < 1101, 2 ^ c ≤ 10 ^ ((c * 30103 + 99999) / 100000 + 1) := by decide +kernel
  obtain ⟨n, rfl | rfl⟩ := bits.eq_nat_or_neg
  · have hfloor : (n : ℤ) * 30103 / 100000 = (n * 30103 / 100000 : ℕ) := by omega
    have h : (10 : ℚ) ^ (n * 30103 / 100000) ≤ 10 * 2 ^ n := by exact_mod_cast hup n (by omega)
    rw [hfloor, zpow_sub_one₀ (by norm_num), zpow_natCast, zpow_natCast]
    linarith
  · have hfloor : -(n : ℤ) * 30103 / 100000 - 1 = -((n * 30103 + 99999) / 100000 + 1 : ℕ) := by
      omega
    have h : (2 : ℚ) ^ n ≤ 10 ^ ((n * 30103 + 99999) / 100000 + 1) := by
      exact_mod_cast hdown n (by omega)
    rw [hfloor, zpow_neg, zpow_neg, zpow_natCast, zpow_natCast]
    exact inv_anti₀ (by positivity) h

/-- The number of bits of a quotient bounds it from below. -/
theorem two_zpow_le_div (hnum : num ≠ 0) (hden : den ≠ 0) :
    (2 : ℚ) ^ ((num.log2 : ℤ) - den.log2 - 1) ≤ num / den := by
  have hden' : (0 : ℚ) < den := by exact_mod_cast Nat.pos_of_ne_zero hden
  have hlow : (2 : ℚ) ^ num.log2 ≤ num := by exact_mod_cast Nat.log2_self_le hnum
  have hhigh : (den : ℚ) ≤ 2 ^ (den.log2 + 1) := by exact_mod_cast Nat.lt_log2_self.le
  rw [show (num.log2 : ℤ) - den.log2 - 1 = num.log2 - (den.log2 + 1 : ℕ) by push_cast; ring,
    zpow_sub₀ two_ne_zero, zpow_natCast, zpow_natCast]
  exact div_le_div₀ (by positivity) hlow hden' hhigh

/-- **The decimal exponent is not too large**, for the numbers of bits that doubles have. -/
theorem zpow_decimalExponent_le (hnum : num ≠ 0) (hden : den ≠ 0) (hbits : num.log2 < 1024)
    (hbits' : den.log2 < 1075) : (10 : ℚ) ^ decimalExponent num den ≤ num / den := by
  refine zpow_raiseExponent_le (Nat.pos_of_ne_zero hden) 4 ?_
  exact (zpow_estimate_le (by omega) (by omega)).trans (two_zpow_le_div hnum hden)

end Exponent

/-! ## The last grid -/

section Grid

variable {x : Binary64} {tie : DecimalTie} {k : ℤ} {d : Decimal}

/-- The absolute value of a finite double. -/
def absValue (x : Binary64) : ℚ := x.significand * 2 ^ x.exponent

theorem numerator_div_denominator (x : Binary64) :
    (x.numerator : ℚ) / x.denominator = x.absValue := by
  rw [numerator, denominator, cast_scaleNum, mul_div_cancel_right₀ _ (scaleDen_pos _).ne', absValue]

/-- The significand of a finite double other than zero, and its least value where the gap below is
narrow. -/
theorem significand_bounds (hne : x.magnitude ≠ 0) :
    0 < x.significand ∧ x.significand < 2 ^ 53 ∧
      (x.magnitude % 2 ^ 52 = 0 ∧ 2 ^ 52 < x.magnitude → x.significand = 2 ^ 52) := by
  rw [significand_eq, codeSignificand]
  norm_num
  split <;> omega

/-- A rational nearer to the value than a seventeen-digit grid is wide rounds to the double. -/
theorem roundsFrom_of_near (hne : x.magnitude ≠ 0) {v : ℚ}
    (h : 2 * 10 ^ 16 * |v - x.absValue| ≤ x.absValue) : x.RoundsFrom v := by
  obtain ⟨hpos, hlt, hnarrow⟩ := significand_bounds hne
  have hp : (0 : ℚ) < 2 ^ (x.exponent - 2) := by positivity
  have hvalue : x.absValue = 4 * x.significand * 2 ^ (x.exponent - 2) := by
    rw [absValue, zpow_sub₀ two_ne_zero]
    norm_num
    ring
  have hhigh : x.highEnd = (4 * x.significand + 2) * 2 ^ (x.exponent - 2) := by
    rw [highEnd, scaledHigh, scaledSignificand]
    push_cast
    rfl
  have hlow : x.lowEnd = (4 * x.significand - if x.magnitude % 2 ^ 52 = 0 ∧ 2 ^ 52 < x.magnitude
      then 1 else 2) * 2 ^ (x.exponent - 2) := by
    rw [lowEnd, scaledLow_eq, ← significand_eq]
    split
    · rw [Nat.cast_sub (by omega)]
      norm_num
    · rw [Nat.cast_sub (by omega)]
      norm_num
  have hnear := abs_le.mp (show |v - x.absValue| ≤ x.absValue / (2 * 10 ^ 16) by
    rw [le_div_iff₀ (by norm_num)]
    linarith)
  have hsig : (x.significand : ℚ) * 2 ^ (x.exponent - 2) < 2 ^ 53 * 2 ^ (x.exponent - 2) :=
    mul_lt_mul_of_pos_right (by exact_mod_cast hlt) hp
  rw [hvalue] at hnear
  refine roundsFrom_of_lt ?_ ?_
  · rw [hlow]
    split
    case isTrue hbinade =>
      rw [hnarrow hbinade] at hnear ⊢
      push_cast at hnear ⊢
      linarith
    case isFalse => linarith
  · rw [hhigh]
    linarith

/-- Whether the point above a quotient is tried first. -/
def prefersUp (tie : DecimalTie) (num den : ℕ) : Bool :=
  if 2 * (num % den) = den then
    match tie with
    | .even => num / den % 2 == 1
    | .up => true
  else decide (den < 2 * (num % den))

/-- The point next to a quotient that is tried first. -/
def nearestPoint (tie : DecimalTie) (num den : ℕ) : ℕ :=
  if prefersUp tie num den then num / den + 1 else num / den

/-- Of the two points next to the value, a nearest one is tried first. -/
theorem nearestOnGrid?_eq (tie : DecimalTie) (x : Binary64) (k : ℤ) :
    ∃ first second : ℕ, first = nearestPoint tie (x.numerator * Nat.pow 10 (-k).toNat)
        (x.denominator * Nat.pow 10 k.toNat) ∧
      nearestOnGrid? tie x k =
        if first ≠ 0 ∧ x.rounds first k then some ⟨first, k⟩
        else if second ≠ 0 ∧ x.rounds second k then some ⟨second, k⟩
        else none :=
  ⟨_, _, rfl, rfl⟩

/-- What is found on a grid rounds to the double. -/
theorem roundsFrom_of_nearestOnGrid? (h : nearestOnGrid? tie x k = some d) :
    x.RoundsFrom d.value ∧ d.digits ≠ 0 := by
  obtain ⟨first, second, -, heq⟩ := nearestOnGrid?_eq tie x k
  rw [heq] at h
  split at h
  case isTrue hfirst =>
    obtain rfl := Option.some.inj h
    exact ⟨rounds_iff.mp hfirst.2, hfirst.1⟩
  case isFalse =>
    split at h
    case isTrue hsecond =>
      obtain rfl := Option.some.inj h
      exact ⟨rounds_iff.mp hsecond.2, hsecond.1⟩
    case isFalse => cases h

/-- The point that is tried first is a nearest one. -/
theorem abs_nearestPoint_sub_le (tie : DecimalTie) (num : ℕ) {den : ℕ} (hden : 0 < den) :
    |(nearestPoint tie num den : ℚ) - num / den| ≤ 1 / 2 := by
  have hden' : (0 : ℚ) < den := by exact_mod_cast hden
  have hnum : (num : ℚ) = den * (num / den : ℕ) + (num % den : ℕ) := by
    exact_mod_cast (Nat.div_add_mod num den).symm
  have hrest : num % den < den := Nat.mod_lt num hden
  have hup : prefersUp tie num den = true → den ≤ 2 * (num % den) := by
    unfold prefersUp
    split
    · omega
    · simp only [decide_eq_true_eq]
      omega
  have hdown : prefersUp tie num den ≠ true → 2 * (num % den) ≤ den := by
    unfold prefersUp
    split
    · omega
    · simp only [ne_eq, decide_eq_true_eq]
      omega
  have hbound {n : ℚ} (h : |2 * (n * den - num)| ≤ den) : |n - num / den| ≤ 1 / 2 := by
    rw [show n - num / den = 2 * (n * den - num) / (2 * den) by field_simp, abs_div,
      abs_of_pos (by positivity : (0 : ℚ) < 2 * den), div_le_div_iff₀ (by positivity) two_pos]
    linarith
  refine hbound (abs_le.mpr ?_)
  rw [nearestPoint]
  split
  case isTrue h =>
    have h1 : (den : ℚ) ≤ 2 * (num % den : ℕ) := by exact_mod_cast hup h
    have h2 : ((num % den : ℕ) : ℚ) ≤ den := by exact_mod_cast hrest.le
    rw [hnum]
    push_cast
    constructor <;> nlinarith
  case isFalse h =>
    have h1 : 2 * ((num % den : ℕ) : ℚ) ≤ den := by exact_mod_cast hdown h
    have h2 : (0 : ℚ) ≤ (num % den : ℕ) := by positivity
    rw [hnum]
    constructor <;> nlinarith

/-- **The nearest point of a fine grid rounds to the double.** -/
theorem exists_nearestOnGrid? (tie : DecimalTie) (hne : x.magnitude ≠ 0)
    (hk : 10 ^ 16 * 10 ^ k ≤ x.absValue) : ∃ d, nearestOnGrid? tie x k = some d := by
  obtain ⟨first, second, hfirst, heq⟩ := nearestOnGrid?_eq tie x k
  have hpow : (0 : ℚ) < 10 ^ k := by positivity
  have hden : 0 < x.denominator * Nat.pow 10 k.toNat :=
    Nat.mul_pos (by exact_mod_cast scaleDen_pos x.exponent) (Nat.pow_pos (by decide))
  have hquotient : ((x.numerator * Nat.pow 10 (-k).toNat : ℕ) : ℚ) /
      (x.denominator * Nat.pow 10 k.toNat : ℕ) = x.absValue / 10 ^ k := by
    simp only [Nat.pow_eq, Nat.cast_mul, Nat.cast_pow, Nat.cast_ofNat]
    rw [pow_toNat (by norm_num) k, ← numerator_div_denominator]
    field_simp
  have hpoint := abs_nearestPoint_sub_le tie (x.numerator * Nat.pow 10 (-k).toNat) hden
  rw [← hfirst, hquotient] at hpoint
  have hlarge : 10 ^ 16 ≤ x.absValue / 10 ^ k := (le_div_iff₀ hpow).mpr hk
  have hne' : first ≠ 0 := by
    rintro rfl
    have := (abs_le.mp hpoint).1
    push_cast at this
    linarith
  have hnear : |first * 10 ^ k - x.absValue| ≤ 1 / 2 * 10 ^ k := by
    have hsplit : first * 10 ^ k - x.absValue = (first - x.absValue / 10 ^ k) * 10 ^ k := by
      field_simp
    rw [hsplit, abs_mul, abs_of_pos hpow]
    exact mul_le_mul_of_nonneg_right hpoint hpow.le
  have hrounds : x.rounds first k = true := by
    refine rounds_iff.mpr (roundsFrom_of_near hne ?_)
    linarith
  exact ⟨_, heq.trans (if_pos ⟨hne', hrounds⟩)⟩

/-- The fraction of a finite double has no more bits than the estimate of its decimal exponent
allows for. -/
theorem log2_bounds (hfinite : x.isFinite = true) (hne : x.magnitude ≠ 0) :
    x.numerator ≠ 0 ∧ x.denominator ≠ 0 ∧ x.numerator.log2 < 1024 ∧ x.denominator.log2 < 1075 := by
  obtain ⟨hpos, hlt, -⟩ := significand_bounds hne
  have hexp : -1074 ≤ x.exponent ∧ x.exponent ≤ 971 := by
    have hmag : x.magnitude < 0x7FF0000000000000 := of_decide_eq_true hfinite
    rw [exponent_eq, codeExponent]
    norm_num
    split <;> omega
  have hnum : x.numerator = x.significand * 2 ^ x.exponent.toNat := rfl
  have hden : x.denominator = 2 ^ (-x.exponent).toNat := rfl
  have hnum' : x.numerator ≠ 0 := hnum ▸ (Nat.mul_pos hpos (by positivity)).ne'
  have hbits : x.numerator < 2 ^ (53 + x.exponent.toNat) := by
    rw [hnum, pow_add]
    exact Nat.mul_lt_mul_of_pos_right hlt (by positivity)
  refine ⟨hnum', hden ▸ (Nat.two_pow_pos _).ne', ?_, ?_⟩
  · have := (Nat.log2_lt hnum').mpr hbits
    omega
  · rw [hden, Nat.log2_two_pow]
    omega

/-- **The shortest decimal rounds to the double.** -/
theorem roundsFrom_shortest (tie : DecimalTie) (hfinite : x.isFinite = true)
    (hne : x.magnitude ≠ 0) :
    x.RoundsFrom (shortest tie x).value ∧ (shortest tie x).digits ≠ 0 := by
  have hexponent : (10 : ℚ) ^ decimalExponent x.numerator x.denominator ≤ x.absValue := by
    obtain ⟨hnum, hden, hbits, hbits'⟩ := log2_bounds hfinite hne
    rw [← numerator_div_denominator]
    exact zpow_decimalExponent_le hnum hden hbits hbits'
  have hlast : 10 ^ 16 * (10 : ℚ) ^ (decimalExponent x.numerator x.denominator - (16 : ℕ)) ≤
      x.absValue := by
    rw [zpow_sub₀ (by norm_num), zpow_natCast]
    refine le_trans (le_of_eq ?_) hexponent
    field_simp
  obtain ⟨last, hlast⟩ := exists_nearestOnGrid? tie hne hlast
  cases hfound : (List.range 17).findSome? fun count =>
      nearestOnGrid? tie x (decimalExponent x.numerator x.denominator - (count : ℕ)) with
  | none =>
    have := List.findSome?_eq_none_iff.mp hfound 16 (by decide)
    rw [hlast] at this
    cases this
  | some d =>
    obtain ⟨count, -, hd⟩ := List.exists_of_findSome?_eq_some hfound
    obtain ⟨hrounds, hdigits⟩ := roundsFrom_of_nearestOnGrid? hd
    have hshortest : shortest tie x = d.stripZeros 20 := by
      simp only [shortest, hfound, Option.getD_some]
    rw [hshortest, Decimal.value_stripZeros]
    exact ⟨hrounds, Decimal.digits_stripZeros_ne_zero hdigits⟩

end Grid

end Binary64

end Tabular
