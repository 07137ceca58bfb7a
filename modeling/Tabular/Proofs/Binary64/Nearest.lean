import Mathlib.Tactic.SplitIfs
import Tabular.Proofs.Binary64.Shortest
/-!
# The double nearest to a rational

A positive rational is `u * 2 ^ q` where the doubles around it are `2 ^ q` apart, and its
significand is the integer nearest to `u` (`exists_roundCode_eq`). The code made of the exponent and
of this integer is that of a double whose rounding interval has the rational in it, also where the
integer is the first one of the next binade. So rounding is correct up to the end of the largest
finite double (`roundsFrom_ofRatio`).
-/

namespace Tabular.Binary64

/-! ## Nearest integers -/

/-- A rational rounds to an integer, a half to the even neighbour. -/
structure IsNearest (n : ℕ) (v : ℚ) : Prop where
  sub_le : n - 1 / 2 ≤ v
  le_add : v ≤ n + 1 / 2
  lt_of_odd : n % 2 = 1 → n - 1 / 2 < v ∧ v < n + 1 / 2

namespace IsNearest

variable {n : ℕ} {v : ℚ}

theorem le_of_lt_add (h : IsNearest n v) {m : ℕ} (hv : v < m + 1 / 2) : n ≤ m := by
  have hlt : (n : ℚ) < (m + 1 : ℕ) := by
    push_cast
    linarith [h.sub_le]
  exact Nat.lt_succ_iff.mp (by exact_mod_cast hlt)

theorem le_of_le (h : IsNearest n v) {m : ℕ} (hv : (m : ℚ) ≤ v) : m ≤ n := by
  have hlt : (m : ℚ) < (n + 1 : ℕ) := by
    push_cast
    linarith [h.le_add]
  exact Nat.lt_succ_iff.mp (by exact_mod_cast hlt)

end IsNearest

/-- **A quotient is rounded to the nearest integer.** -/
theorem isNearest_roundHalfEven {den : ℕ} (hden : 0 < den) (num : ℕ) :
    IsNearest (roundHalfEven num den) (num / den) := by
  have hden' : (0 : ℚ) < den := by exact_mod_cast hden
  have hquotient : (num : ℚ) / den = (num / den : ℕ) + (num % den : ℕ) / den := by
    have hnum : (num : ℚ) = den * (num / den : ℕ) + (num % den : ℕ) := by
      exact_mod_cast (Nat.div_add_mod num den).symm
    rw [div_eq_iff hden'.ne', add_mul, div_mul_cancel₀ _ hden'.ne', mul_comm _ (den : ℚ), ← hnum]
  have hlt : ((num % den : ℕ) : ℚ) / den < 1 := by
    rw [div_lt_one hden']
    exact_mod_cast Nat.mod_lt num hden
  have hpos : (0 : ℚ) ≤ ((num % den : ℕ) : ℚ) / den := by positivity
  have hbelow : 2 * (num % den) < den ↔ ((num % den : ℕ) : ℚ) / den < 1 / 2 := by
    rw [div_lt_div_iff₀ hden' two_pos, ← Nat.cast_lt (α := ℚ)]
    push_cast
    rw [one_mul, mul_comm]
  have habove : den < 2 * (num % den) ↔ 1 / 2 < ((num % den : ℕ) : ℚ) / den := by
    rw [div_lt_div_iff₀ two_pos hden', ← Nat.cast_lt (α := ℚ)]
    push_cast
    rw [one_mul, mul_comm]
  rw [hquotient]
  unfold roundHalfEven
  generalize ((num % den : ℕ) : ℚ) / den = rest at hlt hpos hbelow habove
  generalize num / den = quotient
  dsimp only
  have hsucc : ((quotient + 1 : ℕ) : ℚ) = quotient + 1 := Nat.cast_succ quotient
  split_ifs with h₁ h₂ h₃
  · have hrest := hbelow.mp h₁
    exact ⟨by linarith, by linarith, fun _ => ⟨by linarith, by linarith⟩⟩
  · have hrest := habove.mp h₂
    exact ⟨by linarith, by linarith, fun _ => ⟨by linarith, by linarith⟩⟩
  · have hrest : rest ≤ 1 / 2 := not_lt.mp fun h => h₂ (habove.mpr h)
    exact ⟨by linarith, by linarith, fun hodd => by omega⟩
  · have hrest : 1 / 2 ≤ rest := not_lt.mp fun h => h₁ (hbelow.mpr h)
    exact ⟨by linarith, by linarith, fun hodd => by omega⟩

/-! ## Binades -/

section Binade

variable {num den : ℕ}

/-- The test of `binade`. -/
theorem mul_scaleDen_lt_iff (num : ℕ) (hden : 0 < den) (e : ℤ) :
    num * scaleDen e < den * scaleNum 1 e ↔ (num / den : ℚ) < 2 ^ e := by
  have hden' : (0 : ℚ) < den := by exact_mod_cast hden
  rw [div_lt_iff₀ hden', ← mul_lt_mul_iff_left₀ (scaleDen_pos e), ← Nat.cast_lt (α := ℚ)]
  simp only [Nat.cast_mul, cast_scaleNum, Nat.cast_one]
  rw [one_mul, ← mul_assoc, mul_comm (den : ℚ)]

/-- **The binade of a quotient.** -/
theorem zpow_binade_le (hnum : num ≠ 0) (hden : den ≠ 0) :
    2 ^ binade num den ≤ (num / den : ℚ) ∧ (num / den : ℚ) < 2 ^ (binade num den + 1) := by
  have hnumhigh : (num : ℚ) < 2 ^ (num.log2 + 1) := by exact_mod_cast Nat.lt_log2_self
  have hdenlow : (2 : ℚ) ^ den.log2 ≤ den := by exact_mod_cast Nat.log2_self_le hden
  have hhigh : (num / den : ℚ) < 2 ^ ((num.log2 : ℤ) - den.log2 + 1) := by
    rw [show (num.log2 : ℤ) - den.log2 + 1 = (num.log2 + 1 : ℕ) - den.log2 by push_cast; ring,
      zpow_sub₀ two_ne_zero, zpow_natCast, zpow_natCast]
    exact div_lt_div₀ hnumhigh hdenlow (by positivity) (by positivity)
  have htest := mul_scaleDen_lt_iff num (Nat.pos_of_ne_zero hden) ((num.log2 : ℤ) - den.log2)
  unfold binade
  dsimp only
  split
  case isTrue h => exact ⟨two_zpow_le_div hnum hden, by simpa using htest.mp h⟩
  case isFalse h => exact ⟨not_lt.mp fun hlt => h (htest.mpr hlt), hhigh⟩

end Binade
/-! ## Codes -/

section Code

variable {k m : ℕ} {u v : ℚ}

/-- A code taken apart: below the first binade the significand is the code itself. -/
theorem code_fields (hm : m < 2 ^ 53) (hlow : k = 0 ∨ 2 ^ 52 ≤ m) :
    codeSignificand (k * 2 ^ 52 + m) = m ∧ codeExponent (k * 2 ^ 52 + m) = k - 1074 := by
  unfold codeSignificand codeExponent
  norm_num at hm hlow ⊢
  constructor <;> split <;> omega

theorem codeEnd_eq (hm : m < 2 ^ 53) (hlow : k = 0 ∨ 2 ^ 52 ≤ m) :
    codeEnd (k * 2 ^ 52 + m) = (m + 1 / 2) * 2 ^ ((k : ℤ) - 1074) := by
  obtain ⟨hsig, hexp⟩ := code_fields hm hlow
  rw [codeEnd, hsig, hexp, zpow_sub₀ two_ne_zero _ 2]
  norm_num
  ring

/-- The interval of a code: from the end of the code before it up to its own end, both ends included
when the significand is even. -/
structure InInterval (code : ℕ) (v : ℚ) : Prop where
  low : ∀ below, code = below + 1 → codeEnd below ≤ v
  high : v ≤ codeEnd code
  lt_of_odd : codeSignificand code % 2 = 1 →
    (∀ below, code = below + 1 → codeEnd below < v) ∧ v < codeEnd code

theorem InInterval.roundsFrom {x : Binary64} (h : InInterval x.magnitude v) (hv : 0 ≤ v) :
    x.RoundsFrom v := by
  cases hcode : x.magnitude with
  | zero =>
    have hsig : x.significand = 0 := by
      rw [significand_eq, hcode]
      decide
    have hlow : x.lowEnd = 0 := by
      rw [lowEnd, scaledLow_eq, ← significand_eq, hsig, hcode]
      simp
    rw [RoundsFrom, hsig, if_pos rfl, hlow, highEnd_eq]
    exact ⟨hv, h.high⟩
  | succ below =>
    rw [RoundsFrom, lowEnd_eq hcode, highEnd_eq, significand_eq]
    split
    case isTrue heven => exact ⟨h.low below hcode, h.high⟩
    case isFalse hodd =>
      obtain ⟨hlow, hhigh⟩ := h.lt_of_odd (Nat.mod_two_ne_zero.mp hodd)
      exact ⟨hlow below hcode, hhigh⟩

/-- The code before one with a nearest significand ends half a step below it. At the beginning of a
binade the steps below are half as wide, and the rational is not below the significand. -/
theorem codeEnd_pred_le (hnear : IsNearest m u) (hm : m < 2 ^ 53) (hu : k = 0 ∨ 2 ^ 52 ≤ u)
    {below : ℕ} (hbelow : k * 2 ^ 52 + m = below + 1) :
    codeEnd below ≤ u * 2 ^ ((k : ℤ) - 1074) ∧
      (m % 2 = 1 → codeEnd below < u * 2 ^ ((k : ℤ) - 1074)) := by
  have hpos : (0 : ℚ) < 2 ^ ((k : ℤ) - 1074) := by positivity
  have hlow : k = 0 ∨ 2 ^ 52 ≤ m := hu.imp_right fun h => hnear.le_of_le (by exact_mod_cast h)
  by_cases hfirst : k ≠ 0 ∧ m = 2 ^ 52
  · obtain ⟨hk, rfl⟩ := hfirst
    have hu' := hu.resolve_left hk
    obtain ⟨k, rfl⟩ := Nat.exists_eq_succ_of_ne_zero hk
    obtain rfl : below = k * 2 ^ 52 + (2 ^ 53 - 1) := by omega
    have hstep : (2 : ℚ) ^ (((k + 1 : ℕ) : ℤ) - 1074) = 2 ^ ((k : ℤ) - 1074) * 2 := by
      rw [← zpow_add_one₀ two_ne_zero]
      congr 1
      push_cast
      ring
    have hpos' : (0 : ℚ) < 2 ^ ((k : ℤ) - 1074) := by positivity
    rw [codeEnd_eq (by norm_num) (.inr (by norm_num)), hstep, ← mul_assoc, mul_right_comm]
    refine ⟨mul_le_mul_of_nonneg_right ?_ hpos'.le, fun hodd => absurd hodd (by norm_num)⟩
    norm_num
    linarith
  · obtain ⟨m, rfl⟩ : ∃ p, m = p + 1 := by
      refine ⟨m - 1, ?_⟩
      omega
    obtain rfl : below = k * 2 ^ 52 + m := by omega
    have hsucc : ((m + 1 : ℕ) : ℚ) - 1 / 2 = m + 1 / 2 := by
      push_cast
      ring
    rw [codeEnd_eq (by omega) (by omega), ← hsucc]
    exact ⟨mul_le_mul_of_nonneg_right hnear.sub_le hpos.le, fun hodd =>
      mul_lt_mul_of_pos_right (hnear.lt_of_odd hodd).1 hpos⟩

/-- **A rational is in the interval of the code with its nearest significand.** -/
theorem inInterval_code (hnear : IsNearest m u) (hm : m < 2 ^ 53) (hu : k = 0 ∨ 2 ^ 52 ≤ u) :
    InInterval (k * 2 ^ 52 + m) (u * 2 ^ ((k : ℤ) - 1074)) := by
  have hpos : (0 : ℚ) < 2 ^ ((k : ℤ) - 1074) := by positivity
  have hlow : k = 0 ∨ 2 ^ 52 ≤ m := hu.imp_right fun h => hnear.le_of_le (by exact_mod_cast h)
  refine ⟨fun below hbelow => (codeEnd_pred_le hnear hm hu hbelow).1, ?_, fun hodd => ?_⟩
  · rw [codeEnd_eq hm hlow]
    exact mul_le_mul_of_nonneg_right hnear.le_add hpos.le
  · rw [(code_fields hm hlow).1] at hodd
    refine ⟨fun below hbelow => (codeEnd_pred_le hnear hm hu hbelow).2 hodd, ?_⟩
    rw [codeEnd_eq hm hlow]
    exact mul_lt_mul_of_pos_right (hnear.lt_of_odd hodd).2 hpos

/-- A rational whose nearest significand is one too many is in the interval of the first code of the
next binade. -/
theorem inInterval_carry (hnear : IsNearest (2 ^ 53) u) (hu : u < 2 ^ 53) :
    InInterval (k * 2 ^ 52 + 2 ^ 53) (u * 2 ^ ((k : ℤ) - 1074)) := by
  have hpos : (0 : ℚ) < 2 ^ ((k : ℤ) - 1074) := by positivity
  have hcode : k * 2 ^ 52 + 2 ^ 53 = (k + 1) * 2 ^ 52 + 2 ^ 52 := by ring
  have hend : codeEnd (k * 2 ^ 52 + 2 ^ 53) = (2 ^ 53 + 1) * 2 ^ ((k : ℤ) - 1074) := by
    rw [hcode, codeEnd_eq (by norm_num) (.inr le_rfl), Nat.cast_succ, add_sub_right_comm,
      zpow_add_one₀ two_ne_zero]
    norm_num
    ring
  refine ⟨fun below hbelow => ?_, ?_, fun hodd => ?_⟩
  · obtain rfl : below = k * 2 ^ 52 + (2 ^ 53 - 1) := by omega
    have hlow := hnear.sub_le
    rw [codeEnd_eq (by norm_num) (.inr (by norm_num))]
    refine mul_le_mul_of_nonneg_right ?_ hpos.le
    norm_num at hlow ⊢
    linarith
  · rw [hend]
    refine mul_le_mul_of_nonneg_right ?_ hpos.le
    linarith
  · rw [hcode, (code_fields (by norm_num) (.inr le_rfl)).1] at hodd
    exact absurd hodd (by norm_num)

end Code

/-! ## Rounding -/

section Rounding

variable {num den : ℕ}

/-- **The significand of a rational** is the integer nearest to it in steps of its binade. -/
theorem exists_roundCode_eq (hnum : num ≠ 0) (hden : den ≠ 0) :
    ∃ (k m : ℕ) (u : ℚ), roundCode double num den = min (k * 2 ^ 52 + m) infinityCode ∧
      (num / den : ℚ) = u * 2 ^ ((k : ℤ) - 1074) ∧ IsNearest m u ∧ u < 2 ^ 53 ∧
        (k = 0 ∨ 2 ^ 52 ≤ u) := by
  obtain ⟨hlow, hhigh⟩ := zpow_binade_le hnum hden
  obtain ⟨k, hk⟩ :
      ∃ k : ℕ, max (binade num den - (52 : ℕ)) (-(1074 : ℕ)) = (k : ℤ) - 1074 :=
    ⟨(max (binade num den - (52 : ℕ)) (-(1074 : ℕ)) + 1074).toNat, by omega⟩
  have hpos : (0 : ℚ) < 2 ^ ((k : ℤ) - 1074) := by positivity
  have hscale := scaleDen_pos ((k : ℤ) - 1074)
  have hden' : (0 : ℚ) < den := by exact_mod_cast Nat.pos_of_ne_zero hden
  have hsteps : (den * scaleNum 1 ((k : ℤ) - 1074) : ℕ) = (den : ℚ) *
      2 ^ ((k : ℤ) - 1074) * scaleDen ((k : ℤ) - 1074) := by
    rw [Nat.cast_mul, cast_scaleNum, Nat.cast_one, one_mul, mul_assoc]
  have hsteps_pos : 0 < den * scaleNum 1 ((k : ℤ) - 1074) := by
    rw [← Nat.cast_pos (α := ℚ), hsteps]
    positivity
  have hnearest := isNearest_roundHalfEven hsteps_pos (num * scaleDen ((k : ℤ) - 1074))
  rw [hsteps, Nat.cast_mul, mul_div_mul_right _ _ hscale.ne', ← div_div] at hnearest
  refine ⟨k, _, _, ?code, (div_mul_cancel₀ _ hpos.ne').symm, hnearest, ?upper, ?lower⟩
  case code =>
    have hk' : ((k : ℤ) - 1074 + (1074 : ℕ)).toNat = k := by omega
    unfold roundCode
    simp only [double, hk, hk']
    rfl
  case upper =>
    rw [div_lt_iff₀ hpos, ← zpow_natCast, ← zpow_add₀ two_ne_zero]
    exact hhigh.trans_le (zpow_le_zpow_right₀ one_le_two (by omega))
  case lower =>
    refine or_iff_not_imp_left.mpr fun hne => ?_
    rw [le_div_iff₀ hpos, ← zpow_natCast, ← zpow_add₀ two_ne_zero]
    exact (zpow_le_zpow_right₀ one_le_two (by omega)).trans hlow

/-- A rational is in the interval of its code, unless that is the code of infinity. -/
theorem exists_inInterval (hnum : num ≠ 0) (hden : den ≠ 0) :
    ∃ code, roundCode double num den = min code infinityCode ∧ InInterval code (num / den) := by
  obtain ⟨k, m, u, hcode, hvalue, hnear, hhigh, hlow⟩ := exists_roundCode_eq hnum hden
  refine ⟨_, hcode, ?_⟩
  rw [hvalue]
  have hle : m ≤ 2 ^ 53 := hnear.le_of_lt_add (by push_cast; linarith)
  obtain hlt | rfl := hle.lt_or_eq
  · exact inInterval_code hnear hlt hlow
  · exact inInterval_carry hnear hhigh

/-- **Rounding is correct** below the end of the largest finite double. -/
theorem roundsFrom_ofRatio (negative : Bool) (num : ℕ) (hden : den ≠ 0)
    (hmax : (num / den : ℚ) < codeEnd (infinityCode - 1)) :
    (ofRatio negative num den).negative = negative ∧
      (ofRatio negative num den).isFinite = true ∧
      (ofRatio negative num den).RoundsFrom (num / den) := by
  by_cases hnum : num = 0
  · have hzero : InInterval (zero negative).magnitude 0 := by
      refine ⟨nofun, ?_, fun hodd => absurd hodd (by decide : ¬ codeSignificand 0 % 2 = 1)⟩
      rw [codeEnd]
      positivity
    rw [ofRatio, if_pos hnum, hnum, Nat.cast_zero, zero_div]
    exact ⟨rfl, rfl, hzero.roundsFrom le_rfl⟩
  obtain ⟨code, hcode, hinterval⟩ := exists_inInterval hnum hden
  have hlt : code < infinityCode := by
    by_contra hge
    obtain ⟨below, hbelow⟩ : ∃ below, code = below + 1 :=
      Nat.exists_eq_succ_of_ne_zero fun hzero => hge (hzero ▸ by decide)
    have hend := codeEnd_strictMono.lt_iff_lt.mp ((hinterval.low below hbelow).trans_lt hmax)
    omega
  have hmagnitude : (ofRatio negative num den).magnitude = code := by
    rw [ofRatio, if_neg hnum, hcode, ofCode, min_eq_left hlt.le]
    exact min_eq_left hlt.le
  rw [← hmagnitude] at hinterval hlt
  refine ⟨?_, decide_eq_true hlt, hinterval.roundsFrom (by positivity)⟩
  rw [ofRatio, if_neg hnum]
  rfl

end Rounding

end Tabular.Binary64
