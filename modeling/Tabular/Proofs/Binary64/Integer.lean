import Mathlib
import Tabular.Binary64.Rounding
/-!
# Integers as doubles

In the binade of an integer the doubles are as far apart as its significand of 53 bits leaves them
(`Binary64.integerCode_eq`). So the nearest double grows with the integer
(`Binary64.rank_ofInt_mono`), and strictly up to `2 ^ 53`, where every integer is a double
(`Binary64.rank_ofInt_strictMono`). From there on neighbours may have one double.
-/

namespace Tabular.Binary64

/-! ## Quotients -/

section Quotients

variable {num num' den : ℕ}

theorem div_le_roundHalfEven (num den : ℕ) : num / den ≤ roundHalfEven num den := by
  unfold roundHalfEven
  dsimp only
  split_ifs <;> omega

theorem roundHalfEven_le (num den : ℕ) : roundHalfEven num den ≤ num / den + 1 := by
  unfold roundHalfEven
  dsimp only
  split_ifs <;> omega

theorem roundHalfEven_one (num : ℕ) : roundHalfEven num 1 = num := by
  simp [roundHalfEven, Nat.mod_one]

theorem roundHalfEven_mono (h : num ≤ num') : roundHalfEven num den ≤ roundHalfEven num' den := by
  obtain heq | hlt := (Nat.div_le_div_right h : num / den ≤ num' / den).eq_or_lt
  · -- within one quotient the rests decide
    have hrest : num % den ≤ num' % den := by
      have hnum := Nat.div_add_mod num den
      have hnum' := Nat.div_add_mod num' den
      rw [← heq] at hnum'
      omega
    unfold roundHalfEven
    rw [heq]
    dsimp only
    split_ifs <;> omega
  · exact (roundHalfEven_le num den).trans (hlt.trans_le (div_le_roundHalfEven num' den))

end Quotients

/-! ## Codes of integers -/

section Codes

variable {n n' : ℕ}

/-- The significand of the double nearest to an integer. One that rounds up to a power of two is
that power. -/
def integerSignificand (n : ℕ) : ℕ :=
  roundHalfEven (n * 2 ^ (52 - n.log2)) (2 ^ (n.log2 - 52))

/-- The code of the double nearest to an integer. -/
def integerCode (n : ℕ) : ℕ := if n = 0 then 0 else roundCode double n 1

theorem binade_one (hn : n ≠ 0) : binade n 1 = n.log2 := by
  have hle : 2 ^ n.log2 ≤ n := Nat.log2_self_le hn
  have hnot : ¬ n * scaleDen n.log2 < 1 * scaleNum 1 n.log2 := by
    simpa [scaleDen, scaleNum] using hle
  have hone : Nat.log2 1 = 0 := by decide
  simp only [binade, hone, Int.natCast_zero, sub_zero, if_neg hnot]

theorem integerCode_eq (hn : n ≠ 0) :
    integerCode n = min ((n.log2 + 1022) * 2 ^ 52 + integerSignificand n) infinityCode := by
  have hexponent : max (binade n 1 - (52 : ℕ)) (-(1074 : ℕ)) = (n.log2 : ℤ) - 52 := by
    rw [binade_one hn]
    omega
  have hplaces : ((n.log2 : ℤ) - 52 + (1074 : ℕ)).toNat = n.log2 + 1022 := by omega
  have hnum : scaleDen ((n.log2 : ℤ) - 52) = 2 ^ (52 - n.log2) := by
    rw [scaleDen, show (-((n.log2 : ℤ) - 52)).toNat = 52 - n.log2 by omega]
    rfl
  have hden : 1 * scaleNum 1 ((n.log2 : ℤ) - 52) = 2 ^ (n.log2 - 52) := by
    rw [scaleNum, show ((n.log2 : ℤ) - 52).toNat = n.log2 - 52 by omega, one_mul, one_mul]
    rfl
  rw [integerCode, if_neg hn, roundCode]
  simp only [double, hexponent, hplaces, hnum, hden]
  rfl

theorem scaled_bounds (hn : n ≠ 0) :
    2 ^ 52 * 2 ^ (n.log2 - 52) ≤ n * 2 ^ (52 - n.log2) ∧
      n * 2 ^ (52 - n.log2) < 2 ^ 53 * 2 ^ (n.log2 - 52) := by
  have hpow : 2 ^ n.log2 * 2 ^ (52 - n.log2) = 2 ^ 52 * 2 ^ (n.log2 - 52) := by
    rw [← pow_add, ← pow_add, show n.log2 + (52 - n.log2) = 52 + (n.log2 - 52) by omega]
  constructor
  · rw [← hpow]
    exact Nat.mul_le_mul_right _ (Nat.log2_self_le hn)
  · calc n * 2 ^ (52 - n.log2) < 2 ^ (n.log2 + 1) * 2 ^ (52 - n.log2) :=
          Nat.mul_lt_mul_of_pos_right Nat.lt_log2_self (Nat.two_pow_pos _)
      _ = 2 ^ 53 * 2 ^ (n.log2 - 52) := by
          rw [pow_succ, mul_right_comm, hpow, pow_succ 2 52, mul_right_comm]

theorem integerSignificand_bounds (hn : n ≠ 0) :
    2 ^ 52 ≤ integerSignificand n ∧ integerSignificand n ≤ 2 ^ 53 := by
  obtain ⟨hlow, hhigh⟩ := scaled_bounds hn
  constructor
  · exact ((Nat.le_div_iff_mul_le (Nat.two_pow_pos _)).mpr hlow).trans (div_le_roundHalfEven ..)
  · exact (roundHalfEven_le ..).trans (Nat.div_lt_of_lt_mul (by rwa [mul_comm (2 ^ _) (2 ^ 53)]))

/-- An integer below `2 ^ 53` has an exact significand. -/
theorem integerSignificand_of_lt (hn : n ≠ 0) (h : n < 2 ^ 53) :
    integerSignificand n = n * 2 ^ (52 - n.log2) ∧ integerSignificand n < 2 ^ 53 := by
  have hlog : n.log2 - 52 = 0 := by
    have := (Nat.log2_lt hn).mpr h
    omega
  obtain ⟨-, hhigh⟩ := scaled_bounds hn
  rw [hlog] at hhigh
  have heq : integerSignificand n = n * 2 ^ (52 - n.log2) := by
    rw [integerSignificand, hlog, pow_zero, roundHalfEven_one]
  exact ⟨heq, heq ▸ by simpa using hhigh⟩

theorem log2_mono (hn : n ≠ 0) (h : n ≤ n') : n.log2 ≤ n'.log2 :=
  (Nat.le_log2 (by omega)).mpr ((Nat.log2_self_le hn).trans h)

/-- The code grows with the integer. -/
theorem integerCode_mono : Monotone integerCode := by
  intro n n' h
  by_cases hn : n = 0
  · simp [integerCode, hn]
  have hn' : n' ≠ 0 := by omega
  rw [integerCode_eq hn, integerCode_eq hn']
  refine min_le_min_right _ ?_
  obtain heq | hlt := (log2_mono hn h).eq_or_lt
  · rw [integerSignificand, integerSignificand, heq]
    exact Nat.add_le_add_left (roundHalfEven_mono (Nat.mul_le_mul_right _ h)) _
  · have hhigh := (integerSignificand_bounds hn).2
    have hlow := (integerSignificand_bounds hn').1
    omega

/-- Up to `2 ^ 53`, different integers have different codes. -/
theorem integerCode_lt (h : n < n') (hmax : n' ≤ 2 ^ 53) : integerCode n < integerCode n' := by
  have hn' : n' ≠ 0 := by omega
  have hlow := (integerSignificand_bounds hn').1
  have hhigh := (integerSignificand_bounds hn').2
  have hlog : n'.log2 < 54 := (Nat.log2_lt hn').mpr (by omega)
  have hcode : integerCode n' = (n'.log2 + 1022) * 2 ^ 52 + integerSignificand n' := by
    rw [integerCode_eq hn', min_eq_left]
    unfold infinityCode
    omega
  by_cases hn : n = 0
  · rw [hcode, integerCode, if_pos hn]
    omega
  obtain ⟨hexact, hlt53⟩ := integerSignificand_of_lt hn (by omega)
  rw [hcode, integerCode_eq hn]
  refine (min_le_left ..).trans_lt ?_
  obtain heq | hlt := (log2_mono hn h.le).eq_or_lt
  · have hle52 : n.log2 < 53 := (Nat.log2_lt hn).mpr (by omega)
    have hexact' : integerSignificand n' = n' * 2 ^ (52 - n'.log2) := by
      rw [integerSignificand, ← heq, show n.log2 - 52 = 0 by omega, pow_zero, roundHalfEven_one]
    rw [hexact, hexact', heq]
    exact Nat.add_lt_add_left (Nat.mul_lt_mul_of_pos_right h (Nat.two_pow_pos _)) _
  · omega

end Codes

/-! ## Integers with a sign -/

section Integers

variable {m n : ℤ}

theorem rank_ofInt (n : ℤ) :
    (ofInt n).rank = if n < 0 then -(integerCode n.natAbs : ℤ) else integerCode n.natAbs := by
  have hle : roundCode double n.natAbs 1 ≤ infinityCode := Nat.min_le_right ..
  unfold ofInt ofRatio integerCode
  by_cases hn : n.natAbs = 0
  · simp [hn, rank, zero]
  · simp [hn, rank, ofCode, Nat.min_eq_left hle]

theorem isNaN_ofInt (n : ℤ) : (ofInt n).isNaN = false := by
  unfold ofInt ofRatio
  split
  · rfl
  · simp [isNaN, ofCode]

/-- **The nearest double grows with the integer.** -/
theorem rank_ofInt_mono : Monotone fun n => (ofInt n).rank := by
  intro m n h
  simp only [rank_ofInt]
  split_ifs
  · have := integerCode_mono (show n.natAbs ≤ m.natAbs by omega)
    omega
  · omega
  · omega
  · have := integerCode_mono (show m.natAbs ≤ n.natAbs by omega)
    omega

/-- **Up to `2 ^ 53` it grows strictly**: every integer has a double of its own. -/
theorem rank_ofInt_strictMono (h : m < n) (hm : m.natAbs ≤ 2 ^ 53) (hn : n.natAbs ≤ 2 ^ 53) :
    (ofInt m).rank < (ofInt n).rank := by
  simp only [rank_ofInt]
  split_ifs
  · have := integerCode_lt (show n.natAbs < m.natAbs by omega) hm
    omega
  · have := integerCode_lt (show 0 < m.natAbs by omega) hm
    omega
  · omega
  · have := integerCode_lt (show m.natAbs < n.natAbs by omega) hn
    omega

end Integers

end Tabular.Binary64
