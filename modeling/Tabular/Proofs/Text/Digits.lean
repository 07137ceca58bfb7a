import Mathlib.Data.List.TakeWhile
import Mathlib.Tactic.Ring
import Tabular.Proofs.Text.Cut
/-!
# Digits and numerals

The digits of a number give the number back (`natOfDigits_toDigits`), also behind zeros, and zeros
behind them multiply it. A numeral is digits with at most one point among them; what it says is told
by its digits without the point (`numeralDigits`) and the number of digits behind the point
(`numeralPlaces`).
-/

namespace Tabular.Text

/-! ## Digits -/

theorem isAsciiDigit_iff {c : Char} : isAsciiDigit c = true ↔ 48 ≤ c.toNat ∧ c.toNat ≤ 57 := by
  simp only [isAsciiDigit, Bool.and_eq_true, decide_eq_true_eq, Char.le_def,
    UInt32.le_iff_toNat_le]
  exact Iff.rfl

theorem isAsciiDigit_of_mem_toDigits {n : Nat} {c : Char} (h : c ∈ Nat.toDigits 10 n) :
    isAsciiDigit c = true := by
  have hdigit := Nat.isDigit_of_mem_toDigits (by decide) (by decide) h
  simp only [Char.isDigit, Bool.and_eq_true, decide_eq_true_eq, ge_iff_le,
    UInt32.le_iff_toNat_le] at hdigit
  exact isAsciiDigit_iff.mpr hdigit

theorem isAsciiDigit_of_mem_replicate {n : Nat} {c : Char} (h : c ∈ List.replicate n '0') :
    isAsciiDigit c = true := by
  rw [List.eq_of_mem_replicate h]
  decide

theorem ne_of_isAsciiDigit {c d : Char} (h : isAsciiDigit c = true) (hd : isAsciiDigit d = false) :
    c ≠ d := by
  rintro rfl
  rw [h] at hd
  cases hd

/-- The code points of ASCII letters, and those between them, are no digits. -/
theorem not_letter_of_isDecimalDigit {c : Char} (h : isDecimalDigit c = true) :
    ¬ (65 ≤ c.toNat ∧ c.toNat ≤ 122) := by
  have hzeros : ∀ z ∈ decimalZeros, z + 10 ≤ 65 ∨ 122 < z := by decide
  obtain ⟨z, hz, hle⟩ := exists_zero_of_isDecimalDigit h
  have := hzeros z hz
  omega

theorem toLower_of_isDecimalDigit {c : Char} (h : isDecimalDigit c = true) : c.toLower = c := by
  have hletter := not_letter_of_isDecimalDigit h
  refine dif_neg fun hupper => ?_
  simp only [ge_iff_le, UInt32.le_iff_toNat_le] at hupper
  change 65 ≤ c.toNat ∧ c.toNat ≤ 90 at hupper
  omega

/-- The digits of a number spell it. -/
theorem natOfDigits_toDigits (n : Nat) : natOfDigits (Nat.toDigits 10 n) = n :=
  Nat.ofDigitChars_toDigits (by decide) (by decide)

theorem natOfDigits_concat (cs : List Char) (c : Char) :
    natOfDigits (cs ++ [c]) = 10 * natOfDigits cs + digitValue c := by
  rw [natOfDigits, List.foldl_append]
  rfl

/-- Zeros in front change nothing. -/
theorem natOfDigits_replicate_append (n : Nat) (cs : List Char) :
    natOfDigits (List.replicate n '0' ++ cs) = natOfDigits cs := by
  induction n with
  | zero => rfl
  | succ n ih => exact ih

/-- Zeros behind multiply. -/
theorem natOfDigits_append_replicate (cs : List Char) (n : Nat) :
    natOfDigits (cs ++ List.replicate n '0') = natOfDigits cs * 10 ^ n := by
  induction n with
  | zero => simp
  | succ n ih =>
    rw [List.replicate_succ', ← List.append_assoc, natOfDigits_concat, ih,
      show digitValue '0' = 0 from rfl]
    ring

/-! ## Numerals -/

/-- The digits of a numeral. -/
def numeralDigits (cs : List Char) : List Char := cs.filter (· != '.')

/-- The number of decimal places of a numeral. -/
def numeralPlaces (cs : List Char) : Nat := ((cs.dropWhile (· != '.')).drop 1).length

section Numeral

variable {whole fraction : List Char}

theorem ne_point_of_isAsciiDigit {c : Char} (h : isAsciiDigit c = true) : (c != '.') = true :=
  bne_iff_ne.mpr (ne_of_isAsciiDigit h (by decide))

theorem numeralDigits_whole (hwhole : ∀ c ∈ whole, isAsciiDigit c = true) :
    numeralDigits whole = whole :=
  List.filter_eq_self.mpr fun c hc => ne_point_of_isAsciiDigit (hwhole c hc)

theorem numeralPlaces_whole (hwhole : ∀ c ∈ whole, isAsciiDigit c = true) :
    numeralPlaces whole = 0 := by
  have hdrop : whole.dropWhile (· != '.') = [] :=
    List.dropWhile_eq_nil_iff.mpr fun c hc => ne_point_of_isAsciiDigit (hwhole c hc)
  rw [numeralPlaces, hdrop]
  rfl

theorem numeralDigits_point (hwhole : ∀ c ∈ whole, isAsciiDigit c = true)
    (hfraction : ∀ c ∈ fraction, isAsciiDigit c = true) :
    numeralDigits (whole ++ '.' :: fraction) = whole ++ fraction := by
  rw [numeralDigits, List.filter_append, List.filter_cons_of_neg (by decide)]
  exact congrArg₂ _ (numeralDigits_whole hwhole) (numeralDigits_whole hfraction)

theorem numeralPlaces_point (hwhole : ∀ c ∈ whole, isAsciiDigit c = true) :
    numeralPlaces (whole ++ '.' :: fraction) = fraction.length := by
  have hdrop : (whole ++ '.' :: fraction).dropWhile (· != '.') = '.' :: fraction :=
    dropWhile_append_eq (fun c hc => ne_point_of_isAsciiDigit (hwhole c hc))
      (by rintro c ⟨⟩; rfl)
  rw [numeralPlaces, hdrop]
  rfl

end Numeral

end Tabular.Text
