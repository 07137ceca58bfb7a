import Tabular.Binary64.Basic
/-!
# Rounding to a double

The double nearest to a positive rational, ties to the even neighbour, by exact arithmetic on
natural numbers. `roundCode` works for any binary format that is given by its fraction bits, its
least exponent and the code of its infinity; doubles are one instance and single precision,
through which some numbers pass on their way in, is another.
-/

namespace Tabular.Binary64

/-- The quotient rounded to the nearest integer, a half to the even neighbour. -/
def roundHalfEven (num den : Nat) : Nat :=
  let quotient := num / den
  let rest := num % den
  if 2 * rest < den then quotient
  else if den < 2 * rest then quotient + 1
  else if quotient % 2 = 0 then quotient else quotient + 1

/-- The numerator of `m * 2 ^ q` over `scaleDen q`. -/
def scaleNum (m : Nat) (q : Int) : Nat := m * Nat.pow 2 q.toNat

/-- The denominator that goes with `scaleNum`. -/
def scaleDen (q : Int) : Nat := Nat.pow 2 (-q).toNat

/-- The exponent of the binade of `num / den`: the `e` with `2 ^ e ≤ num / den < 2 ^ (e + 1)`. -/
def binade (num den : Nat) : Int :=
  let e := (num.log2 : Int) - den.log2
  if num * scaleDen e < den * scaleNum 1 e then e - 1 else e

/-- The layout of a binary format. -/
structure Layout where
  /-- The bits of the fraction field. -/
  fractionBits : Nat
  /-- The number of binary places of the smallest positive value. -/
  places : Nat
  /-- The code of infinity. -/
  infinity : Nat

/-- Double precision. -/
def double : Layout := ⟨52, 1074, infinityCode⟩

/-- Single precision. -/
def single : Layout := ⟨23, 149, 0x7F800000⟩

/-- The code of the value of a format nearest to `num / den`, for positive `num` and `den`. In the
binade of exponent `e` the values are `2 ^ q` apart; counting the codes from zero in these steps
makes a value that rounds up into the next binade come out right. -/
def roundCode (layout : Layout) (num den : Nat) : Nat :=
  let q := max (binade num den - layout.fractionBits) (-layout.places)
  let m := roundHalfEven (num * scaleDen q) (den * scaleNum 1 q)
  min ((q + layout.places).toNat * Nat.pow 2 layout.fractionBits + m) layout.infinity

/-- The double nearest to `num / den` under the given sign. -/
def ofRatio (negative : Bool) (num den : Nat) : Binary64 :=
  if num = 0 then zero negative else ofCode negative (roundCode double num den)

/-- The double nearest to an integer. -/
def ofInt (n : Int) : Binary64 := ofRatio (n < 0) n.natAbs 1

/-- The numerator of a finite double's absolute value over `denominator`. -/
def numerator (x : Binary64) : Nat := scaleNum x.significand x.exponent

/-- The denominator of a finite double's absolute value. -/
def denominator (x : Binary64) : Nat := scaleDen x.exponent

/-- The product of two finite doubles. -/
def mul (x y : Binary64) : Binary64 :=
  ofRatio (x.negative != y.negative) (x.numerator * y.numerator) (x.denominator * y.denominator)

/-- The quotient of two finite doubles, the second not zero. -/
def div (x y : Binary64) : Binary64 :=
  ofRatio (x.negative != y.negative) (x.numerator * y.denominator) (x.denominator * y.numerator)

/-- The double nearest to `digits * 10 ^ exponent`. Exponents past every double are settled before
a power of ten is formed. -/
def ofDecimal (negative : Bool) (digits : Nat) (exponent : Int) : Binary64 :=
  if digits = 0 then zero negative
  else if 310 < exponent then infinity negative
  else if exponent < -(400 + digits.log2 : Int) then zero negative
  else ofRatio negative (digits * Nat.pow 10 exponent.toNat) (Nat.pow 10 (-exponent).toNat)

/-- The double rounded to single precision. -/
def toSingle (x : Binary64) : Binary64 :=
  if x.isFinite && x.magnitude != 0 then
    let code := roundCode single x.numerator x.denominator
    if code = single.infinity then infinity x.negative
    else
      let field : Nat := code / 0x800000
      let fraction := code % 0x800000
      let m := if field = 0 then fraction else 0x800000 + fraction
      let q : Int := if field = 0 then -149 else (field : Int) - 150
      ofRatio x.negative (scaleNum m q) (scaleDen q)
  else x

example : ofDecimal false 1 (-1) = ⟨false, 0x3FB999999999999A, by decide⟩ := by decide +kernel
example : ofDecimal false 5 (-324) = ⟨false, 1, by decide⟩ := by decide +kernel
example : ofDecimal false 2 (-324) = zero false := by decide +kernel
example : ofInt 9007199254740993 = ofInt 9007199254740992 := by decide +kernel
example : (ofDecimal false 1 (-1)).toSingle = ⟨false, 0x3FB99999A0000000, by decide⟩ := by
  decide +kernel

end Tabular.Binary64
