import Tabular.Binary64.Rounding
/-!
# Shortest decimal digits of a double

Of all decimals that round to a given double, `shortest` picks those with the fewest digits and of
these the nearest. For each digit count the two neighbours of the value on that decimal grid are
tested against the interval of reals that round to the double, in exact arithmetic; the first count
with a hit wins. Seventeen digits always suffice.
-/

namespace Tabular

/-- A positive decimal `digits * 10 ^ exponent`. -/
structure Decimal where
  digits : Nat
  exponent : Int
deriving DecidableEq, Repr

namespace Decimal

/-- Moves trailing zeros of the digits into the exponent, at most `fuel` of them. -/
def stripZeros : Nat → Decimal → Decimal
  | 0, d => d
  | fuel + 1, d =>
    if d.digits ≠ 0 ∧ d.digits % 10 = 0 then stripZeros fuel ⟨d.digits / 10, d.exponent + 1⟩ else d

/-- The digits as text. -/
def digitText (d : Decimal) : List Char := Nat.toDigits 10 d.digits

end Decimal

/-- Which of two equally near decimals is taken. -/
inductive DecimalTie
  /-- The one whose last digit is even. -/
  | even
  /-- The larger one. -/
  | up
deriving DecidableEq, Repr

namespace Binary64

/-- Raises `e` while the next power of ten is still not above `num / den`, at most `fuel` times. -/
def raiseExponent (num den : Nat) : Nat → Int → Int
  | 0, e => e
  | fuel + 1, e =>
    if den * Nat.pow 10 (e + 1).toNat ≤ num * Nat.pow 10 (-(e + 1)).toNat then
      raiseExponent num den fuel (e + 1)
    else e

/-- The `e` with `10 ^ e ≤ num / den < 10 ^ (e + 1)`, reached from an estimate that is at most two
too small. -/
def decimalExponent (num den : Nat) : Int :=
  let bits := (num.log2 : Int) - den.log2 - 1
  raiseExponent num den 4 (bits * 30103 / 100000 - 1)

/-- Four times the significand, so that the ends of the rounding interval are whole. -/
def scaledSignificand (x : Binary64) : Nat := 4 * x.significand

/-- The lower end of the rounding interval in quarters of the last place. The gap below a power of
two is half as wide. -/
def scaledLow (x : Binary64) : Nat :=
  if x.magnitude % 0x10000000000000 = 0 ∧ 0x10000000000000 < x.magnitude then
    x.scaledSignificand - 1
  else x.scaledSignificand - 2

/-- The upper end of the rounding interval in quarters of the last place. -/
def scaledHigh (x : Binary64) : Nat := x.scaledSignificand + 2

/-- Whether `digits * 10 ^ k` rounds to the double: it lies between the ends of the rounding
interval, which belong to it when the significand is even. -/
def rounds (x : Binary64) (digits : Nat) (k : Int) : Bool :=
  let q := x.exponent - 2
  let value := digits * Nat.pow 10 k.toNat * scaleDen q
  let low := x.scaledLow * scaleNum 1 q * Nat.pow 10 (-k).toNat
  let high := x.scaledHigh * scaleNum 1 q * Nat.pow 10 (-k).toNat
  if x.significand % 2 = 0 then low ≤ value && value ≤ high else low < value && value < high

/-- The best decimal of the grid with spacing `10 ^ k`, if one of the value's neighbours there
rounds to the double. -/
def nearestOnGrid? (tie : DecimalTie) (x : Binary64) (k : Int) : Option Decimal :=
  let num := x.numerator * Nat.pow 10 (-k).toNat
  let den := x.denominator * Nat.pow 10 k.toNat
  let below := num / den
  let rest := num % den
  let preferUp : Bool :=
    if 2 * rest = den then
      match tie with
      | .even => below % 2 == 1
      | .up => true
    else decide (den < 2 * rest)
  let first := if preferUp then below + 1 else below
  let second := if preferUp then below else below + 1
  if first ≠ 0 ∧ x.rounds first k then some ⟨first, k⟩
  else if second ≠ 0 ∧ x.rounds second k then some ⟨second, k⟩
  else none

/-- The shortest decimal that rounds to a finite double other than zero, without trailing zeros. -/
def shortest (tie : DecimalTie) (x : Binary64) : Decimal :=
  let e := decimalExponent x.numerator x.denominator
  let found := (List.range 17).findSome? fun (count : Nat) => nearestOnGrid? tie x (e - count)
  (found.getD ⟨x.numerator, 0⟩).stripZeros 20

example : shortest .even (ofDecimal false 1 (-1)) = ⟨1, -1⟩ := by decide +kernel
example : shortest .even ⟨false, 1, by decide⟩ = ⟨5, -324⟩ := by decide +kernel
example : shortest .even (ofDecimal false 12345 300) = ⟨12345, 300⟩ := by decide +kernel
example : shortest .even (ofInt 0x1000000000000000) = ⟨1152921504606847, 3⟩ := by decide +kernel
example : shortest .even ⟨false, 0x3FD3333333333334, by decide⟩ = ⟨30000000000000004, -17⟩ := by
  decide +kernel

end Binary64

end Tabular
