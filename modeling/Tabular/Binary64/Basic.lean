/-!
# Double-precision numbers

A double is a sign and a magnitude. The magnitude is the exponent field and the fraction field
read as one natural number of 63 bits, so magnitudes are ordered as the absolute values they
stand for: `infinityCode` is infinity and everything above it is not a number.

The library reads, compares and prints doubles and does no other arithmetic on them, so the order
is all that is needed of them: `rank` is the magnitude under its sign, an integer, and two doubles
that are numbers compare as their ranks do (`compare?`). Both zeros have rank zero.
-/

namespace Tabular

/-- A double: its sign and, as one number, its exponent and fraction fields. -/
structure Binary64 where
  negative : Bool
  magnitude : Nat
  magnitude_lt : magnitude < 0x8000000000000000
deriving DecidableEq, Repr

namespace Binary64

/-- The magnitude of infinity: the largest exponent field over an empty fraction. -/
def infinityCode : Nat := 0x7FF0000000000000

/-- Infinity of the given sign. -/
def infinity (negative : Bool) : Binary64 := ⟨negative, infinityCode, by decide⟩

/-- A double that is not a number. -/
def nan : Binary64 := ⟨false, infinityCode + 0x8000000000000, by decide⟩

/-- Zero of the given sign. -/
def zero (negative : Bool) : Binary64 := ⟨negative, 0, by decide⟩

instance : Inhabited Binary64 := ⟨zero false⟩

/-- The double with the given sign and magnitude, infinite where the magnitude is too large. -/
def ofCode (negative : Bool) (code : Nat) : Binary64 :=
  ⟨negative, min code infinityCode, Nat.lt_of_le_of_lt (Nat.min_le_right ..) (by decide)⟩

/-- The double with the given interchange bits. -/
def ofBits (bits : UInt64) : Binary64 :=
  ⟨decide (0x8000000000000000 ≤ bits.toNat), bits.toNat % 0x8000000000000000,
     Nat.mod_lt _ (by decide)⟩

/-- The interchange bits of a double. -/
def toBits (x : Binary64) : UInt64 :=
  UInt64.ofNat ((if x.negative then 0x8000000000000000 else 0) + x.magnitude)

def isNaN (x : Binary64) : Bool := infinityCode < x.magnitude

def isInfinite (x : Binary64) : Bool := x.magnitude == infinityCode

def isFinite (x : Binary64) : Bool := x.magnitude < infinityCode

/-- The place of a double on the line of all doubles that are numbers. -/
def rank (x : Binary64) : Int := if x.negative then -(x.magnitude : Int) else x.magnitude

/-- The order of two doubles, none when either is not a number. -/
def compare? (x y : Binary64) : Option Ordering :=
  if x.isNaN || y.isNaN then none else some (compare x.rank y.rank)

/-- Numerical equality: both zeros are equal and what is not a number equals nothing. -/
def same (x y : Binary64) : Bool := x.compare? y == some .eq

/-- The double without its sign. -/
def abs (x : Binary64) : Binary64 := { x with negative := false }

/-- The double with the opposite sign. -/
def neg (x : Binary64) : Binary64 := { x with negative := !x.negative }

/-- The double with negative zero replaced by zero. -/
def foldZero (x : Binary64) : Binary64 := if x.magnitude = 0 then zero false else x

/-- The integer `m` of the form `m * 2 ^ q` of a finite double's absolute value. -/
def significand (x : Binary64) : Nat :=
  let exponentField := x.magnitude / 0x10000000000000
  let fraction := x.magnitude % 0x10000000000000
  if exponentField = 0 then fraction else 0x10000000000000 + fraction

/-- The exponent `q` of the form `m * 2 ^ q` of a finite double's absolute value. -/
def exponent (x : Binary64) : Int :=
  let exponentField : Nat := x.magnitude / 0x10000000000000
  if exponentField = 0 then -1074 else (exponentField : Int) - 1075

theorem rank_foldZero (x : Binary64) : x.foldZero.rank = x.rank := by
  unfold foldZero
  split
  · next h => simp [rank, zero, h]
  · rfl

end Binary64

end Tabular
