import Tabular.Binary64.Text
/-!
# Numbers

A number is a signed or unsigned 64-bit integer or a double. Integers of one kind compare exactly;
numbers of different kinds compare through their nearest doubles.
-/

namespace Tabular

/-- A numeric cell. -/
inductive Number where
  | signed (n : Int64)
  | unsigned (n : UInt64)
  | real (x : Binary64)
deriving DecidableEq

namespace Number

/-- The nearest double. -/
def toBinary64 : Number → Binary64
  | signed n => Binary64.ofInt n.toInt
  | unsigned n => Binary64.ofInt n.toNat
  | real x => x

/-- The order of two numbers, none when one of them is not a number. -/
def compare? : Number → Number → Option Ordering
  | signed a, signed b => some (compare a.toInt b.toInt)
  | unsigned a, unsigned b => some (compare a.toNat b.toNat)
  | a, b => a.toBinary64.compare? b.toBinary64

/-- Equality as numbers of one kind. Numbers of different kinds are never the same. -/
def same : Number → Number → Bool
  | signed a, signed b => a == b
  | unsigned a, unsigned b => a == b
  | real a, real b => a.same b
  | _, _ => false

/-- The number in positional notation. -/
def text : Number → String
  | signed n => toString n.toInt
  | unsigned n => toString n.toNat
  | real x => x.display

/-- Whether an integer has a form of 64 bits, with a sign or without. -/
def isWord (n : Int) : Bool := -0x8000000000000000 ≤ n && n < 0x10000000000000000

/-- The integer as the narrowest kind that holds it, signed before unsigned; the nearest double when
neither does. -/
def ofInt (n : Int) : Number :=
  if -0x8000000000000000 ≤ n ∧ n < 0x8000000000000000 then signed (Int64.ofInt n)
  else if 0 ≤ n ∧ n < 0x10000000000000000 then unsigned (UInt64.ofNat n.toNat)
  else real (Binary64.ofInt n)

end Number

end Tabular
