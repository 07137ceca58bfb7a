import Tabular.Document.Node
import Tabular.Text.Digit
/-!
# Numerals

A number in the text of a document: an optional minus sign, digits without a needless leading
zero, and optionally a fraction and an exponent. A numeral with neither fraction nor exponent that
fits 64 bits is an integer, minus zero excepted.

Every other numeral is a double, found in three steps, each of which rounds: as many leading
digits as fit 64 bits make a whole number (`absorb`), the whole number becomes a double, and the
double is multiplied or divided by a power of ten. So long numerals need not give the nearest
double, and a numeral whose double would be infinite is no number at all.
-/

namespace Tabular

/-- A number in the text of a document. -/
structure Numeral where
  negative : Bool
  whole : List Char
  fraction : List Char
  exponent : Int
  /-- The numeral has neither a fraction nor an exponent. -/
  isPlain : Bool

namespace Numeral

/-- Appends digits to a number while it fits 64 bits. Gives the number and the digits left over. -/
def absorb : Nat → List Char → Nat × List Char
  | n, [] => (n, [])
  | n, c :: rest =>
    let next := 10 * n + Text.digitValue c
    if next < 0x10000000000000000 then absorb next rest else (n, c :: rest)

/-- The largest power of ten that a double is multiplied or divided by in one step. -/
def largestPower : Int := 308

/-- `x` times ten to the `exponent`, none if that is infinite. A divisor beyond the largest power is
applied in several steps, of which no more than three leave anything. -/
def scale? (x : Binary64) : Nat → Int → Option Binary64
  | steps, exponent =>
    if exponent.natAbs ≤ 308 then
      let power := Binary64.ofDecimal false 1 exponent.natAbs
      let y := if 0 ≤ exponent then x.mul power else x.div power
      if y.isFinite then some y else none
    else if x.magnitude = 0 then some x
    else if 0 ≤ exponent then none
    else
      match steps with
      | 0 => some (.zero false)
      | steps + 1 =>
        scale? (x.div (Binary64.ofDecimal false 1 largestPower)) steps (exponent + largestPower)

/-- The double that a numeral stands for, none if it is beyond all doubles. -/
def toBinary64? (m : Numeral) : Option Binary64 :=
  let (significand, overflow) := absorb 0 m.whole
  let (significand, ignored) := absorb significand m.fraction
  let places : Nat := m.fraction.length - ignored.length
  let exponent : Int := (overflow.length : Int) - places + m.exponent
  (scale? (.ofInt significand) 4 exponent).map fun x => if m.negative then x.neg else x

/-- The number that a numeral stands for, none if it is beyond all doubles. -/
def toNumber? (m : Numeral) : Option Number :=
  let n : Int := Text.natOfDigits m.whole
  if m.isPlain && !(m.negative && n == 0) then
    let value := if m.negative then -n else n
    if Number.isWord value then some (.ofInt value) else m.toBinary64?.map .real
  else m.toBinary64?.map .real

end Numeral

namespace Json

/-- A number that breaks off: someone who wants it takes the end of the text as the text ending too
early, someone who passes over it as a missing digit. -/
def brokenNumeral : List Char → Node
  | [] => .badWord .truncated (some .malformed)
  | _ => .badWord .malformed (some .malformed)

/-- The value of a numeral. A number beyond all doubles is faulty to those who want it. -/
def numeralNode (m : Numeral) : Node :=
  match m.toNumber? with
  | some n => .number n
  | none => .badWord .malformed none

/-- The exponent behind its letter, for a numeral read so far. -/
def readExponent (m : Numeral) (cs : List Char) : Node × List Char :=
  let (negative, cs) :=
    match cs with
    | '+' :: rest => (false, rest)
    | '-' :: rest => (true, rest)
    | _ => (false, cs)
  let digits := cs.takeWhile Text.isAsciiDigit
  let rest := cs.dropWhile Text.isAsciiDigit
  if digits.isEmpty then (brokenNumeral rest, rest)
  else
    let n : Int := Text.natOfDigits digits
    (numeralNode { m with exponent := if negative then -n else n, isPlain := false }, rest)

/-- What may follow the whole part or the fraction. -/
def readExponentPart (m : Numeral) (cs : List Char) : Node × List Char :=
  match cs with
  | 'e' :: rest | 'E' :: rest => readExponent m rest
  | _ => (numeralNode m, cs)

/-- What may follow the whole part. -/
def readFractionPart (m : Numeral) (cs : List Char) : Node × List Char :=
  match cs with
  | '.' :: cs =>
    let digits := cs.takeWhile Text.isAsciiDigit
    let rest := cs.dropWhile Text.isAsciiDigit
    if digits.isEmpty then (brokenNumeral rest, rest)
    else readExponentPart { m with fraction := digits, isPlain := false } rest
  | _ => readExponentPart m cs

/-- The number behind its sign. -/
def readUnsigned (negative : Bool) (cs : List Char) : Node × List Char :=
  let digits := cs.takeWhile Text.isAsciiDigit
  let rest := cs.dropWhile Text.isAsciiDigit
  match digits with
  | [] => (brokenNumeral rest, rest)
  | '0' :: _ :: _ => (.badWord .malformed (some .malformed), rest)
  | _ => readFractionPart ⟨negative, digits, [], 0, true⟩ rest

/-- A number and what follows it. -/
def readNumber (cs : List Char) : Node × List Char :=
  match cs with
  | '-' :: rest => readUnsigned true rest
  | _ => readUnsigned false cs

/-- The number that a text is. -/
def readsNumber (s : String) (n : Number) : Bool :=
  match readNumber s.toList with
  | (.number m, []) => m == n
  | _ => false

example : readsNumber "18446744073709551615" (.unsigned 18446744073709551615) := by decide +kernel
example : readsNumber "-9223372036854775808" (.signed (-9223372036854775808)) := by decide +kernel
example : readsNumber "-0" (.real (.zero true)) := by decide +kernel
example : readsNumber "1e-400" (.real (.zero false)) := by decide +kernel
example : readsNumber "2.5e2" (.real (.ofInt 250)) := by decide +kernel

end Json

end Tabular
