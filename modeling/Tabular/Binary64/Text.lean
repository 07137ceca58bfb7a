import Tabular.Binary64.Shortest
import Tabular.Text.Digit
/-!
# Doubles as text

Three ways to write a double. `display` is positional with the fewest digits that read back and
never an exponent. `scientific` follows a layout that says where positional notation ends and how
an exponent is written; it always shows a point or an exponent, so that the text cannot be taken
for an integer. `twoPlaces` rounds the exact value to two decimal places, a half to the even
neighbour.

`ofText?` reads a double: an optional sign, then a word for infinity or for what is not a number
in any case, or digits with an optional point and an optional exponent. The result is correctly
rounded.
-/

namespace Tabular.Binary64

/-- A list of `n` zeros. -/
def zeros (n : Nat) : List Char := List.replicate n '0'

/-- The minus sign of a negative double, negative zero included. -/
def signText (x : Binary64) : List Char := if x.negative then ['-'] else []

/-- Digits with a decimal point `places` digits from the right, or zeros added at the right. -/
def positional (digits : List Char) (exponent : Int) : List Char :=
  if 0 ≤ exponent then digits ++ zeros exponent.toNat
  else
    let places := (-exponent).toNat
    if places < digits.length then
      digits.take (digits.length - places) ++ '.' :: digits.drop (digits.length - places)
    else '0' :: '.' :: zeros (places - digits.length) ++ digits

/-- Positional notation of a double with the fewest digits. -/
def display (x : Binary64) : String :=
  if x.isNaN then "NaN"
  else
    let body :=
      if x.isInfinite then ['i', 'n', 'f']
      else if x.magnitude = 0 then ['0']
      else
        let d := shortest .up x
        positional d.digitText d.exponent
    String.ofList (x.signText ++ body)

/-- How a notation with exponents writes its numbers. -/
structure NumeralStyle where
  /-- Written between the exponent mark and an exponent that is not negative. -/
  plus : List Char
  /-- The text of infinity. -/
  infinity : List Char
  /-- The text of what is not a number. -/
  notANumber : List Char

/-- The least decimal exponent written positionally. -/
def leastPositional : Int := -5

/-- The greatest decimal exponent written positionally. -/
def greatestPositional : Int := 15

/-- Notation with a point or an exponent. The exponent form is used for decimal exponents below
`leastPositional` or above `greatestPositional`. -/
def scientific (style : NumeralStyle) (x : Binary64) : String :=
  if x.isNaN then String.ofList style.notANumber
  else
    let body :=
      if x.isInfinite then style.infinity
      else if x.magnitude = 0 then ['0', '.', '0']
      else
        let d := shortest .even x
        let digits := d.digitText
        let lead := d.exponent + digits.length - 1
        if leastPositional ≤ lead ∧ lead ≤ greatestPositional then
          let text := positional digits d.exponent
          if 0 ≤ d.exponent then text ++ ['.', '0'] else text
        else
          let mantissa :=
            match digits with
            | [first] => [first]
            | first :: rest => first :: '.' :: rest
            | [] => []
          let mark := if lead < 0 then ['-'] else style.plus
          mantissa ++ 'e' :: mark ++ Nat.toDigits 10 lead.natAbs
    String.ofList (x.signText ++ body)

/-- The number of hundredths in the absolute value of a finite double, a half to the even
neighbour. -/
def hundredths (x : Binary64) : Nat := roundHalfEven (x.numerator * 100) x.denominator

/-- The absolute value with two decimal places, split at the point. An infinite value has no
decimal places of its own. -/
def twoPlaces (x : Binary64) : List Char × Option (List Char) :=
  if x.isInfinite then (['i', 'n', 'f'], none)
  else
    let n := x.hundredths
    (Nat.toDigits 10 (n / 100), some [Nat.digitChar (n / 10 % 10), Nat.digitChar (n % 10)])

open Text in
/-- An exponent part: its mark, an optional sign, and digits up to the end of the text. -/
def readExponent? : List Char → Option Int
  | [] => some 0
  | mark :: rest =>
    if mark == 'e' || mark == 'E' then
      let (negative, digits) :=
        match rest with
        | '-' :: digits => (true, digits)
        | '+' :: digits => (false, digits)
        | digits => (false, digits)
      if digits.isEmpty || !digits.all isAsciiDigit then none
      else
        let n := natOfDigits digits
        some (if negative then -(n : Int) else n)
    else none

open Text in
/-- Digits with an optional point and an optional exponent. -/
def readDigits? (negative : Bool) (cs : List Char) : Option Binary64 :=
  let whole := cs.takeWhile isAsciiDigit
  let rest := cs.dropWhile isAsciiDigit
  let (fraction, rest) :=
    match rest with
    | '.' :: more => (more.takeWhile isAsciiDigit, more.dropWhile isAsciiDigit)
    | rest => ([], rest)
  if whole.isEmpty && fraction.isEmpty then none
  else
    (readExponent? rest).map fun e =>
      ofDecimal negative (natOfDigits (whole ++ fraction)) (e - fraction.length)

/-- A double without its sign. -/
def readUnsigned? (negative : Bool) (cs : List Char) : Option Binary64 :=
  let word := String.ofList (cs.map Char.toLower)
  if word == "inf" || word == "infinity" then some (infinity negative)
  else if word == "nan" then some { nan with negative }
  else readDigits? negative cs

/-- The double that a text spells. -/
def ofText? (s : String) : Option Binary64 :=
  match s.toList with
  | '-' :: rest => readUnsigned? true rest
  | '+' :: rest => readUnsigned? false rest
  | cs => readUnsigned? false cs

/-- A double's interchange bits as sixteen hexadecimal digits. -/
def hex (x : Binary64) : String :=
  let digits := Nat.toDigits 16 x.toBits.toNat
  String.ofList (zeros (16 - digits.length) ++ digits)

end Tabular.Binary64
