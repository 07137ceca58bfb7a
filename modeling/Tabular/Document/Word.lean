import Tabular.Number
import Tabular.Text.Split
/-!
# Words without quotes

What a word without quotes stands for where no shape is asked for: nothing, a flag, an integer, a
double, or else the text itself. Integers have an optional sign and may be hexadecimal, octal or
binary; a numeral with a needless leading zero is a text.
-/

namespace Tabular.Word

/-- The words for nothing. -/
def isNull (s : String) : Bool :=
  s == "" || s == "~" || s == "null" || s == "Null" || s == "NULL"

/-- The flag that a word stands for. -/
def flag? (s : String) : Option Bool :=
  if s == "true" || s == "True" || s == "TRUE" then some true
  else if s == "false" || s == "False" || s == "FALSE" then some false
  else none

/-- Whether a character is a sign. -/
def isSign (c : Char) : Bool := c == '+' || c == '-'

/-- A word without its sign. -/
def unsigned : List Char → List Char
  | c :: rest => if isSign c then rest else c :: rest
  | [] => []

/-- Digits only, with a needless leading zero. -/
def hasLeadingZero (s : String) : Bool :=
  match unsigned s.toList with
  | '0' :: c :: rest => (c :: rest).all Text.isAsciiDigit
  | _ => false

/-- The number that digits of a base spell. -/
def digits? (base : Nat) (cs : List Char) : Option Nat :=
  if cs.isEmpty then none
  else cs.foldlM (fun n c => do
    let d ← Text.hexValue? c
    if d < base then some (n * base + d) else none) 0

/-- The absolute value of an integer behind its sign. -/
def magnitude? : List Char → Option Nat
  | '0' :: 'x' :: rest => digits? 16 rest
  | '0' :: 'o' :: rest => digits? 8 rest
  | '0' :: 'b' :: rest => digits? 2 rest
  | cs => digits? 10 cs

/-- The integer that a word stands for, of no more than 128 bits. -/
def integer? (s : String) : Option Int :=
  if hasLeadingZero s then none
  else
    let n? : Option Int := match s.toList with
      | '-' :: rest => (magnitude? rest).map fun n => -(n : Int)
      | '+' :: rest => (magnitude? rest).map Int.ofNat
      | cs => (magnitude? cs).map Int.ofNat
    n?.filter fun n =>
      -0x80000000000000000000000000000000 ≤ n && n < 0x100000000000000000000000000000000

/-- The unsigned 64-bit integer that a word stands for. -/
def natural? (s : String) : Option Nat :=
  match integer? s with
  | some (.ofNat n) => if n < 0x10000000000000000 && !s.startsWith "-" then some n else none
  | _ => none

/-- A word for infinity behind its sign. -/
def isInfinityWord (cs : List Char) : Bool :=
  cs == ".inf".toList || cs == ".Inf".toList || cs == ".INF".toList

/-- A word for what is not a number. -/
def isNotANumberWord (s : String) : Bool := s == ".nan" || s == ".NaN" || s == ".NAN"

/-- The double that a numeral stands for. -/
def double? (s : String) : Option Binary64 :=
  let cs := s.toList
  if isNotANumberWord s then some .nan
  else if isInfinityWord (unsigned cs) then some (.infinity (cs.head? == some '-'))
  else if (cs.take 2).all isSign && cs.length ≥ 2 then none
  else (Binary64.ofText? s).filter Binary64.isFinite

/-- The double that a word stands for. -/
def real? (s : String) : Option Binary64 := if hasLeadingZero s then none else double? s

/-- Whether a word stands for something other than its own text. -/
def isReserved (s : String) : Bool :=
  isNull s || (flag? s).isSome || (integer? s).isSome || (real? s).isSome

example : integer? "-0x1F" = some (-31) := by decide +kernel
example : integer? "007" = none := by decide +kernel
example : isReserved "12a" = false := by decide +kernel

end Tabular.Word
