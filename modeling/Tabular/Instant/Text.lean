import Tabular.Instant.Basic
import Tabular.Text.Blank
import Tabular.Text.Digit
/-!
# Instants as text

`Instant.text` writes a midnight as a date, any other instant down to the second, and an instant
outside the calendar as its plain number. `Instant.stamp` keeps the milliseconds.

`Instant.ofText?` reads three kinds of spelling, tried in this order: an internet timestamp with
an offset, a date alone, and a date with a time of day in universal time. A spelling is a list of
`Piece`s (`Piece.read?`), which admit white space before numbers, short numbers, and signed years;
the internet timestamp admits none of these.
-/

namespace Tabular

namespace Instant

/-- A number with at least `width` digits. -/
def padded (width n : Nat) : String :=
  let digits := Nat.toDigits 10 n
  String.ofList (List.replicate (width - digits.length) '0' ++ digits)

/-- A year of at least four digits, with a sign when it is negative or has more. -/
def yearText (year : Int) : String :=
  if year < 0 then "-" ++ padded 4 year.natAbs
  else if 9999 < year then "+" ++ padded 4 year.natAbs
  else padded 4 year.natAbs

/-- The date of an instant. -/
def dateText (t : Instant) : String :=
  let d := t.date
  yearText d.year ++ "-" ++ padded 2 d.month ++ "-" ++ padded 2 d.day

/-- The time of day of an instant, to the second. -/
def timeText (t : Instant) : String :=
  let s := (t.millisOfDay / 1000).toNat
  padded 2 (s / 3600) ++ ":" ++ padded 2 (s / 60 % 60) ++ ":" ++ padded 2 (s % 60)

/-- The shown form of an instant: a date at midnight, otherwise to the second, and the plain number
outside the calendar. -/
def text (t : Instant) : String :=
  if t.inCalendar then
    if t.millisOfDay = 0 then t.dateText else t.dateText ++ "T" ++ t.timeText ++ "Z"
  else toString t.toInt

/-- Date and time with three decimal places of the second when it is not whole. -/
def stamp (t : Instant) : String :=
  if t.inCalendar then
    let milli := (t.millisOfDay % 1000).toNat
    let fraction := if milli = 0 then "" else "." ++ padded 3 milli
    t.dateText ++ "T" ++ t.timeText ++ fraction ++ "Z"
  else toString t.toInt

/-- What a spelling has said so far. -/
structure Fields where
  year : Int := 1970
  month : Nat := 1
  day : Nat := 1
  hour : Nat := 0
  minute : Nat := 0
  second : Nat := 0
  milli : Nat := 0

/-- The instant of a date and time that the calendar and the clock have. Second 60 is admitted. -/
def Fields.instant? (f : Fields) : Option Instant :=
  let date : Date := ⟨f.year, f.month, f.day⟩
  if date.isValid ∧ f.hour < 24 ∧ f.minute < 60 ∧ f.second ≤ 60 then
    some (ofDateTime date f.hour f.minute f.second f.milli)
  else none

open Text

/-- A number of at least one and at most `width` digits, as many as there are. -/
def readNumber? (width : Nat) (cs : List Char) : Option (Nat × List Char) :=
  let digits := (cs.take width).takeWhile isAsciiDigit
  if digits.isEmpty then none else some (natOfDigits digits, cs.drop digits.length)

/-- A number of exactly `width` digits. -/
def readExactly? (width : Nat) (cs : List Char) : Option (Nat × List Char) :=
  let digits := cs.take width
  if digits.length = width && digits.all isAsciiDigit then
    some (natOfDigits digits, cs.drop width)
  else none

/-- A given character. -/
def readChar? (c : Char) : List Char → Option (List Char)
  | d :: rest => if d == c then some rest else none
  | [] => none

/-- The digits after a decimal point as milliseconds, rounded down. -/
def milliOfDigits (digits : List Char) : Nat :=
  let three := digits.take 3
  natOfDigits three * Nat.pow 10 (3 - three.length)

/-- An optional decimal point with at least one digit after it. -/
def readFraction? : List Char → Option (Nat × List Char)
  | '.' :: rest =>
    let digits := rest.takeWhile isAsciiDigit
    if digits.isEmpty then none else some (milliOfDigits digits, rest.dropWhile isAsciiDigit)
  | cs => some (0, cs)

/-- A year: up to four digits, or any number of digits after a sign. -/
def readYear? (cs : List Char) : Option (Int × List Char) :=
  match cs with
  | '-' :: rest => (readNumber? rest.length rest).map fun (n, more) => (-(n : Int), more)
  | '+' :: rest => (readNumber? rest.length rest).map fun (n, more) => ((n : Int), more)
  | cs => (readNumber? 4 cs).map fun (n, more) => ((n : Int), more)

/-- A part of a spelling. -/
inductive Piece where
  | year | month | day | hour | minute | second
  /-- An optional fraction of the second. -/
  | fraction
  /-- Any white space, or none. -/
  | space
  | literal (c : Char)

/-- Reads one part of a spelling. White space before a number is passed over. -/
def Piece.read? (piece : Piece) (f : Fields) (cs : List Char) : Option (Fields × List Char) :=
  match piece with
  | .year => (readYear? (trimStart cs)).map fun (n, rest) => ({ f with year := n }, rest)
  | .month => (readNumber? 2 (trimStart cs)).map fun (n, rest) => ({ f with month := n }, rest)
  | .day => (readNumber? 2 (trimStart cs)).map fun (n, rest) => ({ f with day := n }, rest)
  | .hour => (readNumber? 2 (trimStart cs)).map fun (n, rest) => ({ f with hour := n }, rest)
  | .minute => (readNumber? 2 (trimStart cs)).map fun (n, rest) => ({ f with minute := n }, rest)
  | .second => (readNumber? 2 (trimStart cs)).map fun (n, rest) => ({ f with second := n }, rest)
  | .fraction => (readFraction? cs).map fun (n, rest) => ({ f with milli := n }, rest)
  | .space => some (f, trimStart cs)
  | .literal c => (readChar? c cs).map fun rest => (f, rest)

/-- Reads a whole spelling, which nothing may follow. -/
def readSpelling? : List Piece → Fields → List Char → Option Instant
  | [], f, [] => f.instant?
  | [], _, _ :: _ => none
  | piece :: pieces, f, cs =>
    match piece.read? f cs with
    | some (f, rest) => readSpelling? pieces f rest
    | none => none

/-- The spelling of a date alone. -/
def dateSpelling : List Piece := [.year, .literal '-', .month, .literal '-', .day]

/-- The spellings of a date with a time of day, to the second and to the minute, with a `T` or white
space between. -/
def dateTimeSpellings : List (List Piece) :=
  let toMinute : List Piece := [.hour, .literal ':', .minute]
  let toSecond : List Piece := toMinute ++ [.literal ':', .second, .fraction]
  [dateSpelling ++ .literal 'T' :: toSecond, dateSpelling ++ .space :: toSecond,
   dateSpelling ++ .literal 'T' :: toMinute, dateSpelling ++ .space :: toMinute]

/-- An offset from universal time in minutes, up to the end of the text. -/
def readOffset? : List Char → Option Int
  | ['Z'] | ['z'] => some 0
  | sign :: rest => do
    let (hours, rest) ← readExactly? 2 rest
    let rest ← readChar? ':' rest
    let (minutes, rest) ← readExactly? 2 rest
    if rest.isEmpty && hours < 24 && minutes < 60 then
      let offset : Int := (hours * 60 + minutes : Nat)
      if sign == '+' then some offset
      else if sign == '-' || sign == '\u2212' then some (-offset)
      else none
    else none
  | [] => none

/-- An internet timestamp: date, `T` or `t` or a space, time to the second, optional fraction, and
offset, every number in full. -/
def readTimestamp? (cs : List Char) : Option Instant := do
  let (year, cs) ← readExactly? 4 cs
  let cs ← readChar? '-' cs
  let (month, cs) ← readExactly? 2 cs
  let cs ← readChar? '-' cs
  let (day, cs) ← readExactly? 2 cs
  let cs ← match cs with
    | c :: rest => if c == 'T' || c == 't' || c == ' ' then some rest else none
    | [] => none
  let (hour, cs) ← readExactly? 2 cs
  let cs ← readChar? ':' cs
  let (minute, cs) ← readExactly? 2 cs
  let cs ← readChar? ':' cs
  let (second, cs) ← readExactly? 2 cs
  let (milli, cs) ← readFraction? cs
  let offset ← readOffset? cs
  let clock ← Fields.instant? { year, month, day, hour, minute, second, milli }
  return ofMillis (clock.toInt - offset * 60000)

/-- The instant that a text spells, white space around it aside. -/
def ofText? (s : String) : Option Instant :=
  let cs := trimList s.toList
  match readTimestamp? cs with
  | some t => some t
  | none =>
    match readSpelling? dateSpelling {} cs with
    | some t => some t
    | none => dateTimeSpellings.findSome? fun spelling => readSpelling? spelling {} cs

end Instant

end Tabular
