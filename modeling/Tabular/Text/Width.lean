import Tabular.Text.WidthData
import Tabular.Text.Lowercase
import Tabular.Text.Split
/-!
# Display width

How many columns of a terminal a text takes. A text is fitted into a column under any measure of
characters and texts (`Measure`). `Measure.truncate` cuts it down to a width and puts an ellipsis in
the last column. It adds up the widths of single characters, in which a control character counts
nothing.

`terminal` is a measure to run with. It goes character by character: within a text a control
character takes one column, and the pair of carriage return and line feed takes one together, while
a control character on its own has no width (`charWidth?`). Other sequences that are shown as one,
such as ligatures and emoji with selectors or joiners, are not known to it.
-/

namespace Tabular.Text

/-- Control characters. -/
def isControl (c : Char) : Bool := c.toNat < 0x20 || (0x7F ≤ c.toNat && c.toNat < 0xA0)

/-- The columns of a character, none for a control character. -/
def charWidth? (c : Char) : Option Nat :=
  let n := c.toNat
  if isControl c then none
  else if n < 0x80 then some 1
  else if inRanges zeroWidthRanges n then some 0
  else if inRanges wideRanges n then some 2
  else some 1

/-- The columns of a character list, character by character. -/
def widthList : List Char → Nat
  | [] => 0
  | '\r' :: '\n' :: rest => 1 + widthList rest
  | c :: rest => (charWidth? c).getD 1 + widthList rest

/-- How many columns characters and texts take. -/
structure Measure where
  /-- The columns of a character on its own, none for a control character. -/
  char? : Char → Option Nat
  /-- The columns of a character list. -/
  text : List Char → Nat

namespace Measure

/-- The columns of a text. -/
def width (m : Measure) (s : String) : Nat := m.text s.toList

/-- The longest beginning of a list whose characters add up to at most `limit` columns. -/
def take (m : Measure) (limit : Nat) : List Char → List Char
  | [] => []
  | c :: rest =>
    let w := (m.char? c).getD 0
    if w ≤ limit then c :: m.take (limit - w) rest else []

/-- A text cut down to a width, with an ellipsis in the last column when something is cut. -/
def truncate (m : Measure) (s : String) (maxWidth : Nat) : String :=
  if m.width s ≤ maxWidth then s
  else
    let kept := m.take (maxWidth - 1) s.toList
    String.ofList (if maxWidth = 0 then kept else kept ++ ['…'])

/-- A text filled up with spaces. -/
def pad (m : Measure) (s : String) (width : Nat) (rightAlign : Bool) : String :=
  let fill := spaces (width - m.width s)
  if rightAlign then fill ++ s else s ++ fill

/-- A text cut and filled up to a width. -/
def fit (m : Measure) (s : String) (width : Nat) (rightAlign : Bool) : String :=
  m.pad (m.truncate s width) width rightAlign

end Measure

/-- The measure of a terminal that takes texts character by character. -/
def terminal : Measure := ⟨charWidth?, widthList⟩

/-- The columns of a text. -/
def width (s : String) : Nat := terminal.width s

/-- A text cut down to a width. -/
def truncate (s : String) (maxWidth : Nat) : String := terminal.truncate s maxWidth

example : width "日本語" = 6 := by decide +kernel
example : truncate "hello world" 8 = "hello w…" := by decide +kernel
example : truncate "日本語テキスト" 7 = "日本語…" := by decide +kernel

end Tabular.Text
