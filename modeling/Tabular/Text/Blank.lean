/-!
# Blank characters

What counts as white space everywhere in the library: the characters of the Unicode property
White_Space, twenty-five in all. `trim` takes them off both ends of a text, and a text is blank
when nothing is left (`isBlank`).
-/

namespace Tabular.Text

/-- The characters with the Unicode property White_Space. -/
def isSpace (c : Char) : Bool :=
  let n := c.toNat
  (9 ≤ n && n ≤ 13) || n == 0x20 || n == 0x85 || n == 0xA0 || n == 0x1680
    || (0x2000 ≤ n && n ≤ 0x200A) || n == 0x2028 || n == 0x2029 || n == 0x202F
    || n == 0x205F || n == 0x3000

/-- A character list without its leading white space. -/
def trimStart (cs : List Char) : List Char := cs.dropWhile isSpace

/-- A character list without its trailing white space. -/
def trimEnd (cs : List Char) : List Char := (cs.reverse.dropWhile isSpace).reverse

/-- A character list without the white space at either end. -/
def trimList (cs : List Char) : List Char := trimEnd (trimStart cs)

/-- A text without the white space at either end. -/
def trim (s : String) : String := String.ofList (trimList s.toList)

/-- A text of white space only, the empty text included. -/
def isBlank (s : String) : Bool := s.toList.all isSpace

theorem trimStart_cons_of_not_isSpace {c : Char} {cs : List Char} (h : isSpace c = false) :
    trimStart (c :: cs) = c :: cs := by
  simp [trimStart, h]

end Tabular.Text
