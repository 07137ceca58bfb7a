import Tabular.Document.Word
import Tabular.Json.Value
import Tabular.Text.Split
import Tabular.Yaml.Character
/-!
# Writing YAML

A JSON value in block style: members and items on lines of their own, tables indented by two
spaces, and lists in tables not indented. A text is written without quotes where it reads back as
itself, and otherwise in single quotes, or in double quotes if it has characters that must be
escaped. A text with line feeds is a block of lines where that can hold it. A key that has line
breaks or is long stands behind a question mark, and its value behind a colon on another line.

Every written line comes with the break that ends it (`cutLines`): a text may bring in breaks other
than the line feed, and these end lines as well.
-/

namespace Tabular.Yaml

/-- Characters that may be written as they are. -/
def isPrintable (c : Char) : Bool :=
  let n := c.toNat
  n == 0x0A || (0x20 ≤ n && n ≤ 0x7E) || (0xA0 ≤ n && n < 0xFFFE && n != 0xFEFF)

/-- Whether a mark of the block notation stands in a text behind its first character. A colon is
one in front of white space, a number sign behind it. -/
def hasInnerMark : List Char → Bool
  | [] => false
  | [_] => false
  | c :: d :: rest =>
    (d == ':' && isGapOrEnd rest.head?) || (d == '#' && isGapOrEnd (some c))
      || hasInnerMark (d :: rest)

/-- Whether a mark of the block notation stands in a text. -/
def hasMark (cs : List Char) : Bool :=
  ['-', '-', '-'].isPrefixOf cs || ['.', '.', '.'].isPrefixOf cs || hasInnerMark cs
    || match cs with
      | [] => false
      | c :: rest =>
        isLeadMark c || ((c == '?' || c == ':' || c == '-') && isGapOrEnd rest.head?)

/-- Whether a pair of neighbours satisfies a condition. -/
def anyNeighbours (p : Char → Char → Bool) : List Char → Bool
  | c :: d :: rest => p c d || anyNeighbours p (d :: rest)
  | _ => false

/-- Whether a text needs escapes. -/
def needsEscapes (cs : List Char) : Bool :=
  cs.any (fun c => !isPrintable c) || anyNeighbours (fun c d => c == ' ' && isBreak d) cs

/-- Whether a text may stand without quotes. -/
def isPlainSafe (cs : List Char) : Bool :=
  !needsEscapes cs && !hasMark cs && !cs.any isBreak
    && cs.head? != some ' ' && cs.getLast? != some ' '

/-- A character in double quotes. -/
def escapeChar (c : Char) : List Char :=
  let letter :=
    match c with
    | '\x00' => some '0'
    | '\x07' => some 'a'
    | '\x08' => some 'b'
    | '\t' => some 't'
    | '\n' => some 'n'
    | '\x0b' => some 'v'
    | '\x0c' => some 'f'
    | '\r' => some 'r'
    | '\x1b' => some 'e'
    | '"' => some '"'
    | '\\' => some '\\'
    | '\u0085' => some 'N'
    | '\u2028' => some 'L'
    | '\u2029' => some 'P'
    | _ => none
  match letter with
  | some l => ['\\', l]
  | none =>
    if isPrintable c then [c]
    else
      let n := c.toNat
      let (mark, width) := if n ≤ 0xFF then ('x', 2) else if n ≤ 0xFFFF then ('u', 4) else ('U', 8)
      let digits := (Nat.toDigits 16 n).map Char.toUpper
      '\\' :: mark :: List.replicate (width - digits.length) '0' ++ digits

/-- A text in double quotes. -/
def doubleQuoted (cs : List Char) : List Char := '"' :: cs.flatMap escapeChar ++ ['"']

/-- A text in single quotes. -/
def singleQuoted (cs : List Char) : List Char :=
  '\'' :: cs.flatMap (fun c => if c == '\'' then ['\'', '\''] else [c]) ++ ['\'']

/-- A text in quotes. A space behind a line break would be lost in single quotes. -/
def quoted (cs : List Char) : List Char :=
  if needsEscapes cs || anyNeighbours (fun c d => isBreak c && d == ' ') cs then doubleQuoted cs
  else singleQuoted cs

/-- The lines of a text, each with the break that ends it. The last one gets a line feed if it has
no break. -/
def cutLines : List Char → List (List Char)
  | [] => []
  | c :: rest =>
    if isBreak c then [c] :: cutLines rest
    else
      match cutLines rest with
      | [] => [[c, '\n']]
      | l :: more => (c :: l) :: more

/-- Whether a text can be written as a block of lines. -/
def fitsBlock (cs : List Char) : Bool := !needsEscapes cs && cs.getLast? != some ' '

/-- What the heading of a block says about the beginning of a text: the indentation, if it cannot
be told from the first line. -/
def indentMark (cs : List Char) : List Char :=
  if cs.head?.any fun c => c == ' ' || isBreak c then ['2'] else []

/-- What the heading of a block says about the end of a text: that there is no break, or that there
is more than the break of a line that is not blank. -/
def chompMark (cs : List Char) : List Char :=
  match cs.reverse with
  | [] => ['-']
  | [c] => if isBreak c then ['+'] else ['-']
  | c :: d :: _ => if !isBreak c then ['-'] else if isBreak d then ['+'] else []

/-- A text as a block of lines under its heading. -/
def block (cs : List Char) : List (List Char) :=
  ('|' :: indentMark cs ++ chompMark cs ++ ['\n']) :: cutLines cs

/-- A text as lines. -/
def textLines (s : String) : List (List Char) :=
  let cs := s.toList
  if cs.contains '\n' then if fitsBlock cs then block cs else cutLines (doubleQuoted cs)
  else if Word.isReserved s || Word.hasLeadingZero s || !isPlainSafe cs then cutLines (quoted cs)
  else cutLines cs

/-- The greatest length, in bytes, of a key in front of its colon. -/
def maxKeyLength : Nat := 128

/-- Whether a key stands in front of its colon. -/
def isSimpleKey (key : String) : Bool :=
  !key.toList.any isBreak && key.utf8ByteSize ≤ maxKeyLength

/-- Doubles in YAML. -/
def numeralStyle : Binary64.NumeralStyle :=
  { plus := [], infinity := ".inf".toList, notANumber := ".nan".toList }

/-- A number. -/
def numberText : Number → String
  | .real x => x.scientific numeralStyle
  | n => n.text

/-- Indents lines, blank ones excepted. -/
def indented (lines : List (List Char)) : List (List Char) :=
  lines.map fun l => if l.head?.all isBreak then l else ' ' :: ' ' :: l

/-- Puts a text in front of the first line and indents the others. -/
def hang (lead : List Char) : List (List Char) → List (List Char)
  | [] => []
  | l :: rest => (lead ++ l) :: indented rest

/-- The line of a word. -/
def wordLine (s : String) : List (List Char) := [s.toList ++ ['\n']]

mutual

/-- A value as lines. -/
def lines : Json → List (List Char)
  | .null => wordLine "null"
  | .bool b => wordLine (if b then "true" else "false")
  | .number n => wordLine (numberText n)
  | .string s => textLines s
  | .array [] => wordLine "[]"
  | .array items => itemLines items
  | .object [] => wordLine "\x7b\x7d"
  | .object members => memberLines members

/-- The items of a list as lines. -/
def itemLines : List Json → List (List Char)
  | [] => []
  | j :: rest => hang ['-', ' '] (lines j) ++ itemLines rest

/-- The members of a table as lines. -/
def memberLines : List (String × Json) → List (List Char)
  | [] => []
  | (key, value) :: rest =>
    let head := textLines key
    let body := lines value
    (if isSimpleKey key then
      let head := (head.headD []).dropLast ++ [':']
      match value with
      | .array (_ :: _) => (head ++ ['\n']) :: body
      | .object (_ :: _) => (head ++ ['\n']) :: indented body
      | _ => hang (head ++ [' ']) body
    else hang ['?', ' '] head ++ hang [':', ' '] body) ++ memberLines rest

end

/-- A value as a document. -/
def text (j : Json) : String :=
  let all := match j with
    | .string _ => hang [] (lines j)
    | _ => lines j
  String.ofList all.flatten

example : text (.string "a: b") = "'a: b'\n" := by decide +kernel
example : text (.string "007") = "'007'\n" := by decide +kernel
example : text (.string "one\ntwo") = "|-\n  one\n  two\n" := by decide +kernel
example : text (.object [("k", .array [.null, .string ""])]) = "k:\n- null\n- ''\n" := by
  decide +kernel

end Tabular.Yaml
