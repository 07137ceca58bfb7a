import Tabular.Json.Value
import Tabular.Text.Split
/-!
# Writing JSON

A value on one line without spaces (`Json.compact`), or over several lines with two spaces for
each level (`Json.pretty`). Doubles have the fewest digits that read back, with a point or an
exponent, and a sign before every exponent. In texts only quotes, backslashes and control
characters are escaped.
-/

namespace Tabular.Json

/-- Doubles in JSON. What JSON has no number for is written as null. -/
def numeralStyle : Binary64.NumeralStyle :=
  { plus := ['+'], infinity := "null".toList, notANumber := "null".toList }

/-- A number as a literal. -/
def numberText : Number → String
  | .real x => if x.isFinite then x.scientific numeralStyle else "null"
  | n => n.text

/-- A character inside quotes. -/
def escapeChar (c : Char) : List Char :=
  if c == '"' then ['\\', '"']
  else if c == '\\' then ['\\', '\\']
  else if c == '\n' then ['\\', 'n']
  else if c == '\r' then ['\\', 'r']
  else if c == '\t' then ['\\', 't']
  else if c == '\x08' then ['\\', 'b']
  else if c == '\x0c' then ['\\', 'f']
  else if c.toNat < 0x20 then
    ['\\', 'u', '0', '0', Nat.digitChar (c.toNat / 16), Nat.digitChar (c.toNat % 16)]
  else [c]

/-- A text in quotes. -/
def quote (s : String) : String :=
  String.ofList ('"' :: s.toList.flatMap escapeChar ++ ['"'])

mutual

/-- The value on one line. -/
def compact : Json → String
  | null => "null"
  | bool b => if b then "true" else "false"
  | number n => numberText n
  | string s => quote s
  | array items => "[" ++ Text.join "," (compactItems items) ++ "]"
  | object members => "\x7b" ++ Text.join "," (compactMembers members) ++ "\x7d"

/-- The items of an array, each on its own. -/
def compactItems : List Json → List String
  | [] => []
  | j :: rest => j.compact :: compactItems rest

/-- The members of an object, each on its own. -/
def compactMembers : List (String × Json) → List String
  | [] => []
  | (k, v) :: rest => (quote k ++ ":" ++ v.compact) :: compactMembers rest

end

/-- Lines inside brackets, one level deeper than the brackets. -/
def bracketed (opening closing : String) (indent : Nat) (lines : List String) : String :=
  if lines.isEmpty then opening ++ closing
  else
    let inner := Text.spaces (2 * (indent + 1))
    opening ++ "\n" ++ Text.join ",\n" (lines.map fun line => inner ++ line) ++ "\n"
      ++ Text.spaces (2 * indent) ++ closing

mutual

/-- The value over several lines, its first line already indented. -/
def prettyAt (indent : Nat) : Json → String
  | null => "null"
  | bool b => if b then "true" else "false"
  | number n => numberText n
  | string s => quote s
  | array items => bracketed "[" "]" indent (prettyItems (indent + 1) items)
  | object members => bracketed "\x7b" "\x7d" indent (prettyMembers (indent + 1) members)

/-- The items of an array over several lines. -/
def prettyItems (indent : Nat) : List Json → List String
  | [] => []
  | j :: rest => j.prettyAt indent :: prettyItems indent rest

/-- The members of an object over several lines. -/
def prettyMembers (indent : Nat) : List (String × Json) → List String
  | [] => []
  | (k, v) :: rest => (quote k ++ ": " ++ v.prettyAt indent) :: prettyMembers indent rest

end

/-- The value over several lines. -/
def pretty (j : Json) : String := j.prettyAt 0

end Tabular.Json
