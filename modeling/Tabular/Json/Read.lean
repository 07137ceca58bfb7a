import Tabular.Json.Quoted
import Tabular.Json.Numeral
/-!
# Reading JSON

A JSON text as a `Node` (`Json.readNode`) or as a value (`Json.ofText?`). White space is a space,
a tab, a line feed or a carriage return. Lists and tables may be nested 127 deep, and nothing but
white space may follow the value.
-/

namespace Tabular.Json

/-- White space between the parts of a JSON text. -/
def isBlank (c : Char) : Bool := c == ' ' || c == '\n' || c == '\t' || c == '\r'

/-- A text without leading white space. -/
def skipBlanks (cs : List Char) : List Char := cs.dropWhile isBlank

/-- Reads what must be the rest of a word. -/
def readWord (value : Node) : (word cs : List Char) → Node × List Char
  | [], cs => (value, cs)
  | _ :: _, [] => (.badWord .truncated (some .truncated), [])
  | w :: word, c :: rest =>
    if w == c then readWord value word rest else (.badWord .malformed (some .malformed), rest)

/-- The items of a list and the fault before its end, if there is one. -/
structure Items where
  items : List Node
  fault : Option Fault
  rest : List Char

/-- The members of a table and the fault before its end, if there is one. -/
structure Members where
  members : List (NodeKey × Node)
  fault : Option Fault
  rest : List Char

mutual

/-- A value and what follows it. The fuel is two steps for each character. -/
def readValue : Nat → List Char → Node × List Char
  | 0, cs => (.absent, cs)
  | fuel + 1, cs =>
    match skipBlanks cs with
    | [] => (.absent, [])
    | '"' :: rest =>
      let ps := pieces rest
      (ps.toNode, ps.rest)
    | '[' :: rest =>
      match skipBlanks rest with
      | [] => (.list [] (some .truncated), [])
      | ']' :: rest => (.list [] none, rest)
      | rest =>
        let its := readItems fuel rest
        (.list its.items its.fault, its.rest)
    | '{' :: rest =>
      match skipBlanks rest with
      | [] => (.table [] (some .truncated), [])
      | '}' :: rest => (.table [] none, rest)
      | rest =>
        let ms := readMembers fuel rest
        (.table ms.members ms.fault, ms.rest)
    | 'n' :: rest => readWord .null "ull".toList rest
    | 't' :: rest => readWord (.bool true) "rue".toList rest
    | 'f' :: rest => readWord (.bool false) "alse".toList rest
    | c :: rest =>
      if c == '-' || Text.isAsciiDigit c then readNumber (c :: rest)
      else (.badWord .malformed (some .malformed), rest)

/-- The items of a list from an item on. -/
def readItems : Nat → List Char → Items
  | 0, cs => ⟨[], some .truncated, cs⟩
  | fuel + 1, cs =>
    let (item, rest) := readValue fuel cs
    match item.skipFault? with
    | some f => ⟨[item], some f, []⟩
    | none =>
      match skipBlanks rest with
      | [] => ⟨[item], some .truncated, []⟩
      | ']' :: rest => ⟨[item], none, rest⟩
      | ',' :: rest =>
        let more := readItems fuel rest
        { more with items := item :: more.items }
      | _ => ⟨[item], some .malformed, []⟩

/-- The members of a table from a key on. -/
def readMembers : Nat → List Char → Members
  | 0, cs => ⟨[], some .truncated, cs⟩
  | fuel + 1, cs =>
    match skipBlanks cs with
    | [] => ⟨[], some .truncated, []⟩
    | '"' :: rest =>
      let ps := pieces rest
      match ps.fault, skipBlanks ps.rest with
      | some f, _ => ⟨[(ps.toKey, .null)], some f, []⟩
      | none, [] => ⟨[(ps.toKey, .absent)], some .truncated, []⟩
      | none, ':' :: rest =>
        let (value, rest) := readValue fuel rest
        match value.skipFault? with
        | some f => ⟨[(ps.toKey, value)], some f, []⟩
        | none =>
          match skipBlanks rest with
          | [] => ⟨[(ps.toKey, value)], some .truncated, []⟩
          | '}' :: rest => ⟨[(ps.toKey, value)], none, rest⟩
          | ',' :: rest =>
            let more := readMembers fuel rest
            { more with members := (ps.toKey, value) :: more.members }
          | _ => ⟨[(ps.toKey, value)], some .malformed, []⟩
      | none, _ => ⟨[(ps.toKey, .badWord .malformed (some .malformed))], some .malformed, []⟩
    | _ => ⟨[], some .malformed, []⟩

end

/-- A text as a value, and whether anything but white space follows it. -/
def readNode (s : String) : Node × Bool :=
  let cs := s.toList
  let (node, rest) := readValue (2 * cs.length + 2) cs
  (node, !(skipBlanks rest).isEmpty)

/-- How deep lists and tables may be nested. -/
def maxDepth : Nat := 127

/-- The value of a text. -/
def ofText (s : String) : Except Fault Json := do
  let (node, trailing) := readNode s
  let value ← node.toJson maxDepth
  if trailing then .error .malformed else .ok value

end Tabular.Json
