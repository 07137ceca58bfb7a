import Tabular.Document.Scalar
import Tabular.Yaml.Block
import Tabular.Yaml.Property
import Tabular.Yaml.Scalar
/-!
# Tokens

A YAML text as a list of tokens. Indentation becomes tokens of its own, which open and close lists
and tables.

A key is known by the colon behind it. Hence every place where a key may begin is kept in mind, one
for each pair of brackets that is open, and the token that announces a key is put in front of it
when its colon comes (`TokenState.readColon?`).
-/

namespace Tabular.Yaml

/-- A token of a document. -/
inductive Token where
  | directive (d : Directive)
  | documentMark (mark : DocumentMark)
  /-- A list or table by indentation begins. -/
  | listStart | tableStart
  /-- A list or table by indentation is over. -/
  | blockEnd
  /-- Brackets and braces. -/
  | openList | closeList | openTable | closeTable
  | comma
  /-- An item of a list follows. -/
  | entry
  /-- A key follows. -/
  | key
  /-- The value of a key follows. -/
  | value
  | reference (name : String)
  | anchor (name : String)
  | tag (tag : WrittenTag)
  | scalar (text : String) (style : ScalarStyle)
deriving DecidableEq, Repr

/-- A place where a key may begin. -/
structure KeyStart where
  /-- Whether nothing but a key can begin there. -/
  required : Bool
  /-- The number of tokens in front of it. -/
  index : Nat
  place : Cursor

namespace KeyStart

/-- The greatest length of a key in bytes. -/
def maxLength : Nat := 1024

/-- Whether a colon at a place is too far away: on another line, or behind too many bytes. -/
def isStale (start : KeyStart) (k : Cursor) : Bool :=
  start.place.line < k.line || start.place.offset + maxLength < k.offset

/-- What is left of a place where a key may begin when the reader is at another. A key that is
required must be there. -/
def expire? (k : Cursor) : Option KeyStart → Option (Option KeyStart)
  | none => some none
  | some start =>
    if !start.isStale k then some (some start) else if start.required then none else some none

end KeyStart

/-- The tokens of a text so far. -/
structure TokenState where
  cursor : Cursor
  /-- The tokens, last one first. -/
  tokens : List Token := []
  count : Nat := 0
  /-- Where a key may begin inside the innermost brackets. -/
  keyStart? : Option KeyStart := none
  /-- Where a key may begin inside the other brackets that are open, and outside of all. -/
  outerKeyStarts : List (Option KeyStart) := []
  /-- The columns of the lists and tables by indentation, innermost first. -/
  columns : List Nat := []
  /-- Whether a key may begin here. -/
  keyAllowed : Bool := true

namespace TokenState

/-- Whether brackets are open. -/
def inFlow (s : TokenState) : Bool := !s.outerKeyStarts.isEmpty

/-- Adds a token. -/
def push (s : TokenState) (t : Token) : TokenState :=
  { s with tokens := t :: s.tokens, count := s.count + 1 }

/-- Adds a token in front of others. -/
def insert (s : TokenState) (index : Nat) (t : Token) : TokenState :=
  let (behind, before) := s.tokens.splitAt (s.count - index)
  { s with tokens := behind ++ t :: before, count := s.count + 1 }

/-- Moves to a place. -/
def moveTo (s : TokenState) (k : Cursor) : TokenState := { s with cursor := k }

/-- Says whether a key may begin here. -/
def allowKey (s : TokenState) (allowed : Bool) : TokenState := { s with keyAllowed := allowed }

/-- Passes over white space, line breaks and comments. No tab may stand where a key may begin by
indentation; there, a key may begin on every line. -/
def skipGaps (s : TokenState) : TokenState := go s.cursor.rest false s
where
  /-- Goes on with the given characters, those that follow, in a comment or not. -/
  go : List Char → Bool → TokenState → TokenState
    | [], _, s => s
    | c :: rest, inComment, s =>
      if isBreak c then
        go rest false { s with cursor := s.cursor.next, keyAllowed := s.keyAllowed || !s.inFlow }
      else if inComment || c == ' ' || (c == '\t' && (s.inFlow || !s.keyAllowed)) then
        go rest inComment (s.moveTo s.cursor.next)
      else if c == '#' then go rest true (s.moveTo s.cursor.next)
      else s

/-- Forgets the places of keys that are too far away. -/
def expireKeys? (s : TokenState) : Option TokenState := do
  let keyStart? ← KeyStart.expire? s.cursor s.keyStart?
  let outerKeyStarts ← s.outerKeyStarts.mapM (KeyStart.expire? s.cursor)
  return { s with keyStart?, outerKeyStarts }

/-- Gives up a key. -/
def dropKey? (s : TokenState) : Option TokenState :=
  if s.keyStart?.any (·.required) then none else some { s with keyStart? := none }

/-- Notes that a key may begin here. -/
def noteKey? (s : TokenState) : Option TokenState :=
  if !s.keyAllowed then some s
  else do
    let required := !s.inFlow && s.columns.head? == some s.cursor.column
    return { ← s.dropKey? with keyStart? := some ⟨required, s.count, s.cursor⟩ }

/-- Closes the lists and tables that are indented further than a column, or else all. -/
def closeBlocks (s : TokenState) (column? : Option Nat) : TokenState :=
  if s.inFlow then s
  else
    let closed := s.columns.takeWhile fun n => column?.all (· < n)
    { s with
      columns := s.columns.drop closed.length
      tokens := List.replicate closed.length .blockEnd ++ s.tokens
      count := s.count + closed.length }

/-- Opens a list or table in a column unless one is open there or further to the right. Its token goes
in front of others. -/
def openBlock (s : TokenState) (column index : Nat) (t : Token) : TokenState :=
  if s.inFlow || s.columns.head?.any (column ≤ ·) then s
  else { s.insert index t with columns := column :: s.columns }

/-- Opens a list or table here. This is possible where a key may begin, and always inside brackets,
where it does nothing. -/
def openBlockHere? (s : TokenState) (t : Token) : Option TokenState :=
  if s.inFlow || s.keyAllowed then some (s.openBlock s.cursor.column s.count t) else none

/-- Reads the mark of an item. -/
def readDash? (s : TokenState) : Option TokenState := do
  let s ← (← s.openBlockHere? .listStart).dropKey?
  return ((s.push .entry).moveTo s.cursor.next).allowKey true

/-- Reads the mark of a key. -/
def readQuestionMark? (s : TokenState) : Option TokenState := do
  let s ← (← s.openBlockHere? .tableStart).dropKey?
  return ((s.push .key).moveTo s.cursor.next).allowKey !s.inFlow

/-- Reads the mark of a value. If a key may have begun, it has. -/
def readColon? (s : TokenState) : Option TokenState := do
  let s ←
    match s.keyStart? with
    | some start =>
      let s := (s.insert start.index .key).openBlock start.place.column start.index .tableStart
      pure { s with keyStart? := none, keyAllowed := false }
    | none => do pure ((← s.openBlockHere? .tableStart).allowKey !s.inFlow)
  return (s.push .value).moveTo s.cursor.next

/-- Reads an opening bracket. -/
def readOpening? (s : TokenState) (t : Token) : Option TokenState := do
  let s ← s.noteKey?
  return { (s.push t).moveTo s.cursor.next with
    keyStart? := none, outerKeyStarts := s.keyStart? :: s.outerKeyStarts, keyAllowed := true }

/-- Reads a closing bracket. -/
def readClosing? (s : TokenState) (t : Token) : Option TokenState := do
  let s ← s.dropKey?
  return { (s.push t).moveTo s.cursor.next with
    keyStart? := s.outerKeyStarts.headD none
    outerKeyStarts := s.outerKeyStarts.drop 1
    keyAllowed := false }

/-- Reads a comma. -/
def readComma? (s : TokenState) : Option TokenState := do
  let s ← s.dropKey?
  return ((s.push .comma).moveTo s.cursor.next).allowKey true

/-- Reads a mark between documents, which closes all lists and tables by indentation. -/
def readDocumentMark? (s : TokenState) (mark : DocumentMark) : Option TokenState := do
  let s ← (s.closeBlocks none).dropKey?
  return ((s.push (.documentMark mark)).moveTo (s.cursor.skip 3)).allowKey false

/-- Reads a line in front of a document. -/
def readDirectiveLine? (fuel : Nat) (s : TokenState) : Option TokenState := do
  let s ← (s.closeBlocks none).dropKey?
  let (d, k) ← readDirective? fuel s.cursor
  return ((s.push (.directive d)).moveTo k).allowKey false

/-- Reads a token that a key may begin with, and behind which none may. -/
def readKeyPart? (s : TokenState) (read : Cursor → Option (Token × Cursor)) :
    Option TokenState := do
  let s ← s.noteKey?
  let (t, k) ← read s.cursor
  return ((s.push t).moveTo k).allowKey false

/-- Reads a block of lines. -/
def readBlockScalar? (fuel : Nat) (s : TokenState) (folded : Bool) : Option TokenState := do
  let s ← s.dropKey?
  let (text, k) ← readBlock? folded s.columns.head? fuel s.cursor.next
  let style : ScalarStyle := if folded then .quoted else .literal
  return ((s.push (.scalar text style)).moveTo k).allowKey true

/-- Reads a scalar without quotes. A key may begin behind it if that is on another line. -/
def readPlainScalar? (fuel : Nat) (s : TokenState) : Option TokenState := do
  let s ← s.noteKey?
  let least := (s.columns.head?.map (· + 1)).getD 0
  let (text, gap, k) ← readPlain s.inFlow least fuel [] {} s.cursor
  return ((s.push (.scalar (String.ofList text) .plain)).moveTo k).allowKey !gap.breaks.isEmpty

/-- Reads a scalar in quotes. -/
def readQuotedScalar? (fuel : Nat) (s : TokenState) (quote : Char) : Option TokenState :=
  s.readKeyPart? fun k => do
    let (text, k) ← readQuoted quote fuel [] k.next
    return (.scalar (String.ofList text) .quoted, k)

/-- Reads the token that begins with a character, the next one. It is neither a directive nor a mark
between documents. -/
def readToken? (fuel : Nat) (s : TokenState) (c : Char) : Option TokenState :=
  let alone := isGapOrEnd (s.cursor.rest.drop 1).head?
  if c == '[' then s.readOpening? .openList
  else if c == '{' then s.readOpening? .openTable
  else if c == ']' then s.readClosing? .closeList
  else if c == '}' then s.readClosing? .closeTable
  else if c == ',' then s.readComma?
  else if c == '-' && alone then s.readDash?
  else if c == '?' && (s.inFlow || alone) then s.readQuestionMark?
  else if c == ':' && (s.inFlow || alone) then s.readColon?
  else if c == '*' then s.readKeyPart? fun k => do
    let (name, k) ← readAnchor? k.next
    return (.reference name, k)
  else if c == '&' then s.readKeyPart? fun k => do
    let (name, k) ← readAnchor? k.next
    return (.anchor name, k)
  else if c == '!' then s.readKeyPart? fun k => do
    let (tag, k) ← readTag? s.inFlow fuel k
    return (.tag tag, k)
  else if c == '|' && !s.inFlow then s.readBlockScalar? fuel false
  else if c == '>' && !s.inFlow then s.readBlockScalar? fuel true
  else if c == '\'' || c == '"' then s.readQuotedScalar? fuel c
  else if isGap c || isLeadMark c then none
  else s.readPlainScalar? fuel

/-- Reads on to the end of the text. The fuel is one step for each character, and one more. -/
def readAll? : Nat → TokenState → Option (List Token)
  | 0, _ => none
  | fuel + 1, s => do
    let s ← s.skipGaps.expireKeys?
    let s := s.closeBlocks (some s.cursor.column)
    match s.cursor.head? with
    | none => return (← (s.closeBlocks none).dropKey?).tokens.reverse
    | some c =>
      let s ←
        if s.cursor.column == 0 && c == '%' then s.readDirectiveLine? fuel
        else
          match s.cursor.documentMark? with
          | some mark => s.readDocumentMark? mark
          | none => s.readToken? fuel c
      readAll? fuel s

end TokenState

/-- The tokens of a text, none if it breaks a rule. A mark of the byte order at the beginning means
nothing, but takes up a column. -/
def Token.ofText? (cs : List Char) : Option (List Token) :=
  let start : Cursor := { rest := cs }
  let start := if start.head? == some '\uFEFF' then start.next else start
  TokenState.readAll? (cs.length + 2) { cursor := start }

example : Token.ofText? "a: [b]\n".toList =
    some [.tableStart, .key, .scalar "a" .plain, .value, .openList, .scalar "b" .plain, .closeList,
      .blockEnd] := by
  decide +kernel
example : Token.ofText? "- &x |\n  a\n- *x\n".toList =
    some [.listStart, .entry, .anchor "x", .scalar "a\n" .literal, .entry, .reference "x",
      .blockEnd] := by
  decide +kernel
example : Token.ofText? "a: b: c\n".toList = none := by decide +kernel

end Tabular.Yaml
