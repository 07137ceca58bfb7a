import Tabular.Text.Digit
import Tabular.Yaml.Cursor
/-!
# Anchors, tags and directives

What stands in front of a node: its anchor and its tag; and what stands in front of a document: the
version of the language, and the prefixes that the handles of tags stand for.
-/

namespace Tabular.Yaml

/-- A tag as it is written. A tag whose handle is empty is its suffix. -/
structure WrittenTag where
  handle : String
  suffix : String
deriving DecidableEq, Repr

/-- A line in front of a document. -/
inductive Directive where
  | version (major minor : Nat)
  /-- What a handle stands for. -/
  | handle (handle lead : String)
deriving DecidableEq, Repr

/-- The characters that may follow the name of an anchor. -/
def isNameEnd (c : Option Char) : Bool :=
  isGapOrEnd c || c.any fun c =>
    c == '?' || c == ':' || c == ',' || c == ']' || c == '}' || c == '%' || c == '@'
      || c.toNat == 0x60

/-- Reads the name of an anchor behind its mark. -/
def readAnchor? (k : Cursor) : Option (String × Cursor) :=
  let (name, k) := k.takeWhile isNameCharacter
  if name.isEmpty || !isNameEnd k.head? then none else some (String.ofList name, k)

/-- The characters of a tag behind its handle. -/
def isTagCharacter (verbatim : Bool) (c : Char) : Bool :=
  isNameCharacter c || c == ';' || c == '/' || c == '?' || c == ':' || c == '@' || c == '&'
    || c == '=' || c == '+' || c == '$' || c == '.' || c == '%' || c == '!' || c == '~' || c == '*'
    || c == '\'' || c == '(' || c == ')' || (verbatim && (c == ',' || c == '[' || c == ']'))

/-- The byte behind a percent sign. -/
def escapedByte? (k : Cursor) : Option (Nat × Cursor) :=
  match k.rest with
  | '%' :: high :: low :: _ => do
    let high ← Text.hexValue? high
    let low ← Text.hexValue? low
    return (high * 16 + low, k.skip 3)
  | _ => none

/-- The number of bytes of a character whose first byte is given, and the bits of the character in
that byte. -/
def leadByte? (b : Nat) : Option (Nat × Nat) :=
  if b < 0x80 then some (1, b)
  else if 0xC0 ≤ b && b < 0xE0 then some (2, b - 0xC0)
  else if 0xE0 ≤ b && b < 0xF0 then some (3, b - 0xE0)
  else if 0xF0 ≤ b && b < 0xF8 then some (4, b - 0xF0)
  else none

/-- Reads the further bytes of a character. -/
def readTrailBytes? : Nat → Nat → Cursor → Option (Nat × Cursor)
  | 0, n, k => some (n, k)
  | count + 1, n, k => do
    let (b, k) ← escapedByte? k
    if 0x80 ≤ b && b < 0xC0 then readTrailBytes? count (n * 64 + (b - 0x80)) k else none

/-- Reads a character whose bytes are escaped. -/
def escapedChar? (k : Cursor) : Option (Char × Cursor) := do
  let (b, k) ← escapedByte? k
  let (count, bits) ← leadByte? b
  let (n, k) ← readTrailBytes? (count - 1) bits k
  return (Char.ofNat n, k)

/-- Reads on in a tag behind its handle. The fuel is one step for each character. -/
def readTagText? (verbatim : Bool) : Nat → List Char → Cursor → Option (List Char × Cursor)
  | 0, _, _ => none
  | fuel + 1, taken, k =>
    match k.head? with
    | some '%' => do
      let (c, k) ← escapedChar? k
      readTagText? verbatim fuel (c :: taken) k
    | some c =>
      if isTagCharacter verbatim c then readTagText? verbatim fuel (c :: taken) k.next
      else some (taken.reverse, k)
    | none => some (taken.reverse, k)

/-- Reads a tag in angle brackets, or the lead of a handle: a text that is not empty. -/
def readFullTag? (fuel : Nat) (k : Cursor) : Option (String × Cursor) := do
  let (text, k) ← readTagText? true fuel [] k
  if text.isEmpty then none else some (String.ofList text, k)

/-- Reads what may be a handle: an exclamation mark, a name, and a second mark if there is one. -/
def readHandle? (k : Cursor) : Option (List Char × Cursor) := do
  let k ← k.expect? '!'
  let (name, k) := k.takeWhile isNameCharacter
  match k.expect? '!' with
  | some k => return ('!' :: name ++ ['!'], k)
  | none => return ('!' :: name, k)

/-- Whether what may be a handle has two marks. -/
def isHandle (cs : List Char) : Bool := cs.length ≥ 2 && cs.getLast? == some '!'

/-- Reads a tag. White space must follow, or a comma inside brackets. -/
def readTag? (inFlow : Bool) (fuel : Nat) (k : Cursor) : Option (WrittenTag × Cursor) := do
  let (tag, k) ←
    if k.rest.take 2 == ['!', '<'] then do
      let (text, k) ← readFullTag? fuel (k.skip 2)
      pure ({ handle := "", suffix := text : WrittenTag }, ← k.expect? '>')
    else do
      let (lead, k) ← readHandle? k
      let (text, k) ← readTagText? false fuel [] k
      if isHandle lead then
        if text.isEmpty then none
        pure ({ handle := String.ofList lead, suffix := String.ofList text }, k)
      else
        let suffix := String.ofList (lead.drop 1 ++ text)
        pure (if suffix.isEmpty then ⟨"", "!"⟩ else ⟨"!", suffix⟩, k)
  if isGapOrEnd k.head? || (inFlow && k.head? == some ',') then return (tag, k) else none

/-- Reads a number of no more than nine digits. -/
def readVersionNumber? (k : Cursor) : Option (Nat × Cursor) :=
  let (digits, k) := k.takeWhile Text.isAsciiDigit
  if digits.isEmpty || 9 < digits.length then none else some (Text.natOfDigits digits, k)

/-- Reads a directive to the end of its line. -/
def readDirective? (fuel : Nat) (k : Cursor) : Option (Directive × Cursor) := do
  let (name, k) := (← k.expect? '%').takeWhile isNameCharacter
  if !isGapOrEnd k.head? then none
  let k := k.skipWhile isGap
  let (directive, k) ←
    if name == "YAML".toList then do
      let (major, k) ← readVersionNumber? k
      let (minor, k) ← readVersionNumber? (← k.expect? '.')
      pure (Directive.version major minor, k)
    else if name == "TAG".toList then do
      let (handle, k) ← readHandle? k
      if !(isHandle handle || handle == ['!']) || !k.head?.any isGap then none
      let (lead, k) ← readFullTag? fuel (k.skipWhile isGap)
      if !isGapOrEnd k.head? then none
      pure (Directive.handle (String.ofList handle) lead, k)
    else none
  return (directive, ← k.endLine?)

end Tabular.Yaml
