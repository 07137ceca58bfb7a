import Tabular.Text.Digit
import Tabular.Yaml.Cursor
/-!
# Blocks of lines

Scalars written as a block of indented lines under a heading. The heading says whether the lines are
put together, what becomes of the line breaks at the end and, if need be, how far the lines are
indented.
-/

namespace Tabular.Yaml

/-- What is done with the line breaks at the end of a block. -/
inductive Chomping where
  /-- The last text keeps its line break. -/
  | clip
  /-- No line break stays. -/
  | strip
  /-- All line breaks stay. -/
  | keep
deriving DecidableEq, Repr

/-- The chomping of an indicator. -/
def Chomping.ofChar? (c : Char) : Option Chomping :=
  if c == '-' then some strip else if c == '+' then some keep else none

/-- The heading of a block. -/
structure BlockHeading where
  chomping : Chomping := .clip
  /-- The indentation of the lines beyond their parent, if it is given. -/
  indent? : Option Nat := none
deriving DecidableEq, Repr

namespace BlockHeading

/-- Reads an indicator of chomping, if there is one. -/
def takeChomping (k : Cursor) : Option Chomping × Cursor :=
  match k.head?.bind Chomping.ofChar? with
  | some chomping => (some chomping, k.next)
  | none => (none, k)

/-- Reads an indicator of indentation, if there is one. It is not zero. -/
def takeIndent? (k : Cursor) : Option (Option Nat × Cursor) :=
  match k.head? with
  | some '0' => none
  | some c =>
    if Text.isAsciiDigit c then some (some (Text.digitValue c), k.next) else some (none, k)
  | none => some (none, k)

/-- Reads what stands behind the mark of a block, to the end of its line. The two indicators come in
either order. -/
def read? (k : Cursor) : Option (BlockHeading × Cursor) := do
  let (before?, k) := takeChomping k
  let (indent?, k) ← takeIndent? k
  let (chomping?, k) := if before?.isSome then (before?, k) else takeChomping k
  return ({ chomping := chomping?.getD .clip, indent? }, ← k.endLine?)

end BlockHeading

/-- What lies in front of a line of a block: the line breaks of blank lines, and the greatest
indentation. -/
structure BlockGap where
  breaks : List Char
  widest : Nat
deriving DecidableEq, Repr

namespace BlockGap

/-- The gap that follows in a block with the given indentation, if that is known, and the place
behind it, up to which all is indentation. There is none if a tab stands in the indentation. -/
def take? (indent? : Option Nat) (k : Cursor) : Option (BlockGap × Cursor) := go k.rest [] 0 k
where
  /-- Goes on with the given characters, those that follow. The line breaks taken so far come with
  the last one first. -/
  go : List Char → List Char → Nat → Cursor → Option (BlockGap × Cursor)
    | [], breaks, widest, k => some (⟨breaks.reverse, max widest k.column⟩, k)
    | c :: rest, breaks, widest, k =>
      let inMargin := indent?.all (k.column < ·)
      if c == ' ' && inMargin then go rest breaks widest k.next
      else if c == '\t' && inMargin then none
      else if isBreak c then go rest (c :: breaks) (max widest k.column) k.next
      else some (⟨breaks.reverse, max widest k.column⟩, k)

end BlockGap

/-- The text of a block so far. -/
structure BlockText where
  /-- The text without the break of its last line, last character first. -/
  taken : List Char := []
  /-- The break of the last line, if there is one. -/
  lastBreak : List Char := []
  /-- The breaks of the blank lines behind it. -/
  breaks : List Char
  /-- Whether the last line begins with white space. -/
  isIndented : Bool := false

namespace BlockText

/-- What stands between the last line and one that begins with white space or does not. In a folded
block, the break between two lines that do not becomes a space, or goes in front of other breaks. -/
def joint (folded : Bool) (t : BlockText) (isIndented : Bool) : List Char :=
  if folded && t.lastBreak == ['\n'] && !t.isIndented && !isIndented then
    if t.breaks.isEmpty then [' '] else t.breaks
  else t.lastBreak ++ t.breaks

/-- The whole text. -/
def finish (chomping : Chomping) (t : BlockText) : List Char :=
  t.taken.reverse ++
    match chomping with
    | .strip => []
    | .clip => t.lastBreak
    | .keep => t.lastBreak ++ t.breaks

/-- Reads on at the beginning of a line, in a block with the given indentation. The fuel is one step
for each character. -/
def read (folded : Bool) (indent : Nat) : Nat → BlockText → Cursor → Option (BlockText × Cursor)
  | 0, _, _ => none
  | fuel + 1, t, k =>
    if k.column != indent || k.isAtEnd then some (t, k)
    else do
      let isIndented := k.head?.any isGap
      let (line, k) := k.takeWhile fun c => !isBreak c
      let lastBreak := k.head?.toList
      let (gap, k) ← BlockGap.take? (some indent) k.next
      let taken := line.reverse ++ (t.joint folded isIndented).reverse ++ t.taken
      read folded indent fuel { taken, lastBreak, breaks := gap.breaks, isIndented } k

end BlockText

/-- Reads the block behind its mark, in a list or table around it that has the given indentation, if
there is one. Lines that are not indented as the heading says are indented as far as the first of
them, and further than what is around them. The fuel is one step for each character. -/
def readBlock? (folded : Bool) (parent? : Option Nat) (fuel : Nat) (k : Cursor) :
    Option (String × Cursor) := do
  let (heading, k) ← BlockHeading.read? k
  let known? := heading.indent?.map (parent?.getD 0 + ·)
  let (gap, k) ← BlockGap.take? known? k
  let indent := known?.getD (max gap.widest (max ((parent?.map (· + 1)).getD 0) 1))
  let (t, k) ← BlockText.read folded indent fuel { breaks := gap.breaks } k
  return (String.ofList (t.finish heading.chomping), k)

end Tabular.Yaml
