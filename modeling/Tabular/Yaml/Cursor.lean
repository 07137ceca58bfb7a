import Tabular.Yaml.Character
/-!
# Places in a text

A `Cursor` is a place in a YAML text. Columns, which count characters, tell what belongs together,
and offsets, which count bytes, how far a key may reach.
-/

namespace Tabular.Yaml

/-- A place in a text: what is left of the text, and how much of it lies behind. -/
structure Cursor where
  rest : List Char
  line : Nat := 0
  column : Nat := 0
  offset : Nat := 0
deriving DecidableEq, Repr

/-- A mark between documents. -/
inductive DocumentMark where
  | start | ending
deriving DecidableEq, Repr

namespace Cursor

/-- The character that follows. -/
def head? (k : Cursor) : Option Char := k.rest.head?

/-- Whether nothing is left. -/
def isAtEnd (k : Cursor) : Bool := k.rest.isEmpty

/-- The place behind the character that follows. -/
def next (k : Cursor) : Cursor :=
  match k.rest with
  | [] => k
  | c :: rest =>
    let offset := k.offset + c.utf8Size
    if isBreak c then { rest, line := k.line + 1, column := 0, offset }
    else { rest, line := k.line, column := k.column + 1, offset }

@[simp] theorem rest_next (k : Cursor) : k.next.rest = k.rest.drop 1 := by
  unfold next
  split <;> rename_i h
  · simp [h]
  · split <;> simp [h]

/-- The place behind a number of characters. -/
def skip : Nat → Cursor → Cursor
  | 0, k => k
  | n + 1, k => skip n k.next

/-- The place behind the characters that satisfy a condition. -/
def skipWhile (p : Char → Bool) (k : Cursor) : Cursor := go k.rest k
where
  /-- Goes on while the given characters, those that follow, satisfy the condition. -/
  go : List Char → Cursor → Cursor
    | [], k => k
    | c :: rest, k => if p c then go rest k.next else k

theorem rest_skipWhile_go (p : Char → Bool) (cs : List Char) (k : Cursor) (h : k.rest = cs) :
    (skipWhile.go p cs k).rest = cs.dropWhile p := by
  induction cs generalizing k with
  | nil => simpa [skipWhile.go] using h
  | cons c rest ih =>
    unfold skipWhile.go
    by_cases hc : p c
    · simpa [hc] using ih k.next (by simp [h])
    · simpa [hc] using h

@[simp] theorem rest_skipWhile (p : Char → Bool) (k : Cursor) :
    (k.skipWhile p).rest = k.rest.dropWhile p :=
  rest_skipWhile_go p k.rest k rfl

/-- The characters that satisfy a condition, and the place behind them. -/
def takeWhile (p : Char → Bool) (k : Cursor) : List Char × Cursor :=
  (k.rest.takeWhile p, k.skipWhile p)

/-- Passes over a character that must follow. -/
def expect? (c : Char) (k : Cursor) : Option Cursor :=
  if k.head? == some c then some k.next else none

/-- The mark between documents that follows. It stands alone at the beginning of a line. -/
def documentMark? (k : Cursor) : Option DocumentMark :=
  if k.column != 0 then none
  else
    match k.rest with
    | '-' :: '-' :: '-' :: rest => if isGapOrEnd rest.head? then some .start else none
    | '.' :: '.' :: '.' :: rest => if isGapOrEnd rest.head? then some .ending else none
    | _ => none

/-- Passes over the rest of a line on which nothing may stand but a comment, and over the line break
behind it. -/
def endLine? (k : Cursor) : Option Cursor :=
  let k := k.skipWhile isGap
  let k := if k.head? == some '#' then k.skipWhile fun c => !isBreak c else k
  match k.head? with
  | none => some k
  | some c => if isBreak c then some k.next else none

end Cursor

/-- White space between words of one text. -/
structure Gap where
  /-- The spaces and tabs in front of the first line break. -/
  blanks : List Char := []
  /-- The line breaks. -/
  breaks : List Char := []
deriving DecidableEq, Repr

namespace Gap

/-- What a gap stands for: itself if it has no line break, or else its line breaks. A line feed
alone becomes a space, and in front of others it goes. -/
def folded (g : Gap) : List Char :=
  match g.breaks with
  | [] => g.blanks
  | ['\n'] => [' ']
  | '\n' :: rest => rest
  | breaks => breaks

/-- The gap that follows, and the place behind it. There is none if a tab stands in front of the
column `least` on any line of it but the first. -/
def take? (least : Nat) (k : Cursor) : Option (Gap × Cursor) := go k.rest [] [] k
where
  /-- Goes on with the given characters, those that follow. What is taken so far comes with the last
  character first. -/
  go : List Char → List Char → List Char → Cursor → Option (Gap × Cursor)
    | [], blanks, breaks, k => some (⟨blanks.reverse, breaks.reverse⟩, k)
    | c :: rest, blanks, breaks, k =>
      if isBreak c then go rest blanks (c :: breaks) k.next
      else if !isGap c then some (⟨blanks.reverse, breaks.reverse⟩, k)
      else if breaks.isEmpty then go rest (c :: blanks) breaks k.next
      else if c == '\t' && k.column < least then none
      else go rest blanks breaks k.next

end Gap

end Tabular.Yaml
