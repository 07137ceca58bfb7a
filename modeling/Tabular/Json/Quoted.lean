import Tabular.Document.Node
import Tabular.Text.Digit
/-!
# Texts in quotes

Reading a JSON text up to its closing quote. Four hexadecimal digits after `\u` stand for a
character or for half of one beyond the first 65536; two halves must follow one another to make a
character. `pieces` cuts the text into characters and halves and finds its end, and `joinHalves`
puts the halves together. A reader that passes over a text does only the first, so halves that do
not match are faulty to those alone who want the text.
-/

namespace Tabular.Json

/-- A character of a text in quotes, or half of one. -/
inductive Piece where
  | char (c : Char)
  | high (n : Nat)
  | low (n : Nat)
deriving DecidableEq, Repr

namespace Piece

/-- What the 16-bit code `n` stands for. -/
def ofCode (n : Nat) : Piece :=
  if 0xD800 ≤ n ∧ n < 0xDC00 then high (n - 0xD800)
  else if 0xDC00 ≤ n ∧ n < 0xE000 then low (n - 0xDC00)
  else char (Char.ofNat n)

end Piece

/-- The character that a letter after a backslash stands for. -/
def escaped? (c : Char) : Option Char :=
  if c == '"' || c == '\\' || c == '/' then some c
  else if c == 'b' then some '\x08'
  else if c == 'f' then some '\x0c'
  else if c == 'n' then some '\n'
  else if c == 'r' then some '\r'
  else if c == 't' then some '\t'
  else none

/-- The number that four hexadecimal digits spell. -/
def code? (a b c d : Char) : Option Nat := do
  let a ← Text.hexValue? a
  let b ← Text.hexValue? b
  let c ← Text.hexValue? c
  let d ← Text.hexValue? d
  return ((a * 16 + b) * 16 + c) * 16 + d

/-- The fault of a text with fewer than four characters behind `\u`: it ends too early if there
are not even four bytes. -/
def shortCodeFault (rest : List Char) : Fault :=
  if (String.ofList rest).utf8ByteSize < 4 then .truncated else .malformed

/-- A text in quotes cut into pieces: the pieces, the fault before its end if there is one, and what
follows the closing quote. -/
structure Pieces where
  pieces : List Piece
  fault : Option Fault
  rest : List Char

namespace Pieces

/-- Nothing but a fault. -/
def failed (f : Fault) : Pieces := ⟨[], some f, []⟩

/-- One more piece in front. -/
def cons (p : Piece) (ps : Pieces) : Pieces := { ps with pieces := p :: ps.pieces }

end Pieces

/-- The pieces of a text behind its opening quote. -/
def pieces : List Char → Pieces
  | [] => .failed .truncated
  | '"' :: rest => ⟨[], none, rest⟩
  | '\\' :: 'u' :: a :: b :: c :: d :: rest =>
    match code? a b c d with
    | some n => (pieces rest).cons (.ofCode n)
    | none => .failed .malformed
  | '\\' :: 'u' :: rest => .failed (shortCodeFault rest)
  | '\\' :: c :: rest =>
    match escaped? c with
    | some e => (pieces rest).cons (.char e)
    | none => .failed .malformed
  | '\\' :: [] => .failed .truncated
  | c :: rest => if c.toNat < 0x20 then .failed .malformed else (pieces rest).cons (.char c)

/-- The characters of a list of pieces that ends in a fault or without one. The first half without
its other half is malformed; a half at the very end may only have been cut off. -/
def joinHalves (ending : Option Fault) : List Piece → Except Fault (List Char)
  | [] => (Node.raise ending).map fun _ => []
  | .char c :: rest => (joinHalves ending rest).map (c :: ·)
  | .high h :: .low l :: rest =>
    (joinHalves ending rest).map (Char.ofNat (0x10000 + h * 0x400 + l) :: ·)
  | [.high _] => .error (ending.getD .malformed)
  | _ => .error .malformed

/-- The text behind an opening quote as a value. -/
def Pieces.toNode (ps : Pieces) : Node :=
  match joinHalves ps.fault ps.pieces with
  | .ok cs => .text (String.ofList cs)
  | .error f => .badText f ps.fault

/-- The text behind an opening quote as a key. -/
def Pieces.toKey (ps : Pieces) : NodeKey :=
  match joinHalves ps.fault ps.pieces with
  | .ok cs => .text (String.ofList cs)
  | .error f => .bad f ps.fault

example : (pieces "a\\u00e9\" x".toList).toKey = .text "aé" := by decide +kernel
example : (pieces "\\ud83d\\ude42\"".toList).toKey = .text "🙂" := by decide +kernel
example : (pieces "\\ud83d\"".toList).toKey = .bad .malformed none := by decide +kernel
example : (pieces "\\ud83dx".toList).toKey = .bad .malformed (some .truncated) := by
  decide +kernel
example : (pieces "\\ud83d".toList).toKey = .bad .truncated (some .truncated) := by
  decide +kernel

end Tabular.Json
