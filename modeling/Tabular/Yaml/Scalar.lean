import Tabular.Text.Digit
import Tabular.Yaml.Cursor
/-!
# Running text

Scalars in quotes and scalars without: texts in which a line break is as good as a space. Readers
take the characters that they have read with the last one first, and fuel of one step for each
character that is left.
-/

namespace Tabular.Yaml

/-- The character that a letter after a backslash stands for. -/
def escaped? (c : Char) : Option Char :=
  match c with
  | '0' => some '\x00'
  | 'a' => some '\x07'
  | 'b' => some '\x08'
  | 't' | '\t' => some '\t'
  | 'n' => some '\n'
  | 'v' => some '\x0b'
  | 'f' => some '\x0c'
  | 'r' => some '\r'
  | 'e' => some '\x1b'
  | ' ' | '"' | '/' | '\\' => some c
  | 'N' => some '\u0085'
  | '_' => some '\u00a0'
  | 'L' => some '\u2028'
  | 'P' => some '\u2029'
  | _ => none

/-- The number of hexadecimal digits behind a letter after a backslash. -/
def codeLength? (c : Char) : Option Nat :=
  match c with
  | 'x' => some 2
  | 'u' => some 4
  | 'U' => some 8
  | _ => none

/-- The number that the next hexadecimal digits spell, of which there are as many as given. -/
def hexNumber? (length : Nat) (cs : List Char) : Option Nat :=
  if cs.length < length then none
  else cs.foldlM (fun n c => do return n * 16 + (← Text.hexValue? c)) 0

/-- The character of a code in hexadecimal digits. -/
def codeChar? (length : Nat) (cs : List Char) : Option Char := do
  let n ← hexNumber? length (cs.take length)
  if n.isValidChar then some (Char.ofNat n) else none

/-- Reads on in a text in quotes, up to the closing quote. -/
def readQuoted (quote : Char) : Nat → List Char → Cursor → Option (List Char × Cursor)
  | 0, _, _ => none
  | fuel + 1, taken, k =>
    if k.documentMark?.isSome then none
    else
      match k.rest with
      | [] => none
      | c :: rest =>
        if c == quote then
          if quote == '\'' && rest.head? == some quote then
            readQuoted quote fuel (quote :: taken) (k.skip 2)
          else some (taken.reverse, k.next)
        else if isGap c || isBreak c then do
          let (gap, k) ← Gap.take? 0 k
          readQuoted quote fuel (gap.folded.reverse ++ taken) k
        else if c == '\\' && quote == '"' then
          match rest with
          | [] => none
          | e :: digits =>
            if isBreak e then do
              let (gap, k) ← Gap.take? 0 (k.skip 2)
              readQuoted quote fuel (gap.breaks.reverse ++ taken) k
            else
              match escaped? e, codeLength? e with
              | some c, _ => readQuoted quote fuel (c :: taken) (k.skip 2)
              | none, some length => do
                let c ← codeChar? length digits
                readQuoted quote fuel (c :: taken) (k.skip (2 + length))
              | none, none => none
        else readQuoted quote fuel (c :: taken) k.next

/-- The characters of a plain text up to white space or a mark that ends the text, and the place
behind them. Inside brackets, no colon may stand in front of a mark. -/
def takeRun? (inFlow : Bool) (k : Cursor) : Option (List Char × Cursor) := go k.rest [] k
where
  /-- Goes on with the given characters, those that follow. -/
  go : List Char → List Char → Cursor → Option (List Char × Cursor)
    | [], taken, k => some (taken.reverse, k)
    | c :: rest, taken, k =>
      if isGap c || isBreak c || (inFlow && isFlowMark c) then some (taken.reverse, k)
      else if c != ':' then go rest (c :: taken) k.next
      else if isGapOrEnd rest.head? then some (taken.reverse, k)
      else if inFlow && rest.head?.any fun d => isFlowMark d || d == '?' then none
      else go rest (c :: taken) k.next

/-- Reads on in a plain text that has a gap behind what is read. The lines of the text begin no
further to the left than the column `least`, except inside brackets. The text comes with the gap
behind it. -/
def readPlain (inFlow : Bool) (least : Nat) :
    Nat → List Char → Gap → Cursor → Option (List Char × Gap × Cursor)
  | 0, _, _, _ => none
  | fuel + 1, taken, gap, k =>
    if k.documentMark?.isSome || k.head? == some '#' then some (taken.reverse, gap, k)
    else do
      let (run, k) ← takeRun? inFlow k
      if run.isEmpty then some (taken.reverse, gap, k)
      else
        let taken := run.reverse ++ gap.folded.reverse ++ taken
        if !k.head?.any fun c => isGap c || isBreak c then some (taken.reverse, {}, k)
        else
          let (gap, k) ← Gap.take? least k
          if !inFlow && k.column < least then some (taken.reverse, gap, k)
          else readPlain inFlow least fuel taken gap k

end Tabular.Yaml
