import Tabular.Text.TransliterationData
/-!
# Transliteration

An ASCII text that stands for a given text, used to put accented letters and other scripts in the
order of their Latin spelling. A replacement that is a word, longer than one character and with a
space at its end, loses that space at the end of the text and before another space.
-/

namespace Tabular.Text

/-- The replacement of a character. ASCII characters stand for themselves and a character without an
entry becomes a question mark in brackets. -/
def asciiReplacement (c : Char) : List Char :=
  if c.toNat < 0x7F then [c]
  else
    match asciiReplacements.find? fun (n, _) => n == c.toNat with
    | some (_, s) => s.toList
    | none => ['[', '?', ']']

/-- Puts replacements one after the other, without the closing space of a word where another space
or the end of the text follows. -/
def joinReplacements : List (List Char) → List Char
  | [] => []
  | piece :: rest =>
    let tail := joinReplacements rest
    let drops := match rest with
      | [] => true
      | next :: _ => next.head? == some ' '
    if drops && 1 < piece.length && piece.getLast? == some ' ' then piece.dropLast ++ tail
    else piece ++ tail

/-- The ASCII text that stands for a text. -/
def transliterate (s : String) : String :=
  let cs := s.toList
  if cs.all fun c => c.toNat < 0x7F then s
  else String.ofList (joinReplacements (cs.map asciiReplacement))

example : transliterate "Ångström" = "Angstrom" := by decide +kernel
example : transliterate "北京" = "Bei Jing" := by decide +kernel

end Tabular.Text
