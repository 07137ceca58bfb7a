import Tabular.Text.CaseData
/-!
# Lower case

Full Unicode lower-casing of a text. Every character is mapped on its own, with two exceptions: the
dotted capital I becomes two characters, and a capital sigma at the end of a word takes its final
form. A sigma ends a word when a letter comes before it and none after it, characters such as
apostrophes and combining marks passed over.
-/

namespace Tabular.Text

/-- Whether a code point lies in one of the ranges. -/
def inRanges (ranges : List (Nat × Nat)) (n : Nat) : Bool :=
  ranges.any fun (first, last) => first ≤ n && n ≤ last

/-- The lower-case form of one character, itself when it has none. ASCII letters are settled
first. -/
def lowerChar (c : Char) : Char :=
  let n := c.toNat
  if n < 0x80 then c.toLower
  else
    match lowercaseRuns.find? fun (first, last, step, _) =>
        first ≤ n && n ≤ last && (n - first) % step == 0 with
    | some (_, _, _, shift) => Char.ofNat ((n : Int) + shift).toNat
    | none => c

/-- Characters with case. -/
def isCased (c : Char) : Bool := inRanges casedRanges c.toNat

/-- Characters passed over in deciding whether a letter ends a word. -/
def isCaseIgnorable (c : Char) : Bool := inRanges caseIgnorableRanges c.toNat

/-- Whether the first character that is not passed over is a letter with case. -/
def beginsCased (cs : List Char) : Bool :=
  match cs.dropWhile isCaseIgnorable with
  | c :: _ => isCased c
  | [] => false

/-- Lower-cases the rest of a text, given what comes before it from the nearest character on. -/
def lowerFrom (before : List Char) : List Char → List Char
  | [] => []
  | c :: rest =>
    let mapped :=
      if c == 'Σ' then
        if beginsCased before && !beginsCased rest then ['ς'] else ['σ']
      else if c == 'İ' then ['i', '\u0307']
      else [lowerChar c]
    mapped ++ lowerFrom (c :: before) rest

/-- A character list in lower case. -/
def lowerList (cs : List Char) : List Char := lowerFrom [] cs

/-- A text in lower case. -/
def lower (s : String) : String := String.ofList (lowerList s.toList)

example : lower "ÉMILE" = "émile" := by decide +kernel
example : lower "ΟΔΟΣ" = "οδος" := by decide +kernel
example : lower "ΟΔΟΣΑ" = "οδοσα" := by decide +kernel
example : lower "İI" = "i̇i" := by decide +kernel

end Tabular.Text
