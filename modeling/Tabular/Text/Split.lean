/-!
# Searching and splitting text

Substring search and splitting at a separator, stated on character lists. A separator is looked
for from the left (`splitFirst?`, `splitAll`) or from the right (`splitLast?`); the pieces and
the separators between them give the text back.
-/

namespace Tabular.Text

/-- Whether `needle` occurs in the list as a block of consecutive characters. -/
def hasInfix (needle : List Char) : List Char → Bool
  | [] => needle.isEmpty
  | c :: rest => needle.isPrefixOf (c :: rest) || hasInfix needle rest

/-- The parts before and after the first occurrence of `sep`. -/
def splitFirst? (sep : List Char) : List Char → Option (List Char × List Char)
  | [] => if sep.isEmpty then some ([], []) else none
  | c :: rest =>
    if sep.isPrefixOf (c :: rest) then some ([], (c :: rest).drop sep.length)
    else (splitFirst? sep rest).map fun (before, after) => (c :: before, after)

/-- The parts before and after the last occurrence of the character `sep`. -/
def splitLast? (sep : Char) : List Char → Option (List Char × List Char)
  | [] => none
  | c :: rest =>
    match splitLast? sep rest with
    | some (before, after) => some (c :: before, after)
    | none => if c == sep then some ([], rest) else none

/-- Puts a character in front of the first piece. -/
def consFirst (c : Char) : List (List Char) → List (List Char)
  | [] => [[c]]
  | piece :: pieces => (c :: piece) :: pieces

/-- The pieces between occurrences of `sep`, found from the left without overlap. The counter
holds how many characters of the separator just found are still to be passed over. -/
def splitFrom (sep : List Char) : Nat → List Char → List (List Char)
  | _, [] => [[]]
  | skip + 1, _ :: rest => splitFrom sep skip rest
  | 0, c :: rest =>
    if sep.isPrefixOf (c :: rest) then [] :: splitFrom sep (sep.length - 1) rest
    else consFirst c (splitFrom sep 0 rest)

/-- The pieces of a list between occurrences of a non-empty separator. -/
def splitAll (sep cs : List Char) : List (List Char) := splitFrom sep 0 cs

/-- The pieces of a text between occurrences of a non-empty separator. -/
def split (sep s : String) : List String :=
  (splitAll sep.toList s.toList).map String.ofList

/-- A text cut at the first occurrence of a separator. -/
def cutFirst? (sep s : String) : Option (String × String) :=
  (splitFirst? sep.toList s.toList).map fun (a, b) => (String.ofList a, String.ofList b)

/-- A text cut at the last occurrence of a character. -/
def cutLast? (sep : Char) (s : String) : Option (String × String) :=
  (splitLast? sep s.toList).map fun (a, b) => (String.ofList a, String.ofList b)

/-- Texts put together with a separator between neighbours. -/
def join (sep : String) : List String → String
  | [] => ""
  | [s] => s
  | s :: rest => s ++ sep ++ join sep rest

/-- A text with its ASCII letters in lower case and everything else as it is. -/
def asciiLower (s : String) : String := String.ofList (s.toList.map Char.toLower)

/-- A text of `n` spaces. -/
def spaces (n : Nat) : String := String.ofList (List.replicate n ' ')

theorem splitAll_ne_nil (sep cs : List Char) : splitAll sep cs ≠ [] := by
  suffices ∀ cs skip, splitFrom sep skip cs ≠ [] from this cs 0
  intro cs
  induction cs with
  | nil => intro skip; simp [splitFrom]
  | cons c rest ih =>
    intro skip
    cases skip with
    | succ skip => exact ih skip
    | zero =>
      simp only [splitFrom]
      split
      · simp
      · cases h : splitFrom sep 0 rest with
        | nil => exact absurd h (ih 0)
        | cons => simp [consFirst]

end Tabular.Text
