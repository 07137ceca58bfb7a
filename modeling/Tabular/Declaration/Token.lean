import Tabular.Text.Digit
import Tabular.Text.Identifier
import Tabular.Text.Blank
/-!
# Tokens of a declaration

The text of a declaration as tokens: words, lifetimes, literals, marks, and groups in brackets.
Comments and white space separate tokens and are no tokens themselves.
-/

namespace Tabular.Declaration

/-- A token. -/
inductive Token where
  | word (s : String)
  | lifetime
  /-- A text literal with the text it stands for. -/
  | text (s : String)
  /-- A literal that is no text. -/
  | literal
  /-- A mark, and whether another mark follows it immediately. -/
  | mark (c : Char) (joint : Bool)
  | group (opening : Char) (inner : List Token)

/-- A token before brackets are matched. -/
inductive Lexeme where
  | token (t : Token)
  | opening (c : Char)
  | closing (c : Char)

/-- The marks. -/
def isMark (c : Char) : Bool := "~!@#$%^&*-=+|;:,<.>/?'".toList.contains c

/-- The text behind a line comment. -/
def skipLine (cs : List Char) : List Char := cs.dropWhile fun c => c != '\n'

/-- The text behind a comment between marks, which may hold others. -/
def skipComment : Nat → List Char → Option (List Char)
  | depth, '*' :: '/' :: rest =>
    match depth with
    | 0 => some rest
    | depth + 1 => skipComment depth rest
  | depth, '/' :: '*' :: rest => skipComment (depth + 1) rest
  | depth, _ :: rest => skipComment depth rest
  | _, [] => none

/-- The hexadecimal digits of a character code in braces, and what follows them. -/
def readCode : Nat → List Char → Option (Nat × List Char)
  | n, '}' :: rest => some (n, rest)
  | n, '_' :: rest => readCode n rest
  | n, c :: rest => (Text.hexValue? c).bind fun d => readCode (16 * n + d) rest
  | _, [] => none

/-- The characters that an escape stands for, and what follows it. A line break is passed over
together with the white space behind it. -/
def readEscape (cs : List Char) : Option (List Char × List Char) :=
  match cs with
  | 'n' :: rest => some (['\n'], rest)
  | 'r' :: rest => some (['\r'], rest)
  | 't' :: rest => some (['\t'], rest)
  | '0' :: rest => some (['\x00'], rest)
  | '\\' :: rest => some (['\\'], rest)
  | '\'' :: rest => some (['\''], rest)
  | '"' :: rest => some (['"'], rest)
  | 'x' :: a :: b :: rest => do
    let n := 16 * (← Text.hexValue? a) + (← Text.hexValue? b)
    if n < 0x80 then some ([Char.ofNat n], rest) else none
  | 'u' :: '{' :: rest => do
    let (n, rest) ← readCode 0 rest
    if n.isValidChar then some ([Char.ofNat n], rest) else none
  | '\n' :: rest =>
    some ([], rest.dropWhile fun c => c == ' ' || c == '\n' || c == '\t' || c == '\r')
  | _ => none

/-- The text in quotes behind the opening quote, and what follows it. The fuel is one step for each
character. -/
def readText : Nat → List Char → Option (List Char × List Char)
  | 0, _ => none
  | fuel + 1, cs =>
    match cs with
    | [] => none
    | '"' :: rest => some ([], rest)
    | '\\' :: rest => do
      let (c, rest) ← readEscape rest
      let (s, rest) ← readText fuel rest
      return (c ++ s, rest)
    | c :: rest => (readText fuel rest).map fun (s, rest) => (c :: s, rest)

/-- The text in quotes without escapes, up to a quote with so many number signs behind it. -/
def readRaw (signs : List Char) : List Char → Option (List Char × List Char)
  | [] => none
  | c :: rest =>
    if c == '"' && signs.isPrefixOf rest then some ([], rest.drop signs.length)
    else (readRaw signs rest).map fun (s, rest) => (c :: s, rest)

/-- A raw text behind its letter. -/
def readRawText (cs : List Char) : Option (List Char × List Char) :=
  let signs := cs.takeWhile (· == '#')
  match cs.dropWhile (· == '#') with
  | '"' :: rest => readRaw signs rest
  | _ => none

/-- A character in quotes behind the opening quote: what follows the closing quote. -/
def readCharacter (cs : List Char) : Option (List Char) :=
  match cs with
  | '\\' :: rest =>
    match readEscape rest with
    | some ([_], '\'' :: rest) => some rest
    | _ => none
  | c :: '\'' :: rest => if c == '\'' then none else some rest
  | _ => none

/-- A word and what follows it. -/
def takeWord (cs : List Char) : List Char × List Char :=
  (cs.takeWhile Text.isIdentifierContinue, cs.dropWhile Text.isIdentifierContinue)

/-- What follows a number: its digits and letters, and a point with digits behind it. -/
def skipNumber (cs : List Char) : List Char :=
  match cs.dropWhile Text.isIdentifierContinue with
  | '.' :: c :: rest =>
    if Text.isAsciiDigit c then rest.dropWhile Text.isIdentifierContinue
    else if c == '.' || Text.isIdentifierStart c then '.' :: c :: rest
    else c :: rest
  | rest => rest

/-- A text literal, and what follows it. -/
def readLiteral? (cs : List Char) : Option (Option (Token × List Char)) :=
  match cs with
  | '"' :: rest =>
    some ((readText (rest.length + 1) rest).map fun (s, r) => (.text (String.ofList s), r))
  | 'r' :: '"' :: rest | 'r' :: '#' :: '"' :: rest | 'r' :: '#' :: '#' :: rest =>
    let _ := rest
    some ((readRawText (cs.drop 1)).map fun (s, r) => (.text (String.ofList s), r))
  | 'b' :: '"' :: rest | 'c' :: '"' :: rest =>
    some ((readText (rest.length + 1) rest).map fun (_, r) => (.literal, r))
  | 'b' :: '\'' :: rest => some ((readCharacter rest).map fun r => (.literal, r))
  | _ => none

/-- A token and what follows it. -/
def readToken (cs : List Char) : Option (Lexeme × List Char) :=
  match readLiteral? cs with
  | some found => found.map fun (t, rest) => (.token t, rest)
  | none =>
    match cs with
    | [] => none
    | '\'' :: rest =>
      match readCharacter rest with
      | some rest => some (.token .literal, rest)
      | none =>
        let (name, rest) := takeWord rest
        if Text.isIdentifier name then some (.token .lifetime, rest) else none
    | 'r' :: '#' :: rest =>
      let (name, rest) := takeWord rest
      let raw := String.ofList ('r' :: '#' :: name)
      if Text.isIdentifier name then some (.token (.word raw), rest) else none
    | c :: rest =>
      if Text.isIdentifierStart c then
        let (name, rest) := takeWord cs
        some (.token (.word (String.ofList name)), rest)
      else if Text.isAsciiDigit c then some (.token .literal, skipNumber cs)
      else if c == '(' || c == '[' || c == '{' then some (.opening c, rest)
      else if c == ')' then some (.closing '(', rest)
      else if c == ']' then some (.closing '[', rest)
      else if c == '}' then some (.closing '{', rest)
      else if isMark c then
        some (.token (.mark c (rest.head?.any fun d => isMark d)), rest)
      else none

/-- The tokens of a text before brackets are matched. The fuel is one step for each character. -/
def lexemes : Nat → List Char → Option (List Lexeme)
  | 0, _ => none
  | fuel + 1, cs =>
    match cs with
    | [] => some []
    | '/' :: '/' :: rest => lexemes fuel (skipLine rest)
    | '/' :: '*' :: rest => (skipComment 0 rest).bind (lexemes fuel)
    | c :: rest =>
      if Text.isSpace c then lexemes fuel rest
      else do
        let (l, rest) ← readToken (c :: rest)
        return l :: (← lexemes fuel rest)

/-- Puts matched brackets around their tokens. The stack holds the open brackets, innermost first,
each with the tokens before it, and these and the tokens read so far stand last first. -/
def matchBrackets : List (Char × List Token) → List Token → List Lexeme → Option (List Token)
  | [], read, [] => some read.reverse
  | _ :: _, _, [] => none
  | stack, read, .token t :: rest => matchBrackets stack (t :: read) rest
  | stack, read, .opening c :: rest => matchBrackets ((c, read) :: stack) [] rest
  | (opening, before) :: stack, read, .closing c :: rest =>
    if opening == c then matchBrackets stack (.group c read.reverse :: before) rest else none
  | [], _, .closing _ :: _ => none

/-- The tokens of a text. -/
def tokens? (s : String) : Option (List Token) :=
  let cs := s.toList
  (lexemes (cs.length + 1) cs).bind (matchBrackets [] [])

end Tabular.Declaration
