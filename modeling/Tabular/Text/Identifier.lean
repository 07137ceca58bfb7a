import Tabular.Text.IdentifierData
import Tabular.Text.Lowercase
/-!
# Identifiers

Which texts are identifiers by Unicode's rules, and which letters are upper-case. An identifier is
taken as it is written: two spellings with one normal form (NFC) are different texts here.
-/

namespace Tabular.Text

/-- A character that may begin an identifier. -/
def isIdentifierStart (c : Char) : Bool :=
  c == '_' || (if c.toNat < 0x80 then c.isAlpha else inRanges identifierStartRanges c.toNat)

/-- A character that may go on in an identifier. -/
def isIdentifierContinue (c : Char) : Bool :=
  isIdentifierStart c
    || (if c.toNat < 0x80 then c.isDigit else inRanges identifierContinueRanges c.toNat)

/-- A non-empty run of identifier characters that begins as an identifier does. -/
def isIdentifier : List Char → Bool
  | [] => false
  | c :: rest => isIdentifierStart c && rest.all isIdentifierContinue

/-- An upper-case letter. -/
def isUppercase (c : Char) : Bool :=
  let n := c.toNat
  uppercaseRuns.any fun (first, last, step) =>
    first ≤ n && n ≤ last && (n - first) % step == 0

end Tabular.Text
