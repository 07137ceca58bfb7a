import Tabular.Yaml.Alias
/-!
# Reading YAML

The only document of a YAML text. What its values stand for depends on the shape that is wanted, and
is left to those who read the `Node`. The ways of writing a value are the subject of `Token` and
`Tree`.
-/

namespace Tabular.Yaml

/-- The greatest number of lists and tables that a value may be nested in. -/
def maxDepth : Nat := 128

/-- The document of a text, none if the text breaks a rule or has more than one. -/
def Document.ofText? (s : String) : Option Document := do
  let cs := unifyBreaks s.toList
  if !cs.all isAllowed then none
  let tree ← Tree.ofTokens? (← Token.ofText? cs)
  return .ofTree tree

/-- The document of a text. -/
def Document.ofText (s : String) : Except Fault Document :=
  match Document.ofText? s with
  | some d => .ok d
  | none => .error .malformed

end Tabular.Yaml
