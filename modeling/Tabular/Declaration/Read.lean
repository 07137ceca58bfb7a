import Tabular.Declaration.Basic
import Tabular.Declaration.Grammar
/-!
# Reading declarations

The text of a struct declaration as a `Declaration`. Only the names of the members and their
annotations are kept. An annotation is a list of settings in the parentheses of a `field`
attribute; it is read when it is needed, so what is wrong inside it does not make the declaration
malformed.
-/

namespace Tabular.Declaration

/-- What follows the path of an attribute or a setting. -/
inductive Form where
  | word
  | arguments (inner : List Token)
  /-- A value, none where it is not a text. -/
  | assign (value? : Option String)

/-- The further parts of a path, and whether there are any. -/
def pathRest : Nat → List Token → Option (Bool × List Token)
  | 0, _ => none
  | fuel + 1, ts =>
    match colons? ts with
    | none => some (false, ts)
    | some (.word s :: rest) =>
      if isPathName s then (pathRest fuel rest).map fun (_, rest) => (true, rest) else none
    | some _ => none

/-- A path: its name if it has only one, and what follows it. -/
def readPath (ts : List Token) : Option (Option String × List Token) :=
  let bare := (colons? ts).getD ts
  match bare with
  | .word "unsafe" :: rest => if (colons? ts).isNone then some (some "unsafe", rest) else none
  | .word s :: rest =>
    if isPathName s then do
      let (more, rest) ← pathRest (rest.length + 1) rest
      return (if more || (colons? ts).isSome then none else some s, rest)
    else none
  | _ => none

/-- Whether a token is a comma. -/
def isComma : Token → Bool
  | .mark ',' _ => true
  | _ => false

/-- An attribute or a setting: its name, its form, and what follows it. -/
def readForm (ts : List Token) : Option (Option String × Form × List Token) := do
  let (name?, rest) ← readPath ts
  match rest with
  | .group _ inner :: rest => return (name?, .arguments inner, rest)
  | .mark '=' _ :: rest =>
    let value := rest.takeWhile fun t => !isComma t
    let behind := rest.dropWhile fun t => !isComma t
    match value with
    | [.text s] => return (name?, .assign (some s), behind)
    | _ => if isExpression value then return (name?, .assign none, behind) else none
  | rest => return (name?, .word, rest)

/-- The setting of a name and a form. -/
def Form.toSetting (name? : Option String) : Form → Setting
  | word => .word name?
  | arguments _ => .arguments
  | assign value? => .assign name? value?

/-- Settings with commas between them. The fuel is one step for each token. -/
def readSettings : Nat → List Token → Option (List Setting)
  | 0, _ => none
  | fuel + 1, ts =>
    if ts.isEmpty then some []
    else do
      let (name?, form, rest) ← readForm ts
      match rest with
      | [] => return [form.toSetting name?]
      | .mark ',' _ :: rest => return form.toSetting name? :: (← readSettings fuel rest)
      | _ => none

/-- The attributes in front of something, and what follows them. -/
def readAttributes : List Token → Option (List (Option String × Form) × List Token)
  | .mark '#' _ :: .group '[' inner :: rest => do
    let (name?, form, []) ← readForm inner | none
    let (more, rest) ← readAttributes rest
    return ((name?, form) :: more, rest)
  | ts => some ([], ts)

/-- An optional visibility. -/
def skipVisibility : List Token → List Token
  | .word "pub" :: .group '(' _ :: rest => rest
  | .word "pub" :: rest => rest
  | ts => ts

/-- The annotation among the attributes of a member. -/
def annotation? (attributes : List (Option String × Form)) : Option (Option (List Setting)) :=
  (attributes.find? fun (name?, _) => name? == some "field").map fun (_, form) =>
    match form with
    | .arguments inner => readSettings (inner.length + 1) inner
    | _ => none

/-- The members of a struct. The fuel is one step for each token. -/
def readMembers : Nat → List Token → Option (List Member)
  | 0, _ => none
  | fuel + 1, ts =>
    if ts.isEmpty then some []
    else do
      let (attributes, rest) ← readAttributes ts
      match skipVisibility rest with
      | .word name :: .mark ':' _ :: rest =>
        if isName name || name == "_" then do
          let member : Member := ⟨name, annotation? attributes⟩
          match ← type? (fuelFor rest) rest with
          | [] => return [member]
          | .mark ',' _ :: rest => return member :: (← readMembers fuel rest)
          | _ => none
        else none
      | _ => none

/-- What follows the word that says what is declared. -/
def readBody (kind : String) (fuel : Nat) (ts : List Token) : Option Declaration := do
  let rest ← whereClause? fuel (← generics? fuel ts)
  match rest with
  | [.group '{' inner] =>
    if kind == "struct" then return .struct (← readMembers (inner.length + 1) inner)
    else return .other
  | .group '(' inner :: rest =>
    match ← whereClause? fuel rest with
    | [.mark ';' _] => if kind == "struct" && types? fuel inner then return .tuple else none
    | _ => none
  | [.mark ';' _] => if kind == "struct" then return .tuple else none
  | _ => none

/-- The declaration that tokens are. -/
def ofTokens? (ts : List Token) : Option Declaration := do
  let (_, rest) ← readAttributes ts
  match skipVisibility rest with
  | .word kind :: .word name :: rest =>
    if ["struct", "enum", "union"].contains kind && isName name then
      readBody kind (fuelFor rest) rest
    else none
  | _ => none

/-- The declaration that a text is. -/
def ofText (s : String) : Except DeclarationError Declaration :=
  match (tokens? s).bind ofTokens? with
  | some d => .ok d
  | none => .error .malformed

end Tabular.Declaration
