import Tabular.Declaration.Token
/-!
# Grammar of declarations

The parts of a declaration that are passed over once they are seen to be well formed: types,
bounds, generic parameters, and expressions. A function takes the tokens from where its part
begins and gives those behind it, none where the part is not well formed. The fuel is a bound on
the depth of nesting and on the length of lists together.
-/

namespace Tabular.Declaration

/-- The words that are no names. -/
def keywords : List String :=
  ["_", "abstract", "as", "async", "await", "become", "box", "break", "const", "continue", "crate",
   "do", "dyn", "else", "enum", "extern", "false", "final", "fn", "for", "if", "impl", "in", "let",
   "loop", "macro", "match", "mod", "move", "mut", "override", "priv", "pub", "ref", "return",
   "Self", "self", "static", "struct", "super", "trait", "true", "try", "type", "typeof", "unsafe",
   "unsized", "use", "virtual", "where", "while", "yield"]

/-- Whether a word is a name. -/
def isName (s : String) : Bool := !keywords.contains s

/-- Whether a word may be a part of a path. -/
def isPathName (s : String) : Bool := isName s || ["super", "self", "Self", "crate"].contains s

/-- How many tokens there are, inside groups too. -/
def sizeOf (ts : List Token) : Nat := sizes ts
where
  /-- The number of tokens in one. -/
  size : Token → Nat
    | .group _ inner => 1 + sizes inner
    | _ => 1
  /-- The number of tokens in several. -/
  sizes : List Token → Nat
    | [] => 0
    | t :: rest => size t + sizes rest

/-- Fuel for any part of a list of tokens: at each token there are no more than four calls. -/
def fuelFor (ts : List Token) : Nat := 4 * sizeOf ts + 4

/-- An optional lifetime. -/
def skipLifetime : List Token → List Token
  | .lifetime :: rest => rest
  | ts => ts

/-- An optional word. -/
def skipWord (w : String) : List Token → List Token
  | .word s :: rest => if s == w then rest else .word s :: rest
  | ts => ts

/-- A double colon. -/
def colons? : List Token → Option (List Token)
  | .mark ':' true :: .mark ':' _ :: rest => some rest
  | _ => none

mutual

/-- A type. -/
def type? : Nat → List Token → Option (List Token)
  | 0, _ => none
  | fuel + 1, ts =>
    match ts with
    | .mark '&' _ :: rest => type? fuel (skipWord "mut" (skipLifetime rest))
    | .mark '*' _ :: .word w :: rest =>
      if w == "const" || w == "mut" then type? fuel rest else none
    | .mark '!' _ :: rest => some rest
    | .mark '<' _ :: rest => do
      let rest ← type? fuel rest
      let rest ← match rest with
        | .word "as" :: more => path? fuel more
        | more => some more
      match rest with
      | .mark '>' _ :: more => path? fuel (← colons? more)
      | _ => none
    | .group '(' inner :: rest => if types? fuel inner then some rest else none
    | .group '[' inner :: rest =>
      match type? fuel inner with
      | some [] => some rest
      | some (.mark ';' _ :: _ :: _) => some rest
      | _ => none
    | .word "_" :: rest => some rest
    | .word "dyn" :: rest | .word "impl" :: rest => bounds? fuel rest
    | .word "fn" :: .group '(' inner :: rest =>
      if types? fuel inner then result? fuel rest else none
    | ts => path? fuel ts

/-- An optional result type. -/
def result? : Nat → List Token → Option (List Token)
  | 0, _ => none
  | fuel + 1, ts =>
    match ts with
    | .mark '-' true :: .mark '>' _ :: rest => type? fuel rest
    | ts => some ts

/-- Whether tokens are types between commas. -/
def types? : Nat → List Token → Bool
  | 0, _ => false
  | fuel + 1, ts =>
    ts.isEmpty
      || match type? fuel ts with
        | some [] => true
        | some (.mark ',' _ :: rest) => types? fuel rest
        | _ => false

/-- A path with optional arguments in angle brackets. -/
def path? : Nat → List Token → Option (List Token)
  | 0, _ => none
  | fuel + 1, ts =>
    match (colons? ts).getD ts with
    | .word s :: rest =>
      if isPathName s then do
        let rest ← match (colons? rest).getD rest with
          | .mark '<' _ :: more => arguments? fuel more
          | .group '(' inner :: more =>
            if (colons? rest).isNone && types? fuel inner then result? fuel more else none
          | _ => some rest
        match colons? rest with
        | some more => path? fuel more
        | none => some rest
      else none
    | _ => none

/-- Arguments up to the closing angle bracket. -/
def arguments? : Nat → List Token → Option (List Token)
  | 0, _ => none
  | fuel + 1, ts =>
    match ts with
    | .mark '>' _ :: rest => some rest
    | ts => do
      let rest ← match ts with
        | .lifetime :: more | .literal :: more | .text _ :: more => some more
        | .group '{' _ :: more => some more
        | .word _ :: .mark '=' _ :: more => type? fuel more
        | .word s :: .mark ':' false :: more =>
          if isName s then bounds? fuel more else none
        | ts => type? fuel ts
      match rest with
      | .mark ',' _ :: more => arguments? fuel more
      | .mark '>' _ :: more => some more
      | _ => none

/-- Bounds with plus signs between them. -/
def bounds? : Nat → List Token → Option (List Token)
  | 0, _ => none
  | fuel + 1, ts =>
    let bound : Option (List Token) := match ts with
      | .lifetime :: more => some more
      | .group '(' _ :: more => some more
      | .mark '?' _ :: more => path? fuel more
      | ts => path? fuel ts
    match bound with
    | none => some ts
    | some (.mark '+' _ :: more) => bounds? fuel more
    | some more => some more

end

/-- Attributes in front of something. -/
def skipAttributes : List Token → List Token
  | .mark '#' _ :: .group '[' _ :: rest => skipAttributes rest
  | ts => ts

/-- Generic parameters up to the closing angle bracket. -/
def parameters? : Nat → List Token → Option (List Token)
  | 0, _ => none
  | fuel + 1, ts =>
    match skipAttributes ts with
    | .mark '>' _ :: rest => some rest
    | ts => do
      let rest ← match ts with
        | .lifetime :: .mark ':' _ :: more => bounds? fuel more
        | .lifetime :: more => some more
        | .word "const" :: .word s :: .mark ':' _ :: more =>
          if isName s then type? fuel more else none
        | .word s :: more =>
          if isName s then
            match more with
            | .mark ':' false :: more => bounds? fuel more
            | more => some more
          else none
        | _ => none
      let rest ← match rest with
        | .mark '=' _ :: .literal :: more => some more
        | .mark '=' _ :: more => type? fuel more
        | more => some more
      match rest with
      | .mark ',' _ :: more => parameters? fuel more
      | .mark '>' _ :: more => some more
      | _ => none

/-- Conditions on the generic parameters, up to the body. -/
def conditions? : Nat → List Token → Option (List Token)
  | 0, _ => none
  | fuel + 1, ts =>
    match ts with
    | [] | .group '{' _ :: _ | .mark ';' _ :: _ => some ts
    | ts => do
      let rest ← match ts with
        | .lifetime :: more => some more
        | ts => type? fuel ts
      match rest with
      | .mark ':' _ :: more =>
        match ← bounds? fuel more with
        | .mark ',' _ :: more => conditions? fuel more
        | [] => some []
        | .group '{' inner :: more => some (.group '{' inner :: more)
        | .mark ';' joint :: more => some (.mark ';' joint :: more)
        | _ => none
      | _ => none

/-- Optional generic parameters. -/
def generics? (fuel : Nat) : List Token → Option (List Token)
  | .mark '<' _ :: rest => parameters? fuel rest
  | ts => some ts

/-- An optional list of conditions. -/
def whereClause? (fuel : Nat) : List Token → Option (List Token)
  | .word "where" :: rest => conditions? fuel rest
  | ts => some ts

/-- The marks in front of an operand. -/
def isSign (c : Char) : Bool := c == '-' || c == '!' || c == '*' || c == '&'

/-- The marks between operands. -/
def isOperator (c : Char) : Bool := "+-*/%^&|<>=.".toList.contains c

mutual

/-- Whether tokens are an operand with what may follow it. -/
def isOperand : Nat → List Token → Bool
  | 0, _ => false
  | fuel + 1, ts =>
    match ts with
    | .mark c _ :: rest =>
      if isSign c then isOperand fuel (skipWord "mut" rest)
      else match colons? ts with
        | some more => isOperand fuel more
        | none => false
    | .text _ :: rest | .literal :: rest | .group _ _ :: rest => isOperandRest fuel rest
    | .word s :: rest => (isPathName s || s == "true" || s == "false") && isOperandRest fuel rest
    | _ => false

/-- Whether tokens may follow an operand. -/
def isOperandRest : Nat → List Token → Bool
  | 0, _ => false
  | fuel + 1, ts =>
    match ts with
    | [] => true
    | .mark '?' _ :: rest => isOperandRest fuel rest
    | .group '(' _ :: rest | .group '[' _ :: rest | .group '{' _ :: rest => isOperandRest fuel rest
    | .mark '!' _ :: .group _ _ :: rest => isOperandRest fuel rest
    | .word "as" :: rest =>
      match type? fuel rest with
      | some more => isOperandRest fuel more
      | none => false
    | .mark '.' _ :: .word "await" :: rest => isOperandRest fuel rest
    | .mark c _ :: rest =>
      match colons? ts with
      | some more => isOperand fuel more
      | none =>
        isOperator c
          && isOperand fuel (rest.dropWhile fun t => match t with
            | .mark d _ => isOperator d && !isSign d
            | _ => false)
    | _ => false

end

/-- Whether tokens are an expression. -/
def isExpression (ts : List Token) : Bool := isOperand (fuelFor ts) ts

end Tabular.Declaration
