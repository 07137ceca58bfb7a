import Tabular.Yaml.Token
/-!
# Trees

The document of a YAML text as a tree, in which aliases are numbers of anchors. An anchor gets as
its number the count of the names that are known when it comes. A name that is used again does not
add to them, so that anchors can share a number; then the last one counts.
-/

namespace Tabular.Yaml

/-- A node of a document. Nodes with an anchor have its number. -/
inductive Tree where
  | reference (number : Nat)
  | scalar (anchor? : Option Nat) (s : Scalar)
  | list (anchor? : Option Nat) (tag? : Option Tag) (items : List Tree)
  | table (anchor? : Option Nat) (tag? : Option Tag) (members : List (Tree × Tree))

namespace Tree

/-- A node of which nothing is written. -/
def empty : Tree := scalar none { text := "" }

instance : Inhabited Tree := ⟨empty⟩

end Tree

/-- Where a node stands, which decides how it may be written. -/
inductive NodePlace where
  /-- Inside brackets. -/
  | flow
  /-- An item of a list by indentation, or the whole document. -/
  | item
  /-- A key or a value of a table by indentation. There, the items of a list need not be
  indented. -/
  | member
deriving DecidableEq, Repr

/-- What is left of the tokens of a document, and the numbers of the names of its anchors. -/
structure TreeSource where
  tokens : List Token
  numbers : List (String × Nat) := []

namespace TreeSource

/-- The source behind the next token. -/
def next (s : TreeSource) : TreeSource := { s with tokens := s.tokens.drop 1 }

/-- Whether the next token is one of some. -/
def isAt (s : TreeSource) (ts : List Token) : Bool := s.tokens.head?.any ts.contains

/-- Passes over a token that must follow. -/
def expect? (s : TreeSource) (t : Token) : Option TreeSource :=
  if s.isAt [t] then some s.next else none

/-- Gives an anchor its number. -/
def define (s : TreeSource) (name : String) : Nat × TreeSource :=
  let number := s.numbers.length
  (number, { s with numbers := (name, number) :: s.numbers.filter fun (n, _) => n != name })

end TreeSource

/-- What the handles of tags stand for. -/
abbrev TagHandles := List (String × String)

/-- The handles that need no directive. -/
def TagHandles.standard : TagHandles := [("!", "!"), ("!!", "tag:yaml.org,2002:")]

/-- The name of a tag, none if its handle is unknown. -/
def WrittenTag.name? (handles : TagHandles) (t : WrittenTag) : Option String :=
  if t.handle.isEmpty then some t.suffix
  else (handles.lookup t.handle).map fun lead => lead ++ t.suffix

/-- What stands in front of a node: the number of its anchor, and the name of its tag. -/
structure Properties where
  anchor? : Option Nat := none
  tag? : Option String := none

namespace Properties

/-- Reads what stands in front of a node. Anchor and tag come in either order. -/
def read? (handles : TagHandles) (s : TreeSource) : Option (Properties × TreeSource) :=
  match s.tokens with
  | .anchor name :: .tag t :: _ => do
    let (number, s) := s.define name
    return (⟨some number, some (← t.name? handles)⟩, s.next.next)
  | .tag t :: .anchor name :: _ => do
    let (number, s) := s.define name
    return (⟨some number, some (← t.name? handles)⟩, s.next.next)
  | .anchor name :: _ =>
    let (number, s) := s.define name
    some (⟨some number, none⟩, s.next)
  | .tag t :: _ => do return (⟨none, some (← t.name? handles)⟩, s.next)
  | _ => some ({}, s)

/-- The tag of a list, a table, or a node of which nothing else is written. -/
def tag (p : Properties) : Option Tag := p.tag?.map Tag.ofName

/-- The tag of a scalar. An exclamation mark alone means nothing. -/
def scalarTag (p : Properties) : Option Tag := (p.tag?.filter (· != "!")).map Tag.ofName

/-- A node with nothing behind its anchor and tag, of which it must have one. -/
def emptyNode? (p : Properties) : Option Tree :=
  if p.anchor?.isNone && p.tag?.isNone then none
  else some (.scalar p.anchor? { text := "", tag? := p.tag })

end Properties

mutual

/-- Reads a node. The fuel is three steps for each token. -/
def readNode (handles : TagHandles) :
    Nat → NodePlace → TreeSource → Option (Tree × TreeSource)
  | 0, _, _ => none
  | fuel + 1, place, s =>
    match s.tokens with
    | .reference name :: _ => do return (.reference (← s.numbers.lookup name), s.next)
    | _ => do
      let (p, s) ← Properties.read? handles s
      match s.tokens with
      | .scalar text style :: _ =>
        return (.scalar p.anchor? { text, style, tag? := p.scalarTag }, s.next)
      | .openList :: _ =>
        let (items, s) ← readBracketItems handles fuel true s.next
        return (.list p.anchor? p.tag items, s)
      | .openTable :: _ =>
        let (members, s) ← readBracketMembers handles fuel true s.next
        return (.table p.anchor? p.tag members, s)
      | t :: _ =>
        if t == .entry && place == .member then
          let (items, s) ← readEntries handles fuel true s
          return (.list p.anchor? p.tag items, s)
        else if t == .listStart && place != .flow then
          let (items, s) ← readEntries handles fuel false s.next
          return (.list p.anchor? p.tag items, s)
        else if t == .tableStart && place != .flow then
          let (members, s) ← readMembers handles fuel s.next
          return (.table p.anchor? p.tag members, s)
        else return (← p.emptyNode?, s)
      | [] => return (← p.emptyNode?, s)

/-- Reads a node, or nothing in front of some tokens. -/
def readNodeUnless (handles : TagHandles) :
    Nat → List Token → NodePlace → TreeSource → Option (Tree × TreeSource)
  | 0, _, _, _ => none
  | fuel + 1, ends, place, s =>
    if s.isAt ends then some (.empty, s) else readNode handles fuel place s

/-- Reads the value of a key, or nothing if there is no mark of one or it stands in front of some
tokens. -/
def readValue (handles : TagHandles) :
    Nat → List Token → NodePlace → TreeSource → Option (Tree × TreeSource)
  | 0, _, _, _ => none
  | fuel + 1, ends, place, s =>
    if s.isAt [.value] then readNodeUnless handles fuel ends place s.next else some (.empty, s)

/-- Reads the items of a list by indentation. The list may be indented no further than the table
around it; then the end of the table is also that of the list. -/
def readEntries (handles : TagHandles) :
    Nat → Bool → TreeSource → Option (List Tree × TreeSource)
  | 0, _, _ => none
  | fuel + 1, shared, s =>
    if s.isAt [.entry] then do
      let ends : List Token :=
        if shared then [.entry, .key, .value, .blockEnd] else [.entry, .blockEnd]
      let (item, s) ← readNodeUnless handles fuel ends .item s.next
      let (items, s) ← readEntries handles fuel shared s
      return (item :: items, s)
    else if shared then some ([], s)
    else (s.expect? .blockEnd).map ([], ·)

/-- Reads the members of a table by indentation. -/
def readMembers (handles : TagHandles) :
    Nat → TreeSource → Option (List (Tree × Tree) × TreeSource)
  | 0, _ => none
  | fuel + 1, s =>
    if s.isAt [.key] then do
      let ends : List Token := [.key, .value, .blockEnd]
      let (key, s) ← readNodeUnless handles fuel ends .member s.next
      let (value, s) ← readValue handles fuel ends .member s
      let (members, s) ← readMembers handles fuel s
      return ((key, value) :: members, s)
    else (s.expect? .blockEnd).map ([], ·)

/-- Reads the key behind its mark inside the brackets of a list. A key of which nothing is written
takes up the token behind it. -/
def readPairKey (handles : TagHandles) : Nat → TreeSource → Option (Tree × TreeSource)
  | 0, _ => none
  | fuel + 1, s =>
    if s.isAt [.value, .comma, .closeList] then some (.empty, s.next)
    else readNode handles fuel .flow s

/-- Reads an item of a list in brackets. A pair is a table of its own. -/
def readBracketItem (handles : TagHandles) : Nat → TreeSource → Option (Tree × TreeSource)
  | 0, _ => none
  | fuel + 1, s =>
    if s.isAt [.key] then do
      let (key, s) ← readPairKey handles fuel s.next
      let (value, s) ← readValue handles fuel [.comma, .closeList] .flow s
      return (.table none none [(key, value)], s)
    else readNode handles fuel .flow s

/-- Reads the items of a list in brackets, the first ones or others. -/
def readBracketItems (handles : TagHandles) :
    Nat → Bool → TreeSource → Option (List Tree × TreeSource)
  | 0, _, _ => none
  | fuel + 1, isFirst, s =>
    if s.isAt [.closeList] then some ([], s.next)
    else do
      let s ← if isFirst then some s else s.expect? .comma
      if s.isAt [.closeList] then return ([], s.next)
      let (item, s) ← readBracketItem handles fuel s
      let (items, s) ← readBracketItems handles fuel false s
      return (item :: items, s)

/-- Reads a member of a table in braces. A key without its mark has no value. -/
def readBracketMember (handles : TagHandles) :
    Nat → TreeSource → Option ((Tree × Tree) × TreeSource)
  | 0, _ => none
  | fuel + 1, s =>
    if s.isAt [.key] then do
      let (key, s) ← readNodeUnless handles fuel [.value, .comma, .closeTable] .flow s.next
      let (value, s) ← readValue handles fuel [.comma, .closeTable] .flow s
      return ((key, value), s)
    else do
      let (key, s) ← readNode handles fuel .flow s
      return ((key, .empty), s)

/-- Reads the members of a table in braces, the first ones or others. -/
def readBracketMembers (handles : TagHandles) :
    Nat → Bool → TreeSource → Option (List (Tree × Tree) × TreeSource)
  | 0, _, _ => none
  | fuel + 1, isFirst, s =>
    if s.isAt [.closeTable] then some ([], s.next)
    else do
      let s ← if isFirst then some s else s.expect? .comma
      if s.isAt [.closeTable] then return ([], s.next)
      let (member, s) ← readBracketMember handles fuel s
      let (members, s) ← readBracketMembers handles fuel false s
      return (member :: members, s)

end

/-- Reads the lines in front of a document. There may be one version, 1.1 or 1.2, and one line for
each handle. -/
def readDirectives : Bool → TagHandles → List Token → Option (TagHandles × List Token)
  | hasVersion, handles, .directive (.version major minor) :: rest =>
    if hasVersion || major != 1 || !(minor == 1 || minor == 2) then none
    else readDirectives true handles rest
  | hasVersion, handles, .directive (.handle handle lead) :: rest =>
    if (handles.lookup handle).isSome then none
    else readDirectives hasVersion ((handle, lead) :: handles) rest
  | _, handles, rest => some (handles ++ .standard, rest)

/-- Reads a node that is a whole document. -/
def readRoot (handles : TagHandles) (ts : List Token) : Option (Tree × List Token) :=
  (readNode handles (3 * ts.length + 3) .item { tokens := ts }).map fun (t, s) => (t, s.tokens)

/-- Reads a document behind its directives and its mark. -/
def readContent (handles : TagHandles) (ts : List Token) : Option (Tree × List Token) :=
  let isOver := match ts.head? with
    | none | some (.directive _) | some (.documentMark _) => true
    | _ => false
  if isOver then some (.empty, ts) else readRoot handles ts

/-- The only document of some tokens, empty if there are none. Lines in front of a document are
there only if its mark is. -/
def Tree.ofTokens? (ts : List Token) : Option Tree := do
  let (tree, rest) ←
    match ts with
    | .directive _ :: _ | .documentMark .start :: _ => do
      let (handles, rest) ← readDirectives false [] ts
      match rest with
      | .documentMark .start :: rest => readContent handles rest
      | _ => none
    | [] => pure (.empty, [])
    | ts => readRoot .standard ts
  if (rest.dropWhile (· == .documentMark .ending)).isEmpty then return tree else none

end Tabular.Yaml
