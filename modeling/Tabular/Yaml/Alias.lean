import Tabular.Document.Node
import Tabular.Yaml.Tree
/-!
# Aliases

A tree as a `Node`, in which aliases have given way to what they refer to. A node that contains an
alias of its own has no end; what would stand for that alias can be passed over, but not read.

Values that stand for aliases are shared. What a reader sees of them can be far larger than the
document, so the aliases that it would meet on its way are counted.
-/

namespace Tabular.Yaml

/-- A value without aliases, and the number of those that a reader of all of it meets. -/
structure Resolved where
  node : Node
  aliases : Nat

namespace Resolved

/-- What stands for an alias that cannot be read. -/
def endless : Resolved := ⟨.badWord .malformed none, 0⟩

end Resolved

/-- The values of the numbers of anchors. -/
abbrev AnchorValues := List (Nat × Resolved)

namespace Tree

mutual

/-- The number of the marks that a tree is written with: two for a list or a table, one for all
else. -/
def size : Tree → Nat
  | reference _ | scalar _ _ => 1
  | list _ _ items => 2 + sizeOfItems items
  | table _ _ members => 2 + sizeOfMembers members

/-- The size of the items of a list. -/
def sizeOfItems : List Tree → Nat
  | [] => 0
  | t :: rest => t.size + sizeOfItems rest

/-- The size of the members of a table. -/
def sizeOfMembers : List (Tree × Tree) → Nat
  | [] => 0
  | (k, t) :: rest => k.size + t.size + sizeOfMembers rest

end

/-- The number of the anchor of a tree. -/
def anchor? : Tree → Option Nat
  | reference _ => none
  | scalar anchor? _ | list anchor? _ _ | table anchor? _ _ => anchor?

mutual

/-- Adds the nodes of a tree that have anchors to others, with the last of the tree first. -/
def anchored (found : List (Nat × Tree)) (t : Tree) : List (Nat × Tree) :=
  let found := match t.anchor? with
    | some number => (number, t) :: found
    | none => found
  match t with
  | reference _ | scalar _ _ => found
  | list _ _ items => anchoredItems found items
  | table _ _ members => anchoredMembers found members

/-- Adds the nodes of the items of a list that have anchors to others. -/
def anchoredItems (found : List (Nat × Tree)) : List Tree → List (Nat × Tree)
  | [] => found
  | t :: rest => anchoredItems (t.anchored found) rest

/-- Adds the nodes of the members of a table that have anchors to others. -/
def anchoredMembers (found : List (Nat × Tree)) : List (Tree × Tree) → List (Nat × Tree)
  | [] => found
  | (k, t) :: rest => anchoredMembers (t.anchored (k.anchored found)) rest

end

mutual

/-- A tree with the values of its anchors in place of aliases. -/
def resolve (values : AnchorValues) : Tree → Resolved
  | reference number =>
    let r := (values.lookup number).getD .endless
    ⟨r.node, r.aliases + 1⟩
  | scalar _ s => ⟨.scalar s, 0⟩
  | list _ tag? items =>
    let (nodes, aliases) := resolveItems values items
    ⟨.sequence tag? nodes, aliases⟩
  | table _ tag? members =>
    let (nodes, aliases) := resolveMembers values members
    ⟨.mapping tag? nodes, aliases⟩

/-- The items of a list without aliases. -/
def resolveItems (values : AnchorValues) : List Tree → List Node × Nat
  | [] => ([], 0)
  | t :: rest =>
    let r := t.resolve values
    let (nodes, aliases) := resolveItems values rest
    (r.node :: nodes, r.aliases + aliases)

/-- The members of a table without aliases. -/
def resolveMembers (values : AnchorValues) : List (Tree × Tree) → List (NodeKey × Node) × Nat
  | [] => ([], 0)
  | (k, t) :: rest =>
    let key := k.resolve values
    let r := t.resolve values
    let (nodes, aliases) := resolveMembers values rest
    ((key.node.toKey, r.node) :: nodes, key.aliases + r.aliases + aliases)

end

/-- The values of the anchors among some nodes, with aliases followed through no more than a number
of levels. -/
def anchorValues (nodes : List (Nat × Tree)) : Nat → AnchorValues
  | 0 => nodes.map fun (number, _) => (number, .endless)
  | levels + 1 =>
    let values := anchorValues nodes levels
    nodes.map fun (number, t) => (number, t.resolve values)

end Tree

/-- A document that is read. -/
structure Document where
  root : Node
  /-- Whether its aliases make it too large to be read as a whole. -/
  isExcessive : Bool

namespace Document

/-- The number of aliases for each mark of a document that a reader may meet. -/
def maxAliases : Nat := 100

/-- The number of levels through which aliases are followed. No reader goes further. -/
def maxLevels : Nat := 130

/-- The document of a tree. -/
def ofTree (t : Tree) : Document :=
  let nodes := t.anchored []
  let r := t.resolve (Tree.anchorValues nodes (min nodes.length maxLevels))
  { root := r.node, isExcessive := maxAliases * t.size < r.aliases }

end Document

end Tabular.Yaml
