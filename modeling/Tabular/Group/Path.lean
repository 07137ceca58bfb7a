import Tabular.Order.Reading
import Tabular.SortedMap
import Tabular.Text.Split
/-!
# Groups and their paths

A group is formed around the label of a value, or around the absence of one. The label comes from
the reading that sorting uses: the day of a date, the instant of a datetime, the plain form of a
number or flag, and otherwise the text. In a collection the commas and backslashes of items are
escaped, so that different collections have different labels.

A path leads from an outermost group to a group inside it. Paths compare as lists: a group value
that contains the separator of the shown form never meets a longer path.
-/

namespace Tabular

/-- What a group is formed around. -/
inductive GroupValue where
  | text (s : String)
  /-- The group of missing and blank values. -/
  | empty
deriving DecidableEq, Repr

namespace GroupValue

/-- The label of the group of missing and blank values. -/
def emptyLabel : String := "(empty)"

/-- Puts a backslash before every comma and backslash of an item. -/
def escapeItem : List Char → List Char
  | [] => []
  | c :: rest =>
    if c == ',' || c == '\\' then '\\' :: c :: escapeItem rest else c :: escapeItem rest

/-- The label of a group of instants: the date in the domain of dates, otherwise date and time. -/
def timeLabel (t : Instant) (domain : Domain) : String :=
  if domain = .date ∧ t.inCalendar then t.dateText else t.stamp

/-- The label of a reading, none for a blank one. -/
def labelOf? (domain : Domain) : Reading String → Option String
  | .number x => some x.display
  | .time millis => some (timeLabel (.ofMillis millis) domain)
  | .flag b => some (Value.flagText b)
  | .text s | .unreadable s => some s
  | .collection items =>
    some (Text.join ", " (items.map fun s => String.ofList (escapeItem s.toList)))
  | .blank => none

/-- The group of a value of a domain. -/
def of (v : Value) (domain : Domain) : GroupValue :=
  match labelOf? domain (Reading.of v domain) with
  | some s => text s
  | none => empty

/-- The shown form. -/
def label : GroupValue → String
  | text s => s
  | empty => emptyLabel

/-- The text of a group, none for the group of blank values. -/
def toOption : GroupValue → Option String
  | text s => some s
  | empty => none

/-- The group of an optional text. -/
def ofOption : Option String → GroupValue
  | some s => text s
  | none => empty

theorem ofOption_toOption (g : GroupValue) : ofOption g.toOption = g := by
  cases g <;> rfl

/-- Texts in their order, and the group of blank values last. -/
instance : Ord GroupValue where
  compare
    | text a, text b => compare a b
    | text _, empty => .lt
    | empty, text _ => .gt
    | empty, empty => .eq

instance : Std.TransOrd GroupValue where
  eq_swap {a b} := by
    cases a <;> cases b <;> try rfl
    exact @Std.OrientedCmp.eq_swap String compare _ _ _
  isLE_trans {a b c} hab hbc :=
    match a, b, c, hab, hbc with
    | text _, text _, text _, hab, hbc =>
      @Std.TransCmp.isLE_trans String compare _ _ _ _ hab hbc
    | text _, _, empty, _, _ | empty, empty, empty, _, _ => rfl
    | text _, empty, text _, _, hbc | empty, empty, text _, _, hbc => nomatch (hbc : false = true)
    | empty, text _, _, hab, _ => nomatch (hab : false = true)

instance : Std.LawfulEqOrd GroupValue where
  compare_self {a} := by
    cases a
    · exact @Std.ReflCmp.compare_self String compare _ _
    · rfl
  eq_of_compare {a b} h :=
    match a, b, h with
    | text _, text _, h => congrArg _ (@Std.LawfulEqCmp.eq_of_compare String compare _ _ _ h)
    | text _, empty, h => nomatch (h : Ordering.lt = .eq)
    | empty, text _, h => nomatch (h : Ordering.gt = .eq)
    | empty, empty, _ => rfl

end GroupValue

/-- The group values from an outermost group down to a group inside it. -/
structure GroupPath where
  values : List GroupValue
deriving DecidableEq, Repr

namespace GroupPath

/-- What stands between the group values of a shown path. -/
def separator : String := " / "

/-- Paths compare as lists of group values. -/
instance : Ord GroupPath := ⟨fun a b => compare a.values b.values⟩

instance : Std.TransOrd GroupPath where
  eq_swap {_ _} := @Std.OrientedCmp.eq_swap (List GroupValue) compare _ _ _
  isLE_trans {_ _ _} hab hbc := @Std.TransCmp.isLE_trans (List GroupValue) compare _ _ _ _ hab hbc

instance : Std.LawfulEqOrd GroupPath where
  compare_self {_} := @Std.ReflCmp.compare_self (List GroupValue) compare _ _
  eq_of_compare {a b} h := by
    cases a; cases b
    exact congrArg _ (@Std.LawfulEqCmp.eq_of_compare (List GroupValue) compare _ _ _ h)

/-- The path one level below. -/
def child (p : GroupPath) (g : GroupValue) : GroupPath := ⟨p.values ++ [g]⟩

/-- The path one level above, none for an outermost group. -/
def parent? (p : GroupPath) : Option GroupPath :=
  if p.values.length ≤ 1 then none else some ⟨p.values.dropLast⟩

/-- The number of levels. -/
def depth (p : GroupPath) : Nat := p.values.length

/-- The innermost group value. -/
def last? (p : GroupPath) : Option GroupValue := p.values.getLast?

/-- Whether a path is the other one or leads to it. -/
def isPrefixOf (p q : GroupPath) : Bool := p.values.isPrefixOf q.values

/-- The shown form: the labels with the separator between them. -/
def text (p : GroupPath) : String := Text.join separator (p.values.map GroupValue.label)

/-- The group value that a part of a shown path names, white space around it aside. -/
def valueOfPart (part : String) : GroupValue :=
  let s := Text.trim part
  if s = GroupValue.emptyLabel then .empty else .text s

/-- The path of a shown form. -/
def ofText (s : String) : GroupPath := ⟨(Text.split separator s).map valueOfPart⟩

end GroupPath

/-- The groups that are folded away. Any other group is open. -/
structure CollapsedSet where
  map : SortedMap GroupPath Unit := .empty
deriving DecidableEq

namespace CollapsedSet

/-- The folded paths in their order. -/
def paths (s : CollapsedSet) : List GroupPath := s.map.keys

/-- Whether a path is folded. -/
def contains (s : CollapsedSet) (p : GroupPath) : Bool := s.map.contains p

/-- Folds a path. -/
def collapse (s : CollapsedSet) (p : GroupPath) : CollapsedSet := ⟨s.map.insert p ()⟩

/-- Opens a path. -/
def expand (s : CollapsedSet) (p : GroupPath) : CollapsedSet := ⟨s.map.erase p⟩

/-- Opens a folded path and folds an open one. -/
def toggle (s : CollapsedSet) (p : GroupPath) : CollapsedSet :=
  if s.contains p then s.expand p else s.collapse p

/-- The set of the paths of a list. -/
def ofList (paths : List GroupPath) : CollapsedSet := ⟨.ofList (paths.map fun p => (p, ()))⟩

/-- A set is the set of its own paths. -/
theorem ofList_paths (s : CollapsedSet) : ofList s.paths = s := by
  cases s with
  | mk map =>
    have hlist : map.keys.map (fun p => (p, ())) = map.entries := by
      rw [SortedMap.keys, List.map_map]
      exact List.map_id map.entries
    rw [ofList, paths, hlist, SortedMap.ofList_entries]

end CollapsedSet

end Tabular
