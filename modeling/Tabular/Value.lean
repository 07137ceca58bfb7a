import Tabular.Number
import Tabular.Instant.Text
import Tabular.Text.Split
/-!
# Cell values

The value of one field of one record. Values are loosely typed: a date is often a text and a price
may be a quoted number. The readings below interpret a value as a number, an instant or a flag when
that is possible, and are what filters, orders and groups are defined with.
-/

namespace Tabular

/-- The value of a field of a record. -/
inductive Value where
  | text (s : String)
  | number (n : Number)
  | instant (t : Instant)
  | flag (b : Bool)
  /-- A cell that holds several texts. -/
  | collection (items : List String)
  /-- Absent, null or of a form that cells do not have. -/
  | missing
deriving DecidableEq

open Text

/-- The currency symbols that may stand in front of a number. -/
def currencySymbols : List Char := ['$', '€', '£', '¥']

/-- Reads a number, white space around it aside. When the text is not a number as it stands, leading
currency symbols, commas and underscores are dropped. -/
def readNumber? (s : String) : Option Binary64 :=
  let cs := trimList s.toList
  if cs.isEmpty then none
  else
    match Binary64.ofText? (String.ofList cs) with
    | some x => some x
    | none =>
      let bare := (cs.dropWhile (currencySymbols.contains ·)).filter fun c => c != ',' && c != '_'
      Binary64.ofText? (String.ofList (trimList bare))

/-- Reads a flag: `true`, `yes`, `1` or `false`, `no`, `0`, in any ASCII case. -/
def readFlag? (s : String) : Option Bool :=
  let word := asciiLower (trim s)
  if word == "true" || word == "yes" || word == "1" then some true
  else if word == "false" || word == "no" || word == "0" then some false
  else none

namespace Value

/-- Missing values, blank texts and empty collections. -/
def isBlank : Value → Bool
  | missing => true
  | text s => Text.isBlank s
  | collection items => items.isEmpty
  | _ => false

/-- The value as a double that is a number. -/
def asNumber? (v : Value) : Option Binary64 :=
  let read := match v with
    | number n => some n.toBinary64
    | text s => readNumber? s
    | _ => none
  read.filter fun x => !x.isNaN

/-- The value as an instant with a date. Integers count milliseconds. -/
def asInstant? (v : Value) : Option Instant :=
  let read := match v with
    | instant t => some t
    | text s => Instant.ofText? s
    | number (.signed n) => some ⟨n⟩
    | number (.unsigned n) =>
      if n.toNat < 0x8000000000000000 then some ⟨Int64.ofNat n.toNat⟩ else none
    | _ => none
  read.filter fun t => t.inCalendar

/-- The value as a flag. The numbers one and zero are flags. -/
def asFlag? : Value → Option Bool
  | flag b => some b
  | text s => readFlag? s
  | number n =>
    let x := n.toBinary64
    if x.same (Binary64.ofInt 1) then some true
    else if x.same (Binary64.zero false) then some false
    else none
  | _ => none

/-- The text of a text value. -/
def asText? : Value → Option String
  | text s => some s
  | _ => none

/-- The items of a collection. -/
def asCollection? : Value → Option (List String)
  | collection items => some items
  | _ => none

/-- The text of a flag. -/
def flagText (b : Bool) : String := if b then "true" else "false"

/-- The shown form of a value. The items of a collection are separated by a comma and a space. -/
def shown : Value → String
  | text s => s
  | number n => n.text
  | instant t => t.text
  | flag b => flagText b
  | collection items => join ", " items
  | missing => ""

theorem isBlank_number (n : Number) : (number n).isBlank = false := rfl

/-- What is read as a number is one. -/
theorem isNaN_of_asNumber? {v : Value} {x : Binary64} (h : v.asNumber? = some x) :
    x.isNaN = false := by
  unfold asNumber? at h
  have := (Option.filter_eq_some_iff.mp h).2
  simpa using this

/-- What is read as an instant has a date. -/
theorem inCalendar_of_asInstant? {v : Value} {t : Instant} (h : v.asInstant? = some t) :
    t.inCalendar = true := by
  unfold asInstant? at h
  exact (Option.filter_eq_some_iff.mp h).2

end Value

end Tabular
