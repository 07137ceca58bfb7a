import Tabular.Text.Split
/-!
# Data domains

The domain of a field says how its values are compared, filtered and shown. Currency compares as
number and datetime as date; they are shown differently.
-/

namespace Tabular

/-- The data domain of a field. -/
inductive Domain where
  | string | number | currency | date | datetime | collection | boolean
deriving DecidableEq, Repr, Inhabited

namespace Domain

/-- Every domain, in the order in which they are listed. -/
def all : List Domain := [string, number, currency, date, datetime, collection, boolean]

/-- The domain whose rules of comparison a domain follows. -/
def comparisonClass : Domain → Domain
  | currency => number
  | datetime => date
  | d => d

/-- Number and currency. -/
def isNumeric (d : Domain) : Bool := d.comparisonClass == number

/-- Date and datetime. -/
def isTemporal (d : Domain) : Bool := d.comparisonClass == date

/-- The written name. -/
def name : Domain → String
  | string => "string"
  | number => "number"
  | currency => "currency"
  | date => "date"
  | datetime => "datetime"
  | collection => "collection"
  | boolean => "boolean"

/-- The domain of a name in a document, where `dateTime` is also written. -/
def ofName? (s : String) : Option Domain :=
  if s == "dateTime" then some datetime else all.find? fun d => d.name == s

/-- The domain that a person's spelling means: any ASCII case, and a few other words. -/
def ofWord (s : String) : Except String Domain :=
  match Text.asciiLower s with
  | "string" | "text" => .ok string
  | "number" | "numeric" => .ok number
  | "currency" => .ok currency
  | "date" => .ok date
  | "datetime" => .ok datetime
  | "collection" | "tags" => .ok collection
  | "boolean" | "bool" => .ok boolean
  | other => .error s!"unknown data domain '{other}'"

end Domain

end Tabular
