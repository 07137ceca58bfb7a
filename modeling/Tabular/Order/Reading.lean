import Tabular.Domain
import Tabular.Value
/-!
# Readings

What a value amounts to in a domain. Sorting and grouping both start from the reading of a value, so
that what sorts as equal is grouped together. A value is read in its domain when it can be, is
unreadable when it is there but cannot be, and is blank otherwise; readable values come before
unreadable ones and these before blank ones (`Reading.rank`).

Readings hold texts without the white space around them. They are generic in the form of these
texts, since sorting looks at more than the text itself.
-/

namespace Tabular

/-- A value as it is read in a domain, with texts in the form `τ`. -/
inductive Reading (τ : Type) where
  | number (x : Binary64)
  | time (millis : Int)
  | flag (b : Bool)
  | text (s : τ)
  | collection (items : List τ)
  /-- Present, but not readable in the domain. -/
  | unreadable (s : τ)
  | blank
deriving DecidableEq

namespace Reading

/-- The place of a kind of reading among the others. -/
def rank {τ : Type} : Reading τ → Nat
  | unreadable _ => 1
  | blank => 2
  | _ => 0

/-- The reading with its texts in another form. -/
def map {τ σ : Type} (f : τ → σ) : Reading τ → Reading σ
  | number x => number x
  | time millis => time millis
  | flag b => flag b
  | text s => text (f s)
  | collection items => collection (items.map f)
  | unreadable s => unreadable (f s)
  | blank => blank

/-- The reading of a value in a domain, none when it cannot be read there. -/
def ofReadable? (v : Value) (domain : Domain) : Option (Reading String) :=
  match domain.comparisonClass with
  | .number => v.asNumber?.map fun x => number x.foldZero
  | .date => v.asInstant?.map fun t => time t.toInt
  | .boolean => v.asFlag?.map flag
  | .collection =>
    some <| collection <| match v.asCollection? with
      | some items => items.map Text.trim
      | none => [Text.trim v.shown]
  | _ => some (text (Text.trim v.shown))

/-- The reading of a value in a domain. -/
def of (v : Value) (domain : Domain) : Reading String :=
  if v.isBlank then blank
  else (ofReadable? v domain).getD (unreadable (Text.trim v.shown))

theorem rank_map {τ σ : Type} (f : τ → σ) (r : Reading τ) : (r.map f).rank = r.rank := by
  cases r <;> rfl

theorem of_eq_blank_iff {v : Value} {domain : Domain} :
    of v domain = blank ↔ v.isBlank = true := by
  unfold of
  by_cases h : v.isBlank <;> simp only [h, if_true, if_false, iff_false, Bool.false_eq_true]
  cases hr : ofReadable? v domain with
  | none => simp
  | some r =>
    simp only [Option.getD_some]
    rintro rfl
    unfold ofReadable? at hr
    cases domain <;> simp [Domain.comparisonClass] at hr

end Reading

end Tabular
