import Tabular.Declaration.Content
import Mathlib.Tactic.SplitIfs
/-!
# The values of members

What value a member has in a field is told here by the domain and the type together
(`Domain.Shows`): a text is a text, an integer is the number that it is or, in a domain of time, the
instant of so many milliseconds, and the items of a collection are the texts of the items one by
one. These are exactly the conversions that there are (`Domain.shows_iff`), and the value is always
of the kind that belongs to the domain (`Domain.Shows.kind?_eq`).
-/

namespace Tabular

/-- In a field of the domain, the content of a member of the type is shown as the value. -/
inductive Domain.Shows : Domain → (t : MemberType) → t.Content → Value → Prop
  | text (s : String) : Shows .string .text s (.text s)
  | signed {d : Domain} {bits : Nat} {n : BitVec bits} {k : Int64} (hd : d.isNumeric = true)
      (hbits : bits ≤ 64) (hn : k.toInt = n.toInt) : Shows d (.signed bits) n (.number (.signed k))
  | unsigned {d : Domain} {bits : Nat} {n : BitVec bits} {k : UInt64} (hd : d.isNumeric = true)
      (hbits : bits ≤ 64) (hn : k.toNat = n.toNat) :
      Shows d (.unsigned bits) n (.number (.unsigned k))
  | real {d : Domain} (x : Binary64) (hd : d.isNumeric = true) : Shows d .real x (.number (.real x))
  | millis {d : Domain} {n : BitVec 64} {t : Instant} (hd : d.isTemporal = true)
      (hn : t.toInt = n.toInt) : Shows d (.signed 64) n (.instant t)
  | timed {d : Domain} {γ : Type} (toInstant : γ → Instant) (c : γ) (hd : d.isTemporal = true) :
      Shows d (.timed γ toInstant) c (.instant (toInstant c))
  | items {ι : Type} (itemText : ι → String) (c : List ι) :
      Shows .collection (.items ι itemText) c (.collection (c.map itemText))
  | flag (b : Bool) : Shows .boolean .flag b (.flag b)

namespace MemberType

/-- Integers of up to 64 bits are widened without loss. -/
theorem toInt_ofInt_toInt {bits : Nat} (hbits : bits ≤ 64) (n : BitVec bits) :
    (Int64.ofInt n.toInt).toInt = n.toInt := by
  have hpow : (2 ^ bits : Int) ≤ 2 ^ 64 := by exact_mod_cast Nat.pow_le_pow_right (by decide) hbits
  have hlow := BitVec.le_two_mul_toInt (x := n)
  have hhigh := BitVec.two_mul_toInt_lt (x := n)
  exact Int64.toInt_ofInt_of_le (by omega) (by omega)

theorem toNat_ofNat_toNat {bits : Nat} (hbits : bits ≤ 64) (n : BitVec bits) :
    (UInt64.ofNat n.toNat).toNat = n.toNat :=
  UInt64.toNat_ofNat_of_lt' (Nat.lt_of_lt_of_le n.isLt (Nat.pow_le_pow_right (by decide) hbits))

end MemberType

namespace Domain

variable {d : Domain} {t : MemberType} {c : t.Content} {v : Value}

theorem conversion?_of_isNumeric (hd : d.isNumeric = true) :
    d.conversion? t = t.asNumber?.map fun read c => .number (read c) := by
  cases d <;> first | rfl | cases hd

theorem conversion?_of_isTemporal (hd : d.isTemporal = true) :
    d.conversion? t = t.asInstant?.map fun read c => .instant (read c) := by
  cases d <;> first | rfl | cases hd

theorem valueKind_of_isNumeric (hd : d.isNumeric = true) : d.valueKind = .number := by
  cases d <;> first | rfl | cases hd

theorem valueKind_of_isTemporal (hd : d.isTemporal = true) : d.valueKind = .instant := by
  cases d <;> first | rfl | cases hd

/-- The value is of the kind that belongs to the domain. -/
theorem Shows.kind?_eq (h : d.Shows t c v) : v.kind? = some d.valueKind := by
  cases h with
  | text | items | flag => rfl
  | signed hd | unsigned hd | real _ hd => rw [valueKind_of_isNumeric hd]; rfl
  | millis hd | timed _ _ hd => rw [valueKind_of_isTemporal hd]; rfl

theorem shows_number {read : t.Content → Number} (hd : d.isNumeric = true)
    (h : t.asNumber? = some read) : d.Shows t c (.number (read c)) := by
  cases t with
  | signed bits =>
    obtain ⟨hbits, ⟨⟩⟩ := Option.ite_none_right_eq_some.mp h
    exact .signed hd hbits (MemberType.toInt_ofInt_toInt hbits c)
  | unsigned bits =>
    obtain ⟨hbits, ⟨⟩⟩ := Option.ite_none_right_eq_some.mp h
    exact .unsigned hd hbits (MemberType.toNat_ofNat_toNat hbits c)
  | real =>
    cases h
    exact .real c hd
  | _ => cases h

theorem shows_instant {read : t.Content → Instant} (hd : d.isTemporal = true)
    (h : t.asInstant? = some read) : d.Shows t c (.instant (read c)) := by
  unfold MemberType.asInstant? at h
  split at h <;> cases h
  · exact .millis hd rfl
  · exact .timed _ c hd

/-- **The conversions are those that show what a member holds.** -/
theorem shows_iff : d.Shows t c v ↔ ∃ convert, d.conversion? t = some convert ∧ convert c = v := by
  constructor
  · intro h
    cases h with
    | text | items | flag => exact ⟨_, rfl, rfl⟩
    | @signed _ bits n k hd hbits hn =>
      have hk : Int64.ofInt n.toInt = k :=
        Int64.toInt_inj.mp ((MemberType.toInt_ofInt_toInt hbits n).trans hn.symm)
      rw [conversion?_of_isNumeric hd, MemberType.asNumber?, if_pos hbits]
      exact ⟨_, rfl, congrArg (Value.number ∘ .signed) hk⟩
    | @unsigned _ bits n k hd hbits hn =>
      have hk : UInt64.ofNat n.toNat = k :=
        UInt64.toNat_inj.mp ((MemberType.toNat_ofNat_toNat hbits n).trans hn.symm)
      rw [conversion?_of_isNumeric hd, MemberType.asNumber?, if_pos hbits]
      exact ⟨_, rfl, congrArg (Value.number ∘ .unsigned) hk⟩
    | real x hd => exact ⟨_, conversion?_of_isNumeric hd, rfl⟩
    | @millis _ n t hd hn =>
      have ht : Int64.ofBitVec n = t.millis := Int64.toInt_inj.mp hn.symm
      exact ⟨_, conversion?_of_isTemporal hd, congrArg (Value.instant ∘ Instant.mk) ht⟩
    | timed toInstant c hd => exact ⟨_, conversion?_of_isTemporal hd, rfl⟩
  · rintro ⟨convert, h, rfl⟩
    cases d with
    | string =>
      obtain ⟨read, hread, rfl⟩ := Option.map_eq_some_iff.mp h
      cases t <;> cases hread
      exact .text c
    | number | currency =>
      obtain ⟨read, hread, rfl⟩ := Option.map_eq_some_iff.mp h
      exact shows_number rfl hread
    | date | datetime =>
      obtain ⟨read, hread, rfl⟩ := Option.map_eq_some_iff.mp h
      exact shows_instant rfl hread
    | collection =>
      obtain ⟨read, hread, rfl⟩ := Option.map_eq_some_iff.mp h
      cases t <;> cases hread
      exact .items _ c
    | boolean =>
      obtain ⟨read, hread, rfl⟩ := Option.map_eq_some_iff.mp h
      cases t <;> cases hread
      exact .flag c

end Domain

end Tabular
