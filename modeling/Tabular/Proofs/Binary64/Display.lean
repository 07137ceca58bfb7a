import Tabular.Binary64.Text
import Tabular.Proofs.Binary64.Shortest
import Tabular.Proofs.Text.Digits
/-!
# The text of a double tells the double

Positional notation spells the decimal that it is made from (`textValue_positional`). The text of a
finite double is therefore that of a decimal which rounds to it (`roundsFrom_textValue`), and a
decimal rounds to one magnitude only. A sign stands in front of negative doubles and of no other, and
infinity is written with letters. So doubles that are numbers are told apart by their texts
(`eq_of_display_eq`).
-/

namespace Tabular.Binary64

open Text

variable {x y : Binary64}

/-! ## What positional notation spells -/

/-- The rational that a numeral spells. -/
def textValue (cs : List Char) : ℚ := natOfDigits (numeralDigits cs) / 10 ^ numeralPlaces cs

/-- **Positional notation spells its decimal.** -/
theorem textValue_positional (d : Decimal) :
    textValue (positional d.digitText d.exponent) = d.value := by
  have hdigits : ∀ c ∈ d.digitText, isAsciiDigit c = true := fun c => isAsciiDigit_of_mem_toDigits
  have hzeros (n : ℕ) : ∀ c ∈ zeros n, isAsciiDigit c = true := fun c =>
    isAsciiDigit_of_mem_replicate
  have hnat : natOfDigits d.digitText = d.digits := natOfDigits_toDigits d.digits
  rw [positional, Decimal.value]
  simp only
  split
  case isTrue hexp =>
    have hall : ∀ c ∈ d.digitText ++ zeros d.exponent.toNat, isAsciiDigit c = true :=
      fun c hc => (List.mem_append.mp hc).elim (hdigits c) (hzeros _ c)
    obtain ⟨n, hn⟩ := Int.eq_ofNat_of_zero_le hexp
    rw [textValue, numeralDigits_whole hall, numeralPlaces_whole hall, zeros,
      natOfDigits_append_replicate, hnat, hn]
    simp
  case isFalse hexp =>
    obtain ⟨n, hn⟩ : ∃ n : ℕ, d.exponent = -n := ⟨(-d.exponent).toNat, by omega⟩
    have hplaces : (-d.exponent).toNat = n := by omega
    rw [hplaces, hn, zpow_neg, zpow_natCast, ← div_eq_mul_inv]
    split
    case isTrue hlt =>
      have htake : ∀ c ∈ d.digitText.take (d.digitText.length - n), isAsciiDigit c = true :=
        fun c hc => hdigits c (List.mem_of_mem_take hc)
      have hdrop : ∀ c ∈ d.digitText.drop (d.digitText.length - n), isAsciiDigit c = true :=
        fun c hc => hdigits c (List.mem_of_mem_drop hc)
      rw [textValue, numeralDigits_point htake hdrop, numeralPlaces_point htake,
        List.take_append_drop, hnat, List.length_drop]
      congr 2
      omega
    case isFalse hle =>
      have hzero : ∀ c ∈ ['0'], isAsciiDigit c = true := List.forall_mem_singleton.mpr rfl
      have hrest : ∀ c ∈ zeros (n - d.digitText.length) ++ d.digitText, isAsciiDigit c = true :=
        fun c hc => (List.mem_append.mp hc).elim (hzeros _ c) (hdigits c)
      have hvalue : natOfDigits (['0'] ++ (zeros (n - d.digitText.length) ++ d.digitText)) =
          d.digits :=
        (natOfDigits_replicate_append _ _).trans hnat
      change textValue (['0'] ++ '.' :: (zeros (n - d.digitText.length) ++ d.digitText)) = _
      rw [textValue, numeralDigits_point hzero hrest, numeralPlaces_point hzero, hvalue,
        List.length_append, zeros, List.length_replicate]
      congr 2
      omega

/-- Positional notation consists of digits and a point. -/
theorem mem_positional {d : Decimal} {c : Char} (h : c ∈ positional d.digitText d.exponent) :
    c = '.' ∨ isAsciiDigit c = true := by
  have hdigit : c ∈ d.digitText → c = '.' ∨ isAsciiDigit c = true :=
    fun hc => .inr (isAsciiDigit_of_mem_toDigits hc)
  have hzero {n : ℕ} : c ∈ zeros n → c = '.' ∨ isAsciiDigit c = true :=
    fun hc => .inr (isAsciiDigit_of_mem_replicate hc)
  unfold positional at h
  simp only at h
  split at h
  · exact (List.mem_append.mp h).elim hdigit hzero
  · split at h
    · rcases List.mem_append.mp h with h | h
      · exact hdigit (List.mem_of_mem_take h)
      · exact (List.mem_cons.mp h).elim .inl fun h => hdigit (List.mem_of_mem_drop h)
    · rcases List.mem_append.mp h with h | h
      · rcases List.mem_cons.mp h with rfl | h
        · exact .inr (by decide)
        · exact (List.mem_cons.mp h).elim .inl hzero
      · exact hdigit h

/-! ## The text of a double -/

/-- The text of the absolute value of a double. -/
def unsignedText (x : Binary64) : List Char :=
  if x.isInfinite then ['i', 'n', 'f']
  else if x.magnitude = 0 then ['0']
  else positional (shortest .up x).digitText (shortest .up x).exponent

theorem toList_display (h : x.isNaN = false) : x.display.toList = x.signText ++ x.unsignedText := by
  rw [display, h]
  exact String.toList_ofList

theorem isInfinite_of_isFinite (h : x.isFinite = true) : x.isInfinite = false := by
  have hlt : x.magnitude < infinityCode := of_decide_eq_true h
  exact beq_eq_false_iff_ne.mpr hlt.ne

theorem unsignedText_of_isFinite (h : x.isFinite = true) :
    x.unsignedText = if x.magnitude = 0 then ['0'] else
      positional (shortest .up x).digitText (shortest .up x).exponent := by
  rw [unsignedText, isInfinite_of_isFinite h]
  rfl

/-- **The text of a finite double spells a rational that rounds to it.** -/
theorem roundsFrom_textValue (h : x.isFinite = true) : x.RoundsFrom (textValue x.unsignedText) := by
  rw [unsignedText_of_isFinite h]
  split
  case isTrue hzero =>
    have hsig : x.significand = 0 := by
      rw [significand_eq, hzero]
      decide
    have hvalue : textValue ['0'] = 0 := by
      rw [textValue, show natOfDigits (numeralDigits ['0']) = 0 by decide]
      simp
    rw [RoundsFrom, hsig, hvalue, lowEnd, highEnd, scaledLow_eq, ← significand_eq, hsig, hzero]
    refine ⟨?_, ?_⟩
    · simp
    · positivity
  case isFalse hne =>
    rw [textValue_positional]
    exact (roundsFrom_shortest .up h hne).1

/-- The text of a finite double consists of digits and a point. -/
theorem mem_unsignedText (h : x.isFinite = true) {c : Char} (hc : c ∈ x.unsignedText) :
    c = '.' ∨ isAsciiDigit c = true := by
  rw [unsignedText_of_isFinite h] at hc
  split at hc
  · rw [List.mem_singleton.mp hc]
    exact .inr (by decide)
  · exact mem_positional hc

/-- A double that is a number is finite or infinite. -/
theorem isFinite_or_eq_infinityCode (h : x.isNaN = false) :
    x.isFinite = true ∨ x.magnitude = infinityCode ∧ x.unsignedText = ['i', 'n', 'f'] := by
  have hle : ¬ infinityCode < x.magnitude := of_decide_eq_false h
  by_cases hlt : x.magnitude < infinityCode
  · exact .inl (decide_eq_true hlt)
  · have hmag : x.magnitude = infinityCode := by omega
    refine .inr ⟨hmag, ?_⟩
    rw [unsignedText, isInfinite, hmag]
    rfl

theorem not_mem_unsignedText (h : x.isNaN = false) : '-' ∉ x.unsignedText := by
  intro hmem
  obtain hfinite | ⟨-, htext⟩ := isFinite_or_eq_infinityCode h
  · exact absurd (mem_unsignedText hfinite hmem) (by decide)
  · rw [htext] at hmem
    exact absurd hmem (by decide)

theorem unspaced_display {x : Binary64} (h : x.isNaN = false) : Unspaced x.display := by
  intro c hc
  rw [toList_display h, List.mem_append, signText] at hc
  rcases hc with hsign | hc
  · split at hsign
    · rw [List.mem_singleton.mp hsign]
      decide
    · cases hsign
  · rcases isFinite_or_eq_infinityCode h with hfinite | ⟨-, hinfinite⟩
    · rcases mem_unsignedText hfinite hc with rfl | hdigit
      · decide
      · exact isSpace_eq_false_of_isAsciiDigit hdigit
    · have hletters : Unspaced "inf" := by decide
      rw [hinfinite] at hc
      exact hletters c hc

/-- The magnitude of a double is told by its text. -/
theorem magnitude_eq_of_unsignedText_eq (hx : x.isNaN = false) (hy : y.isNaN = false)
    (h : x.unsignedText = y.unsignedText) : x.magnitude = y.magnitude := by
  have hletter {z : Binary64} (hz : z.isFinite = true) : z.unsignedText ≠ ['i', 'n', 'f'] := by
    intro htext
    exact absurd (mem_unsignedText hz (htext ▸ List.mem_cons_self)) (by decide)
  obtain hx | ⟨hx, htext⟩ := isFinite_or_eq_infinityCode hx <;>
    obtain hy | ⟨hy, htext'⟩ := isFinite_or_eq_infinityCode hy
  · exact magnitude_eq_of_roundsFrom (roundsFrom_textValue hx) (h ▸ roundsFrom_textValue hy)
  · exact absurd (h.trans htext') (hletter hx)
  · exact absurd (h.symm.trans htext) (hletter hy)
  · rw [hx, hy]

/-- **Doubles that are numbers are told apart by their texts.** -/
theorem eq_of_display_eq (hx : x.isNaN = false) (hy : y.isNaN = false)
    (h : x.display = y.display) : x = y := by
  have htext : x.signText ++ x.unsignedText = y.signText ++ y.unsignedText := by
    rw [← toList_display hx, ← toList_display hy, h]
  have hminus := not_mem_unsignedText hx
  have hminus' := not_mem_unsignedText hy
  obtain ⟨hsign, hbody⟩ : x.negative = y.negative ∧ x.unsignedText = y.unsignedText := by
    unfold signText at htext
    cases hnx : x.negative <;> cases hny : y.negative <;> rw [hnx, hny] at htext
    case false.false => exact ⟨rfl, htext⟩
    case true.true => exact ⟨rfl, (List.cons.inj htext).2⟩
    case false.true =>
      have hbody : x.unsignedText = '-' :: y.unsignedText := htext
      exact absurd (hbody ▸ List.mem_cons_self) hminus
    case true.false =>
      have hbody : '-' :: x.unsignedText = y.unsignedText := htext
      exact absurd (hbody ▸ List.mem_cons_self) hminus'
  have hmag := magnitude_eq_of_unsignedText_eq hx hy hbody
  cases x
  cases y
  simp_all

end Tabular.Binary64
