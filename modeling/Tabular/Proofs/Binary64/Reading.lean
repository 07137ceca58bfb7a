import Mathlib.Tactic.SplitIfs
import Tabular.Binary64.Text
import Tabular.Proofs.Text.Digits
/-!
# Reading a double

Digits with at most one point are read as the double nearest to what they say
(`Binary64.ofNumeral`). A text that begins with a digit is no word, so it is read as digits or not
at all (`Binary64.ofText?_of_digit`); and if it has no exponent mark, it is read only when it
consists of ASCII digits and a point (`Binary64.forall_mem_of_readDigits?`).
-/

namespace Tabular

namespace Binary64

open Text

variable {negative : Bool} {cs whole fraction : List Char}

/-- What reading a decimal gives is a number. -/
theorem isNaN_ofDecimal (negative : Bool) (digits : Nat) (exponent : Int) :
    (ofDecimal negative digits exponent).isNaN = false := by
  have hcode : ∀ code, (ofCode negative code).isNaN = false := fun code =>
    decide_eq_false (Nat.not_lt.mpr (Nat.min_le_right code infinityCode))
  have hzero : (zero negative).isNaN = false := by cases negative <;> decide
  have hinfinity : (infinity negative).isNaN = false := by cases negative <;> decide
  simp only [ofDecimal, ofRatio]
  split_ifs <;> simp only [hzero, hinfinity, hcode]

/-- The double nearest to what a numeral says. -/
def ofNumeral (negative : Bool) (cs : List Char) : Binary64 :=
  ofDecimal negative (natOfDigits (numeralDigits cs)) (-(numeralPlaces cs : Int))

theorem readDigits?_whole (hne : whole ≠ []) (hwhole : ∀ c ∈ whole, isAsciiDigit c = true) :
    readDigits? negative whole = some (ofNumeral negative whole) := by
  have htake := List.takeWhile_eq_self_iff.mpr hwhole
  have hdrop := List.dropWhile_eq_nil_iff.mpr hwhole
  simp [readDigits?, htake, hdrop, hne, readExponent?, ofNumeral, numeralDigits_whole hwhole,
    numeralPlaces_whole hwhole]

theorem readDigits?_point (hne : whole ≠ []) (hwhole : ∀ c ∈ whole, isAsciiDigit c = true)
    (hfraction : ∀ c ∈ fraction, isAsciiDigit c = true) :
    readDigits? negative (whole ++ '.' :: fraction) =
      some (ofNumeral negative (whole ++ '.' :: fraction)) := by
  have hpoint : BeginsOutside isAsciiDigit ('.' :: fraction) := by rintro c ⟨⟩; decide
  have htake := List.takeWhile_eq_self_iff.mpr hfraction
  have hdrop := List.dropWhile_eq_nil_iff.mpr hfraction
  simp [readDigits?, takeWhile_append_eq hwhole hpoint, dropWhile_append_eq hwhole hpoint,
    htake, hdrop, hne, readExponent?, ofNumeral, numeralDigits_point hwhole hfraction,
    numeralPlaces_point hwhole]

theorem eq_nil_of_readExponent? {e : Int} (h : readExponent? cs = some e)
    (hmark : ∀ c ∈ cs, c ≠ 'e' ∧ c ≠ 'E') : cs = [] := by
  cases cs with
  | nil => rfl
  | cons c rest =>
    have hc := hmark c List.mem_cons_self
    simp [readExponent?, hc.1, hc.2] at h

/-- A text without an exponent mark is read only when it consists of ASCII digits and a point. -/
theorem forall_mem_of_readDigits? {x : Binary64} (h : readDigits? negative cs = some x)
    (hmark : ∀ c ∈ cs, c ≠ 'e' ∧ c ≠ 'E') : ∀ c ∈ cs, c = '.' ∨ isAsciiDigit c = true := by
  have hdigits {l : List Char} : ∀ c ∈ l.takeWhile isAsciiDigit, isAsciiDigit c = true :=
    fun c hc => List.mem_takeWhile_imp hc
  have hcut (l : List Char) := List.takeWhile_append_dropWhile (p := isAsciiDigit) (l := l)
  have hwhole := hdigits (l := cs)
  have hcs := hcut cs
  unfold readDigits? at h
  generalize cs.takeWhile isAsciiDigit = whole at h hwhole hcs
  generalize cs.dropWhile isAsciiDigit = rest at h hcs
  subst hcs
  have hrest : ∀ c ∈ rest, c ≠ 'e' ∧ c ≠ 'E' := fun c hc => hmark c (List.mem_append_right _ hc)
  have hread {l : List Char} (hl : ∀ c ∈ l, c ≠ 'e' ∧ c ≠ 'E')
      {f : Int → Binary64} (hsome : (readExponent? l).map f = some x) : l = [] := by
    obtain ⟨e, he, -⟩ := Option.map_eq_some_iff.mp hsome
    exact eq_nil_of_readExponent? he hl
  cases rest with
  | nil => exact fun c hc => .inr (hwhole c (by simpa using hc))
  | cons d more =>
    by_cases hd : d = '.'
    · subst hd
      have hmore := hcut more
      simp only at h
      split_ifs at h
      have hnil := hread (fun c hc => hrest c (List.mem_cons_of_mem _
        ((List.dropWhile_sublist _).mem hc))) h
      rw [hnil, List.append_nil] at hmore
      intro c hc
      rcases List.mem_append.mp hc with hc | hc
      · exact .inr (hwhole c hc)
      · rcases List.mem_cons.mp hc with rfl | hc
        · exact .inl rfl
        · exact .inr (hdigits c (hmore ▸ hc))
    · simp only at h
      split at h
      · next heq => exact absurd (List.cons.inj heq).1 hd
      · split_ifs at h
        cases hread hrest h

/-- A text that begins with a digit is no word. -/
theorem readUnsigned?_of_digit {c : Char} (hc : isDecimalDigit c = true) (rest : List Char) :
    readUnsigned? negative (c :: rest) = readDigits? negative (c :: rest) := by
  have hletter := not_letter_of_isDecimalDigit hc
  have hword : ∀ d more, 65 ≤ d.toNat ∧ d.toNat ≤ 122 →
      String.ofList ((c :: rest).map Char.toLower) ≠ String.ofList (d :: more) := by
    intro d more hd heq
    have hhead := (List.cons.inj (String.ofList_injective heq)).1
    rw [toLower_of_isDecimalDigit hc] at hhead
    exact hletter (hhead ▸ hd)
  have hinf : _ ≠ "inf" := hword 'i' ['n', 'f'] (by decide)
  have hinfinity : _ ≠ "infinity" := hword 'i' ['n', 'f', 'i', 'n', 'i', 't', 'y'] (by decide)
  have hnan : _ ≠ "nan" := hword 'n' ['a', 'n'] (by decide)
  simp only [readUnsigned?, beq_eq_false_iff_ne.mpr hinf, beq_eq_false_iff_ne.mpr hinfinity,
    beq_eq_false_iff_ne.mpr hnan, Bool.or_self, Bool.false_eq_true, if_false]

theorem ofText?_of_digit {c : Char} (hc : isDecimalDigit c = true) (rest : List Char) :
    ofText? (String.ofList (c :: rest)) = readDigits? false (c :: rest) := by
  have hminus : c ≠ '-' := by rintro rfl; revert hc; decide
  have hplus : c ≠ '+' := by rintro rfl; revert hc; decide
  rw [ofText?, String.toList_ofList]
  split
  · next heq => exact absurd (List.cons.inj heq).1 hminus
  · next heq => exact absurd (List.cons.inj heq).1 hplus
  · exact readUnsigned?_of_digit hc rest

/-- A sign in front of digits. -/
theorem ofText?_sign {c : Char} (hc : isDecimalDigit c = true) (rest : List Char) :
    ofText? (String.ofList ((if negative then ['-'] else []) ++ c :: rest)) =
      readDigits? negative (c :: rest) := by
  cases negative with
  | false => exact ofText?_of_digit hc rest
  | true =>
    rw [ofText?, String.toList_ofList]
    exact readUnsigned?_of_digit hc rest

end Binary64
end Tabular
