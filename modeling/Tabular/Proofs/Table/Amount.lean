import Tabular.Proofs.Binary64.Display
import Tabular.Proofs.Binary64.Nearest
import Tabular.Proofs.Binary64.Reading
import Tabular.Proofs.Text.Digits
import Tabular.Table.Cell
/-!
# Amounts

An amount is the number of hundredths nearest to a double, written with two decimal places and with
commas between groups of three digits (`IsAmount`). It is read without its commas
(`readNumber?_grouped`), as the double nearest to the hundredths (`readNumber?_amountText`). That
double is finite again, since even the largest one is not rounded up by more than half a hundredth
(`hundredths_lt_codeEnd`).

Infinity is a number as well, and its word is written in the place of the digits before the point
(`amountText_of_infinite`). That is no amount, and it is not read as a number at all.
-/

namespace Tabular

open Text

/-! ## Groups of digits -/

section Groups

variable {cs : List Char}

/-- Nothing but commas gets between digits that are grouped. -/
theorem filter_groupThousands {p : Char → Bool} (hp : p ',' = false) (h : ∀ c ∈ cs, p c = true) :
    (groupThousands cs).filter p = cs := by
  induction cs with
  | nil => rfl
  | cons c rest ih =>
    obtain ⟨hc, hrest⟩ := List.forall_mem_cons.mp h
    rw [groupThousands]
    split
    · rw [List.filter_cons_of_pos hc, List.filter_cons_of_neg (by simp [hp]), ih hrest]
    · rw [List.filter_cons_of_pos hc, ih hrest]

/-- Without a comma among them they are not grouped. -/
theorem groupThousands_eq_self (h : ∀ c ∈ cs, c ≠ ',') (hnot : ',' ∉ groupThousands cs) :
    groupThousands cs = cs := by
  have hkept : (groupThousands cs).filter (· != ',') = groupThousands cs :=
    List.filter_eq_self.mpr fun c hc => bne_iff_ne.mpr fun heq => hnot (heq ▸ hc)
  rw [← hkept, filter_groupThousands rfl fun c hc => bne_iff_ne.mpr (h c hc)]

theorem exists_groupThousands_cons (c : Char) (rest : List Char) :
    ∃ more, groupThousands (c :: rest) = c :: more := by
  rw [groupThousands]
  split <;> exact ⟨_, rfl⟩

/-- **The shape of grouped digits**: one to three of them, then groups of three behind a comma. -/
theorem exists_groups (hne : cs ≠ []) :
    ∃ (lead : List Char) (groups : List (List Char)),
      groupThousands cs = lead ++ groups.flatMap (',' :: ·) ∧ lead ++ groups.flatten = cs ∧
        1 ≤ lead.length ∧ lead.length ≤ 3 ∧ ∀ g ∈ groups, g.length = 3 := by
  induction cs with
  | nil => exact absurd rfl hne
  | cons c rest ih =>
    cases hrest : rest with
    | nil => exact ⟨[c], [], rfl, rfl, le_rfl, by simp, List.forall_mem_nil _⟩
    | cons d more =>
      rw [← hrest]
      obtain ⟨lead, groups, hgroups, hflat, hpos, hle, hthree⟩ := ih (by simp [hrest])
      have hlength : rest.length = lead.length + 3 * groups.length := by
        rw [← hflat, List.length_append, List.length_flatten,
          List.map_congr_left (g := fun _ => 3) hthree, List.map_const', List.sum_replicate_nat,
          mul_comm]
      rw [groupThousands, hgroups]
      -- a group is complete when the rest has only whole groups
      by_cases hlead : lead.length = 3
      · refine ⟨[c], lead :: groups, ?_, by simp [hflat], le_rfl, by simp,
          List.forall_mem_cons.mpr ⟨hlead, hthree⟩⟩
        rw [if_pos (by simp [hrest ▸ hlength, hlead, hrest])]
        rfl
      · refine ⟨c :: lead, groups, ?_, by simp [hflat], by simp, ?_, hthree⟩
        · rw [if_neg]
          · rfl
          · simp only [Bool.and_eq_true, decide_eq_true_eq, not_and]
            omega
        · rw [List.length_cons]
          omega

end Groups

/-- The form of an amount: a sign or none, one to three digits, groups of three behind a comma, a
point and two digits. -/
inductive IsAmount : List Char → Prop
  | intro {sign lead places : List Char} {groups : List (List Char)}
    (hsign : sign = [] ∨ sign = ['-']) (hpos : 1 ≤ lead.length) (hle : lead.length ≤ 3)
    (hthree : ∀ g ∈ groups, g.length = 3) (htwo : places.length = 2)
    (hdigits : ∀ c ∈ lead ++ groups.flatten ++ places, isAsciiDigit c = true) :
    IsAmount (sign ++ (lead ++ groups.flatMap (',' :: ·)) ++ '.' :: places)

/-- The characters of amounts. -/
def isAmountChar (c : Char) : Bool := c == '-' || c == ',' || c == '.' || isAsciiDigit c

theorem IsAmount.isAmountChar {cs : List Char} (h : IsAmount cs) {c : Char} (hc : c ∈ cs) :
    isAmountChar c = true := by
  obtain @⟨sign, lead, places, groups, hsign, -, -, -, -, hdigits⟩ := h
  have hdigit {d : Char} (hd : d ∈ lead ++ groups.flatten ++ places) : Tabular.isAmountChar d := by
    simp [Tabular.isAmountChar, hdigits d hd]
  rw [List.mem_append, List.mem_append, List.mem_append, List.mem_flatMap, List.mem_cons] at hc
  rcases hc with (hc | hc | ⟨g, hg, hc⟩) | rfl | hc
  · rcases hsign with rfl | rfl
    · cases hc
    · rw [List.mem_singleton.mp hc]
      decide
  · exact hdigit (by simp [hc])
  · rcases List.mem_cons.mp hc with rfl | hc
    · decide
    · exact hdigit (by simp [List.mem_flatten_of_mem hg hc])
  · decide
  · exact hdigit (by simp [hc])

theorem isSpace_of_isAmountChar {c : Char} (h : isAmountChar c = true) : isSpace c = false := by
  simp only [isAmountChar, Bool.or_eq_true, beq_iff_eq] at h
  rcases h with ((rfl | rfl) | rfl) | hdigit
  · decide
  · decide
  · decide
  · exact isSpace_eq_false_of_isAsciiDigit hdigit

/-! ## Reading amounts -/

section Reading

variable {whole places : List Char} (negative : Bool)

/-- Grouped digits with two places are an amount. -/
theorem isAmount_grouped (hne : whole ≠ []) (hwhole : ∀ c ∈ whole, isAsciiDigit c = true)
    (hplaces : ∀ c ∈ places, isAsciiDigit c = true) (htwo : places.length = 2) :
    IsAmount ((if negative then ['-'] else []) ++ groupThousands whole ++ '.' :: places) := by
  obtain ⟨lead, groups, hgroups, hflat, hpos, hle, hthree⟩ := exists_groups hne
  rw [hgroups]
  refine .intro ?_ hpos hle hthree htwo ?_
  · cases negative
    · exact .inl rfl
    · exact .inr rfl
  · rw [hflat]
    exact List.forall_mem_append.mpr ⟨hwhole, hplaces⟩

/-- Where commas are dropped, nothing else of an amount is. -/
theorem filter_grouped {p : Char → Bool} (hcomma : p ',' = false)
    (hp : ∀ c, c = '-' ∨ c = '.' ∨ isAsciiDigit c = true → p c = true)
    (hwhole : ∀ c ∈ whole, isAsciiDigit c = true) (hplaces : ∀ c ∈ places, isAsciiDigit c = true) :
    ((if negative then ['-'] else []) ++ groupThousands whole ++ '.' :: places).filter p =
      (if negative then ['-'] else []) ++ whole ++ '.' :: places := by
  have hdigits {l : List Char} (hl : ∀ c ∈ l, isAsciiDigit c = true) : ∀ c ∈ l, p c = true :=
    fun c hc => hp c (.inr (.inr (hl c hc)))
  have hsign : (if negative then ['-'] else []).filter p = if negative then ['-'] else [] := by
    cases negative
    · rfl
    · exact List.filter_eq_self.mpr (List.forall_mem_singleton.mpr (hp '-' (.inl rfl)))
  rw [List.filter_append, List.filter_append, hsign, filter_groupThousands hcomma (hdigits hwhole),
    List.filter_cons_of_pos (hp '.' (.inr (.inl rfl))),
    List.filter_eq_self.mpr (hdigits hplaces)]

/-- No amount begins with a currency symbol. -/
theorem dropWhile_currencySymbols {cs : List Char} (h : IsAmount cs) :
    cs.dropWhile (currencySymbols.contains ·) = cs := by
  have hforeign : ∀ d ∈ currencySymbols, isAmountChar d = false := by
    simp only [currencySymbols, List.forall_mem_cons, List.not_mem_nil, false_implies, implies_true]
    decide
  refine dropWhile_of_beginsOutside fun c hc => Bool.eq_false_iff.mpr fun hsymbol => ?_
  have hchar := h.isAmountChar (List.mem_of_mem_head? hc)
  rw [hforeign c (List.contains_iff_mem.mp hsymbol)] at hchar
  cases hchar

/-- With commas an amount is not read as it stands. -/
theorem groupThousands_eq_of_readDigits? {x : Binary64} (hne : whole ≠ [])
    (hwhole : ∀ c ∈ whole, isAsciiDigit c = true) (hplaces : ∀ c ∈ places, isAsciiDigit c = true)
    (htwo : places.length = 2)
    (h : Binary64.readDigits? negative (groupThousands whole ++ '.' :: places) = some x) :
    groupThousands whole = whole := by
  have hamount : IsAmount (groupThousands whole ++ '.' :: places) :=
    isAmount_grouped false hne hwhole hplaces htwo
  have hmark : ∀ c ∈ groupThousands whole ++ '.' :: places, c ≠ 'e' ∧ c ≠ 'E' := by
    intro c hc
    have hchar := hamount.isAmountChar hc
    constructor <;> rintro rfl <;> exact absurd hchar (by decide)
  have hdigits := Binary64.forall_mem_of_readDigits? h hmark
  have hcomma : ',' ∉ groupThousands whole := fun hmem =>
    absurd (hdigits ',' (List.mem_append_left _ hmem)) (by decide)
  exact groupThousands_eq_self (fun c hc => ne_of_isAsciiDigit (hwhole c hc) (by decide)) hcomma

/-- **An amount is read without its commas.** -/
theorem readNumber?_grouped (hne : whole ≠ []) (hwhole : ∀ c ∈ whole, isAsciiDigit c = true)
    (hplaces : ∀ c ∈ places, isAsciiDigit c = true) (htwo : places.length = 2) :
    readNumber? (String.ofList
        ((if negative then ['-'] else []) ++ groupThousands whole ++ '.' :: places)) =
      some (Binary64.ofNumeral negative (whole ++ '.' :: places)) := by
  have hamount := isAmount_grouped negative hne hwhole hplaces htwo
  have hread : Binary64.readDigits? negative (whole ++ '.' :: places) = _ :=
    Binary64.readDigits?_point hne hwhole hplaces
  have htrim := trimList_eq_self fun c hc => isSpace_of_isAmountChar (hamount.isAmountChar hc)
  have hkeep := filter_grouped (p := fun c => c != ',' && c != '_') negative rfl
    (fun c hc => by
      rcases hc with rfl | rfl | hc
      · decide
      · decide
      · simp [ne_of_isAsciiDigit hc (show isAsciiDigit ',' = false by decide),
          ne_of_isAsciiDigit hc (show isAsciiDigit '_' = false by decide)])
    hwhole hplaces
  have htrim' := hkeep ▸ trimList_eq_self fun c hc =>
    isSpace_of_isAmountChar (hamount.isAmountChar (List.mem_of_mem_filter hc))
  obtain ⟨c, rest, rfl⟩ := List.exists_cons_of_ne_nil hne
  obtain ⟨more, hmore⟩ := exists_groupThousands_cons c rest
  have hdecimal := isDecimalDigit_of_isAsciiDigit (hwhole c List.mem_cons_self)
  rw [readNumber?, String.toList_ofList, htrim]
  simp only [dropWhile_currencySymbols hamount, hkeep, htrim', List.isEmpty_iff,
    List.append_eq_nil_iff, List.cons_ne_nil, and_false, if_false]
  rw [List.append_assoc, List.append_assoc, List.cons_append, hmore, List.cons_append,
    Binary64.ofText?_sign hdecimal, Binary64.ofText?_sign hdecimal, ← List.cons_append,
    ← List.cons_append, hread, ← hmore]
  cases hstands : Binary64.readDigits? negative (groupThousands (c :: rest) ++ '.' :: places) with
  | none => rfl
  | some x =>
    have hplain := groupThousands_eq_of_readDigits? negative hne hwhole hplaces htwo hstands
    rw [hplain, hread] at hstands
    exact hstands.symm

end Reading

/-! ## Hundredths -/

namespace Binary64

variable {x : Binary64} {negative : Bool}

/-- **The hundredths of a double** are the integer nearest to them. -/
theorem isNearest_hundredths (x : Binary64) : IsNearest x.hundredths (100 * x.absValue) := by
  have hden : 0 < x.denominator := by
    rw [← Nat.cast_pos (α := ℚ)]
    exact scaleDen_pos x.exponent
  have hvalue : 100 * x.absValue = (x.numerator * 100 : ℕ) / x.denominator := by
    rw [← numerator_div_denominator]
    push_cast
    ring
  rw [hvalue]
  exact isNearest_roundHalfEven hden (x.numerator * 100)

/-- The hundredths of the largest finite double do not round up to infinity. -/
theorem hundredths_lt_codeEnd (h : x.isFinite = true) :
    (x.hundredths / 100 : ℚ) < codeEnd (infinityCode - 1) := by
  have hsig : x.significand ≤ 2 ^ 53 - 1 := by
    rw [significand_eq, codeSignificand]
    norm_num
    split <;> omega
  have hexp : x.exponent ≤ 971 := by
    have hmag : x.magnitude < 0x7FF0000000000000 := of_decide_eq_true h
    rw [exponent_eq, codeExponent]
    norm_num
    split <;> omega
  have hend : codeEnd (infinityCode - 1) = (2 ^ 53 - 1 + 1 / 2) * 2 ^ (971 : ℤ) := by
    have hcode : infinityCode - 1 = 2045 * 2 ^ 52 + (2 ^ 53 - 1) := by decide
    rw [hcode, codeEnd_eq (by norm_num) (.inr (by norm_num)),
      show ((2045 : ℕ) : ℤ) - 1074 = 971 by rfl, Nat.cast_sub (by norm_num)]
    norm_cast
  have hvalue : x.absValue ≤ (2 ^ 53 - 1) * 2 ^ (971 : ℤ) := by
    have hsig' : (x.significand : ℚ) ≤ 2 ^ 53 - 1 := by
      have := Nat.cast_le (α := ℚ).mpr hsig
      rwa [Nat.cast_sub (by norm_num), Nat.cast_pow, Nat.cast_ofNat, Nat.cast_one] at this
    exact mul_le_mul hsig' (zpow_le_zpow_right₀ one_le_two hexp) (by positivity) (by norm_num)
  have hone : (1 : ℚ) ≤ 2 ^ (971 : ℤ) := one_le_zpow₀ one_le_two (by decide)
  have hnear := (isNearest_hundredths x).sub_le
  rw [hend]
  generalize (2 : ℚ) ^ (971 : ℤ) = p at hvalue hone ⊢
  linarith

/-- The last two digits of hundredths. -/
def placesText (n : ℕ) : List Char := [Nat.digitChar (n / 10 % 10), Nat.digitChar (n % 10)]

/-- Hundredths with a point before the last two digits. -/
def hundredthsText (negative : Bool) (n : ℕ) : List Char :=
  (if negative then ['-'] else []) ++ Nat.toDigits 10 (n / 100) ++ '.' :: placesText n

theorem isAsciiDigit_of_mem_placesText {n : ℕ} {c : Char} (hc : c ∈ placesText n) :
    isAsciiDigit c = true := by
  have hdigit : ∀ d < 10, isAsciiDigit (Nat.digitChar d) = true := by decide
  rcases List.mem_cons.mp hc with rfl | hc
  · exact hdigit _ (Nat.mod_lt _ (by decide))
  · rw [List.mem_singleton.mp hc]
    exact hdigit _ (Nat.mod_lt _ (by decide))

/-- The digits of hundredths spell them. -/
theorem natOfDigits_hundredths (n : ℕ) :
    natOfDigits (Nat.toDigits 10 (n / 100) ++ placesText n) = n := by
  have hvalue : ∀ d < 10, digitValue (Nat.digitChar d) = d := by decide
  have hsplit : Nat.toDigits 10 (n / 100) ++ placesText n =
      Nat.toDigits 10 (n / 100) ++ [Nat.digitChar (n / 10 % 10)] ++ [Nat.digitChar (n % 10)] := by
    simp [placesText]
  rw [hsplit, natOfDigits_concat, natOfDigits_concat, natOfDigits_toDigits,
    hvalue _ (Nat.mod_lt _ (by decide)), hvalue _ (Nat.mod_lt _ (by decide))]
  omega

theorem ofDecimal_hundredths (negative : Bool) (n : ℕ) :
    ofDecimal negative n (-(2 : ℕ)) = ofRatio negative n 100 := by
  unfold ofDecimal
  by_cases hn : n = 0
  · rw [if_pos hn, ofRatio, if_pos hn]
  · rw [if_neg hn, if_neg (by decide), if_neg (by omega)]
    exact congrArg (ofRatio negative · 100) (Nat.mul_one n)

theorem ofNumeral_hundredths (negative : Bool) (n : ℕ) :
    ofNumeral negative (Nat.toDigits 10 (n / 100) ++ '.' :: placesText n) =
      ofRatio negative n 100 := by
  have hwhole : ∀ c ∈ Nat.toDigits 10 (n / 100), isAsciiDigit c = true := fun c =>
    isAsciiDigit_of_mem_toDigits
  rw [ofNumeral, numeralDigits_point hwhole fun c => isAsciiDigit_of_mem_placesText,
    numeralPlaces_point hwhole, natOfDigits_hundredths]
  exact ofDecimal_hundredths negative n

end Binary64

/-! ## The amount of a double -/

section Amount

variable {v : Value} {x : Binary64}

open Binary64

theorem toList_amountText (h : x.isFinite = true) :
    (amountText x).toList =
      (if x.negative && x.hundredths != 0 then ['-'] else []) ++
          groupThousands (Nat.toDigits 10 (x.hundredths / 100)) ++
        '.' :: placesText x.hundredths := by
  unfold amountText twoPlaces
  rw [isInfinite_of_isFinite h, h, Bool.true_and]
  exact String.toList_ofList

/-- The word for infinity stands where the digits before the point should be. -/
theorem amountText_of_infinite (h : x.isNaN = false) (hinfinite : x.isFinite = false) :
    amountText x = if x.negative then "-inf.00" else "inf.00" := by
  have hmagnitude : x.magnitude = infinityCode :=
    ((isFinite_or_eq_infinityCode h).resolve_left (Bool.eq_false_iff.mp hinfinite)).1
  have hinfinite' : x.isInfinite = true := beq_iff_eq.mpr hmagnitude
  unfold amountText twoPlaces
  rw [hinfinite', hinfinite]
  cases x.negative <;> rfl

/-- Currency cells show the amounts of the numbers that they are read as. -/
theorem Cell.of_currency (h : v.asNumber? = some x) :
    Cell.of v .currency = .text (amountText x) := by
  have hblank : v.isBlank = false := by
    cases v with
    | text s =>
      refine Bool.eq_false_iff.mpr fun hblank => ?_
      have hnil : trimList s.toList = [] := trimList_eq_nil_iff.mpr hblank
      simp [Value.asNumber?, readNumber?, hnil] at h
    | missing => cases h
    | collection items => cases h
    | _ => rfl
  simp [Cell.of, hblank, h]

/-- The amount of a finite double is one. -/
theorem isAmount_amountText (h : x.isFinite = true) : IsAmount (amountText x).toList := by
  rw [toList_amountText h]
  exact isAmount_grouped _ Nat.toDigits_ne_nil (fun _ => isAsciiDigit_of_mem_toDigits)
    (fun _ => isAsciiDigit_of_mem_placesText) rfl

/-- Without its commas it is the number of hundredths. -/
theorem filter_comma_amountText (h : x.isFinite = true) :
    (amountText x).toList.filter (· != ',') =
      hundredthsText (x.negative && x.hundredths != 0) x.hundredths := by
  have hkept : ∀ c, c = '-' ∨ c = '.' ∨ isAsciiDigit c = true → (c != ',') = true := by
    rintro c (rfl | rfl | hc)
    · decide
    · decide
    · exact bne_iff_ne.mpr (ne_of_isAsciiDigit hc (by decide))
  rw [toList_amountText h, hundredthsText]
  exact filter_grouped _ rfl hkept (fun _ => isAsciiDigit_of_mem_toDigits)
    fun _ => isAsciiDigit_of_mem_placesText

/-- **The amount of a finite double is read** as the double nearest to its hundredths. -/
theorem readNumber?_amountText (h : x.isFinite = true) :
    readNumber? (amountText x) =
      some (ofRatio (x.negative && x.hundredths != 0) x.hundredths 100) := by
  rw [← String.ofList_toList (s := amountText x), toList_amountText h,
    readNumber?_grouped _ Nat.toDigits_ne_nil (fun _ => isAsciiDigit_of_mem_toDigits)
      (fun _ => isAsciiDigit_of_mem_placesText) rfl, ofNumeral_hundredths]

/-- **Currency cells show an amount for every finite number**, and for no other. It is the one of
the nearest number of hundredths, without a sign if they are zero, and is read as the double nearest
to them. What is shown for an infinite number is not read as a number. -/
theorem currency_amount (h : v.asNumber? = some x) :
    Cell.of v .currency = .text (amountText x) ∧
    (IsAmount (amountText x).toList ↔ x.isFinite = true) ∧
    (x.isFinite = true →
      IsNearest x.hundredths (100 * x.absValue) ∧
      (amountText x).toList.filter (· != ',') =
        hundredthsText (x.negative && x.hundredths != 0) x.hundredths ∧
      ∃ y, readNumber? (amountText x) = some y ∧ y.isFinite = true ∧
        y.negative = (x.negative && x.hundredths != 0) ∧ y.RoundsFrom (x.hundredths / 100)) ∧
    (x.isFinite = false →
      amountText x = (if x.negative then "-inf.00" else "inf.00") ∧
        readNumber? (amountText x) = none) := by
  have hinfinite := amountText_of_infinite (Value.isNaN_of_asNumber? h)
  refine ⟨Cell.of_currency h, ⟨fun hamount => ?form, isAmount_amountText⟩, fun hfinite => ?finite,
    fun hinf => ⟨hinfinite hinf, ?unread⟩⟩
  case form =>
    by_contra hinf
    rw [hinfinite (Bool.eq_false_iff.mpr hinf)] at hamount
    have hletter : 'i' ∈ (if x.negative then "-inf.00" else "inf.00").toList := by
      cases x.negative <;> decide
    exact absurd (hamount.isAmountChar hletter) (by decide)
  case finite =>
    obtain ⟨hsign, hfinite', hrounds⟩ :=
      roundsFrom_ofRatio (x.negative && x.hundredths != 0) x.hundredths (by decide : 100 ≠ 0)
        (hundredths_lt_codeEnd hfinite)
    exact ⟨isNearest_hundredths x, filter_comma_amountText hfinite, _,
      readNumber?_amountText hfinite, hfinite', hsign, hrounds⟩
  case unread =>
    rw [hinfinite hinf]
    cases x.negative <;> decide +kernel

theorem currency_amount_grouped :
    let v : Value := .text "-1234567.891"
    let x := ofDecimal true 1234567891 (-3)
    v.asNumber? = some x ∧ amountText x = "-1,234,567.89" ∧
      Cell.of v .currency = .text (amountText x) := by
  intro v x
  have hread : v.asNumber? = some x := by decide +kernel
  exact ⟨hread, by decide +kernel, (currency_amount hread).1⟩

/-- Infinity is read as a number, and its cell is not. -/
theorem currency_infinity_unread :
    (Value.text "inf").asNumber? = some (infinity false) ∧
      Cell.of (.text "inf") .currency = .text "inf.00" ∧
      ¬ IsAmount "inf.00".toList ∧ readNumber? "inf.00" = none := by
  refine ⟨by decide +kernel, by decide +kernel, fun hamount => ?_, by decide +kernel⟩
  exact absurd (hamount.isAmountChar (by decide : 'i' ∈ "inf.00".toList)) (by decide)

end Amount

end Tabular
