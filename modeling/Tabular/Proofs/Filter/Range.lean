import Tabular.Filter.Evaluate
import Tabular.Proofs.Binary64.Reading
import Tabular.Proofs.Filter.Expression
import Tabular.Proofs.Filter.Ordered
/-!
# What a range expression admits

The bounds of a range expression are numerals with the decimal digits of any script, but numbers are
read from ASCII digits alone. So a bound is read exactly when it is written in ASCII, as the double
nearest to what it says (`readNumber?_of_isNumeral`). When both bounds are read, the filter admits
the numbers between them, the bounds included and in either order; when one of them is not, it
admits nothing (`range_admits_between`).
-/

namespace Tabular.Filter

open Text

variable {cs : List Char}

/-! ## Reading a numeral -/

/-- A numeral consists of digits and at most a point. -/
theorem IsNumeral.forall_mem (h : IsNumeral cs) : ∀ c ∈ cs, c = '.' ∨ isDecimalDigit c = true := by
  intro c hc
  rcases h.cases with ⟨-, hdigits⟩ | ⟨whole, fraction, rfl, -, hwhole, hfraction⟩
  · exact .inr (hdigits c hc)
  · rcases List.mem_append.mp hc with hc | hc
    · exact .inr (hwhole c hc)
    · exact (List.mem_cons.mp hc).imp_right (hfraction c)

/-- A character that is neither a point nor a digit does not occur in a numeral. -/
theorem IsNumeral.ne_of_mem (h : IsNumeral cs) {c d : Char} (hc : c ∈ cs)
    (hd : d ≠ '.' ∧ isDecimalDigit d = false) : c ≠ d := by
  rintro rfl
  rcases h.forall_mem c hc with hpoint | hdigit
  · exact hd.1 hpoint
  · rw [hd.2] at hdigit
    cases hdigit

theorem IsNumeral.isSpace_eq_false (h : IsNumeral cs) : ∀ c ∈ cs, isSpace c = false := by
  intro c hc
  by_contra hspace
  rw [Bool.not_eq_false] at hspace
  refine h.ne_of_mem hc ⟨?_, isDecimalDigit_eq_false_of_isSpace hspace⟩ rfl
  rintro rfl
  revert hspace
  decide

/-- The digits of a numeral are ASCII digits. -/
def isAscii (cs : List Char) : Bool := cs.all fun c => c == '.' || isAsciiDigit c

theorem readDigits?_of_isNumeral (h : IsNumeral cs) :
    Binary64.readDigits? false cs =
      if isAscii cs then some (Binary64.ofNumeral false cs) else none := by
  split
  case isTrue hascii =>
    have hall : ∀ c ∈ cs, c = '.' ∨ isAsciiDigit c = true := by
      simpa only [isAscii, List.all_eq_true, Bool.or_eq_true, beq_iff_eq] using hascii
    -- a digit of a numeral of ASCII digits is an ASCII digit
    have hdigit {l : List Char} (hl : ∀ c ∈ l, c ∈ cs) (hdec : ∀ c ∈ l, isDecimalDigit c = true) :
        ∀ c ∈ l, isAsciiDigit c = true := by
      intro c hc
      refine (hall c (hl c hc)).resolve_left ?_
      rintro rfl
      exact absurd (hdec _ hc) (by decide)
    rcases h.cases with ⟨hne, hdec⟩ | ⟨whole, fraction, rfl, hne, hdec, hdec'⟩
    · exact Binary64.readDigits?_whole hne (hdigit (fun c hc => hc) hdec)
    · have hwhole := hdigit (fun c hc => List.mem_append_left _ hc) hdec
      have hfraction := hdigit
        (fun c hc => List.mem_append_right _ (List.mem_cons_of_mem _ hc)) hdec'
      exact Binary64.readDigits?_point hne hwhole hfraction
  case isFalse hascii =>
    refine Option.eq_none_iff_forall_ne_some.mpr fun x hx => hascii ?_
    have hmark : ∀ c ∈ cs, c ≠ 'e' ∧ c ≠ 'E' := fun c hc =>
      ⟨h.ne_of_mem hc (by decide), h.ne_of_mem hc (by decide)⟩
    simpa only [isAscii, List.all_eq_true, Bool.or_eq_true, beq_iff_eq] using
      Binary64.forall_mem_of_readDigits? hx hmark

/-- Nothing is trimmed off a numeral, and nothing in it is dropped, so that it is read as a number
only as it stands. -/
theorem readNumber?_of_isNumeral (h : IsNumeral cs) :
    readNumber? (String.ofList cs) =
      if isAscii cs then some (Binary64.ofNumeral false cs) else none := by
  have htrim : trimList cs = cs := trimList_eq_self h.isSpace_eq_false
  have hkeep : cs.filter (fun c => c != ',' && c != '_') = cs := by
    refine List.filter_eq_self.mpr fun c hc => ?_
    have hcomma := h.ne_of_mem hc (d := ',') (by decide)
    have hline := h.ne_of_mem hc (d := '_') (by decide)
    simp [hcomma, hline]
  have hsymbol : cs.dropWhile (currencySymbols.contains ·) = cs := by
    refine dropWhile_of_beginsOutside fun c hc => ?_
    have hforeign : ∀ d ∈ currencySymbols, d ≠ '.' ∧ isDecimalDigit d = false := by
      simp only [currencySymbols, List.forall_mem_cons, List.not_mem_nil, false_implies,
        implies_true]
      decide
    refine Bool.eq_false_iff.mpr fun hsymbol => ?_
    exact h.ne_of_mem (List.mem_of_mem_head? hc) (hforeign c (List.contains_iff_mem.mp hsymbol)) rfl
  obtain ⟨c, rest, rfl, hc⟩ := h.exists_cons
  rw [← readDigits?_of_isNumeral h, readNumber?, String.toList_ofList, htrim]
  simp only [hsymbol, hkeep, htrim, Binary64.ofText?_of_digit hc]
  cases Binary64.readDigits? false (c :: rest) <;> rfl

/-- A numeral is read as a number, if at all. -/
theorem isNaN_of_readNumber? {x : Binary64} (h : IsNumeral cs)
    (hx : readNumber? (String.ofList cs) = some x) : x.isNaN = false := by
  rw [readNumber?_of_isNumeral h] at hx
  split at hx
  · exact Option.some.inj hx ▸ Binary64.isNaN_ofDecimal ..
  · cases hx

/-! ## Ranges as filters -/

section Between

variable {x y n : Binary64}

theorem compare?_eq_some (hx : x.isNaN = false) (hy : y.isNaN = false) :
    x.compare? y = some (compare x.rank y.rank) := by
  simp [Binary64.compare?, hx, hy]

/-- Two bounds in ascending order. -/
def ordered (x y : Binary64) : Option Binary64 × Option Binary64 :=
  if y.rank < x.rank then (some y, some x) else (some x, some y)

/-- A number lies within two bounds in ascending order when its rank lies between theirs. -/
theorem withinBounds_ordered (hn : n.isNaN = false) (hx : x.isNaN = false) (hy : y.isNaN = false) :
    withinBounds Binary64.compare? n (ordered x y) = true ↔
      min x.rank y.rank ≤ n.rank ∧ n.rank ≤ max x.rank y.rank := by
  have hle {a b : Binary64} (ha : a.isNaN = false) (hb : b.isNaN = false) :
      withinBounds Binary64.compare? n (some a, some b) = true ↔
        a.rank ≤ n.rank ∧ n.rank ≤ b.rank := by
    rw [withinBounds_iff Binary64.compare?_eq (Binary64.place?_of_isNaN hn)]
    simp [Binary64.place?_of_isNaN ha, Binary64.place?_of_isNaN hb]
  unfold ordered
  split
  case isTrue hlt =>
    rw [hle hy hx]
    omega
  case isFalse hle' =>
    rw [hle hx hy]
    omega

variable {low high : List Char}

theorem readBound?_of_isNumeral (h : IsNumeral cs) :
    readBound? readNumber? (String.ofList cs) = (readNumber? (String.ofList cs)).map some := by
  rw [readBound?, h.isBlank_eq_false]
  rfl

/-- A range has bounds when both of its numerals are read, and then has them in ascending order. -/
theorem readBounds?_ofRange_eq_some_iff (hlow : IsNumeral low) (hhigh : IsNumeral high)
    {bounds : Option Binary64 × Option Binary64} :
    readBounds? Binary64.compare? readNumber? (ofRange low high) = some bounds ↔
      ∃ x y, readNumber? (String.ofList low) = some x ∧ readNumber? (String.ofList high) = some y ∧
        ordered x y = bounds := by
  have hlow' : readBound? readNumber? (ofRange low high).value =
      (readNumber? (String.ofList low)).map some := readBound?_of_isNumeral hlow
  have hhigh' : readBound? readNumber? (ofRange low high).secondValue =
      (readNumber? (String.ofList high)).map some := readBound?_of_isNumeral hhigh
  rw [readBounds?, hlow', hhigh']
  cases hx : readNumber? (String.ofList low) with
  | none => simp
  | some x =>
    cases hy : readNumber? (String.ofList high) with
    | none => simp
    | some y =>
      have hlt : Binary64.compare? y x = some .lt ↔ y.rank < x.rank := by
        rw [compare?_eq_some (isNaN_of_readNumber? hhigh hy) (isNaN_of_readNumber? hlow hx),
          Option.some.injEq, Int.compare_eq_lt]
      by_cases hcmp : y.rank < x.rank <;> simp [hlt, ordered, hcmp]

/-- On a numeric field, a range admits the numbers within its bounds. -/
theorem admits_ofRange_iff (hlow : IsNumeral low) {domain : Domain}
    (hdomain : domain.isNumeric = true) {v : Value} :
    (ofRange low high).admits domain v = true ↔
      ∃ n bounds, v.asNumber? = some n ∧
        readBounds? Binary64.compare? readNumber? (ofRange low high) = some bounds ∧
        withinBounds Binary64.compare? n bounds = true := by
  have hactive := isActive_ofRange hlow high
  have hclass : domain.comparisonClass = .number := beq_iff_eq.mp hdomain
  have hop : (ofRange low high).operator = .between := rfl
  simp only [admits, hactive, hclass, admitsNumber, hop, Bool.not_true, Bool.false_eq_true, if_false,
    reduceCtorEq]
  cases v.asNumber? <;> cases readBounds? Binary64.compare? readNumber? (ofRange low high) <;> simp

/-- **A range admits the numbers between its bounds, where the bounds are read.** The bounds of a
range expression are read as numbers when their digits are ASCII digits, each as the double nearest
to what it says, and not at all otherwise. On a numeric field the filter admits the values that are
read as numbers from the lesser to the greater bound, whichever comes first, and nothing when a
bound is not read. -/
theorem range_admits_between {raw low high : String} {domain : Domain}
    (h : ofExpression? raw = some ⟨.between, low, some high⟩) (hdomain : domain.isNumeric = true) :
    (∀ bound ∈ [low, high], readNumber? bound =
      if isAscii bound.toList then some (.ofNumeral false bound.toList) else none) ∧
    ∀ v : Value, (⟨.between, low, some high⟩ : Filter).admits domain v = true ↔
      ∃ x y n, readNumber? low = some x ∧ readNumber? high = some y ∧ v.asNumber? = some n ∧
        min x.rank y.rank ≤ n.rank ∧ n.rank ≤ max x.rank y.rank := by
  obtain ⟨p, hp, -, rfl, rfl⟩ := ofExpression?_eq_range_iff.mp h
  have hwithin {x y n : Binary64} {v : Value} (hx : readNumber? (String.ofList p.low) = some x)
      (hy : readNumber? (String.ofList p.high) = some y) (hn : v.asNumber? = some n) :=
    withinBounds_ordered (Value.isNaN_of_asNumber? hn) (isNaN_of_readNumber? hp.low hx)
      (isNaN_of_readNumber? hp.high hy)
  refine ⟨?bounds, fun v => (admits_ofRange_iff hp.low hdomain).trans ⟨?within, ?between⟩⟩
  case bounds =>
    simp only [List.forall_mem_cons, String.toList_ofList]
    exact ⟨readNumber?_of_isNumeral hp.low, readNumber?_of_isNumeral hp.high, nofun⟩
  case within =>
    rintro ⟨n, bounds, hn, hbounds, hadmits⟩
    obtain ⟨x, y, hx, hy, rfl⟩ := (readBounds?_ofRange_eq_some_iff hp.low hp.high).mp hbounds
    exact ⟨x, y, n, hx, hy, hn, (hwithin hx hy hn).mp hadmits⟩
  case between =>
    rintro ⟨x, y, n, hx, hy, hn, hbetween⟩
    have hbounds := (readBounds?_ofRange_eq_some_iff hp.low hp.high).mpr ⟨x, y, hx, hy, rfl⟩
    exact ⟨n, _, hn, hbounds, (hwithin hx hy hn).mpr hbetween⟩

/-- Such a range, with the greater bound first. -/
theorem range_admits_between_descending :
    ofExpression? "50..2.5" = some ⟨.between, "50", some "2.5"⟩ ∧
    (⟨.between, "50", some "2.5"⟩ : Filter).admits .currency (.text "$1,0") = true := by
  have hrange : ofExpression? "50..2.5" = some ⟨.between, "50", some "2.5"⟩ := by decide +kernel
  refine ⟨hrange, ((range_admits_between hrange rfl).2 (.text "$1,0")).mpr ?_⟩
  exact ⟨Binary64.ofInt 50, Binary64.ofDecimal false 25 (-1), Binary64.ofInt 10,
    by decide +kernel, by decide +kernel, by decide +kernel, by decide +kernel, by decide +kernel⟩

/-- The digits of other scripts are recognised in a range and read by nothing, so that a range
written in them hides every number. -/
theorem range_of_wide_digits_hides_all :
    ofExpression? "３..５" = some ⟨.between, "３", some "５"⟩ ∧
    readNumber? "３" = none ∧ readNumber? "５" = none ∧
    (⟨.between, "３", some "５"⟩ : Filter).admits .number (.number (.signed 4)) = false := by
  decide +kernel

end Between

end Tabular.Filter
