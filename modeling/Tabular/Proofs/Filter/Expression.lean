import Tabular.Filter.Expression
import Tabular.Proofs.Text.Cut
/-!
# The grammar of filter expressions

A range expression is written from its parts: two numerals, a separator between them, and white
space behind each of the three (`RangeParts`). Points make this look ambiguous, since a numeral may
end in one and a separator may consist of two. But the only other numeral at the beginning of a text
is the one without its point, and then three points would have to follow its digits, of which the
third begins no numeral. So the parts are determined by the text (`RangeParts.eq_of_text_eq`), and
the range rule finds them wherever there are any (`readRange?_eq_some_iff`).

Of the comparison marks that a text begins with, only the longest can be read: the text goes on with
an equals sign behind any other (`readComparison?_eq_none`). Together this gives the grammar of the
whole (`ofExpression?_reads_grammar`).
-/

namespace Tabular.Filter

open Text

variable {cs low high rest low' high' rest' : List Char}

/-! ## Numerals -/

/-- A numeral: digits, an optional point, and any digits after it. -/
def IsNumeral (cs : List Char) : Prop :=
  ∃ whole point fraction, whole ++ point ++ fraction = cs ∧ whole ≠ [] ∧
    (∀ c ∈ whole, isDecimalDigit c = true) ∧ (point = [] ∨ point = ['.']) ∧
    ∀ c ∈ fraction, isDecimalDigit c = true

/-- A numeral without a point is a list of digits. -/
theorem isNumeral_of_digits (hne : cs ≠ []) (h : ∀ c ∈ cs, isDecimalDigit c = true) :
    IsNumeral cs :=
  ⟨cs, [], [], by simp, hne, h, .inl rfl, by simp⟩

/-- A numeral is a list of digits, or has a point behind its first digits. -/
theorem IsNumeral.cases (h : IsNumeral cs) :
    (cs ≠ [] ∧ ∀ c ∈ cs, isDecimalDigit c = true) ∨
      ∃ whole fraction, whole ++ '.' :: fraction = cs ∧ whole ≠ [] ∧
        (∀ c ∈ whole, isDecimalDigit c = true) ∧ ∀ c ∈ fraction, isDecimalDigit c = true := by
  obtain ⟨whole, point, fraction, rfl, hne, hwhole, rfl | rfl, hfraction⟩ := h
  · left
    simp only [List.append_nil, List.mem_append]
    exact ⟨by simp [hne], fun c hc => hc.elim (hwhole c) (hfraction c)⟩
  · exact .inr ⟨whole, fraction, by simp, hne, hwhole, hfraction⟩

theorem IsNumeral.exists_cons (h : IsNumeral cs) :
    ∃ c rest, cs = c :: rest ∧ isDecimalDigit c = true := by
  obtain ⟨whole, point, fraction, rfl, hne, hwhole, -⟩ := h
  obtain ⟨c, whole, rfl⟩ := List.exists_cons_of_ne_nil hne
  exact ⟨c, _, rfl, hwhole c List.mem_cons_self⟩

theorem beginsOutside_point (rest : List Char) : BeginsOutside isDecimalDigit ('.' :: rest) := by
  rintro c ⟨⟩
  decide

/-- **The numerals at the beginning of a list** that leave no digit behind are the ones found. -/
theorem mem_numerals_iff :
    (low, rest) ∈ numerals cs ↔
      IsNumeral low ∧ low ++ rest = cs ∧ BeginsOutside isDecimalDigit rest := by
  constructor
  · intro h
    have hwhole : ∀ c ∈ cs.takeWhile isDecimalDigit, isDecimalDigit c = true :=
      fun c hc => List.mem_takeWhile_imp hc
    have hrest := beginsOutside_dropWhile (p := isDecimalDigit) cs
    have hcs := List.takeWhile_append_dropWhile (p := isDecimalDigit) (l := cs)
    unfold numerals at h
    generalize cs.takeWhile isDecimalDigit = whole at h hwhole hcs
    generalize cs.dropWhile isDecimalDigit = tail at h hrest hcs
    subst hcs
    by_cases hne : whole = []
    · simp [hne] at h
    · have hshort : (low, rest) = (whole, tail) → IsNumeral low ∧ low ++ rest = whole ++ tail ∧
          BeginsOutside isDecimalDigit rest := by
        rintro ⟨⟩
        exact ⟨isNumeral_of_digits hne hwhole, rfl, hrest⟩
      simp only [List.isEmpty_iff, hne, if_false] at h
      split at h
      · next more =>
        rcases List.mem_cons.mp h with h | h
        · obtain ⟨rfl, rfl⟩ := Prod.mk.inj h
          refine ⟨⟨whole, ['.'], more.takeWhile isDecimalDigit, by simp, hne, hwhole, .inr rfl,
            fun c hc => List.mem_takeWhile_imp hc⟩, ?_, beginsOutside_dropWhile more⟩
          simp [List.takeWhile_append_dropWhile]
        · exact hshort (List.mem_singleton.mp h)
      · exact hshort (List.mem_singleton.mp h)
  · rintro ⟨hlow, rfl, hrest⟩
    rcases hlow.cases with ⟨hne, hdigits⟩ | ⟨whole, fraction, rfl, hne, hwhole, hfraction⟩
    · rw [numerals, takeWhile_append_eq hdigits hrest, dropWhile_append_eq hdigits hrest]
      simp only [List.isEmpty_iff, hne, if_false]
      split <;> simp
    · rw [List.append_assoc, List.cons_append, numerals,
        takeWhile_append_eq hwhole (beginsOutside_point _),
        dropWhile_append_eq hwhole (beginsOutside_point _)]
      simp [hne, takeWhile_append_eq hfraction hrest, dropWhile_append_eq hfraction hrest]

/-- Two numerals at the beginning of a list are the same, or one goes on with a point where the
other ends. -/
theorem eq_or_eq_of_mem_numerals (h : (low, rest) ∈ numerals cs) (h' : (low', rest') ∈ numerals cs) :
    low = low' ∧ rest = rest' ∨
      (∃ fraction, (∀ c ∈ fraction, isDecimalDigit c = true) ∧ rest' = '.' :: fraction ++ rest) ∨
      ∃ fraction, (∀ c ∈ fraction, isDecimalDigit c = true) ∧ rest = '.' :: fraction ++ rest' := by
  obtain ⟨hlow, hcs, hrest⟩ := mem_numerals_iff.mp h
  obtain ⟨hlow', rfl, hrest'⟩ := mem_numerals_iff.mp h'
  have hpoint := beginsOutside_point
  rcases hlow.cases with ⟨-, hdigits⟩ | ⟨whole, fraction, rfl, -, hwhole, hfraction⟩ <;>
    rcases hlow'.cases with ⟨-, hdigits'⟩ | ⟨whole', fraction', rfl, -, hwhole', hfraction'⟩
  · exact .inl (append_eq_append_of_beginsOutside hdigits hdigits' hrest hrest' hcs)
  · rw [List.append_assoc, List.cons_append] at hcs
    obtain ⟨-, rfl⟩ :=
      append_eq_append_of_beginsOutside hdigits hwhole' hrest (hpoint _) hcs
    exact .inr (.inr ⟨fraction', hfraction', rfl⟩)
  · rw [List.append_assoc, List.cons_append] at hcs
    obtain ⟨-, rfl⟩ :=
      append_eq_append_of_beginsOutside hwhole hdigits' (hpoint _) hrest' hcs
    exact .inr (.inl ⟨fraction, hfraction, rfl⟩)
  · simp only [List.append_assoc, List.cons_append] at hcs
    obtain ⟨rfl, hmore⟩ :=
      append_eq_append_of_beginsOutside hwhole hwhole' (hpoint _) (hpoint _) hcs
    obtain ⟨rfl, rfl⟩ := append_eq_append_of_beginsOutside hfraction hfraction' hrest hrest'
      (List.cons.inj hmore).2
    exact .inl ⟨rfl, rfl⟩

/-! ## Ranges -/

/-- The parts that a range expression is written from. -/
structure RangeParts where
  low : List Char
  blankLeft : List Char
  separator : List Char
  blankRight : List Char
  high : List Char
  blankEnd : List Char

namespace RangeParts

/-- What follows the separator. -/
def afterSeparator (p : RangeParts) : List Char := p.blankRight ++ (p.high ++ p.blankEnd)

/-- What follows the first bound. -/
def afterLow (p : RangeParts) : List Char := p.blankLeft ++ (p.separator ++ p.afterSeparator)

/-- The expression. -/
def text (p : RangeParts) : List Char := p.low ++ p.afterLow

/-- The bounds are numerals, a separator is between them, and white space may stand behind each of
the three. -/
structure WellFormed (p : RangeParts) : Prop where
  low : IsNumeral p.low
  blankLeft : ∀ c ∈ p.blankLeft, isSpace c = true
  separator : p.separator ∈ rangeSeparators
  blankRight : ∀ c ∈ p.blankRight, isSpace c = true
  high : IsNumeral p.high
  blankEnd : ∀ c ∈ p.blankEnd, isSpace c = true

end RangeParts

theorem beginsOutside_blank_append {blank : List Char} (hblank : ∀ c ∈ blank, isSpace c = true)
    (h : BeginsOutside isDecimalDigit rest) : BeginsOutside isDecimalDigit (blank ++ rest) := by
  cases blank with
  | nil => exact h
  | cons c blank =>
    rintro d ⟨⟩
    exact isDecimalDigit_eq_false_of_isSpace (hblank c List.mem_cons_self)

theorem beginsOutside_of_blank {blank : List Char} (hblank : ∀ c ∈ blank, isSpace c = true) :
    BeginsOutside isDecimalDigit blank := by
  rw [← List.append_nil blank]
  exact beginsOutside_blank_append hblank nofun

theorem IsNumeral.beginsOutside (h : IsNumeral low) (rest : List Char) :
    BeginsOutside isSpace (low ++ rest) := by
  obtain ⟨c, more, rfl, hc⟩ := h.exists_cons
  rintro d ⟨⟩
  by_contra hspace
  rw [isDecimalDigit_eq_false_of_isSpace (by simpa using hspace)] at hc
  cases hc

/-- A separator is two characters, and neither white space nor a digit. -/
theorem separator_cases {sep : List Char} (h : sep ∈ rangeSeparators) :
    sep.length = 2 ∧ ∀ rest, BeginsOutside isSpace (sep ++ rest) ∧
      BeginsOutside isDecimalDigit (sep ++ rest) := by
  simp only [rangeSeparators, List.mem_cons, List.not_mem_nil, or_false] at h
  rcases h with rfl | rfl | rfl
  all_goals exact ⟨rfl, fun rest => ⟨by rintro c ⟨⟩; decide, by rintro c ⟨⟩; decide⟩⟩

theorem afterSeparator?_eq_some_iff :
    afterSeparator? cs = some rest ↔ ∃ sep ∈ rangeSeparators, sep ++ rest = cs := by
  constructor
  · intro h
    obtain ⟨sep, hfind, rfl⟩ := Option.map_eq_some_iff.mp h
    have hstarts : sep.isPrefixOf cs = true := by simpa using List.find?_some hfind
    have happend := List.prefix_iff_eq_append.mp (List.isPrefixOf_iff_prefix.mp hstarts)
    exact ⟨sep, List.mem_of_find?_eq_some hfind, happend⟩
  · rintro ⟨sep, hsep, rfl⟩
    simp only [rangeSeparators, List.mem_cons, List.not_mem_nil, or_false] at hsep
    rcases hsep with rfl | rfl | rfl <;> rfl

/-- A numeral with white space up to the end of a list is read in one way only. -/
theorem lastNumeral_unique {blank blank' : List Char} (hhigh : IsNumeral high)
    (hblank : ∀ c ∈ blank, isSpace c = true) (hhigh' : IsNumeral high')
    (hblank' : ∀ c ∈ blank', isSpace c = true) (h : high ++ blank = high' ++ blank') :
    high = high' ∧ blank = blank' := by
  have hmem := mem_numerals_iff.mpr ⟨hhigh, h, beginsOutside_of_blank hblank⟩
  have hmem' := mem_numerals_iff.mpr ⟨hhigh', rfl, beginsOutside_of_blank hblank'⟩
  -- a point is no white space, so neither numeral goes on where the other ends
  have hpoint {more : List Char} (hmore : ∀ c ∈ '.' :: more, isSpace c = true) : False :=
    absurd (hmore '.' List.mem_cons_self) (by decide)
  rcases eq_or_eq_of_mem_numerals hmem hmem' with heq | ⟨fraction, -, rfl⟩ | ⟨fraction, -, rfl⟩
  · exact heq
  · exact (hpoint hblank').elim
  · exact (hpoint hblank).elim

theorem lastNumeral?_eq_some_iff :
    lastNumeral? cs = some high ↔
      ∃ blank, IsNumeral high ∧ (∀ c ∈ blank, isSpace c = true) ∧ high ++ blank = cs := by
  constructor
  · intro h
    obtain ⟨⟨low, blank⟩, hfind, rfl⟩ := Option.map_eq_some_iff.mp h
    obtain ⟨hlow, hcs, -⟩ := mem_numerals_iff.mp (List.mem_of_find?_eq_some hfind)
    exact ⟨blank, hlow, by simpa using List.find?_some hfind, hcs⟩
  · rintro ⟨blank, hhigh, hblank, hcs⟩
    have hmem := mem_numerals_iff.mpr ⟨hhigh, hcs, beginsOutside_of_blank hblank⟩
    cases hlast : lastNumeral? cs with
    | none =>
      have hfind := List.find?_eq_none.mp (Option.map_eq_none_iff.mp hlast)
      exact absurd (List.all_eq_true.mpr hblank) (hfind _ hmem)
    | some found =>
      obtain ⟨⟨low, blank'⟩, hfind, rfl⟩ := Option.map_eq_some_iff.mp hlast
      obtain ⟨hlow, hcs', -⟩ := mem_numerals_iff.mp (List.mem_of_find?_eq_some hfind)
      have hblank' : ∀ c ∈ blank', isSpace c = true := by simpa using List.find?_some hfind
      rw [(lastNumeral_unique hlow hblank' hhigh hblank (hcs'.trans hcs.symm)).1]

namespace RangeParts

variable {p q : RangeParts}

theorem WellFormed.beginsOutside_afterLow (hp : p.WellFormed) :
    BeginsOutside isDecimalDigit p.afterLow :=
  beginsOutside_blank_append hp.blankLeft ((separator_cases hp.separator).2 _).2

theorem WellFormed.low_mem (hp : p.WellFormed) : (p.low, p.afterLow) ∈ numerals p.text :=
  mem_numerals_iff.mpr ⟨hp.low, rfl, hp.beginsOutside_afterLow⟩

/-- A point behind the first bound is the first of a separator. -/
theorem WellFormed.afterLow_eq_point (hp : p.WellFormed) (h : p.afterLow = '.' :: rest) :
    rest = '.' :: p.afterSeparator := by
  have hnil : p.blankLeft = [] := by
    cases hblank : p.blankLeft with
    | nil => rfl
    | cons c blank =>
      have hc := hp.blankLeft c (hblank ▸ List.mem_cons_self)
      rw [afterLow, hblank] at h
      rw [(List.cons.inj h).1] at hc
      exact absurd hc (by decide)
  have hsep := hp.separator
  rw [afterLow, hnil, List.nil_append] at h
  simp only [rangeSeparators, List.mem_cons, List.not_mem_nil, or_false] at hsep
  rcases hsep with hsep | hsep | hsep <;> rw [hsep] at h
  · exact absurd (List.cons.inj h).1 (by decide)
  · exact absurd (List.cons.inj h).1 (by decide)
  · exact (List.cons.inj h).2.symm

/-- No point follows the separator. -/
theorem WellFormed.afterSeparator_ne_point (hp : p.WellFormed) : p.afterSeparator ≠ '.' :: rest := by
  intro h
  cases hblank : p.blankRight with
  | nil =>
    obtain ⟨c, more, hhigh, hc⟩ := hp.high.exists_cons
    rw [afterSeparator, hblank, hhigh] at h
    rw [(List.cons.inj h).1] at hc
    exact absurd hc (by decide)
  | cons c blank =>
    have hc := hp.blankRight c (hblank ▸ List.mem_cons_self)
    rw [afterSeparator, hblank] at h
    rw [(List.cons.inj h).1] at hc
    exact absurd hc (by decide)

/-- The point behind the digits of a first bound belongs to the bound or to the separator: with
the bound one point longer, three points would follow the digits. -/
theorem afterLow_ne_point_append {fraction : List Char} (hp : p.WellFormed) (hq : q.WellFormed)
    (hfraction : ∀ c ∈ fraction, isDecimalDigit c = true) :
    q.afterLow ≠ '.' :: fraction ++ p.afterLow := by
  intro h
  have hsecond := hq.afterLow_eq_point h
  cases fraction with
  | nil =>
    have hthird := hp.afterLow_eq_point hsecond
    exact hq.afterSeparator_ne_point hthird
  | cons c fraction =>
    have hc := hfraction c List.mem_cons_self
    rw [(List.cons.inj hsecond).1] at hc
    exact absurd hc (by decide)

/-- What follows the first bound is read in one way only. -/
theorem eq_of_afterLow_eq (hp : p.WellFormed) (hq : q.WellFormed) (hlow : p.low = q.low)
    (h : p.afterLow = q.afterLow) : p = q := by
  obtain ⟨hblank, hafter⟩ := append_eq_append_of_beginsOutside hp.blankLeft hq.blankLeft
    ((separator_cases hp.separator).2 _).1 ((separator_cases hq.separator).2 _).1 h
  obtain ⟨hsep, hafter⟩ := List.append_inj hafter
    ((separator_cases hp.separator).1.trans (separator_cases hq.separator).1.symm)
  obtain ⟨hblank', hafter⟩ := append_eq_append_of_beginsOutside hp.blankRight hq.blankRight
    (hp.high.beginsOutside _) (hq.high.beginsOutside _) hafter
  obtain ⟨hhigh, hend⟩ := lastNumeral_unique hp.high hp.blankEnd hq.high hq.blankEnd hafter
  cases p
  cases q
  simp_all

/-- **A range expression is written from its parts in one way only.** -/
theorem eq_of_text_eq (hp : p.WellFormed) (hq : q.WellFormed) (h : p.text = q.text) : p = q := by
  have hmem := hp.low_mem
  rw [h] at hmem
  rcases eq_or_eq_of_mem_numerals hmem hq.low_mem with
    ⟨hlow, hafter⟩ | ⟨fraction, hfraction, hafter⟩ | ⟨fraction, hfraction, hafter⟩
  · exact eq_of_afterLow_eq hp hq hlow hafter
  · exact absurd hafter (afterLow_ne_point_append hp hq hfraction)
  · exact absurd hafter (afterLow_ne_point_append hq hp hfraction)

end RangeParts

theorem exists_parts_of_readRange? (h : readRange? cs = some (low, high)) :
    ∃ p : RangeParts, p.WellFormed ∧ p.text = cs ∧ p.low = low ∧ p.high = high := by
  obtain ⟨⟨first, rest⟩, hmem, h⟩ := List.exists_of_findSome?_eq_some h
  obtain ⟨afterSep, hsep, h⟩ := Option.bind_eq_some_iff.mp h
  obtain ⟨last, hlast, h⟩ := Option.bind_eq_some_iff.mp h
  obtain ⟨rfl, rfl⟩ := Prod.mk.inj (Option.some.inj h)
  obtain ⟨hfirst, hcs, -⟩ := mem_numerals_iff.mp hmem
  obtain ⟨sep, hsepmem, hsep⟩ := afterSeparator?_eq_some_iff.mp hsep
  obtain ⟨blank, hnumeral, hblank, hlast⟩ := lastNumeral?_eq_some_iff.mp hlast
  refine ⟨⟨first, rest.takeWhile isSpace, sep, afterSep.takeWhile isSpace, last, blank⟩,
    ⟨hfirst, fun c hc => List.mem_takeWhile_imp hc, hsepmem,
      fun c hc => List.mem_takeWhile_imp hc, hnumeral, hblank⟩, ?_, rfl, rfl⟩
  simp only [RangeParts.text, RangeParts.afterLow, RangeParts.afterSeparator, hlast, trimStart,
    List.takeWhile_append_dropWhile, hsep, hcs]

/-- The range rule reads every range expression, and what it reads are the bounds. -/
theorem readRange?_text {p : RangeParts} (hp : p.WellFormed) :
    readRange? p.text = some (p.low, p.high) := by
  cases hfound : readRange? p.text with
  | none =>
    have hnone := List.findSome?_eq_none_iff.mp hfound _ hp.low_mem
    have hsep : afterSeparator? (trimStart p.afterLow) = some p.afterSeparator := by
      rw [trimStart, RangeParts.afterLow,
        dropWhile_append_eq hp.blankLeft ((separator_cases hp.separator).2 _).1]
      exact afterSeparator?_eq_some_iff.mpr ⟨_, hp.separator, rfl⟩
    have hlast : lastNumeral? (trimStart p.afterSeparator) = some p.high := by
      rw [trimStart, RangeParts.afterSeparator,
        dropWhile_append_eq hp.blankRight (hp.high.beginsOutside _)]
      exact lastNumeral?_eq_some_iff.mpr ⟨_, hp.high, hp.blankEnd, rfl⟩
    simp [hsep, hlast] at hnone
  | some bounds =>
    obtain ⟨q, hq, htext, hlow, hhigh⟩ := exists_parts_of_readRange? hfound
    obtain rfl := RangeParts.eq_of_text_eq hq hp htext
    exact congrArg some (Prod.ext hlow hhigh).symm

/-- **The range rule reads the range expressions** and nothing else. -/
theorem readRange?_eq_some_iff :
    readRange? cs = some (low, high) ↔
      ∃ p : RangeParts, p.WellFormed ∧ p.text = cs ∧ p.low = low ∧ p.high = high := by
  refine ⟨exists_parts_of_readRange?, ?_⟩
  rintro ⟨p, hp, rfl, rfl, rfl⟩
  exact readRange?_text hp

/-! ## Comparisons -/

/-- The mark that a text begins with, the longest when it begins with several. -/
structure LongestMark (cs mark : List Char) (op : Operator) : Prop where
  mem : (mark, op) ∈ comparisonMarks
  isPrefix : mark <+: cs
  longest : ∀ m ∈ comparisonMarks, m.1 <+: cs → m.1.length ≤ mark.length

/-- The filter of a text that is a mark with an operand. An equals sign behind `>` or `<` is no
operand. -/
def IsComparison (cs : List Char) (f : Filter) : Prop :=
  ∃ mark op, LongestMark cs mark op ∧
    let operand := trimList (cs.drop mark.length)
    operand ≠ [] ∧ ¬ ((mark = ['>'] ∨ mark = ['<']) ∧ operand.head? = some '=') ∧
    f = { operator := op, value := String.ofList operand }

theorem readComparison?_eq_some_iff {mark : List Char} {op : Operator} {f : Filter}
    (hmem : (mark, op) ∈ comparisonMarks) :
    readComparison? cs mark op = some f ↔
      mark <+: cs ∧ trimList (cs.drop mark.length) ≠ [] ∧
      ¬ ((mark = ['>'] ∨ mark = ['<']) ∧ (trimList (cs.drop mark.length)).head? = some '=') ∧
      f = { operator := op, value := String.ofList (trimList (cs.drop mark.length)) } := by
  have hop : ∀ m ∈ comparisonMarks,
      (m.1 = ['>'] ∨ m.1 = ['<']) ↔ (m.2 = .gt ∨ m.2 = .lt) := by decide
  rw [hop _ hmem, readComparison?]
  generalize trimList (cs.drop mark.length) = operand
  by_cases hstarts : mark <+: cs
  · simp only [List.isPrefixOf_iff_prefix.mpr hstarts, if_true, hstarts, true_and]
    by_cases hempty : operand = []
    · simp [hempty]
    · by_cases hsign : (op = .gt ∨ op = .lt) ∧ operand.head? = some '='
      · simp [hempty, hsign]
      · simp only [List.isEmpty_iff, hempty, if_false, hsign, ne_eq, not_false_eq_true, true_and,
          Option.some.injEq]
        exact eq_comm
  · have hnot : ¬ mark.isPrefixOf cs = true := fun h => hstarts (List.isPrefixOf_iff_prefix.mp h)
    simp [hnot, hstarts]

/-- Another mark than the longest is not read: an equals sign follows it. -/
theorem readComparison?_eq_none {mark other : List Char} {op otherOp : Operator}
    (h : LongestMark cs mark op) (hother : (other, otherOp) ∈ comparisonMarks)
    (hne : (other, otherOp) ≠ (mark, op)) : readComparison? cs other otherOp = none := by
  have hlonger : ∀ a ∈ comparisonMarks, ∀ b ∈ comparisonMarks, a ≠ b → a.1 <+: b.1 →
      (a.1 = ['>'] ∨ a.1 = ['<']) ∧ b.1 = a.1 ++ ['='] := by decide
  rw [Option.eq_none_iff_forall_ne_some]
  intro f hf
  obtain ⟨hstarts, -, hsign, -⟩ := (readComparison?_eq_some_iff hother).mp hf
  have hshort := List.prefix_of_prefix_length_le hstarts h.isPrefix (h.longest _ hother hstarts)
  obtain ⟨hmark, heq⟩ := hlonger _ hother _ h.mem hne hshort
  obtain ⟨rest, rfl⟩ := h.isPrefix
  refine hsign ⟨hmark, ?_⟩
  have heq' : mark = other ++ ['='] := heq
  rw [heq', List.append_assoc, List.drop_left]
  rw [List.singleton_append, trimList_cons (by decide)]
  rfl

theorem exists_longestMark {mark : List Char} {op : Operator} (hmem : (mark, op) ∈ comparisonMarks)
    (hstarts : mark <+: cs) : ∃ mark op, LongestMark cs mark op := by
  have hlength : ∀ m ∈ comparisonMarks, m.1.length ≤ 2 ∧ 1 ≤ m.1.length := by decide
  by_cases hlong : ∃ m ∈ comparisonMarks, m.1 <+: cs ∧ m.1.length = 2
  · obtain ⟨⟨long, longOp⟩, hlongmem, hlongstarts, htwo⟩ := hlong
    exact ⟨long, longOp, hlongmem, hlongstarts, fun m hm _ => htwo ▸ (hlength m hm).1⟩
  · refine ⟨mark, op, hmem, hstarts, fun m hm hmstarts => ?_⟩
    have htwo : m.1.length ≠ 2 := fun htwo => hlong ⟨m, hm, hmstarts, htwo⟩
    have hm' := hlength m hm
    have hmark : 1 ≤ mark.length := (hlength _ hmem).2
    omega

/-- **The marks are read as the longest of them.** -/
theorem findSome?_readComparison?_eq_some_iff {f : Filter} :
    (comparisonMarks.findSome? fun (mark, op) => readComparison? cs mark op) = some f ↔
      IsComparison cs f := by
  constructor
  · intro h
    obtain ⟨⟨mark, op⟩, hmem, hread⟩ := List.exists_of_findSome?_eq_some h
    change readComparison? cs mark op = some f at hread
    obtain ⟨hstarts, -⟩ := (readComparison?_eq_some_iff hmem).mp hread
    obtain ⟨long, longOp, hlong⟩ := exists_longestMark hmem hstarts
    by_cases heq : (mark, op) = (long, longOp)
    · obtain ⟨rfl, rfl⟩ := Prod.mk.inj heq
      exact ⟨mark, op, hlong, ((readComparison?_eq_some_iff hmem).mp hread).2⟩
    · rw [readComparison?_eq_none hlong hmem heq] at hread
      cases hread
  · rintro ⟨mark, op, hlong, hoperand⟩
    have hread := (readComparison?_eq_some_iff hlong.mem).mpr ⟨hlong.isPrefix, hoperand⟩
    cases hfound : comparisonMarks.findSome? fun (mark, op) => readComparison? cs mark op with
    | none =>
      have hnone := List.findSome?_eq_none_iff.mp hfound _ hlong.mem
      exact absurd (hread.symm.trans hnone) (Option.some_ne_none _)
    | some found =>
      obtain ⟨⟨other, otherOp⟩, hmem, hother⟩ := List.exists_of_findSome?_eq_some hfound
      change readComparison? cs other otherOp = some found at hother
      by_cases heq : (other, otherOp) = (mark, op)
      · obtain ⟨rfl, rfl⟩ := Prod.mk.inj heq
        exact hother.symm.trans hread
      · rw [readComparison?_eq_none hlong hmem heq] at hother
        cases hother

/-! ## Expressions -/

theorem isBlank_of_mem {c : Char} (hmem : c ∈ cs) (hc : isSpace c = false) :
    Text.isBlank (String.ofList cs) = false := by
  rw [Text.isBlank, String.toList_ofList]
  exact List.all_eq_false.mpr ⟨c, hmem, by simp [hc]⟩

theorem IsNumeral.isBlank_eq_false (h : IsNumeral cs) :
    Text.isBlank (String.ofList cs) = false := by
  obtain ⟨c, rest, rfl, -⟩ := h.exists_cons
  exact isBlank_of_mem List.mem_cons_self (h.beginsOutside [] c (by simp))

/-- The filter of a range. -/
def ofRange (low high : List Char) : Filter :=
  { operator := .between, value := String.ofList low, secondValue? := some (String.ofList high) }

theorem isActive_ofRange (h : IsNumeral low) (high : List Char) :
    (ofRange low high).isActive = true := by
  simp [isActive, ofRange, Operator.isRange, h.isBlank_eq_false]

/-- A comparison is active under an operator of numbers, and no range. -/
theorem IsComparison.sound {f : Filter} (h : IsComparison cs f) :
    f.isActive = true ∧ f.operator.supports .number = true ∧ f.operator ≠ .between := by
  obtain ⟨mark, op, hlong, hne, -, rfl⟩ := h
  have hmarks : ∀ m ∈ comparisonMarks,
      m.2 ≠ .isEmpty ∧ m.2.isRange = false ∧ m.2.supports .number = true ∧ m.2 ≠ .between := by
    decide
  obtain ⟨hempty, hrange, hsupports, hbetween⟩ := hmarks _ hlong.mem
  obtain ⟨c, hmem, hc⟩ := exists_not_isSpace_of_trimList hne
  refine ⟨?_, hsupports, hbetween⟩
  simp only [isActive, hempty, hrange, if_false, isBlank_of_mem hmem hc]
  rfl

theorem ofExpression?_of_range {raw : String} {p : RangeParts} (hp : p.WellFormed)
    (h : p.text = raw.toList) : ofExpression? raw = some (ofRange p.low p.high) := by
  rw [ofExpression?, ← h, readRange?_text hp]
  rfl

theorem ofExpression?_of_no_range {raw : String}
    (h : ¬ ∃ p : RangeParts, p.WellFormed ∧ p.text = raw.toList) (f : Filter) :
    ofExpression? raw = some f ↔ IsComparison (trimList raw.toList) f := by
  have hnone : readRange? raw.toList = none := by
    refine Option.eq_none_iff_forall_ne_some.mpr fun bounds hbounds => ?_
    obtain ⟨p, hp, htext, -⟩ := exists_parts_of_readRange? hbounds
    exact h ⟨p, hp, htext⟩
  rw [ofExpression?, hnone]
  exact findSome?_readComparison?_eq_some_iff

/-- A range is read exactly from the texts that are written from range parts. -/
theorem ofExpression?_eq_range_iff {raw low high : String} :
    ofExpression? raw = some ⟨.between, low, some high⟩ ↔
      ∃ p : RangeParts, p.WellFormed ∧ p.text = raw.toList ∧
        String.ofList p.low = low ∧ String.ofList p.high = high := by
  constructor
  · intro h
    by_cases hrange : ∃ p : RangeParts, p.WellFormed ∧ p.text = raw.toList
    · obtain ⟨p, hp, htext⟩ := hrange
      rw [ofExpression?_of_range hp htext] at h
      obtain ⟨hlow, hhigh⟩ := (Filter.mk.inj (Option.some.inj h)).2
      exact ⟨p, hp, htext, hlow, Option.some.inj hhigh⟩
    · have hcomparison := (ofExpression?_of_no_range hrange _).mp h
      exact absurd rfl hcomparison.sound.2.2
  · rintro ⟨p, hp, htext, rfl, rfl⟩
    exact ofExpression?_of_range hp htext

/-- **Expressions are read by their grammar.** A range is read exactly from the texts that are
written from range parts, and each of these is written from one choice of parts. Any other text is
read as a comparison, when it is one without the white space around it, and otherwise not at all.
Whatever is read is an active filter with an operator of numbers. -/
theorem ofExpression?_reads_grammar (raw : String) :
    (∀ low high : String, ofExpression? raw = some ⟨.between, low, some high⟩ ↔
      ∃ p : RangeParts, p.WellFormed ∧ p.text = raw.toList ∧
        String.ofList p.low = low ∧ String.ofList p.high = high) ∧
    (∀ p q : RangeParts, p.WellFormed → q.WellFormed → p.text = raw.toList →
      q.text = raw.toList → p = q) ∧
    ((¬ ∃ p : RangeParts, p.WellFormed ∧ p.text = raw.toList) →
      ∀ f, ofExpression? raw = some f ↔ IsComparison (trimList raw.toList) f) ∧
    ∀ f, ofExpression? raw = some f → f.isActive = true ∧ f.operator.supports .number = true := by
  refine ⟨fun low high => ofExpression?_eq_range_iff, fun p q hp hq htext htext' => ?unique,
    ofExpression?_of_no_range, fun f hf => ?sound⟩
  case unique => exact RangeParts.eq_of_text_eq hp hq (htext.trans htext'.symm)
  case sound =>
    by_cases hrange : ∃ p : RangeParts, p.WellFormed ∧ p.text = raw.toList
    · obtain ⟨p, hp, htext⟩ := hrange
      rw [ofExpression?_of_range hp htext] at hf
      obtain rfl := Option.some.inj hf
      exact ⟨isActive_ofRange hp.low p.high, rfl⟩
    · obtain ⟨hactive, hsupports, -⟩ := ((ofExpression?_of_no_range hrange f).mp hf).sound
      exact ⟨hactive, hsupports⟩

end Tabular.Filter
