import Mathlib.Data.String.Basic
import Tabular.Proofs.Instant.Spelling
import Tabular.Proofs.Record.Inference
/-!
# Dates and times among inferred fields

A text that is read as an instant spells a date alone or a time of day
(`Instant.isSome_ofText?_iff`), and never both, since a date alone leaves nothing of the text and a
time of day is what the date in front of it leaves (`Instant.SpellsDate.not_spellsTime`).

An inferred field is typed by the length of its first text instead
(`Schema.domain_of_firstUsable?`). The two agree where the year has four digits: a date alone has
then at most ten bytes (`Instant.SpellsDate.utf8ByteSize_le`), and a time of day makes more, because
each part of a spelling takes its characters off the text (`Instant.length_readPieces?`). They
disagree on short times of day and on dates of signed years.
-/

namespace Tabular

namespace Instant

open Text

/-! ## Lengths -/

/-- The least number of characters that a part of a spelling takes. -/
def Piece.least : Piece → Nat
  | fraction | space => 0
  | _ => 1

section Length

variable {piece : Piece} {pieces : List Piece} {f f' : Fields} {cs rest : List Char} {n width : Nat}

theorem length_trimStart_le (cs : List Char) : (trimStart cs).length ≤ cs.length :=
  (List.dropWhile_suffix _).length_le

theorem length_readNumber? (h : readNumber? width cs = some (n, rest)) :
    rest.length + 1 ≤ cs.length := by
  obtain ⟨digits, rfl, hne, -⟩ := exists_digits_of_readNumber? h
  have := List.length_pos_of_ne_nil hne
  rw [List.length_append]
  omega

theorem length_readYear? {year : Int} (h : readYear? cs = some (year, rest)) :
    rest.length + 1 ≤ cs.length := by
  obtain ⟨front, hne, rfl⟩ := exists_front_of_readYear? h
  have := List.length_pos_of_ne_nil hne
  rw [List.length_append]
  omega

theorem eq_cons_of_readChar? {c : Char} (h : readChar? c cs = some rest) : cs = c :: rest := by
  cases cs with
  | nil => cases h
  | cons d cs =>
    rw [readChar?] at h
    split at h
    case isTrue hd => rw [beq_iff_eq.mp hd, Option.some.inj h]
    case isFalse => cases h

theorem length_readFraction? (h : readFraction? cs = some (n, rest)) :
    rest.length ≤ cs.length := by
  unfold readFraction? at h
  split at h
  · simp only at h
    split at h
    · cases h
    · obtain ⟨-, rfl⟩ := Prod.mk.inj (Option.some.inj h)
      exact (List.dropWhile_suffix _).length_le.trans (Nat.le_succ _)
  · obtain ⟨-, rfl⟩ := Prod.mk.inj (Option.some.inj h)
    exact le_rfl

/-- A part of a spelling takes its characters off the text. -/
theorem Piece.length_read? (h : piece.read? f cs = some (f', rest)) :
    rest.length + piece.least ≤ cs.length := by
  cases piece with
  | space =>
    obtain ⟨-, rfl⟩ := Prod.mk.inj (Option.some.inj h)
    exact length_trimStart_le cs
  | literal c =>
    obtain ⟨more, hread, hmore⟩ := Option.map_eq_some_iff.mp h
    obtain ⟨-, rfl⟩ := Prod.mk.inj hmore
    rw [eq_cons_of_readChar? hread]
    exact le_rfl
  | fraction =>
    obtain ⟨⟨n, more⟩, hread, hmore⟩ := Option.map_eq_some_iff.mp h
    obtain ⟨-, rfl⟩ := Prod.mk.inj hmore
    exact length_readFraction? hread
  | year =>
    obtain ⟨⟨n, more⟩, hread, hmore⟩ := Option.map_eq_some_iff.mp h
    obtain ⟨-, rfl⟩ := Prod.mk.inj hmore
    exact (length_readYear? hread).trans (length_trimStart_le cs)
  | month | day | hour | minute | second =>
    obtain ⟨⟨n, more⟩, hread, hmore⟩ := Option.map_eq_some_iff.mp h
    obtain ⟨-, rfl⟩ := Prod.mk.inj hmore
    exact (length_readNumber? hread).trans (length_trimStart_le cs)

/-- **A spelling takes the characters of all its parts off the text.** -/
theorem length_readPieces? (h : readPieces? pieces f cs = some (f', rest)) :
    rest.length + (pieces.map Piece.least).sum ≤ cs.length := by
  induction pieces generalizing f cs with
  | nil =>
    obtain ⟨-, rfl⟩ := Prod.mk.inj (Option.some.inj h)
    exact le_rfl
  | cons piece pieces ih =>
    obtain ⟨f₁, more, hread, hrest⟩ := readPieces?_cons_eq_some_iff.mp h
    have hpiece := piece.length_read? hread
    have hpieces := ih hrest
    rw [List.map_cons, List.sum_cons]
    omega

end Length

/-! ## Two kinds of spelling -/

/-- The text spells a date alone. -/
def SpellsDate (s : String) : Prop :=
  (readSpelling? dateSpelling {} (trimList s.toList)).isSome = true

/-- The text spells a date with a time of day. -/
def SpellsTime (s : String) : Prop :=
  (readTimestamp? (trimList s.toList)).isSome = true ∨
    ∃ spelling ∈ dateTimeSpellings, (readSpelling? spelling {} (trimList s.toList)).isSome = true

instance (s : String) : Decidable (SpellsDate s) := inferInstanceAs (Decidable (_ = true))

instance (s : String) : Decidable (SpellsTime s) := inferInstanceAs (Decidable (_ ∨ _))

/-- The year is written with four digits. -/
def WritesFourDigitYear (s : String) : Prop :=
  (readExactly? 4 (trimList s.toList)).isSome = true

instance (s : String) : Decidable (WritesFourDigitYear s) := inferInstanceAs (Decidable (_ = true))

section Kind

variable {s : String} {f : Fields} {cs rest : List Char} {n : Nat}

theorem isSome_ofText?_iff : (ofText? s).isSome = true ↔ SpellsDate s ∨ SpellsTime s := by
  unfold ofText? SpellsDate SpellsTime
  simp only
  cases readTimestamp? (trimList s.toList) with
  | some t => simp
  | none =>
    cases readSpelling? dateSpelling {} (trimList s.toList) with
    | some t => simp
    | none => simp [List.findSome?_isSome_iff]

/-- A number in full begins the text. -/
theorem exists_digit_of_readExactly? {width : Nat}
    (h : readExactly? (width + 1) cs = some (n, rest)) :
    ∃ c more, cs = c :: more ∧ isAsciiDigit c = true ∧ trimStart cs = cs := by
  obtain ⟨digits, rfl, hlength, hdigits, -⟩ := exists_digits_of_readExactly? h
  obtain ⟨c, more, rfl⟩ := List.exists_cons_of_length_eq_add_one hlength
  have hc := hdigits c List.mem_cons_self
  exact ⟨c, more ++ rest, rfl, hc,
    trimStart_cons_of_not_isSpace (isSpace_eq_false_of_isAsciiDigit hc)⟩

/-- A number in full is read the same where fewer digits would do. -/
theorem readNumber?_of_readExactly? {width : Nat}
    (h : readExactly? (width + 1) cs = some (n, rest)) :
    readNumber? (width + 1) (trimStart cs) = some (n, rest) := by
  obtain ⟨-, -, -, -, htrim⟩ := exists_digit_of_readExactly? h
  obtain ⟨digits, rfl, hlength, hdigits, rfl⟩ := exists_digits_of_readExactly? h
  rw [htrim]
  exact readNumber?_append (List.ne_nil_of_length_eq_add_one hlength) hlength.le hdigits
    fun hlt => absurd hlength hlt.ne

theorem readYear?_of_readExactly? (h : readExactly? 4 cs = some (n, rest)) :
    readYear? (trimStart cs) = some ((n : Int), rest) := by
  have hread := readNumber?_of_readExactly? h
  obtain ⟨c, more, rfl, hc, htrim⟩ := exists_digit_of_readExactly? h
  rw [htrim] at hread ⊢
  rw [readYear?_of_isAsciiDigit hc, hread, Option.map_some]

/-- A date in full is the date of a spelling, and takes ten characters. -/
theorem readPieces?_of_readFullDate? (h : readFullDate? cs = some (f, rest)) :
    readPieces? dateSpelling {} cs = some (f, rest) ∧ cs.length = 10 + rest.length := by
  unfold readFullDate? at h
  simp only [Option.bind_eq_bind, Option.bind_eq_some_iff] at h
  obtain ⟨⟨year, cs₁⟩, hyear, cs₂, hdash, ⟨month, cs₃⟩, hmonth, cs₄, hdash', ⟨day, cs₅⟩, hday,
    hresult⟩ := h
  obtain ⟨rfl, rfl⟩ := Prod.mk.inj (Option.some.inj hresult)
  have hread : readPieces? dateSpelling {} cs = some ({ year, month, day }, cs₅) := by
    simp only [dateSpelling, readPieces?, Piece.read?, readYear?_of_readExactly? hyear, hdash,
      readNumber?_of_readExactly? hmonth, hdash', readNumber?_of_readExactly? hday,
      Option.map_some]
  obtain ⟨digits, rfl, hlength, -⟩ := exists_digits_of_readExactly? hyear
  obtain ⟨digits', rfl, hlength', -⟩ := exists_digits_of_readExactly? hmonth
  obtain ⟨digits'', rfl, hlength'', -⟩ := exists_digits_of_readExactly? hday
  obtain rfl := eq_cons_of_readChar? hdash
  obtain rfl := eq_cons_of_readChar? hdash'
  refine ⟨hread, ?_⟩
  simp only [List.length_append, List.length_cons]
  omega

/-- A date alone leaves nothing. -/
theorem SpellsDate.exists_readPieces? (h : SpellsDate s) :
    ∃ f, readPieces? dateSpelling {} (trimList s.toList) = some (f, []) := by
  unfold SpellsDate at h
  rw [readSpelling?_eq] at h
  obtain ⟨t, ht⟩ := Option.isSome_iff_exists.mp h
  obtain ⟨⟨f, rest⟩, hread, hrest⟩ := Option.bind_eq_some_iff.mp ht
  simp only at hrest
  split at hrest
  case isTrue hnil => exact ⟨f, hnil ▸ hread⟩
  case isFalse => cases hrest

/-- An internet timestamp has more than its date. -/
theorem exists_readFullDate?_of_readTimestamp? (h : (readTimestamp? cs).isSome = true) :
    ∃ f rest, readFullDate? cs = some (f, rest) ∧ rest ≠ [] := by
  obtain ⟨t, ht⟩ := Option.isSome_iff_exists.mp h
  rw [readTimestamp?_eq] at ht
  obtain ⟨⟨f, rest⟩, hdate, htime⟩ := Option.bind_eq_some_iff.mp ht
  refine ⟨f, rest, hdate, ?_⟩
  rintro rfl
  cases htime

/-- A time of day stands behind a date in full, or is spelled behind the spelling of a date. -/
theorem SpellsTime.cases (h : SpellsTime s) :
    (∃ f rest, readFullDate? (trimList s.toList) = some (f, rest) ∧ rest ≠ []) ∨
      ∃ pieces ∈ timeSpellings, ∃ t,
        readSpelling? (dateSpelling ++ pieces) {} (trimList s.toList) = some t := by
  rcases h with h | ⟨spelling, hspelling, h⟩
  · exact .inl (exists_readFullDate?_of_readTimestamp? h)
  · rw [dateTimeSpellings_eq] at hspelling
    obtain ⟨pieces, hpieces, rfl⟩ := List.mem_map.mp hspelling
    exact .inr ⟨pieces, hpieces, Option.isSome_iff_exists.mp h⟩

/-- A time of day is left by the date in front of it. -/
theorem SpellsTime.exists_readPieces? (h : SpellsTime s) :
    ∃ f rest, readPieces? dateSpelling {} (trimList s.toList) = some (f, rest) ∧ rest ≠ [] := by
  obtain ⟨f, rest, hdate, hrest⟩ | ⟨pieces, hpieces, t, ht⟩ := h.cases
  · exact ⟨f, rest, (readPieces?_of_readFullDate? hdate).1, hrest⟩
  · rw [readSpelling?_append] at ht
    obtain ⟨⟨f, rest⟩, hdate, htime⟩ := Option.bind_eq_some_iff.mp ht
    refine ⟨f, rest, hdate, ?_⟩
    rintro rfl
    have hnone := List.findSome?_eq_none_iff.mp (findSome?_timeSpellings_nil f) pieces hpieces
    rw [hnone] at htime
    cases htime

/-- **No text spells a date alone and a time of day too.** -/
theorem SpellsDate.not_spellsTime (h : SpellsDate s) : ¬ SpellsTime s := by
  intro htime
  obtain ⟨f, hdate⟩ := h.exists_readPieces?
  obtain ⟨f', rest, hdate', hrest⟩ := htime.exists_readPieces?
  rw [hdate] at hdate'
  exact hrest (Prod.mk.inj (Option.some.inj hdate')).2.symm

theorem length_le_utf8Len (cs : List Char) : cs.length ≤ String.utf8Len cs := by
  induction cs with
  | nil => exact le_rfl
  | cons c cs ih =>
    have := c.utf8Size_pos
    rw [List.length_cons, String.utf8Len_cons]
    omega

theorem utf8Len_of_isAsciiDigit (h : ∀ c ∈ cs, isAsciiDigit c = true) :
    String.utf8Len cs = cs.length := by
  induction cs with
  | nil => rfl
  | cons c cs ih =>
    have hc : c.utf8Size = 1 := by
      rw [Char.utf8Size_eq_one_iff, UInt32.le_iff_toNat_le]
      exact (isAsciiDigit_iff.mp (h c List.mem_cons_self)).2.trans (by decide)
    rw [String.utf8Len_cons, ih fun d hd => h d (List.mem_cons_of_mem c hd), hc, List.length_cons]

theorem utf8ByteSize_trim (s : String) :
    (trim s).utf8ByteSize = String.utf8Len (trimList s.toList) := String.utf8ByteSize_ofList _

/-- A number without white space in front of it takes no more than its digits. -/
theorem utf8Len_of_readNumber? {width : Nat}
    (h : readNumber? width (trimStart cs) = some (n, rest)) (hspace : ∀ c ∈ cs, isSpace c = false) :
    String.utf8Len cs ≤ width + String.utf8Len rest ∧ ∀ c ∈ rest, isSpace c = false := by
  rw [trimStart, dropWhile_of_beginsOutside fun c hc => hspace c (List.mem_of_mem_head? hc)] at h
  obtain ⟨digits, rfl, -, hlength, hdigits, -⟩ := exists_digits_of_readNumber? h
  refine ⟨?_, fun c hc => hspace c (List.mem_append_right digits hc)⟩
  rw [String.utf8Len_append, utf8Len_of_isAsciiDigit hdigits]
  omega

/-- A year of four digits is read first, whatever is read behind it. -/
theorem readPieces?_year_of_readExactly? (h : readExactly? 4 cs = some (n, rest))
    (pieces : List Piece) :
    readPieces? (.year :: pieces) {} cs = readPieces? pieces { year := n } rest :=
  readPieces?_cons_of_some (by rw [Piece.read?, readYear?_of_readExactly? h]; rfl) pieces

/-- A date alone with a year of four digits, and no white space, is not longer than its form. -/
theorem SpellsDate.utf8ByteSize_le (h : SpellsDate s) (hyear : WritesFourDigitYear s)
    (hspace : Unspaced (trim s)) : (trim s).utf8ByteSize ≤ 10 := by
  obtain ⟨⟨year, rest⟩, hyear⟩ := Option.isSome_iff_exists.mp hyear
  obtain ⟨f, hread⟩ := h.exists_readPieces?
  rw [dateSpelling, readPieces?_year_of_readExactly? hyear] at hread
  rw [Unspaced, trim, String.toList_ofList] at hspace
  rw [utf8ByteSize_trim]
  generalize trimList s.toList = cs at hyear hspace
  simp only [readPieces?_cons_eq_some_iff, Piece.read?, Option.map_eq_some_iff, Prod.exists,
    Prod.mk.injEq] at hread
  obtain ⟨_, _, ⟨cs₁, hdash, rfl, rfl⟩, _, _, ⟨month, cs₂, hmonth, rfl, rfl⟩, _, _,
    ⟨cs₃, hdash', rfl, rfl⟩, _, _, ⟨day, cs₄, hday, rfl, rfl⟩, hnil⟩ := hread
  obtain rfl : cs₄ = [] := (Prod.mk.inj (Option.some.inj hnil)).2
  -- without white space nothing is passed over, so the text is its digits and two dashes
  obtain ⟨digits, rfl, hlength, hdigits, -⟩ := exists_digits_of_readExactly? hyear
  obtain rfl := eq_cons_of_readChar? hdash
  obtain rfl := eq_cons_of_readChar? hdash'
  obtain ⟨hmonth, hspace⟩ := utf8Len_of_readNumber? hmonth fun c hc => hspace c (by simp [hc])
  obtain ⟨hday, -⟩ := utf8Len_of_readNumber? hday fun c hc => hspace c (List.mem_cons_of_mem _ hc)
  have hdashes : ('-' : Char).utf8Size = 1 := by decide
  rw [String.utf8Len_cons, hdashes] at hmonth
  rw [String.utf8Len_nil] at hday
  rw [String.utf8Len_append, String.utf8Len_cons, hdashes, utf8Len_of_isAsciiDigit hdigits]
  omega

theorem least_le_of_mem_timeSpellings {pieces : List Piece} (h : pieces ∈ timeSpellings) :
    3 ≤ (pieces.map Piece.least).sum := by
  revert pieces
  decide

/-- A time of day behind a year of four digits makes the text longer than a date. -/
theorem SpellsTime.lt_utf8ByteSize (h : SpellsTime s) (hyear : WritesFourDigitYear s) :
    10 < (trim s).utf8ByteSize := by
  obtain ⟨⟨year, rest⟩, hyear⟩ := Option.isSome_iff_exists.mp hyear
  rw [utf8ByteSize_trim]
  refine Nat.lt_of_lt_of_le ?_ (length_le_utf8Len _)
  obtain ⟨f, more, hdate, hmore⟩ | ⟨pieces, hpieces, t, ht⟩ := h.cases
  · have := List.length_pos_of_ne_nil hmore
    rw [(readPieces?_of_readFullDate? hdate).2]
    omega
  · rw [readSpelling?_eq, dateSpelling, List.cons_append,
      readPieces?_year_of_readExactly? hyear] at ht
    obtain ⟨⟨f, more⟩, hread, -⟩ := Option.bind_eq_some_iff.mp ht
    -- behind the year stand two dashes, a month, a day and at least three characters more
    have hrest := length_readPieces? hread
    have htime := least_le_of_mem_timeSpellings hpieces
    obtain ⟨digits, hdigits, hlength, -⟩ := exists_digits_of_readExactly? hyear
    rw [hdigits, List.length_append, hlength]
    simp only [List.map_append, List.sum_append, List.map_cons, List.map_nil, Piece.least,
      List.sum_cons, List.sum_nil] at hrest
    omega

end Kind

end Instant

/-! ## Inferred fields -/

namespace Schema

/-- The field is a date where the text spells a date alone, and a date with a time of day where the
text spells one. -/
def TypedByContent (f : Field) (s : String) : Prop :=
  (f.domain = .date ↔ Instant.SpellsDate s) ∧ (f.domain = .datetime ↔ Instant.SpellsTime s)

variable {records : List Json} {f : Field} {s : String} {t : Instant}

/-- The domain of a field is told by the length of its first text. -/
theorem domain_of_firstUsable? (hf : f ∈ (infer records).fields)
    (hfirst : firstUsable? records f.id = some (.string s)) (hread : Instant.ofText? s = some t) :
    f.domain = if (Text.trim s).utf8ByteSize ≤ 10 then .date else .datetime := by
  have hlength : dateLength = 10 := by decide
  obtain ⟨-, hdomain⟩ := domain_of_mem_infer hf
  rw [hdomain, hfirst, Option.bind_some, Domain.suggestedBy?]
  simp only [hread, hlength]
  split <;> rfl

/-- **Dates and times are told apart by their length, not by what they spell.** A text that is read
as an instant spells a date alone or a time of day, and never both. The field of such a text is
typed by what the text spells exactly if a date alone is what has ten bytes or fewer. This is so of
every text whose year has four digits, unless it spells a date alone with white space in it. -/
theorem infer_typed_by_content_iff (hf : f ∈ (infer records).fields)
    (hfirst : firstUsable? records f.id = some (.string s)) (hread : Instant.ofText? s = some t) :
    (Instant.SpellsTime s ↔ ¬ Instant.SpellsDate s) ∧
      (TypedByContent f s ↔ (Instant.SpellsDate s ↔ (Text.trim s).utf8ByteSize ≤ 10)) ∧
      (Instant.WritesFourDigitYear s → (Instant.SpellsDate s → Text.Unspaced (Text.trim s)) →
        TypedByContent f s) := by
  have hkind : Instant.SpellsDate s ∨ Instant.SpellsTime s :=
    Instant.isSome_ofText?_iff.mp (Option.isSome_of_eq_some hread)
  have htime : Instant.SpellsTime s ↔ ¬ Instant.SpellsDate s :=
    ⟨fun htime hdate => hdate.not_spellsTime htime, hkind.resolve_left⟩
  have hdate : f.domain = .date ↔ (Text.trim s).utf8ByteSize ≤ 10 := by
    rw [domain_of_firstUsable? hf hfirst hread]
    split <;> simp_all
  have hdatetime : f.domain = .datetime ↔ ¬ (Text.trim s).utf8ByteSize ≤ 10 := by
    rw [domain_of_firstUsable? hf hfirst hread]
    split <;> simp_all
  have hiff : TypedByContent f s ↔
      (Instant.SpellsDate s ↔ (Text.trim s).utf8ByteSize ≤ 10) := by
    rw [TypedByContent, hdate, hdatetime, htime, not_iff_not, and_self]
    exact Iff.comm
  refine ⟨htime, hiff, fun hyear hspace => hiff.mpr ⟨?_, ?_⟩⟩
  · exact fun hspells => hspells.utf8ByteSize_le hyear (hspace hspells)
  · intro hle
    by_contra hnot
    exact absurd ((htime.mpr hnot).lt_utf8ByteSize hyear) (Nat.not_lt.mpr hle)

/-- The records of a key with one text. -/
def oneText (s : String) : List Json := [.object [("d", .string s)]]

/-- A time to the minute is longer than a date. -/
theorem infer_typed_by_content_iff_minute :
    ⟨"d", .datetime, none⟩ ∈ (infer (oneText "2024-01-02T08:30")).fields ∧
      TypedByContent ⟨"d", .datetime, none⟩ "2024-01-02T08:30" := by
  have hfield : ⟨"d", .datetime, none⟩ ∈ (infer (oneText "2024-01-02T08:30")).fields := by
    decide +kernel
  refine ⟨hfield, ?_⟩
  have hread : Instant.ofText? "2024-01-02T08:30" = some (.ofMillis 1704184200000) := by
    decide +kernel
  exact (infer_typed_by_content_iff hfield rfl hread).2.2 (by decide +kernel) (by decide +kernel)

/-- A time of day with short numbers is no longer than a date and is typed as one, and a date of a
year below zero is longer than its form and is typed as a time. -/
theorem infer_mistypes :
    (∃ f ∈ (infer (oneText "24-1-1 3:4")).fields,
      firstUsable? (oneText "24-1-1 3:4") f.id = some (.string "24-1-1 3:4") ∧
      Instant.SpellsTime "24-1-1 3:4" ∧ f.domain = .date ∧ ¬ TypedByContent f "24-1-1 3:4") ∧
    ∃ f ∈ (infer (oneText "-0044-03-15")).fields,
      firstUsable? (oneText "-0044-03-15") f.id = some (.string "-0044-03-15") ∧
      Instant.SpellsDate "-0044-03-15" ∧ f.domain = .datetime ∧
      ¬ TypedByContent f "-0044-03-15" := by
  have htime : Instant.SpellsTime "24-1-1 3:4" := by decide +kernel
  have hdate : Instant.SpellsDate "-0044-03-15" := by decide +kernel
  refine ⟨⟨⟨"d", .date, none⟩, by decide +kernel, rfl, htime, rfl, fun h => ?_⟩,
    ⟨"d", .datetime, none⟩, by decide +kernel, rfl, hdate, rfl, fun h => ?_⟩
  · exact (h.1.mp rfl).not_spellsTime htime
  · exact hdate.not_spellsTime (h.2.mp rfl)

end Schema

end Tabular
