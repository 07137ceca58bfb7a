import Tabular.Proofs.Group.Label
import Tabular.Proofs.Instant.Spelling
/-!
# Written instants are read back

The calendar's range is whole years (`Instant.inCalendar_iff`), so the fields that an instant of the
calendar is written with are the fields of a valid date, and are of that instant
(`Instant.instant?_fields`).

An instant is written as a date, as a date with a time of day and an offset, or as a plain number. A
date is read in any year (`Instant.ofText?_dateText`). A time of day with an offset is read as an
internet timestamp, whose date has no sign, and by no other spelling
(`Instant.ofText?_stampText`). A plain number has no dash behind its first character and is not read
(`Instant.ofText?_toString`). Together they say which written instants are read back, and how much
of the instant is kept (`Instant.written_reads_back`).
-/

namespace Tabular.Instant

open Text

/-! ## The calendar -/

/-- The calendar's range is whole years. -/
theorem inCalendar_iff {t : Instant} :
    t.inCalendar = true ↔ Date.minYear ≤ t.date.year ∧ t.date.year ≤ Date.maxYear := by
  rw [date, Date.year_mem_iff, inCalendar, decide_eq_true_iff]
  unfold day minCalendar maxCalendar millisPerDay
  omega

/-- A year of four digits. -/
def HasPlainYear (t : Instant) : Prop := 0 ≤ t.date.year ∧ t.date.year ≤ 9999

instance (t : Instant) : Decidable t.HasPlainYear := inferInstanceAs (Decidable (_ ∧ _))

theorem HasPlainYear.inCalendar {t : Instant} (h : t.HasPlainYear) : t.inCalendar = true := by
  rw [inCalendar_iff]
  unfold HasPlainYear at h
  unfold Date.minYear Date.maxYear
  omega

section Fields

variable {t : Instant}

theorem isValid_date (h : t.inCalendar = true) : t.date.isValid = true :=
  Date.isValid_ofDayNumber (inCalendar_iff.mp h)

theorem dayNumber_date (t : Instant) : t.date.dayNumber = t.day := Date.dayNumber_ofDayNumber t.day

theorem Fields.instant?_eq {f : Fields} {d : Date} (hdate : ⟨f.year, f.month, f.day⟩ = d)
    (hvalid : d.isValid = true) (hhour : f.hour < 24) (hminute : f.minute < 60)
    (hsecond : f.second ≤ 60) :
    f.instant? = some (ofMillis (d.dayNumber * millisPerDay +
      (f.hour * 3600 + f.minute * 60 + f.second) * 1000 + f.milli)) := by
  simp only [Fields.instant?, hdate, hvalid, hhour, hminute, hsecond, and_self, if_true]
  rfl

theorem instant?_dateFields (h : t.inCalendar = true) :
    t.dateFields.instant? = some t.startOfDay := by
  rw [Fields.instant?_eq (d := t.date) rfl (isValid_date h) (show 0 < 24 by decide)
    (show 0 < 60 by decide) (show 0 ≤ 60 by decide), dayNumber_date, startOfDay]
  simp [dateFields]

/-- The parts of an instant are of that instant. -/
theorem instant?_fields (h : t.inCalendar = true) (milli : Nat) :
    (t.fields milli).instant? = some (ofMillis (t.seconds * 1000 + milli)) := by
  have hlt := t.secondOfDay_lt
  have hseconds : t.seconds = t.day * 86400 + t.secondOfDay := by
    unfold seconds day secondOfDay millisOfDay millisPerDay
    omega
  rw [Fields.instant?_eq (d := t.date) rfl (isValid_date h)
    (show t.secondOfDay / 3600 < 24 by omega) (show t.secondOfDay / 60 % 60 < 60 by omega)
    (show t.secondOfDay % 60 ≤ 60 by omega), dayNumber_date, hseconds]
  refine congrArg (some ∘ ofMillis) ?_
  simp only [fields]
  unfold millisPerDay
  omega

end Fields

/-! ## Texts in calendar form -/

section Read

variable {t : Instant} {rest more : List Char} {milli : Nat}

theorem readTimestamp?_cons_of_not_isAsciiDigit {c : Char} (hc : isAsciiDigit c = false)
    (cs : List Char) : readTimestamp? (c :: cs) = none := by
  have hread : readExactly? 4 (c :: cs) = none := by simp [readExactly?, hc]
  rw [readTimestamp?, hread]
  rfl

theorem yearText_of_hasPlainYear (h : t.HasPlainYear) :
    yearText t.date.year = padded 4 t.date.year.natAbs := by
  have hsign : yearSign t.date.year = "" := by
    rw [yearSign, if_neg (Int.not_lt.mpr h.1), if_neg (Int.not_lt.mpr h.2)]
  rw [yearText_eq, hsign, String.empty_append]

/-- A date of another year begins with a sign. -/
theorem exists_sign_dateText (h : ¬ t.HasPlainYear) :
    ∃ c cs, t.dateText.toList = c :: cs ∧ isAsciiDigit c = false := by
  have hsign : yearSign t.date.year = "-" ∨ yearSign t.date.year = "+" := by
    unfold HasPlainYear at h
    unfold yearSign
    split
    · exact .inl rfl
    · rw [if_pos (by omega)]
      exact .inr rfl
  rw [toList_dateText, yearText_eq, String.toList_append]
  rcases hsign with hsign | hsign <;> rw [hsign]
  · exact ⟨'-', _, rfl, by decide⟩
  · exact ⟨'+', _, rfl, by decide⟩

theorem readExactly?_two {n : Nat} (h : n < 100) (rest : List Char) :
    readExactly? 2 ((padded 2 n).toList ++ rest) = some (n, rest) :=
  readExactly?_padded (by decide) h rest

theorem readFullDate?_dateText (h : t.HasPlainYear) (rest : List Char) :
    readFullDate? (t.dateText.toList ++ rest) = some (t.dateFields, rest) := by
  obtain ⟨hmonth, hday⟩ := t.date_bounds
  have hfour {cs : List Char} : readExactly? 4 ((padded 4 t.date.year.natAbs).toList ++ cs) =
      some (t.date.year.natAbs, cs) :=
    readExactly?_padded (by decide) (by unfold HasPlainYear at h; omega) cs
  have hyear : ((t.date.year.natAbs : Nat) : Int) = t.date.year := Int.natAbs_of_nonneg h.1
  simp only [readFullDate?, toList_dateText, yearText_of_hasPlainYear h, List.append_assoc,
    List.cons_append, hfour, readExactly?_two hmonth, readExactly?_two hday, readChar?_cons,
    Option.bind_eq_bind, Option.bind_some, hyear]
  rfl

theorem readFullTime?_timeText (h : t.inCalendar = true)
    (hfraction : readFraction? rest = some (milli, ['Z'])) :
    readFullTime? t.dateFields ('T' :: (t.timeText.toList ++ rest)) =
      some (ofMillis (t.seconds * 1000 + milli)) := by
  have hlt := t.secondOfDay_lt
  simp only [readFullTime?, toList_timeText, List.append_assoc, List.cons_append,
    readExactly?_two (show t.secondOfDay / 3600 < 100 by omega),
    readExactly?_two (show t.secondOfDay / 60 % 60 < 100 by omega),
    readExactly?_two (show t.secondOfDay % 60 < 100 by omega), readChar?_cons, hfraction,
    Option.bind_eq_bind, Option.bind_some]
  rw [if_pos (by decide), show readOffset? ['Z'] = some 0 from rfl, Option.bind_some]
  change (t.fields milli).instant?.bind (fun clock => some (ofMillis (clock.toInt - 0 * 60000))) = _
  rw [instant?_fields h, Option.bind_some, Int.zero_mul, Int.sub_zero, ofMillis_toInt]

theorem readTimestamp?_dateText (t : Instant) : readTimestamp? t.dateText.toList = none := by
  by_cases h : t.HasPlainYear
  · rw [readTimestamp?_eq, ← List.append_nil t.dateText.toList, readFullDate?_dateText h]
    rfl
  · obtain ⟨c, cs, hcs, hc⟩ := exists_sign_dateText h
    rw [hcs, readTimestamp?_cons_of_not_isAsciiDigit hc]

/-- **A date is read as the start of its day**, in any year of the calendar. -/
theorem ofText?_dateText (h : t.inCalendar = true) : ofText? t.dateText = some t.startOfDay := by
  have hdate := readPieces?_dateText t []
  rw [List.append_nil] at hdate
  rw [ofText?_eq, trimList_eq_self t.unspaced_dateText, readTimestamp?_dateText, hdate,
    Option.none_or, Option.bind_some, afterDate?, if_pos rfl, instant?_dateFields h]

/-- **A time of day with an offset is read behind a date of a plain year**, and no other, since the
date of an internet timestamp has no sign. -/
theorem ofText?_stampText {s : String} (h : t.inCalendar = true) (hspace : Unspaced s)
    (hs : s.toList = t.dateText.toList ++ 'T' :: (t.timeText.toList ++ rest))
    (hfraction : readFraction? rest = some (milli, ['Z'])) :
    ofText? s = if t.HasPlainYear then some (ofMillis (t.seconds * 1000 + milli)) else none := by
  rw [ofText?_eq, trimList_eq_self hspace, hs]
  split
  case isTrue hyear =>
    rw [readTimestamp?_eq, readFullDate?_dateText hyear, Option.bind_some,
      readFullTime?_timeText h hfraction, Option.some_or]
  case isFalse hyear =>
    obtain ⟨c, cs, hcs, hc⟩ := exists_sign_dateText hyear
    rw [readPieces?_dateText, Option.bind_some,
      afterDate?_offset t t.dateFields hfraction (List.cons_ne_nil _ _), hcs, List.cons_append,
      readTimestamp?_cons_of_not_isAsciiDigit hc, Option.none_or]

end Read

/-! ## Plain numbers -/

section Plain

variable {width n : Nat} {cs rest : List Char}

theorem suffix_tail_of_append {front : List Char} (hne : front ≠ []) :
    rest <:+ (front ++ rest).tail := by
  obtain ⟨c, front, rfl⟩ := List.exists_cons_of_ne_nil hne
  exact List.suffix_append ..

theorem readExactly?_suffix (h : readExactly? (width + 1) cs = some (n, rest)) :
    rest <:+ cs.tail := by
  obtain ⟨digits, rfl, hlength, -⟩ := exists_digits_of_readExactly? h
  exact suffix_tail_of_append (List.ne_nil_of_length_eq_add_one hlength)

/-- What follows a year is behind the first character. -/
theorem readYear?_suffix {year : Int} (h : readYear? cs = some (year, rest)) :
    rest <:+ cs.tail := by
  obtain ⟨front, hne, rfl⟩ := exists_front_of_readYear? h
  exact suffix_tail_of_append hne

theorem readChar?_of_not_mem {c : Char} (h : c ∉ cs) : readChar? c cs = none := by
  cases cs with
  | nil => rfl
  | cons d cs =>
    rw [readChar?, if_neg]
    rw [beq_iff_eq]
    rintro rfl
    exact h List.mem_cons_self

/-- **No date is read from a text with no dash behind its first character.** -/
theorem ofText?_of_not_mem_dash {s : String} (hspace : Unspaced s) (h : '-' ∉ s.toList.tail) :
    ofText? s = none := by
  have hdash {rest : List Char} (hrest : rest <:+ s.toList.tail) : readChar? '-' rest = none :=
    readChar?_of_not_mem fun hmem => h (hrest.subset hmem)
  have hfull : readFullDate? s.toList = none := by
    unfold readFullDate?
    rcases hyear : readExactly? 4 s.toList with _ | ⟨year, rest⟩
    · rfl
    · simp only [Option.bind_eq_bind, Option.bind_some, hdash (readExactly?_suffix hyear),
        Option.bind_none]
  have htrim : trimStart s.toList = s.toList :=
    dropWhile_of_beginsOutside fun c hc => hspace c (List.mem_of_mem_head? hc)
  have hdate : readPieces? dateSpelling {} s.toList = none := by
    simp only [dateSpelling, readPieces?, Piece.read?, htrim]
    rcases hyear : readYear? s.toList with _ | ⟨year, rest⟩
    · rfl
    · simp only [Option.map_some, hdash (readYear?_suffix hyear), Option.map_none]
  rw [ofText?_eq, trimList_eq_self hspace, readTimestamp?_eq, hfull, hdate]
  rfl

theorem toList_toString (n : Int) :
    (toString n).toList = (if n < 0 then ['-'] else []) ++ Nat.toDigits 10 n.natAbs := by
  cases n with
  | ofNat n =>
    rw [if_neg (show ¬ Int.ofNat n < 0 from Int.not_lt.mpr (Int.natCast_nonneg n))]
    exact String.toList_ofList
  | negSucc n =>
    rw [if_pos (by omega)]
    exact (String.toList_append ..).trans (congrArg ('-' :: ·) String.toList_ofList)

theorem unspaced_toString (n : Int) : Unspaced (toString n) := by
  intro c hc
  rw [toList_toString] at hc
  rcases List.mem_append.mp hc with hc | hc
  · split at hc
    · rw [List.mem_singleton.mp hc]
      decide
    · cases hc
  · exact isSpace_eq_false_of_isAsciiDigit (isAsciiDigit_of_mem_toDigits hc)

/-- A plain number is no date. -/
theorem ofText?_toString (n : Int) : ofText? (toString n) = none := by
  have hdash : '-' ∉ Nat.toDigits 10 n.natAbs :=
    fun h => absurd (isAsciiDigit_of_mem_toDigits h) (by decide)
  refine ofText?_of_not_mem_dash (unspaced_toString n) ?_
  rw [toList_toString]
  split
  · exact hdash
  · exact fun h => hdash (List.mem_of_mem_tail h)

end Plain

/-! ## Written instants -/

section Written

variable {t : Instant}

theorem text_of_not_inCalendar (h : ¬ t.inCalendar = true) : t.text = toString t.toInt := if_neg h

theorem stamp_of_not_inCalendar (h : ¬ t.inCalendar = true) : t.stamp = toString t.toInt := if_neg h

/-- The text of an instant is read as its whole second where its date stands alone, or has a plain
year. -/
theorem ofText?_text (t : Instant) :
    ofText? t.text = if t.inCalendar ∧ (t.HasPlainYear ∨ t.millisOfDay = 0) then
      some (ofMillis (t.seconds * 1000)) else none := by
  by_cases h : t.inCalendar = true
  · by_cases hmidnight : t.millisOfDay = 0
    · have hday : t.day * millisPerDay = t.seconds * 1000 := by
        unfold millisOfDay at hmidnight
        unfold day seconds
        unfold millisPerDay at hmidnight ⊢
        omega
      rw [if_pos ⟨h, .inr hmidnight⟩, text, if_pos h, if_pos hmidnight, ofText?_dateText h,
        startOfDay, hday]
    · have htext : t.text = t.dateText ++ "T" ++ t.timeText ++ "Z" := by
        rw [text, if_pos h, if_neg hmidnight]
      have hspace : Unspaced t.text := by
        rw [htext]
        exact ((t.unspaced_dateText.append (by decide)).append t.unspaced_timeText).append
          (by decide)
      have hlist : t.text.toList = t.dateText.toList ++ 'T' :: (t.timeText.toList ++ ['Z']) := by
        simp [htext]
      have hfraction : readFraction? ['Z'] = some (0, ['Z']) := rfl
      rw [ofText?_stampText h hspace hlist hfraction]
      simp only [h, hmidnight, or_false, true_and, Int.natCast_zero, Int.add_zero]
  · rw [if_neg fun hall => h hall.1, text_of_not_inCalendar h, ofText?_toString]

theorem readFraction?_fractionText (t : Instant) :
    readFraction? (t.fractionText.toList ++ ['Z']) =
      some ((t.millisOfDay % 1000).toNat, ['Z']) := by
  have hlt : (t.millisOfDay % 1000).toNat < 10 ^ 3 := by omega
  unfold fractionText
  split
  case isTrue hzero =>
    rw [hzero]
    rfl
  case isFalse =>
    have hdigits : ∀ c ∈ (padded 3 (t.millisOfDay % 1000).toNat).toList, isAsciiDigit c = true :=
      fun c => isAsciiDigit_of_mem_padded
    have houtside : BeginsOutside isAsciiDigit ['Z'] := by rintro c ⟨⟩; rfl
    have hlength := length_padded (show 0 < 3 by decide) hlt
    rw [String.toList_append, List.append_assoc]
    change readFraction? ('.' :: (_ ++ ['Z'])) = _
    simp only [readFraction?, takeWhile_append_eq hdigits houtside,
      dropWhile_append_eq hdigits houtside, List.isEmpty_iff, padded_ne_nil (show 0 < 3 by decide),
      if_false, milliOfDigits, List.take_of_length_le hlength.le, hlength, natOfDigits_padded]
    exact congrArg (fun n => some (n, ['Z'])) (Nat.mul_one _)

/-- The stamp of an instant is read as that instant where its year is plain. -/
theorem ofText?_stamp (t : Instant) :
    ofText? t.stamp = if t.HasPlainYear then some t else none := by
  by_cases h : t.inCalendar = true
  · have hlist : t.stamp.toList =
        t.dateText.toList ++ 'T' :: (t.timeText.toList ++ (t.fractionText.toList ++ ['Z'])) := by
      simp [stamp_eq h]
    have hmillis : t.seconds * 1000 + ((t.millisOfDay % 1000).toNat : Int) = t.toInt := by
      unfold seconds millisOfDay millisPerDay
      omega
    rw [ofText?_stampText h (unspaced_stamp h) hlist t.readFraction?_fractionText, hmillis,
      ofMillis_toInt]
  · rw [if_neg fun hyear => h hyear.inCalendar, stamp_of_not_inCalendar h, ofText?_toString]

/-- The label of an instant among times is its time label, also outside the calendar. -/
theorem label_of_instant {domain : Domain} (hclass : domain.comparisonClass = .date) :
    (GroupValue.of (.instant t) domain).label = GroupValue.timeLabel t domain := by
  by_cases h : t.inCalendar = true
  · have hread : (Value.instant t).asInstant? = some t := Option.filter_eq_some_iff.mpr ⟨rfl, h⟩
    have hlabel : GroupValue.labelOf? domain (Reading.of (.instant t) domain) =
        some (GroupValue.timeLabel t domain) := by
      rw [(Reading.of_eq_time_iff hclass).mpr hread, GroupValue.labelOf?, ofMillis_toInt]
    rw [GroupValue.of, hlabel]
    rfl
  · have hnone : (Value.instant t).asInstant? = none := if_neg h
    have hread : (Value.instant t).isReadable domain = false := by
      rw [Value.isReadable, hclass, hnone]
      rfl
    have hshown : Text.trim (Value.instant t).shown = toString t.toInt := by
      rw [Value.shown, text_of_not_inCalendar h, (unspaced_toString _).trim_eq_self]
    rw [GroupValue.of_of_not_isReadable hread rfl, hshown, GroupValue.timeLabel,
      if_neg fun hdate => h hdate.2, stamp_of_not_inCalendar h]
    rfl

/-- The calendar is a day away from the ends of the range, and more. -/
theorem toInt_ofMillis {n : Int} (h : t.inCalendar = true) (hlow : t.toInt - millisPerDay ≤ n)
    (hhigh : n ≤ t.toInt) : (ofMillis n).toInt = n := by
  have hcalendar := of_decide_eq_true h
  unfold minCalendar maxCalendar at hcalendar
  unfold millisPerDay at hlow
  rw [ofMillis, toInt, toInt_clampInt64]
  omega

/-- **Written instants are read back.** The text of an instant of the calendar says its second, and
is read where the year is plain or the date stands alone. The label of a time says its millisecond,
and is read where the year is plain. The label of a date is read in any year of the calendar, as the
start of the day. -/
theorem written_reads_back (t : Instant) :
    (ofText? t.text).map toInt =
        (if t.inCalendar ∧ (t.HasPlainYear ∨ t.millisOfDay = 0) then
          some (t.toInt / 1000 * 1000) else none) ∧
      (ofText? (GroupValue.of (.instant t) .datetime).label).map toInt =
        (if t.HasPlainYear then some t.toInt else none) ∧
      (ofText? (GroupValue.of (.instant t) .date).label).map toInt =
        if t.inCalendar then some (t.day * millisPerDay) else none := by
  have hsecond (h : t.inCalendar = true) :
      (ofMillis (t.seconds * 1000)).toInt = t.toInt / 1000 * 1000 :=
    toInt_ofMillis h (by unfold seconds millisPerDay; omega) (by unfold seconds; omega)
  have hday (h : t.inCalendar = true) : t.startOfDay.toInt = t.day * millisPerDay :=
    toInt_ofMillis h (by unfold day millisPerDay; omega) (by unfold day millisPerDay; omega)
  refine ⟨?_, ?_, ?_⟩
  · rw [ofText?_text]
    split
    case isTrue h => rw [Option.map_some, hsecond h.1]
    case isFalse => rfl
  · have hlabel : GroupValue.timeLabel t .datetime = t.stamp := if_neg nofun
    rw [label_of_instant rfl, hlabel, ofText?_stamp]
    split <;> rfl
  · rw [label_of_instant rfl]
    by_cases h : t.inCalendar = true
    · have hlabel : GroupValue.timeLabel t .date = t.dateText := if_pos ⟨rfl, h⟩
      rw [hlabel, ofText?_dateText h, if_pos h, Option.map_some, hday h]
    · have hlabel : GroupValue.timeLabel t .date = t.stamp := if_neg fun hdate => h hdate.2
      rw [hlabel, stamp_of_not_inCalendar h, ofText?_toString, if_neg h, Option.map_none]

end Written

end Tabular.Instant
