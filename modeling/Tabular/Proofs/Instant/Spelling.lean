import Tabular.Proofs.Instant.Label
/-!
# Reading spellings

A spelling is read piece by piece, so reading two lists of pieces one after the other is reading
them together (`Instant.readSpelling?_append`). Every spelling begins with a date, that of an
internet timestamp with every number in full (`Instant.readTimestamp?_eq`); any other date is read
once, and either ends the text or has a time of day behind it (`Instant.ofText?_eq`).

Numbers that are written with as many digits as are read, or that end where no digit follows, are
read back whatever stands behind them. So the date of an instant is read back from its text
(`Instant.readPieces?_dateText`), a year of more than four digits or below zero by its sign, and
the time of day from its text (`Instant.readPieces?_secondSpelling`). A spelling to the minute leaves
the second, and none but the internet timestamp takes an offset (`Instant.afterDate?_offset`).
-/

namespace Tabular.Instant

open Text

/-! ## Numbers -/

section Number

variable {width n : Nat} {digits cs rest : List Char}

theorem readExactly?_append (hlength : digits.length = width)
    (hdigits : ∀ c ∈ digits, isAsciiDigit c = true) :
    readExactly? width (digits ++ rest) = some (natOfDigits digits, rest) := by
  have htake : (digits ++ rest).take width = digits := List.take_left' hlength
  have hdrop : (digits ++ rest).drop width = rest := List.drop_left' hlength
  have hall : digits.all isAsciiDigit = true := List.all_eq_true.mpr hdigits
  simp only [readExactly?, htake, hdrop, hlength, hall, decide_true, Bool.and_self, if_true]

/-- Digits that are not more than the width are read when no digit follows that could be one of
them. -/
theorem readNumber?_append (hne : digits ≠ []) (hlength : digits.length ≤ width)
    (hdigits : ∀ c ∈ digits, isAsciiDigit c = true)
    (hrest : digits.length < width → BeginsOutside isAsciiDigit rest) :
    readNumber? width (digits ++ rest) = some (natOfDigits digits, rest) := by
  have hcut : ((digits ++ rest).take width).takeWhile isAsciiDigit = digits := by
    obtain ⟨k, rfl⟩ := Nat.exists_eq_add_of_le hlength
    rw [List.take_length_add_append]
    refine takeWhile_append_eq hdigits ?_
    cases k with
    | zero => exact nofun
    | succ k => exact (hrest (by omega)).of_isPrefix (List.take_prefix ..)
  have hdrop : (digits ++ rest).drop digits.length = rest := List.drop_left' rfl
  simp only [readNumber?, hcut, List.isEmpty_iff, hne, if_false, hdrop]

theorem readExactly?_padded (hpos : 0 < width) (h : n < 10 ^ width) (rest : List Char) :
    readExactly? width ((padded width n).toList ++ rest) = some (n, rest) := by
  rw [readExactly?_append (length_padded hpos h) fun _ => isAsciiDigit_of_mem_padded,
    natOfDigits_padded]

theorem padded_ne_nil (hpos : 0 < width) (n : Nat) : (padded width n).toList ≠ [] := by
  intro h
  have hlength := congrArg List.length h
  rw [padded, String.toList_ofList, List.length_append, List.length_replicate] at hlength
  simp only [List.length_nil] at hlength
  omega

theorem readNumber?_padded (hpos : 0 < width) (h : n < 10 ^ width) (rest : List Char) :
    readNumber? width ((padded width n).toList ++ rest) = some (n, rest) := by
  have hlength := length_padded hpos h
  rw [readNumber?_append (padded_ne_nil hpos n) hlength.le (fun _ => isAsciiDigit_of_mem_padded)
    (fun hlt => absurd hlength hlt.ne), natOfDigits_padded]

/-- A number of any length is read where no digit follows. -/
theorem readNumber?_padded_of_beginsOutside (hpos : 0 < width)
    (hrest : BeginsOutside isAsciiDigit rest) :
    readNumber? ((padded width n).toList ++ rest).length ((padded width n).toList ++ rest) =
      some (n, rest) := by
  rw [readNumber?_append (padded_ne_nil hpos n) (by simp) (fun _ => isAsciiDigit_of_mem_padded)
    (fun _ => hrest), natOfDigits_padded]

/-- What has been read of a number are digits. -/
theorem exists_digits_of_readNumber? (h : readNumber? width cs = some (n, rest)) :
    ∃ digits, cs = digits ++ rest ∧ digits ≠ [] ∧ digits.length ≤ width ∧
      (∀ c ∈ digits, isAsciiDigit c = true) ∧ natOfDigits digits = n := by
  unfold readNumber? at h
  simp only [List.isEmpty_iff] at h
  split at h
  · cases h
  case isFalse hne =>
    obtain ⟨rfl, rfl⟩ := Prod.mk.inj (Option.some.inj h)
    refine ⟨_, ?_, hne, ?_, fun c hc => List.mem_takeWhile_imp hc, rfl⟩
    · have hprefix := (List.takeWhile_prefix isAsciiDigit (l := cs.take width)).trans
        (List.take_prefix width cs)
      exact (List.prefix_iff_eq_append.mp hprefix).symm
    · exact (List.takeWhile_prefix _).length_le.trans (List.length_take_le ..)

theorem exists_digits_of_readExactly? (h : readExactly? width cs = some (n, rest)) :
    ∃ digits, cs = digits ++ rest ∧ digits.length = width ∧
      (∀ c ∈ digits, isAsciiDigit c = true) ∧ natOfDigits digits = n := by
  unfold readExactly? at h
  simp only [Bool.and_eq_true, decide_eq_true_eq, List.all_eq_true] at h
  split at h
  case isTrue hdigits =>
    obtain ⟨rfl, rfl⟩ := Prod.mk.inj (Option.some.inj h)
    exact ⟨_, (List.take_append_drop ..).symm, hdigits.1, hdigits.2, rfl⟩
  · cases h

/-- No white space is passed over in front of a number. -/
theorem trimStart_padded (hpos : 0 < width) (n : Nat) (rest : List Char) :
    trimStart ((padded width n).toList ++ rest) = (padded width n).toList ++ rest := by
  obtain ⟨c, more, hcs⟩ := List.exists_cons_of_ne_nil (padded_ne_nil hpos n)
  have hc : isAsciiDigit c = true :=
    @isAsciiDigit_of_mem_padded width n c (hcs ▸ List.mem_cons_self)
  rw [hcs, List.cons_append, trimStart_cons_of_not_isSpace (isSpace_eq_false_of_isAsciiDigit hc)]

end Number

/-! ## Pieces -/

/-- Reads pieces of a spelling, and gives what is left of the text. -/
def readPieces? : List Piece → Fields → List Char → Option (Fields × List Char)
  | [], f, cs => some (f, cs)
  | piece :: pieces, f, cs =>
    match piece.read? f cs with
    | some (f, rest) => readPieces? pieces f rest
    | none => none

section Pieces

variable {piece : Piece} {front back : List Piece} {f f' : Fields} {cs rest : List Char}

theorem readPieces?_cons_of_some (h : piece.read? f cs = some (f', rest)) (pieces : List Piece) :
    readPieces? (piece :: pieces) f cs = readPieces? pieces f' rest := by
  rw [readPieces?, h]

theorem readPieces?_cons_eq_some_iff {pieces : List Piece} {r : Fields × List Char} :
    readPieces? (piece :: pieces) f cs = some r ↔
      ∃ f' rest, piece.read? f cs = some (f', rest) ∧ readPieces? pieces f' rest = some r := by
  rw [readPieces?]
  rcases piece.read? f cs with _ | ⟨f', rest⟩ <;> simp

theorem readPieces?_append (front back : List Piece) (f : Fields) (cs : List Char) :
    readPieces? (front ++ back) f cs =
      (readPieces? front f cs).bind fun r => readPieces? back r.1 r.2 := by
  induction front generalizing f cs with
  | nil => rfl
  | cons piece front ih =>
    rw [List.cons_append, readPieces?, readPieces?]
    cases piece.read? f cs with
    | none => rfl
    | some r => exact ih r.1 r.2

/-- A spelling in two parts is read in two parts. -/
theorem readSpelling?_append (front back : List Piece) (f : Fields) (cs : List Char) :
    readSpelling? (front ++ back) f cs =
      (readPieces? front f cs).bind fun r => readSpelling? back r.1 r.2 := by
  induction front generalizing f cs with
  | nil => rfl
  | cons piece front ih =>
    rw [List.cons_append, readSpelling?, readPieces?]
    cases piece.read? f cs with
    | none => rfl
    | some r => exact ih r.1 r.2

/-- A spelling is read whole when its pieces leave nothing. -/
theorem readSpelling?_eq (pieces : List Piece) (f : Fields) (cs : List Char) :
    readSpelling? pieces f cs =
      (readPieces? pieces f cs).bind fun r => if r.2 = [] then r.1.instant? else none := by
  have hnil : readSpelling? [] = fun f cs => if cs = [] then f.instant? else none := by
    funext f cs
    cases cs <;> rfl
  have h := readSpelling?_append pieces [] f cs
  rw [List.append_nil] at h
  rw [h, hnil]

end Pieces

/-! ## Spellings -/

/-- Reads a date of which every number is in full, as an internet timestamp has it. -/
def readFullDate? (cs : List Char) : Option (Fields × List Char) := do
  let (year, cs) ← readExactly? 4 cs
  let cs ← readChar? '-' cs
  let (month, cs) ← readExactly? 2 cs
  let cs ← readChar? '-' cs
  let (day, cs) ← readExactly? 2 cs
  return ({ year, month, day }, cs)

/-- Reads what follows the date of an internet timestamp. -/
def readFullTime? (f : Fields) (cs : List Char) : Option Instant := do
  let cs ← match cs with
    | c :: rest => if c == 'T' || c == 't' || c == ' ' then some rest else none
    | [] => none
  let (hour, cs) ← readExactly? 2 cs
  let cs ← readChar? ':' cs
  let (minute, cs) ← readExactly? 2 cs
  let cs ← readChar? ':' cs
  let (second, cs) ← readExactly? 2 cs
  let (milli, cs) ← readFraction? cs
  let offset ← readOffset? cs
  let clock ← Fields.instant? { f with hour, minute, second, milli }
  return ofMillis (clock.toInt - offset * 60000)

/-- An internet timestamp is a date and what follows it. -/
theorem readTimestamp?_eq (cs : List Char) :
    readTimestamp? cs = (readFullDate? cs).bind fun r => readFullTime? r.1 r.2 := by
  unfold readTimestamp? readFullDate?
  rcases readExactly? 4 cs with _ | ⟨year, cs⟩
  · rfl
  dsimp only [Option.bind_eq_bind, Option.bind_some]
  rcases readChar? '-' cs with _ | cs
  · rfl
  dsimp only [Option.bind_some]
  rcases readExactly? 2 cs with _ | ⟨month, cs⟩
  · rfl
  dsimp only [Option.bind_some]
  rcases readChar? '-' cs with _ | cs
  · rfl
  dsimp only [Option.bind_some]
  rcases readExactly? 2 cs with _ | ⟨day, cs⟩
  · rfl
  rfl

/-- The spelling of a time of day to the minute. -/
def minuteSpelling : List Piece := [.hour, .literal ':', .minute]

/-- The spelling of a time of day to the second and its fraction. -/
def secondSpelling : List Piece := minuteSpelling ++ [.literal ':', .second, .fraction]

/-- What follows the date in the spellings of a date with a time of day. -/
def timeSpellings : List (List Piece) :=
  [.literal 'T' :: secondSpelling, .space :: secondSpelling, .literal 'T' :: minuteSpelling,
    .space :: minuteSpelling]

theorem dateTimeSpellings_eq : dateTimeSpellings = timeSpellings.map (dateSpelling ++ ·) := rfl

/-- The instant of a date that has been read, and of what follows it. -/
def afterDate? (f : Fields) (rest : List Char) : Option Instant :=
  if rest = [] then f.instant?
  else timeSpellings.findSome? fun pieces => readSpelling? pieces f rest

/-- A time of day is not read from nothing. -/
theorem findSome?_timeSpellings_nil (f : Fields) :
    (timeSpellings.findSome? fun pieces => readSpelling? pieces f []) = none := rfl

/-- **Every spelling but the internet timestamp begins with a date**, which may stand alone or have
a time of day after it. -/
theorem ofText?_eq (s : String) :
    ofText? s = (readTimestamp? (trimList s.toList)).or
      ((readPieces? dateSpelling {} (trimList s.toList)).bind fun r => afterDate? r.1 r.2) := by
  unfold ofText?
  simp only [dateTimeSpellings_eq, List.findSome?_map, Function.comp_def, readSpelling?_append]
  rw [readSpelling?_eq]
  cases readTimestamp? (trimList s.toList) with
  | some t => rfl
  | none =>
    cases readPieces? dateSpelling {} (trimList s.toList) with
    | none => rfl
    | some r =>
      obtain ⟨f, rest⟩ := r
      simp only [Option.bind_some, afterDate?, Option.none_or]
      by_cases hrest : rest = []
      · subst hrest
        rw [if_pos rfl, findSome?_timeSpellings_nil]
        cases f.instant? <;> rfl
      · rw [if_neg hrest, if_neg hrest]

/-! ## Dates and times of day -/

section Text

variable {year : Int} {cs rest : List Char}

theorem readYear?_of_isAsciiDigit {c : Char} (hc : isAsciiDigit c = true) (cs : List Char) :
    readYear? (c :: cs) = (readNumber? 4 (c :: cs)).map fun (n, more) => ((n : Int), more) := by
  unfold readYear?
  have hne {d : Char} {more : List Char} (heq : c :: cs = d :: more)
      (hd : isAsciiDigit d = false) : False :=
    ne_of_isAsciiDigit hc hd (List.cons.inj heq).1
  split
  · next heq => exact (hne heq (by decide)).elim
  · next heq => exact (hne heq (by decide)).elim
  · rfl

/-- **A year is read back where no digit follows.** Its sign says when it has more digits than
four. -/
theorem readYear?_yearText (hrest : BeginsOutside isAsciiDigit rest) :
    readYear? (trimStart ((yearText year).toList ++ rest)) = some (year, rest) := by
  have hany := readNumber?_padded_of_beginsOutside (n := year.natAbs) (by decide : 0 < 4) hrest
  unfold yearText
  split
  case isTrue hneg =>
    rw [String.toList_append, List.append_assoc]
    change readYear? (trimStart ('-' :: ((padded 4 year.natAbs).toList ++ rest))) = _
    rw [trimStart_cons_of_not_isSpace (by decide), readYear?, hany, Option.map_some]
    simp only [Option.some.injEq, Prod.mk.injEq, and_true]
    omega
  case isFalse hpos =>
    split
    case isTrue hlong =>
      rw [String.toList_append, List.append_assoc]
      change readYear? (trimStart ('+' :: ((padded 4 year.natAbs).toList ++ rest))) = _
      rw [trimStart_cons_of_not_isSpace (by decide), readYear?, hany, Option.map_some]
      simp only [Option.some.injEq, Prod.mk.injEq, and_true]
      omega
    case isFalse hshort =>
      have hfour := readNumber?_padded (by decide) (show year.natAbs < 10 ^ 4 by omega) rest
      obtain ⟨c, more, hcs⟩ := List.exists_cons_of_ne_nil
        (padded_ne_nil (show 0 < 4 by decide) year.natAbs)
      have hc : isAsciiDigit c = true :=
        @isAsciiDigit_of_mem_padded 4 year.natAbs c (hcs ▸ List.mem_cons_self)
      rw [trimStart_padded (by decide)]
      rw [hcs, List.cons_append] at hfour ⊢
      rw [readYear?_of_isAsciiDigit hc, hfour, Option.map_some]
      simp only [Option.some.injEq, Prod.mk.injEq, and_true]
      omega

/-- What is read of a year is a front of the text. -/
theorem exists_front_of_readYear? (h : readYear? cs = some (year, rest)) :
    ∃ front, front ≠ [] ∧ cs = front ++ rest := by
  unfold readYear? at h
  split at h
  all_goals
    obtain ⟨⟨n, more⟩, hread, hmore⟩ := Option.map_eq_some_iff.mp h
    obtain ⟨-, rfl⟩ := Prod.mk.inj hmore
    obtain ⟨digits, rfl, hne, -⟩ := exists_digits_of_readNumber? hread
  · exact ⟨'-' :: digits, List.cons_ne_nil _ _, rfl⟩
  · exact ⟨'+' :: digits, List.cons_ne_nil _ _, rfl⟩
  · exact ⟨digits, hne, rfl⟩

theorem readChar?_cons (c : Char) (rest : List Char) : readChar? c (c :: rest) = some rest := by
  rw [readChar?, if_pos (beq_self_eq_true c)]

/-- A number of two digits is read back as a part of a spelling. -/
theorem readNumber?_trimStart_padded {n : Nat} (h : n < 100) (rest : List Char) :
    readNumber? 2 (trimStart ((padded 2 n).toList ++ rest)) = some (n, rest) := by
  rw [trimStart_padded (by decide), readNumber?_padded (by decide) h]

theorem toList_dateText (t : Instant) :
    t.dateText.toList = (yearText t.date.year).toList ++
      '-' :: ((padded 2 t.date.month).toList ++ '-' :: (padded 2 t.date.day).toList) := by
  simp [dateText]

/-- The date as the fields of a spelling. -/
def dateFields (t : Instant) : Fields where
  year := t.date.year
  month := t.date.month
  day := t.date.day

/-- **A date is read back**, whatever follows. -/
theorem readPieces?_dateText (t : Instant) (rest : List Char) :
    readPieces? dateSpelling {} (t.dateText.toList ++ rest) = some (t.dateFields, rest) := by
  obtain ⟨hmonth, hday⟩ := t.date_bounds
  have hdash {cs : List Char} : BeginsOutside isAsciiDigit ('-' :: cs) := by rintro c ⟨⟩; rfl
  simp only [toList_dateText, List.append_assoc, List.cons_append, dateSpelling, readPieces?,
    Piece.read?, readYear?_yearText hdash, readNumber?_trimStart_padded hmonth,
    readNumber?_trimStart_padded hday, readChar?_cons, Option.map_some, dateFields]

/-- The second of the day. -/
def secondOfDay (t : Instant) : Nat := (t.millisOfDay / 1000).toNat

theorem secondOfDay_lt (t : Instant) : t.secondOfDay < 86400 := by
  obtain ⟨hlow, hhigh, -⟩ := seconds_bounds t
  unfold secondOfDay
  omega

theorem toList_timeText (t : Instant) :
    t.timeText.toList = (padded 2 (t.secondOfDay / 3600)).toList ++
      ':' :: ((padded 2 (t.secondOfDay / 60 % 60)).toList ++
        ':' :: (padded 2 (t.secondOfDay % 60)).toList) := by
  simp [timeText, secondOfDay]

/-- The date and the time of day as the fields of a spelling, to the second and a fraction of it. -/
def fields (t : Instant) (milli : Nat) : Fields :=
  { t.dateFields with
    hour := t.secondOfDay / 3600
    minute := t.secondOfDay / 60 % 60
    second := t.secondOfDay % 60
    milli := milli }

/-- A time of day is read back to the minute, and its second is left. -/
theorem readPieces?_minuteSpelling (t : Instant) (f : Fields) (rest : List Char) :
    readPieces? minuteSpelling f (t.timeText.toList ++ rest) =
      some ({ f with hour := t.secondOfDay / 3600, minute := t.secondOfDay / 60 % 60 },
        ':' :: ((padded 2 (t.secondOfDay % 60)).toList ++ rest)) := by
  have hlt := t.secondOfDay_lt
  simp only [toList_timeText, List.append_assoc, List.cons_append, minuteSpelling, readPieces?,
    Piece.read?, readNumber?_trimStart_padded (show t.secondOfDay / 3600 < 100 by omega),
    readNumber?_trimStart_padded (show t.secondOfDay / 60 % 60 < 100 by omega), readChar?_cons,
    Option.map_some]

/-- A time of day is read back to the second, with the fraction that follows it. -/
theorem readPieces?_secondSpelling (t : Instant) (f : Fields) {rest more : List Char} {milli : Nat}
    (hfraction : readFraction? rest = some (milli, more)) :
    readPieces? secondSpelling f (t.timeText.toList ++ rest) =
      some ({ f with
        hour := t.secondOfDay / 3600
        minute := t.secondOfDay / 60 % 60
        second := t.secondOfDay % 60
        milli := milli }, more) := by
  rw [secondSpelling, readPieces?_append, readPieces?_minuteSpelling]
  simp only [Option.bind_some, readPieces?, Piece.read?, readChar?_cons, Option.map_some,
    readNumber?_trimStart_padded (show t.secondOfDay % 60 < 100 by omega), hfraction]

/-- A time of day with an offset after it is not read in universal time. -/
theorem afterDate?_offset (t : Instant) (f : Fields) {rest more : List Char} {milli : Nat}
    (hfraction : readFraction? rest = some (milli, more)) (hmore : more ≠ []) :
    afterDate? f ('T' :: (t.timeText.toList ++ rest)) = none := by
  have hread {pieces : List Piece} : readPieces? (.literal 'T' :: pieces) f
      ('T' :: (t.timeText.toList ++ rest)) = readPieces? pieces f (t.timeText.toList ++ rest) := rfl
  have hspace {pieces : List Piece} :
      readSpelling? (.space :: .hour :: pieces) f ('T' :: (t.timeText.toList ++ rest)) = none := rfl
  have hsecond : readSpelling? (.literal 'T' :: secondSpelling) f
      ('T' :: (t.timeText.toList ++ rest)) = none := by
    rw [readSpelling?_eq, hread,
      readPieces?_secondSpelling t f hfraction, Option.bind_some, if_neg hmore]
  have hminute : readSpelling? (.literal 'T' :: minuteSpelling) f
      ('T' :: (t.timeText.toList ++ rest)) = none := by
    rw [readSpelling?_eq, hread,
      readPieces?_minuteSpelling t f, Option.bind_some, if_neg (List.cons_ne_nil _ _)]
  rw [afterDate?, if_neg (List.cons_ne_nil _ _), List.findSome?_eq_none_iff]
  intro pieces hpieces
  simp only [timeSpellings, List.mem_cons, List.not_mem_nil, or_false] at hpieces
  rcases hpieces with rfl | rfl | rfl | rfl
  · exact hsecond
  · exact hspace
  · exact hminute
  · exact hspace

end Text

end Tabular.Instant
