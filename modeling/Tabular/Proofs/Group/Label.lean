import Tabular.Group.Path
import Tabular.Proofs.Binary64.Display
import Tabular.Proofs.Instant.Label
import Tabular.Proofs.Order.Total
import Tabular.Text.Transliteration
/-!
# What the label of a group tells

A group knows the reading it was made from by its label only. Among the readings of one rank the
label tells all of the reading (`eq_of_labelOf?_eq`): different doubles are written differently,
and so are different instants, flags and collections, where the commas and backslashes of items
are escaped. Only the domain of dates drops the time of day.

A label does not tell the rank. The text of a value that cannot be read can be the label of one
that can, as the collection of the one text `5` among the numbers (`LabelsMeet`). This is the only
way in which values that sort apart come to share a group (`of_eq_of_iff`).
-/

namespace Tabular

namespace GroupValue

/-! ## Collections -/

/-- What stands behind an item in the label of a collection, given the items that follow it. -/
def labelBehind : List String → List Char
  | [] => []
  | s :: rest => ',' :: ' ' :: (escapeItem s.toList ++ labelBehind rest)

theorem toList_join_escapeItem (s : String) (rest : List String) :
    (Text.join ", " ((s :: rest).map fun s => String.ofList (escapeItem s.toList))).toList =
      escapeItem s.toList ++ labelBehind rest := by
  induction rest generalizing s with
  | nil => simp [Text.join, labelBehind]
  | cons s' rest ih =>
    have hjoin : ∀ text : String, ∀ texts : List String, texts ≠ [] →
        Text.join ", " (text :: texts) = text ++ ", " ++ Text.join ", " texts := by
      intro text texts htexts
      cases texts with
      | nil => exact absurd rfl htexts
      | cons _ _ => rfl
    rw [List.map_cons, hjoin _ _ (by simp), String.toList_append, String.toList_append, ih]
    simp [labelBehind]

/-- An item that is not empty does not look like what stands behind an item: its commas are
escaped. -/
theorem escapeItem_cons_append_ne (c : Char) (cs rest : List Char) (items : List String) :
    escapeItem (c :: cs) ++ rest ≠ labelBehind items := by
  intro h
  by_cases hc : c = ',' ∨ c = '\\'
  · rw [escapeItem, if_pos (by simpa using hc)] at h
    cases items <;> simp [labelBehind] at h
  · rw [escapeItem, if_neg (by simpa using hc)] at h
    cases items with
    | nil => simp [labelBehind] at h
    | cons s items =>
      rw [labelBehind, List.cons_append, List.cons.injEq] at h
      exact hc (.inl h.1)

/-- The first item of a label is known, and what stands behind it. -/
theorem escapeItem_append_inj {cs cs' : List Char} {items items' : List String}
    (h : escapeItem cs ++ labelBehind items = escapeItem cs' ++ labelBehind items') :
    cs = cs' ∧ labelBehind items = labelBehind items' := by
  induction cs generalizing cs' with
  | nil =>
    cases cs' with
    | nil => exact ⟨rfl, by simpa [escapeItem] using h⟩
    | cons c' cs' => exact absurd h.symm (escapeItem_cons_append_ne c' cs' _ items)
  | cons c cs ih =>
    cases cs' with
    | nil => exact absurd h (escapeItem_cons_append_ne c cs _ items')
    | cons c' cs' =>
      -- the first character tells whether an escaped one follows
      have hstep : c = c' ∧
          escapeItem cs ++ labelBehind items = escapeItem cs' ++ labelBehind items' := by
        rw [escapeItem, escapeItem] at h
        split at h <;> split at h <;> grind
      obtain ⟨hcs, hrest⟩ := ih hstep.2
      exact ⟨by rw [hstep.1, hcs], hrest⟩

theorem labelBehind_injective : Function.Injective labelBehind := by
  intro items
  induction items with
  | nil =>
    intro items' h
    cases items' with
    | nil => rfl
    | cons s' items' => cases h
  | cons s items ih =>
    intro items' h
    cases items' with
    | nil => cases h
    | cons s' items' =>
      simp only [labelBehind, List.cons.injEq, true_and] at h
      obtain ⟨hitem, hrest⟩ := escapeItem_append_inj h
      rw [String.toList_inj.mp hitem, ih hrest]

/-- Different collections have different labels. -/
theorem eq_of_join_escapeItem_eq {items items' : List String} (hne : items ≠ [])
    (hne' : items' ≠ [])
    (h : Text.join ", " (items.map fun s => String.ofList (escapeItem s.toList)) =
      Text.join ", " (items'.map fun s => String.ofList (escapeItem s.toList))) :
    items = items' := by
  obtain ⟨s, rest, rfl⟩ := List.exists_cons_of_ne_nil hne
  obtain ⟨s', rest', rfl⟩ := List.exists_cons_of_ne_nil hne'
  have hlist := congrArg String.toList h
  rw [toList_join_escapeItem, toList_join_escapeItem] at hlist
  obtain ⟨hitem, hrest⟩ := escapeItem_append_inj hlist
  rw [String.toList_inj.mp hitem, labelBehind_injective hrest]

end GroupValue

/-! ## Readings of values -/

theorem Instant.ofMillis_toInt (t : Instant) : ofMillis t.toInt = t := by
  have hlow := Int64.le_toInt t.millis
  have hhigh := Int64.toInt_lt t.millis
  have hclamp : max (-0x8000000000000000) (min t.millis.toInt 0x7FFFFFFFFFFFFFFF) =
      t.millis.toInt := by omega
  rw [ofMillis, clampInt64, toInt, hclamp, Int64.ofInt_toInt]

theorem Instant.toInt_inj {s t : Instant} : s.toInt = t.toInt ↔ s = t :=
  ⟨fun h => by rw [← ofMillis_toInt s, h, ofMillis_toInt], congrArg _⟩

theorem Binary64.isNaN_foldZero {x : Binary64} (h : x.isNaN = false) :
    x.foldZero.isNaN = false := by
  unfold foldZero
  split
  · decide
  · exact h

/-- A reading that can be shown: its number is one, its time has a date, its collection has an
item. -/
def Reading.IsShown : Reading String → Prop
  | .number x => x.isNaN = false
  | .time millis => ∃ t : Instant, t.inCalendar = true ∧ t.toInt = millis
  | .collection items => items ≠ []
  | _ => True

theorem Reading.isShown_of (v : Value) (domain : Domain) : (of v domain).IsShown := by
  unfold of
  split
  · trivial
  case isFalse hblank =>
    unfold ofReadable?
    split
    · cases hx : v.asNumber? with
      | none => trivial
      | some x => exact Binary64.isNaN_foldZero (Value.isNaN_of_asNumber? hx)
    · cases ht : v.asInstant? with
      | none => trivial
      | some t => exact ⟨t, Value.inCalendar_of_asInstant? ht, rfl⟩
    · cases v.asFlag? <;> trivial
    · cases v with
      | collection items =>
        intro hnil
        cases items with
        | nil => exact hblank rfl
        | cons _ _ => cases hnil
      | _ => exact List.cons_ne_nil _ _
    · trivial

/-! ## Readings of one rank -/

/-- Two times of one day, among dates. -/
def Reading.SameDay (domain : Domain) (r s : Reading String) : Prop :=
  domain = .date ∧ ∃ t t' : Instant, r = .time t.toInt ∧ s = .time t'.toInt ∧ t.day = t'.day

namespace GroupValue

variable {domain : Domain}

/-- Instants with one label are the same, or of one day among dates. -/
theorem eq_or_day_eq_of_timeLabel_eq {t t' : Instant} (ht : t.inCalendar = true)
    (ht' : t'.inCalendar = true) (h : timeLabel t domain = timeLabel t' domain) :
    t = t' ∨ domain = .date ∧ t.day = t'.day := by
  by_cases hdate : domain = .date
  · simp only [timeLabel, hdate, ht, ht', and_self, if_true] at h
    exact .inr ⟨hdate, Instant.day_eq_of_dateText_eq h⟩
  · simp only [timeLabel, hdate, false_and, if_false] at h
    exact .inl (Instant.eq_of_stamp_eq ht ht' h)

/-- **The label tells a reading among those of its domain and rank**, apart from the time of day of
a date. -/
theorem eq_of_labelOf?_eq {c : Domain} {r s : Reading String} (hr : r.Fits c) (hs : s.Fits c)
    (hshown : r.IsShown) (hshown' : s.IsShown) (hrank : r.rank = s.rank)
    (h : labelOf? domain r = labelOf? domain s) : r = s ∨ r.SameDay domain s := by
  -- readings of different kinds in one domain have different ranks
  cases hr <;> cases hs <;> try cases hrank
  case number.number x _ y _ =>
    rw [Binary64.eq_of_display_eq hshown hshown' (Option.some.inj h)]
    exact .inl rfl
  case time.time millis millis' =>
    obtain ⟨t, ht, rfl⟩ := hshown
    obtain ⟨t', ht', rfl⟩ := hshown'
    simp only [labelOf?, Instant.ofMillis_toInt, Option.some.injEq] at h
    rcases eq_or_day_eq_of_timeLabel_eq ht ht' h with rfl | ⟨hdate, hday⟩
    · exact .inl rfl
    · exact .inr ⟨hdate, t, t', rfl, rfl, hday⟩
  case flag.flag b b' =>
    have htext : Value.flagText b = Value.flagText b' := Option.some.inj h
    obtain rfl : b = b' := by
      revert htext
      cases b <;> cases b' <;> decide
    exact .inl rfl
  case collection.collection items items' =>
    rw [eq_of_join_escapeItem_eq hshown hshown' (Option.some.inj h)]
    exact .inl rfl
  case text.text | unreadable.unreadable =>
    rw [Option.some.inj h]
    exact .inl rfl
  case blank.blank => exact .inl rfl

end GroupValue

/-! ## Values -/

namespace Value

/-- Two instants of one day, among dates. -/
def SameDay (domain : Domain) (v w : Value) : Prop :=
  domain = .date ∧ ∃ t t', v.asInstant? = some t ∧ w.asInstant? = some t' ∧ t.day = t'.day

/-- The label of a value that can be read is the text of one that is there but cannot be. -/
def LabelsMeet (domain : Domain) (v w : Value) : Prop :=
  v.isReadable domain = true ∧ w.isReadable domain = false ∧ w.isBlank = false ∧
    GroupValue.of v domain = .text (Text.trim w.shown)

theorem LabelsMeet.isReadable_ne {domain : Domain} {v w : Value} (h : v.LabelsMeet domain w) :
    v.isReadable domain ≠ w.isReadable domain := by
  rw [h.1, h.2.1]
  decide

end Value

namespace Reading

variable {domain : Domain} {v w : Value}

theorem of_of_not_isReadable (hread : v.isReadable domain = false) (hblank : v.isBlank = false) :
    of v domain = .unreadable (Text.trim v.shown) := by
  rw [of, if_neg (Bool.eq_false_iff.mp hblank)]
  unfold Value.isReadable at hread
  unfold ofReadable?
  split at hread <;> simp_all

/-- The instant of a value is known from its reading. -/
theorem of_eq_time_iff (hclass : domain.comparisonClass = .date) {t : Instant} :
    of v domain = .time t.toInt ↔ v.asInstant? = some t := by
  have hread : v.isReadable domain = v.asInstant?.isSome := by rw [Value.isReadable, hclass]
  by_cases hblank : v.isBlank = true
  · have hnone : v.asInstant? = none := by
      rw [← Option.isSome_eq_false_iff.trans Option.isNone_iff_eq_none, ← hread]
      exact Value.not_isReadable_of_isBlank hblank
    simp [of_eq_blank_iff.mpr hblank, hnone]
  · rw [of, if_neg hblank, ofReadable?, hclass]
    cases v.asInstant? with
    | none => simp
    | some t' => simp [Instant.toInt_inj]

theorem sameDay_of_iff :
    (of v domain).SameDay domain (of w domain) ↔ Value.SameDay domain v w := by
  refine and_congr_right fun hdate => ?_
  have hclass : domain.comparisonClass = .date := by rw [hdate]; rfl
  simp only [of_eq_time_iff hclass]

end Reading

namespace GroupValue

variable {domain : Domain} {v w : Value}

theorem of_eq_of_iff_labelOf?_eq : of v domain = of w domain ↔
    labelOf? domain (Reading.of v domain) = labelOf? domain (Reading.of w domain) := by
  unfold of
  cases labelOf? domain (Reading.of v domain) <;>
    cases labelOf? domain (Reading.of w domain) <;> simp

/-- Blank values, and no others, are in the group without a text. -/
theorem of_eq_empty_iff : of v domain = .empty ↔ v.isBlank = true := by
  rw [← @Reading.of_eq_blank_iff v domain, of]
  cases Reading.of v domain <;> simp [labelOf?]

theorem of_of_not_isReadable (hread : v.isReadable domain = false) (hblank : v.isBlank = false) :
    of v domain = .text (Text.trim v.shown) := by
  rw [of, Reading.of_of_not_isReadable hread hblank]
  rfl

theorem of_eq_of_of_sameDay (h : v.SameDay domain w) : of v domain = of w domain := by
  obtain ⟨hdate, t, t', ht, ht', hday⟩ := h
  have hclass : domain.comparisonClass = .date := by rw [hdate]; rfl
  have htext : t.dateText = t'.dateText := by
    simp only [Instant.dateText, Instant.date, hday]
  rw [of_eq_of_iff_labelOf?_eq, (Reading.of_eq_time_iff hclass).mpr ht,
    (Reading.of_eq_time_iff hclass).mpr ht']
  simp only [labelOf?, timeLabel, Instant.ofMillis_toInt, hdate, htext,
    Value.inCalendar_of_asInstant? ht, Value.inCalendar_of_asInstant? ht', and_self, if_true]

theorem of_eq_of_of_labelsMeet (h : v.LabelsMeet domain w) : of v domain = of w domain := by
  obtain ⟨-, hread, hblank, hlabel⟩ := h
  rw [hlabel, of_of_not_isReadable hread hblank]

/-- A value that can be read and one that cannot share a group only where their labels meet. -/
theorem labelsMeet_of_of_eq_of (h : of v domain = of w domain)
    (hread : v.isReadable domain = true) (hread' : w.isReadable domain = false) :
    v.LabelsMeet domain w := by
  have hblank : w.isBlank = false := by
    by_contra hw
    have hempty : of v domain = .empty := h.trans (of_eq_empty_iff.mpr (by simpa using hw))
    rw [Value.not_isReadable_of_isBlank (of_eq_empty_iff.mp hempty)] at hread
    cases hread
  exact ⟨hread, hread', hblank, h.trans (of_of_not_isReadable hread' hblank)⟩

/-- Two values share a group when they sort as equal, when they are two instants of one day in the
domain of dates, or when their labels meet. -/
theorem of_eq_of_iff_or_labelsMeet (transliterate : String → String) :
    of v domain = of w domain ↔
      (compareValues transliterate domain v w = .eq ∨ v.SameDay domain w) ∨
        v.LabelsMeet domain w ∨ w.LabelsMeet domain v := by
  rw [compareValues_eq_eq_iff]
  constructor
  · intro h
    have hlabel := of_eq_of_iff_labelOf?_eq.mp h
    have hblank : v.isBlank = w.isBlank := by
      rw [Bool.eq_iff_iff, ← of_eq_empty_iff, h, of_eq_empty_iff]
    cases hread : v.isReadable domain <;> cases hread' : w.isReadable domain
    case false.true => exact .inr (.inr (labelsMeet_of_of_eq_of h.symm hread' hread))
    case true.false => exact .inr (.inl (labelsMeet_of_of_eq_of h hread hread'))
    all_goals
      have hrank : (Reading.of v domain).rank = (Reading.of w domain).rank := by
        rw [Reading.rank_of, Reading.rank_of, hread, hread', hblank]
      rcases eq_of_labelOf?_eq (Reading.fits_of v domain) (Reading.fits_of w domain)
        (Reading.isShown_of v domain) (Reading.isShown_of w domain) hrank hlabel with heq | hday
      · exact .inl (.inl heq)
      · exact .inl (.inr (Reading.sameDay_of_iff.mp hday))
  · rintro ((heq | hday) | hmeet | hmeet)
    · rw [of_eq_of_iff_labelOf?_eq, heq]
    · exact of_eq_of_of_sameDay hday
    · exact of_eq_of_of_labelsMeet hmeet
    · exact (of_eq_of_of_labelsMeet hmeet).symm

/-- Of two values that sort as equal or are instants of one day, both can be read or neither. -/
theorem isReadable_eq_of_alike {transliterate : String → String}
    (h : compareValues transliterate domain v w = .eq ∨ v.SameDay domain w) :
    v.isReadable domain = w.isReadable domain := by
  rcases h with heq | ⟨hdate, t, t', ht, ht', -⟩
  · have hrank : (Reading.of v domain).rank = (Reading.of w domain).rank := by
      rw [compareValues_eq_eq_iff.mp heq]
    rw [Reading.rank_of, Reading.rank_of] at hrank
    grind
  · simp [Value.isReadable, hdate, Domain.comparisonClass, ht, ht']

/-- **Grouping and sorting agree on two values exactly where their labels do not meet**: unless one
value can be read and the other is there, cannot be read and has the label of the first as its text,
they share a group if and only if they sort as equal or are instants of one day in the domain of
dates. -/
theorem of_eq_of_iff (transliterate : String → String) (domain : Domain) (v w : Value) :
    (of v domain = of w domain ↔
      compareValues transliterate domain v w = .eq ∨ v.SameDay domain w) ↔
    ¬ v.LabelsMeet domain w ∧ ¬ w.LabelsMeet domain v := by
  constructor
  · intro hagree
    have hapart : of v domain = of w domain → v.isReadable domain = w.isReadable domain :=
      fun h => isReadable_eq_of_alike (hagree.mp h)
    exact ⟨fun hmeet => hmeet.isReadable_ne (hapart (of_eq_of_of_labelsMeet hmeet)),
      fun hmeet => hmeet.isReadable_ne (hapart (of_eq_of_of_labelsMeet hmeet).symm).symm⟩
  · rintro ⟨hmeet, hmeet'⟩
    simpa only [hmeet, hmeet', or_false] using
      @of_eq_of_iff_or_labelsMeet domain v w transliterate

/-- Among numbers the label of the number five meets the text of the collection of `5`: the two
share a group and sort apart. -/
theorem not_agree_five_collection :
    ¬ (of (.number (.signed 5)) .number = of (.collection ["5"]) .number ↔
      compareValues Text.transliterate .number (.number (.signed 5)) (.collection ["5"]) = .eq) := by
  decide +kernel

end GroupValue

end Tabular
