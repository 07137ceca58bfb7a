import Tabular.Proofs.Filter.Reading
import Tabular.Proofs.Group.Label
import Tabular.Proofs.Text.Cut
import Tabular.Proofs.Text.Split
/-!
# Reading back a shown path

A path is shown as the labels of its groups with the separator between them, and read back by
splitting at the separator and trimming the parts. It comes back exactly when its labels are the
pieces of the shown text, each of them is trimmed, and none is the label of the group of blank
values without being that group (`GroupPath.ofText_text_iff`).

Two things stand in the way of this besides a label with a separator in it. A label that ends with a
space and a slash makes up a separator with the space behind it (`GroupPath.isSplit_separator_iff`).
And though texts are trimmed before they become labels, a label can end with a space: that of a
collection of several items of which the last is blank. It is the only one that is not trimmed
(`GroupValue.trim_label_of_iff`). For the groups of values, `GroupPath.ofText_text_ofCells_iff` has
all the conditions.
-/

namespace Tabular

open Text

/-! ## Trimmed pieces -/

section Pieces

variable {sep : List Char}

theorem length_intercalate_map_trimList_le (parts : List (List Char)) :
    (sep.intercalate (parts.map trimList)).length ≤ (sep.intercalate parts).length := by
  induction parts with
  | nil => exact le_rfl
  | cons p parts ih =>
    have hp := (trimList_isInfix p).length_le
    cases parts with
    | nil => simpa using hp
    | cons q parts =>
      simp only [List.map_cons, List.intercalate_cons_cons, List.length_append] at ih ⊢
      omega

/-- Pieces that have as long a text after trimming were trimmed. -/
theorem map_trimList_eq_self_of_length {parts : List (List Char)}
    (h : (sep.intercalate (parts.map trimList)).length = (sep.intercalate parts).length) :
    parts.map trimList = parts := by
  induction parts with
  | nil => rfl
  | cons p parts ih =>
    have hp := (trimList_isInfix p).length_le
    cases parts with
    | nil =>
      rw [List.map_singleton, List.intercalate_singleton, List.intercalate_singleton] at h
      rw [List.map_singleton, (trimList_isInfix p).eq_of_length h]
    | cons q parts =>
      have hrest := @length_intercalate_map_trimList_le sep (q :: parts)
      simp only [List.map_cons, List.intercalate_cons_cons, List.length_append] at h hrest ih ⊢
      rw [ih (by omega), (trimList_isInfix p).eq_of_length (by omega)]

end Pieces

/-! ## Labels -/

/-! ### Collections -/

namespace GroupValue

theorem getLast?_escapeItem (cs : List Char) : (escapeItem cs).getLast? = cs.getLast? := by
  induction cs with
  | nil => rfl
  | cons c cs ih =>
    rw [escapeItem]
    split <;> simp [List.getLast?_cons, ih]

theorem beginsOutside_escapeItem {cs : List Char} (h : BeginsOutside isSpace cs) :
    BeginsOutside isSpace (escapeItem cs) := by
  cases cs with
  | nil => exact h
  | cons c cs =>
    rw [escapeItem]
    split
    · rintro d ⟨⟩
      decide
    · exact h

theorem beginsOutside_reverse_escapeItem {cs : List Char} :
    BeginsOutside isSpace (escapeItem cs).reverse ↔ BeginsOutside isSpace cs.reverse := by
  rw [BeginsOutside, BeginsOutside, List.head?_reverse, List.head?_reverse, getLast?_escapeItem]

theorem labelBehind_append (items items' : List String) :
    labelBehind (items ++ items') = labelBehind items ++ labelBehind items' := by
  induction items with
  | nil => rfl
  | cons s items ih => simp [labelBehind, ih]

/-- The label of a collection begins as its first item does, or with a comma. -/
theorem beginsOutside_label {cs : List Char} (h : BeginsOutside isSpace cs) (rest : List String) :
    BeginsOutside isSpace (escapeItem cs ++ labelBehind rest) := by
  cases hfirst : escapeItem cs with
  | nil =>
    cases rest with
    | nil => exact nofun
    | cons s rest =>
      rintro c ⟨⟩
      decide
  | cons c front =>
    have hbegins := beginsOutside_escapeItem h
    rw [hfirst] at hbegins
    exact hbegins

/-- The label of several items ends as the last of them does, unless that one is empty: then it ends
with a space. -/
theorem beginsOutside_reverse_label_iff {last : List Char} (h : BeginsOutside isSpace last.reverse)
    (front : List Char) :
    BeginsOutside isSpace (front ++ ' ' :: escapeItem last).reverse ↔ last ≠ [] := by
  rw [List.reverse_append, List.reverse_cons, List.append_assoc]
  have hends := beginsOutside_reverse_escapeItem.mpr h
  cases last with
  | nil =>
    refine iff_of_false (fun hspace => ?_) (not_not_intro rfl)
    cases hspace ' ' rfl
  | cons c cs =>
    refine iff_of_true ?_ (List.cons_ne_nil c cs)
    cases hback : (escapeItem (c :: cs)).reverse with
    | nil =>
      rw [List.reverse_eq_nil_iff, escapeItem] at hback
      split at hback <;> cases hback
    | cons d back =>
      rw [hback] at hends
      exact hends

/-- The label of trimmed items is trimmed, unless there are several and the last is empty. -/
theorem trim_collectionLabel_iff {items : List String} (hne : items ≠ [])
    (htrim : ∀ s ∈ items, trim s = s) :
    trim (join ", " (items.map fun s => String.ofList (escapeItem s.toList))) =
        join ", " (items.map fun s => String.ofList (escapeItem s.toList)) ↔
      ¬ (1 < items.length ∧ items.getLast? = some "") := by
  obtain ⟨s, rest, rfl⟩ := List.exists_cons_of_ne_nil hne
  have hfirst := trim_eq_self_iff.mp (htrim s List.mem_cons_self)
  rw [trim_eq_self_iff, toList_join_escapeItem, and_iff_right (beginsOutside_label hfirst.1 rest)]
  rcases List.eq_nil_or_concat' rest with rfl | ⟨init, last, rfl⟩
  · rw [labelBehind, List.append_nil, beginsOutside_reverse_escapeItem]
    simpa using hfirst.2
  · have hlast := trim_eq_self_iff.mp (htrim last (by simp))
    have hlabel : escapeItem s.toList ++ labelBehind (init ++ [last]) =
        escapeItem s.toList ++ labelBehind init ++ [','] ++ ' ' :: escapeItem last.toList := by
      simp [labelBehind_append, labelBehind]
    rw [hlabel, beginsOutside_reverse_label_iff hlast.2, ← List.cons_append,
      List.getLast?_concat]
    simp

end GroupValue

/-! ### Values -/

/-- The texts of a reading have no white space around them. -/
def Reading.IsTrimmed : Reading String → Prop
  | .text s | .unreadable s => trim s = s
  | .collection items => ∀ s ∈ items, trim s = s
  | _ => True

theorem Reading.isTrimmed_of (v : Value) (domain : Domain) : (of v domain).IsTrimmed := by
  unfold of
  split
  · trivial
  case isFalse =>
    unfold ofReadable?
    split
    · cases v.asNumber? with
      | none => exact trim_trim _
      | some x => trivial
    · cases v.asInstant? with
      | none => exact trim_trim _
      | some t => trivial
    · cases v.asFlag? with
      | none => exact trim_trim _
      | some b => trivial
    · intro s hs
      split at hs
      · obtain ⟨item, -, rfl⟩ := List.mem_map.mp hs
        exact trim_trim item
      · rw [List.mem_singleton.mp hs]
        exact trim_trim _
    · exact trim_trim _

/-- Whether a value is a collection of several items of which the last is blank. -/
def Value.endsBlank (v : Value) : Bool := 1 < v.items.length && v.items.getLast?.any Text.isBlank

namespace GroupValue

theorem unspaced_timeLabel {t : Instant} (h : t.inCalendar = true) (domain : Domain) :
    Unspaced (timeLabel t domain) := by
  unfold timeLabel
  split
  · exact t.unspaced_dateText
  · exact Instant.unspaced_stamp h

/-- The label of a reading that is no collection is trimmed. -/
theorem trim_labelOf? {d : Domain} {r : Reading String} {s : String} (hshown : r.IsShown)
    (htrim : r.IsTrimmed) (hitems : r.items = []) (hs : labelOf? d r = some s) : trim s = s := by
  cases r with
  | number x =>
    obtain rfl := Option.some.inj hs
    exact (Binary64.unspaced_display hshown).trim_eq_self
  | time millis =>
    obtain ⟨t, ht, rfl⟩ := hshown
    obtain rfl := Option.some.inj hs
    rw [Instant.ofMillis_toInt]
    exact (unspaced_timeLabel ht d).trim_eq_self
  | flag b =>
    obtain rfl := Option.some.inj hs
    cases b <;> decide +kernel
  | text s' | unreadable s' =>
    obtain rfl := Option.some.inj hs
    exact htrim
  | collection items => exact absurd hitems hshown
  | blank => cases hs

/-- **The only labels with white space around them are those of collections of several items of
which the last is blank.** -/
theorem trim_label_of_iff (v : Value) (d : Domain) :
    trim (of v d).label = (of v d).label ↔ ¬ (d = .collection ∧ v.endsBlank = true) := by
  have hshown := Reading.isShown_of v d
  have htrim := Reading.isTrimmed_of v d
  by_cases hitems : (Reading.of v d).items = []
  · refine iff_of_true ?_ ?_
    · rw [of]
      cases hs : labelOf? d (Reading.of v d) with
      | none => decide +kernel
      | some s => exact trim_labelOf? hshown htrim hitems hs
    · rintro ⟨rfl, hends⟩
      rw [← Value.map_trim_items, List.map_eq_nil_iff] at hitems
      simp [Value.endsBlank, hitems] at hends
  · obtain ⟨items, hr⟩ : ∃ items, Reading.of v d = .collection items := by
      cases hr : Reading.of v d with
      | collection items => exact ⟨items, rfl⟩
      | _ => exact absurd (by rw [hr]; rfl) hitems
    have hd : d = .collection := by
      have hfits := Reading.fits_of v d
      rw [hr] at hfits
      cases d <;> first | rfl | cases hfits
    subst hd
    obtain rfl : v.items.map trim = items := by
      rw [Value.map_trim_items, hr]
      rfl
    have hlast : v.items.getLast?.map trim = some "" ↔ v.items.getLast?.any isBlank = true := by
      cases v.items.getLast? <;> simp [trim_eq_empty_iff]
    rw [hr] at hshown htrim
    rw [of, hr]
    refine (trim_collectionLabel_iff hshown htrim).trans ?_
    rw [List.length_map, List.getLast?_map, hlast]
    simp [Value.endsBlank]

end GroupValue

/-! ## Paths -/

namespace GroupPath

theorem label_valueOfPart (part : String) : (valueOfPart part).label = trim part := by
  rw [valueOfPart]
  split
  case isTrue h => rw [h]; rfl
  case isFalse => rfl

/-- A label names its group when it is trimmed and is not that of the group of blank values. -/
theorem valueOfPart_label_iff {g : GroupValue} :
    valueOfPart g.label = g ↔ trim g.label = g.label ∧ g ≠ .text GroupValue.emptyLabel := by
  cases g with
  | text s =>
    rw [valueOfPart, GroupValue.label]
    split
    case isTrue h =>
      simp only [reduceCtorEq, ne_eq, GroupValue.text.injEq, false_iff, not_and, not_not]
      intro htrim
      rw [← htrim, h]
    case isFalse h =>
      simp only [ne_eq, GroupValue.text.injEq, iff_self_and]
      intro htrim
      rwa [htrim] at h
  | empty => exact ⟨fun _ => ⟨by decide +kernel, nofun⟩, fun _ => by decide +kernel⟩

theorem valueOfPart_trim (part : String) : valueOfPart (trim part) = valueOfPart part := by
  rw [valueOfPart, trim_trim, valueOfPart]

/-- The labels of a path. -/
def labels (p : GroupPath) : List (List Char) := p.values.map fun g => g.label.toList

theorem toList_text (p : GroupPath) : p.text.toList = separator.toList.intercalate p.labels := by
  rw [text, toList_join, List.map_map]
  rfl

/-- The end of one label and the separator behind it make up an earlier separator when the label
ends with a space and a slash. -/
theorem separator_isInfix_append_iff {label : List Char} :
    separator.toList <:+: label ++ separator.toList.dropLast ↔
      separator.toList <:+: label ∨ [' ', '/'] <:+ label := by
  have hfront : separator.toList.dropLast = [' '] ++ ['/'] := by decide
  have hback : separator.toList = [' ', '/'] ++ [' '] := by decide
  have hlast : ¬ separator.toList <:+ label ++ [' '] ++ ['/'] := by
    rintro ⟨t, ht⟩
    have hchar := congrArg List.getLast? ht
    simp [hback] at hchar
  rw [hfront, ← List.append_assoc, List.infix_concat_iff, or_iff_right hlast,
    List.infix_concat_iff, or_comm, hback, List.suffix_append_self_iff]

theorem isSplit_separator_iff {labels : List (List Char)} :
    IsSplit separator.toList labels ↔ labels ≠ [] ∧
      (∀ l ∈ labels, ¬ separator.toList <:+: l) ∧
      ∀ l ∈ labels.dropLast, ¬ [' ', '/'] <:+ l := by
  constructor
  · rintro ⟨hne, hwithin, hends⟩
    exact ⟨hne, hwithin, fun l hl hlast =>
      hends l hl (separator_isInfix_append_iff.mpr (.inr hlast))⟩
  · rintro ⟨hne, hwithin, hends⟩
    refine ⟨hne, hwithin, fun l hl h => ?_⟩
    rcases separator_isInfix_append_iff.mp h with h | h
    · exact hwithin l (List.mem_of_mem_dropLast hl) h
    · exact hends l hl h

/-- A shown path is read back exactly when its labels come back as the pieces of its text and each
names its group. -/
theorem ofText_text_iff (p : GroupPath) :
    ofText p.text = p ↔ IsSplit separator.toList p.labels ∧
      ∀ g ∈ p.values, trim g.label = g.label ∧ g ≠ .text GroupValue.emptyLabel := by
  simp only [← valueOfPart_label_iff]
  constructor
  · intro h
    have hvalues : (split separator p.text).map valueOfPart = p.values := congrArg values h
    obtain ⟨hjoin, hsplit⟩ :=
      (@split_eq_iff separator p.text (by decide) (split separator p.text)).mp rfl
    -- the labels are the pieces trimmed, and have the same text, so nothing was trimmed off
    have hlabels : p.labels = ((split separator p.text).map String.toList).map trimList := by
      simp [labels, ← hvalues, label_valueOfPart, trim]
    have htext : separator.toList.intercalate p.labels =
        separator.toList.intercalate ((split separator p.text).map String.toList) := by
      rw [← toList_text, ← toList_join, hjoin]
    rw [hlabels] at htext ⊢
    rw [map_trimList_eq_self_of_length (congrArg List.length htext)]
    refine ⟨hsplit, fun g hg => ?_⟩
    rw [← hvalues] at hg
    obtain ⟨part, -, rfl⟩ := List.mem_map.mp hg
    rw [label_valueOfPart, valueOfPart_trim]
  · rintro ⟨hsplit, hvalues⟩
    have hpieces : split separator p.text = p.values.map GroupValue.label := by
      refine (split_eq_iff (by decide)).mpr ⟨rfl, ?_⟩
      rw [List.map_map]
      exact hsplit
    have hnames : p.values.map (valueOfPart ∘ GroupValue.label) = p.values :=
      (List.map_congr_left hvalues).trans (List.map_id' _)
    rw [ofText, hpieces, List.map_map, hnames]

/-- The path of the groups of values, each in its domain. -/
def ofCells (cells : List (Value × Domain)) : GroupPath := ⟨cells.map fun c => .of c.1 c.2⟩

/-- **A shown path is read back exactly when** there is one, no label contains the separator, no
group has the label of the group of blank values as its text, no label but the last ends with a
space and a slash, and no value is a collection of several items of which the last is blank. -/
theorem ofText_text_ofCells_iff (cells : List (Value × Domain)) :
    ofText (ofCells cells).text = ofCells cells ↔
      cells ≠ [] ∧
      (∀ c ∈ cells, ¬ separator.toList <:+: (GroupValue.of c.1 c.2).label.toList) ∧
      (∀ c ∈ cells, GroupValue.of c.1 c.2 ≠ .text GroupValue.emptyLabel) ∧
      (∀ c ∈ cells.dropLast, ¬ [' ', '/'] <:+ (GroupValue.of c.1 c.2).label.toList) ∧
      ∀ c ∈ cells, ¬ (c.2 = .collection ∧ c.1.endsBlank = true) := by
  have hlabels : (ofCells cells).labels =
      cells.map fun c => (GroupValue.of c.1 c.2).label.toList := by
    simp [labels, ofCells]
  rw [ofText_text_iff, isSplit_separator_iff, hlabels, ← List.map_dropLast, ofCells]
  simp only [List.forall_mem_map, GroupValue.trim_label_of_iff, forall_and, ne_eq,
    List.map_eq_nil_iff]
  tauto

/-- A label that ends with a space and a slash gives its slash to the next one, and a label that
ends with a space loses it. -/
theorem ofText_text_ofCells_misread :
    (∀ g ∈ (ofCells [(.text "a /", .string), (.text "b", .string)]).values,
      hasInfix separator.toList g.label.toList = false ∧
        hasInfix GroupValue.emptyLabel.toList g.label.toList = false) ∧
    ofText (ofCells [(.text "a /", .string), (.text "b", .string)]).text =
      ⟨[.text "a", .text "/ b"]⟩ ∧
    ofCells [(.text "a /", .string), (.text "b", .string)] ≠ ⟨[.text "a", .text "/ b"]⟩ ∧
    (∀ g ∈ (ofCells [(.collection ["a", ""], .collection)]).values,
      hasInfix separator.toList g.label.toList = false ∧
        hasInfix GroupValue.emptyLabel.toList g.label.toList = false) ∧
    ofText (ofCells [(.collection ["a", ""], .collection)]).text = ⟨[.text "a,"]⟩ ∧
    ofCells [(.collection ["a", ""], .collection)] ≠ ⟨[.text "a,"]⟩ := by
  decide +kernel

end GroupPath

end Tabular
