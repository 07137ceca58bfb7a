import Tabular.Proofs.Text.Cut
import Tabular.Proofs.Text.Digits
import Tabular.Proofs.Text.Split
import Tabular.Proofs.Text.Width
import Tabular.Table.Render
/-!
# The lines of a table

A table without color is meant to have one line for the headings, one for each row and one for the
footer. The texts of records are shown as they are, line breaks included, so the lines of the table
are these exactly when no line break is shown (`table_lines_iff`). Where that can happen is told for
each kind of line: a heading and a cell are cut to their columns first, at the end of a line of
cells line breaks go with the rest of the white space, and the texts of a group header are shown in
full. The footer has no line break. All of this holds under any measure of characters and texts,
which decides where texts are cut and how far they are filled up.

Columns are filled up with spaces and have spaces between them. None of these is a line break, and
none keeps a line break from being at the end of a line, so all of it is told on the characters that
are no spaces (`ink`).
-/

namespace Tabular.Table

open Text

/-! ## Columns -/

theorem length_narrowWidest {widths narrowed : List Nat} {w : Nat}
    (h : narrowWidest widths = some (narrowed, w)) : narrowed.length = widths.length := by
  induction widths generalizing narrowed w with
  | nil => cases h
  | cons v widths ih =>
    rw [narrowWidest] at h
    split at h
    case h_1 rest widest hrest =>
      split at h <;> cases h
      · rfl
      · rw [List.length_cons, List.length_cons, ih hrest]
    case h_2 =>
      split at h <;> cases h
      rfl

theorem length_shrinkBy (excess : Nat) (widths : List Nat) :
    (shrinkBy excess widths).length = widths.length := by
  induction excess generalizing widths with
  | zero => rfl
  | succ excess ih =>
    rw [shrinkBy]
    split
    case h_1 narrowed w hnarrow => rw [ih, length_narrowWidest hnarrow]
    case h_2 => rfl

section Table

variable {α : Type} (m : Measure) (value : α → String → Value) (width : Option Nat)
  (rows : List (DisplayRow α)) (fields : List Field) (sort : SortSpec)

/-- A table has a column for each field, under the heading of that field. -/
theorem exists_layout :
    ∃ widths : List Nat, widths.length = fields.length ∧
      layout m value width rows fields sort =
        (fields.zip widths).map fun (f, w) => ⟨f, heading sort f, w⟩ := by
  have hzip (widths : List Nat) :
      fields.zip ((fields.map (heading sort)).zip widths) =
        (fields.zip widths).map fun (f, w) => (f, heading sort f, w) := by
    induction fields generalizing widths with
    | nil => rfl
    | cons f fields ih =>
      cases widths with
      | nil => rfl
      | cons w widths => exact congrArg _ (ih widths)
  unfold layout
  dsimp only
  rw [hzip, List.map_map]
  refine ⟨_, ?_, rfl⟩
  split <;> simp [shrinkToFit, length_shrinkBy, naturalWidths]

theorem map_field_layout : (layout m value width rows fields sort).map (·.field) = fields := by
  obtain ⟨widths, hlength, hlayout⟩ := exists_layout m value width rows fields sort
  rw [hlayout, List.map_map]
  exact List.map_fst_zip hlength.ge

theorem exists_heading_of_mem_layout {c : Column}
    (hc : c ∈ layout m value width rows fields sort) : ∃ f ∈ fields, c.heading = heading sort f := by
  obtain ⟨widths, -, hlayout⟩ := exists_layout m value width rows fields sort
  rw [hlayout, List.mem_map] at hc
  obtain ⟨⟨f, w⟩, hmem, rfl⟩ := hc
  exact ⟨f, (List.of_mem_zip hmem).1, rfl⟩

end Table

/-! ## Lines -/

/-- The characters of a text that are no spaces. -/
def ink (s : String) : List Char := s.toList.filter (· != ' ')

/-- The texts of a row of cells as they are cut. -/
def cutTexts (m : Measure) (columns : List Column) (cells : List Cell) : List String :=
  (columns.zip cells).map fun (c, cell) => m.truncate cell.shown c.width

section Line

variable {m : Measure} {columns : List Column} {indent : Nat}

theorem mem_ink_iff {c : Char} (hc : c ≠ ' ') {s : String} : c ∈ ink s ↔ c ∈ s.toList := by
  simp [ink, hc]

theorem ink_fit (s : String) (w : Nat) (rightAlign : Bool) :
    ink (m.fit s w rightAlign) = ink (m.truncate s w) :=
  Measure.filter_pad rfl

theorem ink_joinCells (texts : List String) : ink (joinCells texts) = texts.flatMap ink := by
  unfold joinCells
  fun_induction join gap texts with
  | case1 => rfl
  | case2 s => simp
  | case3 s rest hne ih =>
    rw [List.flatMap_cons, ← ih]
    simp [ink, gap, List.filter_append]

theorem not_mem_spaces {c : Char} (hc : c ≠ ' ') (n : Nat) : c ∉ (spaces n).toList := by
  rw [spaces, String.toList_ofList]
  exact fun hmem => hc (List.eq_of_mem_replicate hmem)

theorem not_mem_toDigits {c : Char} (hc : isAsciiDigit c = false) (n : Nat) :
    c ∉ Nat.toDigits 10 n := by
  intro hmem
  rw [isAsciiDigit_of_mem_toDigits hmem] at hc
  cases hc

theorem toString_text (s : String) : toString s = s := rfl

theorem newline_mem_headingLine_iff :
    '\n' ∈ (headingLine m false indent columns).toList ↔
      ∃ c ∈ columns, '\n' ∈ (m.truncate c.heading c.width).toList := by
  have hink : '\n' ≠ ' ' := by decide
  have hspaces := not_mem_spaces hink indent
  unfold headingLine emphasize
  dsimp only
  rw [if_neg Bool.false_ne_true, String.toList_append, List.mem_append, or_iff_right hspaces,
    ← mem_ink_iff hink, ink_joinCells, List.flatMap_map, List.mem_flatMap]
  simp only [ink_fit, mem_ink_iff hink]

/-- Line breaks at the end of a line of cells are trimmed with the rest of the white space there. -/
theorem newline_mem_recordLine_iff {cells : List Cell} :
    '\n' ∈ (recordLine m false indent columns cells).toList ↔
      '\n' ∈ trimEnd ((cutTexts m columns cells).flatMap String.toList) := by
  have hspaces := not_mem_spaces (show '\n' ≠ ' ' by decide) indent
  have hdark (d : Char) (hd : isSpace d = false) : (d != ' ') = true :=
    bne_iff_ne.mpr fun heq => by
      rw [heq] at hd
      cases hd
  have hfilter (cs : List Char) : '\n' ∈ trimEnd (cs.filter (· != ' ')) ↔ '\n' ∈ trimEnd cs :=
    mem_trimEnd_filter_iff (by decide) (by decide) hdark
  have hcells : ink (joinCells ((columns.zip cells).map fun (c, cell) =>
      m.fit cell.shown c.width c.field.domain.isNumeric)) =
        (cutTexts m columns cells).flatMap ink := by
    rw [ink_joinCells, cutTexts, List.flatMap_map, List.flatMap_map]
    simp only [ink_fit]
  unfold recordLine emphasize
  simp only [Bool.false_eq_true, if_false, ite_self]
  rw [String.toList_append, List.mem_append, or_iff_right hspaces, String.toList_ofList,
    ← hfilter, ← hfilter (List.flatMap ..), List.filter_flatMap]
  exact iff_of_eq (congrArg ('\n' ∈ trimEnd ·) hcells)

theorem newline_mem_groupLine_iff {fields : List Field} {h : GroupHeader} :
    '\n' ∈ (groupLine fields h).toList ↔
      '\n' ∈ (groupLabel fields h).toList ∨ '\n' ∈ h.value.label.toList := by
  have hspaces := not_mem_spaces (show '\n' ≠ ' ' by decide) (2 * h.level)
  have hcount := not_mem_toDigits (show isAsciiDigit '\n' = false by decide) h.count
  unfold groupLine
  split <;> simp [toString_text, hspaces, hcount]

theorem newline_not_mem_footer (info : PageInfo) : '\n' ∉ (footer info).toList := by
  have hnumber := not_mem_toDigits (show isAsciiDigit '\n' = false by decide)
  unfold footer
  split
  · decide
  · simp [toString_text, hnumber]

theorem newline_mem_heading_iff {sort : SortSpec} {f : Field} :
    '\n' ∈ (heading sort f).toList ↔ '\n' ∈ f.heading.toList := by
  have hnumber := not_mem_toDigits (show isAsciiDigit '\n' = false by decide)
  unfold heading
  split
  · split <;> split <;> simp [hnumber]
  · rfl

end Line

/-! ## The whole table -/

/-- No line break is shown in a table of these columns and rows. -/
structure IsUnbroken {α : Type} (m : Measure) (value : α → String → Value)
    (columns : List Column) (rows : List (DisplayRow α)) : Prop where
  heading : ∀ c ∈ columns, '\n' ∉ (m.truncate c.heading c.width).toList
  header : ∀ h, .header h ∈ rows →
    '\n' ∉ (groupLabel (columns.map (·.field)) h).toList ∧ '\n' ∉ h.value.label.toList
  /-- None but those that are trimmed at the end of the line. -/
  record : ∀ e, .record e ∈ rows →
    '\n' ∉ trimEnd ((cutTexts m columns
      (recordCells value (columns.map (·.field)) e.record)).flatMap String.toList)

section Table

variable {α : Type} {m : Measure} {value : α → String → Value} {width : Option Nat}
  {rows : List (DisplayRow α)} {fields : List Field} {sort : SortSpec} {info : PageInfo}

/-- Line breaks are shown by the lines of headings and rows only. -/
theorem forall_mem_lines_iff :
    (∀ l ∈ lines m value width false rows fields sort info, '\n' ∉ l.toList) ↔
      IsUnbroken m value (layout m value width rows fields sort) rows := by
  unfold lines
  simp only [List.forall_mem_append, List.forall_mem_cons, List.forall_mem_map,
    newline_mem_headingLine_iff, not_exists, not_and]
  constructor
  · rintro ⟨⟨hheading, hrows⟩, -⟩
    refine ⟨hheading, fun h hmem => ?_, fun e hmem => ?_⟩
    · have hline := hrows _ hmem
      exact not_or.mp (mt newline_mem_groupLine_iff.mpr hline)
    · exact mt newline_mem_recordLine_iff.mpr (hrows _ hmem)
  · rintro ⟨hheading, hheader, hrecord⟩
    refine ⟨⟨hheading, fun row hmem => ?_⟩, newline_not_mem_footer info, List.forall_mem_nil _⟩
    cases row with
    | header h => exact mt newline_mem_groupLine_iff.mp (not_or.mpr (hheader h hmem))
    | record e => exact mt newline_mem_recordLine_iff.mp (hrecord e hmem)

/-- A table of texts without line breaks shows none. -/
theorem isUnbroken_layout (hheading : ∀ f ∈ fields, '\n' ∉ f.heading.toList)
    (hheader : ∀ h, .header h ∈ rows →
      '\n' ∉ (groupLabel fields h).toList ∧ '\n' ∉ h.value.label.toList)
    (hrecord : ∀ e, .record e ∈ rows →
      ∀ cell ∈ recordCells value fields e.record, '\n' ∉ cell.shown.toList) :
    IsUnbroken m value (layout m value width rows fields sort) rows := by
  have hcut {s : String} {w : Nat} (hs : '\n' ∉ s.toList) : '\n' ∉ (m.truncate s w).toList :=
    mt (Measure.mem_of_mem_truncate (by decide)) hs
  have hfields := map_field_layout m value width rows fields sort
  refine ⟨fun c hc => ?heading, fun h hmem => ?header, fun e hmem hbreak => ?record⟩
  case heading =>
    obtain ⟨f, hf, heq⟩ := exists_heading_of_mem_layout m value width rows fields sort hc
    rw [heq]
    exact hcut (mt newline_mem_heading_iff.mp (hheading f hf))
  case header => exact hfields.symm ▸ hheader h hmem
  case record =>
    rw [hfields] at hbreak
    obtain ⟨s, hs, hline⟩ := List.mem_flatMap.mp ((trimEnd_isPrefix _).subset hbreak)
    obtain ⟨⟨c, cell⟩, hcell, rfl⟩ := List.mem_map.mp hs
    exact hcut (hrecord e hmem cell (List.of_mem_zip hcell).2) hline

end Table

/-- **A table has a line for the headings, one for each row in order and one for the footer**
exactly when no line break is shown, whatever texts are measured by. It shows none if there is none
in the headings of its fields, in the labels and values of its group headers and in the texts of its
cells. -/
theorem table_lines_iff {α : Type} (m : Measure) (value : α → String → Value)
    (width : Option Nat) (rows : List (DisplayRow α)) (fields : List Field) (sort : SortSpec)
    (info : PageInfo) :
    let columns := layout m value width rows fields sort
    let indent := recordIndent rows
    (split "\n" (text m value width false rows fields sort info) =
        headingLine m false indent columns
          :: rows.map (rowLine m false value indent columns) ++ [footer info, ""] ↔
      IsUnbroken m value columns rows) ∧
    ((∀ f ∈ fields, '\n' ∉ f.heading.toList) →
      (∀ h, .header h ∈ rows →
        '\n' ∉ (groupLabel fields h).toList ∧ '\n' ∉ h.value.label.toList) →
      (∀ e, .record e ∈ rows →
        ∀ cell ∈ recordCells value fields e.record, '\n' ∉ cell.shown.toList) →
      IsUnbroken m value columns rows) := by
  intro columns indent
  have hlines : lines m value width false rows fields sort info ++ [""] =
      headingLine m false indent columns
        :: rows.map (rowLine m false value indent columns) ++ [footer info, ""] := by
    simp [lines, columns, indent, emphasize]
  have hsplit := split_lines_iff (show "\n".toList = ['\n'] from rfl)
    (lines m value width false rows fields sort info)
  rw [hlines, forall_mem_lines_iff] at hsplit
  exact ⟨hsplit, isUnbroken_layout⟩

/-- A plain cell makes one line of its row. -/
theorem table_lines_iff_plain_cell :
    let value : Unit → String → Value := fun _ _ => .text "x"
    let rows : List (DisplayRow Unit) := [.record ⟨0, ()⟩]
    let fields : List Field := [⟨"a", .string, none⟩]
    let info : PageInfo := ⟨1, 25, 1, 1, 1, 1⟩
    let shown := text terminal value none false rows fields {} info
    IsUnbroken terminal value (layout terminal value none rows fields {}) rows ∧
      (split "\n" shown).length = 1 + rows.length + 2 := by
  intro value rows fields info shown
  obtain ⟨hlines, hplain⟩ := table_lines_iff terminal value none rows fields {} info
  have hheading : ∀ f ∈ fields, '\n' ∉ f.heading.toList := by decide
  have hheader (h : GroupHeader) (hmem : .header h ∈ rows) :
      '\n' ∉ (groupLabel fields h).toList ∧ '\n' ∉ h.value.label.toList := by
    cases List.mem_singleton.mp hmem
  have hcells (e : Entry Unit) (hmem : .record e ∈ rows) :
      ∀ cell ∈ recordCells value fields e.record, '\n' ∉ cell.shown.toList := by
    cases List.mem_singleton.mp hmem
    decide
  have hunbroken := hplain hheading hheader hcells
  exact ⟨hunbroken, congrArg List.length (hlines.mpr hunbroken)⟩

/-- A cell with a line break makes two lines of its row. -/
theorem broken_cell_makes_two_lines :
    let value : Unit → String → Value := fun _ _ => .text "x\ny"
    let rows : List (DisplayRow Unit) := [.record ⟨0, ()⟩]
    let fields : List Field := [⟨"a", .string, none⟩]
    let info : PageInfo := ⟨1, 25, 1, 1, 1, 1⟩
    let shown := text terminal value none false rows fields {} info
    shown = "a  \nx\ny\nShowing 1–1 of 1 · page 1/1\n" ∧
      (split "\n" shown).length ≠ 1 + rows.length + 2 := by
  decide +kernel

end Tabular.Table
