import Tabular.Program.Argument
import Tabular.Proofs.Check
import Tabular.Proofs.Text.Cut
import Tabular.Proofs.Text.Split
/-!
# The notations of the command line

What the arguments for filters and sort keys look like (`FilterArgument.IsWritten`,
`SortKey.IsWritten`), and that they are read as just that (`arguments_read_as_written`).

The marks of the notations may occur in what stands between them. The equals sign of a filter is
the first one, so the text behind it may have others. The colon of a filter is the first one before
it, and the colon of a sort key is the last one. No word for an operator or a direction has a mark
in it, so no mark is taken for another. The low bound of a range ends at the first two points in a
row, so of three points the last belongs to the high bound.
-/

namespace Tabular

open Text

/-! ## Words -/

/-- A person's spelling of an operator: its name in any ASCII case, with white space around it. -/
def Operator.IsSpelled (op : Operator) (word : String) : Prop :=
  asciiLower (trim word) = asciiLower op.name

/-- The words for a direction. -/
def Direction.words : Direction → List String
  | .ascending => ["ascending", "asc"]
  | .descending => ["descending", "desc"]

/-- A person's spelling of a direction: one of its words in any ASCII case. -/
def Direction.IsSpelled (d : Direction) (word : String) : Prop := asciiLower word ∈ d.words

theorem isEmpty_trim (s : String) : (trim s).isEmpty = isBlank s := by
  rw [Bool.eq_iff_iff, String.isEmpty_iff, trim_eq_empty_iff]

theorem mem_toList_asciiLower {c : Char} {s : String} (h : c ∈ s.toList) (hc : c.toLower = c) :
    c ∈ (asciiLower s).toList := by
  rw [asciiLower, String.toList_ofList]
  exact hc ▸ List.mem_map_of_mem h

namespace Operator

theorem isSpelled_trim_iff {op : Operator} {word : String} :
    op.IsSpelled (trim word) ↔ op.IsSpelled word := by
  rw [IsSpelled, IsSpelled, trim_trim]

/-- **A word is read as the operator that it spells.** -/
theorem ofWord_eq_ok_iff {op : Operator} {word : String} :
    ofWord word = .ok op ↔ op.IsSpelled word := by
  have hall : ∀ op : Operator, op ∈ all := by
    intro op
    cases op <;> decide
  have hnames : ∀ a ∈ all, ∀ b ∈ all, asciiLower a.name = asciiLower b.name → a = b := by decide
  unfold ofWord IsSpelled
  dsimp only
  generalize asciiLower (trim word) = lower
  split
  · next found hfound =>
    have hlower : asciiLower found.name = lower := by simpa using List.find?_some hfound
    rw [Except.ok.injEq, ← hlower]
    exact ⟨fun heq => heq ▸ rfl, fun heq => hnames _ (hall _) _ (hall _) heq⟩
  · next hnone =>
    have hne := List.find?_eq_none.mp hnone op (hall op)
    exact iff_of_false nofun fun heq => hne (beq_iff_eq.mpr heq.symm)

/-- No mark stands in a word for an operator. -/
theorem IsSpelled.not_mem {op : Operator} {word : String} (h : op.IsSpelled word) {c : Char}
    (hc : c = '=' ∨ c = ':') : c ∉ word.toList := by
  have hnames : ∀ op ∈ all,
      '=' ∉ (asciiLower op.name).toList ∧ ':' ∉ (asciiLower op.name).toList := by decide
  have hop := hnames op (by cases op <;> decide)
  intro hmem
  have hword : c ∈ (trim word).toList := by
    rw [trim, String.toList_ofList]
    exact mem_trimList hmem (by rcases hc with rfl | rfl <;> decide)
  have hlower := mem_toList_asciiLower hword (by rcases hc with rfl | rfl <;> decide)
  rw [h] at hlower
  rcases hc with rfl | rfl
  · exact hop.1 hlower
  · exact hop.2 hlower

end Operator

namespace Direction

/-- **A word is read as the direction that it spells.** -/
theorem ofWord_eq_ok_iff {d : Direction} {word : String} :
    ofWord word = .ok d ↔ d.IsSpelled word := by
  unfold ofWord ofName? IsSpelled
  dsimp only
  generalize asciiLower word = lower
  by_cases hasc : lower = "ascending" ∨ lower = "asc"
  · rcases hasc with rfl | rfl <;> cases d <;> decide
  · by_cases hdesc : lower = "descending" ∨ lower = "desc"
    · rcases hdesc with rfl | rfl <;> cases d <;> decide
    · rw [not_or] at hasc hdesc
      cases d <;> simp [hasc, hdesc, words]

theorem IsSpelled.not_mem {d : Direction} {word : String} (h : d.IsSpelled word) :
    ':' ∉ word.toList := by
  have hwords : ∀ d : Direction, ∀ w ∈ d.words, ':' ∉ w.toList := by
    intro d
    cases d <;> decide
  exact fun hmem => hwords d _ h (mem_toList_asciiLower hmem (by decide))

end Direction

/-! ## Filters -/

/-- The name of a field as it may be written in a filter. -/
structure IsFieldText (field : String) : Prop where
  not_mem_equals : '=' ∉ field.toList
  not_mem_colon : ':' ∉ field.toList
  /-- Something is left when it is trimmed. -/
  not_blank : isBlank field = false

namespace FilterArgument

/-- The operands that a text means under an operator. Under a range operator it is split at its
first two points in a row, under another one it is taken as it is. -/
inductive IsOperands (op : Operator) : String → Filter → Prop
  | verbatim {value : String} (h : op.isRange = false) : IsOperands op value ⟨op, value, none⟩
  | single {value : String} (h : op.isRange = true) (hnot : ¬ ['.', '.'] <:+: value.toList) :
    IsOperands op value ⟨op, value, none⟩
  | bounds {low high : String} (h : op.isRange = true)
    (hfirst : ¬ ['.', '.'] <:+: low.toList ++ ['.']) :
    IsOperands op (low ++ ".." ++ high) ⟨op, low, some high⟩

/-- The notation of a filter. -/
inductive IsWritten : String → FilterArgument → Prop
  | text {field : String} (hfield : IsFieldText field) (raw : String) :
    IsWritten (field ++ "=" ++ raw) (.text (trim field) raw)
  | structured {field word value : String} {op : Operator} {f : Filter} (hfield : IsFieldText field)
    (hop : op.IsSpelled word) (hf : IsOperands op value f) :
    IsWritten (field ++ ":" ++ word ++ "=" ++ value) (.structured (trim field) f)

/-- **The operands of a text are the ones read.** -/
theorem isOperands_iff {op : Operator} {value : String} {f : Filter} :
    IsOperands op value f ↔ operands op value = f := by
  have hpoints : ("..".toList : List Char) ≠ [] := by decide
  constructor
  · rintro (h | ⟨h, hnot⟩ | ⟨h, hfirst⟩)
    case verbatim => simp [operands, h]
    case single =>
      have hcut : cutFirst? ".." value = none := (cutFirst?_eq_none_iff hpoints).mpr hnot
      simp [operands, h, hcut]
    case bounds low high =>
      have hcut : cutFirst? ".." (low ++ ".." ++ high) = some (low, high) :=
        (cutFirst?_eq_some_iff hpoints).mpr ⟨rfl, hfirst⟩
      simp [operands, h, hcut]
  · rintro rfl
    cases hrange : op.isRange with
    | false => simpa [operands, hrange] using .verbatim hrange
    | true =>
      cases hcut : cutFirst? ".." value with
      | none =>
        have hnot := (cutFirst?_eq_none_iff hpoints).mp hcut
        simpa [operands, hrange, hcut] using .single hrange hnot
      | some bounds =>
        obtain ⟨low, high⟩ := bounds
        obtain ⟨rfl, hfirst⟩ := (cutFirst?_eq_some_iff hpoints).mp hcut
        simpa [operands, hrange, hcut] using .bounds hrange hfirst

/-- Two points in a row are the first behind a text that has none and does not end in a point. -/
theorem not_infix_append_point {low : List Char} (hnot : ¬ ['.', '.'] <:+: low)
    (hend : low.getLast? ≠ some '.') : ¬ ['.', '.'] <:+: low ++ ['.'] := by
  rw [List.infix_concat_iff, not_or]
  refine ⟨fun hsuffix => hend ?_, hnot⟩
  obtain ⟨front, hfront⟩ := hsuffix
  have hlow : front ++ ['.'] = low := List.append_cancel_right (by simpa using hfront)
  simp [← hlow]

section Notation

variable {s field word value : String} {a : FilterArgument}

theorem ofArgument_of_not_mem (h : '=' ∉ s.toList) :
    ofArgument s = .error s!"expected FIELD=VALUE, got '{s}'" := by
  rw [ofArgument, (cutFirst?_mark_eq_none_iff rfl).mpr h]
  rfl

/-- Without a colon before the equals sign. -/
theorem ofArgument_text (hs : field ++ "=" ++ value = s) (hequals : '=' ∉ field.toList)
    (hcolon : ':' ∉ field.toList) :
    ofArgument s =
      if isBlank field then .error s!"missing field name in '{s}'"
      else .ok (text (trim field) value) := by
  have hcut : cutFirst? ":" field = none := (cutFirst?_mark_eq_none_iff rfl).mpr hcolon
  rw [ofArgument, (cutFirst?_mark_eq_some_iff rfl).mpr ⟨hs, hequals⟩]
  simp only [hcut, pure_bind, isEmpty_trim]
  split <;> rfl

/-- With a colon before the equals sign. -/
theorem ofArgument_structured (hs : field ++ ":" ++ word ++ "=" ++ value = s)
    (hequals : '=' ∉ (field ++ ":" ++ word).toList) (hcolon : ':' ∉ field.toList) :
    ofArgument s =
      Operator.ofWord (trim word) >>= fun op =>
        if isBlank field then .error s!"missing field name in '{s}'"
        else .ok (structured (trim field) (operands op value)) := by
  have hcut : cutFirst? ":" (field ++ ":" ++ word) = some (field, word) :=
    (cutFirst?_mark_eq_some_iff rfl).mpr ⟨rfl, hcolon⟩
  rw [ofArgument, (cutFirst?_mark_eq_some_iff rfl).mpr ⟨hs, hequals⟩]
  simp only [hcut, pure_bind, isEmpty_trim]
  cases Operator.ofWord (trim word) with
  | error message => rfl
  | ok op =>
    simp only [ok_bind]
    split <;> rfl

/-- **Filters are read from their notation only, and as they are written.** -/
theorem ofArgument_eq_ok_iff : ofArgument s = .ok a ↔ IsWritten s a := by
  constructor
  · intro h
    cases hequals : cutFirst? "=" s with
    | none =>
      have hnot : '=' ∉ s.toList := (cutFirst?_mark_eq_none_iff rfl).mp hequals
      rw [ofArgument_of_not_mem hnot] at h
      cases h
    | some cut =>
      obtain ⟨left, value⟩ := cut
      obtain ⟨rfl, hleft⟩ : left ++ "=" ++ value = s ∧ '=' ∉ left.toList :=
        (cutFirst?_mark_eq_some_iff rfl).mp hequals
      cases hcolon : cutFirst? ":" left with
      | none =>
        have hfield : ':' ∉ left.toList := (cutFirst?_mark_eq_none_iff rfl).mp hcolon
        rw [ofArgument_text rfl hleft hfield] at h
        cases hblank : isBlank left <;> rw [hblank] at h <;> cases h
        exact .text ⟨hleft, hfield, hblank⟩ value
      | some cut =>
        obtain ⟨field, word⟩ := cut
        obtain ⟨rfl, hfield⟩ : field ++ ":" ++ word = left ∧ ':' ∉ field.toList :=
          (cutFirst?_mark_eq_some_iff rfl).mp hcolon
        rw [ofArgument_structured rfl hleft hfield, bind_eq_ok_iff] at h
        obtain ⟨op, hop, h⟩ := h
        cases hblank : isBlank field <;> rw [hblank] at h <;> cases h
        refine .structured ⟨fun hmem => hleft ?_, hfield, hblank⟩
          (Operator.isSpelled_trim_iff.mp (Operator.ofWord_eq_ok_iff.mp hop))
          (isOperands_iff.mpr rfl)
        simp [hmem]
  · rintro (⟨hfield, raw⟩ | ⟨hfield, hop, hf⟩)
    case text field =>
      rw [ofArgument_text rfl hfield.not_mem_equals hfield.not_mem_colon, hfield.not_blank]
      rfl
    case structured field word value op f =>
      have hword : '=' ∉ word.toList := hop.not_mem (.inl rfl)
      have hequals : '=' ∉ (field ++ ":" ++ word).toList := by
        simp [hfield.not_mem_equals, hword]
      have hread := Operator.ofWord_eq_ok_iff.mpr (Operator.isSpelled_trim_iff.mpr hop)
      rw [ofArgument_structured rfl hequals hfield.not_mem_colon, hread, ok_bind, hfield.not_blank,
        isOperands_iff.mp hf]
      rfl

end Notation

end FilterArgument

/-! ## Sort keys -/

namespace SortKey

/-- The notation of a sort key. Without a direction the field has no colon. -/
inductive IsWritten : String → SortKey → Prop
  | plain {field : String} (hcolon : ':' ∉ field.toList) (hblank : isBlank field = false) :
    IsWritten field ⟨trim field, .ascending⟩
  | directed {field word : String} {d : Direction} (hblank : isBlank field = false)
    (hd : d.IsSpelled word) : IsWritten (field ++ ":" ++ word) ⟨trim field, d⟩

variable {s field word : String} {k : SortKey}

theorem ofArgument_plain (hcolon : ':' ∉ s.toList) :
    ofArgument s =
      if isBlank s then .error s!"missing field name in '{s}'"
      else .ok ⟨trim s, .ascending⟩ := by
  rw [ofArgument, cutLast?_eq_none_iff.mpr hcolon]
  simp only [pure_bind, isEmpty_trim]
  split <;> rfl

theorem ofArgument_directed (hs : field ++ ":" ++ word = s) (hcolon : ':' ∉ word.toList) :
    ofArgument s =
      Direction.ofWord word >>= fun d =>
        if isBlank field then .error s!"missing field name in '{s}'"
        else .ok ⟨trim field, d⟩ := by
  have hcut : cutLast? ':' s = some (field, word) :=
    (cutLast?_mark_eq_some_iff rfl).mpr ⟨hs, hcolon⟩
  rw [ofArgument, hcut]
  simp only [pure_bind, isEmpty_trim]
  cases Direction.ofWord word with
  | error message => rfl
  | ok d =>
    simp only [ok_bind]
    split <;> rfl

/-- **Sort keys are read from their notation only, and as they are written.** -/
theorem ofArgument_eq_ok_iff : ofArgument s = .ok k ↔ IsWritten s k := by
  constructor
  · intro h
    cases hcut : cutLast? ':' s with
    | none =>
      have hcolon := cutLast?_eq_none_iff.mp hcut
      rw [ofArgument_plain hcolon] at h
      cases hblank : isBlank s <;> rw [hblank] at h <;> cases h
      exact .plain hcolon hblank
    | some cut =>
      obtain ⟨field, word⟩ := cut
      obtain ⟨rfl, hcolon⟩ : field ++ ":" ++ word = s ∧ ':' ∉ word.toList :=
        (cutLast?_mark_eq_some_iff rfl).mp hcut
      rw [ofArgument_directed rfl hcolon, bind_eq_ok_iff] at h
      obtain ⟨d, hd, h⟩ := h
      cases hblank : isBlank field <;> rw [hblank] at h <;> cases h
      exact .directed hblank (Direction.ofWord_eq_ok_iff.mp hd)
  · rintro (⟨hcolon, hblank⟩ | ⟨hblank, hd⟩)
    case plain =>
      rw [ofArgument_plain hcolon, hblank]
      rfl
    case directed =>
      rw [ofArgument_directed rfl hd.not_mem, Direction.ofWord_eq_ok_iff.mpr hd, ok_bind, hblank]
      rfl

end SortKey

/-! ## Both notations -/

/-- **The arguments of the command line are read as they are written**, and from no other text. A
filter has a field without marks that is not blank, and either text that is taken as it is, or a
word for an operator and its operands. The bounds of a range are read back whatever they are, unless
the low one has two points in a row or ends in a point. A sort key has a field that is not blank,
which may have colons in it if a word for a direction follows. -/
theorem arguments_read_as_written :
    (∀ (s : String) (a : FilterArgument),
      FilterArgument.ofArgument s = .ok a ↔ FilterArgument.IsWritten s a) ∧
    (∀ (field word low high : String) (op : Operator), IsFieldText field → op.IsSpelled word →
      op.isRange = true → ¬ ['.', '.'] <:+: low.toList → low.toList.getLast? ≠ some '.' →
        FilterArgument.ofArgument (field ++ ":" ++ word ++ "=" ++ (low ++ ".." ++ high)) =
          .ok (.structured (trim field) ⟨op, low, some high⟩)) ∧
    ∀ (s : String) (k : SortKey), SortKey.ofArgument s = .ok k ↔ SortKey.IsWritten s k := by
  refine ⟨fun s a => FilterArgument.ofArgument_eq_ok_iff, ?bounds,
    fun s k => SortKey.ofArgument_eq_ok_iff⟩
  case bounds =>
    intro field word low high op hfield hop hrange hnot hend
    have hfirst := FilterArgument.not_infix_append_point hnot hend
    exact FilterArgument.ofArgument_eq_ok_iff.mpr (.structured hfield hop (.bounds hrange hfirst))

/-- A range whose high bound has points of its own, for a field with white space around it. -/
theorem arguments_read_as_written_range :
    IsFieldText " price " ∧ Operator.between.IsSpelled "BETWEEN " ∧
      FilterArgument.ofArgument (" price " ++ ":" ++ "BETWEEN " ++ "=" ++ ("1.5" ++ ".." ++ ".2..")) =
        .ok (.structured (trim " price ") ⟨.between, "1.5", some ".2.."⟩) := by
  have hfield : IsFieldText " price " := ⟨by decide, by decide, by decide⟩
  have hop : Operator.between.IsSpelled "BETWEEN " := by
    unfold Operator.IsSpelled
    decide +kernel
  have hnot : ¬ ['.', '.'] <:+: "1.5".toList := by decide
  exact ⟨hfield, hop,
    arguments_read_as_written.2.1 " price " "BETWEEN " "1.5" ".2.." .between hfield hop rfl hnot
      (by decide)⟩

end Tabular
