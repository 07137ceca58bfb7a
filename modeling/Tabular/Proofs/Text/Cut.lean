import Mathlib.Data.List.TakeWhile
import Tabular.Text.Blank
import Tabular.Text.Digit
/-!
# Cutting a text where a class of characters ends

A text is often read by taking characters of a class from its front. Where the rest begins outside
the class (`BeginsOutside`), the cut is the only one, and `takeWhile` and `dropWhile` find it.

White space and digits have no character in common, so each ends where the other begins. What is
trimmed neither begins nor ends with white space, and a text without white space (`Unspaced`) is
trimmed.
-/

namespace Tabular.Text

/-! ## Cuts -/

/-- The list is empty or begins with a character outside a class. -/
def BeginsOutside (p : Char → Bool) (cs : List Char) : Prop := ∀ c ∈ cs.head?, p c = false

section Cut

variable {p : Char → Bool} {front rest : List Char}

theorem beginsOutside_dropWhile (cs : List Char) : BeginsOutside p (cs.dropWhile p) := by
  intro c hc
  have hnot := List.head?_dropWhile_not p cs
  rwa [Option.mem_def.mp hc] at hnot

/-- Where a class ends, `takeWhile` ends. -/
theorem takeWhile_append_eq (hfront : ∀ c ∈ front, p c = true) (hrest : BeginsOutside p rest) :
    (front ++ rest).takeWhile p = front := by
  rw [List.takeWhile_append_of_pos hfront]
  cases rest with
  | nil => simp
  | cons c rest => simp [hrest c rfl]

theorem dropWhile_append_eq (hfront : ∀ c ∈ front, p c = true) (hrest : BeginsOutside p rest) :
    (front ++ rest).dropWhile p = rest := by
  rw [List.dropWhile_append_of_pos hfront]
  cases rest with
  | nil => rfl
  | cons c rest => simp [hrest c rfl]

theorem dropWhile_of_beginsOutside (hrest : BeginsOutside p rest) : rest.dropWhile p = rest :=
  dropWhile_append_eq (List.forall_mem_nil fun c => p c = true) hrest

theorem BeginsOutside.of_isPrefix {cs : List Char} (h : BeginsOutside p cs)
    (hfront : front <+: cs) : BeginsOutside p front := by
  obtain ⟨rest, rfl⟩ := hfront
  cases front with
  | nil => exact nofun
  | cons c front => exact h

/-- A list is cut in one way only into a front of a class and a rest that begins outside it. -/
theorem append_eq_append_of_beginsOutside {front' rest' : List Char}
    (hfront : ∀ c ∈ front, p c = true) (hfront' : ∀ c ∈ front', p c = true)
    (hrest : BeginsOutside p rest) (hrest' : BeginsOutside p rest')
    (h : front ++ rest = front' ++ rest') : front = front' ∧ rest = rest' := by
  constructor
  · rw [← takeWhile_append_eq hfront hrest, h, takeWhile_append_eq hfront' hrest']
  · rw [← dropWhile_append_eq hfront hrest, h, dropWhile_append_eq hfront' hrest']

end Cut

/-! ## White space -/

theorem trimEnd_cons {c : Char} (hc : isSpace c = false) (cs : List Char) :
    trimEnd (c :: cs) = c :: trimEnd cs := by
  rw [trimEnd, List.reverse_cons, List.dropWhile_append]
  split
  · next hempty => simp [trimEnd, List.isEmpty_iff.mp hempty, hc]
  · simp [trimEnd]

theorem trimList_cons {c : Char} (hc : isSpace c = false) (cs : List Char) :
    trimList (c :: cs) = c :: trimEnd cs := by
  rw [trimList, trimStart_cons_of_not_isSpace hc, trimEnd_cons hc]

theorem trimEnd_isPrefix (cs : List Char) : trimEnd cs <+: cs := by
  rw [← List.reverse_suffix, trimEnd, List.reverse_reverse]
  exact List.dropWhile_suffix _

theorem trimList_isInfix (cs : List Char) : trimList cs <:+: cs :=
  (trimEnd_isPrefix _).isInfix.trans (List.dropWhile_suffix _).isInfix

/-- A trimmed text neither begins nor ends with white space. -/
theorem beginsOutside_trimList (cs : List Char) :
    BeginsOutside isSpace (trimList cs) ∧ BeginsOutside isSpace (trimList cs).reverse := by
  refine ⟨(beginsOutside_dropWhile cs).of_isPrefix (trimEnd_isPrefix _), ?_⟩
  rw [trimList, trimEnd, List.reverse_reverse]
  exact beginsOutside_dropWhile _

/-- Nothing is trimmed off a text exactly when it neither begins nor ends with white space. -/
theorem trimList_eq_self_iff {cs : List Char} :
    trimList cs = cs ↔ BeginsOutside isSpace cs ∧ BeginsOutside isSpace cs.reverse := by
  constructor
  · intro h
    rw [← h]
    exact beginsOutside_trimList cs
  · rintro ⟨hstart, hend⟩
    rw [trimList, trimStart, dropWhile_of_beginsOutside hstart, trimEnd,
      dropWhile_of_beginsOutside hend, List.reverse_reverse]

/-- A text without white space is not trimmed. -/
theorem trimList_eq_self {cs : List Char} (h : ∀ c ∈ cs, isSpace c = false) : trimList cs = cs :=
  trimList_eq_self_iff.mpr ⟨fun c hc => h c (List.mem_of_mem_head? hc),
    fun c hc => h c (List.mem_reverse.mp (List.mem_of_mem_head? hc))⟩

/-- What is left of a trimmed text does not end in white space. -/
theorem exists_not_isSpace_of_trimList {cs : List Char} (h : trimList cs ≠ []) :
    ∃ c ∈ trimList cs, isSpace c = false := by
  obtain ⟨c, rest, hlist⟩ := List.exists_cons_of_ne_nil (List.reverse_ne_nil_iff.mpr h)
  have hends := (beginsOutside_trimList cs).2
  rw [hlist] at hends
  exact ⟨c, List.mem_reverse.mp (hlist ▸ List.mem_cons_self), hends c rfl⟩

theorem trim_trim (s : String) : trim (trim s) = trim s := by
  rw [trim, trim, String.toList_ofList, trimList_eq_self_iff.mpr (beginsOutside_trimList _)]

/-- Only white space is trimmed off. -/
theorem mem_trimList {c : Char} {cs : List Char} (h : c ∈ cs) (hc : isSpace c = false) :
    c ∈ trimList cs := by
  have hdrop {l : List Char} (hl : c ∈ l) : c ∈ l.dropWhile isSpace := by
    rw [← List.takeWhile_append_dropWhile (p := isSpace) (l := l)] at hl
    refine (List.mem_append.mp hl).resolve_left fun htake => ?_
    rw [List.mem_takeWhile_imp htake] at hc
    cases hc
  exact List.mem_reverse.mpr (hdrop (List.mem_reverse.mpr (hdrop h)))

theorem trimList_eq_nil_iff {s : String} : trimList s.toList = [] ↔ isBlank s = true := by
  constructor
  · intro hnil
    refine List.all_eq_true.mpr fun c hc => ?_
    by_contra hspace
    have hmem := mem_trimList hc (by simpa using hspace)
    rw [hnil] at hmem
    cases hmem
  · intro hblank
    by_contra hne
    obtain ⟨c, hc, hspace⟩ := exists_not_isSpace_of_trimList hne
    rw [List.all_eq_true.mp hblank c ((trimList_isInfix _).subset hc)] at hspace
    cases hspace

theorem trim_eq_empty_iff {s : String} : trim s = "" ↔ isBlank s = true := by
  rw [trim, ← String.toList_inj, String.toList_ofList, String.toList_empty, trimList_eq_nil_iff]

theorem trim_eq_self_iff {s : String} :
    trim s = s ↔ BeginsOutside isSpace s.toList ∧ BeginsOutside isSpace s.toList.reverse := by
  rw [← trimList_eq_self_iff, trim, ← String.toList_inj, String.toList_ofList]

/-- Only white space is cut off at the end. -/
theorem exists_trimEnd_append (cs : List Char) :
    ∃ blank, trimEnd cs ++ blank = cs ∧ ∀ c ∈ blank, isSpace c = true := by
  refine ⟨(cs.reverse.takeWhile isSpace).reverse, ?_, fun c hc => ?_⟩
  · rw [trimEnd, ← List.reverse_append, List.takeWhile_append_dropWhile, List.reverse_reverse]
  · exact List.mem_takeWhile_imp (List.mem_reverse.mp hc)

/-- Nothing is cut off in front of what is not white space. -/
theorem trimEnd_append {cs : List Char} (h : ∃ c ∈ cs, isSpace c = false) (front : List Char) :
    trimEnd (front ++ cs) = front ++ trimEnd cs := by
  obtain ⟨c, hc, hspace⟩ := h
  have hne : ¬ (cs.reverse.dropWhile isSpace).isEmpty = true := by
    rw [List.isEmpty_iff, List.dropWhile_eq_nil_iff]
    intro hall
    rw [hall c (List.mem_reverse.mpr hc)] at hspace
    cases hspace
  rw [trimEnd, List.reverse_append, List.dropWhile_append, if_neg hne, List.reverse_append,
    List.reverse_reverse]
  rfl

/-- White space is left at the end of a text where something else follows it. -/
theorem mem_trimEnd_iff {c : Char} (hc : isSpace c = true) {cs : List Char} :
    c ∈ trimEnd cs ↔ ∃ front rest, front ++ c :: rest = cs ∧ ∃ d ∈ rest, isSpace d = false := by
  obtain ⟨blank, hcs, hblank⟩ := exists_trimEnd_append cs
  constructor
  · intro hmem
    obtain ⟨front, rest, htrim⟩ := List.append_of_mem hmem
    have hend : BeginsOutside isSpace (trimEnd cs).reverse := by
      rw [trimEnd, List.reverse_reverse]
      exact beginsOutside_dropWhile _
    refine ⟨front, rest ++ blank, by rw [← hcs, htrim]; simp, ?_⟩
    rw [htrim] at hend
    cases hrest : rest.getLast? with
    | none =>
      have hlast := hend c (by simp [List.getLast?_eq_none_iff.mp hrest])
      rw [hc] at hlast
      cases hlast
    | some d =>
      have hd := List.mem_of_getLast? hrest
      refine ⟨d, List.mem_append_left _ hd, hend d ?_⟩
      simp [List.head?_append, hrest]
  · rintro ⟨front, rest, rfl, hrest⟩
    rw [List.append_cons, trimEnd_append hrest]
    simp

/-- Spaces between the other characters do not matter to which white space is left at the end. -/
theorem mem_trimEnd_filter_iff {p : Char → Bool} {c : Char} (hc : isSpace c = true)
    (hp : p c = true) (hdark : ∀ d, isSpace d = false → p d = true) {cs : List Char} :
    c ∈ trimEnd (cs.filter p) ↔ c ∈ trimEnd cs := by
  rw [mem_trimEnd_iff hc, mem_trimEnd_iff hc]
  constructor
  · rintro ⟨front, rest, hcs, d, hd, hdspace⟩
    obtain ⟨left, right, rfl, -, hright⟩ := List.filter_eq_append_iff.mp hcs.symm
    obtain ⟨skipped, rest', rfl, -, -, rfl⟩ := List.filter_eq_cons_iff.mp hright
    exact ⟨left ++ skipped, rest', by simp, d, (List.mem_filter.mp hd).1, hdspace⟩
  · rintro ⟨front, rest, rfl, d, hd, hdspace⟩
    have hkept : d ∈ rest.filter p := List.mem_filter.mpr ⟨hd, hdark d hdspace⟩
    refine ⟨front.filter p, rest.filter p, ?_, d, hkept, hdspace⟩
    rw [List.filter_append, List.filter_cons_of_pos hp]

/-- A text without white space. -/
def Unspaced (s : String) : Prop := ∀ c ∈ s.toList, isSpace c = false

instance (s : String) : Decidable (Unspaced s) := List.decidableBAll _ s.toList

theorem Unspaced.trim_eq_self {s : String} (h : Unspaced s) : trim s = s := by
  rw [trim, trimList_eq_self h, String.ofList_toList]

theorem Unspaced.append {s t : String} (hs : Unspaced s) (ht : Unspaced t) :
    Unspaced (s ++ t) := by
  intro c hc
  rw [String.toList_append] at hc
  exact (List.mem_append.mp hc).elim (hs c) (ht c)

/-- The code points of white space. -/
def spaceCodes : List Nat :=
  [9, 10, 11, 12, 13, 0x20, 0x85, 0xA0, 0x1680, 0x2000, 0x2001, 0x2002, 0x2003, 0x2004, 0x2005,
   0x2006, 0x2007, 0x2008, 0x2009, 0x200A, 0x2028, 0x2029, 0x202F, 0x205F, 0x3000]

theorem toNat_mem_spaceCodes {c : Char} (h : isSpace c = true) : c.toNat ∈ spaceCodes := by
  simp only [isSpace, Bool.or_eq_true, Bool.and_eq_true, decide_eq_true_eq, beq_iff_eq] at h
  simp only [spaceCodes, List.mem_cons, List.not_mem_nil, or_false]
  omega

/-- A decimal digit is one of the ten code points from a zero on. -/
theorem exists_zero_of_isDecimalDigit {c : Char} (h : isDecimalDigit c = true) :
    ∃ z ∈ decimalZeros, z ≤ c.toNat ∧ c.toNat < z + 10 := by
  rcases Bool.or_eq_true_iff.mp h with hascii | hany
  · refine ⟨0x30, by decide, ?_⟩
    simp only [isAsciiDigit, Bool.and_eq_true, decide_eq_true_eq, Char.le_def,
      UInt32.le_iff_toNat_le] at hascii
    change 48 ≤ c.toNat ∧ c.toNat ≤ 57 at hascii
    omega
  · simpa using hany

/-- No digit is white space. -/
theorem isDecimalDigit_eq_false_of_isSpace {c : Char} (h : isSpace c = true) :
    isDecimalDigit c = false := by
  have hapart : ∀ z ∈ decimalZeros, ∀ n ∈ spaceCodes, ¬ (z ≤ n ∧ n < z + 10) := by decide
  by_contra hdigit
  obtain ⟨z, hz, hle⟩ := exists_zero_of_isDecimalDigit (by simpa using hdigit)
  exact hapart z hz _ (toNat_mem_spaceCodes h) hle

theorem isSpace_eq_false_of_isAsciiDigit {c : Char} (h : isAsciiDigit c = true) :
    isSpace c = false := by
  by_contra hspace
  have hdigit := isDecimalDigit_eq_false_of_isSpace (by simpa using hspace)
  rw [isDecimalDigit_of_isAsciiDigit h] at hdigit
  cases hdigit

end Tabular.Text
