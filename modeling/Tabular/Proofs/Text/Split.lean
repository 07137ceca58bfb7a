import Mathlib.Data.List.Infix
import Tabular.Text.Split
/-!
# Splitting undoes joining

A text is split at the places where the separator is found from the left. The pieces, joined again,
give the text (`intercalate_splitAll`), and no piece contains the separator. But that does not tell
the pieces: a separator can also be found across the end of a piece. Pieces come back from their
joined text exactly when, in addition, none but the last of them makes up a separator with the
beginning of the next one (`IsSplit`, `splitAll_eq_iff`). A single cut is at the first separator
that is found in this way, or at the last (`splitFirst?_eq_some_iff`, `splitLast?_eq_some_iff`).
-/

namespace Tabular.Text

variable {sep cs p q : List Char} {parts : List (List Char)}

/-! ## One piece -/

theorem splitFrom_eq (sep : List Char) (skip : Nat) (cs : List Char) :
    splitFrom sep skip cs = splitAll sep (cs.drop skip) := by
  induction cs generalizing skip with
  | nil => cases skip <;> rfl
  | cons c rest ih =>
    cases skip with
    | zero => rfl
    | succ skip => exact ih skip

theorem splitAll_nil : splitAll sep [] = [[]] := rfl

theorem splitAll_append_self (hsep : sep ≠ []) :
    splitAll sep (sep ++ cs) = [] :: splitAll sep cs := by
  obtain ⟨c, rest, rfl⟩ := List.exists_cons_of_ne_nil hsep
  have hbegins : (c :: rest).isPrefixOf (c :: (rest ++ cs)) = true :=
    List.isPrefixOf_iff_prefix.mpr (List.prefix_append ..)
  rw [splitAll, List.cons_append, splitFrom, if_pos hbegins, splitFrom_eq, List.length_cons,
    Nat.add_sub_cancel, List.drop_left]

theorem splitAll_cons {c : Char} (h : ¬ sep <+: c :: cs) :
    splitAll sep (c :: cs) = consFirst c (splitAll sep cs) := by
  rw [splitAll, splitFrom, if_neg (mt List.isPrefixOf_iff_prefix.mp h)]
  rfl

/-- A text without the separator is one piece. -/
theorem splitAll_of_not_infix (h : ¬ sep <:+: p) : splitAll sep p = [p] := by
  induction p with
  | nil => rfl
  | cons c p ih =>
    rw [List.infix_cons_iff, not_or] at h
    rw [splitAll_cons h.1, ih h.2]
    rfl

/-- Whether a separator is found at the front of a piece shows before the one behind the piece is
complete. -/
theorem isPrefix_cons_append_iff {c : Char} :
    sep <+: c :: (p ++ sep ++ cs) ↔ sep <+: c :: (p ++ sep.dropLast) := by
  have hpart : c :: (p ++ sep.dropLast) <+: c :: (p ++ sep ++ cs) := by
    rw [List.append_assoc, List.cons_prefix_cons]
    refine ⟨rfl, (List.prefix_append_right_inj p).mpr ?_⟩
    exact sep.dropLast_prefix.trans (List.prefix_append sep cs)
  refine ⟨fun hbegins => List.prefix_of_prefix_length_le hbegins hpart ?_, fun h => h.trans hpart⟩
  simp only [List.length_cons, List.length_append, List.length_dropLast]
  omega

/-- The first piece ends at the separator if none is found before that, across the end of the piece
either. -/
theorem splitAll_append (hsep : sep ≠ []) (h : ¬ sep <:+: p ++ sep.dropLast) :
    splitAll sep (p ++ sep ++ cs) = p :: splitAll sep cs := by
  induction p with
  | nil => exact splitAll_append_self hsep
  | cons c p ih =>
    rw [List.cons_append, List.infix_cons_iff, not_or] at h
    have hfirst : ¬ sep <+: c :: (p ++ sep ++ cs) := mt isPrefix_cons_append_iff.mp h.1
    rw [List.cons_append, List.cons_append, splitAll_cons hfirst, ih h.2]
    rfl

/-! ## One cut -/

section Cut

variable {before after : List Char} {c : Char}

theorem splitFirst?_append_self (hsep : sep ≠ []) :
    splitFirst? sep (sep ++ cs) = some ([], cs) := by
  obtain ⟨c, rest, rfl⟩ := List.exists_cons_of_ne_nil hsep
  have hbegins : (c :: rest).isPrefixOf (c :: (rest ++ cs)) = true :=
    List.isPrefixOf_iff_prefix.mpr (List.prefix_append ..)
  rw [List.cons_append, splitFirst?, if_pos hbegins, ← List.cons_append, List.drop_left]

theorem splitFirst?_cons (h : ¬ sep <+: c :: cs) :
    splitFirst? sep (c :: cs) = (splitFirst? sep cs).map fun (before, after) =>
      (c :: before, after) := by
  rw [splitFirst?, if_neg (mt List.isPrefixOf_iff_prefix.mp h)]

/-- **A text is cut at the first separator**: none is found before it, across the end of the part
before it either. -/
theorem splitFirst?_eq_some_iff (hsep : sep ≠ []) :
    splitFirst? sep cs = some (before, after) ↔
      before ++ sep ++ after = cs ∧ ¬ sep <:+: before ++ sep.dropLast := by
  constructor
  · intro h
    induction cs generalizing before with
    | nil => simp [splitFirst?, hsep] at h
    | cons c cs ih =>
      by_cases hbegins : sep <+: c :: cs
      · obtain ⟨rest, hrest⟩ := hbegins
        rw [← hrest, splitFirst?_append_self hsep] at h
        obtain ⟨rfl, rfl⟩ := Prod.mk.inj (Option.some.inj h)
        refine ⟨hrest, fun hwithin => ?_⟩
        have hle := hwithin.length_le
        have hpos := List.length_pos_of_ne_nil hsep
        rw [List.nil_append, List.length_dropLast] at hle
        omega
      · rw [splitFirst?_cons hbegins] at h
        obtain ⟨⟨rest, _⟩, hcut, heq⟩ := Option.map_eq_some_iff.mp h
        obtain ⟨rfl, rfl⟩ := Prod.mk.inj heq
        obtain ⟨rfl, hrest⟩ := ih hcut
        refine ⟨by simp, ?_⟩
        rw [List.cons_append, List.infix_cons_iff, not_or]
        exact ⟨mt isPrefix_cons_append_iff.mpr hbegins, hrest⟩
  · rintro ⟨rfl, h⟩
    induction before with
    | nil => exact splitFirst?_append_self hsep
    | cons c before ih =>
      rw [List.cons_append, List.infix_cons_iff, not_or] at h
      have hfirst : ¬ sep <+: c :: (before ++ sep ++ after) := mt isPrefix_cons_append_iff.mp h.1
      rw [List.cons_append, List.cons_append, splitFirst?_cons hfirst, ih h.2]
      rfl

theorem splitFirst?_eq_none_iff (hsep : sep ≠ []) :
    splitFirst? sep cs = none ↔ ¬ sep <:+: cs := by
  induction cs with
  | nil => simp [splitFirst?, hsep]
  | cons c cs ih =>
    rw [List.infix_cons_iff, not_or, ← ih]
    by_cases hbegins : sep <+: c :: cs
    · obtain ⟨rest, hrest⟩ := hbegins
      simp [← hrest, splitFirst?_append_self hsep]
    · simp [splitFirst?_cons hbegins, hbegins]

theorem splitLast?_eq_none_iff : splitLast? c cs = none ↔ c ∉ cs := by
  induction cs with
  | nil => simp [splitLast?]
  | cons d cs ih =>
    rw [splitLast?, List.mem_cons, not_or, ← ih]
    cases splitLast? c cs with
    | none => simp [eq_comm (a := c)]
    | some cut => simp

/-- **A text is cut at the last separator**: none is found behind it. -/
theorem splitLast?_eq_some_iff :
    splitLast? c cs = some (before, after) ↔ before ++ c :: after = cs ∧ c ∉ after := by
  constructor
  · intro h
    induction cs generalizing before with
    | nil => cases h
    | cons d cs ih =>
      rw [splitLast?] at h
      split at h
      · next found hcut =>
        obtain ⟨rfl, rfl⟩ := Prod.mk.inj (Option.some.inj h)
        obtain ⟨rfl, hrest⟩ := ih hcut
        exact ⟨rfl, hrest⟩
      · next hnone =>
        obtain ⟨hd, hcut⟩ := Option.ite_none_right_eq_some.mp h
        obtain ⟨rfl, rfl⟩ := Prod.mk.inj (Option.some.inj hcut)
        exact ⟨by simp [beq_iff_eq.mp hd], splitLast?_eq_none_iff.mp hnone⟩
  · rintro ⟨rfl, h⟩
    induction before with
    | nil => simp [splitLast?, splitLast?_eq_none_iff.mpr h]
    | cons d before ih => rw [List.cons_append, splitLast?, ih]

end Cut

/-! ## All pieces -/

/-- Pieces that come back when they are joined and split. -/
structure IsSplit (sep : List Char) (parts : List (List Char)) : Prop where
  ne_nil : parts ≠ []
  not_infix : ∀ p ∈ parts, ¬ sep <:+: p
  /-- No separator is found across the end of a piece that another one follows. -/
  not_infix_dropLast : ∀ p ∈ parts.dropLast, ¬ sep <:+: p ++ sep.dropLast

theorem isSplit_singleton : IsSplit sep [p] ↔ ¬ sep <:+: p :=
  ⟨fun h => h.not_infix p List.mem_cons_self,
    fun h => ⟨List.cons_ne_nil _ _, List.forall_mem_singleton.mpr h, nofun⟩⟩

theorem isSplit_cons_cons :
    IsSplit sep (p :: q :: parts) ↔
      ¬ sep <:+: p ++ sep.dropLast ∧ IsSplit sep (q :: parts) := by
  constructor
  · rintro ⟨-, hparts, hends⟩
    rw [List.dropLast_cons_of_ne_nil (List.cons_ne_nil _ _), List.forall_mem_cons] at hends
    exact ⟨hends.1, List.cons_ne_nil _ _, (List.forall_mem_cons.mp hparts).2, hends.2⟩
  · rintro ⟨hp, -, hparts, hends⟩
    refine ⟨List.cons_ne_nil _ _, List.forall_mem_cons.mpr ⟨?_, hparts⟩, ?_⟩
    · exact fun hwithin => hp (hwithin.trans (List.prefix_append ..).isInfix)
    · rw [List.dropLast_cons_of_ne_nil (List.cons_ne_nil _ _)]
      exact List.forall_mem_cons.mpr ⟨hp, hends⟩

theorem splitAll_intercalate (h : IsSplit sep parts) :
    splitAll sep (sep.intercalate parts) = parts := by
  induction parts with
  | nil => exact absurd rfl h.ne_nil
  | cons p parts ih =>
    cases parts with
    | nil => rw [List.intercalate_singleton, splitAll_of_not_infix (isSplit_singleton.mp h)]
    | cons q parts =>
      obtain ⟨hp, hrest⟩ := isSplit_cons_cons.mp h
      have hsep : sep ≠ [] := by
        rintro rfl
        exact hp List.nil_infix
      rw [List.intercalate_cons_cons, splitAll_append hsep hp, ih hrest]

theorem IsSplit.nil_cons (hsep : sep ≠ []) (h : IsSplit sep parts) : IsSplit sep ([] :: parts) := by
  obtain ⟨q, more, rfl⟩ := List.exists_cons_of_ne_nil h.ne_nil
  refine isSplit_cons_cons.mpr ⟨fun hwithin => ?_, h⟩
  have hle := hwithin.length_le
  have hpos := List.length_pos_of_ne_nil hsep
  rw [List.nil_append, List.length_dropLast] at hle
  omega

theorem intercalate_consFirst (c : Char) (h : parts ≠ []) :
    sep.intercalate (consFirst c parts) = c :: sep.intercalate parts := by
  obtain ⟨p, more, rfl⟩ := List.exists_cons_of_ne_nil h
  cases more with
  | nil => rw [consFirst, List.intercalate_singleton, List.intercalate_singleton]
  | cons q more =>
    rw [consFirst, List.intercalate_cons_cons, List.intercalate_cons_cons, List.cons_append,
      List.cons_append]

/-- A character in front is part of the first piece unless it begins a separator. -/
theorem IsSplit.consFirst {c : Char} (h : IsSplit sep parts)
    (hfirst : ¬ sep <+: c :: sep.intercalate parts) : IsSplit sep (consFirst c parts) := by
  obtain ⟨p, more, rfl⟩ := List.exists_cons_of_ne_nil h.ne_nil
  cases more with
  | nil =>
    rw [List.intercalate_singleton] at hfirst
    rw [Text.consFirst, isSplit_singleton, List.infix_cons_iff, not_or]
    exact ⟨hfirst, isSplit_singleton.mp h⟩
  | cons q more =>
    obtain ⟨hp, hrest⟩ := isSplit_cons_cons.mp h
    rw [Text.consFirst, isSplit_cons_cons, List.cons_append, List.infix_cons_iff, not_or]
    refine ⟨⟨fun hbegins => hfirst (hbegins.trans ?_), hp⟩, hrest⟩
    rw [List.intercalate_cons_cons, List.append_assoc, List.cons_prefix_cons]
    refine ⟨rfl, (List.prefix_append_right_inj p).mpr ?_⟩
    exact sep.dropLast_prefix.trans (List.prefix_append ..)

/-- **The pieces of a text give it back, and come back from it.** -/
theorem intercalate_splitAll (hsep : sep ≠ []) (cs : List Char) :
    sep.intercalate (splitAll sep cs) = cs ∧ IsSplit sep (splitAll sep cs) := by
  match cs with
  | [] =>
    rw [splitAll_nil, List.intercalate_singleton, isSplit_singleton, List.infix_nil]
    exact ⟨rfl, hsep⟩
  | c :: rest =>
    by_cases hbegins : sep <+: c :: rest
    · obtain ⟨tail, htail⟩ := hbegins
      obtain ⟨hjoin, hsplit⟩ := intercalate_splitAll hsep tail
      rw [← htail, splitAll_append_self hsep]
      refine ⟨?_, hsplit.nil_cons hsep⟩
      obtain ⟨q, more, hparts⟩ := List.exists_cons_of_ne_nil hsplit.ne_nil
      rw [hparts] at hjoin ⊢
      rw [List.intercalate_cons_cons, hjoin, List.nil_append]
    · obtain ⟨hjoin, hsplit⟩ := intercalate_splitAll hsep rest
      rw [splitAll_cons hbegins, intercalate_consFirst c hsplit.ne_nil, hjoin]
      rw [← hjoin] at hbegins
      exact ⟨rfl, hsplit.consFirst hbegins⟩
termination_by cs.length
decreasing_by
  · have hlength := congrArg List.length htail
    have hpos := List.length_pos_of_ne_nil hsep
    simp only [List.length_append, List.length_cons] at hlength ⊢
    omega
  · exact Nat.lt_succ_self _

/-- **The pieces of a text are the lists that give it when they are joined, and of which none
contains a separator or makes one up with the next.** -/
theorem splitAll_eq_iff (hsep : sep ≠ []) :
    splitAll sep cs = parts ↔ sep.intercalate parts = cs ∧ IsSplit sep parts := by
  constructor
  · rintro rfl
    exact intercalate_splitAll hsep cs
  · rintro ⟨rfl, h⟩
    exact splitAll_intercalate h

/-! ## Texts -/

theorem toList_join (sep : String) (parts : List String) :
    (join sep parts).toList = sep.toList.intercalate (parts.map String.toList) := by
  induction parts with
  | nil => rfl
  | cons p parts ih =>
    cases parts with
    | nil => simp [join]
    | cons q parts =>
      rw [join, String.toList_append, String.toList_append, ih]
      · simp only [List.map_cons, List.intercalate_cons_cons]
      · exact List.cons_ne_nil _ _

/-- **A text is cut at the first separator.** -/
theorem cutFirst?_eq_some_iff {sep s front rest : String} (hsep : sep.toList ≠ []) :
    cutFirst? sep s = some (front, rest) ↔
      front ++ sep ++ rest = s ∧ ¬ sep.toList <:+: front.toList ++ sep.toList.dropLast := by
  rw [← String.toList_inj, String.toList_append, String.toList_append,
    ← splitFirst?_eq_some_iff hsep, cutFirst?, Option.map_eq_some_iff]
  constructor
  · rintro ⟨⟨before, after⟩, hcut, heq⟩
    obtain ⟨rfl, rfl⟩ := Prod.mk.inj heq
    simpa using hcut
  · intro hcut
    exact ⟨_, hcut, by simp⟩

theorem cutFirst?_eq_none_iff {sep s : String} (hsep : sep.toList ≠ []) :
    cutFirst? sep s = none ↔ ¬ sep.toList <:+: s.toList := by
  rw [cutFirst?, Option.map_eq_none_iff, splitFirst?_eq_none_iff hsep]

section Mark

variable {c : Char} {mark s front rest : String}

theorem cutFirst?_mark_eq_some_iff (hmark : mark.toList = [c]) :
    cutFirst? mark s = some (front, rest) ↔ front ++ mark ++ rest = s ∧ c ∉ front.toList := by
  rw [cutFirst?_eq_some_iff (hmark ▸ List.cons_ne_nil c []), hmark, List.dropLast_singleton,
    List.append_nil, List.singleton_infix_iff]

theorem cutFirst?_mark_eq_none_iff (hmark : mark.toList = [c]) :
    cutFirst? mark s = none ↔ c ∉ s.toList := by
  rw [cutFirst?_eq_none_iff (hmark ▸ List.cons_ne_nil c []), hmark, List.singleton_infix_iff]

/-- **A text is cut at the last separator.** -/
theorem cutLast?_mark_eq_some_iff (hmark : mark.toList = [c]) :
    cutLast? c s = some (front, rest) ↔ front ++ mark ++ rest = s ∧ c ∉ rest.toList := by
  have hlist : front ++ mark ++ rest = s ↔ front.toList ++ c :: rest.toList = s.toList := by
    rw [← String.toList_inj]
    simp [hmark]
  rw [hlist, ← splitLast?_eq_some_iff, cutLast?, Option.map_eq_some_iff]
  constructor
  · rintro ⟨⟨before, after⟩, hcut, heq⟩
    obtain ⟨rfl, rfl⟩ := Prod.mk.inj heq
    simpa using hcut
  · intro hcut
    exact ⟨_, hcut, by simp⟩

theorem cutLast?_eq_none_iff : cutLast? c s = none ↔ c ∉ s.toList := by
  rw [cutLast?, Option.map_eq_none_iff, splitLast?_eq_none_iff]

end Mark

theorem split_eq_iff {sep s : String} (hsep : sep.toList ≠ []) {parts : List String} :
    split sep s = parts ↔ join sep parts = s ∧ IsSplit sep.toList (parts.map String.toList) := by
  have hlists : split sep s = parts ↔ splitAll sep.toList s.toList = parts.map String.toList := by
    rw [split]
    constructor
    · rintro rfl
      simp
    · intro h
      simp [h]
  rw [hlists, splitAll_eq_iff hsep, ← toList_join, String.toList_inj]

/-! ## Lines -/

theorem isSplit_mark_iff {c : Char} : IsSplit [c] parts ↔ parts ≠ [] ∧ ∀ p ∈ parts, c ∉ p := by
  constructor
  · rintro ⟨hne, hparts, -⟩
    exact ⟨hne, fun p hp hmem => hparts p hp ((List.singleton_infix_iff c p).mpr hmem)⟩
  · rintro ⟨hne, hparts⟩
    refine ⟨hne, fun p hp hwithin => ?_, fun p hp hwithin => ?_⟩
    · exact hparts p hp ((List.singleton_infix_iff c p).mp hwithin)
    · rw [List.dropLast_singleton, List.append_nil] at hwithin
      exact hparts p (List.mem_of_mem_dropLast hp) ((List.singleton_infix_iff c p).mp hwithin)

/-- Lines that end with a mark are texts with the mark between them, of which the last is empty. -/
theorem join_map_append (mark : String) (ls : List String) :
    String.join (ls.map fun l => l ++ mark) = join mark (ls ++ [""]) := by
  induction ls with
  | nil => rfl
  | cons l ls ih =>
    rw [List.map_cons, String.join_cons, ih, List.cons_append, join]
    simp

/-- **Lines are told apart by the marks that end them** exactly when none has the mark in it. -/
theorem split_lines_iff {c : Char} {mark : String} (hmark : mark.toList = [c]) (ls : List String) :
    split mark (String.join (ls.map fun l => l ++ mark)) = ls ++ [""] ↔ ∀ l ∈ ls, c ∉ l.toList := by
  rw [split_eq_iff (hmark ▸ List.cons_ne_nil c []), join_map_append, hmark, isSplit_mark_iff]
  simp only [ne_eq, List.map_eq_nil_iff, List.append_eq_nil_iff, List.cons_ne_nil, and_false,
    not_false_eq_true, true_and, List.forall_mem_map, List.forall_mem_append,
    List.forall_mem_singleton, String.toList_empty, List.not_mem_nil, and_true]

end Tabular.Text
