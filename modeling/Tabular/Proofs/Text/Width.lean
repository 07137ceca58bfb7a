import Mathlib.Data.List.Infix
import Mathlib.Tactic.SplitIfs
import Tabular.Text.Width
/-!
# Fitting a text into a column

A text that is too wide is cut by the widths of its characters, but it is the width of the whole
that has to fit (`Measure.truncate_fits_iff`). The two differ where characters are wider together
than on their own, and for control characters, which have no width on their own. What is kept of a
text is the longest beginning whose characters leave a column for the ellipsis
(`Measure.exists_take_append`). The cut text fits exactly when this beginning, measured as a text,
leaves that column too.

All that is used of the measure of texts is that spaces at the ends and the ellipsis take one column
each (`Measure.IsSpaced`). Other sequences of characters may be as wide as they like.
-/

namespace Tabular.Text

namespace Measure

/-- What the characters of a list add up to. -/
def columns (m : Measure) : List Char → Nat
  | [] => 0
  | c :: cs => (m.char? c).getD 0 + m.columns cs

/-- Under the measure a space at either end of a text takes one column, and so does an ellipsis
behind it. -/
structure IsSpaced (m : Measure) : Prop where
  text_space_cons (cs : List Char) : m.text (' ' :: cs) = m.text cs + 1
  text_concat_space (cs : List Char) : m.text (cs ++ [' ']) = m.text cs + 1
  text_concat_ellipsis (cs : List Char) : m.text (cs ++ ['…']) = m.text cs + 1

variable {m : Measure} {s : String} {w : Nat} {rightAlign : Bool}

theorem columns_cons (c : Char) (cs : List Char) :
    m.columns (c :: cs) = (m.char? c).getD 0 + m.columns cs := rfl

/-- **The longest beginning within a limit** is kept: its characters stay within the limit, and with
the next one they do not. -/
theorem exists_take_append (m : Measure) (limit : Nat) (cs : List Char) :
    ∃ rest, m.take limit cs ++ rest = cs ∧ m.columns (m.take limit cs) ≤ limit ∧
      ∀ c ∈ rest.head?, limit < m.columns (m.take limit cs ++ [c]) := by
  induction cs generalizing limit with
  | nil => exact ⟨[], rfl, Nat.zero_le _, nofun⟩
  | cons c cs ih =>
    rw [take]
    split
    case isTrue hle =>
      obtain ⟨rest, hrest, hlimit, hnext⟩ := ih (limit - (m.char? c).getD 0)
      refine ⟨rest, by rw [List.cons_append, hrest], ?_, fun d hd => ?_⟩
      · rw [columns_cons]
        omega
      · have := hnext d hd
        rw [List.cons_append, columns_cons]
        omega
    case isFalse hlt =>
      refine ⟨c :: cs, rfl, Nat.zero_le _, ?_⟩
      rintro d ⟨⟩
      rw [List.nil_append, columns_cons]
      omega

/-! ## Cutting -/

theorem truncate_of_le (h : m.width s ≤ w) : m.truncate s w = s := if_pos h

theorem truncate_of_lt (h : w < m.width s) :
    m.truncate s w =
      String.ofList (m.take (w - 1) s.toList ++ if w = 0 then [] else ['…']) := by
  rw [truncate, if_neg (Nat.not_le.mpr h)]
  split_ifs <;> simp

/-- **A cut text fits** when what is kept leaves a column for the ellipsis. -/
theorem width_truncate_le_iff (hm : m.IsSpaced) (h : w < m.width s) :
    m.width (m.truncate s w) ≤ w ↔ m.text (m.take (w - 1) s.toList) ≤ w - 1 := by
  rw [truncate_of_lt h, width, String.toList_ofList]
  split
  case isTrue hzero => rw [List.append_nil, hzero]
  case isFalse hne =>
    rw [hm.text_concat_ellipsis]
    omega

/-- Nothing but the ellipsis gets into a text that is cut. -/
theorem mem_of_mem_truncate {c : Char} (hc : c ≠ '…') (h : c ∈ (m.truncate s w).toList) :
    c ∈ s.toList := by
  by_cases hle : m.width s ≤ w
  · rwa [truncate_of_le hle] at h
  · obtain ⟨rest, hrest, -, -⟩ := m.exists_take_append (w - 1) s.toList
    rw [truncate_of_lt (Nat.not_le.mp hle), String.toList_ofList, List.mem_append] at h
    rw [← hrest]
    refine List.mem_append_left _ (h.resolve_right fun hmem => hc ?_)
    split at hmem
    · cases hmem
    · exact List.mem_singleton.mp hmem

/-! ## Filling up -/

/-- Nothing but spaces gets into a text that is filled up. -/
theorem filter_pad {p : Char → Bool} (hp : p ' ' = false) :
    (m.pad s w rightAlign).toList.filter p = s.toList.filter p := by
  have hfill : (spaces (w - m.width s)).toList.filter p = [] := by
    rw [spaces, String.toList_ofList, List.filter_replicate, hp, if_neg Bool.false_ne_true]
  unfold pad
  cases rightAlign with
  | true => rw [if_pos rfl, String.toList_append, List.filter_append, hfill, List.nil_append]
  | false =>
    rw [if_neg Bool.false_ne_true, String.toList_append, List.filter_append, hfill, List.append_nil]

theorem text_replicate_append (hm : m.IsSpaced) (n : Nat) (cs : List Char) :
    m.text (List.replicate n ' ' ++ cs) = m.text cs + n := by
  induction n with
  | zero => rfl
  | succ n ih =>
    rw [List.replicate_succ, List.cons_append, hm.text_space_cons, ih]
    rfl

theorem text_append_replicate (hm : m.IsSpaced) (n : Nat) (cs : List Char) :
    m.text (cs ++ List.replicate n ' ') = m.text cs + n := by
  induction n with
  | zero => simp
  | succ n ih =>
    rw [List.replicate_succ', ← List.append_assoc, hm.text_concat_space, ih]
    rfl

/-- A text is filled up to a width, and not cut. -/
theorem width_pad (hm : m.IsSpaced) : m.width (m.pad s w rightAlign) = max w (m.width s) := by
  have hfill : m.width s + (w - m.width s) = max w (m.width s) := by omega
  rw [← hfill]
  unfold pad width spaces
  cases rightAlign with
  | true =>
    rw [if_pos rfl, String.toList_append, String.toList_ofList]
    exact text_replicate_append hm _ _
  | false =>
    rw [if_neg Bool.false_ne_true, String.toList_append, String.toList_ofList]
    exact text_append_replicate hm _ _

/-- A text of which no beginning is wider than its characters is cut to fit. -/
theorem width_truncate_le (hm : m.IsSpaced)
    (h : ∀ front, front <+: s.toList → m.text front ≤ m.columns front) :
    m.width (m.truncate s w) ≤ w := by
  by_cases hle : m.width s ≤ w
  · rwa [truncate_of_le hle]
  · obtain ⟨rest, hrest, hlimit, -⟩ := m.exists_take_append (w - 1) s.toList
    rw [width_truncate_le_iff hm (Nat.not_le.mp hle)]
    exact (h _ ⟨rest, hrest⟩).trans hlimit

end Measure

/-! ## The terminal -/

/-- A character that is no line feed takes a column of its own behind any other. -/
theorem widthList_concat {d : Char} (hd : d ≠ '\n') (cs : List Char) :
    widthList (cs ++ [d]) = widthList cs + (charWidth? d).getD 1 := by
  fun_induction widthList cs with
  | case1 => simp [widthList]
  | case2 rest ih =>
    rw [List.cons_append, List.cons_append, widthList, ih, Nat.add_assoc]
  | case3 c rest hpair ih =>
    rw [List.cons_append, widthList, ih, Nat.add_assoc]
    intro more hc hmore
    cases rest with
    | nil => exact hd (List.cons.inj hmore).1
    | cons e rest => exact hpair rest hc (by rw [(List.cons.inj hmore).1])

theorem isSpaced_terminal : terminal.IsSpaced where
  text_space_cons cs := Nat.add_comm 1 (widthList cs)
  text_concat_space cs := widthList_concat (by decide) cs
  text_concat_ellipsis cs := by
    have hellipsis : (charWidth? '…').getD 1 = 1 := by decide +kernel
    have hcut := widthList_concat (by decide : '…' ≠ '\n') cs
    rwa [hellipsis] at hcut

/-! ## Cells -/

namespace Measure

/-- **A text is cut to fit unless what is kept is wider than its characters.** A text that fits is
left as it is. Another one is cut behind the longest beginning whose characters leave a column for
the ellipsis, which then follows unless the width is zero. The result fits exactly when this
beginning, measured as a text, leaves that column too, and then and only then a cell that is filled
up behind it is as wide as its column. It always fits when no beginning of the text is wider than
its characters. -/
theorem truncate_fits_iff {m : Measure} (hm : m.IsSpaced) (s : String) (w : Nat)
    (rightAlign : Bool) :
    (m.width s ≤ w → m.truncate s w = s) ∧
    (w < m.width s → ∃ kept rest, kept ++ rest = s.toList ∧
      m.truncate s w = String.ofList (kept ++ if w = 0 then [] else ['…']) ∧
      m.columns kept ≤ w - 1 ∧ (∀ c ∈ rest.head?, w - 1 < m.columns (kept ++ [c])) ∧
      (m.width (m.truncate s w) ≤ w ↔ m.text kept ≤ w - 1)) ∧
    (m.width (m.fit s w rightAlign) = w ↔ m.width (m.truncate s w) ≤ w) ∧
    ((∀ front, front <+: s.toList → m.text front ≤ m.columns front) →
      m.width (m.truncate s w) ≤ w) := by
  obtain ⟨rest, hrest, hlimit, hnext⟩ := m.exists_take_append (w - 1) s.toList
  refine ⟨truncate_of_le, fun hlt => ?cut, ?cell, width_truncate_le hm⟩
  case cut =>
    exact ⟨_, rest, hrest, truncate_of_lt hlt, hlimit, hnext, width_truncate_le_iff hm hlt⟩
  case cell =>
    rw [fit, width_pad hm]
    omega

theorem truncate_fits_iff_tab :
    terminal.IsSpaced ∧ terminal.truncate "tab\there" 6 = "tab\the…" ∧
      terminal.width "tab\the…" = 7 ∧
      (terminal.width (terminal.fit "tab\there" 6 false) = 6 ↔
        terminal.width (terminal.truncate "tab\there" 6) ≤ 6) :=
  ⟨isSpaced_terminal, by decide +kernel, by decide +kernel,
    (truncate_fits_iff isSpaced_terminal "tab\there" 6 false).2.2.1⟩

end Measure

/-- Tabs take no column when the text is cut and one each when it is shown. -/
theorem truncate_tabs_too_wide :
    truncate "\t\t" 1 = "\t\t…" ∧ ¬ width (truncate "\t\t" 1) ≤ 1 := by
  decide +kernel

end Tabular.Text
