import Tabular.Filter.Evaluate
import Tabular.Proofs.Text.Lowercase
/-!
# Literal matches

Text filters compare the lower case of the operand with that of the text. A text that is the operand
always equals it, and one that does not contain the operand in lower case is just what
`doesNotContain` admits. But where the operand is a part of the text, its lower case is a part of
the lower case of the text only when its capital sigmas end words there just where they do in the
operand alone (`SigmasAgree`). The theorem is `admits_literal`.
-/

namespace Tabular

namespace Text

theorem hasInfix_iff {needle cs : List Char} : hasInfix needle cs = true ↔ needle <:+: cs := by
  induction cs with
  | nil => rw [hasInfix, List.isEmpty_iff, List.infix_nil]
  | cons c rest ih =>
    rw [hasInfix, Bool.or_eq_true, List.isPrefixOf_iff_prefix, ih, List.infix_cons_iff]

end Text

namespace Filter

open Text

/-- A text filter with an operand admits what its operator says of the lower case. -/
theorem admits_string {f : Filter} (hvalue : isBlank f.value = false)
    (hop : f.operator ∈ [.contains, .doesNotContain, .equals, .startsWith, .endsWith]) (v : Value) :
    f.admits .string v = f.admitsText v := by
  have hempty : f.operator ≠ .isEmpty := by
    rintro hempty
    rw [hempty] at hop
    revert hop
    decide
  simp [admits, isActive_of_value hvalue, hempty, Domain.comparisonClass]

/-- **Literal matches.** A text that is the operand always equals it, and `doesNotContain` is the
opposite of `contains`. A text that starts with the operand is admitted as such if and only if the
capital sigmas of the operand agree there, likewise one that ends with it, and a text that contains
the operand is admitted where they agree. They agree when there are none, and where no letter stands
next to the operand. -/
theorem admits_literal {f : Filter} (hvalue : isBlank f.value = false) (v : Value) :
    (v.shown = f.value → { f with operator := .equals }.admits .string v = true) ∧
    { f with operator := .doesNotContain }.admits .string v =
      !{ f with operator := .contains }.admits .string v ∧
    (∀ b, v.shown = f.value ++ b → ({ f with operator := .startsWith }.admits .string v = true ↔
      SigmasAgree [] f.value.toList b.toList)) ∧
    (∀ a, v.shown = a ++ f.value → ({ f with operator := .endsWith }.admits .string v = true ↔
      SigmasAgree a.toList f.value.toList [])) ∧
    (∀ a b, v.shown = a ++ f.value ++ b → SigmasAgree a.toList f.value.toList b.toList →
      { f with operator := .contains }.admits .string v = true) ∧
    ∀ a b, 'Σ' ∉ f.value.toList ∨ beginsCased a.reverse = false ∧ beginsCased b = false →
      SigmasAgree a f.value.toList b := by
  have hadmits (op : Operator)
      (hop : op ∈ [.contains, .doesNotContain, .equals, .startsWith, .endsWith]) :
      { f with operator := op }.admits .string v = { f with operator := op }.admitsText v :=
    admits_string (f := { f with operator := op }) hvalue hop v
  rw [hadmits .equals (by decide), hadmits .doesNotContain (by decide),
    hadmits .contains (by decide), hadmits .startsWith (by decide),
    hadmits .endsWith (by decide)]
  dsimp only [admitsText]
  refine ⟨fun h => ?_, rfl, fun b h => ?_, fun a h => ?_, fun a b h hsigmas => ?_, fun a b h => ?_⟩
  · rw [h]
    exact beq_self_eq_true _
  · rw [List.isPrefixOf_iff_prefix, h, String.toList_append, lowerList_isPrefix_iff]
  · rw [List.isSuffixOf_iff_suffix, h, String.toList_append, lowerList_isSuffix_iff]
  · rw [hasInfix_iff, h, String.toList_append, String.toList_append]
    exact lowerList_isInfix hsigmas
  · rcases h with h | ⟨ha, hb⟩
    · exact sigmasAgree_of_not_mem h
    · exact sigmasAgree_of_beginsCased ha hb

/-- A word of a text, which ends in a sigma there as well. -/
theorem admits_literal_word :
    isBlank "ΟΔΟΣ" = false ∧
    (⟨.contains, "ΟΔΟΣ", none⟩ : Filter).admits .string (.text "Η ΟΔΟΣ ΜΟΥ") = true := by
  have hvalue : isBlank "ΟΔΟΣ" = false := by decide +kernel
  obtain ⟨-, -, -, -, hcontains, hagree⟩ :=
    admits_literal (f := ⟨.contains, "ΟΔΟΣ", none⟩) hvalue (.text "Η ΟΔΟΣ ΜΟΥ")
  have hsigmas := hagree "Η ".toList " ΜΟΥ".toList (.inr ⟨by decide +kernel, by decide +kernel⟩)
  exact ⟨hvalue, hcontains "Η " " ΜΟΥ" rfl hsigmas⟩

/-- A sigma that ends the operand but no word of the text, or a word of the text but none of the
operand, hides a text that contains the operand. -/
theorem literal_sigma_hidden :
    isBlank "ΑΣ" = false ∧ hasInfix "ΑΣ".toList "ΑΣΑ".toList = true ∧
    (⟨.contains, "ΑΣ", none⟩ : Filter).admits .string (.text "ΑΣΑ") = false ∧
    (⟨.startsWith, "ΑΣ", none⟩ : Filter).admits .string (.text "ΑΣΑ") = false ∧
    (⟨.endsWith, "Σ", none⟩ : Filter).admits .string (.text "ΟΔΟΣ") = false := by
  decide +kernel

end Filter

end Tabular
