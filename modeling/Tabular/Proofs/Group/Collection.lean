import Mathlib.Data.List.Forall2
import Tabular.Proofs.Group.Label
/-!
# Groups of collections

The label of a collection has its items without the white space around them, with a backslash
before every backslash and comma, and with a comma and a space between them (`of_collection`). An
item may be blank, so a label may begin or end with a separator, and two may follow each other. Still
the label tells the items apart: a comma of an item always has a backslash before it that is not
escaped itself, and a separator never has (`eq_of_join_escapeItem_eq`). So collections are grouped
by their items (`collection_label_eq_iff`).
-/

namespace Tabular.GroupValue

/-- Puts a backslash before every occurrence of one character. -/
def escapeEach (mark : Char) (cs : List Char) : List Char :=
  cs.flatMap fun c => if c = mark then ['\\', c] else [c]

/-- An item is escaped as if the backslashes were escaped first, and the commas after them. -/
theorem escapeItem_eq_escapeEach (cs : List Char) :
    escapeItem cs = escapeEach ',' (escapeEach '\\' cs) := by
  induction cs with
  | nil => rfl
  | cons c cs ih =>
    have hsplit : escapeEach ',' (escapeEach '\\' (c :: cs)) =
        escapeEach ',' (if c = '\\' then ['\\', c] else [c]) ++
          escapeEach ',' (escapeEach '\\' cs) := by
      simp only [escapeEach, List.flatMap_cons, List.flatMap_append]
    rw [hsplit, ← ih, escapeItem]
    by_cases hbackslash : c = '\\'
    · simp [hbackslash, escapeEach]
    · by_cases hcomma : c = ',' <;> simp [hbackslash, hcomma, escapeEach]

/-- The label of a collection that is not empty. -/
theorem of_collection {items : List String} (hne : items ≠ []) :
    of (.collection items) .collection = .text (Text.join ", "
      ((items.map Text.trim).map fun s => String.ofList (escapeItem s.toList))) := by
  have hblank : ¬ (Value.collection items).isBlank = true := by
    rwa [Value.isBlank, List.isEmpty_iff]
  rw [of, Reading.of, if_neg hblank]
  rfl

/-- **Labels of collections do not collide.** A label has the items, trimmed, with the backslashes
and then the commas escaped, and commas with a space between them. Collections that are not empty
have one label, and are in one group, exactly when they have as many items, which are in turn equal
once they are trimmed. -/
theorem collection_label_eq_iff {items items' : List String} (hne : items ≠ [])
    (hne' : items' ≠ []) :
    (of (.collection items) .collection).label = Text.join ", " (items.map fun s =>
        String.ofList (escapeEach ',' (escapeEach '\\' (Text.trim s).toList))) ∧
      ((of (.collection items) .collection).label = (of (.collection items') .collection).label ↔
        List.Forall₂ (fun s s' => Text.trim s = Text.trim s') items items') ∧
      (of (.collection items) .collection = of (.collection items') .collection ↔
        List.Forall₂ (fun s s' => Text.trim s = Text.trim s') items items') := by
  have hitems : items.map Text.trim = items'.map Text.trim ↔
      List.Forall₂ (fun s s' => Text.trim s = Text.trim s') items items' := by
    rw [← List.forall₂_eq_eq_eq, List.forall₂_map_left_iff, List.forall₂_map_right_iff]
  have hlabel : (of (.collection items) .collection).label =
      (of (.collection items') .collection).label ↔ items.map Text.trim = items'.map Text.trim := by
    rw [of_collection hne, of_collection hne']
    have htrimmed {texts : List String} (h : texts ≠ []) : texts.map Text.trim ≠ [] :=
      fun hnil => h (List.map_eq_nil_iff.mp hnil)
    exact ⟨eq_of_join_escapeItem_eq (htrimmed hne) (htrimmed hne'), fun h => by rw [h]⟩
  refine ⟨?_, hlabel.trans hitems, ?_⟩
  · rw [of_collection hne, label, List.map_map]
    refine congrArg _ (List.map_congr_left fun s _ => ?_)
    exact congrArg String.ofList (escapeItem_eq_escapeEach _)
  · rw [← hitems, ← hlabel, of_collection hne, of_collection hne', text.injEq, label, label]

/-- Items with a comma and a backslash, and white space around one or the other. -/
theorem collection_label_eq_iff_padded :
    ["a,", " \\ "] ≠ [] ∧ [" a, ", "\\"] ≠ [] ∧
      (of (.collection ["a,", " \\ "]) .collection).label =
        (of (.collection [" a, ", "\\"]) .collection).label :=
  ⟨by simp, by simp, (collection_label_eq_iff (by simp) (by simp)).2.1.mpr
    (.cons (by decide +kernel) (.cons (by decide +kernel) .nil))⟩

end Tabular.GroupValue
