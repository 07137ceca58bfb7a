import Mathlib.Data.List.Basic
import Tabular.Csv
/-!
# Reading comma-separated values

A reader of rows goes through a text character by character and knows whether it stands within
quotes (`Csv.rowsFrom`). A field in quotes is read up to the quote that is not doubled, and another
field up to the next comma or line feed. So the rows of a text are the rows it was written from
(`Csv.rowsOf_text`), if each of them has a field; a row without fields is written as one that has an
empty field.
-/

namespace Tabular.Csv

/-- Where a reader of rows stands. -/
inductive Place where
  | outside
  | inQuotes
  /-- Behind a quote in quotes, which ends them unless another quote follows. -/
  | behindQuote

/-- The rows of a text, each of which ends with a line feed, given the part of a field and the
fields before it that are read already. -/
def rowsFrom (place : Place) (part : List Char) (fields : List String) :
    List Char → List (List String)
  | [] => []
  | c :: rest =>
    match place, c with
    | .inQuotes, '"' => rowsFrom .behindQuote part fields rest
    | .inQuotes, c => rowsFrom .inQuotes (part ++ [c]) fields rest
    | .behindQuote, '"' => rowsFrom .inQuotes (part ++ ['"']) fields rest
    | _, '"' => rowsFrom .inQuotes part fields rest
    | _, ',' => rowsFrom .outside [] (fields ++ [String.ofList part]) rest
    | _, '\n' => (fields ++ [String.ofList part]) :: rowsFrom .outside [] [] rest
    | _, c => rowsFrom .outside (part ++ [c]) fields rest

/-- The rows of a text. -/
def rowsOf (s : String) : List (List String) := rowsFrom .outside [] [] s.toList

/-- The field of a text in a row and a column, both counted from zero. -/
def cell? (s : String) (row column : Nat) : Option String := do (← (rowsOf s)[row]?)[column]?

variable {part cs rest : List Char} {fields : List String} {c : Char}

/-- Characters that are not special belong to the field. -/
theorem rowsFrom_outside (h : ∀ c ∈ cs, isSpecial c = false) :
    rowsFrom .outside part fields (cs ++ rest) = rowsFrom .outside (part ++ cs) fields rest := by
  induction cs generalizing part with
  | nil => simp
  | cons c cs ih =>
    obtain ⟨hc, hcs⟩ := List.forall_mem_cons.mp h
    have hne : c ≠ '"' ∧ c ≠ ',' ∧ c ≠ '\n' := by
      refine ⟨?_, ?_, ?_⟩ <;> rintro rfl <;> cases hc
    rw [List.cons_append, rowsFrom, ih hcs, List.append_assoc, List.singleton_append]
    all_goals simp_all

/-- In quotes, every character but a quote belongs to the field, and two quotes are one. -/
theorem rowsFrom_inQuotes :
    rowsFrom .inQuotes part fields
      (cs.flatMap (fun c => if c == '"' then ['"', '"'] else [c]) ++ rest) =
        rowsFrom .inQuotes (part ++ cs) fields rest := by
  induction cs generalizing part with
  | nil => simp
  | cons c cs ih =>
    by_cases hc : c = '"'
    · subst hc
      simpa [rowsFrom] using @ih (part ++ ['"'])
    · simpa [rowsFrom, hc] using @ih (part ++ [c])

/-- Behind a quote, any other character ends the quotes. -/
theorem rowsFrom_behindQuote (hc : c ≠ '"') :
    rowsFrom .behindQuote part fields (c :: rest) = rowsFrom .outside part fields (c :: rest) := by
  unfold rowsFrom
  split <;> simp_all

/-- A text in quotes is read as what stands within them. -/
theorem rowsFrom_quote (s : String) (hc : c ≠ '"') :
    rowsFrom .outside [] fields ((quote s).toList ++ c :: rest) =
      rowsFrom .outside s.toList fields (c :: rest) := by
  rw [← rowsFrom_behindQuote hc]
  simp only [quote, String.toList_ofList, List.cons_append, List.append_assoc, List.nil_append]
  rw [rowsFrom, rowsFrom_inQuotes]
  · rfl
  all_goals simp

/-- A field is read as the text it was written from, up to what ends it. -/
theorem rowsFrom_field (s : String) (hc : c ≠ '"') :
    rowsFrom .outside [] fields ((field s).toList ++ c :: rest) =
      rowsFrom .outside s.toList fields (c :: rest) := by
  unfold field
  split
  · exact rowsFrom_quote s hc
  · next h =>
    have hplain : ∀ c ∈ s.toList, isSpecial c = false := by simpa using h
    rw [rowsFrom_outside hplain, List.nil_append]

theorem rowsFrom_join (first : String) (more : List String) :
    rowsFrom .outside [] fields
      ((Text.join "," ((first :: more).map field)).toList ++ '\n' :: rest) =
        (fields ++ first :: more) :: rowsFrom .outside [] [] rest := by
  induction more generalizing first fields with
  | nil =>
    rw [List.map_singleton, Text.join, rowsFrom_field first (by decide), rowsFrom,
      String.ofList_toList]
    all_goals simp
  | cons second more ih =>
    have hjoin : (Text.join "," ((first :: second :: more).map field)).toList ++ '\n' :: rest =
        (field first).toList ++ ',' ::
          ((Text.join "," ((second :: more).map field)).toList ++ '\n' :: rest) := by
      simp [Text.join]
    rw [hjoin, rowsFrom_field first (by decide), rowsFrom, ih, String.ofList_toList]
    all_goals simp

/-- A row is read as the fields it was written from. -/
theorem rowsFrom_row {fields : List String} (h : fields ≠ []) :
    rowsFrom .outside [] [] ((row fields).toList ++ '\n' :: rest) =
      fields :: rowsFrom .outside [] [] rest := by
  unfold row
  split
  · exact absurd rfl h
  · rw [rowsFrom_quote "" (by decide)]
    rfl
  · obtain ⟨first, more, rfl⟩ := List.exists_cons_of_ne_nil h
    exact rowsFrom_join first more

/-- **Rows are read as they were written**, if each has a field. -/
theorem rowsOf_text {rows : List (List String)} (h : ∀ fields ∈ rows, fields ≠ []) :
    rowsOf (text rows) = rows := by
  unfold rowsOf text
  induction rows with
  | nil => rfl
  | cons fields rows ih =>
    obtain ⟨hfields, hrows⟩ := List.forall_mem_cons.mp h
    have htext : (String.join ((fields :: rows).map fun fields => row fields ++ "\n")).toList =
        (row fields).toList ++ '\n' ::
          (String.join (rows.map fun fields => row fields ++ "\n")).toList := by
      simp [String.join_cons]
    rw [htext, rowsFrom_row hfields, ih hrows]

example : rowsOf (text [["a,b", ""], ["\"", "\n"], [""]]) = [["a,b", ""], ["\"", "\n"], [""]] := by
  decide

end Tabular.Csv
