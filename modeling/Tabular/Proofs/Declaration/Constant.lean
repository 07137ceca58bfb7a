import Mathlib
import Tabular.Declaration.Fields
import Tabular.Declaration.Grammar
/-!
# The names of constants

The name of a constant is the id of its field in snake case (`snakeName`), with the ASCII letters in
upper case. Nothing is lost in the second step, so two ids share a name exactly when they are the
same in snake case (`constantName_eq_iff`); ids that are in snake case already share none.

A name is an identifier when the id is one up to its dots and dashes, which count as underscores
(`isIdentifier_constantName`). It is no word of the language either, unless it is a lone underscore,
which an id of a single dot, dash or underscore gives (`constantName_mem_keywords_iff`).
-/

namespace Tabular

open Text

/-- A character as it counts in an identifier, where dots and dashes are underscores. -/
def underscored (c : Char) : Char := if c == '-' || c == '.' then '_' else c

/-- Whether an upper-case letter behind a character begins a new word. -/
def endsLower (c : Char) : Bool := !isUppercase c && underscored c != '_'

/-- The id in snake case: underscores for dots and dashes, an underscore between a character that is
not upper case and an upper-case letter behind it, and ASCII letters in lower case. The flag says
whether the character before was such a one. -/
def snakeName : Bool → List Char → List Char
  | _, [] => []
  | afterLower, c :: rest =>
    (if afterLower && isUppercase c then ['_'] else []) ++
      (underscored c).toLower :: snakeName (endsLower c) rest

/-- Whether an id is in snake case already. -/
def isSnake (cs : List Char) : Bool := cs.all fun c => !isUppercase c && underscored c == c

variable {c : Char} {cs ds : List Char} {afterLower : Bool}

/-! ## Characters -/

/-- Among ASCII characters, the letters of upper case are the ones expected. -/
theorem isUppercase_eq_isUpper (h : c.toNat < 0x80) : isUppercase c = c.isUpper := by
  have hruns : ∀ run ∈ uppercaseRuns, run = (0x41, 0x5A, 1) ∨ 0x80 ≤ run.1 := by decide +kernel
  have hbounds : c.isUpper = true ↔ 0x41 ≤ c.toNat ∧ c.toNat ≤ 0x5A := by
    simp [Char.isUpper, UInt32.le_iff_toNat_le]
  rw [Bool.eq_iff_iff, hbounds]
  constructor
  · intro hupper
    obtain ⟨⟨first, last, step⟩, hrun, hc⟩ := List.any_eq_true.mp hupper
    simp only [Bool.and_eq_true, decide_eq_true_eq] at hc
    rcases hruns _ hrun with heq | hle
    · cases heq
      exact hc.1
    · omega
  · intro hc
    exact List.any_eq_true.mpr ⟨(0x41, 0x5A, 1), List.mem_cons_self, by simp [hc, Nat.mod_one]⟩

theorem toNat_lt_of_isAlpha (h : c.isAlpha = true) : c.toNat < 0x80 := by
  simp only [Char.isAlpha, Char.isUpper, Char.isLower, Bool.or_eq_true, Bool.and_eq_true,
    decide_eq_true_eq, ge_iff_le, UInt32.le_iff_toNat_le] at h
  change (65 ≤ c.toNat ∧ c.toNat ≤ 90) ∨ 97 ≤ c.toNat ∧ c.toNat ≤ 122 at h
  omega

theorem isUpper_eq_false_of_isUppercase (h : isUppercase c = false) : c.isUpper = false := by
  by_contra hupper
  rw [Bool.not_eq_false] at hupper
  rw [isUppercase_eq_isUpper (toNat_lt_of_isAlpha (by simp [Char.isAlpha, hupper])), hupper] at h
  cases h

/-- An upper-case letter stays as it is in upper case. -/
theorem toUpper_of_isUppercase (h : isUppercase c = true) : c.toUpper = c := by
  refine Char.toUpper_eq_of_not_isLower fun hlower => ?_
  rw [isUppercase_eq_isUpper (toNat_lt_of_isAlpha (by simp [Char.isAlpha, hlower]))] at h
  exact Char.not_isLower_of_isUpper h hlower

theorem underscored_eq_underscore_iff : underscored c = '_' ↔ c = '_' ∨ c = '-' ∨ c = '.' := by
  unfold underscored
  split <;> simp_all

theorem underscored_eq_self (h : ¬ (c = '_' ∨ c = '-' ∨ c = '.')) :
    underscored c = c ∧ (underscored c != '_') = true := by
  simp_all [underscored]

/-- A dot, a dash or an underscore is no upper-case letter. -/
theorem isUppercase_eq_false_of_mark (h : c = '_' ∨ c = '-' ∨ c = '.') :
    isUppercase c = false := by
  rcases h with rfl | rfl | rfl <;> exact isUppercase_eq_isUpper (by decide)

theorem isIdentifierStart_of_isAlpha (h : c.isAlpha = true) : isIdentifierStart c = true := by
  simp [isIdentifierStart, toNat_lt_of_isAlpha h, h]

theorem isIdentifierContinue_of_isAlpha (h : c.isAlpha = true) : isIdentifierContinue c = true := by
  simp [isIdentifierContinue, isIdentifierStart_of_isAlpha h]

/-- Upper case matters to no property that all ASCII letters have. -/
theorem apply_toUpper {p : Char → Bool} (h : ∀ c, c.isAlpha = true → p c = true) (c : Char) :
    p c.toUpper = p c := by
  by_cases hlower : c.isLower = true
  · have halpha : c.isAlpha = true := by simp [Char.isAlpha, hlower]
    rw [h c halpha, h c.toUpper (by rwa [Char.isAlpha_toUpper_eq_isAlpha])]
  · rw [Char.toUpper_eq_of_not_isLower hlower]

theorem eq_underscore_of_toUpper (h : c.toUpper = '_') : c = '_' := by
  have halpha : c.isAlpha = false := by
    rw [← Char.isAlpha_toUpper_eq_isAlpha, h]
    rfl
  rw [← h, Char.toUpper_eq_of_not_isLower fun hlower => by simp [Char.isAlpha, hlower] at halpha]

/-! ## Snake case -/

/-- Each character of an id gives itself in upper case, with an underscore for a dot or a dash, and
perhaps an underscore before it. -/
theorem constantName_cons (afterLower : Bool) (c : Char) (rest : List Char) :
    constantName afterLower (c :: rest) =
      (if afterLower && isUppercase c then ['_'] else []) ++
        (underscored c).toUpper :: constantName (endsLower c) rest := by
  rw [constantName]
  by_cases hmark : c = '_' ∨ c = '-' ∨ c = '.'
  · have hline : underscored c = '_' := underscored_eq_underscore_iff.mpr hmark
    simp only [isUppercase_eq_false_of_mark hmark, endsLower, hline]
    rw [if_neg Bool.false_ne_true, if_pos (by simpa [or_assoc] using hmark)]
    cases afterLower <;> rfl
  · obtain ⟨hsame, hother⟩ := underscored_eq_self hmark
    cases hupper : isUppercase c with
    | true => cases afterLower <;> simp [endsLower, hupper, hsame, toUpper_of_isUppercase hupper]
    | false =>
      rw [if_neg Bool.false_ne_true, if_neg (by simpa [or_assoc] using hmark), endsLower, hupper,
        hother, hsame]
      simp

theorem eq_nil_of_constantName (h : constantName afterLower cs = []) : cs = [] := by
  cases cs with
  | nil => rfl
  | cons c rest => simp [constantName_cons] at h

/-- A name is in snake case before it is in upper case. -/
theorem constantName_eq_map (afterLower : Bool) (cs : List Char) :
    constantName afterLower cs = (snakeName afterLower cs).map Char.toUpper := by
  induction cs generalizing afterLower with
  | nil => rfl
  | cons c rest ih =>
    rw [constantName_cons, snakeName, List.map_append, List.map_cons, ← ih,
      Char.toUpper_toLower_eq_toUpper]
    split <;> rfl

/-- Snake case comes back from the name. -/
theorem snakeName_eq_map (afterLower : Bool) (cs : List Char) :
    snakeName afterLower cs = (constantName afterLower cs).map Char.toLower := by
  induction cs generalizing afterLower with
  | nil => rfl
  | cons c rest ih =>
    rw [constantName_cons, snakeName, List.map_append, List.map_cons, ← ih,
      Char.toLower_toUpper_eq_toLower]
    split <;> rfl

/-- **Two ids share a name exactly when they are the same in snake case.** -/
theorem constantName_eq_iff :
    constantName false cs = constantName false ds ↔ snakeName false cs = snakeName false ds := by
  constructor <;> intro h
  · rw [snakeName_eq_map, snakeName_eq_map, h]
  · rw [constantName_eq_map, constantName_eq_map, h]

theorem snakeName_of_isSnake (h : isSnake cs = true) : snakeName afterLower cs = cs := by
  induction cs generalizing afterLower with
  | nil => rfl
  | cons c rest ih =>
    obtain ⟨⟨hupper, hmark⟩, hrest⟩ :
        (isUppercase c = false ∧ underscored c = c) ∧ isSnake rest = true := by
      simpa [isSnake] using h
    have hlower : c.toLower = c :=
      Char.toLower_eq_of_not_isUpper (by simp [isUpper_eq_false_of_isUppercase hupper])
    rw [snakeName, hupper, hmark, hlower, ih hrest]
    simp

/-! ## Identifiers -/

theorem all_isIdentifierContinue_constantName :
    (constantName afterLower cs).all isIdentifierContinue =
      (cs.map underscored).all isIdentifierContinue := by
  induction cs generalizing afterLower with
  | nil => rfl
  | cons c rest ih =>
    rw [constantName_cons, List.all_append, List.all_cons, ih, List.map_cons, List.all_cons,
      apply_toUpper fun _ => isIdentifierContinue_of_isAlpha]
    split <;> simp [isIdentifierContinue, isIdentifierStart]

/-- **A name is an identifier when the id is one up to dots and dashes.** -/
theorem isIdentifier_constantName (cs : List Char) :
    isIdentifier (constantName false cs) = isIdentifier (cs.map underscored) := by
  cases cs with
  | nil => rfl
  | cons c rest =>
    rw [constantName_cons, Bool.false_and, if_neg Bool.false_ne_true, List.nil_append,
      List.map_cons, isIdentifier, isIdentifier, all_isIdentifierContinue_constantName,
      apply_toUpper fun _ => isIdentifierStart_of_isAlpha]

/-- A name that is a lone underscore comes from a single mark. -/
theorem exists_mark_of_constantName (h : constantName false cs = ['_']) :
    ∃ c, cs = [c] ∧ underscored c = '_' := by
  cases cs with
  | nil => cases h
  | cons c rest =>
    rw [constantName_cons, Bool.false_and, if_neg Bool.false_ne_true, List.nil_append,
      List.cons.injEq] at h
    exact ⟨c, by rw [eq_nil_of_constantName h.2], eq_underscore_of_toUpper h.1⟩

/-- **The only word of the language that is the name of a constant is the underscore.** -/
theorem constantName_mem_keywords_iff {id : String} :
    String.ofList (constantName false id.toList) ∈ Declaration.keywords ↔ id ∈ ["_", "-", "."] := by
  constructor
  · intro h
    -- a name has no ASCII letter of lower case, and all other words have one
    have hwords : ∀ w ∈ Declaration.keywords, w = "_" ∨ w.toList.any Char.isLower = true := by
      decide +kernel
    rcases hwords _ h with heq | hlower
    · obtain ⟨c, hid, hc⟩ := exists_mark_of_constantName
        (show constantName false id.toList = ['_'] by simpa using congrArg String.toList heq)
      rw [← @String.ofList_toList id, hid]
      rcases underscored_eq_underscore_iff.mp hc with rfl | rfl | rfl <;> decide
    · rw [String.toList_ofList, constantName_eq_map, List.any_map] at hlower
      obtain ⟨c, -, hc⟩ := List.any_eq_true.mp hlower
      rw [Function.comp_apply, Char.isLower_toUpper_eq_false] at hc
      cases hc
  · intro h
    have hmarks : ∀ id ∈ ["_", "-", "."],
        String.ofList (constantName false id.toList) ∈ Declaration.keywords := by
      decide +kernel
    exact hmarks id h

end Tabular
