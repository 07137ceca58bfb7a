import Mathlib.Data.List.Basic
import Tabular.Text.Lowercase
/-!
# Lower case of a part of a text

`lowerList` is not a map on characters: the form of a capital sigma depends on what stands around
it. `lowerWithin` lower-cases a part of a text given what is before and after it, and the lower case
of a text is put together from its parts (`lowerList_append`). What stands around a part never
changes how long it gets (`length_lowerWithin`), and changes its characters only at a capital sigma
that ends a word in one place and not in the other (`lowerWithin_eq_iff`). So the lower case of a
text has that of a part in its place just when the sigmas of the part agree there (`SigmasAgree`,
`lowerList_isPrefix_iff`, `lowerList_isSuffix_iff`, `lowerList_isInfix`).

No character but the comma has a comma in its lower case, so a list of texts separated by commas can
be lower-cased before it is split or after (`comma_mem_lowerList_iff`).
-/

namespace Tabular.Text

/-- Whether a letter between two texts, the first of them reversed, ends a word. -/
def endsWord (before after : List Char) : Bool := beginsCased before && !beginsCased after

/-- The lower case of a character between two texts, the first of them reversed. -/
def lowerAt (before : List Char) (c : Char) (after : List Char) : List Char :=
  if c == 'Σ' then if endsWord before after then ['ς'] else ['σ']
  else if c == 'İ' then ['i', '\u0307']
  else [lowerChar c]

/-- The lower case of a part of a text, given what comes before it, reversed, and what comes after
it. -/
def lowerWithin (before : List Char) : List Char → List Char → List Char
  | [], _ => []
  | c :: rest, after => lowerAt before c (rest ++ after) ++ lowerWithin (c :: before) rest after

theorem lowerFrom_eq (before cs : List Char) : lowerFrom before cs = lowerWithin before cs [] := by
  induction cs generalizing before with
  | nil => rfl
  | cons c rest ih =>
    rw [lowerWithin, ← ih, List.append_nil]
    rfl

theorem lowerList_eq (cs : List Char) : lowerList cs = lowerWithin [] cs [] := lowerFrom_eq [] cs

theorem lowerWithin_append (before cs ds after : List Char) :
    lowerWithin before (cs ++ ds) after =
      lowerWithin before cs (ds ++ after) ++ lowerWithin (cs.reverse ++ before) ds after := by
  induction cs generalizing before with
  | nil => rfl
  | cons c cs ih =>
    rw [List.cons_append, lowerWithin, lowerWithin, ih, List.append_assoc, List.append_assoc,
      List.reverse_cons, List.append_assoc, List.singleton_append]

/-- **The lower case of a text in three parts.** -/
theorem lowerList_append (a n b : List Char) :
    lowerList (a ++ n ++ b) = lowerWithin [] a (n ++ b) ++
      lowerWithin a.reverse n b ++ lowerWithin (n.reverse ++ a.reverse) b [] := by
  rw [lowerList_eq, List.append_assoc, lowerWithin_append, lowerWithin_append, List.append_nil,
    List.append_nil, List.append_nil, List.append_assoc]

/-! ## The same part in two places -/

variable {before after before' after' : List Char}

theorem length_lowerAt (c : Char) :
    (lowerAt before c after).length = (lowerAt before' c after').length := by
  unfold lowerAt
  split_ifs <;> rfl

theorem length_lowerWithin (cs : List Char) :
    (lowerWithin before cs after).length = (lowerWithin before' cs after').length := by
  induction cs generalizing before before' with
  | nil => rfl
  | cons c cs ih =>
    rw [lowerWithin, lowerWithin, List.length_append, List.length_append, ih]
    congr 1
    exact length_lowerAt c

theorem lowerAt_eq_iff (c : Char) :
    lowerAt before c after = lowerAt before' c after' ↔
      (c = 'Σ' → endsWord before after = endsWord before' after') := by
  unfold lowerAt
  by_cases hc : c = 'Σ'
  · subst hc
    cases endsWord before after <;> cases endsWord before' after' <;> decide
  · simp [hc]

/-- A part of a text has the same lower case in two places just when each capital sigma in it ends
a word in both or in none. -/
theorem lowerWithin_eq_iff (cs : List Char) :
    lowerWithin before cs after = lowerWithin before' cs after' ↔
      ∀ p s, cs = p ++ 'Σ' :: s →
        endsWord (p.reverse ++ before) (s ++ after) =
          endsWord (p.reverse ++ before') (s ++ after') := by
  induction cs generalizing before before' with
  | nil => simp [lowerWithin]
  | cons c cs ih =>
    -- the first character is the sigma, or it is part of what is before it
    have hsplit : lowerWithin before (c :: cs) after = lowerWithin before' (c :: cs) after' ↔
        lowerAt before c (cs ++ after) = lowerAt before' c (cs ++ after') ∧
          lowerWithin (c :: before) cs after = lowerWithin (c :: before') cs after' :=
      ⟨fun h => List.append_inj h (length_lowerAt c), fun ⟨hfirst, hrest⟩ => by
        rw [lowerWithin, lowerWithin, hfirst, hrest]⟩
    rw [hsplit, lowerAt_eq_iff, ih]
    constructor
    · rintro ⟨hfirst, hrest⟩ p s heq
      cases p with
      | nil =>
        obtain ⟨rfl, rfl⟩ := List.cons_eq_cons.mp heq
        exact hfirst rfl
      | cons d p =>
        obtain ⟨rfl, rfl⟩ := List.cons_eq_cons.mp heq
        simpa using hrest p s rfl
    · intro h
      refine ⟨?_, fun p s heq => ?_⟩
      · rintro rfl
        exact h [] cs rfl
      · simpa using h (c :: p) s (by rw [heq, List.cons_append])

/-! ## Parts of a text -/

variable {a n b : List Char}

/-- The capital sigmas of `n` end words between `a` and `b` just where they do in `n` alone. -/
def SigmasAgree (a n b : List Char) : Prop :=
  ∀ p s, n = p ++ 'Σ' :: s →
    endsWord (p.reverse ++ a.reverse) (s ++ b) = endsWord p.reverse s

theorem sigmasAgree_iff : SigmasAgree a n b ↔ lowerList n = lowerWithin a.reverse n b := by
  rw [lowerList_eq, eq_comm, lowerWithin_eq_iff, SigmasAgree]
  simp only [List.append_nil]

theorem sigmasAgree_of_not_mem (h : 'Σ' ∉ n) : SigmasAgree a n b := by
  rintro p s rfl
  simp at h

/-- What comes next does not begin a word if nothing behind the passed-over characters does. -/
theorem beginsCased_append (h : beginsCased b = false) (s : List Char) :
    beginsCased (s ++ b) = beginsCased s := by
  unfold beginsCased at h ⊢
  rw [List.dropWhile_append]
  cases s.dropWhile isCaseIgnorable with
  | nil => exact h
  | cons c rest => rfl

/-- Sigmas agree in a part that no letter stands next to, passed-over characters aside. -/
theorem sigmasAgree_of_beginsCased (ha : beginsCased a.reverse = false)
    (hb : beginsCased b = false) : SigmasAgree a n b := by
  intro p s _
  rw [endsWord, endsWord, beginsCased_append ha, beginsCased_append hb]

theorem lowerList_isPrefix_iff :
    lowerList n <+: lowerList (n ++ b) ↔ SigmasAgree [] n b := by
  have hsplit := lowerList_append [] n b
  rw [List.nil_append, lowerWithin, List.nil_append] at hsplit
  rw [sigmasAgree_iff, hsplit]
  constructor
  · rintro ⟨t, ht⟩
    exact (List.append_inj ht (lowerList_eq n ▸ length_lowerWithin n)).1
  · intro h
    rw [← h]
    exact List.prefix_append _ _

theorem lowerList_isSuffix_iff :
    lowerList n <:+ lowerList (a ++ n) ↔ SigmasAgree a n [] := by
  have hsplit := lowerList_append a n []
  rw [List.append_nil, List.append_nil, lowerWithin, List.append_nil] at hsplit
  rw [sigmasAgree_iff, hsplit]
  constructor
  · rintro ⟨t, ht⟩
    exact (List.append_inj' ht (lowerList_eq n ▸ length_lowerWithin n)).2
  · intro h
    rw [← h]
    exact List.suffix_append _ _

theorem lowerList_isInfix (h : SigmasAgree a n b) :
    lowerList n <:+: lowerList (a ++ n ++ b) := by
  rw [lowerList_append, ← sigmasAgree_iff.mp h]
  exact List.infix_append ..

/-! ## Commas -/

/-- Beyond ASCII every letter has its lower case beyond the comma. -/
theorem comma_lt_of_mem_lowercaseRuns :
    ∀ run ∈ lowercaseRuns, 0x80 ≤ run.2.1 → (','.toNat : Int) < run.1 + run.2.2.2 := by
  decide +kernel

theorem eq_toNat_comma_of_ofNat {n : Nat} (h : Char.ofNat n = ',') : n = ','.toNat := by
  by_cases hvalid : n.isValidChar
  · have hchar : Char.ofNat n = Char.ofNatAux n hvalid := dif_pos hvalid
    exact congrArg Char.toNat (hchar.symm.trans h)
  · have hzero : Char.ofNat n = '\x00' := dif_neg hvalid
    rw [hzero] at h
    cases h

/-- Among the ASCII characters only the comma has the comma as its lower case. -/
theorem eq_comma_of_toLower :
    ∀ n < 0x80, (Char.ofNat n).toLower = ',' → Char.ofNat n = ',' := by
  decide +kernel

theorem lowerChar_eq_comma_iff (c : Char) : lowerChar c = ',' ↔ c = ',' := by
  refine ⟨fun h => ?_, by rintro rfl; decide⟩
  rw [lowerChar] at h
  split_ifs at h with hascii
  · rw [← Char.ofNat_toNat c] at h ⊢
    exact eq_comma_of_toLower _ hascii h
  · split at h
    · next first last step shift hfind =>
      have hrun : 0x80 ≤ last → (','.toNat : Int) < first + shift :=
        comma_lt_of_mem_lowercaseRuns _ (List.mem_of_find?_eq_some hfind)
      have hwithin := List.find?_some hfind
      have hcode := eq_toNat_comma_of_ofNat h
      simp only [Bool.and_eq_true, decide_eq_true_eq] at hwithin
      omega
    · exact h

theorem comma_mem_lowerAt_iff {c : Char} : ',' ∈ lowerAt before c after ↔ c = ',' := by
  unfold lowerAt
  split_ifs with hsigma hends hdotted
  · simp_all
  · simp_all
  · simp_all
  · rw [List.mem_singleton, eq_comm, lowerChar_eq_comma_iff]

/-- Lower-casing neither makes nor loses a comma. -/
theorem comma_mem_lowerList_iff {cs : List Char} : ',' ∈ lowerList cs ↔ ',' ∈ cs := by
  suffices ∀ before, ',' ∈ lowerWithin before cs [] ↔ ',' ∈ cs by rw [lowerList_eq, this]
  induction cs with
  | nil => exact fun _ => Iff.rfl
  | cons c cs ih =>
    intro before
    rw [lowerWithin, List.mem_append, comma_mem_lowerAt_iff, ih, List.mem_cons, eq_comm]

theorem lowerList_eq_nil_iff {cs : List Char} : lowerList cs = [] ↔ cs = [] := by
  refine ⟨fun h => ?_, by rintro rfl; rfl⟩
  cases cs with
  | nil => rfl
  | cons c cs =>
    rw [lowerList_eq, lowerWithin, List.append_eq_nil_iff, lowerAt] at h
    split_ifs at h <;> simp at h

end Tabular.Text
