import Mathlib.Algebra.Order.BigOperators.Group.List
import Mathlib.Algebra.Order.Ring.Nat
import Mathlib.Data.List.Forall2
import Mathlib.Logic.Relation
import Tabular.Table.Render
/-!
# Narrowing columns

A table that has to fit is narrowed in rounds: while a row is too wide, the widest column gives way
by one, the last of several, unless no column is wider than the least width (`Round`). A row gets
narrower by one in every round, so the rounds come to an end (`wellFounded_round`). `shrinkToFit`
counts them beforehand, and the widths that it finds are the only ones that the rounds end with
(`ends_iff_eq_shrinkToFit`).

A column that gives way is one of the widest, so it stays within one of all the others
(`NarrowedEvenly`). Every round keeps this, and the bounds of the columns with it
(`NarrowedEvenly.round`). Widths are natural numbers here; those of a table never add up to more
than a machine word holds (`rowWidth_lt_size_of_rounds`).
-/

namespace Tabular.Table

open Relation

/-! ## The widest column -/

/-- No column gives way when none is wider than the least width. -/
theorem narrowWidest_eq_none_iff {widths : List Nat} :
    narrowWidest widths = none ↔ ∀ w ∈ widths, w ≤ minWidth := by
  induction widths with
  | nil => simp [narrowWidest]
  | cons w widths ih =>
    rw [narrowWidest, List.forall_mem_cons, ← ih]
    cases narrowWidest widths with
    | none => simp
    | some rest =>
      dsimp only
      split <;> simp

/-- A column that gives way is wider than the least width, as wide as any in front of it, and wider
than any behind it. -/
structure IsWidest (before : List Nat) (w : Nat) (after : List Nat) : Prop where
  least_lt : minWidth < w
  before_le : ∀ v ∈ before, v ≤ w
  after_lt : ∀ v ∈ after, v < w

theorem IsWidest.le {before after : List Nat} {w v : Nat} (h : IsWidest before w after)
    (hv : v ∈ before ++ w :: after) : v ≤ w := by
  rcases List.mem_append.mp hv with hv | hv
  · exact h.before_le v hv
  · rcases List.mem_cons.mp hv with rfl | hv
    · exact Nat.le_refl _
    · exact (h.after_lt v hv).le

theorem exists_isWidest {widths narrowed : List Nat} {w : Nat}
    (h : narrowWidest widths = some (narrowed, w)) :
    ∃ before after, IsWidest before w after ∧ widths = before ++ w :: after ∧
      narrowed = before ++ (w - 1) :: after := by
  induction widths generalizing narrowed w with
  | nil => cases h
  | cons v widths ih =>
    rw [narrowWidest] at h
    split at h
    case h_1 rest widest hrest =>
      obtain ⟨before, after, hwidest, rfl, rfl⟩ := ih hrest
      split at h <;> cases h
      case isTrue hv =>
        exact ⟨[], _, ⟨hwidest.least_lt.trans hv, nofun, fun u hu => (hwidest.le hu).trans_lt hv⟩,
          rfl, rfl⟩
      case isFalse hv =>
        have hbefore : ∀ u ∈ v :: before, u ≤ w :=
          List.forall_mem_cons.mpr ⟨Nat.le_of_not_lt hv, hwidest.before_le⟩
        exact ⟨v :: before, after, ⟨hwidest.least_lt, hbefore, hwidest.after_lt⟩, rfl, rfl⟩
    case h_2 hrest =>
      split at h <;> cases h
      case isTrue hv =>
        exact ⟨[], _, ⟨hv, nofun, fun u hu => (narrowWidest_eq_none_iff.mp hrest u hu).trans_lt hv⟩,
          rfl, rfl⟩

theorem IsWidest.narrowWidest_eq {before after : List Nat} {w : Nat}
    (h : IsWidest before w after) :
    narrowWidest (before ++ w :: after) = some (before ++ (w - 1) :: after, w) := by
  obtain ⟨hleast, hbefore, hafter⟩ := h
  induction before with
  | nil =>
    rw [List.nil_append, narrowWidest]
    split
    case h_1 rest widest hrest =>
      obtain ⟨front, back, -, rfl, -⟩ := exists_isWidest hrest
      have hlt : widest < w := hafter widest (by simp)
      rw [if_pos hlt, List.nil_append]
    case h_2 => rw [if_pos hleast, List.nil_append]
  | cons v before ih =>
    obtain ⟨hv, hbefore⟩ := List.forall_mem_cons.mp hbefore
    rw [List.cons_append, narrowWidest, ih hbefore]
    exact if_neg hv.not_gt

/-! ## Rounds -/

/-- A round of narrowing: where a row does not fit, the widest column gives way by one. -/
inductive Round (available : Nat) : List Nat → List Nat → Prop
  | narrow {before after : List Nat} {w : Nat}
      (hwide : available < rowWidth (before ++ w :: after)) (hwidest : IsWidest before w after) :
      Round available (before ++ w :: after) (before ++ (w - 1) :: after)

variable {available : Nat} {widths narrowed : List Nat}

theorem round_iff : Round available widths narrowed ↔
    available < rowWidth widths ∧ ∃ w, narrowWidest widths = some (narrowed, w) := by
  constructor
  · rintro ⟨hwide, hwidest⟩
    exact ⟨hwide, _, hwidest.narrowWidest_eq⟩
  · rintro ⟨hwide, w, hnarrow⟩
    obtain ⟨before, after, hwidest, rfl, rfl⟩ := exists_isWidest hnarrow
    exact .narrow hwide hwidest

/-- The rounds are over when the row fits, or when no column is wider than the least width. -/
theorem forall_not_round_iff : (∀ next, ¬ Round available widths next) ↔
    rowWidth widths ≤ available ∨ ∀ w ∈ widths, w ≤ minWidth := by
  rw [← narrowWidest_eq_none_iff, Option.eq_none_iff_forall_not_mem]
  simp only [round_iff, Prod.forall, Option.mem_def]
  constructor
  · intro h
    by_cases hwide : available < rowWidth widths
    · exact .inr fun next w hnarrow => h next ⟨hwide, w, hnarrow⟩
    · exact .inl (Nat.le_of_not_lt hwide)
  · rintro (hfits | hnone) next ⟨hwide, w, hnarrow⟩
    · exact hwide.not_ge hfits
    · exact hnone next w hnarrow

theorem rowWidth_eq_sum (widths : List Nat) :
    rowWidth widths = widths.sum + gap.length * (widths.length - 1) := by
  rw [rowWidth, List.sum_eq_foldl]

/-- The columns of a table are bounded, and so is its row. -/
theorem rowWidth_naturalWidths_le (m : Text.Measure) (headings : List String)
    (cells : List (List Cell)) :
    rowWidth (naturalWidths m headings cells) ≤ (maxWidth + gap.length) * headings.length := by
  have hlength : (naturalWidths m headings cells).length = headings.length := by
    rw [naturalWidths, List.length_map, List.length_zipIdx]
  have hcolumn : ∀ w ∈ naturalWidths m headings cells, w ≤ maxWidth := by
    intro w hw
    obtain ⟨⟨heading, i⟩, -, rfl⟩ := List.mem_map.mp hw
    exact Nat.min_le_left ..
  have hsum := List.sum_le_card_nsmul _ _ hcolumn
  have hgaps := Nat.mul_le_mul_left gap.length (Nat.sub_le headings.length 1)
  rw [hlength, Nat.nsmul_eq_mul, Nat.mul_comm] at hsum
  rw [rowWidth_eq_sum, hlength, Nat.add_mul]
  exact Nat.add_le_add hsum hgaps

/-- A row gets narrower by one in every round. -/
theorem Round.rowWidth_eq (h : Round available widths narrowed) :
    rowWidth widths = rowWidth narrowed + 1 := by
  obtain ⟨-, hwidest⟩ := h
  have := hwidest.least_lt
  simp only [rowWidth_eq_sum, List.sum_append, List.sum_cons, List.length_append, List.length_cons]
  omega

/-- No round makes a row wider. -/
theorem rowWidth_le_of_rounds (h : ReflTransGen (Round available) widths narrowed) :
    rowWidth narrowed ≤ rowWidth widths := by
  induction h with
  | refl => exact Nat.le_refl _
  | tail _ hround ih =>
    have := hround.rowWidth_eq
    omega

/-- **The sums stay within the range of words.** The widths of fewer than `2 ^ 58` columns and the
gaps between them add up to a machine word, in the table and after any rounds. -/
theorem rowWidth_lt_size_of_rounds {m : Text.Measure} {headings : List String}
    {cells : List (List Cell)} (hlength : headings.length < 2 ^ 58)
    (h : ReflTransGen (Round available) (naturalWidths m headings cells) narrowed) :
    rowWidth narrowed < UInt64.size := by
  have hgap : maxWidth + gap.length = 42 := by decide
  have hnatural := rowWidth_naturalWidths_le m headings cells
  have hsize : UInt64.size = 2 ^ 64 := rfl
  have hrounds := rowWidth_le_of_rounds h
  rw [hgap] at hnatural
  omega

/-- There is no endless sequence of rounds. -/
theorem wellFounded_round (available : Nat) : WellFounded (flip (Round available)) := by
  refine Subrelation.wf (fun {narrowed widths} h => ?_) (measure rowWidth).wf
  have : rowWidth widths = rowWidth narrowed + 1 := Round.rowWidth_eq h
  change rowWidth narrowed < rowWidth widths
  omega

/-- At most one column can give way. -/
theorem Round.unique {next : List Nat} (h : Round available widths narrowed)
    (hnext : Round available widths next) : narrowed = next := by
  obtain ⟨-, w, hw⟩ := round_iff.mp h
  obtain ⟨-, w', hw'⟩ := round_iff.mp hnext
  rw [hw, Option.some.injEq, Prod.mk.injEq] at hw'
  exact hw'.1

/-- The rounds lead to the widths that are found by counting them. -/
theorem rounds_shrinkToFit (widths : List Nat) (available : Nat) :
    ReflTransGen (Round available) widths (shrinkToFit widths available) ∧
      ∀ next, ¬ Round available (shrinkToFit widths available) next := by
  rw [shrinkToFit]
  induction hexcess : rowWidth widths - available generalizing widths with
  | zero => exact ⟨.refl, forall_not_round_iff.mpr (.inl (Nat.sub_eq_zero_iff_le.mp hexcess))⟩
  | succ excess ih =>
    rw [shrinkBy]
    split
    case h_1 narrowed w hnarrow =>
      have hround : Round available widths narrowed := round_iff.mpr ⟨by omega, w, hnarrow⟩
      have hrest := ih narrowed (by have := hround.rowWidth_eq; omega)
      exact ⟨.head hround hrest.1, hrest.2⟩
    case h_2 hnone =>
      exact ⟨.refl, forall_not_round_iff.mpr (.inr (narrowWidest_eq_none_iff.mp hnone))⟩

/-- The rounds end with these widths and with no others. -/
theorem ends_iff_eq_shrinkToFit {final : List Nat} :
    (ReflTransGen (Round available) widths final ∧ ∀ next, ¬ Round available final next) ↔
      final = shrinkToFit widths available := by
  constructor
  · rintro ⟨hreach, hend⟩
    obtain ⟨hshrink, hend'⟩ := rounds_shrinkToFit widths available
    -- rounds leave no choice, so of two states that are reached one leads to the other
    have hunique : Relator.RightUnique (Round available) := fun _ _ _ => Round.unique
    rcases hreach.total_of_right_unique hunique hshrink with h | h
    · rcases h.cases_head with heq | ⟨next, hnext, -⟩
      · exact heq
      · exact absurd hnext (hend next)
    · rcases h.cases_head with heq | ⟨next, hnext, -⟩
      · exact heq.symm
      · exact absurd hnext (hend' next)
  · rintro rfl
    exact rounds_shrinkToFit widths available

/-! ## What the rounds keep -/

/-- Columns of the given widths after some rounds: none is wider than it was, none has given way
below the least width, and one that has given way is within one of all the others. -/
def NarrowedEvenly (widths narrowed : List Nat) : Prop :=
  List.Forall₂ (fun w v => min w minWidth ≤ v ∧ v ≤ w ∧ (v < w → ∀ u ∈ narrowed, u ≤ v + 1))
    widths narrowed

theorem NarrowedEvenly.refl (widths : List Nat) : NarrowedEvenly widths widths :=
  List.forall₂_same.mpr fun _ _ => ⟨Nat.min_le_left .., Nat.le_refl _, fun h => (h.ne rfl).elim⟩

/-- One of the columns changes, and the others stay what they are. -/
theorem forall₂_changed {R : Nat → Nat → Prop} {before after : List Nat} {v v' : Nat}
    (hchange : ∀ w, R w v → R w v') (h : List.Forall₂ R widths (before ++ v :: after)) :
    List.Forall₂ R widths (before ++ v' :: after) := by
  induction before generalizing widths with
  | nil =>
    cases h with
    | cons hw hrest => exact .cons (hchange _ hw) hrest
  | cons u before ih =>
    cases h with
    | cons hw hrest => exact .cons hw (ih hrest)

/-- A round narrows evenly. -/
theorem NarrowedEvenly.round {next : List Nat} (h : NarrowedEvenly widths narrowed)
    (hround : Round available narrowed next) : NarrowedEvenly widths next := by
  obtain @⟨before, after, widest, -, hwidest⟩ := hround
  have hleast := hwidest.least_lt
  -- a column that has given way is within one of the widest
  have hnear : List.Forall₂ (fun w v => min w minWidth ≤ v ∧ v ≤ w ∧ (v < w → widest ≤ v + 1))
      widths (before ++ widest :: after) :=
    h.imp fun w v ⟨hlow, hhigh, heven⟩ => ⟨hlow, hhigh, fun hlt => heven hlt widest (by simp)⟩
  have hnext : List.Forall₂ (fun w v => min w minWidth ≤ v ∧ v ≤ w ∧ (v < w → widest ≤ v + 1))
      widths (before ++ (widest - 1) :: after) :=
    forall₂_changed (fun w ⟨hlow, hhigh, _⟩ => ⟨by omega, by omega, by omega⟩) hnear
  have hmost : ∀ u ∈ before ++ (widest - 1) :: after, u ≤ widest := by
    intro u hu
    rcases List.mem_append.mp hu with hu | hu
    · exact hwidest.before_le u hu
    · rcases List.mem_cons.mp hu with rfl | hu
      · exact Nat.sub_le ..
      · exact (hwidest.after_lt u hu).le
  exact hnext.imp fun w v ⟨hlow, hhigh, heven⟩ =>
    ⟨hlow, hhigh, fun hlt u hu => (hmost u hu).trans (heven hlt)⟩

/-- After some rounds the columns are narrowed evenly, and unless there was no round, the row is not
narrower than there is room. -/
theorem narrowedEvenly_of_rounds (h : ReflTransGen (Round available) widths narrowed) :
    NarrowedEvenly widths narrowed ∧ (narrowed = widths ∨ available ≤ rowWidth narrowed) := by
  induction h with
  | refl => exact ⟨.refl widths, .inl rfl⟩
  | tail _ hround ih =>
    have hwide := (round_iff.mp hround).1
    have hwidth := hround.rowWidth_eq
    exact ⟨ih.1.round hround, .inr (by omega)⟩

/-- Columns that are all down to the least width have given way as far as they can. -/
theorem NarrowedEvenly.eq_map_min (h : NarrowedEvenly widths narrowed)
    (hleast : ∀ v ∈ narrowed, v ≤ minWidth) : narrowed = widths.map fun w => min w minWidth := by
  have hbounds := (List.forall₂_and_left _ _).mpr ⟨hleast, h.flip⟩
  have heach : List.Forall₂ (fun v w => v = min w minWidth) narrowed widths :=
    hbounds.imp fun v w ⟨hv, hlow, hhigh, _⟩ => by omega
  rwa [← List.forall₂_map_right_iff, List.forall₂_eq_eq_eq] at heach

/-- **Columns are narrowed evenly until the row fits.** There is no endless sequence of rounds, and
they end with the widths that are found, and no others. A column ends between its width and the
least width, and one that has given way is within one of the widest. Nothing changes where the row
fits. Where it does not, it fits exactly in the end, or every column is down to the least width and
the row is still too wide. -/
theorem shrinkToFit_even (widths : List Nat) (available : Nat) :
    WellFounded (flip (Round available)) ∧
      (∀ final, (ReflTransGen (Round available) widths final ∧
          ∀ next, ¬ Round available final next) ↔ final = shrinkToFit widths available) ∧
      NarrowedEvenly widths (shrinkToFit widths available) ∧
      (rowWidth widths ≤ available → shrinkToFit widths available = widths) ∧
      (available < rowWidth widths → rowWidth (shrinkToFit widths available) = available ∨
        shrinkToFit widths available = widths.map (fun w => min w minWidth) ∧
          available < rowWidth (shrinkToFit widths available)) := by
  obtain ⟨hreach, hend⟩ := rounds_shrinkToFit widths available
  obtain ⟨heven, hroom⟩ := narrowedEvenly_of_rounds hreach
  refine ⟨wellFounded_round available, fun _ => ends_iff_eq_shrinkToFit, heven, ?_, ?_⟩
  · intro hfits
    exact (ends_iff_eq_shrinkToFit.mp ⟨.refl, forall_not_round_iff.mpr (.inl hfits)⟩).symm
  · intro hwide
    by_cases hfits : rowWidth (shrinkToFit widths available) ≤ available
    · rcases hroom with heq | hroom
      · rw [heq] at hfits
        exact absurd hwide hfits.not_gt
      · exact .inl (hfits.antisymm hroom)
    · have hleast := (forall_not_round_iff.mp hend).resolve_left hfits
      exact .inr ⟨heven.eq_map_min hleast, Nat.lt_of_not_le hfits⟩

example : shrinkToFit [10, 4, 20] 30 = [10, 4, 12] := by decide
example : shrinkToFit [5, 5] 2 = [3, 3] := by decide

end Tabular.Table
