import Mathlib
import Tabular.Proofs.Filter.Reading
import Tabular.Proofs.Order.Sorted
/-!
# Filters cut intervals out of the sort order

On numbers and dates a filter admits an interval of places (`Filter.ordConnected_places`), unless it
asks for all places but one. Values with a place are sorted by it (`place_le_of_ne_gt`), and a value
that does not come after one with a place has a place itself, since unreadable and blank values come
last. So a value between two that are admitted is admitted, and in a sorted list the admitted
entries stand together (`Filter.admitted_stand_together`).
-/

namespace Tabular

open Text

/-! ## The places that a filter admits -/

namespace Filter

variable {f : Filter} {d : Domain}

theorem ordConnected_setOf_admits {op : Operator} (hneq : op ≠ .neq) (hisNot : op ≠ .isNot)
    (t : ℤ) : {x : ℤ | op.admits (compare x t) = true}.OrdConnected := by
  refine Set.ordConnected_def.mpr fun x hx y hy z hz => ?_
  obtain ⟨hxz, hzy⟩ := hz
  simp only [Set.mem_ofPred_eq] at hx hy ⊢
  cases op <;> simp_all [Operator.admits, Int.compare_eq_lt, Int.compare_eq_gt] <;> omega

/-- Bounds hold an interval, whichever of them are given. -/
theorem ordConnected_inBounds (place? : String → Option Int) :
    {x : ℤ | InBounds place? f x}.OrdConnected := by
  refine Set.ordConnected_def.mpr fun x hx y hy z hz => ?_
  obtain ⟨hxz, hzy⟩ := hz
  simp only [Set.mem_ofPred_eq, InBounds] at hx hy ⊢
  cases hlow : isBlank f.value <;> cases hhigh : isBlank f.secondValue <;>
    simp only [hlow, hhigh] at hx hy ⊢
  case false.false =>
    obtain ⟨s, t, hs, ht, hsx, -⟩ := hx
    obtain ⟨s', t', hs', ht', -, hyt⟩ := hy
    obtain rfl : s = s' := Option.some.inj (hs.symm.trans hs')
    obtain rfl : t = t' := Option.some.inj (ht.symm.trans ht')
    exact ⟨s, t, hs, ht, hsx.trans hxz, hzy.trans hyt⟩
  case false.true =>
    obtain ⟨s, hs, hsx⟩ := hx
    exact ⟨s, hs, hsx.trans hxz⟩
  case true.false =>
    obtain ⟨t, ht, hyt⟩ := hy
    exact ⟨t, ht, hzy.trans hyt⟩

/-- **A filter admits an interval of places**, unless it asks for all but one. -/
theorem ordConnected_places (hneq : f.operator ≠ .neq) (hisNot : f.operator ≠ .isNot) :
    (f.places d).OrdConnected := by
  unfold places
  split
  · exact ordConnected_inBounds _
  · split
    · cases d.operandPlace? f.value with
      | none => simpa using Set.ordConnected_empty
      | some t => simpa using ordConnected_setOf_admits hneq hisNot t
    · exact Set.ordConnected_empty

end Filter

/-! ## Sorted values and their places -/

section Values

variable {transliterate : String → String} {d : Domain} {v w : Value} {x y : Int}

/-- Readable values come first, and blank ones last. -/
theorem rank_le_of_ne_gt (h : compareValues transliterate d v w ≠ .gt) :
    (Reading.of v d).rank ≤ (Reading.of w d).rank := by
  by_contra hlt
  exact h (Std.OrientedCmp.gt_iff_lt.mpr (compareValues_eq_lt_of_rank (Nat.lt_of_not_le hlt)))

/-- In an ordered domain the readable values have a place. -/
theorem exists_place_iff (hd : d.isOrdered = true) :
    (∃ x, d.place? v = some x) ↔ (Reading.of v d).rank = 0 := by
  have hfits := Reading.fits_of v d
  rw [Domain.place?_eq hd]
  generalize Reading.of v d = r at hfits
  cases d
  case number | currency | date | datetime => cases hfits <;> simp [Reading.place?, Reading.rank]
  case string | collection | boolean => cases hd

/-- **Values are sorted by their places.** -/
theorem place_le_of_ne_gt (hd : d.isOrdered = true)
    (h : compareValues transliterate d v w ≠ .gt) (hx : d.place? v = some x)
    (hy : d.place? w = some y) : x ≤ y := by
  rw [Domain.place?_eq hd] at hx hy
  unfold compareValues SortReading.of SortReading.compare at h
  rw [Reading.rank_map, Reading.rank_map] at h
  have hfits := Reading.fits_of v d
  have hfits' := Reading.fits_of w d
  generalize Reading.of v d = r at hfits hx h
  generalize Reading.of w d = s at hfits' hy h
  generalize d.comparisonClass = c at hfits hfits'
  cases hfits <;> cases hx <;> cases hfits' <;> cases hy
  case number.refl.number.refl =>
    simpa [Reading.rank, Reading.map, SortReading.compareAlike, Int.compare_eq_gt] using h
  case time.refl.time.refl millis millis' =>
    have hle : millis ≤ millis' := by
      simpa [Reading.rank, Reading.map, SortReading.compareAlike, Int.compare_eq_gt] using h
    split
    · exact Int.ediv_le_ediv (by decide) hle
    · exact hle

end Values

/-! ## Sorted lists -/

/-- Where nothing that fails a test stands between two elements that pass it, the ones that pass
stand together. -/
theorem exists_append_of_between {β : Type} {p : β → Bool} {l : List β}
    (h : ∀ a b c, [a, b, c].Sublist l → p a = true → p c = true → p b = true) :
    ∃ before run after, l = before ++ run ++ after ∧ (∀ a ∈ run, p a = true) ∧
      ∀ a ∈ before ++ after, p a = false := by
  induction l with
  | nil => exact ⟨[], [], [], rfl, nofun, nofun⟩
  | cons a l ih =>
    obtain ⟨before, run, after, rfl, hrun, hout⟩ := ih fun x y z hsub => h x y z (hsub.cons a)
    cases ha : p a with
    | false => exact ⟨a :: before, run, after, rfl, hrun, List.forall_mem_cons.mpr ⟨ha, hout⟩⟩
    | true =>
      match before, run with
      | before, [] =>
        refine ⟨[], [a], before ++ after, by simp, List.forall_mem_singleton.mpr ha, hout⟩
      | [], run => exact ⟨[], a :: run, after, rfl, List.forall_mem_cons.mpr ⟨ha, hrun⟩, hout⟩
      | b :: before, c :: run =>
        -- what fails the test would stand between `a` and the run
        have hsub : [b, c].Sublist (b :: before ++ c :: run ++ after) :=
          ((List.nil_sublist before).cons_cons b).append
            ((List.nil_sublist (run ++ after)).cons_cons c) |>.trans (by simp)
        have hb := h a b c (hsub.cons_cons a) ha (hrun c List.mem_cons_self)
        rw [hout b (by simp)] at hb
        cases hb

namespace Filter

variable {f : Filter} {d : Domain}

/-- A value between two admitted values is admitted. -/
theorem admits_of_between {transliterate : String → String} (hd : d.isOrdered = true)
    (hneq : f.operator ≠ .neq) (hisNot : f.operator ≠ .isNot) {u v w : Value}
    (huv : compareValues transliterate d u v ≠ .gt) (hvw : compareValues transliterate d v w ≠ .gt)
    (hu : f.admits d u = true) (hw : f.admits d w = true) : f.admits d v = true := by
  by_cases hactive : f.isActive = true
  case neg => exact admits_of_not_isActive (Bool.not_eq_true _ ▸ hactive) ..
  by_cases hempty : f.operator = .isEmpty
  case pos =>
    -- blank values come last
    rw [admits_of_isEmpty hempty] at hu ⊢
    have hrank := rank_le_of_ne_gt huv
    rw [Reading.of_eq_blank_iff.mpr hu, Reading.rank_of] at hrank
    by_contra hblank
    rw [if_neg hblank] at hrank
    split at hrank <;> exact absurd hrank (by decide)
  rw [admits_iff_place hd hactive hempty] at hu hw ⊢
  obtain ⟨x, hx, hxmem⟩ := hu
  obtain ⟨y, hy, hymem⟩ := hw
  obtain ⟨z, hz⟩ : ∃ z, d.place? v = some z := by
    have hrank := rank_le_of_ne_gt hvw
    rw [(exists_place_iff hd).mp ⟨y, hy⟩] at hrank
    exact (exists_place_iff hd).mpr (Nat.le_zero.mp hrank)
  exact ⟨z, hz, (ordConnected_places hneq hisNot).out hxmem hymem
    ⟨place_le_of_ne_gt hd huv hx hz, place_le_of_ne_gt hd hvw hz hy⟩⟩

/-- **What a filter admits stands together in the sort order.** On an ordered domain a value
between two that a filter admits is admitted too, unless the filter asks for all places but one. So
in a list that is sorted by a field, in either direction, the entries that the filter admits stand
one behind the other. -/
theorem admitted_stand_together (hd : d.isOrdered = true) (hneq : f.operator ≠ .neq)
    (hisNot : f.operator ≠ .isNot) :
    (∀ transliterate u v w, compareValues transliterate d u v ≠ .gt →
      compareValues transliterate d v w ≠ .gt → f.admits d u = true → f.admits d w = true →
        f.admits d v = true) ∧
    ∀ {α : Type} (source : Source α) (field : String) (direction : Direction)
      (more : List SortKey) (entries : List (Entry α)), source.schema.domainOf field = d →
      ∃ before run after,
        sortEntries source (⟨field, direction⟩ :: more) entries = before ++ run ++ after ∧
        (∀ e ∈ run, f.admits d (source.value e.record field) = true) ∧
        ∀ e ∈ before ++ after, f.admits d (source.value e.record field) = false := by
  refine ⟨fun _ _ _ _ => admits_of_between hd hneq hisNot, ?_⟩
  rintro α source field direction more entries rfl
  refine exists_append_of_between (p := fun e : Entry α => f.admits _ (source.value e.record field))
    fun a b c hsub ha hc => ?_
  have hsorted := (@pairwise_sortEntries_append _ source [⟨field, direction⟩] more entries).sublist
    hsub
  simp only [List.pairwise_cons, List.mem_cons, List.not_mem_nil, or_false, forall_eq_or_imp,
    forall_eq, compareBy_cons, compareBy_nil, Ordering.then_eq, compareAt,
    Ordering.isLE_iff_ne_gt] at hsorted
  obtain ⟨⟨hab, -⟩, hbc, -⟩ := hsorted
  cases direction with
  | ascending => exact admits_of_between hd hneq hisNot hab hbc ha hc
  | descending =>
    -- against the direction of the sort, `b` is between `c` and `a`
    simp only [Direction.apply, ← Std.OrientedCmp.eq_swap] at hab hbc
    exact admits_of_between hd hneq hisNot hbc hab hc ha

/-- An instant between two dates of a range, given as a number of milliseconds. -/
theorem admitted_stand_together_range :
    let f : Filter := ⟨.dateRange, "2024-01-20", some "2024-01-10"⟩
    Domain.date.isOrdered = true ∧ f.operator ≠ .neq ∧ f.operator ≠ .isNot ∧
      f.admits .date (.number (.signed 1705312800000)) = true := by
  intro f
  obtain ⟨hbetween, -⟩ := @admitted_stand_together f .date rfl (by decide) (by decide)
  have hadmits := hbetween transliterate (.text "2024-01-10T23:00:00Z")
    (.number (.signed 1705312800000)) (.text "2024-01-20") (by decide +kernel) (by decide +kernel)
    (by decide +kernel) (by decide +kernel)
  exact ⟨rfl, by decide, by decide, hadmits⟩

end Filter

end Tabular
