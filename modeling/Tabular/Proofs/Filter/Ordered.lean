import Tabular.Filter.Evaluate
import Tabular.Proofs.Order.Total
/-!
# Filters on ordered domains

Numbers and currencies are ordered by their doubles, dates by the day and datetimes by the
millisecond. In each of these domains a value that is read has a place among the integers
(`Domain.place?`), and so has an operand (`Domain.operandPlace?`), and every filter but the test for
emptiness asks where these places are: a filter with one operand for their order
(`Filter.admits_point_iff`), a range for its bounds (`InBounds`, `Filter.admits_within_iff`). A value
without a place passes none of them, and nothing passes one whose operand has none.

That the operators of one domain are those of one order is `Filter.ordered_operators_cohere`.
-/

namespace Tabular

open Text

/-! ## Places -/

/-- The place of a double on the line of all numbers, none when it is not a number. -/
def Binary64.place? (x : Binary64) : Option Int := if x.isNaN then none else some x.rank

theorem Binary64.place?_of_isNaN {x : Binary64} (h : x.isNaN = false) : x.place? = some x.rank := by
  rw [place?, h]
  rfl

theorem Binary64.compare?_eq (x y : Binary64) :
    x.compare? y = x.place?.bind fun s => y.place?.map fun t => compare s t := by
  unfold compare? place?
  cases x.isNaN <;> cases y.isNaN <;> rfl

/-- The place of a value in the order of a domain, when the domain has one and the value is read. -/
def Domain.place? : Domain → Value → Option Int
  | .number, v | .currency, v => v.asNumber?.map Binary64.rank
  | .date, v => v.asInstant?.map Instant.day
  | .datetime, v => v.asInstant?.map Instant.toInt
  | _, _ => none

/-- The place of an operand in the order of a domain, when the domain has one and the operand is
read. -/
def Domain.operandPlace? : Domain → String → Option Int
  | .number, raw | .currency, raw => (readNumber? raw).bind Binary64.place?
  | .date, raw => (Instant.ofText? raw).map Instant.day
  | .datetime, raw => (Instant.ofText? raw).map Instant.toInt
  | _, _ => none

theorem Domain.operandPlace?_of_isBlank (d : Domain) {raw : String} (h : isBlank raw = true) :
    d.operandPlace? raw = none := by
  obtain ⟨hnumber, hinstant, -⟩ := read_eq_none_of_isBlank h
  cases d <;> simp [operandPlace?, hnumber, hinstant]

theorem Domain.isNumeric_of_isTemporal {d : Domain} (hd : d.isTemporal = true) :
    d.isNumeric = false := by
  cases d <;> first | rfl | cases hd

theorem Domain.place?_of_isNumeric {d : Domain} (hd : d.isNumeric = true) :
    d.place? = fun v => v.asNumber?.map Binary64.rank := by
  cases d <;> first | rfl | cases hd

theorem Domain.operandPlace?_of_isNumeric {d : Domain} (hd : d.isNumeric = true) :
    d.operandPlace? = fun raw => (readNumber? raw).bind Binary64.place? := by
  cases d <;> first | rfl | cases hd

theorem Domain.place?_of_isTemporal {d : Domain} (hd : d.isTemporal = true) :
    d.place? = fun v => v.asInstant?.map (Filter.timeKey d) := by
  cases d <;> first | rfl | cases hd

theorem Domain.operandPlace?_of_isTemporal {d : Domain} (hd : d.isTemporal = true) :
    d.operandPlace? = fun raw => (Instant.ofText? raw).map (Filter.timeKey d) := by
  cases d <;> first | rfl | cases hd

/-! ## Bounds -/

section Bounds

variable {τ : Type} {cmp : τ → τ → Option Ordering} {read : String → Option τ}
  {key : τ → Option Int}

/-- A place lies within the bounds of a range filter when it lies between two bounds, whichever of
them is the lower, on the one side of a single bound, or anywhere without bounds. A bound that is
given but has no place admits nothing. -/
def InBounds (place? : String → Option Int) (f : Filter) (x : Int) : Prop :=
  match isBlank f.value, isBlank f.secondValue with
  | false, false => ∃ s t, place? f.value = some s ∧ place? f.secondValue = some t ∧
      min s t ≤ x ∧ x ≤ max s t
  | false, true => ∃ s, place? f.value = some s ∧ s ≤ x
  | true, false => ∃ t, place? f.secondValue = some t ∧ x ≤ t
  | true, true => True

/-- Each bound that is given has a place. -/
theorem InBounds.exists_place {place? : String → Option Int} {f : Filter} {x : Int}
    (h : InBounds place? f x) {raw : String} (hraw : raw ∈ [f.value, f.secondValue])
    (hgiven : isBlank raw = false) : ∃ s, place? raw = some s := by
  unfold InBounds at h
  rcases List.mem_pair.mp hraw with rfl | rfl
  · cases hsecond : isBlank f.secondValue <;> simp only [hgiven, hsecond] at h
    · obtain ⟨s, -, hs, -⟩ := h
      exact ⟨s, hs⟩
    · obtain ⟨s, hs, -⟩ := h
      exact ⟨s, hs⟩
  · cases hfirst : isBlank f.value <;> simp only [hgiven, hfirst] at h
    · obtain ⟨-, t, -, ht, -⟩ := h
      exact ⟨t, ht⟩
    · obtain ⟨t, ht, -⟩ := h
      exact ⟨t, ht⟩

/-- Two bounds may be given in either order. -/
theorem inBounds_swapped_iff {place? : String → Option Int} {f : Filter} {x : Int}
    (hlow : isBlank f.value = false) (hhigh : isBlank f.secondValue = false) :
    InBounds place? { f with value := f.secondValue, secondValue? := some f.value } x ↔
      InBounds place? f x := by
  have hsecond :
      { f with value := f.secondValue, secondValue? := some f.value }.secondValue = f.value := rfl
  simp only [InBounds, hsecond, hlow, hhigh]
  constructor
  · rintro ⟨s, t, hs, ht, hbetween⟩
    exact ⟨t, s, ht, hs, Int.min_comm s t ▸ Int.max_comm s t ▸ hbetween⟩
  · rintro ⟨s, t, hs, ht, hbetween⟩
    exact ⟨t, s, ht, hs, Int.min_comm s t ▸ Int.max_comm s t ▸ hbetween⟩

-- the order of values is that of their places, for those that have one
variable (hcmp : ∀ a b, cmp a b = (key a).bind fun s => (key b).map fun t => compare s t)
include hcmp

/-- A value lies within bounds when they have places that its own lies between. -/
theorem withinBounds_iff {x : τ} {p : Int} (hx : key x = some p) (low? high? : Option τ) :
    withinBounds cmp x (low?, high?) = true ↔
      (∀ a, low? = some a → ∃ s, key a = some s ∧ s ≤ p) ∧
        ∀ b, high? = some b → ∃ t, key b = some t ∧ p ≤ t := by
  have hlow (a : τ) : (cmp x a = some .gt ∨ cmp x a = some .eq) ↔ ∃ s, key a = some s ∧ s ≤ p := by
    rw [hcmp, hx]
    cases key a with
    | none => simp
    | some s =>
      simp only [Option.bind_some, Option.map_some, Option.some.injEq, Int.compare_eq_gt,
        Int.compare_eq_eq, exists_eq_left']
      omega
  have hhigh (b : τ) : (cmp x b = some .lt ∨ cmp x b = some .eq) ↔ ∃ t, key b = some t ∧ p ≤ t := by
    rw [hcmp, hx]
    cases key b with
    | none => simp
    | some t =>
      simp only [Option.bind_some, Option.map_some, Option.some.injEq, Int.compare_eq_lt,
        Int.compare_eq_eq, exists_eq_left']
      omega
  simp only [withinBounds, Bool.and_eq_true]
  refine and_congr ?_ ?_
  · cases low? with
    | none => simp
    | some a => simp [hlow]
  · cases high? with
    | none => simp
    | some b => simp [hhigh]

variable {f : Filter} {x : τ} {p : Int}

/-- A value lies within the bounds that are read just when its place does. -/
theorem readBounds?_within_iff (hx : key x = some p) :
    (∃ bounds, readBounds? cmp read f = some bounds ∧ withinBounds cmp x bounds = true) ↔
      InBounds (fun raw => (read raw).bind key) f p := by
  unfold readBounds? readBound? InBounds
  cases isBlank f.value <;> cases isBlank f.secondValue <;>
    simp only [Bool.false_eq_true, if_false, if_true]
  case false.false =>
    cases read f.value with
    | none => simp
    | some a =>
      cases read f.secondValue with
      | none => simp
      | some b =>
        simp only [Option.map_some, Option.bind_eq_bind, Option.bind_some, hcmp]
        -- a bound without a place is swapped with none and admits nothing
        cases ha : key a with
        | none => simp [withinBounds_iff hcmp hx, ha]
        | some s =>
          cases hb : key b with
          | none => simp [withinBounds_iff hcmp hx, hb]
          | some t =>
            by_cases hlt : t < s <;>
              simp only [withinBounds_iff hcmp hx, ha, hb, Int.compare_eq_lt, hlt, Option.map_some,
                Option.bind_some, Option.some.injEq, if_true, if_false, Option.pure_def,
                exists_eq_left', forall_eq', exists_and_left] <;>
              omega
  case false.true =>
    cases read f.value with
    | none => simp
    | some a => simp [withinBounds_iff hcmp hx]
  case true.false =>
    cases read f.secondValue with
    | none => simp
    | some b => simp [withinBounds_iff hcmp hx]
  case true.true => simp [withinBounds_iff hcmp hx]

end Bounds

/-- Bounds that are read as their places. -/
theorem readBounds?_place_within_iff {place? : String → Option Int} {f : Filter}
    {p : Int} :
    (∃ bounds, readBounds? (fun a b => some (compare a b)) place? f = some bounds ∧
      withinBounds (fun a b => some (compare a b)) p bounds = true) ↔ InBounds place? f p := by
  have hplace : place? = fun raw => (place? raw).bind some := by simp only [Option.bind_fun_some]
  conv_rhs => rw [hplace]
  exact readBounds?_within_iff (fun _ _ => rfl) rfl

/-! ## The operators of an order -/

/-- Number, currency, date and datetime. -/
def Domain.isOrdered (d : Domain) : Bool := d.isNumeric || d.isTemporal

/-- Operators named for what they ask: that a value is below the operand, at it, above it or
elsewhere, or within two operands. -/
structure OrderOperators where
  below : Operator
  same : Operator
  above : Operator
  other : Operator
  within : Operator

/-- The operators of a domain under the names of an order. -/
def Domain.orderOperators (d : Domain) : OrderOperators :=
  if d.isNumeric then ⟨.lt, .eq, .gt, .neq, .between⟩
  else ⟨.isBefore, .is, .isAfter, .isNot, .dateRange⟩

/-- The operators of an ordered domain with one operand. -/
def Domain.pointOperators (d : Domain) : List Operator :=
  if d.isNumeric then [.lt, .eq, .gt, .neq, .gte, .lte] else [.isBefore, .is, .isAfter, .isNot]

theorem Domain.orderOperators_mem (d : Domain) :
    d.orderOperators.below ∈ d.pointOperators ∧ d.orderOperators.same ∈ d.pointOperators ∧
      d.orderOperators.above ∈ d.pointOperators ∧ d.orderOperators.other ∈ d.pointOperators := by
  cases d <;> decide

theorem Domain.orderOperators_admits (d : Domain) (o : Ordering) :
    d.orderOperators.below.admits o = (o == .lt) ∧ d.orderOperators.same.admits o = (o == .eq) ∧
      d.orderOperators.above.admits o = (o == .gt) ∧
        d.orderOperators.other.admits o = !(o == .eq) := by
  cases d <;> cases o <;> decide

namespace Filter

variable {f : Filter} {d : Domain}

/-- An active filter on a numeric field. -/
theorem admits_numeric (hd : d.isNumeric = true) (hactive : f.isActive = true)
    (hop : f.operator ≠ .isEmpty) (v : Value) : f.admits d v = f.admitsNumber v := by
  have hclass : d.comparisonClass = .number := beq_iff_eq.mp hd
  simp [admits, hactive, hop, hclass]

/-- An active filter on a field of dates or datetimes. -/
theorem admits_temporal (hd : d.isTemporal = true) (hactive : f.isActive = true)
    (hop : f.operator ≠ .isEmpty) (v : Value) : f.admits d v = f.admitsTime d v := by
  have hclass : d.comparisonClass = .date := beq_iff_eq.mp hd
  simp [admits, hactive, hop, hclass]

/-! ## What a filter asks of a place -/

theorem admitsNumber_point_iff (hop : f.operator ∈ [.lt, .eq, .gt, .neq, .gte, .lte]) (v : Value) :
    f.admitsNumber v = true ↔ ∃ x t, v.asNumber?.map Binary64.rank = some x ∧
      (readNumber? f.value).bind Binary64.place? = some t ∧
        f.operator.admits (compare x t) = true := by
  have hpoint : f.admitsNumber v = v.asNumber?.any fun n =>
      ((readNumber? f.value).bind fun target => n.compare? target).any f.operator.admits := by
    simp only [List.mem_cons, List.not_mem_nil, or_false] at hop
    unfold admitsNumber
    cases v.asNumber? with
    | none => rfl
    | some n =>
      cases readNumber? f.value with
      | none => rcases hop with hop | hop | hop | hop | hop | hop <;> simp [hop]
      | some target =>
        rcases hop with hop | hop | hop | hop | hop | hop <;>
          cases hcmp : n.compare? target <;> simp [hop, hcmp]
  rw [hpoint]
  cases hv : v.asNumber? with
  | none => simp
  | some n =>
    have hplace : n.place? = some n.rank := Binary64.place?_of_isNaN (Value.isNaN_of_asNumber? hv)
    cases readNumber? f.value with
    | none => simp
    | some target =>
      simp only [Option.any_some, Option.bind_some, Binary64.compare?_eq, hplace]
      cases target.place? <;> simp

theorem admitsTime_point_iff (hop : f.operator ∈ [.isBefore, .is, .isAfter, .isNot]) (v : Value) :
    f.admitsTime d v = true ↔ ∃ x t, v.asInstant?.map (timeKey d) = some x ∧
      (Instant.ofText? f.value).map (timeKey d) = some t ∧
        f.operator.admits (compare x t) = true := by
  have hpoint : f.admitsTime d v = (v.asInstant?.map (timeKey d)).any fun x =>
      ((Instant.ofText? f.value).map (timeKey d)).any fun t => f.operator.admits (compare x t) := by
    simp only [List.mem_cons, List.not_mem_nil, or_false] at hop
    unfold admitsTime
    cases v.asInstant? with
    | none => rfl
    | some instant =>
      rcases hop with hop | hop | hop | hop <;>
        cases hread : Instant.ofText? f.value <;> simp [hop, hread]
  rw [hpoint]
  cases v.asInstant? <;> cases Instant.ofText? f.value <;> simp

/-- A filter with one operand admits the values whose place stands to that of the operand as the
operator says. -/
theorem admits_point_iff (hd : d.isOrdered = true) (hop : f.operator ∈ d.pointOperators)
    (hvalue : isBlank f.value = false) (v : Value) :
    f.admits d v = true ↔ ∃ x t, d.place? v = some x ∧ d.operandPlace? f.value = some t ∧
      f.operator.admits (compare x t) = true := by
  have hactive := isActive_of_value hvalue
  have hempty : f.operator ≠ .isEmpty := by
    rintro hempty
    rw [hempty] at hop
    revert hop
    cases d <;> decide
  rcases (Bool.or_eq_true ..).mp hd with hnumeric | htemporal
  · rw [Domain.pointOperators, if_pos hnumeric] at hop
    rw [admits_numeric hnumeric hactive hempty, admitsNumber_point_iff hop,
      Domain.place?_of_isNumeric hnumeric, Domain.operandPlace?_of_isNumeric hnumeric]
  · rw [Domain.pointOperators, Domain.isNumeric_of_isTemporal htemporal,
      if_neg Bool.false_ne_true] at hop
    rw [admits_temporal htemporal hactive hempty, admitsTime_point_iff hop,
      Domain.place?_of_isTemporal htemporal, Domain.operandPlace?_of_isTemporal htemporal]

theorem admitsNumber_between_iff (hop : f.operator = .between) (v : Value) :
    f.admitsNumber v = true ↔ ∃ x, v.asNumber?.map Binary64.rank = some x ∧
      InBounds (fun raw => (readNumber? raw).bind Binary64.place?) f x := by
  unfold admitsNumber
  rw [hop]
  cases hv : v.asNumber? with
  | none => simp
  | some n =>
    have hplace : n.place? = some n.rank := Binary64.place?_of_isNaN (Value.isNaN_of_asNumber? hv)
    simp only [Option.map_some, Option.some.injEq, exists_eq_left',
      ← readBounds?_within_iff Binary64.compare?_eq hplace]
    cases readBounds? Binary64.compare? readNumber? f <;> simp

theorem admitsTime_dateRange_iff (hop : f.operator = .dateRange) (v : Value) :
    f.admitsTime d v = true ↔ ∃ x, v.asInstant?.map (timeKey d) = some x ∧
      InBounds (fun raw => (Instant.ofText? raw).map (timeKey d)) f x := by
  unfold admitsTime
  rw [hop]
  cases v.asInstant?.map (timeKey d) with
  | none => simp
  | some x =>
    simp only [Option.some.injEq, exists_eq_left', ← readBounds?_place_within_iff]
    cases readBounds? (fun a b => some (compare a b))
      (fun raw => (Instant.ofText? raw).map (timeKey d)) f <;> simp

/-- A range filter admits the values with a place within its bounds. -/
theorem admits_within_iff (hd : d.isOrdered = true) (hop : f.operator = d.orderOperators.within)
    (hactive : f.isActive = true) (v : Value) :
    f.admits d v = true ↔ ∃ x, d.place? v = some x ∧ InBounds d.operandPlace? f x := by
  have hempty : f.operator ≠ .isEmpty := by
    rw [hop]
    cases d <;> decide
  rcases (Bool.or_eq_true ..).mp hd with hnumeric | htemporal
  · rw [Domain.orderOperators, if_pos hnumeric] at hop
    rw [admits_numeric hnumeric hactive hempty, admitsNumber_between_iff hop,
      Domain.place?_of_isNumeric hnumeric, Domain.operandPlace?_of_isNumeric hnumeric]
  · rw [Domain.orderOperators, Domain.isNumeric_of_isTemporal htemporal] at hop
    rw [admits_temporal htemporal hactive hempty, admitsTime_dateRange_iff hop,
      Domain.place?_of_isTemporal htemporal, Domain.operandPlace?_of_isTemporal htemporal]

/-- What a filter admits with another operator. -/
def admitsBy (f : Filter) (o : Operator) (d : Domain) (v : Value) : Bool :=
  { f with operator := o }.admits d v

theorem admitsBy_point_iff {o : Operator} (hd : d.isOrdered = true) (ho : o ∈ d.pointOperators)
    (hvalue : isBlank f.value = false) (v : Value) :
    f.admitsBy o d v = true ↔ ∃ x t, d.place? v = some x ∧ d.operandPlace? f.value = some t ∧
      o.admits (compare x t) = true :=
  admits_point_iff (f := { f with operator := o }) hd ho hvalue v

theorem admitsBy_of_places {o : Operator} (hd : d.isOrdered = true) (ho : o ∈ d.pointOperators)
    {v : Value} {x t : Int} (hx : d.place? v = some x) (ht : d.operandPlace? f.value = some t) :
    f.admitsBy o d v = o.admits (compare x t) := by
  have hvalue : isBlank f.value = false := by
    rw [← Bool.not_eq_true]
    intro hblank
    rw [d.operandPlace?_of_isBlank hblank] at ht
    cases ht
  rw [Bool.eq_iff_iff, admitsBy_point_iff hd ho hvalue]
  simp [hx, ht]

theorem admitsBy_within_iff (hd : d.isOrdered = true)
    (hgiven : isBlank f.value = false ∨ isBlank f.secondValue = false) (v : Value) :
    f.admitsBy d.orderOperators.within d v = true ↔
      ∃ x, d.place? v = some x ∧ InBounds d.operandPlace? f x := by
  have hrange : d.orderOperators.within.isRange = true := by cases d <;> rfl
  have hactive : { f with operator := d.orderOperators.within }.isActive = true := by
    have hempty : d.orderOperators.within ≠ .isEmpty := by cases d <;> decide
    simpa [isActive, secondValue, hempty, hrange] using hgiven
  exact admits_within_iff (f := { f with operator := d.orderOperators.within }) hd rfl hactive v

/-- **Filters on ordered domains cohere.** Where value and operand are read, exactly one of the
three operators of an order admits the value, the one that says where it is; `other` is the opposite
of `same`, and on numbers the operators that allow for equality are put together from two. A range
admits what lies within the bounds that are given, in either order. Nothing is admitted where the
value or an operand that is given is not read. -/
theorem ordered_operators_cohere (hd : d.isOrdered = true) (f : Filter) (v : Value) :
    (∀ x t, d.place? v = some x → d.operandPlace? f.value = some t →
      (f.admitsBy d.orderOperators.below d v = true ↔ x < t) ∧
      (f.admitsBy d.orderOperators.same d v = true ↔ x = t) ∧
      (f.admitsBy d.orderOperators.above d v = true ↔ t < x) ∧
      [d.orderOperators.below, d.orderOperators.same, d.orderOperators.above].countP
        (fun o => f.admitsBy o d v) = 1 ∧
      f.admitsBy d.orderOperators.other d v = !f.admitsBy d.orderOperators.same d v ∧
      (d.isNumeric = true →
        f.admitsBy .gte d v = (f.admitsBy .gt d v || f.admitsBy .eq d v) ∧
        f.admitsBy .lte d v = (f.admitsBy .lt d v || f.admitsBy .eq d v))) ∧
    (isBlank f.value = false → d.place? v = none ∨ d.operandPlace? f.value = none →
      ∀ o ∈ d.pointOperators, f.admitsBy o d v = false) ∧
    (isBlank f.value = false ∨ isBlank f.secondValue = false →
      (f.admitsBy d.orderOperators.within d v = true ↔
        ∃ x, d.place? v = some x ∧ InBounds d.operandPlace? f x) ∧
      (d.place? v = none ∨ (∃ raw ∈ [f.value, f.secondValue],
          isBlank raw = false ∧ d.operandPlace? raw = none) →
        f.admitsBy d.orderOperators.within d v = false) ∧
      (isBlank f.value = false → isBlank f.secondValue = false →
        { f with value := f.secondValue, secondValue? := some f.value }.admitsBy
          d.orderOperators.within d v = f.admitsBy d.orderOperators.within d v)) := by
  refine ⟨fun x t hx ht => ?points, fun hvalue hnone o ho => ?unread, fun hgiven =>
    ⟨admitsBy_within_iff hd hgiven v, fun hnone => ?unreadBound, fun hlow hhigh => ?swapped⟩⟩
  case points =>
    have hops := d.orderOperators_mem
    have hadmits := d.orderOperators_admits (compare x t)
    simp only [List.countP_cons, List.countP_nil, admitsBy_of_places hd hops.1 hx ht,
      admitsBy_of_places hd hops.2.1 hx ht, admitsBy_of_places hd hops.2.2.1 hx ht,
      admitsBy_of_places hd hops.2.2.2 hx ht, hadmits, beq_iff_eq]
    refine ⟨Int.compare_eq_lt, Int.compare_eq_eq, Int.compare_eq_gt, ?_, trivial, fun hnumeric => ?_⟩
    · cases compare x t <;> rfl
    · have hnumber {o : Operator} (ho : o ∈ [.lt, .eq, .gt, .neq, .gte, .lte]) :
          f.admitsBy o d v = o.admits (compare x t) := by
        refine admitsBy_of_places hd ?_ hx ht
        rwa [Domain.pointOperators, if_pos hnumeric]
      rw [hnumber (o := .gte) (by decide), hnumber (o := .lte) (by decide),
        hnumber (o := .gt) (by decide), hnumber (o := .lt) (by decide),
        hnumber (o := .eq) (by decide)]
      cases compare x t <;> exact ⟨rfl, rfl⟩
  case unread =>
    rw [← Bool.not_eq_true, admitsBy_point_iff hd ho hvalue]
    rintro ⟨x, t, hx, ht, -⟩
    rcases hnone with hnone | hnone
    · rw [hnone] at hx
      cases hx
    · rw [hnone] at ht
      cases ht
  case unreadBound =>
    rw [← Bool.not_eq_true, admitsBy_within_iff hd hgiven]
    rintro ⟨x, hx, hbounds⟩
    rcases hnone with hnone | ⟨raw, hraw, hblank, hnone⟩
    · rw [hnone] at hx
      cases hx
    · obtain ⟨s, hs⟩ := hbounds.exists_place hraw hblank
      rw [hnone] at hs
      cases hs
  case swapped =>
    rw [Bool.eq_iff_iff, admitsBy_within_iff hd (.inl hhigh), admitsBy_within_iff hd hgiven]
    simp only [inBounds_swapped_iff hlow hhigh]

/-- Dates compare by the day, so that an instant is at the day that it falls on. -/
theorem ordered_operators_cohere_same_day :
    Domain.date.isOrdered = true ∧
    (⟨.is, "2024-01-31", none⟩ : Filter).admits .date (.text "2024-01-31T23:59:00Z") = true ∧
    (⟨.isNot, "2024-01-31", none⟩ : Filter).admits .date (.text "2024-01-31T23:59:00Z") = false := by
  obtain ⟨hpoints, -⟩ := ordered_operators_cohere (d := .date) rfl ⟨.is, "2024-01-31", none⟩
    (.text "2024-01-31T23:59:00Z")
  obtain ⟨-, hsame, -, -, hother, -⟩ :=
    hpoints 19753 19753 (by decide +kernel) (by decide +kernel)
  have his := hsame.mpr rfl
  exact ⟨rfl, his, hother.trans (congrArg not his)⟩

end Filter

end Tabular
