import Tabular.Proofs.Filter.Expression
import Tabular.Proofs.View.Consistent
import Tabular.Proofs.View.Filtered
/-!
# Typed filters

What typed text means as a filter depends on the field's domain and on the filter that the field has
(`TextMeans`): an expression on a numeric field, or else the text as it is under an operator with
one operand, which is the one in force or the first of the domain.

Typed text is never refused for its operator, whatever was done before. The filters of a valid state
have operators of their fields' domains (`FilterSet.supports_of_find?`), every state of an engine is
valid, and an expression has an operator of numbers (`Filter.Reads.supports`). So the filter that
the text means passes its check, and it is in place after the command (`Engine.run_filterText`).
-/

namespace Tabular

/-! ## Operators that fit their fields -/

/-- The operators of numbers are those of every numeric domain. -/
theorem Operator.supports_of_isNumeric {op : Operator} {d : Domain} (hd : d.isNumeric = true)
    (h : op.supports .number = true) : op.supports d = true := by
  have hclass : d.comparisonClass = .number := by simpa [Domain.isNumeric] using hd
  rw [supports, forDomain, hclass]
  exact h

namespace FilterSet

variable {s : FilterSet} {schema : Schema} {field : String} {domain : Domain} {op : Operator}

/-- On a field of a schema, the check of a filter is that its operator belongs to the domain. -/
theorem checkFilter_eq_ok_iff (hdomain : schema.domain? field = some domain) :
    checkFilter schema field op = .ok () ↔ op.supports domain = true := by
  obtain ⟨f, hf, rfl⟩ := Option.map_eq_some_iff.mp hdomain
  rw [checkFilter, Schema.require_eq_ok_iff.mpr hf, ok_bind]
  split <;> simp_all [pure, Except.pure, throw, throwThe, MonadExceptOf.throw]

/-- The filters of a valid set have operators of their fields' domains. -/
theorem supports_of_find? {f : Filter} (h : s.validate schema = .ok ())
    (hfind : s.find? field = some f) (hdomain : schema.domain? field = some domain) :
    f.operator.supports domain = true :=
  (checkFilter_eq_ok_iff hdomain).mp
    (validate_eq_ok_iff.mp h _ (SortedMap.find?_eq_some_iff.mp hfind))

end FilterSet

/-! ## What typed text means -/

namespace Filter

open Text

/-- What a text means as an expression: a range, or else a comparison, white space around it
aside. -/
inductive Reads (raw : String) : Filter → Prop
  | range {p : RangeParts} (hp : p.WellFormed) (htext : p.text = raw.toList) :
      Reads raw (ofRange p.low p.high)
  | comparison {f : Filter} (hrange : ¬ ∃ p : RangeParts, p.WellFormed ∧ p.text = raw.toList)
      (h : IsComparison (trimList raw.toList) f) : Reads raw f

variable {raw : String} {f : Filter} {domain : Domain}

theorem reads_iff : Reads raw f ↔ ofExpression? raw = some f := by
  constructor
  · rintro (⟨hp, htext⟩ | ⟨hrange, hcomparison⟩)
    · exact ofExpression?_of_range hp htext
    · exact (ofExpression?_of_no_range hrange f).mpr hcomparison
  · intro h
    by_cases hrange : ∃ p : RangeParts, p.WellFormed ∧ p.text = raw.toList
    · obtain ⟨p, hp, htext⟩ := hrange
      rw [ofExpression?_of_range hp htext] at h
      obtain rfl := Option.some.inj h
      exact .range hp htext
    · exact .comparison hrange ((ofExpression?_of_no_range hrange f).mp h)

/-- An expression has an operator of every numeric domain. -/
theorem Reads.supports (h : Reads raw f) (hd : domain.isNumeric = true) :
    f.operator.supports domain = true := by
  refine Operator.supports_of_isNumeric hd ?_
  cases h with
  | range hp htext => rfl
  | comparison hrange hcomparison => exact hcomparison.sound.2.1

theorem ofInput_of_reads (hd : domain.isNumeric = true) (h : Reads raw f) (op : Operator) :
    ofInput raw domain op = f := by
  rw [ofInput, if_pos hd, reads_iff.mp h]
  rfl

/-- Text that is no expression, or not on a numeric field, is kept as it is. -/
theorem ofInput_of_literal (h : domain.isNumeric = true → ¬ ∃ f, Reads raw f) (op : Operator) :
    ofInput raw domain op = ⟨op, raw, none⟩ := by
  rw [ofInput]
  split
  · next hd =>
    have hnone : ofExpression? raw = none :=
      Option.eq_none_iff_forall_ne_some.mpr fun f hf => h hd ⟨f, reads_iff.mpr hf⟩
    rw [hnone]
    rfl
  · rfl

end Filter

/-- What typed text means as a filter of a field of a domain, given the filter that the field
has. -/
inductive TextMeans (before : Option Filter) (raw : String) (domain : Domain) : Filter → Prop
  /-- An expression of numbers. -/
  | expression {f : Filter} (numeric : domain.isNumeric = true) (reads : Filter.Reads raw f) :
      TextMeans before raw domain f
  /-- The text as it is, under the operator in force. -/
  | kept {current : Filter} (literal : domain.isNumeric = true → ¬ ∃ f, Filter.Reads raw f)
      (hbefore : before = some current) (hrange : current.operator.isRange = false) :
      TextMeans before raw domain ⟨current.operator, raw, none⟩
  /-- The text as it is, under the first operator of the domain. -/
  | fresh (literal : domain.isNumeric = true → ¬ ∃ f, Filter.Reads raw f)
      (hbefore : ∀ current, before = some current → current.operator.isRange = true) :
      TextMeans before raw domain ⟨.defaultFor domain, raw, none⟩

section Text

variable {s : ViewState} {schema : Schema} {field raw : String} {domain : Domain} {f : Filter}

/-- **The filter that is set for a text is the one that the text means.** -/
theorem ViewState.textMeans_filterOfText (s : ViewState) (field raw : String) (domain : Domain) :
    TextMeans (s.filters.find? field) raw domain (s.filterOfText field raw domain) := by
  rw [filterOfText]
  by_cases hexpression : domain.isNumeric = true ∧ ∃ f, Filter.Reads raw f
  · obtain ⟨hd, f, hf⟩ := hexpression
    rw [Filter.ofInput_of_reads hd hf]
    exact .expression hd hf
  · have hliteral := not_and.mp hexpression
    rw [Filter.ofInput_of_literal hliteral]
    cases hbefore : s.filters.find? field with
    | none => exact .fresh hliteral fun current hcurrent => nomatch hcurrent
    | some current =>
      cases hrange : current.operator.isRange with
      | true =>
        rw [Option.map_some, Option.filter_some_neg (by simp [hrange])]
        exact .fresh hliteral fun _ hcurrent => Option.some.inj hcurrent ▸ hrange
      | false =>
        rw [Option.map_some, Option.filter_some_pos (by simp [hrange])]
        exact .kept hliteral rfl hrange

/-- What a text means has an operator of the domain, if the filter before has one. -/
theorem TextMeans.supports {before : Option Filter} (h : TextMeans before raw domain f)
    (hbefore : ∀ current, before = some current → current.operator.supports domain = true) :
    f.operator.supports domain = true := by
  cases h with
  | expression numeric reads => exact reads.supports numeric
  | kept literal hcurrent hrange =>
    have hsupports := hbefore _ hcurrent
    exact hsupports
  | fresh literal hrange => exact Operator.supports_defaultFor domain

/-- In a valid state, a text means a filter with an operator of the field's domain. -/
theorem ViewState.supports_filterOfText (h : s.validate schema = .ok ())
    (hdomain : schema.domain? field = some domain) (raw : String) :
    (s.filterOfText field raw domain).operator.supports domain = true := by
  obtain ⟨-, hfilters, -⟩ := validate_eq_ok_iff.mp h
  exact (s.textMeans_filterOfText field raw domain).supports fun _ hcurrent =>
    FilterSet.supports_of_find? hfilters hcurrent hdomain

theorem ViewState.checkFilter_filterOfText (h : s.validate schema = .ok ())
    (hdomain : schema.domain? field = some domain) (raw : String) :
    FilterSet.checkFilter schema field (s.filterOfText field raw domain).operator = .ok () :=
  (FilterSet.checkFilter_eq_ok_iff hdomain).mpr (supports_filterOfText h hdomain raw)

end Text

/-! ## Setting filters from text -/

namespace Engine

variable {α : Type} {source : Source α} {records : List α} {state : ViewState} {e : Engine α}
  {field : String} {domain : Domain}

/-- An engine that is made at the first page is at the first page. -/
theorem page_make (h : make source records state = .ok e) (hpage : state.page.index = 1) :
    e.state.page.index = 1 ∧ e.view.pageInfo.page = 1 := by
  obtain ⟨view, hview, rfl⟩ := make_eq_ok_iff.mp h
  have hfirst := View.page_eq_one_of_compute hview hpage
  refine ⟨?_, hfirst⟩
  rw [hfirst]
  rfl

/-- The state that a typed filter asks for on a field of the schema. -/
theorem requested_filterText (he : e.Consistent)
    (hdomain : e.source.schema.domain? field = some domain) (raw : String) :
    e.requested (.filterText field raw) =
      .ok ({ e.state with
        filters := e.state.filters.insert field (e.state.filterOfText field raw domain)
          }.withPage 1) := by
  have hcheck := ViewState.checkFilter_filterOfText he.valid hdomain raw
  obtain ⟨f, hf, rfl⟩ := Option.map_eq_some_iff.mp hdomain
  rw [requested, Schema.require_eq_ok_iff.mpr hf, ok_bind, ViewState.withFilter, hcheck]
  rfl

/-- A typed filter on a field that the schema does not have is refused. -/
theorem step_filterText_of_not_contains (h : e.source.schema.contains field = false)
    (raw : String) :
    e.step (.filterText field raw) = (e, some (.unknownField field .filter)) := by
  have hrequire : e.source.schema.require field .filter = .error (.unknownField field .filter) :=
    Schema.require_eq_error_iff.mpr ⟨h, rfl⟩
  rw [step_eq, next, requested, hrequire]
  rfl

/-- **A typed filter is set on a field of the schema.** -/
theorem step_filterText (he : e.Consistent)
    (hdomain : e.source.schema.domain? field = some domain) (raw : String) :
    ∃ after, e.step (.filterText field raw) = (after, none) ∧
      after.state.filters =
        e.state.filters.insert field (e.state.filterOfText field raw domain) ∧
      after.state.page.index = 1 ∧ after.view.pageInfo.page = 1 := by
  obtain ⟨-, hfilters, -⟩ := ViewState.validate_eq_ok_iff.mp he.valid
  have hcheck := ViewState.checkFilter_filterOfText he.valid hdomain raw
  have hvalid := ViewState.validate_otherFilters he.valid
    (FilterSet.validate_insert hfilters hcheck)
  obtain ⟨after, hmake⟩ := exists_make_eq_ok e.records
    ((ViewState.validate_withPage _ 1 _).trans hvalid)
  refine ⟨after, ?step, ?filters, page_make hmake rfl⟩
  case step => rw [step_eq, next_eq_ok_iff.mpr ⟨_, requested_filterText he hdomain raw, hmake⟩]
  case filters =>
    rw [state_make hmake]
    rfl

/-- **Typed text is never refused for its operator.** After any commands, a typed filter fails
exactly on a field that the schema does not have, with the error that says so. On any other field
the filter that the text means is in place: its operator belongs to the domain of the field, the
other fields keep their filters, and the page is the first. -/
theorem run_filterText (h : make source records state = .ok e) (commands : List (Command α))
    (field raw : String) :
    (∀ err, ((e.run commands).step (.filterText field raw)).2 = some err ↔
      source.schema.contains field = false ∧ err = .unknownField field .filter) ∧
    ∀ domain, source.schema.domain? field = some domain →
      ∃ after f, (e.run commands).step (.filterText field raw) = (after, none) ∧
        after.state.filters.find? field = some f ∧
        TextMeans ((e.run commands).state.filters.find? field) raw domain f ∧
        f.operator.supports domain = true ∧
        (∀ other, other ≠ field →
          after.state.filters.find? other = (e.run commands).state.filters.find? other) ∧
        after.state.page.index = 1 ∧ after.view.pageInfo.page = 1 := by
  have hconsistent := consistent_run (consistent_make h) commands
  have hsource : (e.run commands).source = source := by rw [source_run, source_make h]
  generalize e.run commands = now at hconsistent hsource ⊢
  subst hsource
  constructor
  · intro err
    cases hcontains : now.source.schema.contains field with
    | false => simp [step_filterText_of_not_contains hcontains, eq_comm]
    | true =>
      obtain ⟨f, hf⟩ := Option.isSome_iff_exists.mp hcontains
      have hdomain : now.source.schema.domain? field = some f.domain := by
        rw [Schema.domain?, hf, Option.map_some]
      obtain ⟨after, hstep, -⟩ := step_filterText hconsistent hdomain raw
      simp [hstep]
  · intro domain hdomain
    obtain ⟨after, hstep, hset, hpage⟩ := step_filterText hconsistent hdomain raw
    refine ⟨after, _, hstep, ?found, now.state.textMeans_filterOfText field raw domain,
      ViewState.supports_filterOfText hconsistent.valid hdomain raw, ?others, hpage⟩
    case found => rw [hset, FilterSet.find?_insert, if_pos rfl]
    case others =>
      intro other hother
      rw [hset, FilterSet.find?_insert, if_neg hother.symm]

/-- Texts, read as amounts of a currency. -/
def amounts : Source String where
  schema := ⟨[⟨"amount", .currency, none⟩]⟩
  value r _ := .text r
  transliterate := id

/-- After a range, text that is no expression is kept under the first operator of the domain. -/
theorem run_filterText_amounts :
    ∃ e, make amounts ["5", "30"] {} = .ok e ∧
      ∃ after, (e.run [.setFilter "amount" ⟨.between, "20", some "50"⟩]).step
          (.filterText "amount" "about 20") = (after, none) ∧
        after.state.filters.find? "amount" = some ⟨.eq, "about 20", none⟩ ∧
        after.state.page.index = 1 := by
  refine ⟨_, rfl, ?_⟩
  obtain ⟨-, hset⟩ := run_filterText (rfl : make amounts ["5", "30"] {} = .ok _)
    [.setFilter "amount" ⟨.between, "20", some "50"⟩] "amount" "about 20"
  obtain ⟨after, f, hstep, hfind, hmeans, -, -, hpage, -⟩ := hset .currency rfl
  replace hmeans : TextMeans (some ⟨.between, "20", some "50"⟩) "about 20" .currency f := hmeans
  have hliteral : Filter.ofExpression? "about 20" = none := by decide +kernel
  refine ⟨after, hstep, hfind.trans ?_, hpage⟩
  cases hmeans with
  | expression numeric reads => cases hliteral.symm.trans (Filter.reads_iff.mp reads)
  | kept literal hbefore hrange => cases hbefore; cases hrange
  | fresh literal hrange => rfl

end Engine

end Tabular
