import Tabular.Proofs.Group.Nested
import Tabular.Proofs.View.Valid
import Tabular.View.Engine
/-!
# Engines keep their view

A command changes an engine by several assignments, but only after every check has passed. So it
comes to one of two things (`Engine.step_eq`): the engine of the state that the command asks for,
made anew over the records, or the engine as it was, with an error.

An engine that is made is consistent (`Engine.Consistent`): it has the view of its state and its
records, its state is valid, and its page is the page of its view. A command that fails leaves this
alone and a command that succeeds makes an engine, so an engine is consistent after any commands
(`Engine.run_keeps_view`). The commands that are not checked against the schema keep a valid state
valid, and a valid state has a view; these commands never fail.
-/

namespace Tabular

variable {α β γ : Type}

/-! ## Assignments and checks -/

namespace Change

/-- A check that fails ends the change where it is. -/
theorem run_check_bind (x : Except ViewError β) (f : β → Change α γ) (e : Engine α) :
    ((liftM x : Change α β) >>= f).run.run e =
      match x with
      | .ok b => (f b).run.run e
      | .error err => (.error err, e) := by
  cases x <;> rfl

theorem run_get_bind (f : Engine α → Change α γ) (e : Engine α) :
    ((get : Change α (Engine α)) >>= f).run.run e = (f e).run.run e := rfl

end Change

/-! ## Commands in one piece -/

namespace Command

/-- The records after a command. -/
def recordsFrom (records : List α) : Command α → List α
  | .replaceRecords replaced => replaced
  | _ => records

/-- Whether a command is carried out without a check against the schema. -/
def isUnchecked : Command α → Bool
  | .clearFilters | .toggleGroup _ | .foldGroup _ _ | .expandAll | .collapseAll | .setPage _
  | .replaceRecords _ => true
  | _ => false

end Command

namespace Engine

open Change

variable {source : Source α} {records : List α} {state : ViewState} {e after : Engine α}
  {command : Command α}

theorem make_eq (source : Source α) (records : List α) (state : ViewState) :
    make source records state =
      match View.compute source state records with
      | .ok view => .ok { source, records, state := state.withPage view.pageInfo.page, view }
      | .error err => .error err := by
  rw [make]
  cases View.compute source state records <;> rfl

theorem run_commit (e : Engine α) (next : ViewState) :
    (commit next).run.run e =
      match make e.source e.records next with
      | .ok after => (.ok (), after)
      | .error err => (.error err, e) := by
  rw [commit, run_get_bind, run_check_bind, make_eq]
  cases View.compute e.source next e.records <;> rfl

/-- The engine that a command asks for. -/
def next (e : Engine α) (command : Command α) : Except ViewError (Engine α) := do
  make e.source (command.recordsFrom e.records) (← e.requested command)

theorem run_perform (e : Engine α) (command : Command α) :
    (perform command).run.run e =
      match e.next command with
      | .ok after => (.ok (), after)
      | .error err => (.error err, e) := by
  rw [perform, run_get_bind, run_check_bind, next]
  cases hrequested : e.requested command with
  | error err => rfl
  | ok next =>
    cases command with
    | replaceRecords replaced =>
      have hnext : next = e.state := (Except.ok.inj hrequested).symm
      subst hnext
      change (liftM _ >>= _ : Change α Unit).run.run e =
        match make e.source replaced e.state with
        | .ok after => (.ok (), after)
        | .error err => (.error err, e)
      rw [run_check_bind, make_eq]
      cases View.compute e.source e.state replaced <;> rfl
    | _ => exact run_commit e next

/-- **A command makes the engine it asks for, or leaves the engine as it is.** -/
theorem step_eq (e : Engine α) (command : Command α) :
    e.step command =
      match e.next command with
      | .ok after => (after, none)
      | .error err => (e, some err) := by
  rw [step, run_perform]
  cases e.next command <;> rfl

theorem next_eq_ok_iff :
    e.next command = .ok after ↔
      ∃ state, e.requested command = .ok state ∧
        make e.source (command.recordsFrom e.records) state = .ok after :=
  bind_eq_ok_iff

/-! ## Consistency -/

/-- An engine whose view is the view of its state and its records. -/
structure Consistent (e : Engine α) : Prop where
  view_eq : View.compute e.source e.state e.records = .ok e.view
  valid : e.state.validate e.source.schema = .ok ()
  /-- A strict grouping begins the sort. -/
  leading : e.state.groupOrder = .strict → e.state.groupFields <+: e.state.sort.fields
  page_eq : e.state.page.index = e.view.pageInfo.page
  one_le_page : 1 ≤ e.state.page.index
  page_le_total : e.state.page.index ≤ e.view.pageInfo.totalPages

theorem make_eq_ok_iff :
    make source records state = .ok e ↔
      ∃ view, View.compute source state records = .ok view ∧
        ⟨source, records, state.withPage view.pageInfo.page, view⟩ = e := by
  rw [make_eq]
  cases View.compute source state records <;> simp

/-- **An engine that is made is consistent.** -/
theorem consistent_make (h : make source records state = .ok e) : e.Consistent := by
  obtain ⟨view, hview, rfl⟩ := make_eq_ok_iff.mp h
  obtain ⟨hvalid, -⟩ := View.compute_eq_ok_iff.mp hview
  obtain ⟨hpos, hle⟩ := View.page_mem_of_compute hview
  have hpage : (state.withPage view.pageInfo.page).page.index = view.pageInfo.page :=
    Nat.max_eq_left hpos
  exact
    { view_eq := View.compute_withPage hview
      valid := (ViewState.validate_withPage ..).trans hvalid
      leading := ViewState.prefix_of_validate hvalid
      page_eq := hpage
      one_le_page := hpos.trans_eq hpage.symm
      page_le_total := hpage.trans_le hle }

theorem source_make (h : make source records state = .ok e) : e.source = source := by
  obtain ⟨view, -, rfl⟩ := make_eq_ok_iff.mp h
  rfl

theorem records_make (h : make source records state = .ok e) : e.records = records := by
  obtain ⟨view, -, rfl⟩ := make_eq_ok_iff.mp h
  rfl

/-- An engine that is made has the state that it is made for, at the page of its view. -/
theorem state_make (h : make source records state = .ok e) :
    e.state = state.withPage e.view.pageInfo.page := by
  obtain ⟨view, -, rfl⟩ := make_eq_ok_iff.mp h
  rfl

theorem exists_make_eq_ok (records : List α) (h : state.validate source.schema = .ok ()) :
    ∃ e, make source records state = .ok e := by
  obtain ⟨view, hview⟩ := View.exists_compute_eq_ok records h
  exact ⟨_, make_eq_ok_iff.mpr ⟨view, hview, rfl⟩⟩

/-- A command that skips the checks asks for a valid state. -/
theorem exists_requested_eq_ok (h : command.isUnchecked)
    (hvalid : e.state.validate e.source.schema = .ok ()) :
    ∃ state, e.requested command = .ok state ∧ state.validate e.source.schema = .ok () := by
  cases command with
  | clearFilters => exact ⟨_, rfl, ViewState.validate_withoutFilters hvalid⟩
  | toggleGroup path => exact ⟨_, rfl, (ViewState.validate_withCollapsed ..).trans hvalid⟩
  | foldGroup path folded => exact ⟨_, rfl, (ViewState.validate_withCollapsed ..).trans hvalid⟩
  | expandAll => exact ⟨_, rfl, (ViewState.validate_withCollapsed ..).trans hvalid⟩
  | collapseAll => exact ⟨_, rfl, (ViewState.validate_withCollapsed ..).trans hvalid⟩
  | setPage index => exact ⟨_, rfl, (ViewState.validate_withPage ..).trans hvalid⟩
  | replaceRecords replaced => exact ⟨_, rfl, hvalid⟩
  | _ => cases h

/-- A command that skips the checks does not fail. -/
theorem step_snd_of_isUnchecked (he : e.Consistent) (h : command.isUnchecked) :
    (e.step command).2 = none := by
  obtain ⟨state, hrequested, hvalid⟩ := exists_requested_eq_ok h he.valid
  obtain ⟨after, hmake⟩ := exists_make_eq_ok (command.recordsFrom e.records) hvalid
  rw [step_eq, next_eq_ok_iff.mpr ⟨state, hrequested, hmake⟩]

/-- A command that fails changes nothing. -/
theorem step_fst_of_error {err : ViewError} (h : (e.step command).2 = some err) :
    (e.step command).1 = e := by
  rw [step_eq] at h ⊢
  cases hnext : e.next command with
  | ok after => simp [hnext] at h
  | error err => rfl

/-! ## Steps and runs -/

theorem step_consistent (he : e.Consistent) (command : Command α) :
    (e.step command).1.Consistent := by
  rw [step_eq]
  cases hnext : e.next command with
  | ok after =>
    obtain ⟨next, -, hmake⟩ := next_eq_ok_iff.mp hnext
    exact consistent_make hmake
  | error err => exact he

theorem step_source (e : Engine α) (command : Command α) :
    (e.step command).1.source = e.source := by
  rw [step_eq]
  cases hnext : e.next command with
  | ok after =>
    obtain ⟨next, -, hmake⟩ := next_eq_ok_iff.mp hnext
    exact source_make hmake
  | error err => rfl

/-- Records are replaced by the command for it, which does not fail, and by no other. -/
theorem step_records (he : e.Consistent) (command : Command α) :
    (e.step command).1.records = command.recordsFrom e.records := by
  rw [step_eq]
  cases hnext : e.next command with
  | ok after =>
    obtain ⟨next, -, hmake⟩ := next_eq_ok_iff.mp hnext
    exact records_make hmake
  | error err =>
    cases command with
    | replaceRecords replaced =>
      have hstep : (e.step (.replaceRecords replaced)).2 = none := step_snd_of_isUnchecked he rfl
      simp [step_eq, hnext] at hstep
    | _ => rfl

theorem run_cons (e : Engine α) (command : Command α) (commands : List (Command α)) :
    e.run (command :: commands) = (e.step command).1.run commands := rfl

theorem consistent_run (he : e.Consistent) (commands : List (Command α)) :
    (e.run commands).Consistent := by
  induction commands generalizing e with
  | nil => exact he
  | cons command commands ih => exact ih (step_consistent he command)

theorem source_run (e : Engine α) (commands : List (Command α)) :
    (e.run commands).source = e.source := by
  induction commands generalizing e with
  | nil => rfl
  | cons command commands ih => rw [run_cons, ih, step_source]

/-- The records after commands are those last put in place. -/
theorem records_run (he : e.Consistent) (commands : List (Command α)) :
    (e.run commands).records = commands.foldl Command.recordsFrom e.records := by
  induction commands generalizing e with
  | nil => rfl
  | cons command commands ih =>
    rw [run_cons, ih (step_consistent he command), step_records he, List.foldl_cons]

/-- **An engine stays consistent** under any commands, whichever of them fail: it shows the view of
the records last put in place, a command that fails changes nothing, and a command that is not
checked against the schema does not fail. -/
theorem run_keeps_view (h : make source records state = .ok e) (commands : List (Command α)) :
    (e.run commands).Consistent ∧
    (e.run commands).source = source ∧
    (e.run commands).records = commands.foldl Command.recordsFrom records ∧
    ∀ command,
      (∀ err, ((e.run commands).step command).2 = some err →
        ((e.run commands).step command).1 = e.run commands) ∧
      (command.isUnchecked → ((e.run commands).step command).2 = none) := by
  have he := consistent_run (consistent_make h) commands
  refine ⟨he, ?_, ?_, fun command => ⟨?_, ?_⟩⟩
  · rw [source_run, source_make h]
  · rw [records_run (consistent_make h), records_make h]
  · exact fun err herr => step_fst_of_error herr
  · exact fun hunchecked => step_snd_of_isUnchecked he hunchecked

/-- A page that does not exist is asked for, then a grouping by an unknown field, and at last other
records. -/
theorem run_keeps_view_flagPairs :
    ∃ e, make flagPairs [(true, false), (false, true)] {} = .ok e ∧
      (e.run [.setPage 7, .setGroupFields ["c"], .replaceRecords [(true, true)]]).Consistent ∧
      (e.run [.setPage 7, .setGroupFields ["c"], .replaceRecords [(true, true)]]).records =
        [(true, true)] := by
  refine ⟨_, rfl, ?_⟩
  obtain ⟨hconsistent, -, hrecords, -⟩ := run_keeps_view
    (rfl : make flagPairs [(true, false), (false, true)] {} = .ok _)
    [.setPage 7, .setGroupFields ["c"], .replaceRecords [(true, true)]]
  exact ⟨hconsistent, hrecords⟩

end Engine

end Tabular
