import Mathlib.Data.List.Basic
/-!
# Checks

A check is a result that may be an error. A chain of checks passes when each of them does
(`bind_eq_ok_iff`, `forM_eq_ok_iff`), fails with the error of the first that does not
(`bind_eq_error_iff`), and in a certain way only where one of them does
(`failsWith_bind_eq_false`). Where keys are checked to be distinct, an entry is found by its key
(`find?_key_eq_some`).
-/

namespace Tabular

variable {ε β γ : Type}

/-! ## Checks that pass -/

theorem ok_bind (b : β) (f : β → Except ε γ) : (.ok b : Except ε β) >>= f = f b := rfl

/-- A chain of checks passes when each check passes. -/
theorem bind_eq_ok_iff {x : Except ε β} {f : β → Except ε γ} {c : γ} :
    x >>= f = .ok c ↔ ∃ b, x = .ok b ∧ f b = .ok c := by
  cases x <;> simp [bind, Except.bind]

/-- A check of each item of a list passes when it passes for each. -/
theorem forM_eq_ok_iff {f : β → Except ε Unit} {l : List β} :
    l.forM f = .ok () ↔ ∀ b ∈ l, f b = .ok () := by
  induction l with
  | nil => exact iff_of_true rfl (List.forall_mem_nil _)
  | cons b l ih =>
    rw [List.forM, bind_eq_ok_iff, List.forall_mem_cons, ← ih]
    exact ⟨fun ⟨_, hb, hl⟩ => ⟨hb, hl⟩, fun ⟨hb, hl⟩ => ⟨_, hb, hl⟩⟩

theorem bind_eq_error_iff {x : Except ε β} {f : β → Except ε γ} {err : ε} :
    x >>= f = .error err ↔ x = .error err ∨ ∃ b, x = .ok b ∧ f b = .error err := by
  cases x <;> simp [bind, Except.bind]

/-! ## Failures of a kind -/

section Failures

variable {p : ε → Bool}

/-- Whether a result is an error of a kind. -/
def failsWith (p : ε → Bool) : Except ε β → Bool
  | .ok _ => false
  | .error err => p err

theorem failsWith_bind_eq_false {x : Except ε β} {f : β → Except ε γ} (hx : failsWith p x = false)
    (hf : ∀ b, x = .ok b → failsWith p (f b) = false) : failsWith p (x >>= f) = false := by
  cases x with
  | ok b => exact hf b rfl
  | error err => exact hx

theorem failsWith_forM_eq_false {f : β → Except ε Unit} {l : List β}
    (h : ∀ b ∈ l, failsWith p (f b) = false) : failsWith p (l.forM f) = false := by
  induction l with
  | nil => rfl
  | cons b l ih =>
    obtain ⟨hb, hl⟩ := List.forall_mem_cons.mp h
    exact failsWith_bind_eq_false hb fun _ _ => ih hl

theorem failsWith_foldlM_eq_false {f : γ → β → Except ε γ}
    (h : ∀ c b, failsWith p (f c b) = false) (l : List β) (c : γ) :
    failsWith p (l.foldlM f c) = false := by
  induction l generalizing c with
  | nil => rfl
  | cons b l ih => exact failsWith_bind_eq_false (h c b) fun next _ => ih next

end Failures

/-! ## Distinct keys -/

/-- Among entries with distinct keys, each is found by its key. -/
theorem find?_key_eq_some {κ : Type} [DecidableEq κ] (key : β → κ) {l : List β} {b : β}
    (hnodup : (l.map key).Nodup) (hb : b ∈ l) : l.find? (fun a => key a == key b) = some b := by
  induction l with
  | nil => cases hb
  | cons a l ih =>
    obtain ⟨ha, hnodup⟩ := List.nodup_cons.mp hnodup
    obtain rfl | hb := List.mem_cons.mp hb
    · simp
    · have hne : key a ≠ key b := fun heq => ha (List.mem_map.mpr ⟨b, hb, heq.symm⟩)
      rw [List.find?_cons_of_neg (by simpa using hne), ih hnodup hb]

end Tabular
