import Mathlib.Data.Option.Basic
import Mathlib.Tactic

/-! Runs of a system given by a step function. A schedule is a list of labels; a label
that is not enabled ends the run. A guard is a condition on a label and the state before
its step. -/
namespace Execution

variable {σ α : Type*}

def run (step : σ → α → Option σ) : σ → List α → Option σ
  | s, [] => some s
  | s, a :: schedule => (step s a).bind fun s' => run step s' schedule

/-- Every label of the schedule meets the guard in the state where it is taken. -/
def Guarded (step : σ → α → Option σ) (guard : σ → α → Prop) : σ → List α → Prop
  | _, [] => True
  | s, a :: schedule => guard s a ∧
      match step s a with
      | none => True
      | some s' => Guarded step guard s' schedule

instance decidableGuarded (step : σ → α → Option σ) (guard : σ → α → Prop)
    [∀ s a, Decidable (guard s a)] : (s : σ) → (schedule : List α) →
      Decidable (Guarded step guard s schedule)
  | _, [] => isTrue trivial
  | s, a :: schedule =>
      match h : step s a with
      | none => decidable_of_iff (guard s a) (by simp [Guarded, h])
      | some s' =>
        have := decidableGuarded step guard s' schedule
        decidable_of_iff (guard s a ∧ Guarded step guard s' schedule) (by simp [Guarded, h])

variable {step : σ → α → Option σ}

theorem run_append (s : σ) (first second : List α) :
    run step s (first ++ second) = (run step s first).bind fun s' => run step s' second := by
  induction first generalizing s with
  | nil => rfl
  | cons a first ih =>
    simp only [List.cons_append, run]
    cases h : step s a with
    | none => rfl
    | some s' => exact ih s'

/-- What every guarded step preserves holds in every state a guarded run reaches. -/
theorem invariant_of_guarded {guard : σ → α → Prop} {inv : σ → Prop}
    (hstep : ∀ s a s', inv s → guard s a → step s a = some s' → inv s')
    {s s' : σ} {schedule : List α} (hinit : inv s) (hguard : Guarded step guard s schedule)
    (hrun : run step s schedule = some s') : inv s' := by
  induction schedule generalizing s with
  | nil =>
    cases hrun
    exact hinit
  | cons a schedule ih =>
    simp only [run] at hrun
    simp only [Guarded] at hguard
    cases hnext : step s a with
    | none => rw [hnext] at hrun; cases hrun
    | some next =>
      rw [hnext] at hrun hguard
      exact ih (hstep s a next hinit hguard.1 hnext) hguard.2 hrun

/-- A condition that always holds guards every schedule. -/
theorem Guarded.of_forall {guard : σ → α → Prop} (h : ∀ s a, guard s a) (s : σ)
    (schedule : List α) : Guarded step guard s schedule := by
  induction schedule generalizing s with
  | nil => trivial
  | cons a schedule ih =>
    refine ⟨h s a, ?_⟩
    cases step s a with
    | none => trivial
    | some next => exact ih next

/-- What holds of every label of the schedule may be part of the guard. -/
theorem Guarded.and_label {guard : σ → α → Prop} {property : α → Prop} {s : σ} {schedule : List α}
    (h : Guarded step guard s schedule) (hlabels : ∀ a ∈ schedule, property a) :
    Guarded step (fun s a => property a ∧ guard s a) s schedule := by
  induction schedule generalizing s with
  | nil => trivial
  | cons a schedule ih =>
    simp only [Guarded] at h ⊢
    refine ⟨⟨hlabels a List.mem_cons_self, h.1⟩, ?_⟩
    cases hnext : step s a with
    | none => trivial
    | some next =>
      rw [hnext] at h
      exact ih h.2 fun b hb => hlabels b (List.mem_cons_of_mem a hb)

/-- What every step preserves holds in every state a run reaches. -/
theorem invariant_of_run {inv : σ → Prop}
    (hstep : ∀ s a s', inv s → step s a = some s' → inv s')
    {s s' : σ} {schedule : List α} (hinit : inv s) (hrun : run step s schedule = some s') :
    inv s' := by
  induction schedule generalizing s with
  | nil =>
    cases hrun
    exact hinit
  | cons a schedule ih =>
    simp only [run] at hrun
    cases hnext : step s a with
    | none => rw [hnext] at hrun; cases hrun
    | some next =>
      rw [hnext] at hrun
      exact ih (hstep s a next hinit hnext) hrun

end Execution
