import Mathlib.Tactic

/-! While loops whose body may fail, with a bound on the number of rounds. -/
namespace WhileLoop

variable {σ ε : Type*} (condition : σ → Bool) (body : σ → Except ε σ)

/-- `none` when the rounds do not suffice. -/
def run : ℕ → σ → Except ε (Option σ)
  | 0, _ => .ok none
  | rounds + 1, state =>
    if condition state then body state >>= run rounds
    else .ok (some state)

variable {condition body}

theorem run_exit {state : σ} (h : condition state = false) (rounds : ℕ) :
    run condition body (rounds + 1) state = .ok (some state) := by
  unfold run
  rw [h]
  rfl

theorem run_round {state next : σ} (h : condition state = true) (hbody : body state = .ok next)
    (rounds : ℕ) : run condition body (rounds + 1) state = run condition body rounds next := by
  rw [run, if_pos h, hbody]
  rfl

/-- A loop that keeps an invariant and lowers a variant ends outside its condition. -/
theorem run_ends {invariant : σ → Prop} {variant : σ → ℕ}
    (hround : ∀ state, invariant state → condition state = true →
      ∃ next, body state = .ok next ∧ invariant next ∧ variant next < variant state)
    {state : σ} (hstate : invariant state) :
    ∃ last, invariant last ∧ condition last = false ∧
      ∀ rounds, variant state < rounds → run condition body rounds state = .ok (some last) := by
  induction hsize : variant state using Nat.strong_induction_on generalizing state with
  | _ size ih =>
    cases hcondition : condition state with
    | false =>
      refine ⟨state, hstate, hcondition, fun rounds hrounds => ?_⟩
      obtain ⟨more, rfl⟩ := Nat.exists_eq_succ_of_ne_zero (Nat.ne_zero_of_lt hrounds)
      exact run_exit hcondition more
    | true =>
      obtain ⟨next, hbody, hnext, hlower⟩ := hround state hstate hcondition
      obtain ⟨last, hlast, hexit, hruns⟩ := ih (variant next) (hsize ▸ hlower) hnext rfl
      refine ⟨last, hlast, hexit, fun rounds hrounds => ?_⟩
      obtain ⟨more, rfl⟩ := Nat.exists_eq_succ_of_ne_zero (Nat.ne_zero_of_lt hrounds)
      rw [run_round hcondition hbody]
      exact hruns more (by omega)

end WhileLoop
