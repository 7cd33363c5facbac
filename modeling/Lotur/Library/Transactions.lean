import Mathlib.Tactic

/-! Procedures over a state that keep what they have written when they throw, and transactions that
do not. -/

/-- What is written before a throw stays written. -/
structure Procedure (σ ε α : Type) where
  run : σ → Except ε α × σ

namespace Procedure

variable {σ ε α β : Type}

def bind (p : Procedure σ ε α) (f : α → Procedure σ ε β) : Procedure σ ε β where
  run s := match p.run s with
    | (.ok value, s') => (f value).run s'
    | (.error error, s') => (.error error, s')

instance : Monad (Procedure σ ε) where
  pure value := ⟨fun s => (.ok value, s)⟩
  bind := bind

def read : Procedure σ ε σ := ⟨fun s => (.ok s, s)⟩

def write (f : σ → σ) : Procedure σ ε Unit := ⟨fun s => (.ok (), f s)⟩

def throw (error : ε) : Procedure σ ε α := ⟨fun s => (.error error, s)⟩

/-- The error is a result. -/
def attempt (p : Procedure σ ε α) : Procedure σ ε (Except ε α) :=
  ⟨fun s => (.ok (p.run s).1, (p.run s).2)⟩

variable {p : Procedure σ ε α} {f : α → Procedure σ ε β} {s s' : σ}

@[simp] theorem run_pure (value : α) (s : σ) :
    (pure value : Procedure σ ε α).run s = (.ok value, s) := rfl

@[simp] theorem run_throw (error : ε) (s : σ) :
    (throw error : Procedure σ ε α).run s = (.error error, s) := rfl

@[simp] theorem run_read_bind (f : σ → Procedure σ ε β) (s : σ) :
    (read >>= f).run s = (f s).run s := rfl

@[simp] theorem run_write_bind (g : σ → σ) (f : Unit → Procedure σ ε β) (s : σ) :
    (write g >>= f).run s = (f ()).run (g s) := rfl

theorem run_bind_ok {value : α} (h : p.run s = (.ok value, s')) :
    (p >>= f).run s = (f value).run s' := by
  change (bind p f).run s = _
  simp only [bind, h]

theorem run_bind_error {error : ε} (h : p.run s = (.error error, s')) :
    (p >>= f).run s = (.error error, s') := by
  change (bind p f).run s = _
  simp only [bind, h]

/-- A procedure that returns has returned at each of its steps. -/
theorem of_run_bind {value : β} (h : (p >>= f).run s = (.ok value, s')) :
    ∃ first middle, p.run s = (.ok first, middle) ∧ (f first).run middle = (.ok value, s') := by
  cases hp : p.run s with
  | mk result middle =>
    cases result with
    | ok first => exact ⟨first, middle, rfl, (run_bind_ok hp).symm.trans h⟩
    | error error =>
      have hthrown := (run_bind_error hp).symm.trans h
      cases hthrown

/-- A throw leaves the state. -/
def Atomic (p : Procedure σ ε α) : Prop := ∀ s error s', p.run s = (.error error, s') → s' = s

/-- What a transaction has written, and whether a statement of it has failed. -/
structure Client (σ : Type) where
  state : σ
  aborted : Bool

/-- A statement runs whole or fails; after a failure every statement is refused with `refusal`. -/
def statement (refusal : ε) (effect : σ → Except ε (α × σ)) : Procedure (Client σ) ε α where
  run client := if client.aborted then (.error refusal, client)
    else match effect client.state with
    | .ok (value, state) => (.ok value, ⟨state, false⟩)
    | .error error => (.error error, ⟨client.state, true⟩)

/-- The work is committed when it returns, but a commit after a failed statement rolls back. -/
def transaction (work : Procedure (Client σ) ε α) : Procedure σ ε α where
  run s := match work.run ⟨s, false⟩ with
    | (.ok value, client) => (.ok value, if client.aborted then s else client.state)
    | (.error error, _) => (.error error, s)

theorem transaction_atomic (work : Procedure (Client σ) ε α) : Atomic (transaction work) := by
  intro s error s' h
  simp only [transaction] at h
  split at h
  · cases h
  · cases h
    rfl

theorem of_run_transaction {work : Procedure (Client σ) ε α} {value : α}
    (h : (transaction work).run s = (.ok value, s')) :
    ∃ client, work.run ⟨s, false⟩ = (.ok value, client) ∧
      s' = if client.aborted then s else client.state := by
  simp only [transaction] at h
  split at h
  · next returned client hwork =>
    cases h
    exact ⟨client, hwork, rfl⟩
  · cases h

theorem of_run_statement {refusal : ε} {effect : σ → Except ε (α × σ)} {value : α}
    {client' : Client σ} (h : (statement refusal effect).run ⟨s, false⟩ = (.ok value, client')) :
    ∃ state, effect s = .ok (value, state) ∧ client' = ⟨state, false⟩ := by
  simp only [statement, Bool.false_eq_true, if_false] at h
  split at h
  · next returned state heffect =>
    cases h
    exact ⟨state, heffect, rfl⟩
  · cases h

end Procedure
