import Lotur.Library.Interleaving

/-! Operations that handle the failures of others, and the rules by which what they ask and how they
end is read off their parts. -/
namespace Interleaving.Program

variable {Query : Type} {Reply : Query → Type} {ε ε' α β : Type}

/-- The outcome of a program as a value. -/
def attempt : Program Reply ε α → Program Reply ε' (Except ε α)
  | done result => done (.ok result)
  | fail error => done (.error error)
  | ask query next => ask query fun reply => (next reply).attempt

def settle : Except ε α → Program Reply ε α
  | .ok result => done result
  | .error error => fail error

/-- `last` runs however the program ends. -/
def ensuring (p : Program Reply ε α) (last : Program Reply ε Unit) : Program Reply ε α := do
  let outcome ← p.attempt
  last
  settle outcome

def rescue (p : Program Reply ε α) (handler : ε → Program Reply ε' α) : Program Reply ε' α := do
  match ← p.attempt with
  | .ok result => done result
  | .error error => handler error

variable {rely : Event Reply → Prop} {asks : List (Event Reply) → Query → Prop}
  {history : List (Event Reply)}

theorem Follows.attempt {ends : List (Event Reply) → Except ε' (Except ε α) → Prop}
    {p : Program Reply ε α}
    (h : p.Follows rely asks (fun history result => ends history (.ok result)) history) :
    (p.attempt : Program Reply ε' (Except ε α)).Follows rely asks ends history := by
  induction p generalizing history with
  | done result => exact h
  | fail error => exact h
  | ask query next ih => exact ⟨h.1, fun reply hreply => ih reply (h.2 reply hreply)⟩

theorem Follows.settle {ends : List (Event Reply) → Except ε α → Prop} {result : Except ε α}
    (h : ends history result) :
    (settle result : Program Reply ε α).Follows rely asks ends history := by
  cases result with
  | ok value => exact h
  | error error => exact h

/-- What the program does, then the handler from each failure. -/
theorem Follows.rescue {ends : List (Event Reply) → Except ε' α → Prop} {p : Program Reply ε α}
    {handler : ε → Program Reply ε' α}
    (h : p.Follows rely asks (fun history result => match result with
      | .ok value => ends history (.ok value)
      | .error error => (handler error).Follows rely asks ends history) history) :
    (p.rescue handler).Follows rely asks ends history := by
  apply Follows.bind
  apply Follows.attempt
  apply h.mono
  intro history result hresult
  cases result with
  | ok value => exact hresult
  | error error => exact hresult

/-- What the program does, then `last`, which keeps its outcome. -/
theorem Follows.ensuring {ends : List (Event Reply) → Except ε α → Prop} {p : Program Reply ε α}
    {last : Program Reply ε Unit}
    (h : p.Follows rely asks (fun history result => last.Follows rely asks
      (fun history ended => match ended with
        | .ok _ => ends history result
        | .error error => ends history (.error error)) history) history) :
    (p.ensuring last).Follows rely asks ends history := by
  apply Follows.bind
  apply Follows.attempt
  apply h.mono
  intro history result hresult
  apply Follows.bind
  apply Follows.mono hresult
  intro history ended hended
  cases ended with
  | ok value => exact Follows.settle hended
  | error error => exact hended

end Interleaving.Program
