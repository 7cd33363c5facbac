import Lotur.Auth.Tables
import Lotur.Library.Transactions

/-! The account methods of `InMemoryAuthRepository`, statement by statement: what they write before
they throw would stay. -/
namespace Lotur.Auth

inductive RepositoryError where
  | auditEventCapacity
  | auditEventExists
  | accountExists
  | usernameExists
  | constraintViolation
  | transactionAborted
  deriving DecidableEq, Repr

namespace InMemory
open Procedure

abbrev Method := Procedure Repository RepositoryError

def assertAccountCanBeCreated (account : Account) : Method Unit := do
  let r ← read
  if r.accounts.any fun candidate =>
      candidate.username = account.username || candidate.id = account.id then
    throw .accountExists
  else pure ()

def assertAuditEventCanBeAppended (event : AuditEvent) : Method Unit := do
  let r ← read
  if r.auditEventLimits.global - r.auditEventLimits.operationalReserve ≤ r.auditEvents.length then
    throw .auditEventCapacity
  else if r.auditEvents.any fun candidate => candidate.id = event.id then throw .auditEventExists
  else pure ()

def setAccount (account : Account) : Method Unit :=
  write fun r => { r with accounts := Table.set Account.id r.accounts account }

def pushAuditEvent (event : AuditEvent) : Method Unit :=
  write fun r => { r with auditEvents := r.auditEvents ++ [event] }

def createFirstAccount (account : Account) (auditEvent : AuditEvent) : Method Bool := do
  let r ← read
  if r.accounts.length ≠ 0 then pure false
  else do
    assertAccountCanBeCreated account
    assertAuditEventCanBeAppended auditEvent
    setAccount account
    pushAuditEvent auditEvent
    pure true

def createAccount (account : Account) (authorization : AccountMutationAuthorization)
    (auditEvent : AuditEvent) : Method AccountCreationResult := do
  let r ← read
  if !r.isAuthorized authorization then pure .actorNotAuthorized
  else if r.accounts.any fun candidate => candidate.username = account.username then
    pure .alreadyExists
  else do
    assertAccountCanBeCreated account
    assertAuditEventCanBeAppended auditEvent
    setAccount account
    pushAuditEvent auditEvent
    pure .created

/-- The common part of the four changes of an account. -/
def changeAccount (accountId : JsString) (authorization : AccountMutationAuthorization)
    (refuse : Repository → Account → Option AccountMutationResult) (change : Account → Account)
    (updatedAt : ℤ) (auditEvent : AuditEvent) : Method AccountMutationResult := do
  let r ← read
  if !r.isAuthorized authorization then pure .actorNotAuthorized
  else match r.findAccountById accountId with
  | none => pure .notFound
  | some account =>
    match refuse r account with
    | some result => pure result
    | none => do
      assertAuditEventCanBeAppended auditEvent
      let updated : Account :=
        { change account with
          id := account.id
          authVersion := account.authVersion + 1
          updatedAt := updatedAt }
      setAccount updated
      write fun r => r.deleteAccountAuthArtifacts account.id
      pushAuditEvent auditEvent
      pure (.updated updated)

def setAccountEnabled (accountId : JsString) (enabled : Bool)
    (authorization : AccountMutationAuthorization) (updatedAt : ℤ) (auditEvent : AuditEvent) :
    Method AccountMutationResult :=
  changeAccount accountId authorization
    (fun r account =>
      if !enabled && account.enabled && account.roles.contains .admin &&
          r.enabledAdministratorCount ≤ 1 then some .lastAdministrator
      else none)
    (fun account => { account with enabled }) updatedAt auditEvent

def setAccountRoles (accountId : JsString) (roles : List AccountRole)
    (authorization : AccountMutationAuthorization) (updatedAt : ℤ) (auditEvent : AuditEvent) :
    Method AccountMutationResult :=
  changeAccount accountId authorization
    (fun r account =>
      if account.enabled && account.roles.contains .admin && !roles.contains .admin &&
          r.enabledAdministratorCount ≤ 1 then some .lastAdministrator
      else none)
    (fun account => { account with roles }) updatedAt auditEvent

def replaceAccountPassword (accountId passwordHash : JsString) (mustChangePassword : Bool)
    (expectedAuthVersion : ℕ) (authorization : AccountMutationAuthorization) (updatedAt : ℤ)
    (auditEvent : AuditEvent) : Method AccountMutationResult :=
  changeAccount accountId authorization
    (fun _ account => if expectedAuthVersion ≠ account.authVersion then some .conflict else none)
    (fun account => { account with passwordHash, mustChangePassword }) updatedAt auditEvent

def revokeAccountSessions (accountId : JsString) (authorization : AccountMutationAuthorization)
    (updatedAt : ℤ) (auditEvent : AuditEvent) : Method AccountMutationResult :=
  changeAccount accountId authorization (fun _ _ => none) id updatedAt auditEvent

/-- A method runs as the whole call does; when the call throws, so does the method, and has written
nothing. -/
def Agrees {α : Type} (r : Repository) (call : Option (α × Repository))
    (run : Except RepositoryError α × Repository) : Prop :=
  match call with
  | some (result, r') => run = (.ok result, r')
  | none => ∃ error, run = (.error error, r)

theorem agrees_assertAuditEventCanBeAppended (r : Repository) (event : AuditEvent) :
    Agrees r ((r.appendAuditEvent event).map fun _ => ((), r))
      ((assertAuditEventCanBeAppended event).run r) := by
  unfold Repository.appendAuditEvent assertAuditEventCanBeAppended
  rw [run_read_bind]
  by_cases hfull : r.auditEventLimits.global - r.auditEventLimits.operationalReserve ≤
      r.auditEvents.length
  · rw [if_pos (Or.inl hfull), if_pos hfull]
    exact ⟨_, rfl⟩
  · by_cases htaken : (r.auditEvents.any fun candidate => candidate.id = event.id) = true
    · rw [if_pos (Or.inr htaken), if_neg hfull, if_pos htaken]
      exact ⟨_, rfl⟩
    · rw [if_neg (not_or.2 ⟨hfull, htaken⟩), if_neg hfull, if_neg htaken]
      rfl

/-- The rest of a method runs with the event if it can be appended, and not at all otherwise. -/
theorem agrees_appended {α : Type} {r : Repository} {event : AuditEvent} {rest : Unit → Method α}
    {finish : Repository → α × Repository}
    (hrest : (rest ()).run r =
      (.ok (finish { r with auditEvents := r.auditEvents ++ [event] }).1,
        (finish { r with auditEvents := r.auditEvents ++ [event] }).2)) :
    Agrees r ((r.appendAuditEvent event).map finish)
      ((assertAuditEventCanBeAppended event >>= rest).run r) := by
  have hrun := agrees_assertAuditEventCanBeAppended r event
  cases happended : r.appendAuditEvent event with
  | none =>
    rw [happended] at hrun
    obtain ⟨error, herror⟩ := hrun
    exact ⟨error, run_bind_error herror⟩
  | some r' =>
    rw [happended] at hrun
    obtain rfl := Repository.appendAuditEvent_eq happended
    exact (run_bind_ok hrun).trans hrest

theorem agrees_changeAccount (r : Repository) (accountId : JsString)
    (authorization : AccountMutationAuthorization)
    (refuse : Repository → Account → Option AccountMutationResult) (change : Account → Account)
    (updatedAt : ℤ) (event : AuditEvent) :
    Agrees r (r.mutateAccount accountId authorization (refuse r) change updatedAt event)
      ((changeAccount accountId authorization refuse change updatedAt event).run r) := by
  unfold Repository.mutateAccount changeAccount
  rw [run_read_bind]
  by_cases hauthorized : (!r.isAuthorized authorization) = true
  · rw [if_pos hauthorized, if_pos hauthorized]
    rfl
  rw [if_neg hauthorized, if_neg hauthorized]
  cases r.findAccountById accountId with
  | none => rfl
  | some account =>
    dsimp only
    cases refuse r account with
    | some result => rfl
    | none => exact agrees_appended rfl

theorem agrees_of_change {r : Repository} {accountId : JsString}
    {authorization : AccountMutationAuthorization}
    {refuse : Repository → Account → Option AccountMutationResult} {change : Account → Account}
    {updatedAt : ℤ} {event : AuditEvent} {method : Method AccountMutationResult}
    {call : Option (AccountMutationResult × Repository)}
    (hmethod : method = changeAccount accountId authorization refuse change updatedAt event)
    (hcall : call = r.mutateAccount accountId authorization (refuse r) change updatedAt event) :
    Agrees r call (method.run r) := by
  rw [hmethod, hcall]
  exact agrees_changeAccount r accountId authorization refuse change updatedAt event

theorem agrees_createFirstAccount (r : Repository) (account : Account) (event : AuditEvent) :
    Agrees r (r.createFirstAccount account event) ((createFirstAccount account event).run r) := by
  unfold Repository.createFirstAccount createFirstAccount
  rw [run_read_bind]
  by_cases hempty : r.accounts = []
  · have hlength : ¬ r.accounts.length ≠ 0 := by simp [hempty]
    have hfree : (assertAccountCanBeCreated account).run r = (.ok (), r) := by
      unfold assertAccountCanBeCreated
      rw [run_read_bind, hempty]
      rfl
    rw [if_neg (not_not.2 hempty), if_neg hlength, run_bind_ok hfree]
    exact agrees_appended rfl
  · have hlength : r.accounts.length ≠ 0 := by simpa using hempty
    rw [if_pos hempty, if_pos hlength]
    rfl

theorem agrees_createAccount (r : Repository) (account : Account)
    (authorization : AccountMutationAuthorization) (event : AuditEvent) :
    Agrees r (r.createAccount account authorization event)
      ((createAccount account authorization event).run r) := by
  unfold Repository.createAccount createAccount
  rw [run_read_bind]
  by_cases hauthorized : (!r.isAuthorized authorization) = true
  · rw [if_pos hauthorized, if_pos hauthorized]
    rfl
  rw [if_neg hauthorized, if_neg hauthorized]
  by_cases husername :
      (r.accounts.any fun candidate => candidate.username = account.username) = true
  · rw [if_pos husername, if_pos husername]
    rfl
  rw [if_neg husername, if_neg husername]
  have hcollision : (r.accounts.any fun candidate =>
      candidate.username = account.username || candidate.id = account.id) =
        r.accounts.any fun candidate => candidate.id = account.id := by
    rw [Bool.eq_iff_iff, List.any_eq_true, List.any_eq_true]
    refine exists_congr fun candidate => and_congr_right fun hcandidate => ?_
    have hother : candidate.username ≠ account.username := fun heq =>
      husername (List.any_eq_true.2 ⟨candidate, hcandidate, decide_eq_true heq⟩)
    rw [decide_eq_false hother, Bool.false_or]
  by_cases hid : (r.accounts.any fun candidate => candidate.id = account.id) = true
  · have htaken : (assertAccountCanBeCreated account).run r = (.error .accountExists, r) := by
      unfold assertAccountCanBeCreated
      rw [run_read_bind, hcollision, if_pos hid]
      rfl
    rw [if_pos hid]
    exact ⟨_, run_bind_error htaken⟩
  · have hfree : (assertAccountCanBeCreated account).run r = (.ok (), r) := by
      unfold assertAccountCanBeCreated
      rw [run_read_bind, hcollision, if_neg hid]
      rfl
    rw [if_neg hid, run_bind_ok hfree]
    exact agrees_appended rfl

end InMemory

end Lotur.Auth
