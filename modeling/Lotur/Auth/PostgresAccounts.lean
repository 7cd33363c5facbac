import Lotur.Auth.InMemoryAccounts

/-! The account methods of `PostgresAuthRepository` and the bounded audit log, statement by statement
within their transactions. Locks are left out: the calls run one after the other. -/
namespace Lotur.Auth

inductive OperationalAction where
  | canaryPassed
  | canaryFailed
  | admissionApproved
  | admissionClosed
  | killSwitchEnabled
  | killSwitchDisabled
  deriving DecidableEq, Repr

structure OperationalAuditEvent where
  id : JsString
  action : OperationalAction
  actorAccountId : JsString
  occurredAt : ℤ
  deploymentId : JsString
  configDigest : JsString
  deriving DecidableEq, Repr

inductive AuditScope where
  | administrative
  | operational
  deriving DecidableEq, Repr

def AuditScope.maximum (limits : AuditEventLimits) : AuditScope → ℕ
  | operational => limits.global
  | administrative => limits.global - limits.operationalReserve

/-- What is written to `rt_audit_events`. -/
inductive StoredAuditEvent where
  | administrative (event : AuditEvent)
  | operational (event : OperationalAuditEvent)

namespace StoredAuditEvent

def id : StoredAuditEvent → JsString
  | administrative event => event.id
  | operational event => event.id

/-- The accounts the row refers to. -/
def references : StoredAuditEvent → List JsString
  | administrative event => event.actorAccountId.toList ++ event.targetAccountId.toList
  | operational event => [event.actorAccountId]

end StoredAuditEvent

/-- The rows of `rt_audit_events` are the audit events of the tables and the operational events;
`eventCount` is the row of `rt_audit_event_capacity`. -/
structure Database where
  tables : Repository
  operationalEvents : List OperationalAuditEvent
  eventCount : ℕ

def Database.auditIds (db : Database) : List JsString :=
  db.tables.auditEvents.map AuditEvent.id ++ db.operationalEvents.map OperationalAuditEvent.id

def Database.insert (db : Database) : StoredAuditEvent → Database
  | .administrative event =>
    { db with tables := { db.tables with auditEvents := db.tables.auditEvents ++ [event] } }
  | .operational event => { db with operationalEvents := db.operationalEvents ++ [event] }

/-- The `CHECK` constraints and the type of `auth_version` of `rt_accounts`. -/
def Account.satisfiesConstraints (account : Account) : Bool :=
  matchesUsername account.username && !account.roles.isEmpty &&
    decide (0 < account.authVersion ∧ account.authVersion ≤ 2147483647)

namespace Postgres
open Procedure

abbrev Work := Procedure (Client Database) RepositoryError
abbrev Method := Procedure Database RepositoryError

def query {α : Type} (f : Database → α) : Work α :=
  statement .transactionAborted fun db => .ok (f db, db)

def execute (f : Database → Except RepositoryError Database) : Work Unit :=
  statement .transactionAborted fun db => (f db).map fun db => ((), db)

def reserveAuditEvent (maximum : ℕ) : Work Bool :=
  statement .transactionAborted fun db =>
    .ok (if db.eventCount < maximum then (true, { db with eventCount := db.eventCount + 1 })
      else (false, db))

def insertAuditEvent (event : StoredAuditEvent) : Work Unit :=
  execute fun db =>
    if event.id ∈ db.auditIds then .error .auditEventExists
    else if event.references.any fun id => (db.tables.findAccountById id).isNone then
      .error .constraintViolation
    else .ok (db.insert event)

def appendBoundedAuditEvent (event : StoredAuditEvent) (limits : AuditEventLimits)
    (scope : AuditScope) : Work Unit := do
  let reserved ← reserveAuditEvent (scope.maximum limits)
  if !reserved then throw .auditEventCapacity
  else insertAuditEvent event

def appendAuditEvent (limits : AuditEventLimits) (event : AuditEvent) : Work Unit :=
  appendBoundedAuditEvent (.administrative event) limits .administrative

/-- The primary key is checked before the unique username. -/
def insertAccount (account : Account) : Work Unit :=
  execute fun db =>
    if !account.satisfiesConstraints then .error .constraintViolation
    else if db.tables.accounts.any fun candidate => candidate.id = account.id then
      .error .accountExists
    else if db.tables.accounts.any fun candidate => candidate.username = account.username then
      .error .usernameExists
    else .ok { db with tables := { db.tables with
      accounts := Table.set Account.id db.tables.accounts account } }

def updateAccount (updated : Account) : Work Unit :=
  execute fun db =>
    if !updated.satisfiesConstraints then .error .constraintViolation
    else .ok { db with tables := { db.tables with
      accounts := Table.set Account.id db.tables.accounts updated } }

def deleteAccountAuthArtifacts (accountId : JsString) : Work Unit :=
  execute fun db => .ok { db with tables := db.tables.deleteAccountAuthArtifacts accountId }

variable (limits : AuditEventLimits)

def createFirstAccount (account : Account) (auditEvent : AuditEvent) : Method Bool :=
  transaction do
    let count ← query fun db => db.tables.accounts.length
    if count ≠ 0 then pure false
    else do
      insertAccount account
      appendAuditEvent limits auditEvent
      pure true

/-- The failed insert has aborted the transaction when its username was in use. -/
def createAccount (account : Account) (authorization : AccountMutationAuthorization)
    (auditEvent : AuditEvent) : Method AccountCreationResult :=
  transaction do
    let authorized ← query fun db => db.tables.isAuthorized authorization
    if !authorized then pure .actorNotAuthorized
    else do
      let inserted ← attempt (insertAccount account)
      match inserted with
      | .ok () => do
        appendAuditEvent limits auditEvent
        pure .created
      | .error .usernameExists => pure .alreadyExists
      | .error error => throw error

/-- The common part of the changes that read the account first. -/
def changeAccount (accountId : JsString) (authorization : AccountMutationAuthorization)
    (refuse : Repository → Account → Option AccountMutationResult) (change : Account → Account)
    (updatedAt : ℤ) (auditEvent : AuditEvent) : Method AccountMutationResult :=
  transaction do
    let authorized ← query fun db => db.tables.isAuthorized authorization
    if !authorized then pure .actorNotAuthorized
    else do
      let found ← query fun db => db.tables.findAccountById accountId
      match found with
      | none => pure .notFound
      | some account => do
        let refused ← query fun db => refuse db.tables account
        match refused with
        | some result => pure result
        | none => do
          let updated : Account :=
            { change account with
              id := account.id
              authVersion := account.authVersion + 1
              updatedAt := updatedAt }
          updateAccount updated
          deleteAccountAuthArtifacts accountId
          appendAuditEvent limits auditEvent
          pure (.updated updated)

def setAccountEnabled (accountId : JsString) (enabled : Bool)
    (authorization : AccountMutationAuthorization) (updatedAt : ℤ) (auditEvent : AuditEvent) :
    Method AccountMutationResult :=
  changeAccount limits accountId authorization
    (fun r account =>
      if !enabled && account.enabled && account.roles.contains .admin &&
          r.enabledAdministratorCount ≤ 1 then some .lastAdministrator
      else none)
    (fun account => { account with enabled }) updatedAt auditEvent

def setAccountRoles (accountId : JsString) (roles : List AccountRole)
    (authorization : AccountMutationAuthorization) (updatedAt : ℤ) (auditEvent : AuditEvent) :
    Method AccountMutationResult :=
  changeAccount limits accountId authorization
    (fun r account =>
      if account.enabled && account.roles.contains .admin && !roles.contains .admin &&
          r.enabledAdministratorCount ≤ 1 then some .lastAdministrator
      else none)
    (fun account => { account with roles }) updatedAt auditEvent

def replaceAccountPassword (accountId passwordHash : JsString) (mustChangePassword : Bool)
    (expectedAuthVersion : ℕ) (authorization : AccountMutationAuthorization) (updatedAt : ℤ)
    (auditEvent : AuditEvent) : Method AccountMutationResult :=
  changeAccount limits accountId authorization
    (fun _ account => if expectedAuthVersion ≠ account.authVersion then some .conflict else none)
    (fun account => { account with passwordHash, mustChangePassword }) updatedAt auditEvent

/-- Here the row is changed before anyone knows that there is one. -/
def revokeAccountSessions (accountId : JsString) (authorization : AccountMutationAuthorization)
    (updatedAt : ℤ) (auditEvent : AuditEvent) : Method AccountMutationResult :=
  transaction do
    let authorized ← query fun db => db.tables.isAuthorized authorization
    if !authorized then pure .actorNotAuthorized
    else do
      let returned ← statement .transactionAborted fun db =>
        match db.tables.findAccountById accountId with
        | none => .ok (none, db)
        | some account =>
          let updated : Account :=
            { account with authVersion := account.authVersion + 1, updatedAt := updatedAt }
          if !updated.satisfiesConstraints then .error .constraintViolation
          else .ok (some updated, { db with tables := { db.tables with
            accounts := Table.set Account.id db.tables.accounts updated } })
      match returned with
      | none => pure .notFound
      | some updated => do
        deleteAccountAuthArtifacts accountId
        appendAuditEvent limits auditEvent
        pure (.updated updated)

/-- What an operational change writes to the audit log in its transaction. -/
def appendOperationalAudit (event : OperationalAuditEvent) : Method Unit :=
  transaction (appendBoundedAuditEvent (.operational event) limits .operational)

end Postgres

end Lotur.Auth
