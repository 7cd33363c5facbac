import Lotur.Auth.Model
import Lotur.Library.Interleaving
import Mathlib.Data.List.Sort

/-! The two auth repositories, the in-memory one and the one of the database. Both keep the same
tables; a table is a `Map` whose values hold their own key, in the order of insertion. -/
namespace Lotur.Auth

/-- The key of a row, the account it was issued to, at which version, and until when. -/
structure Columns (α : Type) where
  key : α → JsString
  owner : α → AccountAuthorization
  expiresAt : α → ℤ

namespace Table

variable {α : Type}

def get (key : α → JsString) (table : List α) (id : JsString) : Option α :=
  table.find? fun row => key row = id

def set (key : α → JsString) (table : List α) (value : α) : List α :=
  if table.any fun row => key row = key value then
    table.map fun row => if key row = key value then value else row
  else table ++ [value]

def delete (key : α → JsString) (table : List α) (id : JsString) : List α :=
  table.filter fun row => key row ≠ id

/-- The rows that have expired, the oldest first and then by their place in the table. -/
def expired (expiresAt : α → ℤ) (ctid : α → ℕ) (table : List α) (now : ℤ) : List α :=
  (table.filter fun row => expiresAt row ≤ now).insertionSort fun left right =>
    expiresAt left < expiresAt right ∨ expiresAt left = expiresAt right ∧ ctid left ≤ ctid right

end Table

inductive Backend where
  | inMemory
  | postgres
  deriving DecidableEq, Repr

def sessionColumns : Columns AuthSession where
  key := AuthSession.id
  owner session := ⟨session.accountId, session.accountAuthVersion⟩
  expiresAt := AuthSession.expiresAt

def sessionExchangeColumns : Columns SessionExchange where
  key := SessionExchange.codeDigest
  owner exchange := ⟨exchange.accountId, exchange.accountAuthVersion⟩
  expiresAt := SessionExchange.expiresAt

def carrierCredentialColumns : Columns CarrierCredential where
  key := CarrierCredential.id
  owner credential := ⟨credential.accountId, credential.accountAuthVersion⟩
  expiresAt := CarrierCredential.expiresAt

/-- `auditEventLimits` is fixed when the repository is built. -/
structure Repository where
  accounts : List Account
  sessions : List AuthSession
  loginThrottles : List LoginThrottle
  auditEvents : List AuditEvent
  loginIntents : List LoginIntent
  sessionExchanges : List SessionExchange
  carrierCredentials : List CarrierCredential
  auditEventLimits : AuditEventLimits

/-- What the database decides: where the rows of each table lie. -/
structure Placement where
  sessions : AuthSession → ℕ
  loginIntents : LoginIntent → ℕ
  sessionExchanges : SessionExchange → ℕ
  carrierCredentials : CarrierCredential → ℕ
  loginThrottles : LoginThrottle → ℕ

inductive AccountMutationResult where
  | updated (account : Account)
  | notFound
  | lastAdministrator
  | conflict
  | actorNotAuthorized
  deriving DecidableEq, Repr

inductive AccountCreationResult where
  | created
  | actorNotAuthorized
  | alreadyExists
  deriving DecidableEq, Repr

namespace Repository

def findAccountById (r : Repository) (id : JsString) : Option Account :=
  Table.get Account.id r.accounts id

def findAccountByUsername (r : Repository) (username : JsString) : Option Account :=
  r.accounts.find? fun account => account.username = username

def enabledAdministratorCount (r : Repository) : ℕ :=
  (r.accounts.filter fun account => account.enabled && account.roles.contains .admin).length

def isAuthorized (r : Repository) (authorization : AccountMutationAuthorization) : Bool :=
  match r.findAccountById authorization.accountId with
  | none => false
  | some actor => actor.enabled && actor.authVersion = authorization.authVersion &&
      (authorization.allowPasswordChangeRequired || !actor.mustChangePassword) &&
      match authorization.requiredRole with
      | none => true
      | some role => actor.roles.contains role

def isCurrentArtifactAccount (r : Repository) (owner : AccountAuthorization) : Bool :=
  match r.findAccountById owner.accountId with
  | none => false
  | some account => account.enabled && account.authVersion = owner.authVersion

def deleteAccountAuthArtifacts (r : Repository) (accountId : JsString) : Repository :=
  { r with
    sessions := r.sessions.filter fun session => session.accountId ≠ accountId
    sessionExchanges := r.sessionExchanges.filter fun exchange => exchange.accountId ≠ accountId
    carrierCredentials :=
      r.carrierCredentials.filter fun credential => credential.accountId ≠ accountId }

/-- `none` is a thrown `AuditEventCapacityError` or a repeated event id. -/
def appendAuditEvent (r : Repository) (event : AuditEvent) : Option Repository :=
  if r.auditEventLimits.global - r.auditEventLimits.operationalReserve ≤ r.auditEvents.length ∨
      r.auditEvents.any fun candidate => candidate.id = event.id then none
  else some { r with auditEvents := r.auditEvents ++ [event] }

def createFirstAccount (r : Repository) (account : Account) (auditEvent : AuditEvent) :
    Option (Bool × Repository) :=
  if r.accounts ≠ [] then some (false, r)
  else (r.appendAuditEvent auditEvent).map fun r =>
    (true, { r with accounts := Table.set Account.id r.accounts account })

/-- A username in use is a result of its own; an id in use throws. -/
def createAccount (r : Repository) (account : Account)
    (authorization : AccountMutationAuthorization) (auditEvent : AuditEvent) :
    Option (AccountCreationResult × Repository) :=
  if !r.isAuthorized authorization then some (.actorNotAuthorized, r)
  else if r.accounts.any fun candidate => candidate.username = account.username then
    some (.alreadyExists, r)
  else if r.accounts.any fun candidate => candidate.id = account.id then none
  else (r.appendAuditEvent auditEvent).map fun r =>
    (.created, { r with accounts := Table.set Account.id r.accounts account })

/-- The common part of the four mutations: the actor is checked and the account looked up, `refuse`
may stop the change, and the changed account gets the next version while its artifacts go. -/
def mutateAccount (r : Repository) (accountId : JsString)
    (authorization : AccountMutationAuthorization)
    (refuse : Account → Option AccountMutationResult) (change : Account → Account)
    (updatedAt : ℤ) (auditEvent : AuditEvent) : Option (AccountMutationResult × Repository) :=
  if !r.isAuthorized authorization then some (.actorNotAuthorized, r)
  else match r.findAccountById accountId with
  | none => some (.notFound, r)
  | some account =>
    match refuse account with
    | some result => some (result, r)
    | none =>
      let updated : Account :=
        { change account with
          id := account.id
          authVersion := account.authVersion + 1
          updatedAt := updatedAt }
      (r.appendAuditEvent auditEvent).map fun r =>
        (.updated updated, { r with accounts := Table.set Account.id r.accounts updated
          }.deleteAccountAuthArtifacts account.id)

def setAccountEnabled (r : Repository) (accountId : JsString) (enabled : Bool)
    (authorization : AccountMutationAuthorization) (updatedAt : ℤ) (auditEvent : AuditEvent) :
    Option (AccountMutationResult × Repository) :=
  r.mutateAccount accountId authorization
    (fun account =>
      if !enabled && account.enabled && account.roles.contains .admin &&
          r.enabledAdministratorCount ≤ 1 then some .lastAdministrator
      else none)
    (fun account => { account with enabled }) updatedAt auditEvent

def setAccountRoles (r : Repository) (accountId : JsString) (roles : List AccountRole)
    (authorization : AccountMutationAuthorization) (updatedAt : ℤ) (auditEvent : AuditEvent) :
    Option (AccountMutationResult × Repository) :=
  r.mutateAccount accountId authorization
    (fun account =>
      if account.enabled && account.roles.contains .admin && !roles.contains .admin &&
          r.enabledAdministratorCount ≤ 1 then some .lastAdministrator
      else none)
    (fun account => { account with roles }) updatedAt auditEvent

def replaceAccountPassword (r : Repository) (accountId passwordHash : JsString)
    (mustChangePassword : Bool) (expectedAuthVersion : ℕ)
    (authorization : AccountMutationAuthorization) (updatedAt : ℤ) (auditEvent : AuditEvent) :
    Option (AccountMutationResult × Repository) :=
  r.mutateAccount accountId authorization
    (fun account => if expectedAuthVersion ≠ account.authVersion then some .conflict else none)
    (fun account => { account with passwordHash, mustChangePassword }) updatedAt auditEvent

def revokeAccountSessions (r : Repository) (accountId : JsString)
    (authorization : AccountMutationAuthorization) (updatedAt : ℤ) (auditEvent : AuditEvent) :
    Option (AccountMutationResult × Repository) :=
  r.mutateAccount accountId authorization (fun _ => none) id updatedAt auditEvent

end Repository

namespace Table

variable {α : Type}

/-- The in-memory `save`: every expired row goes, and a row with the same key is replaced. -/
def saveInMemory (columns : Columns α) (table : List α) (artifact : α) (now : ℤ)
    (limits : StoredArtifactLimits) : Bool × List α :=
  let table := table.filter fun stored => now < columns.expiresAt stored
  let others := table.filter fun stored => columns.key stored ≠ columns.key artifact
  if limits.global ≤ others.length ∨ limits.perAccount ≤ (others.filter fun stored =>
      (columns.owner stored).accountId = (columns.owner artifact).accountId).length then
    (false, table)
  else (true, set columns.key table artifact)

/-- `deleteExpiredArtifactBatch`: at most `limit` expired rows go, the oldest first. -/
def deleteExpiredBatch (key : α → JsString) (expiresAt : α → ℤ) (ctid : α → ℕ) (table : List α)
    (now : ℤ) (limit : ℕ) : List α :=
  let batch := ((expired expiresAt ctid table now).take limit).map key
  table.filter fun row => key row ∉ batch

/-- The `save` of the database: rows that have expired are left out of the count, and a second row
with the same key throws. -/
def savePostgres (columns : Columns α) (ctid : α → ℕ) (table : List α) (artifact : α) (now : ℤ)
    (limits : StoredArtifactLimits) : Option (Bool × List α) :=
  let table := deleteExpiredBatch columns.key columns.expiresAt ctid table now 500
  let live := table.filter fun stored => now < columns.expiresAt stored
  let account := live.filter fun stored =>
    (columns.owner stored).accountId = (columns.owner artifact).accountId
  if live.length < limits.global ∧ account.length < limits.perAccount then
    if table.any fun stored => columns.key stored = columns.key artifact then none
    else some (true, table ++ [artifact])
  else some (false, table)

/-- One `save` of an artifact whose account has been found current. -/
def save (backend : Backend) (columns : Columns α) (ctid : α → ℕ) (table : List α) (artifact : α)
    (now : ℤ) (limits : StoredArtifactLimits) : Option (Bool × List α) :=
  match backend with
  | .inMemory => some (saveInMemory columns table artifact now limits)
  | .postgres => savePostgres columns ctid table artifact now limits

/-- The rows `deleteExpiredAuthArtifacts` leaves of one table when `limit` may still go. -/
def dropExpired (backend : Backend) (key : α → JsString) (expiresAt : α → ℤ) (ctid : α → ℕ)
    (table : List α) (now : ℤ) (limit : ℕ) : List α :=
  match backend with
  | .inMemory =>
    let batch := ((table.filter fun row => expiresAt row ≤ now).take limit).map key
    table.filter fun row => key row ∉ batch
  | .postgres => deleteExpiredBatch key expiresAt ctid table now limit

end Table

structure SessionAccount where
  session : AuthSession
  account : Account
  deriving DecidableEq, Repr

structure LoginFailure where
  keys : List JsString
  now : ℤ
  windowStartsAt : ℤ
  lockThreshold : ℕ
  lockedUntil : ℤ
  limits : LoginThrottleLimits
  deriving DecidableEq, Repr

/-- `recorded` is false for `CAPACITY_EXHAUSTED`. -/
structure LoginThrottleRecordResult where
  recorded : Bool
  throttles : List LoginThrottle
  deriving DecidableEq, Repr

namespace Repository

def saveSession (backend : Backend) (placement : Placement) (r : Repository) (session : AuthSession)
    (now : ℤ) (limits : StoredArtifactLimits) : Option (Bool × Repository) :=
  if !r.isCurrentArtifactAccount (sessionColumns.owner session) then some (false, r)
  else (Table.save backend sessionColumns placement.sessions r.sessions session now limits).map
    fun (saved, sessions) => (saved, { r with sessions })

def saveSessionExchange (backend : Backend) (placement : Placement) (r : Repository)
    (exchange : SessionExchange) (now : ℤ) (limits : StoredArtifactLimits) :
    Option (Bool × Repository) :=
  if !r.isCurrentArtifactAccount (sessionExchangeColumns.owner exchange) then some (false, r)
  else (Table.save backend sessionExchangeColumns placement.sessionExchanges r.sessionExchanges
      exchange now limits).map
    fun (saved, sessionExchanges) => (saved, { r with sessionExchanges })

def saveCarrierCredential (backend : Backend) (placement : Placement) (r : Repository)
    (credential : CarrierCredential) (now : ℤ) (limits : StoredArtifactLimits) :
    Option (Bool × Repository) :=
  if !r.isCurrentArtifactAccount (carrierCredentialColumns.owner credential) then some (false, r)
  else (Table.save backend carrierCredentialColumns placement.carrierCredentials
      r.carrierCredentials credential now limits).map
    fun (saved, carrierCredentials) => (saved, { r with carrierCredentials })

def findSessionAccountByTokenDigests (r : Repository) (tokenDigests : List JsString) :
    Option SessionAccount :=
  match tokenDigests.findSome? fun tokenDigest =>
      r.sessions.find? fun candidate => candidate.tokenDigest = tokenDigest with
  | none => none
  | some session => (r.findAccountById session.accountId).map fun account => ⟨session, account⟩

def deleteSession (r : Repository) (id : JsString) : Repository :=
  { r with sessions := Table.delete AuthSession.id r.sessions id }

def consumeSessionExchange (r : Repository) (codeDigest targetHost : JsString) (now : ℤ) :
    Option SessionExchange × Repository :=
  match Table.get SessionExchange.codeDigest r.sessionExchanges codeDigest with
  | none => (none, r)
  | some exchange =>
    if exchange.targetHost ≠ targetHost ∨ exchange.expiresAt ≤ now then (none, r)
    else (some exchange, { r with
      sessionExchanges :=
        Table.delete SessionExchange.codeDigest r.sessionExchanges codeDigest })

def consumeCarrierCredential (r : Repository) (id secretDigest : JsString) (now : ℤ) :
    Option CarrierCredential × Repository :=
  match Table.get CarrierCredential.id r.carrierCredentials id with
  | none => (none, r)
  | some credential =>
    if credential.secretDigest ≠ secretDigest ∨ credential.expiresAt ≤ now then (none, r)
    else (some credential, { r with
      carrierCredentials := Table.delete CarrierCredential.id r.carrierCredentials id })

/-- The in-memory repository drops every expired intent before it counts, the database 500. -/
def saveLoginIntent (backend : Backend) (placement : Placement) (r : Repository)
    (intent : LoginIntent) (now : ℤ) (limits : LoginIntentLimits) : Option (Bool × Repository) :=
  let stored := match backend with
    | .inMemory => r.loginIntents.filter fun stored => now < stored.expiresAt
    | .postgres => Table.deleteExpiredBatch LoginIntent.id LoginIntent.expiresAt
        placement.loginIntents r.loginIntents now 500
  if limits.global ≤ stored.length ∨ limits.perHost ≤ (stored.filter fun candidate =>
      candidate.targetHost = intent.targetHost).length then
    some (false, { r with loginIntents := stored })
  else match backend with
  | .inMemory => some (true, { r with loginIntents := Table.set LoginIntent.id stored intent })
  | .postgres =>
    if stored.any fun candidate => candidate.id = intent.id then none
    else some (true, { r with loginIntents := stored ++ [intent] })

/-- Only the in-memory repository also drops an intent that has expired. -/
def consumeLoginIntent (backend : Backend) (r : Repository) (id : JsString) (now : ℤ) :
    Option LoginIntent × Repository :=
  let dropped := { r with loginIntents := Table.delete LoginIntent.id r.loginIntents id }
  match Table.get LoginIntent.id r.loginIntents id with
  | none => (none, r)
  | some intent =>
    if now < intent.expiresAt then (some intent, dropped)
    else match backend with
    | .inMemory => (none, dropped)
    | .postgres => (none, r)

/-- What is left of the throttles before new ones are counted: the in-memory repository drops all
stale ones, the database the oldest, as many as the new keys need. -/
def reclaimThrottles (backend : Backend) (placement : Placement) (r : Repository)
    (failure : LoginFailure) (keys : List JsString) : List LoginThrottle :=
  match backend with
  | .inMemory => r.loginThrottles.filter fun throttle => failure.windowStartsAt < throttle.updatedAt
  | .postgres =>
    let unknown := keys.filter fun key => (Table.get LoginThrottle.key r.loginThrottles key).isNone
    let needed := unknown.length - (failure.limits.global - r.loginThrottles.length)
    let others := r.loginThrottles.filter fun throttle => throttle.key ∉ keys
    let batch := ((Table.expired LoginThrottle.updatedAt placement.loginThrottles others
      failure.windowStartsAt).take needed).map LoginThrottle.key
    r.loginThrottles.filter fun throttle => throttle.key ∉ batch

def recordLoginFailure (backend : Backend) (placement : Placement) (r : Repository)
    (failure : LoginFailure) : LoginThrottleRecordResult × Repository :=
  let keys := failure.keys.dedup.insertionSort fun left right => left ≤ right
  let stored := r.reclaimThrottles backend placement failure keys
  let existing := keys.filter fun key => (Table.get LoginThrottle.key stored key).isSome
  let unknown := keys.filter fun key => (Table.get LoginThrottle.key stored key).isNone
  let admitted := existing ++ unknown.take (failure.limits.global - stored.length)
  let throttles := (keys.filter fun key => key ∈ admitted).map fun key =>
    let failures := match Table.get LoginThrottle.key stored key with
      | some throttle => if failure.windowStartsAt < throttle.updatedAt then throttle.failures + 1
          else 1
      | none => 1
    { key, failures, updatedAt := failure.now
      lockedUntil := if failure.lockThreshold ≤ failures then some failure.lockedUntil else none }
  (⟨admitted.length = keys.length, throttles⟩,
    { r with loginThrottles := throttles.foldl (Table.set LoginThrottle.key) stored })

def deleteLoginThrottles (r : Repository) (keys : List JsString) : Repository :=
  { r with loginThrottles := r.loginThrottles.filter fun throttle => throttle.key ∉ keys }

/-- `LOGIN_FAILURE_WINDOW_MS`, also the age after which a throttle is cleaned up. -/
def loginFailureWindowMs : ℤ := 15 * 60000

def deleteExpiredAuthArtifacts (backend : Backend) (placement : Placement) (r : Repository)
    (now : ℤ) (batchSize : ℕ) : ℕ × Repository :=
  let sessions := Table.dropExpired backend AuthSession.id AuthSession.expiresAt placement.sessions
    r.sessions now batchSize
  let deleted := r.sessions.length - sessions.length
  let loginIntents := Table.dropExpired backend LoginIntent.id LoginIntent.expiresAt
    placement.loginIntents r.loginIntents now (batchSize - deleted)
  let deleted := deleted + (r.loginIntents.length - loginIntents.length)
  let sessionExchanges := Table.dropExpired backend SessionExchange.codeDigest
    SessionExchange.expiresAt placement.sessionExchanges r.sessionExchanges now
    (batchSize - deleted)
  let deleted := deleted + (r.sessionExchanges.length - sessionExchanges.length)
  let carrierCredentials := Table.dropExpired backend CarrierCredential.id
    CarrierCredential.expiresAt placement.carrierCredentials r.carrierCredentials now
    (batchSize - deleted)
  let deleted := deleted + (r.carrierCredentials.length - carrierCredentials.length)
  let loginThrottles := Table.dropExpired backend LoginThrottle.key LoginThrottle.updatedAt
    placement.loginThrottles r.loginThrottles (now - loginFailureWindowMs) (batchSize - deleted)
  let deleted := deleted + (r.loginThrottles.length - loginThrottles.length)
  (deleted, { r with sessions, loginIntents, sessionExchanges, carrierCredentials, loginThrottles })

end Repository

/-- A call of the repository with its arguments. -/
inductive Query where
  | findAccountById (id : JsString)
  | findAccountByUsername (username : JsString)
  | createFirstAccount (account : Account) (auditEvent : AuditEvent)
  | createAccount (account : Account) (authorization : AccountMutationAuthorization)
      (auditEvent : AuditEvent)
  | setAccountEnabled (accountId : JsString) (enabled : Bool)
      (authorization : AccountMutationAuthorization) (updatedAt : ℤ) (auditEvent : AuditEvent)
  | setAccountRoles (accountId : JsString) (roles : List AccountRole)
      (authorization : AccountMutationAuthorization) (updatedAt : ℤ) (auditEvent : AuditEvent)
  | replaceAccountPassword (accountId passwordHash : JsString) (mustChangePassword : Bool)
      (expectedAuthVersion : ℕ) (authorization : AccountMutationAuthorization) (updatedAt : ℤ)
      (auditEvent : AuditEvent)
  | revokeAccountSessions (accountId : JsString) (authorization : AccountMutationAuthorization)
      (updatedAt : ℤ) (auditEvent : AuditEvent)
  | saveSession (session : AuthSession) (now : ℤ) (limits : StoredArtifactLimits)
  | findSessionAccountByTokenDigests (tokenDigests : List JsString)
  | deleteSession (id : JsString)
  | getLoginThrottle (key : JsString)
  | recordLoginFailure (failure : LoginFailure)
  | deleteLoginThrottles (keys : List JsString)
  | saveLoginIntent (intent : LoginIntent) (now : ℤ) (limits : LoginIntentLimits)
  | consumeLoginIntent (id : JsString) (now : ℤ)
  | saveSessionExchange (exchange : SessionExchange) (now : ℤ) (limits : StoredArtifactLimits)
  | consumeSessionExchange (codeDigest targetHost : JsString) (now : ℤ)
  | saveCarrierCredential (credential : CarrierCredential) (now : ℤ)
      (limits : StoredArtifactLimits)
  | consumeCarrierCredential (id secretDigest : JsString) (now : ℤ)
  | deleteExpiredAuthArtifacts (now : ℤ) (batchSize : ℕ)

/-- What the call returns. -/
def Query.Value : Query → Type
  | findAccountById _ => Option Account
  | findAccountByUsername _ => Option Account
  | createFirstAccount _ _ => Bool
  | createAccount _ _ _ => AccountCreationResult
  | setAccountEnabled _ _ _ _ _ => AccountMutationResult
  | setAccountRoles _ _ _ _ _ => AccountMutationResult
  | replaceAccountPassword _ _ _ _ _ _ _ => AccountMutationResult
  | revokeAccountSessions _ _ _ _ => AccountMutationResult
  | saveSession _ _ _ => Bool
  | findSessionAccountByTokenDigests _ => Option SessionAccount
  | deleteSession _ => Unit
  | getLoginThrottle _ => Option LoginThrottle
  | recordLoginFailure _ => LoginThrottleRecordResult
  | deleteLoginThrottles _ => Unit
  | saveLoginIntent _ _ _ => Bool
  | consumeLoginIntent _ _ => Option LoginIntent
  | saveSessionExchange _ _ _ => Bool
  | consumeSessionExchange _ _ _ => Option SessionExchange
  | saveCarrierCredential _ _ _ => Bool
  | consumeCarrierCredential _ _ _ => Option CarrierCredential
  | deleteExpiredAuthArtifacts _ _ => ℕ

/-- What the code between two repository calls draws from its environment: the clock, the random
ids and secrets, and the salted hash of a password. -/
structure Fresh where
  now : ℤ
  id : JsString
  auditId : JsString
  secret : JsString
  hash : JsString → JsString

structure Reply (query : Query) where
  value : query.Value
  fresh : Fresh

structure Choice where
  placement : Placement
  fresh : Fresh

/-- One repository call, as a whole. -/
def Repository.call (backend : Backend) (placement : Placement) (r : Repository) :
    (query : Query) → Option (query.Value × Repository)
  | .findAccountById id => some (r.findAccountById id, r)
  | .findAccountByUsername username => some (r.findAccountByUsername username, r)
  | .createFirstAccount account auditEvent => r.createFirstAccount account auditEvent
  | .createAccount account authorization auditEvent =>
    r.createAccount account authorization auditEvent
  | .setAccountEnabled accountId enabled authorization updatedAt auditEvent =>
    r.setAccountEnabled accountId enabled authorization updatedAt auditEvent
  | .setAccountRoles accountId roles authorization updatedAt auditEvent =>
    r.setAccountRoles accountId roles authorization updatedAt auditEvent
  | .replaceAccountPassword accountId passwordHash mustChangePassword expectedAuthVersion
      authorization updatedAt auditEvent =>
    r.replaceAccountPassword accountId passwordHash mustChangePassword expectedAuthVersion
      authorization updatedAt auditEvent
  | .revokeAccountSessions accountId authorization updatedAt auditEvent =>
    r.revokeAccountSessions accountId authorization updatedAt auditEvent
  | .saveSession session now limits => r.saveSession backend placement session now limits
  | .findSessionAccountByTokenDigests tokenDigests =>
    some (r.findSessionAccountByTokenDigests tokenDigests, r)
  | .deleteSession id => some ((), r.deleteSession id)
  | .getLoginThrottle key => some (Table.get LoginThrottle.key r.loginThrottles key, r)
  | .recordLoginFailure failure => some (r.recordLoginFailure backend placement failure)
  | .deleteLoginThrottles keys => some ((), r.deleteLoginThrottles keys)
  | .saveLoginIntent intent now limits => r.saveLoginIntent backend placement intent now limits
  | .consumeLoginIntent id now => some (r.consumeLoginIntent backend id now)
  | .saveSessionExchange exchange now limits =>
    r.saveSessionExchange backend placement exchange now limits
  | .consumeSessionExchange codeDigest targetHost now =>
    some (r.consumeSessionExchange codeDigest targetHost now)
  | .saveCarrierCredential credential now limits =>
    r.saveCarrierCredential backend placement credential now limits
  | .consumeCarrierCredential id secretDigest now =>
    some (r.consumeCarrierCredential id secretDigest now)
  | .deleteExpiredAuthArtifacts now batchSize =>
    some (r.deleteExpiredAuthArtifacts backend placement now batchSize)

def handle (backend : Backend) (r : Repository) (query : Query) (choice : Choice) :
    Option (Reply query × Repository) :=
  (r.call backend choice.placement query).map fun (value, r) => (⟨value, choice.fresh⟩, r)

end Lotur.Auth
