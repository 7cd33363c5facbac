import Lotur.Auth.Repository

/-! The operations of `AuthService`. Each is a program over repository calls: the code between two
calls runs with the reply of the first and what the environment supplies with it. The events written
to the authentication sink are left out, and the two throttles of a login are read one after the
other. -/
namespace Lotur.Auth

abbrev AuthM := Interleaving.Program Reply AuthError

def ask (query : Query) : AuthM (Reply query) := Interleaving.Program.query query

def throwAuth {α : Type} (code : AuthErrorCode) (message : String) : AuthM α :=
  .fail ⟨code, message⟩

def require {α : Type} : Except AuthError α → AuthM α
  | .ok value => .done value
  | .error error => .fail error

structure AuthArtifactLimits where
  sessions : StoredArtifactLimits
  sessionExchanges : StoredArtifactLimits
  carrierCredentials : StoredArtifactLimits
  deriving DecidableEq, Repr

/-- `DEFAULT_AUTH_ARTIFACT_LIMITS`. -/
def defaultAuthArtifactLimits : AuthArtifactLimits where
  sessions := ⟨100000, 64⟩
  sessionExchanges := ⟨10000, 256⟩
  carrierCredentials := ⟨10000, 128⟩

/-- The service with its dependencies: the digests of `createHmac`, the password hasher and the
case mapping are whatever the platform provides. -/
structure AuthService where
  createHmac : List UInt8 → JsString → JsString
  verify : JsString → JsString → Bool
  toLowerCase : JsString → JsString
  sessionHmacKey : List UInt8
  previousSessionHmacKeys : List (List UInt8)
  dummyPasswordHash : JsString
  loginIntentLimits : LoginIntentLimits
  loginThrottleLimits : LoginThrottleLimits
  authArtifactLimits : AuthArtifactLimits

def sessionTtlMs : ℤ := 12 * 60 * 60000
def loginLockThreshold : ℕ := 5
def loginLockMs : ℤ := 30000
def loginIntentTtlMs : ℤ := 5 * 60000
def sessionExchangeTtlMs : ℤ := 60000
def carrierCredentialTtlMs : ℤ := 60000
def authArtifactCleanupBatchSize : ℕ := 500
def authArtifactCleanupMaxBatches : ℕ := 10

structure Credentials where
  username : JsString
  password : JsString
  remoteAddress : JsString
  deriving DecidableEq, Repr

/-- What an operation returns. -/
inductive Outcome where
  | completed
  | account (account : Account)
  | temporaryPassword (account : Account) (temporaryPassword : JsString)
  | session (principal : Principal) (sessionToken : JsString)
  | administrator (authorization : AccountAuthorization)
  | loginIntent (id : JsString)
  | exchangeCode (code targetHost targetPath : JsString)
  | exchanged (principal : Principal) (sessionToken targetPath : JsString)
  | carrierCredential (token : JsString)
  | authorized (authorization : DeveloperAuthorization)
  | resolved (principal : Option Principal)
  deriving DecidableEq, Repr

namespace AuthService

variable (service : AuthService)

def digestSessionToken (token : JsString) : JsString :=
  service.createHmac service.sessionHmacKey token

def digestSessionTokenCandidates (token : JsString) : List JsString :=
  (service.sessionHmacKey :: service.previousSessionHmacKeys).map fun key =>
    service.createHmac key token

def throttleKey (scope : String) (value : JsString) : JsString :=
  service.createHmac service.sessionHmacKey (JsString.ofAscii scope ++ 0 :: value)

def auditEvent (fresh : Fresh) (action : AuditAction) (actorAccountId targetAccountId :
    Option JsString) : AuditEvent where
  id := fresh.auditId
  action := action
  actorAccountId := actorAccountId
  targetAccountId := targetAccountId
  occurredAt := fresh.now

def requireEnabledAccount (principal : AccountAuthorization) : AuthM (Account × Fresh) := do
  let found ← ask (.findAccountById principal.accountId)
  match found.value with
  | none => throwAuth .forbidden "활성 계정이 아닙니다."
  | some account =>
    if !account.enabled || account.authVersion ≠ principal.authVersion then
      throwAuth .forbidden "활성 계정이 아닙니다."
    else pure (account, found.fresh)

def requireCurrentAccount (principal : AccountAuthorization) : AuthM (Account × Fresh) := do
  let (account, fresh) ← requireEnabledAccount principal
  if account.mustChangePassword then
    throwAuth .passwordChangeRequired "먼저 임시 비밀번호를 변경해야 합니다."
  else pure (account, fresh)

def requireAdministrator (principal : AccountAuthorization) : AuthM (Account × Fresh) := do
  let (account, fresh) ← requireCurrentAccount principal
  if !account.roles.contains .admin then
    throwAuth .forbidden "관리자 권한이 필요합니다."
  else pure (account, fresh)

def requireCurrentArtifactAccount (expected : AccountAuthorization) : AuthM Unit := do
  let found ← ask (.findAccountById expected.accountId)
  match found.value with
  | none => throwAuth .forbidden "활성 계정이 아닙니다."
  | some account =>
    if !account.enabled || account.authVersion ≠ expected.authVersion then
      throwAuth .forbidden "활성 계정이 아닙니다."
    else pure ()

def requireAccount (accountId : JsString) : AuthM (Account × Fresh) := do
  let found ← ask (.findAccountById accountId)
  match found.value with
  | none => throwAuth .accountNotFound "계정을 찾을 수 없습니다."
  | some account => pure (account, found.fresh)

def requireUpdatedAccount : AccountMutationResult → AuthM Account
  | .updated account => pure account
  | .lastAdministrator => throwAuth .lastAdministrator
      "마지막 활성 관리자는 비활성화하거나 관리자 권한을 제거할 수 없습니다."
  | .conflict => throwAuth .accountConflict
      "계정이 다른 요청에서 변경됐습니다. 다시 시도하세요."
  | .actorNotAuthorized => throwAuth .forbidden
      "현재 계정으로 이 작업을 수행할 수 없습니다."
  | .notFound => throwAuth .accountNotFound "계정을 찾을 수 없습니다."

/-- The throttle counts only while its last failure lies within the window. -/
def isLocked (throttle : Option LoginThrottle) (now : ℤ) : Bool :=
  match throttle with
  | none => false
  | some throttle => now - Repository.loginFailureWindowMs < throttle.updatedAt &&
      throttle.lockedUntil.any fun lockedUntil => now < lockedUntil

/-- The account of a login: the one the caller knows, else the one with the username. -/
def loginAccount (username : Option JsString) : Option Account → AuthM (Option Account)
  | some account => pure (some account)
  | none =>
    match username with
    | none => pure none
    | some username => do
      let found ← ask (.findAccountByUsername username)
      pure found.value

def verifyCredentials (input : Credentials) (now : ℤ) (knownAccount : Option Account) :
    AuthM (Account × Fresh) := do
  let normalized := match knownAccount with
    | some account => some account.username
    | none => (normalizeUsername service.toLowerCase input.username).toOption
  let throttleIdentity := normalized.getD (JsString.ofAscii "invalid:" ++
    (service.toLowerCase input.username.trim).take 64)
  let account ← loginAccount normalized knownAccount
  let throttleKeys := [service.throttleKey "identity" throttleIdentity,
    service.throttleKey "remote" input.remoteAddress]
  let identity ← ask (.getLoginThrottle (service.throttleKey "identity" throttleIdentity))
  let remote ← ask (.getLoginThrottle (service.throttleKey "remote" input.remoteAddress))
  if isLocked identity.value now || isLocked remote.value now then
    throwAuth .loginThrottled "로그인 시도가 너무 많습니다. 잠시 후 다시 시도하세요."
  else
    let passwordMatches := service.verify
      ((account.map Account.passwordHash).getD service.dummyPasswordHash) input.password
    match account.filter fun account => account.enabled && passwordMatches with
    | none =>
      let recorded ← ask (.recordLoginFailure
        { keys := throttleKeys
          now
          windowStartsAt := now - Repository.loginFailureWindowMs
          lockThreshold := loginLockThreshold
          lockedUntil := now + loginLockMs
          limits := service.loginThrottleLimits })
      if !recorded.value.recorded then
        throwAuth .authCapacity "로그인 제한 저장소 용량이 소진되었습니다."
      else throwAuth .invalidCredentials "아이디 또는 비밀번호가 올바르지 않습니다."
    | some account =>
      let deleted ← ask (.deleteLoginThrottles throttleKeys)
      pure (account, deleted.fresh)

def issueSession (account : Account) (now : ℤ) (audience : JsString) (fresh : Fresh) :
    AuthM (Principal × JsString) := do
  let sessionToken := fresh.id ++ 0x2e :: fresh.secret
  let saved ← ask (.saveSession
    { id := fresh.id
      tokenDigest := service.digestSessionToken sessionToken
      accountId := account.id
      accountAuthVersion := account.authVersion
      audience
      createdAt := now
      lastSeenAt := now
      expiresAt := now + sessionTtlMs } now service.authArtifactLimits.sessions)
  match saved.value with
  | true => pure (toPrincipal account fresh.id, sessionToken)
  | false =>
    requireCurrentArtifactAccount account.authorization
    throwAuth .authCapacity "활성 인증 세션이 너무 많습니다."

def buildAccount (username displayName : JsString) (roles : List AccountRole) :
    AuthM (Account × JsString × Fresh) := do
  let username ← require (normalizeUsername service.toLowerCase username)
  let displayName ← require (normalizeDisplayName displayName)
  let roles ← require (normalizeRoles roles)
  let found ← ask (.findAccountByUsername username)
  if (found.value : Option Account).isSome then
    throwAuth .accountExists "이미 사용 중인 아이디입니다."
  else
    let fresh := found.fresh
    let account : Account :=
      { id := fresh.id
        username
        displayName
        roles
        passwordHash := fresh.hash fresh.secret
        enabled := true
        mustChangePassword := true
        authVersion := 1
        createdAt := fresh.now
        updatedAt := fresh.now }
    pure (account, fresh.secret, fresh)

def bootstrapAdministrator (username displayName : JsString) : AuthM Outcome := do
  let (account, temporaryPassword, fresh) ← service.buildAccount username displayName [.admin]
  let created ← ask (.createFirstAccount account
    (auditEvent fresh .accountBootstrapped none (some account.id)))
  match created.value with
  | true => pure (.temporaryPassword account temporaryPassword)
  | false => throwAuth .bootstrapClosed "최초 관리자 생성은 계정이 없을 때만 가능합니다."

def authenticate (input : Credentials) (fresh : Fresh) : AuthM Outcome := do
  let (account, later) ← service.verifyCredentials input fresh.now none
  let (principal, sessionToken) ←
    service.issueSession account fresh.now (JsString.ofAscii "control") later
  pure (.session principal sessionToken)

def verifyAdministratorCredentials (input : Credentials) (fresh : Fresh) : AuthM Outcome := do
  let (account, _) ← service.verifyCredentials input fresh.now none
  if account.mustChangePassword then
    throwAuth .passwordChangeRequired "먼저 change-password 명령을 실행하세요."
  else if !account.roles.contains .admin then
    throwAuth .forbidden "관리자 권한이 필요합니다."
  else pure (.administrator account.authorization)

def createLoginIntent (targetHost targetPath : JsString) (fresh : Fresh) : AuthM Outcome := do
  if targetHost.length < 1 ∨ 253 < targetHost.length ∨
      !targetPath.startsWith (JsString.ofAscii "/") ∨ 4096 < targetPath.length then
    throwAuth .invalidAccountInput "올바르지 않은 로그인 복귀 대상입니다."
  else
    let saved ← ask (.saveLoginIntent
      { id := fresh.secret
        targetHost
        targetPath
        expiresAt := fresh.now + loginIntentTtlMs } fresh.now service.loginIntentLimits)
    match saved.value with
    | true => pure (.loginIntent fresh.secret)
    | false => throwAuth .loginIntentCapacity "로그인 요청이 많습니다. 잠시 후 다시 시도하세요."

def createSessionExchange (principal : Principal) (intentId : JsString) : AuthM Outcome := do
  let (account, fresh) ← requireCurrentAccount principal.authorization
  if !canAccessSharedContent account.roles then
    throwAuth .forbidden "공유 화면 접근 권한이 필요합니다."
  else
    let consumed ← ask (.consumeLoginIntent intentId fresh.now)
    match consumed.value with
    | none => throwAuth .forbidden "로그인 요청이 만료됐거나 이미 사용됐습니다."
    | some intent =>
      let fresh := consumed.fresh
      let saved ← ask (.saveSessionExchange
        { codeDigest := service.digestSessionToken (JsString.ofAscii "exchange:" ++ fresh.secret)
          accountId := account.id
          accountAuthVersion := account.authVersion
          targetHost := intent.targetHost
          targetPath := intent.targetPath
          expiresAt := fresh.now + sessionExchangeTtlMs } fresh.now
        service.authArtifactLimits.sessionExchanges)
      match saved.value with
      | true => pure (.exchangeCode fresh.secret intent.targetHost intent.targetPath)
      | false =>
        requireCurrentArtifactAccount account.authorization
        throwAuth .authCapacity "인증 교환 요청이 많습니다. 잠시 후 다시 시도하세요."

/-- The code is looked up under each key in turn. -/
def consumeExchangeCandidates (targetHost : JsString) :
    List JsString → Fresh → AuthM (SessionExchange)
  | [], _ => throwAuth .forbidden "세션 교환 코드가 올바르지 않습니다."
  | digest :: digests, fresh => do
    let consumed ← ask (.consumeSessionExchange digest targetHost fresh.now)
    match consumed.value with
    | some exchange => pure exchange
    | none => consumeExchangeCandidates targetHost digests consumed.fresh

def consumeSessionExchange (code targetHost : JsString) (fresh : Fresh) : AuthM Outcome := do
  let exchange ← consumeExchangeCandidates targetHost
    (service.digestSessionTokenCandidates (JsString.ofAscii "exchange:" ++ code)) fresh
  let (account, later) ← requireAccount exchange.accountId
  if !account.enabled || account.mustChangePassword ||
      account.authVersion ≠ exchange.accountAuthVersion ||
      !canAccessSharedContent account.roles then
    throwAuth .forbidden "공유 화면 접근 권한이 필요합니다."
  else
    let (principal, sessionToken) ← service.issueSession account later.now
      (JsString.ofAscii "content:" ++ exchange.targetHost) later
    pure (.exchanged principal sessionToken exchange.targetPath)

def issueCarrierCredential (principal : Principal) (purpose : CarrierPurpose)
    (tunnelId : JsString) : AuthM Outcome := do
  let (account, fresh) ← requireCurrentAccount principal.authorization
  if !account.roles.contains .developer then
    throwAuth .forbidden "개발자 권한이 필요합니다."
  else if !matchesTunnelId tunnelId then
    throwAuth .invalidAccountInput "올바르지 않은 Tunnel ID입니다."
  else
    let saved ← ask (.saveCarrierCredential
      { id := fresh.id
        secretDigest := service.digestSessionToken
          (JsString.ofAscii "carrier:" ++ fresh.id ++ 0x3a :: fresh.secret)
        accountId := account.id
        accountAuthVersion := account.authVersion
        purpose
        tunnelId
        expiresAt := fresh.now + carrierCredentialTtlMs } fresh.now
      service.authArtifactLimits.carrierCredentials)
    match saved.value with
    | true => pure (.carrierCredential (fresh.id ++ 0x2e :: fresh.secret))
    | false =>
      requireCurrentArtifactAccount account.authorization
      throwAuth .authCapacity "Carrier 인증 요청이 많습니다. 잠시 후 다시 시도하세요."

def consumeCredentialCandidates (id : JsString) :
    List JsString → Fresh → AuthM CarrierCredential
  | [], _ => throwAuth .forbidden "Carrier 인증에 실패했습니다."
  | digest :: digests, fresh => do
    let consumed ← ask (.consumeCarrierCredential id digest fresh.now)
    match consumed.value with
    | some credential => pure credential
    | none => consumeCredentialCandidates id digests consumed.fresh

/-- The id ends at the first dot, which is not the first unit of the token. -/
def consumeCarrierCredential (token : JsString) (fresh : Fresh) : AuthM Outcome := do
  let id := token.takeWhile (· ≠ 0x2e)
  let secret := token.drop (id.length + 1)
  if 0x2e ∉ token ∨ id.length < 1 ∨ 512 < token.length then
    throwAuth .forbidden "Carrier 인증에 실패했습니다."
  else
    let credential ← consumeCredentialCandidates id (service.digestSessionTokenCandidates
      (JsString.ofAscii "carrier:" ++ id ++ 0x3a :: secret)) fresh
    let (account, _) ← requireAccount credential.accountId
    if !account.enabled || account.mustChangePassword || !account.roles.contains .developer ||
        account.authVersion ≠ credential.accountAuthVersion then
      throwAuth .forbidden "Carrier 인증에 실패했습니다."
    else pure (.authorized
      { accountId := account.id
        accountAuthVersion := account.authVersion
        username := account.username
        purpose := credential.purpose
        tunnelId := credential.tunnelId })

def cleanupBatches (now : ℤ) : ℕ → AuthM Outcome
  | 0 => pure .completed
  | batches + 1 => do
    let deleted ← ask (.deleteExpiredAuthArtifacts now authArtifactCleanupBatchSize)
    if Nat.blt deleted.value authArtifactCleanupBatchSize then pure .completed
    else cleanupBatches now batches

def cleanupExpiredArtifacts (fresh : Fresh) : AuthM Outcome :=
  cleanupBatches fresh.now authArtifactCleanupMaxBatches

def resolveSession (sessionToken expectedAudience : JsString) : AuthM Outcome := do
  if sessionToken.length < 20 ∨ 512 < sessionToken.length then pure (.resolved none)
  else
    let found ← ask (.findSessionAccountByTokenDigests
      (service.digestSessionTokenCandidates sessionToken))
    match found.value with
    | none => pure (.resolved none)
    | some ⟨session, account⟩ =>
      if session.audience ≠ expectedAudience then pure (.resolved none)
      else if !account.enabled || account.authVersion ≠ session.accountAuthVersion ||
          session.expiresAt ≤ found.fresh.now then
        let _ ← ask (.deleteSession session.id)
        pure (.resolved none)
      else pure (.resolved (some (toPrincipal account session.id)))

def logout (principal : Principal) : AuthM Outcome := do
  let _ ← ask (.deleteSession principal.sessionId)
  pure .completed

/-- `#replacePassword`. -/
def replacePassword (account : Account) (password : JsString) (mustChangePassword : Bool)
    (action : AuditAction) (actorAccountId : JsString)
    (authorization : AccountMutationAuthorization) (fresh : Fresh) : AuthM Account := do
  let replaced ← ask (.replaceAccountPassword account.id (fresh.hash password) mustChangePassword
    account.authVersion authorization fresh.now
    (auditEvent fresh action (some actorAccountId) (some account.id)))
  requireUpdatedAccount replaced.value

def changeOwnPassword (principal : Principal) (currentPassword newPassword : JsString) :
    AuthM Outcome := do
  let (account, fresh) ← requireEnabledAccount principal.authorization
  let (_, later) ← service.verifyCredentials
    { username := account.username
      password := currentPassword
      remoteAddress := JsString.ofAscii "session:" ++ principal.sessionId } fresh.now (some account)
  require (validatePassword service.toLowerCase newPassword)
  let _ ← replacePassword account newPassword false .passwordChanged account.id
    { principal.authorization with allowPasswordChangeRequired := true } later
  pure .completed

def createAccount (actor : AccountAuthorization) (username displayName : JsString)
    (roles : List AccountRole) : AuthM Outcome := do
  let _ ← requireAdministrator actor
  let (account, temporaryPassword, fresh) ← service.buildAccount username displayName roles
  let created ← ask (.createAccount account (administratorAuthorization actor)
    (auditEvent fresh .accountCreated (some actor.accountId) (some account.id)))
  match created.value with
  | .actorNotAuthorized => throwAuth .forbidden "관리자 권한이 필요합니다."
  | .alreadyExists => throwAuth .accountExists "이미 사용 중인 아이디입니다."
  | .created => pure (.temporaryPassword account temporaryPassword)

def setAccountEnabled (actor : AccountAuthorization) (accountId : JsString) (enabled : Bool) :
    AuthM Outcome := do
  let (_, fresh) ← requireAdministrator actor
  let result ← ask (.setAccountEnabled accountId enabled (administratorAuthorization actor)
    fresh.now (auditEvent fresh (if enabled then .accountEnabled else .accountDisabled)
      (some actor.accountId) (some accountId)))
  let account ← requireUpdatedAccount result.value
  pure (.account account)

def setAccountRoles (actor : AccountAuthorization) (accountId : JsString)
    (roles : List AccountRole) : AuthM Outcome := do
  let (_, fresh) ← requireAdministrator actor
  let normalizedRoles ← require (normalizeRoles roles)
  let result ← ask (.setAccountRoles accountId normalizedRoles (administratorAuthorization actor)
    fresh.now (auditEvent fresh .accountRolesChanged (some actor.accountId) (some accountId)))
  let account ← requireUpdatedAccount result.value
  pure (.account account)

def resetPassword (actor : AccountAuthorization) (accountId : JsString) : AuthM Outcome := do
  let _ ← requireAdministrator actor
  let (account, fresh) ← requireAccount accountId
  let updated ← replacePassword account fresh.secret true .passwordReset actor.accountId
    (administratorAuthorization actor) fresh
  pure (.temporaryPassword updated fresh.secret)

def revokeSessions (actor : AccountAuthorization) (accountId : JsString) : AuthM Outcome := do
  let (_, fresh) ← requireAdministrator actor
  let result ← ask (.revokeAccountSessions accountId (administratorAuthorization actor) fresh.now
    (auditEvent fresh .sessionsRevoked (some actor.accountId) (some accountId)))
  let _ ← requireUpdatedAccount result.value
  pure .completed

end AuthService

/-- A call of the service with its arguments. -/
inductive Operation where
  | bootstrapAdministrator (username displayName : JsString)
  | authenticate (input : Credentials)
  | verifyAdministratorCredentials (input : Credentials)
  | createLoginIntent (targetHost targetPath : JsString)
  | createSessionExchange (principal : Principal) (intentId : JsString)
  | consumeSessionExchange (code targetHost : JsString)
  | issueCarrierCredential (principal : Principal) (purpose : CarrierPurpose) (tunnelId : JsString)
  | consumeCarrierCredential (token : JsString)
  | cleanupExpiredArtifacts
  | resolveSession (sessionToken expectedAudience : JsString)
  | logout (principal : Principal)
  | changeOwnPassword (principal : Principal) (currentPassword newPassword : JsString)
  | createAccount (actor : AccountAuthorization) (username displayName : JsString)
      (roles : List AccountRole)
  | setAccountEnabled (actor : AccountAuthorization) (accountId : JsString) (enabled : Bool)
  | setAccountRoles (actor : AccountAuthorization) (accountId : JsString)
      (roles : List AccountRole)
  | resetPassword (actor : AccountAuthorization) (accountId : JsString)
  | revokeSessions (actor : AccountAuthorization) (accountId : JsString)

/-- A call together with what its code before the first repository call draws. -/
structure Invocation where
  operation : Operation
  fresh : Fresh

def AuthService.program (service : AuthService) (invocation : Invocation) : AuthM Outcome :=
  match invocation.operation with
  | .bootstrapAdministrator username displayName =>
    service.bootstrapAdministrator username displayName
  | .authenticate input => service.authenticate input invocation.fresh
  | .verifyAdministratorCredentials input =>
    service.verifyAdministratorCredentials input invocation.fresh
  | .createLoginIntent targetHost targetPath =>
    service.createLoginIntent targetHost targetPath invocation.fresh
  | .createSessionExchange principal intentId => service.createSessionExchange principal intentId
  | .consumeSessionExchange code targetHost =>
    service.consumeSessionExchange code targetHost invocation.fresh
  | .issueCarrierCredential principal purpose tunnelId =>
    service.issueCarrierCredential principal purpose tunnelId
  | .consumeCarrierCredential token => service.consumeCarrierCredential token invocation.fresh
  | .cleanupExpiredArtifacts => AuthService.cleanupExpiredArtifacts invocation.fresh
  | .resolveSession sessionToken expectedAudience =>
    service.resolveSession sessionToken expectedAudience
  | .logout principal => AuthService.logout principal
  | .changeOwnPassword principal currentPassword newPassword =>
    service.changeOwnPassword principal currentPassword newPassword
  | .createAccount actor username displayName roles =>
    service.createAccount actor username displayName roles
  | .setAccountEnabled actor accountId enabled =>
    AuthService.setAccountEnabled actor accountId enabled
  | .setAccountRoles actor accountId roles => AuthService.setAccountRoles actor accountId roles
  | .resetPassword actor accountId => AuthService.resetPassword actor accountId
  | .revokeSessions actor accountId => AuthService.revokeSessions actor accountId

end Lotur.Auth
