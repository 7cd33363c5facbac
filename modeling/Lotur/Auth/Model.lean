import Lotur.Protocol.JavaScript

/-! Accounts, the artifacts issued to them, and the checks on account input. Times are the
milliseconds of `Date.getTime`. -/
namespace Lotur.Auth

inductive AccountRole where
  | admin
  | developer
  | reviewer
  deriving DecidableEq, Repr

/-- `ACCOUNT_ROLES`. -/
def accountRoles : List AccountRole := [.admin, .developer, .reviewer]

def canAccessSharedContent (roles : List AccountRole) : Bool :=
  roles.contains .reviewer || roles.contains .developer

structure Account where
  id : JsString
  username : JsString
  displayName : JsString
  roles : List AccountRole
  passwordHash : JsString
  enabled : Bool
  mustChangePassword : Bool
  authVersion : ℕ
  createdAt : ℤ
  updatedAt : ℤ
  deriving DecidableEq, Repr

structure AuthSession where
  id : JsString
  tokenDigest : JsString
  accountId : JsString
  accountAuthVersion : ℕ
  audience : JsString
  createdAt : ℤ
  expiresAt : ℤ
  lastSeenAt : ℤ
  deriving DecidableEq, Repr

structure LoginThrottle where
  key : JsString
  failures : ℕ
  lockedUntil : Option ℤ
  updatedAt : ℤ
  deriving DecidableEq, Repr

structure LoginIntent where
  id : JsString
  targetHost : JsString
  targetPath : JsString
  expiresAt : ℤ
  deriving DecidableEq, Repr

structure SessionExchange where
  codeDigest : JsString
  accountId : JsString
  accountAuthVersion : ℕ
  targetHost : JsString
  targetPath : JsString
  expiresAt : ℤ
  deriving DecidableEq, Repr

inductive CarrierPurpose where
  | create
  | resume
  deriving DecidableEq, Repr

structure CarrierCredential where
  id : JsString
  secretDigest : JsString
  accountId : JsString
  accountAuthVersion : ℕ
  purpose : CarrierPurpose
  tunnelId : JsString
  expiresAt : ℤ
  deriving DecidableEq, Repr

structure DeveloperAuthorization where
  accountId : JsString
  accountAuthVersion : ℕ
  username : JsString
  purpose : CarrierPurpose
  tunnelId : JsString
  deriving DecidableEq, Repr

inductive AuditAction where
  | accountBootstrapped
  | accountCreated
  | accountEnabled
  | accountDisabled
  | accountRolesChanged
  | passwordChanged
  | passwordReset
  | sessionsRevoked
  deriving DecidableEq, Repr

structure AuditEvent where
  id : JsString
  action : AuditAction
  actorAccountId : Option JsString
  targetAccountId : Option JsString
  occurredAt : ℤ
  deriving DecidableEq, Repr

structure Principal where
  accountId : JsString
  username : JsString
  displayName : JsString
  roles : List AccountRole
  mustChangePassword : Bool
  authVersion : ℕ
  sessionId : JsString
  deriving DecidableEq, Repr

structure AccountAuthorization where
  accountId : JsString
  authVersion : ℕ
  deriving DecidableEq, Repr

structure AccountMutationAuthorization extends AccountAuthorization where
  requiredRole : Option AccountRole := none
  allowPasswordChangeRequired : Bool := false
  deriving DecidableEq, Repr

structure StoredArtifactLimits where
  global : ℕ
  perAccount : ℕ
  deriving DecidableEq, Repr

structure LoginIntentLimits where
  global : ℕ
  perHost : ℕ
  deriving DecidableEq, Repr

structure LoginThrottleLimits where
  global : ℕ
  deriving DecidableEq, Repr

structure AuditEventLimits where
  global : ℕ
  operationalReserve : ℕ
  deriving DecidableEq, Repr

/-- `DEFAULT_AUDIT_EVENT_LIMITS`. -/
def defaultAuditEventLimits : AuditEventLimits := ⟨1000000, 1000⟩

inductive AuthErrorCode where
  | bootstrapClosed
  | passwordChangeRequired
  | forbidden
  | loginThrottled
  | authCapacity
  | invalidCredentials
  | invalidAccountInput
  | loginIntentCapacity
  | accountExists
  | accountNotFound
  | lastAdministrator
  | accountConflict
  | weakPassword
  deriving DecidableEq, Repr

structure AuthError where
  code : AuthErrorCode
  message : String
  deriving DecidableEq, Repr

/-- `a`-`z` and `0`-`9`. -/
def isLowerAlphanumeric (unit : UInt16) : Bool :=
  (0x61 ≤ unit && unit ≤ 0x7a) || (0x30 ≤ unit && unit ≤ 0x39)

/-- `COMMON_PASSWORDS`. -/
def commonPasswords : List JsString :=
  ["passwordpassword", "password123456", "qwertyuiop12345", "123456789012345"].map JsString.ofAscii

def validatePassword (toLowerCase : JsString → JsString) (password : JsString) :
    Except AuthError Unit := do
  if password.length < 15 ∨ 128 < password.length then
    throw ⟨.weakPassword, "비밀번호는 15자 이상 128자 이하여야 합니다."⟩
  if commonPasswords.contains (toLowerCase password) then
    throw ⟨.weakPassword, "널리 사용되는 비밀번호는 사용할 수 없습니다."⟩

/-- The pattern of `normalizeUsername`: one letter or digit, then 2 to 63 letters, digits, dots,
underscores or hyphens. -/
def matchesUsername : JsString → Bool
  | [] => false
  | first :: rest => isLowerAlphanumeric first && decide (2 ≤ rest.length ∧ rest.length ≤ 63) &&
      rest.all fun unit => isLowerAlphanumeric unit || unit ∈ [0x2e, 0x5f, 0x2d]

def normalizeUsername (toLowerCase : JsString → JsString) (username : JsString) :
    Except AuthError JsString :=
  let normalized := toLowerCase username.trim
  if matchesUsername normalized then .ok normalized
  else .error ⟨.invalidAccountInput,
    "아이디는 영문 소문자 또는 숫자로 시작하는 3~64자의 영문·숫자·점·밑줄·하이픈이어야 합니다."⟩

def normalizeDisplayName (displayName : JsString) : Except AuthError JsString :=
  let normalized := displayName.trim
  if normalized.length < 1 ∨ 80 < normalized.length ∨
      normalized.any (fun unit => unit ≤ 0x1f || unit = 0x7f) then
    .error ⟨.invalidAccountInput, "표시 이름은 1~80자여야 합니다."⟩
  else .ok normalized

/-- The roles of an input are typed, so only an empty list is refused. -/
def normalizeRoles (roles : List AccountRole) : Except AuthError (List AccountRole) :=
  if roles.isEmpty then
    .error ⟨.invalidAccountInput, "하나 이상의 올바른 권한이 필요합니다."⟩
  else .ok (accountRoles.filter roles.contains)

/-- The pattern of a tunnel id: 1 to 63 letters, digits or hyphens, no hyphen at either end. -/
def matchesTunnelId (tunnelId : JsString) : Bool :=
  decide (1 ≤ tunnelId.length ∧ tunnelId.length ≤ 63) &&
    tunnelId.all (fun unit => isLowerAlphanumeric unit || unit = 0x2d) &&
    tunnelId.head? ≠ some 0x2d && tunnelId.getLast? ≠ some 0x2d

def Account.authorization (account : Account) : AccountAuthorization :=
  ⟨account.id, account.authVersion⟩

def Principal.authorization (principal : Principal) : AccountAuthorization :=
  ⟨principal.accountId, principal.authVersion⟩

def toPrincipal (account : Account) (sessionId : JsString) : Principal where
  accountId := account.id
  username := account.username
  displayName := account.displayName
  roles := account.roles
  mustChangePassword := account.mustChangePassword
  authVersion := account.authVersion
  sessionId := sessionId

def administratorAuthorization (actor : AccountAuthorization) : AccountMutationAuthorization :=
  { actor with requiredRole := some .admin }

end Lotur.Auth
