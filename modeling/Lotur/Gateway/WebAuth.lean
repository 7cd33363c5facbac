import Lotur.Auth.LoginReturn
import Lotur.Gateway.ClientAddress
import Lotur.Gateway.CookieHeader
import Lotur.Library.Handlers
import Lotur.Library.Utf8

/-! `web-auth.ts`: the requests of the control host and the authorization of content requests, as
programs over the calls of the authentication service, the admissions and the extensions. -/
namespace Lotur.Gateway.WebAuth
open JsString Interleaving Auth WhatwgUrl ClientAddress

section UrlEncoded

def percentDecode : List ℕ → List ℕ
  | 0x25 :: high :: low :: rest =>
    match hexValue high.toUInt16, hexValue low.toUInt16 with
    | some high, some low => (high * 16 + low) :: percentDecode rest
    | _, _ => 0x25 :: percentDecode (high :: low :: rest)
  | byte :: rest => byte :: percentDecode rest
  | [] => []

def formDecode (bytes : List ℕ) : JsString :=
  Utf8.decode ((percentDecode (bytes.map fun byte => if byte = 0x2b then 0x20 else byte)).map
    Nat.toUInt8)

/-- The pairs of `new URLSearchParams(text)`. -/
def searchParams (text : JsString) : List (JsString × JsString) :=
  let text := if text.head? = some 0x3f then text.tail else text
  let parts := ((scalarValues text).flatMap utf8).splitOn 0x26
  (parts.filter (· ≠ [])).map fun part =>
    (formDecode (part.takeWhile (· ≠ 0x3d)), formDecode ((part.dropWhile (· ≠ 0x3d)).drop 1))

def get (params : List (JsString × JsString)) (name : String) : Option JsString :=
  params.lookup (ofAscii name)

def getAll (params : List (JsString × JsString)) (name : String) : List JsString :=
  (params.filter fun param => param.1 = ofAscii name).map Prod.snd

def has (params : List (JsString × JsString)) (name : String) : Bool :=
  (get params name).isSome

def isAlphanumeric (c : ℕ) : Bool := isAlpha c || isDigit c

/-- The tokens and paths that it is given hold no lone surrogates. -/
def encodeURIComponent (value : JsString) : JsString :=
  ofText ((scalarValues value).flatMap (percentEncode fun c =>
    !(isAlphanumeric c || c ∈ text "-_.!~*'()")))

def formEncode (value : JsString) : JsString :=
  ofText ((scalarValues value).flatMap fun c =>
    if c = 0x20 then [0x2b]
    else percentEncode (fun c => !(isAlphanumeric c || c ∈ text "*-._")) c)

/-- The text of `new URLSearchParams(fields)`. -/
def formText (fields : List (String × JsString)) : JsString :=
  join (ofAscii "&") (fields.map fun field => ofAscii field.1 ++ 0x3d :: formEncode field.2)

end UrlEncoded

section Data

structure WebAuthOptions where
  controlHost : JsString
  secureCookies : Bool
  setKillSwitch : Bool
  getKillSwitch : Bool
  reserveCarrierCredential : Bool
  admitLoginIntent : Bool
  clientControlExtension : Option (JsString → JsString → Bool)
  reviewControlExtension : Option (JsString → JsString → Bool)
  resolveClientAddress : ClientAddressResolver
  parseHost : Bool → Text → Option Text

/-- What is read of an `IncomingMessage`. -/
structure IncomingMessage where
  method : JsString
  url : JsString
  host : Option JsString
  origin : Option JsString
  cookie : Option JsString
  authorization : Option JsString
  contentType : Option JsString
  reviewTunnelClient : Option JsString
  accept : JsString
  secFetchMode : Option JsString
  secFetchDest : Option JsString
  rawHeaders : List JsString
  forwardedFor : Option ForwardedFor
  remoteAddress : Option JsString
  body : List UInt8

inductive WebError where
  | auth (error : AuthError)
  | boundary (statusCode : ℕ) (code : String)
  | other
  deriving DecidableEq, Repr

def capacityError : WebError := .boundary 429 "AUTHENTICATION_CAPACITY"

def unavailableError : WebError := .boundary 503 "AUTHENTICATION_UNAVAILABLE"

structure Login where
  principal : Principal
  sessionToken : JsString
  deriving DecidableEq, Repr

structure Exchange where
  code : JsString
  targetHost : JsString
  deriving DecidableEq, Repr

structure TemporaryPassword where
  username : JsString
  temporaryPassword : JsString
  deriving DecidableEq, Repr

/-- The pages of `web-auth-pages.ts` with what they show. -/
inductive Page where
  | sessionExchange (location : JsString)
  | operations (killSwitchEnabled : Bool)
  | login (intent : Option JsString) (error : Option String) (returnTo : JsString)
  | passwordChange (intent : Option JsString) (error : Option String) (returnTo : JsString)
  | account (principal : Principal)
  | users (principal : Principal) (accounts : List Account)
  | temporaryPasswordSuccess (issued : TemporaryPassword)
  | message (text : String)
  deriving DecidableEq, Repr

inductive Body where
  | empty
  | html (page : Page)
  | error (code : String)
  | session (sessionToken : JsString) (expiresInSeconds : ℕ)
  | credential (credential tunnelId : JsString) (expiresInSeconds : ℕ)
  | extension
  deriving DecidableEq, Repr

structure ServerResponse where
  statusCode : ℕ
  headers : List (String × JsString)
  body : Body
  deriving DecidableEq, Repr

/-- What a request asks of its surroundings. -/
inductive Ask where
  | withinDeadline
  | acquireAuthorization (remoteAddress : JsString)
  | acquireAttempt (remoteAddress : JsString)
  | releaseAttempt (remoteAddress : JsString)
  | resolveSession (sessionToken audience : JsString)
  | authenticate (input : Credentials)
  | verifyAdministratorCredentials (input : Credentials)
  | logout (principal : Principal)
  | createLoginIntent (targetHost targetPath : JsString)
  | createSessionExchange (principal : Principal) (intent : JsString)
  | consumeSessionExchange (code targetHost : JsString)
  | issueCarrierCredential (principal : Principal) (purpose : CarrierPurpose) (tunnelId : JsString)
  | changeOwnPassword (principal : Principal) (currentPassword newPassword : JsString)
  | listAccounts (administrator : Principal)
  | createAccount (actor : AccountAuthorization) (username displayName : JsString)
      (roles : List AccountRole)
  | setAccountEnabled (actor : AccountAuthorization) (accountId : JsString) (enabled : Bool)
  | setAccountRoles (actor : AccountAuthorization) (accountId : JsString)
      (roles : List AccountRole)
  | resetPassword (actor : AccountAuthorization) (accountId : JsString)
  | revokeSessions (actor : AccountAuthorization) (accountId : JsString)
  | randomTunnelId
  | reserveCarrierCredential (principal : Principal) (purpose : CarrierPurpose)
      (tunnelId : JsString)
  | releaseReservation
  | getKillSwitch
  | setKillSwitch (enabled : Bool) (actor : AccountAuthorization)
  | admitLoginIntent (remoteAddress targetHost : JsString)
  | handleClientControl (principal : Principal)
  | handleReviewControl (principal : Principal)

/-- A call that is refused, throws or misses its deadline answers with that error. -/
@[reducible] def Answer : Ask → Type
  | .withinDeadline | .acquireAuthorization _ | .acquireAttempt _ | .getKillSwitch
  | .reserveCarrierCredential _ _ _ | .admitLoginIntent _ _ => Bool
  | .releaseAttempt _ | .releaseReservation => Unit
  | .randomTunnelId => JsString
  | .resolveSession _ _ => Except WebError (Option Principal)
  | .authenticate _ => Except WebError Login
  | .verifyAdministratorCredentials _ => Except WebError AccountAuthorization
  | .createLoginIntent _ _ | .issueCarrierCredential _ _ _ => Except WebError JsString
  | .createSessionExchange _ _ => Except WebError Exchange
  | .consumeSessionExchange _ _ => Except WebError (JsString × JsString)
  | .listAccounts _ => Except WebError (List Account)
  | .createAccount _ _ _ _ | .resetPassword _ _ => Except WebError TemporaryPassword
  | .logout _ | .changeOwnPassword _ _ _ | .setAccountEnabled _ _ _ | .setAccountRoles _ _ _
  | .revokeSessions _ _ | .setKillSwitch _ _ => Except WebError Unit
  | .handleClientControl _ | .handleReviewControl _ => Except WebError ServerResponse

abbrev WebM := Program Answer WebError

def ask (query : Ask) : WebM (Answer query) := Program.query query

def throwAuth {α : Type} (code : AuthErrorCode) (message : String) : WebM α :=
  .fail (.auth ⟨code, message⟩)

def settled {α : Type} : Except WebError α → WebM α := Program.settle

end Data

section Responses

namespace ServerResponse

def setHeader (response : ServerResponse) (name : String) (value : JsString) : ServerResponse :=
  { response with headers := (response.headers.filter fun header => header.1 ≠ name) ++
      [(name, value)] }

def contentSecurityPolicy : JsString :=
  ofAscii ("default-src 'none'; style-src 'unsafe-inline'; form-action 'self'; base-uri 'none'; " ++
    "frame-ancestors 'none'")

def applySecurityHeaders (response : ServerResponse) : ServerResponse :=
  ((((response.setHeader "Content-Security-Policy" contentSecurityPolicy).setHeader
    "X-Content-Type-Options" (ofAscii "nosniff")).setHeader
    "X-Frame-Options" (ofAscii "DENY")).setHeader
    "Referrer-Policy" (ofAscii "same-origin")).setHeader
    "Cache-Control" (ofAscii "no-store")

def redirect (response : ServerResponse) (location : JsString) : ServerResponse :=
  { response.setHeader "Location" location with statusCode := 303, body := .empty }

def writeHtml (response : ServerResponse) (status : ℕ) (page : Page) : ServerResponse :=
  { response.setHeader "Content-Type" (ofAscii "text/html; charset=utf-8") with
    statusCode := status, body := .html page }

def writeJson (response : ServerResponse) (status : ℕ) (body : Body) : ServerResponse :=
  { response.setHeader "Content-Type" (ofAscii "application/json; charset=utf-8") with
    statusCode := status, body }

def writeJsonError (response : ServerResponse) (status : ℕ) (code : String) : ServerResponse :=
  response.writeJson status (.error code)

def writeNoContent (response : ServerResponse) : ServerResponse :=
  { response.setHeader "Cache-Control" (ofAscii "no-store") with statusCode := 204, body := .empty }

def setSessionCookie (response : ServerResponse) (name token : JsString) (secure : Bool) :
    ServerResponse :=
  response.setHeader "Set-Cookie" (name ++ 0x3d :: encodeURIComponent token ++
    ofAscii "; Path=/; HttpOnly; SameSite=Lax; Max-Age=43200" ++
    if secure then ofAscii "; Secure" else [])

def clearSessionCookie (response : ServerResponse) (name : JsString) (secure : Bool) :
    ServerResponse :=
  response.setHeader "Set-Cookie" (name ++ ofAscii "=; Path=/; HttpOnly; SameSite=Lax; Max-Age=0" ++
    if secure then ofAscii "; Secure" else [])

end ServerResponse

/-- The response that the security headers have been applied to. -/
def secured : ServerResponse := ServerResponse.applySecurityHeaders ⟨200, [], .empty⟩

def errorStatus : AuthErrorCode → ℕ
  | .loginThrottled | .loginIntentCapacity | .authCapacity => 429
  | .forbidden => 403
  | .accountNotFound => 404
  | _ => 400

/-- `AuthError.code` as a text. -/
def codeText : AuthErrorCode → String
  | .bootstrapClosed => "BOOTSTRAP_CLOSED"
  | .passwordChangeRequired => "PASSWORD_CHANGE_REQUIRED"
  | .forbidden => "FORBIDDEN"
  | .loginThrottled => "LOGIN_THROTTLED"
  | .authCapacity => "AUTH_CAPACITY"
  | .invalidCredentials => "INVALID_CREDENTIALS"
  | .invalidAccountInput => "INVALID_ACCOUNT_INPUT"
  | .loginIntentCapacity => "LOGIN_INTENT_CAPACITY"
  | .accountExists => "ACCOUNT_EXISTS"
  | .accountNotFound => "ACCOUNT_NOT_FOUND"
  | .lastAdministrator => "LAST_ADMINISTRATOR"
  | .accountConflict => "ACCOUNT_CONFLICT"
  | .weakPassword => "WEAK_PASSWORD"

def isApiPath (path : JsString) : Bool := path.startsWith (ofAscii "/api/")

def handleWebError (response : ServerResponse) (path : JsString) (intent : Option JsString)
    (returnTo : JsString) : WebError → ServerResponse
  | .boundary statusCode code =>
    let response :=
      if statusCode = 429 then response.setHeader "Retry-After" (ofAscii "1") else response
    if isApiPath path then response.writeJsonError statusCode code
    else response.writeHtml statusCode (.message
      (if statusCode = 429 then "인증 요청이 너무 많습니다. 잠시 후 다시 시도하세요."
      else "인증 서비스를 사용할 수 없습니다."))
  | .other =>
    if isApiPath path then response.writeJsonError 503 "AUTHENTICATION_UNAVAILABLE"
    else response.writeHtml 503 (.message "인증 서비스를 사용할 수 없습니다.")
  | .auth ⟨code, message⟩ =>
    let status := errorStatus code
    let response :=
      if code = .loginIntentCapacity ∨ code = .authCapacity then
        response.setHeader "Retry-After" (ofAscii "60")
      else response
    if isApiPath path then response.writeJsonError status (codeText code)
    else if path = ofAscii "/login" then
      response.writeHtml status (.login intent (some message) returnTo)
    else if path = ofAscii "/account/change-password" then
      response.writeHtml status (.passwordChange intent (some message) returnTo)
    else response.writeHtml status (.message message)

def handleHttpBoundaryFailure : WebError → ServerResponse
  | .boundary statusCode code =>
    (if statusCode = 429 then secured.setHeader "Retry-After" (ofAscii "1")
      else secured).writeJsonError statusCode code
  | _ => secured.writeJsonError 503 "AUTHENTICATION_UNAVAILABLE"

end Responses

section Requests

namespace WebAuthOptions

variable (options : WebAuthOptions)

def scheme : JsString := if options.secureCookies then ofAscii "https" else ofAscii "http"

def controlCookie : JsString :=
  if options.secureCookies then ofAscii "__Host-rt_control" else ofAscii "rt_control_dev"

def contentCookie : JsString :=
  if options.secureCookies then ofAscii "__Host-rt_session" else ofAscii "rt_session_dev"

/-- `new URL(request.url, origin)`. -/
def requestUrl (authority target : JsString) : Option Url :=
  match parseBase options.parseHost
      (scalarValues (options.scheme ++ ofAscii "://" ++ authority)) with
  | none => none
  | some base => parse options.parseHost base (scalarValues target)

def address (request : IncomingMessage) : JsString :=
  clientAddress options.resolveClientAddress request.rawHeaders request.remoteAddress
    request.forwardedFor

/-- `none` is a `TypeError` of `new URL`. -/
def safeReviewReturn (value : Option JsString) : Option JsString :=
  match value with
  | none => some []
  | some value =>
    if value.length > 2048 ∨
        !(ofAscii "/reviews/" <+: value || ofAscii "/reviews?" <+: value ||
          value = ofAscii "/reviews") ∨
        value.any fun unit => unit ≤ 32 || unit = 0x5c then some []
    else
      match parseBase options.parseHost (text "https://control.invalid") with
      | none => none
      | some base =>
        (parse options.parseHost base (scalarValues value)).map fun url =>
          if url.scheme = text "https" ∧ url.host = some (text "control.invalid") ∧
              url.port = none ∧ (text "/reviews/" <+: url.pathname ∨ url.pathname = text "/reviews")
          then ofText (url.pathname ++ url.search) else []

end WebAuthOptions

def isSameOrigin (scheme : JsString) (request : IncomingMessage) : Bool :=
  match request.host with
  | none => false
  | some host => request.origin = some (scheme ++ ofAscii "://" ++ host)

def requireSameOrigin (scheme : JsString) (request : IncomingMessage) : WebM Unit :=
  if isSameOrigin scheme request then pure ()
  else throwAuth .forbidden "요청 출처를 확인할 수 없습니다."

def isCliRequest (request : IncomingMessage) : Bool :=
  request.reviewTunnelClient = some (ofAscii "1") && request.origin.isNone

def requireCliRequest (request : IncomingMessage) : WebM Unit :=
  if isCliRequest request then pure ()
  else throwAuth .forbidden "올바르지 않은 Client 요청입니다."

def bearerToken (header : Option JsString) : Option JsString :=
  match header with
  | none => none
  | some header =>
    if !header.startsWith (ofAscii "Bearer ") then none
    else
      let token := header.drop 7
      if token.length ≥ 20 ∧ token.length ≤ 512 then some token else none

/-- `MAX_FORM_BYTES`. -/
def maxFormBytes : ℕ := 16 * 1024

def readForm (request : IncomingMessage) : WebM (List (JsString × JsString)) :=
  if (request.contentType.map fun value => value.takeWhile (· ≠ 0x3b)) ≠
      some (ofAscii "application/x-www-form-urlencoded") then
    throwAuth .invalidAccountInput "지원하지 않는 요청 형식입니다."
  else if request.body.length > maxFormBytes then
    throwAuth .invalidAccountInput "요청이 너무 큽니다."
  else pure (searchParams (Utf8.decode request.body))

def requiredFormValue (form : List (JsString × JsString)) (name : String) : WebM JsString :=
  match get form name with
  | none | some [] => throwAuth .invalidAccountInput (name ++ " 값이 필요합니다.")
  | some value => pure value

def requiredBooleanFormValue (form : List (JsString × JsString)) (name : String) : WebM Bool := do
  let value ← requiredFormValue form name
  if value = ofAscii "true" then pure true
  else if value = ofAscii "false" then pure false
  else throwAuth .invalidAccountInput (name ++ " 값은 true 또는 false여야 합니다.")

def roleOfText (value : JsString) : Option AccountRole :=
  if value = ofAscii "ADMIN" then some .admin
  else if value = ofAscii "DEVELOPER" then some .developer
  else if value = ofAscii "REVIEWER" then some .reviewer
  else none

def rolesFromForm (form : List (JsString × JsString)) : WebM (List AccountRole) :=
  let submitted := getAll form "roles"
  if submitted = [] then throwAuth .invalidAccountInput "하나 이상의 권한이 필요합니다."
  else
    match submitted.mapM roleOfText with
    | none => throwAuth .invalidAccountInput "권한 값은 지원되는 고유 role이어야 합니다."
    | some roles =>
      if submitted.Nodup then pure roles
      else throwAuth .invalidAccountInput "권한 값은 지원되는 고유 role이어야 합니다."

inductive AdminAction where
  | enable
  | disable
  | roles
  | reset
  | revoke
  deriving DecidableEq, Repr

def actionOfText (value : JsString) : Option AdminAction :=
  if value = ofAscii "enable" then some .enable
  else if value = ofAscii "disable" then some .disable
  else if value = ofAscii "roles" then some .roles
  else if value = ofAscii "reset" then some .reset
  else if value = ofAscii "revoke" then some .revoke
  else none

/-- An account id that does not decode is a `URIError`. -/
def matchAdminAction (pathname : JsString) : WebM (Option (JsString × AdminAction)) :=
  match pathname.split 0x2f with
  | [[], first, second, accountId, action] =>
    if first = ofAscii "admin" ∧ second = ofAscii "users" ∧ accountId ≠ [] then
      match actionOfText action with
      | none => pure none
      | some action =>
        match decodeURIComponent accountId with
        | none => .fail .other
        | some accountId => pure (some (accountId, action))
    else pure none
  | _ => pure none

end Requests

section Operations

variable (options : WebAuthOptions) (request : IncomingMessage)

/-- The operation goes on without the admission, which is kept until it has settled. -/
def startAdmittedAuthorizationOperation {α : Type} (operation : WebM α) : WebM α := do
  if ← ask (.acquireAuthorization (options.address request)) then operation
  else .fail capacityError

def runAuthorizationQuery {α : Type} (operation : WebM α) : WebM α := do
  if ← ask .withinDeadline then startAdmittedAuthorizationOperation options request operation
  else .fail unavailableError

def runAuthorizationMutation {α : Type} (operation : WebM α) : WebM α :=
  startAdmittedAuthorizationOperation options request operation

def withCredentialAttempt {α : Type} (remoteAddress : JsString) (operation : WebM α) : WebM α := do
  if ← ask (.acquireAttempt remoteAddress) then
    operation.ensuring (ask (.releaseAttempt remoteAddress))
  else throwAuth .loginThrottled "로그인 시도가 너무 많습니다. 잠시 후 다시 시도하세요."

def resolveSession (sessionToken audience : JsString) : WebM (Option Principal) := do
  settled (← ask (.resolveSession sessionToken audience))

def logout (principal : Principal) : WebM Unit := do settled (← ask (.logout principal))

def authenticateWithinAdmission (input : Credentials) : WebM Login :=
  withCredentialAttempt input.remoteAddress do settled (← ask (.authenticate input))

def createSessionExchange (principal : Principal) (intent : JsString) : WebM Exchange := do
  settled (← ask (.createSessionExchange principal intent))

def createSessionExchangeWithLoginCompensation (login : Login) (intent : JsString) :
    WebM (Option Exchange) :=
  if intent = [] then pure none
  else (some <$> createSessionExchange login.principal intent).rescue fun error => do
    logout login.principal
    .fail error

def resolveCookiePrincipalForRequest (name audience : JsString) : WebM (Option Principal) :=
  match parseCookie request.cookie name with
  | none => pure none
  | some token => runAuthorizationQuery options request (resolveSession token audience)

def requireAdministrator (principal : Option Principal) : WebM Principal :=
  match principal with
  | none => throwAuth .forbidden "로그인이 필요합니다."
  | some principal =>
    if principal.mustChangePassword then
      throwAuth .passwordChangeRequired "먼저 비밀번호를 변경하세요."
    else if !principal.roles.contains .admin then
      throwAuth .forbidden "관리자 권한이 필요합니다."
    else pure principal

/-- `confirmAdministratorPassword` with `verifyAdministratorCredentialsWithinAdmission`. -/
def confirmAdministratorPassword (administrator : Principal) (form : List (JsString × JsString)) :
    WebM AccountAuthorization := do
  let password ← requiredFormValue form "adminPassword"
  withCredentialAttempt (options.address request) do
    settled (← ask (.verifyAdministratorCredentials
      ⟨administrator.username, password, options.address request⟩))

def exchangeLocation (exchange : Exchange) : JsString :=
  options.scheme ++ ofAscii "://" ++ exchange.targetHost ++
    ofAscii "/_review-tunnel/session?code=" ++ encodeURIComponent exchange.code

def unreferred (response : ServerResponse) : ServerResponse :=
  (response.setHeader "Cache-Control" (ofAscii "no-store")).setHeader "Referrer-Policy"
    (ofAscii "no-referrer")

def completeFormExchange (response : ServerResponse) (location : JsString) : ServerResponse :=
  response.writeHtml 200 (.sessionExchange location)

def redirectToExchangeForRequest (principal : Principal) (intent : JsString) :
    WebM ServerResponse := do
  let exchange ← runAuthorizationMutation options request (createSessionExchange principal intent)
  pure ((unreferred secured).redirect (exchangeLocation options exchange))

/-- The developer whose session the bearer token is. -/
def clientPrincipal : WebM (Option Principal) :=
  match bearerToken request.authorization with
  | none => pure none
  | some token =>
    runAuthorizationQuery options request (resolveSession token (ofAscii "control"))

end Operations

section Routes

variable (options : WebAuthOptions) (request : IncomingMessage) (url : Url)
  (principal : Option Principal) (returnTo : JsString)

def queryParams : List (JsString × JsString) := searchParams (ofText url.search)

/-- Where a login leads without an intent. -/
def loginTarget (login : Login) : JsString :=
  if returnTo ≠ [] then returnTo
  else if login.principal.roles.contains .admin then ofAscii "/admin/users" else ofAscii "/account"

def routeReviewControl : WebM ServerResponse :=
  let path := ofText url.pathname
  match principal.filter fun principal => !principal.mustChangePassword with
  | none =>
    if isApiPath path then pure (secured.writeJsonError 401 "LOGIN_REQUIRED")
    else pure (secured.redirect
      ((if principal.isNone then ofAscii "/login" else ofAscii "/account/change-password") ++
        ofAscii "?returnTo=" ++ encodeURIComponent (path ++ ofText url.search)))
  | some principal => do
    if !canAccessSharedContent principal.roles then
      throwAuth .forbidden "리뷰 권한이 필요합니다."
    else
      if request.method ≠ ofAscii "GET" then requireSameOrigin options.scheme request
      runAuthorizationMutation options request do
        settled (← ask (.handleReviewControl principal))

def routeClientLogin : WebM ServerResponse := do
  requireCliRequest request
  let form ← readForm request
  let username ← requiredFormValue form "username"
  let password ← requiredFormValue form "password"
  let login ← runAuthorizationMutation options request do
    let candidate ← authenticateWithinAdmission ⟨username, password, options.address request⟩
    if candidate.principal.mustChangePassword then
      logout candidate.principal
      throwAuth .passwordChangeRequired "먼저 웹 또는 관리자 CLI에서 비밀번호를 변경하세요."
    else if !candidate.principal.roles.contains .developer then
      logout candidate.principal
      throwAuth .forbidden "개발자 권한이 필요합니다."
    else pure candidate
  pure (secured.writeJson 200 (.session login.sessionToken 43200))

def routeClientLogout : WebM ServerResponse := do
  requireCliRequest request
  match ← clientPrincipal options request with
  | none => pure secured.writeNoContent
  | some principal =>
    runAuthorizationMutation options request (logout principal)
    pure secured.writeNoContent

def issueReserved (principal : Principal) (purpose : CarrierPurpose) (tunnelId : JsString) :
    WebM ServerResponse := do
  let issue : WebM JsString := runAuthorizationMutation options request do
    settled (← ask (.issueCarrierCredential principal purpose tunnelId))
  let credential ← issue.rescue fun error => do
    if options.reserveCarrierCredential then ask .releaseReservation
    .fail error
  pure (secured.writeJson 201 (.credential credential tunnelId 60))

def routeCarrierCredentials : WebM ServerResponse := do
  requireCliRequest request
  match ← clientPrincipal options request with
  | none => throwAuth .forbidden "로그인이 필요합니다."
  | some principal =>
    let form ← readForm request
    let purpose ← requiredFormValue form "purpose"
    if purpose ≠ ofAscii "create" ∧ purpose ≠ ofAscii "resume" then
      throwAuth .invalidAccountInput "올바르지 않은 Carrier 목적입니다."
    else
      let purpose := if purpose = ofAscii "create" then .create else .resume
      let tunnelId ←
        if purpose = .create then ask .randomTunnelId else requiredFormValue form "tunnelId"
      if options.reserveCarrierCredential then
        if ← ask (.reserveCarrierCredential principal purpose tunnelId) then
          issueReserved options request principal purpose tunnelId
        else
          pure ((secured.setHeader "Retry-After" (ofAscii "60")).writeJsonError 429
            "TUNNEL_LIMIT_EXCEEDED")
      else issueReserved options request principal purpose tunnelId

def routeClientControl : WebM ServerResponse := do
  requireCliRequest request
  match ← clientPrincipal options request with
  | none => throwAuth .forbidden "개발자 권한이 필요합니다."
  | some principal =>
    if principal.mustChangePassword || !principal.roles.contains .developer then
      throwAuth .forbidden "개발자 권한이 필요합니다."
    else
      runAuthorizationMutation options request do
        settled (← ask (.handleClientControl principal))

def routeOperations : WebM ServerResponse := do
  let _ ← requireAdministrator principal
  let enabled ← ask .getKillSwitch
  pure (secured.writeHtml 200 (.operations enabled))

def routeKillSwitch : WebM ServerResponse := do
  requireSameOrigin options.scheme request
  let administrator ← requireAdministrator principal
  let form ← readForm request
  runAuthorizationMutation options request do
    let confirmed ← confirmAdministratorPassword options request administrator form
    let enabled ← requiredBooleanFormValue form "enabled"
    settled (← ask (.setKillSwitch enabled confirmed))
  let enabled ← ask .getKillSwitch
  pure (secured.writeHtml 200 (.operations enabled))

def routeLoginPage : WebM ServerResponse :=
  match principal.filter fun principal => !principal.mustChangePassword with
  | some principal =>
    if returnTo ≠ [] ∧ !has (queryParams url) "intent" then pure (secured.redirect returnTo)
    else
      match get (queryParams url) "intent" with
      | some intent => redirectToExchangeForRequest options request principal intent
      | none => pure (secured.writeHtml 200 (.login none none returnTo))
  | none => pure (secured.writeHtml 200 (.login (get (queryParams url) "intent") none returnTo))

/-- The response to a login that has succeeded. -/
def loggedIn (login : Login) (exchange : Option Exchange) : ServerResponse :=
  let response := secured.setSessionCookie options.controlCookie login.sessionToken
    options.secureCookies
  match exchange with
  | some exchange => completeFormExchange (unreferred response) (exchangeLocation options exchange)
  | none => response.redirect (loginTarget returnTo login)

def routeLogin : WebM ServerResponse := do
  requireSameOrigin options.scheme request
  let form ← readForm request
  let intent := (get form "intent").getD []
  let (login, exchange) ← runAuthorizationMutation options request do
    let username ← requiredFormValue form "username"
    let password ← requiredFormValue form "password"
    let login ← authenticateWithinAdmission ⟨username, password, options.address request⟩
    let exchange ←
      if login.principal.mustChangePassword then pure none
      else createSessionExchangeWithLoginCompensation login intent
    pure (login, exchange)
  if login.principal.mustChangePassword then
    pure ((secured.setSessionCookie options.controlCookie login.sessionToken
      options.secureCookies).redirect (ofAscii "/account/change-password?" ++
        formText [("intent", intent), ("returnTo", returnTo)]))
  else pure (loggedIn options returnTo login exchange)

def routePasswordChangePage : WebM ServerResponse :=
  match principal with
  | none => pure (secured.redirect (ofAscii "/login" ++ ofText url.search))
  | some _ =>
    pure (secured.writeHtml 200 (.passwordChange (get (queryParams url) "intent") none returnTo))

def routePasswordChange : WebM ServerResponse := do
  requireSameOrigin options.scheme request
  match principal with
  | none => throwAuth .forbidden "로그인이 필요합니다."
  | some principal =>
    let form ← readForm request
    let currentPassword ← requiredFormValue form "currentPassword"
    let newPassword ← requiredFormValue form "newPassword"
    let confirmation ← requiredFormValue form "confirmation"
    if newPassword ≠ confirmation then
      throwAuth .weakPassword "새 비밀번호 확인이 일치하지 않습니다."
    else
      let intent := (get form "intent").getD []
      let (login, exchange) ← runAuthorizationMutation options request do
        withCredentialAttempt (options.address request) do
          settled (← ask (.changeOwnPassword principal currentPassword newPassword))
        let login ← authenticateWithinAdmission
          ⟨principal.username, newPassword, options.address request⟩
        let exchange ← createSessionExchangeWithLoginCompensation login intent
        pure (login, exchange)
      pure (loggedIn options returnTo login exchange)

def routeLogout : WebM ServerResponse := do
  requireSameOrigin options.scheme request
  if let some principal := principal then
    runAuthorizationMutation options request (logout principal)
  pure ((secured.clearSessionCookie options.controlCookie options.secureCookies).redirect
    (ofAscii "/login"))

def routeAccount : WebM ServerResponse :=
  match principal with
  | none => pure (secured.redirect (ofAscii "/login"))
  | some principal => pure (secured.writeHtml 200 (.account principal))

def routeUsers : WebM ServerResponse := do
  let administrator ← requireAdministrator principal
  let accounts ← runAuthorizationQuery options request do
    settled (← ask (.listAccounts administrator))
  pure (secured.writeHtml 200 (.users administrator accounts))

def routeCreateAccount : WebM ServerResponse := do
  requireSameOrigin options.scheme request
  let administrator ← requireAdministrator principal
  let form ← readForm request
  let result ← runAuthorizationMutation options request do
    let confirmed ← confirmAdministratorPassword options request administrator form
    let username ← requiredFormValue form "username"
    let displayName ← requiredFormValue form "displayName"
    let roles ← rolesFromForm form
    settled (← ask (.createAccount confirmed username displayName roles))
  pure (secured.writeHtml 201 (.temporaryPasswordSuccess result))

/-- The change itself, once the administrator is confirmed. -/
def applyAction (confirmed : AccountAuthorization) (accountId : JsString)
    (form : List (JsString × JsString)) : AdminAction → WebM (Option TemporaryPassword)
  | .enable => do
    settled (← ask (.setAccountEnabled confirmed accountId true))
    pure none
  | .disable => do
    settled (← ask (.setAccountEnabled confirmed accountId false))
    pure none
  | .roles => do
    let roles ← rolesFromForm form
    settled (← ask (.setAccountRoles confirmed accountId roles))
    pure none
  | .revoke => do
    settled (← ask (.revokeSessions confirmed accountId))
    pure none
  | .reset => do
    let reset ← settled (← ask (.resetPassword confirmed accountId))
    pure (some reset)

def routeAction (accountId : JsString) (action : AdminAction) : WebM ServerResponse := do
  requireSameOrigin options.scheme request
  let administrator ← requireAdministrator principal
  let form ← readForm request
  let resetResult ← runAuthorizationMutation options request do
    let accounts ← settled (← ask (.listAccounts administrator))
    match accounts.find? fun account => account.id = accountId with
    | none => throwAuth .accountNotFound "계정을 찾을 수 없습니다."
    | some target =>
      if action = .reset ∧ target.id = administrator.accountId then
        throwAuth .invalidAccountInput "자신의 비밀번호는 비밀번호 변경 화면에서 변경하세요."
      else
        let confirmed ← confirmAdministratorPassword options request administrator form
        applyAction confirmed target.id form action
  match resetResult with
  | some issued => pure (secured.writeHtml 200 (.temporaryPasswordSuccess issued))
  | none => pure (secured.redirect (ofAscii "/admin/users"))

def routeRest : WebM ServerResponse := do
  match ← matchAdminAction (ofText url.pathname) with
  | some (accountId, action) =>
    if request.method = ofAscii "POST" then routeAction options request principal accountId action
    else pure (secured.writeHtml 404 (.message "페이지를 찾을 수 없습니다."))
  | none => pure (secured.writeHtml 404 (.message "페이지를 찾을 수 없습니다."))

def matchesExtension (extension : Option (JsString → JsString → Bool)) : Bool :=
  extension.any fun applies => applies request.method (ofText url.pathname)

def route : WebM ServerResponse :=
  let isRoute (method path : String) : Bool :=
    request.method = ofAscii method && ofText url.pathname = ofAscii path
  if matchesExtension request url options.reviewControlExtension then
    routeReviewControl options request url principal
  else if isRoute "POST" "/api/client/login" then routeClientLogin options request
  else if isRoute "POST" "/api/client/logout" then routeClientLogout options request
  else if isRoute "POST" "/api/carrier-credentials" then routeCarrierCredentials options request
  else if matchesExtension request url options.clientControlExtension then
    routeClientControl options request
  else if isRoute "GET" "/admin/operations" && options.getKillSwitch then routeOperations principal
  else if isRoute "POST" "/admin/operations/kill-switch" && options.setKillSwitch &&
      options.getKillSwitch then routeKillSwitch options request principal
  else if isRoute "GET" "/login" then routeLoginPage options request url principal returnTo
  else if isRoute "POST" "/login" then routeLogin options request returnTo
  else if isRoute "GET" "/account/change-password" then
    routePasswordChangePage url principal returnTo
  else if isRoute "POST" "/account/change-password" then
    routePasswordChange options request principal returnTo
  else if isRoute "POST" "/logout" then routeLogout options request principal
  else if isRoute "GET" "/account" then routeAccount principal
  else if isRoute "GET" "/admin/users" then routeUsers options request principal
  else if isRoute "POST" "/admin/users" then routeCreateAccount options request principal
  else routeRest options request url principal

end Routes

section Content

variable (options : WebAuthOptions) (request : IncomingMessage)

/-- The `host` of `new URL` in lower case. -/
def normalizedAuthority (hostHeader : Option JsString) : JsString :=
  match hostHeader with
  | none => []
  | some hostHeader =>
    match parseBase options.parseHost (scalarValues (ofAscii "http://" ++ hostHeader)) with
    | none => []
    | some base => JsString.toLowerCase (ofText base.host ++
        match base.port with
        | none => []
        | some port => 0x3a :: ofNat port)

/-- The request as the decision on content requests reads it. -/
def contentRequest (authority : JsString) (principal : Option Principal) (admitted : Bool) :
    ContentRequest where
  authority := authority
  target := request.url
  method := request.method
  accept := request.accept
  fetchMode := request.secFetchMode
  fetchDestination := request.secFetchDest
  principal := principal
  admitted := admitted

def contentPrincipal (principal : Option Principal) : Option Principal :=
  principal.filter fun principal =>
    !principal.mustChangePassword && canAccessSharedContent principal.roles

def resolveContentUpgrade : WebM (Option Principal) := do
  let authority := normalizedAuthority options request.host
  contentPrincipal <$> resolveCookiePrincipalForRequest options request options.contentCookie
    (ofAscii "content:" ++ authority)

def consumeExchange (host : JsString) (url : Url) : WebM ServerResponse := do
  let code := (get (queryParams url) "code").getD []
  let (sessionToken, targetPath) ← runAuthorizationMutation options request do
    settled (← ask (.consumeSessionExchange code host))
  pure ((unreferred (secured.setSessionCookie options.contentCookie sessionToken
    options.secureCookies)).redirect targetPath)

def startLogin (host : JsString) (url : Url) : WebM ServerResponse := do
  let intent ← runAuthorizationMutation options request do
    settled (← ask (.createLoginIntent host (ofText (url.pathname ++ url.search))))
  pure (secured.redirect (options.scheme ++ ofAscii "://" ++ options.controlHost ++
    ofAscii "/login?intent=" ++ encodeURIComponent intent))

/-- The principal that the request goes on for, or the response that it is answered with. -/
def authorizeContent : WebM (Except ServerResponse Principal) :=
  let host := normalizedAuthority options request.host
  let handler : WebM (Except ServerResponse Principal) := do
    match options.requestUrl host request.url with
    | none => .fail .other
    | some url =>
      let failed (error : WebError) : WebM ServerResponse :=
        pure (handleWebError secured (ofText url.pathname) none [] error)
      if ofText url.pathname = ofAscii "/_review-tunnel/session" then
        Except.error <$> (consumeExchange options request host url).rescue failed
      else
        let principal ← resolveCookiePrincipalForRequest options request options.contentCookie
          (ofAscii "content:" ++ host)
        match contentPrincipal principal with
        | some principal => pure (.ok principal)
        | none =>
          if !isTopLevelHtmlNavigation (contentRequest request host principal true) then
            pure (.error (secured.writeJsonError 401 "AUTHENTICATION_REQUIRED"))
          else
            let admitted ←
              if options.admitLoginIntent then
                ask (.admitLoginIntent (options.address request) host)
              else pure true
            if !admitted then
              pure (.error ((secured.setHeader "Retry-After" (ofAscii "60")).writeJsonError 429
                "LOGIN_INTENT_RATE_LIMITED"))
            else Except.error <$> (startLogin options request host url).rescue failed
  handler.rescue fun error => pure (.error (handleHttpBoundaryFailure error))

end Content

/-- A failure before the routes is left to the boundary. -/
def handleControl (options : WebAuthOptions) (request : IncomingMessage) : WebM ServerResponse :=
  let handler : WebM ServerResponse := do
    match options.requestUrl (request.host.getD options.controlHost) request.url with
    | none => .fail .other
    | some url =>
      let principal ← resolveCookiePrincipalForRequest options request options.controlCookie
        (ofAscii "control")
      match options.safeReviewReturn (get (queryParams url) "returnTo") with
      | none => .fail .other
      | some returnTo =>
        (route options request url principal returnTo).rescue fun error =>
          pure (handleWebError secured (ofText url.pathname) (get (queryParams url) "intent")
            returnTo error)
  handler.rescue fun error => pure (handleHttpBoundaryFailure error)

end Lotur.Gateway.WebAuth
