import Lotur.Gateway.WebAuth

/-! What a control request may ask of its surroundings, and what the operations of the routes ask
and leave behind, whatever the answers are. -/
namespace Lotur.Gateway.WebAuth
open JsString Interleaving Auth

abbrev History := List (Event Answer)

section Events

def loginOf : Event Answer → Option Login
  | ⟨.authenticate _, .ok login⟩ => some login
  | _ => none

def logoutOf : Event Answer → Option Principal
  | ⟨.logout principal, _⟩ => some principal
  | _ => none

def resolvedOf : Event Answer → Option Principal
  | ⟨.resolveSession _ _, .ok principal⟩ => principal
  | _ => none

def confirmedOf : Event Answer → Option (Credentials × AccountAuthorization)
  | ⟨.verifyAdministratorCredentials input, .ok actor⟩ => some (input, actor)
  | _ => none

def isAcquired : Event Answer → Bool
  | ⟨.acquireAttempt _, acquired⟩ => acquired
  | _ => false

def isReleased : Event Answer → Bool
  | ⟨.releaseAttempt _, _⟩ => true
  | _ => false

end Events

section Guards

variable (options : WebAuthOptions) (request : IncomingMessage)

/-- The page that sent the request is the gateway's own, or no page sent it. -/
def Vouched : Prop := isSameOrigin options.scheme request = true ∨ isCliRequest request = true

def isPost : Prop := request.method = ofAscii "POST"

def Resolved (history : History) (principal : Principal) : Prop :=
  principal ∈ history.filterMap resolvedOf

def LoggedIn (history : History) (principal : Principal) : Prop :=
  ∃ login ∈ history.filterMap loginOf, login.principal = principal

def IsAdministrator (principal : Principal) : Prop :=
  principal.mustChangePassword = false ∧ .admin ∈ principal.roles

/-- The password of an administrator who is logged in was checked in this request. -/
def Confirmed (history : History) (actor : AccountAuthorization) : Prop :=
  ∃ administrator password, Resolved history administrator ∧ IsAdministrator administrator ∧
    (⟨administrator.username, password, options.address request⟩, actor) ∈
      history.filterMap confirmedOf

/-- An attempt at a password was admitted just before. -/
def Attempted (history : History) : Prop :=
  history.head? = some ⟨.acquireAttempt (options.address request), true⟩

/-- What may be asked after what has been answered. -/
def Asks (history : History) : Ask → Prop
  | .resolveSession token audience => audience = ofAscii "control" ∧
      (parseCookie request.cookie options.controlCookie = some token ∨
        isCliRequest request = true ∧ bearerToken request.authorization = some token)
  | .authenticate input => isPost request ∧ Vouched options request ∧
      Attempted options request history ∧ input.remoteAddress = options.address request
  | .verifyAdministratorCredentials input => isPost request ∧
      isSameOrigin options.scheme request = true ∧ Attempted options request history ∧
      ∃ administrator, Resolved history administrator ∧ IsAdministrator administrator ∧
        input.username = administrator.username ∧ input.remoteAddress = options.address request
  | .changeOwnPassword principal _ _ => isPost request ∧
      isSameOrigin options.scheme request = true ∧ Attempted options request history ∧
      Resolved history principal
  | .logout principal => isPost request ∧ Vouched options request ∧
      (Resolved history principal ∨ LoggedIn history principal)
  | .createSessionExchange principal _ =>
      Resolved history principal ∧ principal.mustChangePassword = false ∨
      isPost request ∧ isSameOrigin options.scheme request = true ∧ LoggedIn history principal
  | .issueCarrierCredential principal _ _ => isPost request ∧ isCliRequest request = true ∧
      Resolved history principal
  | .reserveCarrierCredential principal _ _ => isPost request ∧ isCliRequest request = true ∧
      Resolved history principal
  | .listAccounts principal => Resolved history principal ∧ IsAdministrator principal
  | .createAccount actor _ _ _ | .setAccountEnabled actor _ _ | .setAccountRoles actor _ _
  | .resetPassword actor _ | .revokeSessions actor _ | .setKillSwitch _ actor => isPost request ∧
      isSameOrigin options.scheme request = true ∧ Confirmed options request history actor
  | .handleClientControl principal => isCliRequest request = true ∧ Resolved history principal ∧
      principal.mustChangePassword = false ∧ .developer ∈ principal.roles
  | .handleReviewControl principal =>
      (request.method = ofAscii "GET" ∨ isSameOrigin options.scheme request = true) ∧
      Resolved history principal ∧ principal.mustChangePassword = false ∧
      canAccessSharedContent principal.roles = true
  | .createLoginIntent _ _ | .consumeSessionExchange _ _ | .admitLoginIntent _ _ => False
  | .withinDeadline | .acquireAuthorization _ | .acquireAttempt _ | .releaseAttempt _
  | .randomTunnelId | .releaseReservation | .getKillSwitch => True

end Guards

section Rules

/-- The permits are back, and every session that was opened has been ended. -/
structure Clean (history : History) : Prop where
  permits : history.countP isAcquired = history.countP isReleased
  sessions : ∀ login ∈ history.filterMap loginOf, login.principal ∈ history.filterMap logoutOf

variable {options : WebAuthOptions} {request : IncomingMessage} {history : History}
  {α β : Type}

/-- The program asks what it may, leaves nothing behind when it throws, and otherwise returns what
has the property. -/
def Does (options : WebAuthOptions) (request : IncomingMessage) (history : History) (p : WebM α)
    (returns : History → α → Prop) : Prop :=
  p.Follows (fun _ => True) (Asks options request) (fun history result => match result with
    | .ok value => returns history value
    | .error _ => Clean history) history

theorem Does.bind {returns : History → β → Prop} {p : WebM α} {f : α → WebM β}
    (h : Does options request history p fun history value =>
      Does options request history (f value) returns) :
    Does options request history (p >>= f) returns := by
  apply Program.Follows.bind
  apply Program.Follows.mono h
  intro history result hresult
  cases result with
  | ok value => exact hresult
  | error error => exact hresult

theorem Does.rescue {returns : History → α → Prop} {p : WebM α} {handler : WebError → WebM α}
    (h : Does options request history p returns)
    (hhandler : ∀ history' error, Clean history' →
      Does options request history' (handler error) returns) :
    Does options request history (p.rescue handler) returns := by
  apply Program.Follows.rescue
  apply Program.Follows.mono h
  intro history' result hresult
  cases result with
  | ok value => exact hresult
  | error error => exact hhandler history' error hresult

theorem does_ite {c : Prop} [Decidable c] {returns : History → α → Prop} {p p' : WebM α}
    (h : c → Does options request history p returns)
    (helse : ¬c → Does options request history p' returns) :
    Does options request history (if c then p else p') returns := by
  split_ifs with hc
  · exact h hc
  · exact helse hc

theorem does_ask {q : Ask} {returns : History → Answer q → Prop}
    (hasks : Asks options request history q)
    (h : ∀ reply, returns (⟨q, reply⟩ :: history) reply) :
    Does options request history (ask q) returns := ⟨hasks, fun reply _ => h reply⟩

theorem does_settled {returns : History → α → Prop} {result : Except WebError α}
    (hclean : ∀ error, result = .error error → Clean history)
    (h : ∀ value, result = .ok value → returns history value) :
    Does options request history (settled result) returns := by
  cases result with
  | ok value => exact h value rfl
  | error error => exact hclean error rfl

theorem Clean.cons {event : Event Answer} (h : Clean history) (hlogin : loginOf event = none)
    (hpermit : isAcquired event = isReleased event) : Clean (event :: history) where
  permits := by
    rw [List.countP_cons, List.countP_cons, h.permits, hpermit]
  sessions login hmem := by
    rw [List.filterMap_cons_none hlogin] at hmem
    have hlogout := h.sessions login hmem
    cases hevent : logoutOf event with
    | none => rwa [List.filterMap_cons_none hevent]
    | some principal =>
      rw [List.filterMap_cons_some hevent]
      exact List.mem_cons_of_mem _ hlogout

theorem Resolved.later {history' : History} {principal : Principal} (h : Resolved history principal)
    (hlater : history <:+ history') : Resolved history' principal :=
  (hlater.filterMap _).subset h

theorem LoggedIn.later {history' : History} {principal : Principal} (h : LoggedIn history principal)
    (hlater : history <:+ history') : LoggedIn history' principal := by
  obtain ⟨login, hlogin, hprincipal⟩ := h
  exact ⟨login, (hlater.filterMap _).subset hlogin, hprincipal⟩

theorem later_cons (event : Event Answer) : history <:+ event :: history :=
  List.suffix_cons event history

/-- A call that opens no session and takes no permit. -/
theorem call_does {returns : History → α → Prop} {q : Ask} {f : Answer q → Except WebError α}
    (hclean : Clean history) (hasks : Asks options request history q)
    (hlogin : ∀ reply, loginOf ⟨q, reply⟩ = none)
    (hpermit : ∀ reply, isAcquired ⟨q, reply⟩ = isReleased ⟨q, reply⟩)
    (h : ∀ history' value, history <:+ history' → Clean history' → returns history' value) :
    Does options request history (ask q >>= fun reply => settled (f reply)) returns := by
  apply Does.bind
  apply does_ask hasks
  intro reply
  have hcons := hclean.cons (hlogin reply) (hpermit reply)
  exact does_settled (fun error _ => hcons) fun value _ => h _ value (later_cons _) hcons

/-- A call with what follows it. -/
theorem call_bind_does {returns : History → β → Prop} {q : Ask} {f : Answer q → Except WebError α}
    {next : α → WebM β} (hclean : Clean history) (hasks : Asks options request history q)
    (hlogin : ∀ reply, loginOf ⟨q, reply⟩ = none)
    (hpermit : ∀ reply, isAcquired ⟨q, reply⟩ = isReleased ⟨q, reply⟩)
    (h : ∀ history' value, history <:+ history' → Clean history' →
      Does options request history' (next value) returns) :
    Does options request history (ask q >>= fun reply => settled (f reply) >>= next) returns := by
  apply Does.bind
  apply does_ask hasks
  intro reply
  have hcons := hclean.cons (hlogin reply) (hpermit reply)
  apply Does.bind
  exact does_settled (fun error _ => hcons) fun value _ => h _ value (later_cons _) hcons

theorem startAdmitted_does {returns : History → α → Prop} {operation : WebM α}
    (hclean : Clean history)
    (h : ∀ history', history <:+ history' → Clean history' →
      Does options request history' operation returns) :
    Does options request history (startAdmittedAuthorizationOperation options request operation)
      returns := by
  apply Does.bind
  apply does_ask (q := .acquireAuthorization _) trivial
  intro admitted
  have hcons := @Clean.cons _ ⟨.acquireAuthorization (options.address request), admitted⟩ hclean
    rfl rfl
  cases admitted with
  | false => exact hcons
  | true => exact h _ (later_cons _) hcons

theorem runAuthorizationQuery_does {returns : History → α → Prop} {operation : WebM α}
    (hclean : Clean history)
    (h : ∀ history', history <:+ history' → Clean history' →
      Does options request history' operation returns) :
    Does options request history (runAuthorizationQuery options request operation) returns := by
  apply Does.bind
  apply does_ask (q := .withinDeadline) trivial
  intro within
  have hcons := @Clean.cons _ ⟨.withinDeadline, within⟩ hclean rfl rfl
  cases within with
  | false => exact hcons
  | true =>
    apply startAdmitted_does hcons
    intro history' hlater
    exact h history' ((later_cons _).trans hlater)

theorem resolveSession_does {returns : History → Option Principal → Prop}
    {token audience : JsString} (hclean : Clean history)
    (hasks : Asks options request history (.resolveSession token audience))
    (h : ∀ history' principal, history <:+ history' → Clean history' →
      (∀ p ∈ principal, Resolved history' p) → returns history' principal) :
    Does options request history (resolveSession token audience) returns := by
  apply Does.bind
  apply does_ask hasks
  intro reply
  apply does_settled
  · intro error _
    exact hclean.cons rfl rfl
  · rintro principal rfl
    apply h _ _ (later_cons _) (hclean.cons rfl rfl)
    rintro p rfl
    exact List.mem_filterMap.2 ⟨_, List.mem_cons_self, rfl⟩

theorem resolveCookiePrincipal_does {returns : History → Option Principal → Prop}
    (hclean : Clean history)
    (h : ∀ history' principal, history <:+ history' → Clean history' →
      (∀ p ∈ principal, Resolved history' p) → returns history' principal) :
    Does options request history (resolveCookiePrincipalForRequest options request
      options.controlCookie (ofAscii "control")) returns := by
  unfold resolveCookiePrincipalForRequest
  cases hcookie : parseCookie request.cookie options.controlCookie with
  | none => exact h history none List.suffix_rfl hclean (by simp)
  | some token =>
    apply runAuthorizationQuery_does hclean
    intro history' hlater hclean'
    apply resolveSession_does hclean' ⟨rfl, Or.inl hcookie⟩
    intro history₂ principal hlater'
    exact h history₂ principal (hlater.trans hlater')

theorem clientPrincipal_does {returns : History → Option Principal → Prop}
    (hclean : Clean history) (hcli : isCliRequest request = true)
    (h : ∀ history' principal, history <:+ history' → Clean history' →
      (∀ p ∈ principal, Resolved history' p) → returns history' principal) :
    Does options request history (clientPrincipal options request) returns := by
  unfold clientPrincipal
  cases htoken : bearerToken request.authorization with
  | none => exact h history none List.suffix_rfl hclean (by simp)
  | some token =>
    apply runAuthorizationQuery_does hclean
    intro history' hlater hclean'
    apply resolveSession_does hclean' ⟨rfl, Or.inr ⟨hcli, htoken⟩⟩
    intro history₂ principal hlater'
    exact h history₂ principal (hlater.trans hlater')

section Checks

theorem requireSameOrigin_does {returns : History → Unit → Prop} (hclean : Clean history)
    (h : isSameOrigin options.scheme request = true → returns history ()) :
    Does options request history (requireSameOrigin options.scheme request) returns := by
  unfold requireSameOrigin
  split_ifs with horigin
  · exact h horigin
  · exact hclean

theorem requireCliRequest_does {returns : History → Unit → Prop} (hclean : Clean history)
    (h : isCliRequest request = true → returns history ()) :
    Does options request history (requireCliRequest request) returns := by
  unfold requireCliRequest
  split_ifs with hcli
  · exact h hcli
  · exact hclean

theorem requireAdministrator_does {returns : History → Principal → Prop}
    {principal : Option Principal} (hclean : Clean history)
    (h : ∀ p, principal = some p → IsAdministrator p → returns history p) :
    Does options request history (requireAdministrator principal) returns := by
  unfold requireAdministrator
  cases principal with
  | none => exact hclean
  | some p =>
    dsimp only
    split_ifs with hchange hrole
    · exact hclean
    · exact hclean
    · exact h p rfl ⟨by simpa using hchange, by simpa using hrole⟩

theorem readForm_does {returns : History → List (JsString × JsString) → Prop}
    (hclean : Clean history) (h : ∀ form, returns history form) :
    Does options request history (readForm request) returns := by
  unfold readForm
  split_ifs
  · exact hclean
  · exact hclean
  · exact h _

theorem requiredFormValue_does {returns : History → JsString → Prop}
    {form : List (JsString × JsString)} {name : String} (hclean : Clean history)
    (h : ∀ value, returns history value) :
    Does options request history (requiredFormValue form name) returns := by
  unfold requiredFormValue
  split
  · exact hclean
  · exact hclean
  · exact h _

theorem requiredBooleanFormValue_does {returns : History → Bool → Prop}
    {form : List (JsString × JsString)} {name : String} (hclean : Clean history)
    (h : ∀ value, returns history value) :
    Does options request history (requiredBooleanFormValue form name) returns := by
  apply Does.bind
  apply requiredFormValue_does hclean
  intro value
  split_ifs
  · exact h true
  · exact h false
  · exact hclean

theorem rolesFromForm_does {returns : History → List AccountRole → Prop}
    {form : List (JsString × JsString)} (hclean : Clean history)
    (h : ∀ roles, returns history roles) :
    Does options request history (rolesFromForm form) returns := by
  unfold rolesFromForm
  dsimp only
  split
  · exact hclean
  · split
    · exact hclean
    · split_ifs
      · exact h _
      · exact hclean

theorem matchAdminAction_does {returns : History → Option (JsString × AdminAction) → Prop}
    {pathname : JsString} (hclean : Clean history) (h : ∀ action, returns history action) :
    Does options request history (matchAdminAction pathname) returns := by
  unfold matchAdminAction
  split
  · split_ifs
    · split
      · exact h _
      · split
        · exact hclean
        · exact h _
    · exact h _
  · exact h _

end Checks

section Attempts

/-- An attempt around the answer to one call. -/
def attempted (options : WebAuthOptions) (request : IncomingMessage) (event : Event Answer)
    (history : History) : History :=
  ⟨.releaseAttempt (options.address request), ()⟩ :: event ::
    ⟨.acquireAttempt (options.address request), true⟩ :: history

theorem later_attempted (event : Event Answer) :
    history <:+ attempted options request event history :=
  ⟨[_, _, _], rfl⟩

@[simp] theorem isAcquired_acquire (address : JsString) (acquired : Bool) :
    isAcquired ⟨.acquireAttempt address, acquired⟩ = acquired := rfl

@[simp] theorem isAcquired_release (address : JsString) :
    isAcquired ⟨.releaseAttempt address, ()⟩ = false := rfl

@[simp] theorem isReleased_acquire (address : JsString) (acquired : Bool) :
    isReleased ⟨.acquireAttempt address, acquired⟩ = false := rfl

@[simp] theorem isReleased_release (address : JsString) :
    isReleased ⟨.releaseAttempt address, ()⟩ = true := rfl

@[simp] theorem loginOf_acquire (address : JsString) (acquired : Bool) :
    loginOf ⟨.acquireAttempt address, acquired⟩ = none := rfl

@[simp] theorem loginOf_release (address : JsString) :
    loginOf ⟨.releaseAttempt address, ()⟩ = none := rfl

theorem attempted_permits {event : Event Answer}
    (h : history.countP isAcquired = history.countP isReleased)
    (hpermit : isAcquired event = isReleased event) :
    (attempted options request event history).countP isAcquired =
      (attempted options request event history).countP isReleased := by
  simp [attempted, List.countP_cons, h, hpermit]
  omega

theorem attempted_logins (event : Event Answer) :
    (attempted options request event history).filterMap loginOf =
      (event :: history).filterMap loginOf := by
  simp [attempted, List.filterMap_cons]

theorem Clean.attempted {event : Event Answer} (h : Clean history) (hlogin : loginOf event = none)
    (hpermit : isAcquired event = isReleased event) :
    Clean (attempted options request event history) where
  permits := attempted_permits h.permits hpermit
  sessions login hmem := by
    rw [attempted_logins, List.filterMap_cons_none hlogin] at hmem
    exact ((later_attempted event).filterMap _).subset (h.sessions login hmem)

theorem withCredentialAttempt_does {returns : History → α → Prop} {q : Ask}
    {f : Answer q → Except WebError α} (hclean : Clean history)
    (hasks : Asks options request (⟨.acquireAttempt (options.address request), true⟩ :: history) q)
    (herror : ∀ reply error, f reply = .error error →
      Clean (attempted options request ⟨q, reply⟩ history))
    (h : ∀ reply value, f reply = .ok value →
      returns (attempted options request ⟨q, reply⟩ history) value) :
    Does options request history (withCredentialAttempt (options.address request)
      (ask q >>= fun reply => settled (f reply))) returns := by
  apply Does.bind
  apply does_ask (q := .acquireAttempt _) trivial
  intro acquired
  cases acquired with
  | false => exact hclean.cons rfl rfl
  | true =>
    apply Program.Follows.ensuring
    apply Program.Follows.bind
    refine ⟨hasks, fun reply _ => ?_⟩
    apply Program.Follows.settle
    refine ⟨trivial, fun _ _ => ?_⟩
    cases hreply : f reply with
    | ok value => exact h reply value hreply
    | error error => exact herror reply error hreply

/-- All sessions that were opened have been ended, but for the one of this login. -/
structure Pending (login : Login) (history : History) : Prop where
  permits : history.countP isAcquired = history.countP isReleased
  sessions : ∀ other ∈ history.filterMap loginOf,
    other = login ∨ other.principal ∈ history.filterMap logoutOf
  opened : LoggedIn history login.principal

theorem authenticate_does {returns : History → Login → Prop} {input : Credentials}
    (hclean : Clean history) (hpost : isPost request) (hvouched : Vouched options request)
    (haddress : input.remoteAddress = options.address request)
    (h : ∀ history' login, history <:+ history' → Pending login history' → returns history' login) :
    Does options request history (authenticateWithinAdmission input) returns := by
  unfold authenticateWithinAdmission
  rw [haddress]
  apply withCredentialAttempt_does (q := .authenticate input) (f := fun reply => reply) hclean
  · exact ⟨hpost, hvouched, rfl, haddress⟩
  · rintro reply error rfl
    exact hclean.attempted rfl rfl
  · rintro reply login rfl
    have hlogins : (attempted options request ⟨.authenticate input, .ok login⟩ history).filterMap
        loginOf = login :: history.filterMap loginOf :=
      attempted_logins _
    apply h _ _ (later_attempted _)
    refine ⟨attempted_permits hclean.permits rfl, fun other hother => ?_, login, ?_, rfl⟩
    · rw [hlogins] at hother
      rcases List.mem_cons.1 hother with hsame | hold
      · exact Or.inl hsame
      · exact Or.inr (((later_attempted _).filterMap _).subset (hclean.sessions other hold))
    · rw [hlogins]
      exact List.mem_cons_self

theorem confirmAdministratorPassword_does {returns : History → AccountAuthorization → Prop}
    {administrator : Principal} {form : List (JsString × JsString)} (hclean : Clean history)
    (hpost : isPost request) (horigin : isSameOrigin options.scheme request = true)
    (hresolved : Resolved history administrator) (hadministrator : IsAdministrator administrator)
    (h : ∀ history' actor, history <:+ history' → Clean history' →
      Confirmed options request history' actor → returns history' actor) :
    Does options request history
      (confirmAdministratorPassword options request administrator form) returns := by
  apply Does.bind
  apply requiredFormValue_does hclean
  intro password
  apply withCredentialAttempt_does
    (q := .verifyAdministratorCredentials
      ⟨administrator.username, password, options.address request⟩)
    (f := fun reply => reply) hclean
  · exact ⟨hpost, horigin, rfl, administrator, hresolved.later (later_cons _), hadministrator, rfl,
      rfl⟩
  · rintro reply error rfl
    exact hclean.attempted rfl rfl
  · rintro reply actor rfl
    apply h _ _ (later_attempted _) (hclean.attempted rfl rfl)
    refine ⟨administrator, password, hresolved.later (later_attempted _), hadministrator, ?_⟩
    exact List.mem_filterMap.2 ⟨_, List.mem_cons_of_mem _ List.mem_cons_self, rfl⟩

theorem logout_does {returns : History → Unit → Prop} {principal : Principal}
    (hclean : Clean history) (hasks : Asks options request history (.logout principal))
    (h : ∀ history', history <:+ history' → Clean history' → returns history' ()) :
    Does options request history (logout principal) returns :=
  call_does (q := .logout principal) (f := fun reply => reply) hclean hasks (fun _ => rfl)
    (fun _ => rfl) fun history' _ => h history'

/-- The session is ended even when the call throws. -/
theorem Pending.logout {login : Login} (h : Pending login history) (reply : Except WebError Unit) :
    Clean (⟨.logout login.principal, reply⟩ :: history) where
  permits := by simp [h.permits, isAcquired, isReleased]
  sessions other hother := by
    have hold : other ∈ history.filterMap loginOf := by
      simpa [List.filterMap_cons, loginOf] using hother
    show other.principal ∈ login.principal :: history.filterMap logoutOf
    rcases h.sessions other hold with rfl | hended
    · exact List.mem_cons_self
    · exact List.mem_cons_of_mem _ hended

theorem Pending.cons {login : Login} {event : Event Answer} (h : Pending login history)
    (hlogin : loginOf event = none) (hpermit : isAcquired event = isReleased event) :
    Pending login (event :: history) where
  permits := by
    rw [List.countP_cons, List.countP_cons, h.permits, hpermit]
  sessions other hother := by
    rw [List.filterMap_cons_none hlogin] at hother
    rcases h.sessions other hother with hsame | hended
    · exact Or.inl hsame
    · exact Or.inr (((later_cons event).filterMap _).subset hended)
  opened := h.opened.later (later_cons event)

/-- A login that is not to be used is logged out. -/
theorem refuse_does {returns : History → α → Prop} {login : Login} {code : AuthErrorCode}
    {message : String} (h : Pending login history) (hpost : isPost request)
    (hvouched : Vouched options request) :
    Does options request history
      (do logout login.principal; throwAuth code message) returns := by
  apply Does.bind
  apply Does.bind
  apply does_ask (q := .logout _) ⟨hpost, hvouched, Or.inr h.opened⟩
  intro reply
  apply does_settled
  · intro error _
    exact h.logout reply
  · rintro ⟨⟩ _
    exact h.logout reply

theorem compensation_does {returns : History → Option Exchange → Prop} {login : Login}
    {intent : JsString} (h : Pending login history) (hpost : isPost request)
    (horigin : isSameOrigin options.scheme request = true)
    (hreturns : ∀ history' exchange, history <:+ history' → Pending login history' →
      returns history' exchange) :
    Does options request history (createSessionExchangeWithLoginCompensation login intent)
      returns := by
  unfold createSessionExchangeWithLoginCompensation
  split_ifs
  · exact hreturns history none List.suffix_rfl h
  · apply Program.Follows.rescue
    refine ⟨Or.inr ⟨hpost, horigin, h.opened⟩, fun reply _ => ?_⟩
    have hpending := @Pending.cons _ login
      ⟨.createSessionExchange login.principal intent, reply⟩ h rfl rfl
    cases reply with
    | ok exchange => exact hreturns _ _ (later_cons _) hpending
    | error error =>
      refine ⟨⟨hpost, Or.inl horigin, Or.inr hpending.opened⟩, fun reply' _ => ?_⟩
      cases reply' with
      | ok done => exact hpending.logout _
      | error error' => exact hpending.logout _

end Attempts

end Rules

end Lotur.Gateway.WebAuth
