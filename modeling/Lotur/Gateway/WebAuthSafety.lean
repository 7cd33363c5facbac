import Lotur.Gateway.WebAuthCalls

/-! What a control request can do, whatever its surroundings answer: whom it acts for, what it needs
for that, and what it leaves behind. -/
namespace Lotur.Gateway.WebAuth
open JsString Interleaving Auth

section Routes

/-- The response sets the cookie of the session. -/
def Carries (options : WebAuthOptions) (response : ServerResponse) (login : Login) : Prop :=
  ∃ value, ("Set-Cookie", value) ∈ response.headers ∧
    options.controlCookie ++ 0x3d :: encodeURIComponent login.sessionToken <+: value

/-- The session is handed to whoever sent the request. -/
def Delivers (options : WebAuthOptions) (response : ServerResponse) (login : Login) : Prop :=
  (∃ expiresInSeconds, response.body = .session login.sessionToken expiresInSeconds) ∨
    Carries options response login

/-- Every session that was opened has been ended or is handed out. -/
structure Accounted (options : WebAuthOptions) (history : History) (response : ServerResponse) :
    Prop where
  permits : history.countP isAcquired = history.countP isReleased
  sessions : ∀ login ∈ history.filterMap loginOf,
    login.principal ∈ history.filterMap logoutOf ∨ Delivers options response login

variable {options : WebAuthOptions} {request : IncomingMessage} {history : History}
  {url : WhatwgUrl.Url} {principal : Option Principal} {returnTo : JsString}

theorem Clean.accounted (h : Clean history) (response : ServerResponse) :
    Accounted options history response where
  permits := h.permits
  sessions login hlogin := Or.inl (h.sessions login hlogin)

theorem Pending.accounted {login : Login} {response : ServerResponse} (h : Pending login history)
    (hdelivers : Delivers options response login) : Accounted options history response where
  permits := h.permits
  sessions other hother := by
    rcases h.sessions other hother with rfl | hended
    · exact Or.inr hdelivers
    · exact Or.inl hended

theorem Carries.setHeader {response : ServerResponse} {login : Login}
    (h : Carries options response login) (name : String) (value : JsString)
    (hne : "Set-Cookie" ≠ name) : Carries options (response.setHeader name value) login := by
  obtain ⟨cookie, hcookie, htoken⟩ := h
  refine ⟨cookie, ?_, htoken⟩
  simp [ServerResponse.setHeader, hcookie, hne]

theorem setSessionCookie_carries (login : Login) : Carries options
    (secured.setSessionCookie options.controlCookie login.sessionToken options.secureCookies)
    login := by
  refine ⟨_, List.mem_append_right _ (List.mem_singleton.2 rfl), ?_⟩
  rw [List.append_assoc]
  exact List.prefix_append _ _

theorem redirect_carries {response : ServerResponse} {login : Login}
    (h : Carries options response login) (location : JsString) :
    Carries options (response.redirect location) login := 
  h.setHeader "Location" location (by decide)

theorem loggedIn_carries (login : Login) (exchange : Option Exchange) :
    Carries options (loggedIn options returnTo login exchange) login := by
  have hcookie : Carries options (secured.setSessionCookie options.controlCookie
      login.sessionToken options.secureCookies) login := setSessionCookie_carries login
  cases exchange with
  | none => exact redirect_carries hcookie _
  | some exchange =>
    have hcached := hcookie.setHeader "Cache-Control" (ofAscii "no-store") (by decide)
    have hreferrer := hcached.setHeader "Referrer-Policy" (ofAscii "no-referrer") (by decide)
    exact hreferrer.setHeader "Content-Type" (ofAscii "text/html; charset=utf-8") (by decide)

theorem pure_does (hclean : Clean history) (response : ServerResponse) :
    Does options request history (pure response) (Accounted options) := hclean.accounted response

theorem redirectToExchange_does {p : Principal} {intent : JsString} (hclean : Clean history)
    (hresolved : Resolved history p) (hchange : p.mustChangePassword = false) :
    Does options request history (redirectToExchangeForRequest options request p intent)
      (Accounted options) := by
  apply Does.bind
  apply startAdmitted_does hclean
  intro history' hlater hclean'
  apply call_does (q := .createSessionExchange p intent) (f := fun reply => reply) hclean'
    (Or.inl ⟨hresolved.later hlater, hchange⟩) (fun _ => rfl) (fun _ => rfl)
  intro history₂ exchange _ hclean₂
  exact pure_does hclean₂ _

theorem routeReviewControl_does (hclean : Clean history)
    (hprincipal : ∀ p ∈ principal, Resolved history p) :
    Does options request history (routeReviewControl options request url principal)
      (Accounted options) := by
  unfold routeReviewControl
  cases hfilter : principal.filter fun principal => !principal.mustChangePassword with
  | none =>
    dsimp only
    split_ifs
    all_goals exact pure_does hclean _
  | some p =>
    obtain ⟨hp, hchange⟩ := Option.filter_eq_some_iff.1 hfilter
    have hanswer : (request.method = ofAscii "GET" ∨ isSameOrigin options.scheme request = true) →
        canAccessSharedContent p.roles = true → Does options request history
          (runAuthorizationMutation options request do settled (← ask (.handleReviewControl p)))
          (Accounted options) := by
      intro horigin haccess
      apply startAdmitted_does hclean
      intro history' hlater hclean'
      apply call_does (q := .handleReviewControl p) (f := fun reply => reply) hclean'
        ⟨horigin, (hprincipal p hp).later hlater, by simpa using hchange, haccess⟩ (fun _ => rfl)
        (fun _ => rfl)
      intro history₂ response _ hclean₂
      exact hclean₂.accounted response
    dsimp only
    split_ifs with haccess hmethod
    · exact hclean
    · apply Does.bind
      apply requireSameOrigin_does hclean
      intro horigin
      exact hanswer (Or.inr horigin) (by simpa using haccess)
    · exact hanswer (Or.inl (by simpa using hmethod)) (by simpa using haccess)

theorem routeClientLogin_does (hclean : Clean history) (hpost : isPost request) :
    Does options request history (routeClientLogin options request) (Accounted options) := by
  apply Does.bind
  apply requireCliRequest_does hclean
  intro hcli
  apply Does.bind
  apply readForm_does hclean
  intro form
  apply Does.bind
  apply requiredFormValue_does hclean
  intro username
  apply Does.bind
  apply requiredFormValue_does hclean
  intro password
  apply Does.bind
  apply startAdmitted_does hclean
  intro history' _ hclean'
  apply Does.bind
  apply authenticate_does hclean' hpost (Or.inr hcli) rfl
  intro history₂ login _ hpending
  split_ifs
  · exact refuse_does hpending hpost (Or.inr hcli)
  · exact refuse_does hpending hpost (Or.inr hcli)
  · exact hpending.accounted (Or.inl ⟨43200, rfl⟩)

theorem routeClientLogout_does (hclean : Clean history) (hpost : isPost request) :
    Does options request history (routeClientLogout options request) (Accounted options) := by
  apply Does.bind
  apply requireCliRequest_does hclean
  intro hcli
  apply Does.bind
  apply clientPrincipal_does hclean hcli
  intro history' principal _ hclean' hresolved
  cases principal with
  | none => exact pure_does hclean' _
  | some p =>
    apply Does.bind
    apply startAdmitted_does hclean'
    intro history₂ hlater hclean₂
    apply logout_does hclean₂ ⟨hpost, Or.inr hcli, Or.inl ((hresolved p rfl).later hlater)⟩
    intro history₃ _ hclean₃
    exact pure_does hclean₃ _

theorem issueReserved_does {p : Principal} {purpose : CarrierPurpose} {tunnelId : JsString}
    (hclean : Clean history) (hpost : isPost request) (hcli : isCliRequest request = true)
    (hresolved : Resolved history p) :
    Does options request history (issueReserved options request p purpose tunnelId)
      (Accounted options) := by
  apply Does.bind
  apply Does.rescue
  · apply startAdmitted_does hclean
    intro history' hlater hclean'
    apply call_does (q := .issueCarrierCredential p purpose tunnelId) (f := fun reply => reply)
      hclean' ⟨hpost, hcli, hresolved.later hlater⟩ (fun _ => rfl) (fun _ => rfl)
    intro history₂ credential _ hclean₂
    exact pure_does hclean₂ _
  · intro history' error hclean'
    dsimp only
    split_ifs
    · apply Does.bind
      apply does_ask (q := .releaseReservation) trivial
      intro reply
      exact hclean'.cons rfl rfl
    · exact hclean'

theorem routeCarrierCredentials_does (hclean : Clean history) (hpost : isPost request) :
    Does options request history (routeCarrierCredentials options request)
      (Accounted options) := by
  apply Does.bind
  apply requireCliRequest_does hclean
  intro hcli
  apply Does.bind
  apply clientPrincipal_does hclean hcli
  intro history' principal _ hclean' hresolved
  cases principal with
  | none => exact hclean'
  | some p =>
    have hreserved : ∀ history₂ purpose tunnelId, history' <:+ history₂ → Clean history₂ →
        Does options request history₂ (if options.reserveCarrierCredential then do
          if ← ask (.reserveCarrierCredential p purpose tunnelId) then
            issueReserved options request p purpose tunnelId
          else
            pure ((secured.setHeader "Retry-After" (ofAscii "60")).writeJsonError 429
              "TUNNEL_LIMIT_EXCEEDED")
        else issueReserved options request p purpose tunnelId) (Accounted options) := by
      intro history₂ purpose tunnelId hlater hclean₂
      have hp := (hresolved p rfl).later hlater
      split_ifs
      · apply Does.bind
        apply does_ask (q := .reserveCarrierCredential p purpose tunnelId) ⟨hpost, hcli, hp⟩
        intro reserved
        have hcons := @Clean.cons _ ⟨.reserveCarrierCredential p purpose tunnelId, reserved⟩
          hclean₂ rfl rfl
        cases reserved with
        | false => exact pure_does hcons _
        | true => exact issueReserved_does hcons hpost hcli (hp.later (later_cons _))
      · exact issueReserved_does hclean₂ hpost hcli hp
    apply Does.bind
    apply readForm_does hclean'
    intro form
    apply Does.bind
    apply requiredFormValue_does hclean'
    intro purpose
    apply does_ite
    · intro _
      exact hclean'
    intro _
    dsimp only
    by_cases hcreate : purpose = ofAscii "create"
    · rw [if_pos hcreate, if_pos rfl]
      apply Does.bind
      apply does_ask (q := .randomTunnelId) trivial
      intro tunnelId
      exact hreserved _ .create tunnelId (later_cons _)
        (@Clean.cons _ ⟨.randomTunnelId, tunnelId⟩ hclean' rfl rfl)
    · rw [if_neg hcreate, if_neg nofun]
      apply Does.bind
      apply requiredFormValue_does hclean'
      intro tunnelId
      exact hreserved _ .resume tunnelId List.suffix_rfl hclean'

theorem routeClientControl_does (hclean : Clean history) :
    Does options request history (routeClientControl options request) (Accounted options) := by
  apply Does.bind
  apply requireCliRequest_does hclean
  intro hcli
  apply Does.bind
  apply clientPrincipal_does hclean hcli
  intro history' principal _ hclean' hresolved
  cases principal with
  | none => exact hclean'
  | some p =>
    dsimp only
    split_ifs with hrole
    · exact hclean'
    · apply startAdmitted_does hclean'
      intro history₂ hlater hclean₂
      have hp : p.mustChangePassword = false ∧ .developer ∈ p.roles := by simpa using hrole
      apply call_does (q := .handleClientControl p) (f := fun reply => reply) hclean₂
        ⟨hcli, (hresolved p rfl).later hlater, hp⟩ (fun _ => rfl) (fun _ => rfl)
      intro history₃ response _ hclean₃
      exact hclean₃.accounted response

theorem routeOperations_does (hclean : Clean history) :
    Does options request history (routeOperations principal) (Accounted options) := by
  apply Does.bind
  apply requireAdministrator_does hclean
  intro administrator _ _
  apply Does.bind
  apply does_ask (q := .getKillSwitch) trivial
  intro enabled
  exact pure_does (hclean.cons rfl rfl) _

theorem routeKillSwitch_does (hclean : Clean history) (hpost : isPost request)
    (hprincipal : ∀ p ∈ principal, Resolved history p) :
    Does options request history (routeKillSwitch options request principal)
      (Accounted options) := by
  apply Does.bind
  apply requireSameOrigin_does hclean
  intro horigin
  apply Does.bind
  apply requireAdministrator_does hclean
  intro administrator hsome hadministrator
  apply Does.bind
  apply readForm_does hclean
  intro form
  apply Does.bind
  apply startAdmitted_does hclean
  intro history' hlater hclean'
  apply Does.bind
  apply confirmAdministratorPassword_does hclean' hpost horigin
    ((hprincipal administrator hsome).later hlater) hadministrator
  intro history₂ actor _ hclean₂ hconfirmed
  apply Does.bind
  apply requiredBooleanFormValue_does hclean₂
  intro enabled
  apply call_does (q := .setKillSwitch enabled actor) (f := fun reply => reply) hclean₂
    ⟨hpost, horigin, hconfirmed⟩ (fun _ => rfl) (fun _ => rfl)
  intro history₃ _ _ hclean₃
  apply Does.bind
  apply does_ask (q := .getKillSwitch) trivial
  intro shown
  exact pure_does (hclean₃.cons rfl rfl) _

theorem routeLoginPage_does (hclean : Clean history)
    (hprincipal : ∀ p ∈ principal, Resolved history p) :
    Does options request history (routeLoginPage options request url principal returnTo)
      (Accounted options) := by
  unfold routeLoginPage
  cases hfilter : principal.filter fun principal => !principal.mustChangePassword with
  | none => exact pure_does hclean _
  | some p =>
    obtain ⟨hp, hchange⟩ := Option.filter_eq_some_iff.1 hfilter
    dsimp only
    split_ifs
    · exact pure_does hclean _
    · cases get (queryParams url) "intent" with
      | none => exact pure_does hclean _
      | some intent =>
        exact redirectToExchange_does hclean (hprincipal p hp) (by simpa using hchange)

theorem routeLogin_does (hclean : Clean history) (hpost : isPost request) :
    Does options request history (routeLogin options request returnTo) (Accounted options) := by
  apply Does.bind
  apply requireSameOrigin_does hclean
  intro horigin
  apply Does.bind
  apply readForm_does hclean
  intro form
  apply Does.bind
  apply startAdmitted_does hclean
  intro history' _ hclean'
  apply Does.bind
  apply requiredFormValue_does hclean'
  intro username
  apply Does.bind
  apply requiredFormValue_does hclean'
  intro password
  apply Does.bind
  apply authenticate_does hclean' hpost (Or.inl horigin) rfl
  intro history₂ login _ hpending
  have hdone : ∀ history₃ (exchange : Option Exchange), Pending login history₃ →
      Does options request history₃ (if login.principal.mustChangePassword then
        pure ((secured.setSessionCookie options.controlCookie login.sessionToken
          options.secureCookies).redirect (ofAscii "/account/change-password?" ++
            formText [("intent", (get form "intent").getD []), ("returnTo", returnTo)]))
      else pure (loggedIn options returnTo login exchange)) (Accounted options) := by
    intro history₃ exchange hpending'
    split_ifs
    · exact hpending'.accounted (Or.inr (redirect_carries (setSessionCookie_carries login) _))
    · exact hpending'.accounted (Or.inr (loggedIn_carries login exchange))
  apply does_ite
  · intro _
    exact hdone history₂ none hpending
  · intro _
    apply Does.bind
    apply compensation_does hpending hpost horigin
    intro history₃ exchange _ hpending'
    exact hdone history₃ exchange hpending'

theorem routePasswordChangePage_does (hclean : Clean history) :
    Does options request history (routePasswordChangePage url principal returnTo)
      (Accounted options) := by
  cases principal with
  | none => exact pure_does hclean _
  | some p => exact pure_does hclean _

theorem routePasswordChange_does (hclean : Clean history) (hpost : isPost request)
    (hprincipal : ∀ p ∈ principal, Resolved history p) :
    Does options request history (routePasswordChange options request principal returnTo)
      (Accounted options) := by
  apply Does.bind
  apply requireSameOrigin_does hclean
  intro horigin
  cases principal with
  | none => exact hclean
  | some p =>
    apply Does.bind
    apply readForm_does hclean
    intro form
    apply Does.bind
    apply requiredFormValue_does hclean
    intro currentPassword
    apply Does.bind
    apply requiredFormValue_does hclean
    intro newPassword
    apply Does.bind
    apply requiredFormValue_does hclean
    intro confirmation
    dsimp only
    split_ifs
    · exact hclean
    · apply Does.bind
      apply startAdmitted_does hclean
      intro history' hlater hclean'
      have hresolved : Resolved history' p := (hprincipal p rfl).later hlater
      apply Does.bind
      apply withCredentialAttempt_does (q := .changeOwnPassword p currentPassword newPassword)
        (f := fun reply => reply) hclean'
      · exact ⟨hpost, horigin, rfl, hresolved.later (later_cons _)⟩
      · intro reply error _
        exact hclean'.attempted rfl rfl
      · intro reply done _
        apply Does.bind
        apply authenticate_does (hclean'.attempted rfl rfl) hpost (Or.inl horigin) rfl
        intro history₂ login _ hpending
        apply Does.bind
        apply compensation_does hpending hpost horigin
        intro history₃ exchange _ hpending'
        exact hpending'.accounted (Or.inr (loggedIn_carries login exchange))

theorem routeLogout_does (hclean : Clean history) (hpost : isPost request)
    (hprincipal : ∀ p ∈ principal, Resolved history p) :
    Does options request history (routeLogout options request principal) (Accounted options) := by
  apply Does.bind
  apply requireSameOrigin_does hclean
  intro horigin
  cases principal with
  | none => exact pure_does hclean _
  | some p =>
    apply Does.bind
    apply startAdmitted_does hclean
    intro history' hlater hclean'
    apply logout_does hclean' ⟨hpost, Or.inl horigin, Or.inl ((hprincipal p rfl).later hlater)⟩
    intro history₂ _ hclean₂
    exact pure_does hclean₂ _

theorem routeAccount_does (hclean : Clean history) :
    Does options request history (routeAccount principal) (Accounted options) := by
  cases principal with
  | none => exact pure_does hclean _
  | some p => exact pure_does hclean _

theorem routeUsers_does (hclean : Clean history)
    (hprincipal : ∀ p ∈ principal, Resolved history p) :
    Does options request history (routeUsers options request principal) (Accounted options) := by
  apply Does.bind
  apply requireAdministrator_does hclean
  intro administrator hsome hadministrator
  apply Does.bind
  apply runAuthorizationQuery_does hclean
  intro history' hlater hclean'
  apply call_does (q := .listAccounts administrator) (f := fun reply => reply) hclean'
    ⟨(hprincipal administrator hsome).later hlater, hadministrator⟩ (fun _ => rfl) (fun _ => rfl)
  intro history₂ accounts _ hclean₂
  exact pure_does hclean₂ _

theorem routeCreateAccount_does (hclean : Clean history) (hpost : isPost request)
    (hprincipal : ∀ p ∈ principal, Resolved history p) :
    Does options request history (routeCreateAccount options request principal)
      (Accounted options) := by
  apply Does.bind
  apply requireSameOrigin_does hclean
  intro horigin
  apply Does.bind
  apply requireAdministrator_does hclean
  intro administrator hsome hadministrator
  apply Does.bind
  apply readForm_does hclean
  intro form
  apply Does.bind
  apply startAdmitted_does hclean
  intro history' hlater hclean'
  apply Does.bind
  apply confirmAdministratorPassword_does hclean' hpost horigin
    ((hprincipal administrator hsome).later hlater) hadministrator
  intro history₂ actor _ hclean₂ hconfirmed
  apply Does.bind
  apply requiredFormValue_does hclean₂
  intro username
  apply Does.bind
  apply requiredFormValue_does hclean₂
  intro displayName
  apply Does.bind
  apply rolesFromForm_does hclean₂
  intro roles
  apply call_does (q := .createAccount actor username displayName roles)
    (f := fun reply => reply) hclean₂ ⟨hpost, horigin, hconfirmed⟩ (fun _ => rfl) (fun _ => rfl)
  intro history₃ issued _ hclean₃
  exact pure_does hclean₃ _

theorem applyAction_does {returns : History → Option TemporaryPassword → Prop}
    {actor : AccountAuthorization} {accountId : JsString} {form : List (JsString × JsString)}
    {action : AdminAction} (hclean : Clean history) (hpost : isPost request)
    (horigin : isSameOrigin options.scheme request = true)
    (hconfirmed : Confirmed options request history actor)
    (h : ∀ history' issued, Clean history' → returns history' issued) :
    Does options request history (applyAction actor accountId form action) returns := by
  cases action with
  | enable =>
    apply call_bind_does (q := .setAccountEnabled actor accountId true) (f := fun reply => reply)
      hclean ⟨hpost, horigin, hconfirmed⟩ (fun _ => rfl) (fun _ => rfl)
    intro history' _ _ hclean'
    exact h history' none hclean'
  | disable =>
    apply call_bind_does (q := .setAccountEnabled actor accountId false) (f := fun reply => reply)
      hclean ⟨hpost, horigin, hconfirmed⟩ (fun _ => rfl) (fun _ => rfl)
    intro history' _ _ hclean'
    exact h history' none hclean'
  | roles =>
    apply Does.bind
    apply rolesFromForm_does hclean
    intro roles
    apply call_bind_does (q := .setAccountRoles actor accountId roles) (f := fun reply => reply)
      hclean ⟨hpost, horigin, hconfirmed⟩ (fun _ => rfl) (fun _ => rfl)
    intro history' _ _ hclean'
    exact h history' none hclean'
  | revoke =>
    apply call_bind_does (q := .revokeSessions actor accountId) (f := fun reply => reply) hclean
      ⟨hpost, horigin, hconfirmed⟩ (fun _ => rfl) (fun _ => rfl)
    intro history' _ _ hclean'
    exact h history' none hclean'
  | reset =>
    apply call_bind_does (q := .resetPassword actor accountId) (f := fun reply => reply) hclean
      ⟨hpost, horigin, hconfirmed⟩ (fun _ => rfl) (fun _ => rfl)
    intro history' issued _ hclean'
    exact h history' (some issued) hclean'

theorem routeAction_does {accountId : JsString} {action : AdminAction} (hclean : Clean history)
    (hpost : isPost request) (hprincipal : ∀ p ∈ principal, Resolved history p) :
    Does options request history (routeAction options request principal accountId action)
      (Accounted options) := by
  apply Does.bind
  apply requireSameOrigin_does hclean
  intro horigin
  apply Does.bind
  apply requireAdministrator_does hclean
  intro administrator hsome hadministrator
  apply Does.bind
  apply readForm_does hclean
  intro form
  apply Does.bind
  apply startAdmitted_does hclean
  intro history' hlater hclean'
  have hresolved := (hprincipal administrator hsome).later hlater
  apply call_bind_does (q := .listAccounts administrator) (f := fun reply => reply) hclean'
    ⟨hresolved, hadministrator⟩ (fun _ => rfl) (fun _ => rfl)
  intro history₂ accounts hlater' hclean₂
  cases accounts.find? fun account => account.id = accountId with
  | none => exact hclean₂
  | some target =>
    dsimp only
    split_ifs
    · exact hclean₂
    · apply Does.bind
      apply confirmAdministratorPassword_does hclean₂ hpost horigin (hresolved.later hlater')
        hadministrator
      intro history₃ actor _ hclean₃ hconfirmed
      apply applyAction_does hclean₃ hpost horigin hconfirmed
      intro history₄ issued hclean₄
      cases issued with
      | none => exact pure_does hclean₄ _
      | some issued => exact pure_does hclean₄ _

theorem routeRest_does (hclean : Clean history)
    (hprincipal : ∀ p ∈ principal, Resolved history p) :
    Does options request history (routeRest options request url principal)
      (Accounted options) := by
  apply Does.bind
  apply matchAdminAction_does hclean
  intro action
  cases action with
  | none => exact pure_does hclean _
  | some action =>
    dsimp only
    split_ifs with hpost
    · exact routeAction_does hclean hpost hprincipal
    · exact pure_does hclean _

theorem route_does (hclean : Clean history) (hprincipal : ∀ p ∈ principal, Resolved history p) :
    Does options request history (route options request url principal returnTo)
      (Accounted options) := by
  have hpost : ∀ path : String, (decide (request.method = ofAscii "POST") &&
      decide (ofText url.pathname = ofAscii path)) = true → isPost request := by
    intro path hroute
    simp only [Bool.and_eq_true, decide_eq_true_eq] at hroute
    exact hroute.1
  unfold route
  apply does_ite fun _ => routeReviewControl_does hclean hprincipal
  intro _
  apply does_ite fun hroute => routeClientLogin_does hclean (hpost _ hroute)
  intro _
  apply does_ite fun hroute => routeClientLogout_does hclean (hpost _ hroute)
  intro _
  apply does_ite fun hroute => routeCarrierCredentials_does hclean (hpost _ hroute)
  intro _
  apply does_ite fun _ => routeClientControl_does hclean
  intro _
  apply does_ite fun _ => routeOperations_does hclean
  intro _
  apply does_ite fun hroute => routeKillSwitch_does hclean
    (hpost _ (Bool.and_eq_true_iff.1 (Bool.and_eq_true_iff.1 hroute).1).1) hprincipal
  intro _
  apply does_ite fun _ => routeLoginPage_does hclean hprincipal
  intro _
  apply does_ite fun hroute => routeLogin_does hclean (hpost _ hroute)
  intro _
  apply does_ite fun _ => routePasswordChangePage_does hclean
  intro _
  apply does_ite fun hroute => routePasswordChange_does hclean (hpost _ hroute) hprincipal
  intro _
  apply does_ite fun hroute => routeLogout_does hclean (hpost _ hroute) hprincipal
  intro _
  apply does_ite fun _ => routeAccount_does hclean
  intro _
  apply does_ite fun _ => routeUsers_does hclean hprincipal
  intro _
  apply does_ite fun hroute => routeCreateAccount_does hclean (hpost _ hroute) hprincipal
  intro _
  exact routeRest_does hclean hprincipal

end Routes

section Control

variable (options : WebAuthOptions) (request : IncomingMessage)

/-- The request has a response, for which everything is accounted. -/
def Ends (history : History) (result : Except WebError ServerResponse) : Prop :=
  ∃ response, result = .ok response ∧ Accounted options history response

variable {options request} in
theorem Does.answered {history : History} {p : WebM ServerResponse}
    (h : Does options request history p (Accounted options)) (answer : WebError → ServerResponse) :
    (p.rescue fun error => pure (answer error) : WebM ServerResponse).Follows (fun _ => True)
      (Asks options request) (Ends options) history := by
  apply Program.Follows.rescue
  apply Program.Follows.mono h
  intro history' result hresult
  cases result with
  | ok response => exact ⟨response, rfl, hresult⟩
  | error error => exact ⟨answer error, rfl, Clean.accounted hresult _⟩

theorem clean_nil : Clean [] where
  permits := rfl
  sessions _ hlogin := absurd hlogin List.not_mem_nil

theorem handleControl_follows : (handleControl options request).Follows (fun _ => True)
    (Asks options request) (Ends options) [] := by
  unfold handleControl
  apply Does.answered
  cases options.requestUrl (request.host.getD options.controlHost) request.url with
  | none => exact clean_nil
  | some url =>
    apply Does.bind
    apply resolveCookiePrincipal_does clean_nil
    intro history principal _ hclean hprincipal
    cases options.safeReviewReturn (get (queryParams url) "returnTo") with
    | none => exact hclean
    | some returnTo =>
      exact (route_does hclean hprincipal).rescue fun history' error hclean' =>
        hclean'.accounted _

theorem handleControl_imp {ends : History → Except WebError ServerResponse → Prop}
    (asks : History → Ask → Prop)
    (hasks : ∀ history query, Asks options request history query → asks history query)
    (hends : ∀ history response, Accounted options history response →
      ends history (.ok response)) :
    (handleControl options request).Follows (fun _ => True) asks ends [] := by
  apply (handleControl_follows options request).imp (fun _ _ => trivial) (fun _ _ => trivial)
    (fun history query _ => hasks history query)
  rintro history _ _ ⟨response, rfl, haccounted⟩
  exact hends history response haccounted

/-- The calls that change accounts, sessions, credentials or the kill switch for somebody. -/
def changes : Ask → Bool
  | .authenticate _ | .logout _ | .changeOwnPassword _ _ _ | .issueCarrierCredential _ _ _
  | .reserveCarrierCredential _ _ _ | .createAccount _ _ _ _ | .setAccountEnabled _ _ _
  | .setAccountRoles _ _ _ | .resetPassword _ _ | .revokeSessions _ _ | .setKillSwitch _ _ => true
  | _ => false

/-- A page of another site cannot make the gateway change anything. -/
theorem handleControl_vouched : (handleControl options request).Follows (fun _ => True)
    (fun _ query => changes query = true → isPost request ∧ Vouched options request)
    (fun _ _ => True) [] := by
  apply handleControl_imp options request _ _ fun _ _ _ => trivial
  intro history query hasks hchanges
  cases query with
  | authenticate input => exact ⟨hasks.1, hasks.2.1⟩
  | logout principal => exact ⟨hasks.1, hasks.2.1⟩
  | changeOwnPassword principal currentPassword newPassword =>
    exact ⟨hasks.1, Or.inl hasks.2.1⟩
  | issueCarrierCredential principal purpose tunnelId => exact ⟨hasks.1, Or.inr hasks.2.1⟩
  | reserveCarrierCredential principal purpose tunnelId => exact ⟨hasks.1, Or.inr hasks.2.1⟩
  | createAccount actor username displayName roles => exact ⟨hasks.1, Or.inl hasks.2.1⟩
  | setAccountEnabled actor accountId enabled => exact ⟨hasks.1, Or.inl hasks.2.1⟩
  | setAccountRoles actor accountId roles => exact ⟨hasks.1, Or.inl hasks.2.1⟩
  | resetPassword actor accountId => exact ⟨hasks.1, Or.inl hasks.2.1⟩
  | revokeSessions actor accountId => exact ⟨hasks.1, Or.inl hasks.2.1⟩
  | setKillSwitch enabled actor => exact ⟨hasks.1, Or.inl hasks.2.1⟩
  | _ => cases hchanges

def actsFor : Ask → Option Principal
  | .logout principal | .changeOwnPassword principal _ _ | .createSessionExchange principal _
  | .issueCarrierCredential principal _ _ | .reserveCarrierCredential principal _ _
  | .listAccounts principal | .handleClientControl principal | .handleReviewControl principal =>
    some principal
  | _ => none

def administersAs : Ask → Option AccountAuthorization
  | .createAccount actor _ _ _ | .setAccountEnabled actor _ _ | .setAccountRoles actor _ _
  | .resetPassword actor _ | .revokeSessions actor _ | .setKillSwitch _ actor => some actor
  | _ => none

/-- Whom the gateway may act for: whoever logged in with this request, or the session behind the
token that the request carries. -/
structure Authorized (history : History) (query : Ask) : Prop where
  principal : ∀ principal ∈ actsFor query, Resolved history principal ∨ LoggedIn history principal
  administrator : ∀ actor ∈ administersAs query, Confirmed options request history actor
  token : ∀ token audience, query = .resolveSession token audience →
    audience = ofAscii "control" ∧
      (parseCookie request.cookie options.controlCookie = some token ∨
        isCliRequest request = true ∧ bearerToken request.authorization = some token)

theorem handleControl_authorized : (handleControl options request).Follows (fun _ => True)
    (Authorized options request) (fun _ _ => True) [] := by
  apply handleControl_imp options request _ _ fun _ _ _ => trivial
  intro history query hasks
  refine ⟨fun principal hprincipal => ?_, fun actor hactor => ?_, ?_⟩
  · cases query with
    | logout p =>
      cases hprincipal
      exact hasks.2.2
    | changeOwnPassword p currentPassword newPassword =>
      cases hprincipal
      exact Or.inl hasks.2.2.2
    | createSessionExchange p intent =>
      cases hprincipal
      exact hasks.imp And.left fun hlogin => hlogin.2.2
    | issueCarrierCredential p purpose tunnelId =>
      cases hprincipal
      exact Or.inl hasks.2.2
    | reserveCarrierCredential p purpose tunnelId =>
      cases hprincipal
      exact Or.inl hasks.2.2
    | listAccounts p =>
      cases hprincipal
      exact Or.inl hasks.1
    | handleClientControl p =>
      cases hprincipal
      exact Or.inl hasks.2.1
    | handleReviewControl p =>
      cases hprincipal
      exact Or.inl hasks.2.1
    | _ => cases hprincipal
  · cases query with
    | createAccount actor' username displayName roles =>
      cases hactor
      exact hasks.2.2
    | setAccountEnabled actor' accountId enabled =>
      cases hactor
      exact hasks.2.2
    | setAccountRoles actor' accountId roles =>
      cases hactor
      exact hasks.2.2
    | resetPassword actor' accountId =>
      cases hactor
      exact hasks.2.2
    | revokeSessions actor' accountId =>
      cases hactor
      exact hasks.2.2
    | setKillSwitch enabled actor' =>
      cases hactor
      exact hasks.2.2
    | _ => cases hactor
  · rintro token audience rfl
    exact hasks

def checksPassword : Ask → Bool
  | .authenticate _ | .verifyAdministratorCredentials _ | .changeOwnPassword _ _ _ => true
  | _ => false

/-- A password is checked on a permit taken for it, and no permit is kept. -/
theorem handleControl_permits : (handleControl options request).Follows (fun _ => True)
    (fun history query => checksPassword query = true → Attempted options request history)
    (fun history _ => history.countP isAcquired = history.countP isReleased) [] := by
  apply handleControl_imp options request _ _ fun _ _ haccounted => haccounted.permits
  intro history query hasks hpassword
  cases query with
  | authenticate input => exact hasks.2.2.1
  | verifyAdministratorCredentials input => exact hasks.2.2.1
  | changeOwnPassword principal currentPassword newPassword => exact hasks.2.2.1
  | _ => cases hpassword

/-- Every request is answered, and a session that it opens is handed to whoever sent the request or
ended again, whatever fails. -/
theorem handleControl_sessions : (handleControl options request).Follows (fun _ => True)
    (fun _ _ => True)
    (fun history result => ∃ response, result = .ok response ∧
      ∀ login ∈ history.filterMap loginOf,
        login.principal ∈ history.filterMap logoutOf ∨ Delivers options response login) [] := by
  apply handleControl_imp options request _ fun _ _ _ => trivial
  intro history response haccounted
  exact ⟨response, rfl, haccounted.sessions⟩

end Control

end Lotur.Gateway.WebAuth
