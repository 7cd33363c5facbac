import Lotur.Gateway.WebAuthCalls

/-! Whom a content request goes on for, and what it asks on the way, whatever its surroundings
answer. -/
namespace Lotur.Gateway.WebAuth
open JsString Interleaving Auth

variable (options : WebAuthOptions) (request : IncomingMessage)

def contentAudience : JsString :=
  ofAscii "content:" ++ normalizedAuthority options request.host

/-- What the cookie of the request resolves to: nothing where it has none. -/
def Reported (history : History) (principal : Option Principal) : Prop :=
  parseCookie request.cookie options.contentCookie = none ∧ principal = none ∨
    ∃ token, ⟨.resolveSession token (contentAudience options request), .ok principal⟩ ∈ history

/-- The decision on the request where its cookie resolves to that principal. -/
def decision (principal : Option Principal) : ContentStep :=
  WebPlatform.authorizeContent ⟨options.parseHost, options.scheme⟩
    (contentRequest request (normalizedAuthority options request.host) principal true)

/-- What a content request may ask: it does not check passwords and changes no account. -/
def ContentAsks (history : History) : Ask → Prop
  | .resolveSession token audience =>
      parseCookie request.cookie options.contentCookie = some token ∧
        audience = contentAudience options request
  | .consumeSessionExchange _ targetHost =>
      decision options request none = .exchange ∧
        targetHost = normalizedAuthority options request.host
  | .createLoginIntent targetHost targetPath =>
      (∃ principal, Reported options request history principal ∧
        decision options request principal = .createLoginIntent targetHost targetPath) ∧
      (options.admitLoginIntent = true →
        ⟨.admitLoginIntent (options.address request) targetHost, true⟩ ∈ history)
  | .withinDeadline | .acquireAuthorization _ | .admitLoginIntent _ _ => True
  | _ => False

/-- The principal was resolved for this host and may see shared content. -/
structure Granted (history : History) (principal : Principal) : Prop where
  reported : Reported options request history (some principal)
  settled : principal.mustChangePassword = false
  shared : canAccessSharedContent principal.roles = true

variable {options request} {history : History} {α β : Type}

def Serves (options : WebAuthOptions) (request : IncomingMessage) (history : History) (p : WebM α)
    (returns : History → α → Prop) : Prop :=
  p.Follows (fun _ => True) (ContentAsks options request)
    (fun history result => ∀ value, result = .ok value → returns history value) history

theorem Serves.bind {returns : History → β → Prop} {p : WebM α} {f : α → WebM β}
    (h : Serves options request history p fun history value =>
      Serves options request history (f value) returns) :
    Serves options request history (p >>= f) returns := by
  apply Program.Follows.bind
  apply Program.Follows.mono h
  intro history' result hresult
  cases result with
  | ok value => exact hresult value rfl
  | error error => nofun

theorem serves_pure {returns : History → α → Prop} {value : α} (h : returns history value) :
    Serves options request history (pure value) returns := by
  rintro _ ⟨⟩
  exact h

theorem serves_fail {returns : History → α → Prop} (error : WebError) :
    Serves options request history (.fail error) returns := nofun

theorem serves_ite {c : Prop} [Decidable c] {returns : History → α → Prop} {p p' : WebM α}
    (h : c → Serves options request history p returns)
    (helse : ¬c → Serves options request history p' returns) :
    Serves options request history (if c then p else p') returns := by
  split_ifs with hc
  · exact h hc
  · exact helse hc

theorem serves_ask {q : Ask} {returns : History → Answer q → Prop}
    (hasks : ContentAsks options request history q)
    (h : ∀ reply, returns (⟨q, reply⟩ :: history) reply) :
    Serves options request history (ask q) returns := by
  refine ⟨hasks, fun reply _ => ?_⟩
  rintro _ ⟨⟩
  exact h reply

theorem serves_call {q : Ask} {returns : History → α → Prop} {f : Answer q → Except WebError α}
    (hasks : ContentAsks options request history q)
    (h : ∀ reply value, f reply = .ok value → returns (⟨q, reply⟩ :: history) value) :
    Serves options request history (ask q >>= fun reply => settled (f reply)) returns := by
  apply Serves.bind
  apply serves_ask hasks
  intro reply
  exact Program.Follows.settle (h reply)

/-- A program whose errors are answered does not throw. -/
theorem Serves.answered {returns : History → α → Prop} {p : WebM α}
    (h : Serves options request history p returns) (answer : WebError → α)
    (hanswer : ∀ history error, returns history (answer error)) :
    (p.rescue fun error => pure (answer error) : WebM α).Follows (fun _ => True)
      (ContentAsks options request)
      (fun history result => ∃ value, result = .ok value ∧ returns history value) history := by
  apply Program.Follows.rescue
  apply Program.Follows.mono h
  intro history' result hresult
  cases result with
  | ok value => exact ⟨value, rfl, hresult value rfl⟩
  | error error => exact ⟨answer error, rfl, hanswer history' error⟩

theorem startAdmitted_serves {returns : History → α → Prop} {operation : WebM α}
    (h : ∀ history', history <:+ history' → Serves options request history' operation returns) :
    Serves options request history (startAdmittedAuthorizationOperation options request operation)
      returns := by
  apply Serves.bind
  apply serves_ask (q := .acquireAuthorization _) trivial
  intro admitted
  cases admitted with
  | false => exact serves_fail _
  | true => exact h _ (later_cons _)

theorem Reported.later {history' : History} {principal : Option Principal}
    (h : Reported options request history principal) (hlater : history <:+ history') :
    Reported options request history' principal :=
  h.imp_right fun ⟨token, hevent⟩ => ⟨token, hlater.subset hevent⟩

theorem Reported.granted {principal : Option Principal} {p : Principal}
    (h : Reported options request history principal) (hp : contentPrincipal principal = some p) :
    Granted options request history p := by
  obtain ⟨rfl, hallowed⟩ := Option.filter_eq_some_iff.1 hp
  rw [Bool.and_eq_true_iff, Bool.not_eq_true'] at hallowed
  exact ⟨h, hallowed.1, hallowed.2⟩

theorem resolveContentPrincipal_serves {returns : History → Option Principal → Prop}
    (h : ∀ history' principal, Reported options request history' principal →
      returns history' principal) :
    Serves options request history (resolveCookiePrincipalForRequest options request
      options.contentCookie (contentAudience options request)) returns := by
  unfold resolveCookiePrincipalForRequest
  cases hcookie : parseCookie request.cookie options.contentCookie with
  | none => exact serves_pure (h history none (Or.inl ⟨hcookie, rfl⟩))
  | some token =>
    apply Serves.bind
    apply serves_ask (q := .withinDeadline) trivial
    intro within
    cases within with
    | false => exact serves_fail _
    | true =>
      apply startAdmitted_serves
      intro history' _
      apply serves_call (q := .resolveSession token (contentAudience options request))
        (f := fun reply => reply) ⟨hcookie, rfl⟩
      rintro _ principal rfl
      exact h _ _ (Or.inr ⟨token, List.mem_cons_self⟩)

section Decisions

variable {url : WhatwgUrl.Url} {principal : Option Principal}
  (hurl : options.requestUrl (normalizedAuthority options request.host) request.url = some url)

include hurl

theorem requestUrl_eq : WebPlatform.requestUrl ⟨options.parseHost, options.scheme⟩
    (contentRequest request (normalizedAuthority options request.host) principal true) =
      some url := by
  rw [← hurl]
  simp only [WebPlatform.requestUrl, WebPlatform.absolute, contentRequest, List.append_nil]
  rfl

theorem decision_exchange
    (hexchange : ofText url.pathname = ofAscii "/_review-tunnel/session") :
    decision options request principal = .exchange := by
  unfold decision WebPlatform.authorizeContent
  rw [requestUrl_eq hurl]
  exact if_pos hexchange

theorem decision_createLoginIntent
    (hexchange : ofText url.pathname ≠ ofAscii "/_review-tunnel/session")
    (hprincipal : contentPrincipal principal = none)
    (hpage : isTopLevelHtmlNavigation (contentRequest request
      (normalizedAuthority options request.host) principal true) = true) :
    decision options request principal = .createLoginIntent
      (normalizedAuthority options request.host) (ofText (url.pathname ++ url.search)) := by
  unfold decision WebPlatform.authorizeContent
  rw [requestUrl_eq hurl]
  simp only [if_neg hexchange]
  unfold contentPrincipal at hprincipal
  simp only [contentRequest] at hpage ⊢
  rw [hprincipal]
  simp [hpage]

end Decisions

theorem startLogin_serves {returns : History → ServerResponse → Prop} {url : WhatwgUrl.Url}
    {principal : Option Principal} (hreported : Reported options request history principal)
    (hdecision : decision options request principal = .createLoginIntent
      (normalizedAuthority options request.host) (ofText (url.pathname ++ url.search)))
    (hadmitted : options.admitLoginIntent = true →
      ⟨.admitLoginIntent (options.address request) (normalizedAuthority options request.host),
        true⟩ ∈ history) (h : ∀ history' response, returns history' response) :
    Serves options request history
      (startLogin options request (normalizedAuthority options request.host) url) returns := by
  apply Serves.bind
  apply startAdmitted_serves
  intro history' hlater
  apply serves_call (q := .createLoginIntent (normalizedAuthority options request.host)
    (ofText (url.pathname ++ url.search))) (f := fun reply => reply)
    ⟨⟨principal, hreported.later hlater, hdecision⟩,
      fun hlimited => hlater.subset (hadmitted hlimited)⟩
  intro reply intent _
  exact serves_pure (h _ _)

theorem consumeExchange_serves {returns : History → ServerResponse → Prop} {url : WhatwgUrl.Url}
    (hdecision : decision options request none = .exchange)
    (h : ∀ history' response, returns history' response) :
    Serves options request history
      (consumeExchange options request (normalizedAuthority options request.host) url)
      returns := by
  apply Serves.bind
  apply startAdmitted_serves
  intro history' _
  apply serves_call (q := .consumeSessionExchange _ (normalizedAuthority options request.host))
    (f := fun reply => reply) ⟨hdecision, rfl⟩
  intro reply session _
  exact serves_pure (h _ _)

/-- A response, or a principal to whom the content was granted. -/
def Grants (options : WebAuthOptions) (request : IncomingMessage) (history : History)
    (outcome : Except ServerResponse Principal) : Prop :=
  ∀ principal, outcome = .ok principal → Granted options request history principal

theorem responded_serves {p : WebM ServerResponse} {answer : WebError → ServerResponse}
    (h : Serves options request history p fun _ _ => True) :
    Serves options request history (Except.error <$> p.rescue fun error => pure (answer error))
      (Grants options request) := by
  apply Serves.bind
  apply (h.answered answer fun _ _ => trivial).mono
  rintro history' _ ⟨response, rfl, _⟩ _ ⟨⟩
  exact serves_pure nofun

variable (options request) in
/-- A content request goes on only for a session of its own host, and otherwise has a response. -/
theorem authorizeContent_grants : (authorizeContent options request).Follows (fun _ => True)
    (ContentAsks options request)
    (fun history result => ∃ outcome, result = .ok outcome ∧
      Grants options request history outcome) [] := by
  unfold authorizeContent
  apply Serves.answered _ _ fun _ _ => nofun
  cases hurl : options.requestUrl (normalizedAuthority options request.host) request.url with
  | none => exact serves_fail _
  | some url =>
    apply serves_ite fun hexchange => responded_serves
      (consumeExchange_serves (decision_exchange hurl hexchange) fun _ _ => trivial)
    intro hexchange
    apply Serves.bind
    apply resolveContentPrincipal_serves
    intro history principal hreported
    dsimp only
    cases hprincipal : contentPrincipal principal with
    | some p =>
      apply serves_pure
      rintro _ ⟨⟩
      exact hreported.granted hprincipal
    | none =>
      apply serves_ite fun _ => serves_pure nofun
      intro hnavigation
      have hdecision := decision_createLoginIntent hurl hexchange hprincipal
        (by simpa using hnavigation)
      have hstart : ∀ history', history <:+ history' → (options.admitLoginIntent = true →
          ⟨.admitLoginIntent (options.address request) (normalizedAuthority options request.host),
            true⟩ ∈ history') → Serves options request history'
          (Except.error <$> (startLogin options request (normalizedAuthority options request.host)
            url).rescue fun error =>
              pure (handleWebError secured (ofText url.pathname) none [] error))
          (Grants options request) := by
        intro history' hlater hadmitted
        apply responded_serves
        exact startLogin_serves (hreported.later hlater) hdecision hadmitted fun _ _ => trivial
      apply serves_ite
      · intro _
        apply Serves.bind
        apply serves_ask (q := .admitLoginIntent _ _) trivial
        intro admitted
        cases admitted with
        | false => exact serves_pure nofun
        | true => exact hstart _ (later_cons _) fun _ => List.mem_cons_self
      · intro hunlimited
        exact hstart _ List.suffix_rfl fun hlimited => absurd hlimited hunlimited

variable (options request) in
theorem resolveContentUpgrade_grants : (resolveContentUpgrade options request).Follows
    (fun _ => True) (ContentAsks options request)
    (fun history result => ∀ principal, result = .ok (some principal) →
      Granted options request history principal) [] := by
  have hserves : Serves options request [] (resolveContentUpgrade options request)
      fun history principal => ∀ p ∈ principal, Granted options request history p := by
    apply Serves.bind
    apply resolveContentPrincipal_serves
    intro history principal hreported
    exact serves_pure fun p hp => hreported.granted hp
  apply Program.Follows.mono hserves
  rintro history result hresult principal rfl
  exact hresult _ rfl principal rfl

end Lotur.Gateway.WebAuth
