import Lotur.Auth.Currency
import Lotur.Library.WhatwgUrl

/-! The way back after a login on the control host: an unauthenticated content request leaves its
path in a login intent, the exchange on the content host returns it, and the response redirects
there. -/
namespace Lotur.Auth
open Interleaving WhatwgUrl

/-- The conversion of a JavaScript string to scalar values; a lone surrogate is replaced. -/
def scalarValues : JsString → Text
  | [] => []
  | [unit] => [if 0xd800 ≤ unit ∧ unit ≤ 0xdfff then 0xfffd else unit.toNat]
  | high :: low :: rest =>
    if 0xd800 ≤ high ∧ high ≤ 0xdbff ∧ 0xdc00 ≤ low ∧ low ≤ 0xdfff then
      (0x10000 + (high.toNat - 0xd800) * 0x400 + (low.toNat - 0xdc00)) :: scalarValues rest
    else (if 0xd800 ≤ high ∧ high ≤ 0xdfff then 0xfffd else high.toNat) :: scalarValues (low :: rest)

/-- The getters of a URL return percent-encoded text. -/
def ofText (value : Text) : JsString := value.map Nat.toUInt16

/-- What `authorizeContent` reads of a request; `authority` is the normalized `Host`, and
`principal` the one its cookie resolves to. -/
structure ContentRequest where
  authority : JsString
  target : JsString
  method : JsString
  accept : JsString
  fetchMode : Option JsString
  fetchDestination : Option JsString
  principal : Option Principal
  admitted : Bool
  deriving DecidableEq, Repr

def isTopLevelHtmlNavigation (request : ContentRequest) : Bool :=
  request.method = JsString.ofAscii "GET" &&
    decide (JsString.ofAscii "text/html" <:+: request.accept.toLowerCase) &&
    (request.fetchMode.all fun mode => mode.toLowerCase = JsString.ofAscii "navigate") &&
    (request.fetchDestination.all fun destination =>
      destination.toLowerCase = JsString.ofAscii "document")

/-- What `authorizeContent` goes on to do: it throws on a URL that does not parse. -/
inductive ContentStep where
  | invalidUrl
  | exchange
  | authorized (principal : Principal)
  | authenticationRequired
  | loginIntentRateLimited
  | createLoginIntent (targetHost targetPath : JsString)
  deriving DecidableEq, Repr

/-- The host parser of the platform and the scheme of the gateway. -/
structure WebPlatform where
  parseHost : Bool → Text → Option Text
  scheme : JsString

namespace WebPlatform

variable (web : WebPlatform)

/-- The scheme, `://`, the authority and what follows it. -/
def absolute (authority rest : JsString) : Text :=
  scalarValues (web.scheme ++ JsString.ofAscii "://" ++ authority ++ rest)

/-- `new URL(request.url, origin)`. -/
def requestUrl (request : ContentRequest) : Option Url :=
  match parseBase web.parseHost (web.absolute request.authority []) with
  | none => none
  | some base => parse web.parseHost base (scalarValues request.target)

def authorizeContent (request : ContentRequest) : ContentStep :=
  match web.requestUrl request with
  | none => .invalidUrl
  | some url =>
    if ofText url.pathname = JsString.ofAscii "/_review-tunnel/session" then .exchange
    else match request.principal.filter fun principal =>
        !principal.mustChangePassword && canAccessSharedContent principal.roles with
    | some principal => .authorized principal
    | none =>
      if !isTopLevelHtmlNavigation request then .authenticationRequired
      else if !request.admitted then .loginIntentRateLimited
      else .createLoginIntent request.authority (ofText (url.pathname ++ url.search))

/-- The page the browser is on when it hands in an exchange code, given as it stands in the URL. -/
def exchangeBase (authority encodedCode : JsString) : Option Base :=
  parseBase web.parseHost (web.absolute authority
    (JsString.ofAscii "/_review-tunnel/session?code=" ++ encodedCode))

/-- The browser follows the redirect to the host of the page it is on. -/
def StaysOnHost (base : Base) (location : JsString) : Prop :=
  (parse web.parseHost base (scalarValues location)).map Url.authority =
    some (some base.host, base.port)

/-- The path of the request target is no network-path reference, unless one to the host itself. -/
def ReturnsHome (base : Base) (request : ContentRequest) : Prop :=
  ∀ url, web.requestUrl request = some url → isNetworkPath url.pathname = true →
    networkHost web.parseHost base.scheme (url.pathname ++ url.search) = some (base.host, base.port)

end WebPlatform

theorem toUInt16_printable {c : ℕ} (hc : 0x20 < c ∧ c < 0x7f) :
    (Nat.toUInt16 c).toNat = c ∧ ¬ 0xd800 ≤ Nat.toUInt16 c := by
  have hnat : (Nat.toUInt16 c).toNat = c := by
    rw [Nat.toUInt16_eq]
    exact UInt16.toNat_ofNat_of_lt' (lt_trans hc.2 (by decide))
  refine ⟨hnat, fun hle => ?_⟩
  have hlarge : 0xd800 ≤ (Nat.toUInt16 c).toNat := UInt16.le_iff_toNat_le.1 hle
  omega

theorem scalarValues_ofText (value : Text) (h : Printable value) :
    scalarValues (ofText value) = value := by
  match value with
  | [] => rfl
  | [c] =>
    obtain ⟨hnat, hsmall⟩ := toUInt16_printable (h c List.mem_cons_self)
    simp [ofText, scalarValues, hsmall, hnat]
  | first :: second :: rest =>
    obtain ⟨hnat, hsmall⟩ := toUInt16_printable (h first List.mem_cons_self)
    have hrest := scalarValues_ofText (second :: rest)
      fun c hc => h c (List.mem_cons_of_mem first hc)
    simp only [ofText, List.map_cons] at hrest ⊢
    simp [scalarValues, hsmall, hnat, hrest]

namespace Repository

variable {r r' : Repository} {backend : Backend} {placement : Placement}

theorem appendAuditEvent_tables {event : AuditEvent} (h : r.appendAuditEvent event = some r') :
    r'.loginIntents ⊆ r.loginIntents ∧ r'.sessionExchanges ⊆ r.sessionExchanges := by
  rw [appendAuditEvent_eq h]
  exact ⟨List.Subset.refl _, List.Subset.refl _⟩

theorem mutateAccount_tables {accountId : JsString} {authorization : AccountMutationAuthorization}
    {refuse : Account → Option AccountMutationResult} {change : Account → Account} {updatedAt : ℤ}
    {event : AuditEvent} {result : AccountMutationResult}
    (h : r.mutateAccount accountId authorization refuse change updatedAt event =
      some (result, r')) :
    r'.loginIntents ⊆ r.loginIntents ∧ r'.sessionExchanges ⊆ r.sessionExchanges := by
  unfold mutateAccount at h
  split_ifs at h
  · cases h
    exact ⟨List.Subset.refl _, List.Subset.refl _⟩
  split at h
  · cases h
    exact ⟨List.Subset.refl _, List.Subset.refl _⟩
  split at h
  · cases h
    exact ⟨List.Subset.refl _, List.Subset.refl _⟩
  · obtain ⟨appended, happended, heq⟩ := Option.map_eq_some_iff.1 h
    rw [appendAuditEvent_eq happended] at heq
    cases heq
    exact ⟨List.Subset.refl _, List.filter_subset_self _⟩

theorem saveLoginIntent_mem {intent : LoginIntent} {now : ℤ} {limits : LoginIntentLimits}
    {saved : Bool} (h : r.saveLoginIntent backend placement intent now limits = some (saved, r')) :
    r'.sessionExchanges = r.sessionExchanges ∧
      ∀ row ∈ r'.loginIntents, row ∈ r.loginIntents ∨ row = intent := by
  cases backend with
  | inMemory =>
    simp only [saveLoginIntent] at h
    split_ifs at h
    · cases h
      exact ⟨rfl, fun row hrow => Or.inl (List.mem_of_mem_filter hrow)⟩
    · cases h
      refine ⟨rfl, fun row hrow => ?_⟩
      rcases Table.mem_set hrow with hrow | rfl
      · exact Or.inl (List.mem_of_mem_filter hrow)
      · exact Or.inr rfl
  | postgres =>
    simp only [saveLoginIntent] at h
    split_ifs at h
    · cases h
      exact ⟨rfl, fun row hrow => Or.inl (List.mem_of_mem_filter hrow)⟩
    · cases h
      refine ⟨rfl, fun row hrow => ?_⟩
      rcases List.mem_append.1 hrow with hrow | hrow
      · exact Or.inl (List.mem_of_mem_filter hrow)
      · exact Or.inr (List.mem_singleton.1 hrow)

/-- What a login intent or an exchange in the table after the call goes back to. -/
structure Traced (query : Query) (r r' : Repository) : Prop where
  loginIntents : ∀ intent ∈ r'.loginIntents, intent ∈ r.loginIntents ∨
    ∃ now limits, query = .saveLoginIntent intent now limits
  sessionExchanges : ∀ exchange ∈ r'.sessionExchanges, exchange ∈ r.sessionExchanges ∨
    ∃ now limits, query = .saveSessionExchange exchange now limits

theorem Traced.of_subset {query : Query} (hintents : r'.loginIntents ⊆ r.loginIntents)
    (hexchanges : r'.sessionExchanges ⊆ r.sessionExchanges) : Traced query r r' :=
  ⟨fun _ h => Or.inl (hintents h), fun _ h => Or.inl (hexchanges h)⟩

theorem Traced.refl (query : Query) (r : Repository) : Traced query r r :=
  .of_subset (List.Subset.refl _) (List.Subset.refl _)

theorem call_traced {query : Query} {value : query.Value}
    (h : r.call backend placement query = some (value, r')) : Traced query r r' := by
  cases query with
  | findAccountById id => cases h; exact .refl _ _
  | findAccountByUsername username => cases h; exact .refl _ _
  | createFirstAccount account event =>
    simp only [call, createFirstAccount] at h
    split_ifs at h
    · cases h
      exact .refl _ _
    · obtain ⟨appended, happended, heq⟩ := Option.map_eq_some_iff.1 h
      obtain ⟨hintents, hexchanges⟩ := appendAuditEvent_tables happended
      cases heq
      exact .of_subset hintents hexchanges
  | createAccount account authorization event =>
    simp only [call, createAccount] at h
    split_ifs at h
    · cases h
      exact .refl _ _
    · cases h
      exact .refl _ _
    · obtain ⟨appended, happended, heq⟩ := Option.map_eq_some_iff.1 h
      obtain ⟨hintents, hexchanges⟩ := appendAuditEvent_tables happended
      cases heq
      exact .of_subset hintents hexchanges
  | setAccountEnabled accountId enabled authorization updatedAt event =>
    obtain ⟨hintents, hexchanges⟩ := mutateAccount_tables h
    exact .of_subset hintents hexchanges
  | setAccountRoles accountId roles authorization updatedAt event =>
    obtain ⟨hintents, hexchanges⟩ := mutateAccount_tables h
    exact .of_subset hintents hexchanges
  | replaceAccountPassword accountId hash mustChange expected authorization updatedAt event =>
    obtain ⟨hintents, hexchanges⟩ := mutateAccount_tables h
    exact .of_subset hintents hexchanges
  | revokeAccountSessions accountId authorization updatedAt event =>
    simp only [call, revokeAccountSessions] at h
    obtain ⟨hintents, hexchanges⟩ := mutateAccount_tables h
    exact .of_subset hintents hexchanges
  | saveSession session now limits =>
    rcases saveSession_cases h with ⟨rfl, -⟩ | ⟨-, sessions, rfl, -⟩
    · exact .refl _ _
    · exact .of_subset (List.Subset.refl _) (List.Subset.refl _)
  | findSessionAccountByTokenDigests digests => cases h; exact .refl _ _
  | deleteSession id => cases h; exact .of_subset (List.Subset.refl _) (List.Subset.refl _)
  | getLoginThrottle key => cases h; exact .refl _ _
  | recordLoginFailure failure =>
    cases h
    exact .of_subset (List.Subset.refl _) (List.Subset.refl _)
  | deleteLoginThrottles keys =>
    cases h
    exact .of_subset (List.Subset.refl _) (List.Subset.refl _)
  | saveLoginIntent intent now limits =>
    obtain ⟨hexchanges, hrows⟩ := saveLoginIntent_mem h
    refine ⟨fun row hrow => ?_, fun row hrow => Or.inl (hexchanges ▸ hrow)⟩
    rcases hrows row hrow with hrow | rfl
    · exact Or.inl hrow
    · exact Or.inr ⟨now, limits, rfl⟩
  | consumeLoginIntent id now =>
    simp only [call, consumeLoginIntent] at h
    split at h
    · cases h
      exact .refl _ _
    · split_ifs at h
      · cases h
        exact .of_subset (List.filter_subset_self _) (List.Subset.refl _)
      · cases backend with
        | inMemory =>
          cases h
          exact .of_subset (List.filter_subset_self _) (List.Subset.refl _)
        | postgres => cases h; exact .refl _ _
  | saveSessionExchange exchange now limits =>
    rcases saveSessionExchange_cases h with ⟨rfl, -⟩ | ⟨-, exchanges, rfl, hrows⟩
    · exact .refl _ _
    · refine ⟨fun row hrow => Or.inl hrow, fun row hrow => ?_⟩
      rcases hrows row hrow with hrow | rfl
      · exact Or.inl hrow
      · exact Or.inr ⟨now, limits, rfl⟩
  | consumeSessionExchange digest targetHost now =>
    simp only [call, consumeSessionExchange] at h
    split at h
    · cases h
      exact .refl _ _
    · split_ifs at h
      · cases h
        exact .refl _ _
      · cases h
        exact .of_subset (List.Subset.refl _) (List.filter_subset_self _)
  | saveCarrierCredential credential now limits =>
    rcases saveCarrierCredential_cases h with ⟨rfl, -⟩ | ⟨-, credentials, rfl, -⟩
    · exact .refl _ _
    · exact .of_subset (List.Subset.refl _) (List.Subset.refl _)
  | consumeCarrierCredential id digest now =>
    simp only [call, consumeCarrierCredential] at h
    split at h
    · cases h
      exact .refl _ _
    · split_ifs at h
      · cases h
        exact .refl _ _
      · cases h
        exact .of_subset (List.Subset.refl _) (List.Subset.refl _)
  | deleteExpiredAuthArtifacts now batchSize =>
    cases h
    refine .of_subset ?_ ?_
    · exact fun row hrow => Table.mem_dropExpired hrow
    · exact fun row hrow => Table.mem_dropExpired hrow

end Repository

/-- The stored path reads the same to the browser. -/
theorem authorizeContent_location {web : WebPlatform} {request : ContentRequest}
    {targetHost targetPath : JsString}
    (h : web.authorizeContent request = .createLoginIntent targetHost targetPath) :
    targetHost = request.authority ∧ ∃ url, web.requestUrl request = some url ∧
      targetPath = ofText (url.pathname ++ url.search) := by
  unfold WebPlatform.authorizeContent at h
  split at h
  · cases h
  next url hurl =>
    refine ⟨?_, url, hurl, ?_⟩
    all_goals
      split at h
      · cases h
      split at h
      · cases h
      split at h
      · cases h
      split at h
      · cases h
      cases h
      rfl

theorem requestUrl_clean {web : WebPlatform} {request : ContentRequest} {url : Url}
    (h : web.requestUrl request = some url) : WhatwgUrl.Clean url := by
  unfold WebPlatform.requestUrl at h
  split at h
  · cases h
  next base hbase => exact parse_clean (parseBase_clean hbase) h

/-- The query of a reference does not make its path a network path. -/
theorem isNetworkPath_append_search {url : Url} (hslash : url.pathname.head? = some 0x2f) :
    isNetworkPath (url.pathname ++ url.search) = isNetworkPath url.pathname := by
  obtain ⟨rest, hrest⟩ := List.head?_eq_some_iff.1 hslash
  rw [hrest]
  cases rest with
  | cons c rest => rfl
  | nil =>
    unfold Url.search
    split <;> rfl

/-- The stored path starts with a slash exactly when the path of the target does. -/
theorem pathname_slash {web : WebPlatform} {request : ContentRequest} {url : Url}
    (hurl : web.requestUrl request = some url)
    (hslash : JsString.startsWith (ofText (url.pathname ++ url.search)) (JsString.ofAscii "/") =
      true) : url.pathname.head? = some 0x2f := by
  have hclean := requestUrl_clean hurl
  have hunits : (ofText (url.pathname ++ url.search)).head? = some 0x2f := by
    obtain ⟨rest, hrest⟩ := List.isPrefixOf_iff_prefix.1 hslash
    rw [← hrest]
    rfl
  rw [ofText, List.head?_map, List.head?_append] at hunits
  cases hpath : url.path with
  | segments list =>
    cases list with
    | cons segment rest => simp [Url.pathname, hpath]
    | nil =>
      simp only [Url.pathname, hpath, List.flatMap_nil, List.head?_nil, Option.none_or] at hunits
      unfold Url.search at hunits
      split at hunits <;> simp at hunits
  | isOpaque value =>
    simp only [Url.pathname, hpath] at hunits ⊢
    cases value with
    | nil =>
      simp only [List.head?_nil, Option.none_or] at hunits
      unfold Url.search at hunits
      split at hunits <;> simp at hunits
    | cons c rest =>
      obtain ⟨hne, hlt⟩ := hclean.isOpaque _ hpath c rfl
      simp only [List.head?_cons, Option.some_or, Option.map_some, Option.some.injEq] at hunits
      have hnat : (Nat.toUInt16 c).toNat = c := by
        rw [Nat.toUInt16_eq]
        exact UInt16.toNat_ofNat_of_lt' (lt_trans hlt (by decide))
      rw [hunits] at hnat
      exact absurd hnat.symm hne

/-- Where the browser goes once the path of the request target has been handed back. -/
theorem staysOnHost_iff {web : WebPlatform} {request : ContentRequest} {url : Url} {base : Base}
    (hurl : web.requestUrl request = some url) (hslash : url.pathname.head? = some 0x2f) :
    web.StaysOnHost base (ofText (url.pathname ++ url.search)) ↔ web.ReturnsHome base request := by
  have hprintable := (requestUrl_clean hurl).printable hslash
  have hhead : (url.pathname ++ url.search).head? = some 0x2f := by
    rw [List.head?_append, hslash]
    rfl
  have hunique : web.ReturnsHome base request ↔ (isNetworkPath url.pathname = true →
      networkHost web.parseHost base.scheme (url.pathname ++ url.search) =
        some (base.host, base.port)) := by
    refine ⟨fun h => h url hurl, fun h other hother => ?_⟩
    rw [hurl] at hother
    cases hother
    exact h
  rw [hunique, WebPlatform.StaysOnHost, scalarValues_ofText _ hprintable,
    parse_slash_authority hprintable hhead, isNetworkPath_append_search hslash]
  by_cases hnetwork : isNetworkPath url.pathname = true
  · rw [if_pos hnetwork]
    cases networkHost web.parseHost base.scheme (url.pathname ++ url.search) with
    | none => simp [hnetwork]
    | some found => simp [hnetwork, Prod.ext_iff]
  · simp [hnetwork]

/-- A call hands out only intents and exchanges with the property, and an exchange for its host. -/
def HandsOut (good : JsString → JsString → Prop) (event : Event Reply) : Prop :=
  (∀ intent, intentConsumed event = some intent → good intent.targetHost intent.targetPath) ∧
  ∀ targetHost exchange, exchangeConsumed event = some (targetHost, exchange) →
    exchange.targetHost = targetHost ∧ good exchange.targetHost exchange.targetPath

/-- What holds of host and path of every intent the operations are told to create holds of every
exchange. -/
def loginReturn (good : JsString → JsString → Prop) :
    Spec Reply AuthError Invocation Outcome Repository where
  inv r := (∀ intent ∈ r.loginIntents, good intent.targetHost intent.targetPath) ∧
    ∀ exchange ∈ r.sessionExchanges, good exchange.targetHost exchange.targetPath
  seen _ _ := True
  rely event := Keyed event ∧ HandsOut good event
  asks _ _ query := match query with
    | .saveLoginIntent intent _ _ => good intent.targetHost intent.targetPath
    | .saveSessionExchange exchange _ _ => good exchange.targetHost exchange.targetPath
    | _ => True
  ends invocation _ result := ∀ principal sessionToken targetPath,
    result = .ok (.exchanged principal sessionToken targetPath) →
      ∃ code targetHost, invocation.operation = .consumeSessionExchange code targetHost ∧
        good targetHost targetPath

theorem consumeLoginIntent_some {r r' : Repository} {backend : Backend} {id : JsString} {now : ℤ}
    {intent : LoginIntent} (h : r.consumeLoginIntent backend id now = (some intent, r')) :
    intent ∈ r.loginIntents := by
  unfold Repository.consumeLoginIntent at h
  dsimp only at h
  split at h
  · cases h
  next found hfound =>
    split_ifs at h
    · cases h
      exact (Table.get_some hfound).1
    · cases backend <;> cases h

theorem consumeSessionExchange_host {r r' : Repository} {digest targetHost : JsString} {now : ℤ}
    {exchange : SessionExchange}
    (h : r.consumeSessionExchange digest targetHost now = (some exchange, r')) :
    exchange.targetHost = targetHost := by
  unfold Repository.consumeSessionExchange at h
  split at h
  · cases h
  next found hfound =>
    split_ifs at h with hrefused
    · cases h
    · cases h
      simp only [not_or, not_not] at hrefused
      exact hrefused.1

theorem call_handsOut {good : JsString → JsString → Prop} {r r' : Repository} {backend : Backend}
    {placement : Placement} {query : Query} {reply : Reply query}
    (hinv : (loginReturn good).inv r)
    (h : r.call backend placement query = some (reply.value, r')) :
    HandsOut good ⟨query, reply⟩ := by
  obtain ⟨value, fresh⟩ := reply
  cases query with
  | consumeLoginIntent id now =>
    refine ⟨fun intent hintent => ?_, nofun⟩
    cases hintent
    exact hinv.1 intent (consumeLoginIntent_some (Option.some.inj h))
  | consumeSessionExchange digest targetHost now =>
    refine ⟨nofun, fun host exchange hexchange => ?_⟩
    obtain ⟨found, hfound, heq⟩ := Option.map_eq_some_iff.1 hexchange
    cases heq
    cases hfound
    exact ⟨consumeSessionExchange_host (Option.some.inj h),
      hinv.2 exchange (Repository.consumeSessionExchange_some (Option.some.inj h))⟩
  | _ => exact ⟨nofun, nofun⟩

theorem keeps_loginReturn (good : JsString → JsString → Prop) (backend : Backend) :
    Keeps (handle backend) (loginReturn good) where
  store {_ _ _ query _ _ _} hinv hasks h := by
    have htraced := Repository.call_traced (handle_eq_some h)
    refine ⟨fun intent hintent => ?_, fun exchange hexchange => ?_⟩
    · rcases htraced.loginIntents intent hintent with hold | ⟨now, limits, rfl⟩
      · exact hinv.1 intent hold
      · exact hasks
    · rcases htraced.sessionExchanges exchange hexchange with hold | ⟨now, limits, rfl⟩
      · exact hinv.2 exchange hold
      · exact hasks
  stable _ _ _ := trivial
  event hinv h := ⟨⟨Repository.call_keyed (handle_eq_some h),
    call_handsOut hinv (handle_eq_some h)⟩, trivial⟩

/-- An operation passes on what it was handed, and a login intent what it was told. -/
theorem follows_loginReturn {good : JsString → JsString → Prop} (service : AuthService)
    (invocation : Invocation)
    (hgood : ∀ targetHost targetPath,
      invocation.operation = .createLoginIntent targetHost targetPath →
      targetPath.startsWith (JsString.ofAscii "/") = true → good targetHost targetPath) :
    (service.program invocation).Follows (loginReturn good).rely ((loginReturn good).asks invocation)
      ((loginReturn good).ends invocation) [] := by
  refine (service.program_follows invocation).imp (List.forall_mem_nil _) (fun _ h => h.1) ?_ ?_
  · intro history query hseen hasks
    cases query with
    | saveLoginIntent intent now limits => exact hgood _ _ hasks.2.1 hasks.2.2
    | saveSessionExchange exchange now limits =>
      obtain ⟨event, hevent, intent, hintent, hhost, hpath⟩ := hasks.2
      have hhanded := (hseen event hevent).2.1 intent hintent
      rw [hhost, hpath] at hhanded
      exact hhanded
    | _ => trivial
  · intro history result hseen hends principal sessionToken targetPath hresult
    obtain ⟨code, targetHost, hoperation, event, hevent, exchange, hexchange, rfl⟩ :=
      hends.2 principal sessionToken targetPath hresult
    obtain ⟨rfl, hhanded⟩ := (hseen event hevent).2.2 _ _ hexchange
    exact ⟨code, _, hoperation, hhanded⟩

/-- The path an exchange returns was given to `createLoginIntent` for the same host. -/
theorem exchanged_of_createLoginIntent {service : AuthService} {backend : Backend}
    {limits : AuditEventLimits} {schedule : List (Label Invocation Choice)} {s : AuthSystem}
    (hrun : Execution.run (step service backend) (start limits) schedule = some s)
    {entry : Finished Reply AuthError Invocation Outcome} (hentry : entry ∈ s.finished)
    {principal : Principal} {sessionToken location : JsString}
    (hresult : entry.result = .ok (.exchanged principal sessionToken location)) :
    ∃ code targetHost, entry.operation.operation = .consumeSessionExchange code targetHost ∧
      (∃ fresh, .start ⟨.createLoginIntent targetHost location, fresh⟩ ∈ schedule) ∧
      location.startsWith (JsString.ofAscii "/") = true := by
  let good : JsString → JsString → Prop := fun targetHost targetPath =>
    (∃ fresh, .start ⟨.createLoginIntent targetHost targetPath, fresh⟩ ∈ schedule) ∧
      targetPath.startsWith (JsString.ofAscii "/") = true
  have hstart : Interleaving.Sound (loginReturn good) (start limits) :=
    ⟨⟨List.forall_mem_nil _, List.forall_mem_nil _⟩, List.forall_mem_nil _, List.forall_mem_nil _⟩
  have hsound := hstart.run (keeps_loginReturn good backend) (fun invocation hmem => by
    obtain ⟨operation, fresh⟩ := invocation
    refine follows_loginReturn service ⟨operation, fresh⟩ ?_
    rintro targetHost targetPath rfl hslash
    exact ⟨⟨fresh, hmem⟩, hslash⟩) hrun
  exact hsound.finished entry hentry principal sessionToken location hresult

/-- The `Location` sent after an exchange comes from a content request of the same host, and the
browser stays on that host exactly when the path of the request target leads nowhere else. -/
theorem login_return_stays {web : WebPlatform} {service : AuthService} {backend : Backend}
    {limits : AuditEventLimits} {schedule : List (Label Invocation Choice)} {s : AuthSystem}
    (hrun : Execution.run (step service backend) (start limits) schedule = some s)
    (hrequests : ∀ targetHost targetPath fresh,
      .start ⟨.createLoginIntent targetHost targetPath, fresh⟩ ∈ schedule →
      ∃ request, web.authorizeContent request = .createLoginIntent targetHost targetPath)
    {entry : Finished Reply AuthError Invocation Outcome} (hentry : entry ∈ s.finished)
    {principal : Principal} {sessionToken location : JsString}
    (hresult : entry.result = .ok (.exchanged principal sessionToken location)) :
    ∃ code targetHost, entry.operation.operation = .consumeSessionExchange code targetHost ∧
      (∃ request, web.authorizeContent request = .createLoginIntent targetHost location) ∧
      ∀ request, web.authorizeContent request = .createLoginIntent targetHost location →
        ∀ encodedCode base, web.exchangeBase targetHost encodedCode = some base →
        (web.StaysOnHost base location ↔ web.ReturnsHome base request) := by
  obtain ⟨code, targetHost, hoperation, ⟨fresh, hstart⟩, hslash⟩ :=
    exchanged_of_createLoginIntent hrun hentry hresult
  refine ⟨code, targetHost, hoperation, hrequests targetHost location fresh hstart, ?_⟩
  intro request hrequest encodedCode base _
  obtain ⟨-, url, hurl, rfl⟩ := authorizeContent_location hrequest
  exact staysOnHost_iff hurl (pathname_slash hurl hslash)

namespace ReturnRun
open PasswordChange

/-- A platform whose host parser lowers the case. -/
def platform : WebPlatform where
  parseHost _ host := if host.isEmpty then none else some (host.map lower)
  scheme := JsString.ofAscii "https"

def contentHost : JsString := JsString.ofAscii "shop.example"

/-- A navigation without a session cookie. -/
def navigation (target : JsString) : ContentRequest where
  authority := contentHost
  target := target
  method := JsString.ofAscii "GET"
  accept := JsString.ofAscii "text/html"
  fetchMode := none
  fetchDestination := none
  principal := none
  admitted := true

def reviewer : Principal where
  accountId := [2]
  username := username
  displayName := username
  roles := [.admin, .reviewer]
  mustChangePassword := false
  authVersion := 3
  sessionId := []

def code : JsString := List.replicate 24 16

/-- An account is made a reviewer and exchanges the login that the content request began. -/
def login (targetPath : JsString) : List (Label Invocation Choice) :=
  [.start ⟨.bootstrapAdministrator username username, fresh 1⟩, reply 2, reply 3,
    .start ⟨.changeOwnPassword principal (List.replicate 24 2) (List.replicate 20 9), fresh 3⟩,
    reply 4, reply 5, reply 6, reply 7, reply 8,
    .start ⟨.setAccountRoles ⟨[2], 2⟩ [2] [.admin, .reviewer], fresh 9⟩, reply 10, reply 11,
    .start ⟨.createLoginIntent contentHost targetPath, fresh 12⟩, reply 13,
    .start ⟨.createSessionExchange reviewer (List.replicate 24 12), fresh 14⟩, reply 15, reply 16,
    reply 17,
    .start ⟨.consumeSessionExchange code contentHost, fresh 18⟩, reply 19, reply 20, reply 21]

/-- The host of the exchange and the redirect that answers it. -/
def location (s : AuthSystem) : Option (JsString × JsString) :=
  match s.finished with
  | ⟨⟨.consumeSessionExchange _ targetHost, _⟩, _, .ok (.exchanged _ _ targetPath)⟩ :: _ =>
    some (targetHost, targetPath)
  | _ => none

theorem finished_of_location {s : AuthSystem} {host path : JsString}
    (h : location s = some (host, path)) :
    ∃ entry ∈ s.finished, ∃ code principal sessionToken,
      entry.operation.operation = .consumeSessionExchange code host ∧
      entry.result = .ok (.exchanged principal sessionToken path) := by
  unfold location at h
  split at h
  next code targetHost fresh history principal sessionToken targetPath rest heq =>
    cases h
    rw [heq]
    exact ⟨_, List.mem_cons_self, code, principal, sessionToken, rfl, rfl⟩
  next => cases h

theorem login_intents {targetPath : JsString} {host path : JsString} {drawn : Fresh}
    (h : .start ⟨.createLoginIntent host path, drawn⟩ ∈ login targetPath) :
    host = contentHost ∧ path = targetPath := by
  simp only [login, reply, List.mem_cons, List.not_mem_nil, or_false, reduceCtorEq, false_or,
    Label.start.injEq, Invocation.mk.injEq, Operation.createLoginIntent.injEq, false_and] at h
  exact h.1

/-- The page of the exchange. -/
def page : Base :=
  ⟨text "https", [], [], text "shop.example", none,
    [text "_review-tunnel", text "session"], some (text "code=abc")⟩

end ReturnRun

open PasswordChange ReturnRun in
theorem login_return_stays_local :
    ∃ s, Execution.run (step reversing .inMemory) (start defaultAuditEventLimits)
        (login (JsString.ofAscii "/docs?page=2")) = some s ∧
      location s = some (contentHost, JsString.ofAscii "/docs?page=2") ∧
      platform.authorizeContent (navigation (JsString.ofAscii "/x/../docs?page=2")) =
        .createLoginIntent contentHost (JsString.ofAscii "/docs?page=2") ∧
      platform.exchangeBase contentHost (JsString.ofAscii "abc") = some page ∧
      platform.StaysOnHost page (JsString.ofAscii "/docs?page=2") := by
  have hlocation : (Execution.run (step reversing .inMemory) (start defaultAuditEventLimits)
      (login (JsString.ofAscii "/docs?page=2"))).map location =
      some (some (contentHost, JsString.ofAscii "/docs?page=2")) := by decide +kernel
  have hrequest : platform.authorizeContent (navigation (JsString.ofAscii "/x/../docs?page=2")) =
      .createLoginIntent contentHost (JsString.ofAscii "/docs?page=2") := by decide +kernel
  have hpage : platform.exchangeBase contentHost (JsString.ofAscii "abc") = some page := by
    decide +kernel
  have hlocal : (platform.requestUrl (navigation (JsString.ofAscii "/x/../docs?page=2"))).all
      (fun url => !isNetworkPath url.pathname) = true := by decide +kernel
  obtain ⟨s, hrun, hs⟩ := Option.map_eq_some_iff.1 hlocation
  refine ⟨s, hrun, hs, hrequest, hpage, ?_⟩
  obtain ⟨entry, hentry, code, principal, sessionToken, hoperation, hresult⟩ :=
    finished_of_location hs
  have hrequests : ∀ targetHost targetPath drawn,
      .start ⟨.createLoginIntent targetHost targetPath, drawn⟩ ∈
        login (JsString.ofAscii "/docs?page=2") →
      ∃ request, platform.authorizeContent request = .createLoginIntent targetHost targetPath := by
    intro targetHost targetPath drawn hmem
    obtain ⟨rfl, rfl⟩ := login_intents hmem
    exact ⟨_, hrequest⟩
  obtain ⟨_, host, hsame, -, hiff⟩ := login_return_stays hrun hrequests hentry hresult
  rw [hoperation] at hsame
  cases hsame
  refine (hiff _ hrequest _ page hpage).2 fun url hurl hnetwork => ?_
  rw [hurl, Option.all_some, hnetwork] at hlocal
  cases hlocal

open PasswordChange ReturnRun in
/-- The dot segment hides a network path: the browser leaves for another host. -/
theorem login_return_leaves :
    ∃ s, Execution.run (step reversing .inMemory) (start defaultAuditEventLimits)
        (login (JsString.ofAscii "//evil.example/x")) = some s ∧
      location s = some (contentHost, JsString.ofAscii "//evil.example/x") ∧
      platform.authorizeContent (navigation (JsString.ofAscii "/.//evil.example/x")) =
        .createLoginIntent contentHost (JsString.ofAscii "//evil.example/x") ∧
      platform.exchangeBase contentHost (JsString.ofAscii "abc") = some page ∧
      (parse platform.parseHost page (scalarValues (JsString.ofAscii "//evil.example/x"))).map
        Url.authority = some (some (text "evil.example"), none) ∧
      ¬ platform.StaysOnHost page (JsString.ofAscii "//evil.example/x") := by
  have hlocation : (Execution.run (step reversing .inMemory) (start defaultAuditEventLimits)
      (login (JsString.ofAscii "//evil.example/x"))).map location =
      some (some (contentHost, JsString.ofAscii "//evil.example/x")) := by decide +kernel
  have hevil : (parse platform.parseHost page
      (scalarValues (JsString.ofAscii "//evil.example/x"))).map Url.authority =
      some (some (text "evil.example"), none) := by decide +kernel
  obtain ⟨s, hrun, hs⟩ := Option.map_eq_some_iff.1 hlocation
  refine ⟨s, hrun, hs, by decide +kernel, by decide +kernel, hevil, fun hstays => ?_⟩
  rw [WebPlatform.StaysOnHost, hevil] at hstays
  revert hstays
  decide +kernel

end Lotur.Auth
