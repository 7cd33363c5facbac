import Lotur.Gateway.OpenRequest

/-! `toLocalHeaders` of `apps/client/src/client.ts`, and what a reviewer's headers become between the
gateway's socket and the local application. -/
namespace Lotur.LocalHeaders
open JsString OpenHttp Gateway
open ResponseHead (RESERVED_GATEWAY_COOKIES)

/-- The settings of the session that are read here. -/
structure SessionConfigSnapshot where
  originProjection : OriginProjection
  publicOrigin : JsString
  deriving DecidableEq, Repr

def toLocalHeaders (parseUrl : UrlParser) (headers : List HeaderPair) (origin : WebUrl)
    (configuration : SessionConfigSnapshot) (kind : StreamKind) :
    Except JsError OutgoingHeaders := do
  let projected ← projectRequestHeaders parseUrl (sanitizeHopByHopHeaders headers)
    { originProjection := configuration.originProjection
      localOrigin := origin.origin
      publicOrigin := configuration.publicOrigin }
  let output := headerPairsToOutgoingHeaders (projected.filter fun (name, _) =>
    kind ≠ .websocket ∨ name.toLowerCase ≠ ofAscii "sec-websocket-extensions")
  match kind with
  | .http => return output
  | .websocket =>
    return (output.set (ofAscii "connection") (.one (ofAscii "Upgrade"))).set (ofAscii "upgrade")
      (.one (ofAscii "websocket"))

section Meant
variable (parseUrl : UrlParser) (publicUrl effective : WebUrl)

/-- The URL a value spells, if it has the public origin. -/
def publicTarget (value : JsString) : Option WebUrl :=
  if value = ofAscii "null" then none
  else (parseUrl value).filter fun parsed => parsed.origin = publicUrl.origin

/-- `Origin` for the local application. -/
def originValue (value : JsString) : JsString :=
  match publicTarget parseUrl publicUrl value with
  | none => value
  | some _ => effective.origin

/-- `Referer` for the local application. -/
def refererValue (value : JsString) : JsString :=
  match publicTarget parseUrl publicUrl value with
  | none => value
  | some target => effective.origin ++ target.pathname ++ target.search ++ target.hash

/-- The cookies of others, in order, each without the white space around it. -/
def otherCookies (value : JsString) : List JsString :=
  ((value.split 0x3b).map trim).filter fun part => cookiePartName part ∉ RESERVED_GATEWAY_COOKIES

def cookieValue (value : JsString) : Option JsString :=
  if otherCookies value = [] then none else some (join (ofAscii "; ") (otherCookies value))

/-- What becomes of the values of a header that is passed on. -/
def passedValues (headers : List HeaderPair) (name : JsString) : List JsString :=
  let values := headerValues headers name
  if name = ofAscii "origin" then values.map (originValue parseUrl publicUrl effective)
  else if name = ofAscii "referer" then values.map (refererValue parseUrl publicUrl effective)
  else if name = ofAscii "cookie" then values.filterMap cookieValue
  else if name = ofAscii "set-cookie" then
    values.filter fun value => setCookieName value ∉ RESERVED_GATEWAY_COOKIES
  else values

end Meant

/-- The header belongs to one hop, by itself or by the request's `Connection`. -/
def HopByHop (headers : List HeaderPair) (name : JsString) : Prop :=
  name ∈ STANDARD_HOP_BY_HOP_HEADERS ∨ name ∈ connectionTokens headers

instance (headers : List HeaderPair) (name : JsString) : Decidable (HopByHop headers name) :=
  inferInstanceAs (Decidable (_ ∨ _))

/-- Nothing stands in the way of the header, and nothing is generated under its name. -/
structure Passed (headers : List HeaderPair) (kind : StreamKind) (name : JsString) : Prop where
  host : name ≠ ofAscii "host"
  forwarding : isUntrustedForwardingHeader name = false
  hop : ¬ HopByHop headers name
  internal : name.startsWith (ofAscii "x-review-tunnel-") = false
  extensions : ¬ (kind = .websocket ∧ name = ofAscii "sec-websocket-extensions")

/-- The forwarding headers that are generated for an application that knows of the proxy. -/
def generatedNames : List JsString :=
  ["forwarded", "x-forwarded-host", "x-forwarded-proto", "x-forwarded-port"].map ofAscii

/-- The record that reaches the local application. -/
structure ForLocal (parseUrl : UrlParser) (headers : List HeaderPair) (kind : StreamKind)
    (originProjection : OriginProjection) (localUrl publicUrl : WebUrl) (output : OutgoingHeaders) :
    Prop where
  host : output.get (ofAscii "host") =
    some (.one (effectiveUrl originProjection localUrl publicUrl).host)
  generated : originProjection = .proxyAware →
    output.get (ofAscii "forwarded") =
        some (.one (ofAscii "host=\"" ++ escapeForwardedValue publicUrl.host ++
          ofAscii "\";proto=" ++ publicUrl.protocol.dropLast)) ∧
      output.get (ofAscii "x-forwarded-host") = some (.one publicUrl.host) ∧
      output.get (ofAscii "x-forwarded-proto") = some (.one publicUrl.protocol.dropLast) ∧
      output.get (ofAscii "x-forwarded-port") =
        some (.one (if publicUrl.port ≠ [] then publicUrl.port
          else if publicUrl.protocol = ofAscii "https:" then ofAscii "443" else ofAscii "80"))
  untrusted : ∀ name, isUntrustedForwardingHeader name = true →
    originProjection = .localView ∨ name ∉ generatedNames → output.get name = none
  identity : ∀ name ∈ UNTRUSTED_PROXY_IDENTITY_HEADERS, output.get name = none
  upgrade : kind = .websocket → output.get (ofAscii "connection") = some (.one (ofAscii "Upgrade")) ∧
    output.get (ofAscii "upgrade") = some (.one (ofAscii "websocket"))
  hop : ∀ name, HopByHop headers name → name ≠ ofAscii "host" →
    isUntrustedForwardingHeader name = false →
    (kind = .websocket → name ≠ ofAscii "connection" ∧ name ≠ ofAscii "upgrade") →
    output.get name = none
  internal : ∀ name, name.startsWith (ofAscii "x-review-tunnel-") = true → output.get name = none
  extensions : kind = .websocket → output.get (ofAscii "sec-websocket-extensions") = none
  passed : ∀ name, Passed headers kind name → output.get name =
    OutgoingValue.ofValues (passedValues parseUrl publicUrl
      (effectiveUrl originProjection localUrl publicUrl) headers name)

section Steps

theorem lowerUnit_lowerUnit (unit : UInt16) : lowerUnit (lowerUnit unit) = lowerUnit unit := by
  unfold lowerUnit
  by_cases hupper : 0x41 ≤ unit ∧ unit ≤ 0x5a
  · have hbounds := hupper
    simp only [UInt16.le_iff_toNat_le, UInt16.reduceToNat] at hbounds
    rw [if_pos hupper, if_neg]
    simp only [UInt16.le_iff_toNat_le, UInt16.toNat_add, UInt16.reduceToNat]
    omega
  · rw [if_neg hupper, if_neg hupper]

theorem toLowerCase_toLowerCase (text : JsString) :
    text.toLowerCase.toLowerCase = text.toLowerCase := by
  rw [toLowerCase, toLowerCase, List.map_map]
  apply List.map_congr_left
  intro unit _
  exact lowerUnit_lowerUnit unit

theorem isUntrustedForwardingHeader_toLowerCase (name : JsString) :
    isUntrustedForwardingHeader name.toLowerCase = isUntrustedForwardingHeader name := by
  simp only [isUntrustedForwardingHeader, toLowerCase_toLowerCase]

theorem headerValues_strip (headers : List HeaderPair) (name : JsString) :
    headerValues (stripUntrustedForwardingHeaders headers) name =
      if isUntrustedForwardingHeader name then [] else headerValues headers name := by
  have hfilter := headerValues_filter headers (fun name => !isUntrustedForwardingHeader name) name
  simp only [isUntrustedForwardingHeader_toLowerCase] at hfilter
  rw [stripUntrustedForwardingHeaders, hfilter]
  cases isUntrustedForwardingHeader name <;> rfl

theorem headerValues_sanitize (headers : List HeaderPair) (name : JsString) :
    headerValues (sanitizeHopByHopHeaders headers) name =
      if HopByHop headers name then [] else headerValues headers name := by
  have hfilter := headerValues_filter headers
    (fun name => name ∉ STANDARD_HOP_BY_HOP_HEADERS ∧ name ∉ connectionTokens headers) name
  rw [sanitizeHopByHopHeaders, hfilter]
  by_cases hhop : HopByHop headers name
  · have hnot : ¬ (name ∉ STANDARD_HOP_BY_HOP_HEADERS ∧ name ∉ connectionTokens headers) := by
      rwa [← not_or, not_not]
    simp only [hnot, hhop, decide_false, Bool.false_eq_true, ↓reduceIte]
  · have hboth : name ∉ STANDARD_HOP_BY_HOP_HEADERS ∧ name ∉ connectionTokens headers := by
      rwa [← not_or]
    simp only [hboth, hhop, not_false_eq_true, and_self, decide_true, ↓reduceIte]

/-- The value pushed for one value of a header, if any. -/
def isolateValue (name value : JsString) : Option JsString :=
  if name.startsWith (ofAscii "x-review-tunnel-") then none
  else if name = ofAscii "cookie" then cookieValue value
  else if name = ofAscii "set-cookie" ∧ setCookieName value ∈ RESERVED_GATEWAY_COOKIES then none
  else some value

theorem headerValues_isolate (headers : List HeaderPair) (name : JsString) :
    headerValues (isolateGatewayCredentials headers RESERVED_GATEWAY_COOKIES) name =
      (headerValues headers name).filterMap (isolateValue name) := by
  apply headerValues_filterMap
  rintro ⟨rawName, value⟩
  unfold isolateHeader isolateValue
  dsimp only
  by_cases htunnel : rawName.toLowerCase.startsWith (ofAscii "x-review-tunnel-") = true
  · rw [if_pos htunnel, if_pos htunnel, Option.map_none]
  rw [if_neg htunnel, if_neg htunnel]
  by_cases hcookie : rawName.toLowerCase = ofAscii "cookie"
  · rw [if_pos hcookie, if_pos hcookie]
    change (if (otherCookies value).length > 0 then
      some (rawName, join (ofAscii "; ") (otherCookies value)) else none) = _
    rw [cookieValue]
    by_cases hnone : otherCookies value = []
    · rw [if_pos hnone, hnone]
      rfl
    · rw [if_neg hnone, if_pos (List.length_pos_iff.2 hnone)]
      rfl
  · rw [if_neg hcookie, if_neg hcookie]
    split_ifs <;> rfl

section Projected
variable (parseUrl : UrlParser) (publicUrl effective : WebUrl)

def projectValue (name value : JsString) : Option JsString :=
  if name = ofAscii "host" ∨ isUntrustedForwardingHeader name then none
  else if name = ofAscii "origin" then some (originValue parseUrl publicUrl effective value)
  else if name = ofAscii "referer" then some (refererValue parseUrl publicUrl effective value)
  else some value

theorem rewriteSameOriginValue_eq (value : JsString) :
    rewriteSameOriginValue parseUrl value publicUrl effective false =
        originValue parseUrl publicUrl effective value ∧
      rewriteSameOriginValue parseUrl value publicUrl effective true =
        refererValue parseUrl publicUrl effective value := by
  unfold rewriteSameOriginValue originValue refererValue publicTarget
  by_cases hnull : value = ofAscii "null"
  · simp only [hnull, ↓reduceIte, and_self]
  · cases hparse : parseUrl value with
    | none => simp [hnull]
    | some parsed =>
      by_cases horigin : parsed.origin = publicUrl.origin
      all_goals simp [hnull, horigin, Option.filter]

theorem headerValues_project (headers : List HeaderPair) (name : JsString) :
    headerValues (headers.filterMap (projectRequestHeader parseUrl publicUrl effective)) name =
      (headerValues headers name).filterMap (projectValue parseUrl publicUrl effective name) := by
  apply headerValues_filterMap
  rintro ⟨rawName, value⟩
  obtain ⟨horigin, hreferer⟩ := rewriteSameOriginValue_eq parseUrl publicUrl effective value
  simp only [projectRequestHeader, projectValue, isUntrustedForwardingHeader_toLowerCase, horigin,
    hreferer]
  split_ifs <;> rfl

end Projected

end Steps

section Composed
variable (parseUrl : UrlParser) (rawHeaders : List JsString)

/-- What is left of a header when it leaves the gateway. -/
theorem headerValues_forwarded (name : JsString) :
    headerValues (forwardedHeaders rawHeaders) name =
      if isUntrustedForwardingHeader name ∨ HopByHop (rawHeadersToPairs rawHeaders) name then []
      else (headerValues (rawHeadersToPairs rawHeaders) name).filterMap (isolateValue name) := by
  have htokens : connectionTokens (stripUntrustedForwardingHeaders (rawHeadersToPairs rawHeaders)) =
      connectionTokens (rawHeadersToPairs rawHeaders) := by
    apply connectionTokens_congr_values
    rw [headerValues_strip, if_neg (by decide)]
  have hhop : HopByHop (stripUntrustedForwardingHeaders (rawHeadersToPairs rawHeaders)) name ↔
      HopByHop (rawHeadersToPairs rawHeaders) name := by
    rw [HopByHop, HopByHop, htokens]
  rw [forwardedHeaders, headerValues_isolate, headerValues_sanitize, headerValues_strip]
  simp only [hhop]
  by_cases huntrusted : isUntrustedForwardingHeader name = true
  · simp [huntrusted]
  · by_cases hname : HopByHop (rawHeadersToPairs rawHeaders) name
    · simp [hname]
    · simp [huntrusted, hname]

/-- The second filter finds nothing more. -/
theorem headerValues_sanitize_forwarded (name : JsString) :
    headerValues (sanitizeHopByHopHeaders (forwardedHeaders rawHeaders)) name =
      headerValues (forwardedHeaders rawHeaders) name := by
  have hstandard {name : JsString} (h : name ∈ STANDARD_HOP_BY_HOP_HEADERS) :
      headerValues (forwardedHeaders rawHeaders) name = [] := by
    rw [headerValues_forwarded, if_pos (.inr (.inl h))]
  have htokens : connectionTokens (forwardedHeaders rawHeaders) = connectionTokens [] :=
    connectionTokens_congr_values (hstandard (by decide))
  rw [headerValues_sanitize]
  by_cases hname : name ∈ STANDARD_HOP_BY_HOP_HEADERS
  · rw [hstandard hname, ite_self]
  · rw [if_neg]
    rw [HopByHop, htokens]
    simpa [connectionTokens] using hname

/-- Nothing of these headers comes from the request. -/
theorem projected_eq_nil (publicUrl effective : WebUrl) {name : JsString}
    (h : name = ofAscii "host" ∨ isUntrustedForwardingHeader name = true ∨
      HopByHop (rawHeadersToPairs rawHeaders) name ∨
      name.startsWith (ofAscii "x-review-tunnel-") = true) :
    (headerValues (forwardedHeaders rawHeaders) name).filterMap
      (projectValue parseUrl publicUrl effective name) = [] := by
  rw [headerValues_forwarded]
  rcases h with rfl | huntrusted | hhop | hinternal
  · rw [List.filterMap_eq_nil_iff]
    intro value _
    simp [projectValue]
  · simp [huntrusted]
  · simp [hhop]
  · split_ifs
    · rfl
    · have hnone : (headerValues (rawHeadersToPairs rawHeaders) name).filterMap
          (isolateValue name) = [] := by
        rw [List.filterMap_eq_nil_iff]
        intro value _
        rw [isolateValue, if_pos hinternal]
      rw [hnone, List.filterMap_nil]

/-- A header that nothing stands in the way of. -/
theorem projected_passed (publicUrl effective : WebUrl) {kind : StreamKind} {name : JsString}
    (h : Passed (rawHeadersToPairs rawHeaders) kind name) :
    (headerValues (forwardedHeaders rawHeaders) name).filterMap
        (projectValue parseUrl publicUrl effective name) =
      passedValues parseUrl publicUrl effective (rawHeadersToPairs rawHeaders) name := by
  have hkept : ¬ (isUntrustedForwardingHeader name = true ∨
      HopByHop (rawHeadersToPairs rawHeaders) name) := by
    rw [h.forwarding]
    simpa using h.hop
  rw [headerValues_forwarded, if_neg hkept, List.filterMap_filterMap]
  unfold passedValues isolateValue projectValue
  generalize headerValues (rawHeadersToPairs rawHeaders) name = values
  have hinternal : ¬ name.startsWith (ofAscii "x-review-tunnel-") = true := by simp [h.internal]
  have hdropped : ¬ (name = ofAscii "host" ∨ isUntrustedForwardingHeader name = true) := by
    simp [h.host, h.forwarding]
  simp only [if_neg hinternal, if_neg hdropped]
  by_cases horigin : name = ofAscii "origin"
  · have hne : ofAscii "origin" ≠ ofAscii "cookie" ∧ ofAscii "origin" ≠ ofAscii "set-cookie" := by
      decide
    subst horigin
    simp only [hne, ↓reduceIte, false_and, Option.bind_some]
    exact congrFun List.filterMap_eq_map values
  by_cases hreferer : name = ofAscii "referer"
  · have hne : ofAscii "referer" ≠ ofAscii "cookie" ∧
        ofAscii "referer" ≠ ofAscii "set-cookie" ∧ ofAscii "referer" ≠ ofAscii "origin" := by decide
    subst hreferer
    simp only [hne, ↓reduceIte, false_and, Option.bind_some]
    exact congrFun List.filterMap_eq_map values
  simp only [horigin, hreferer, ↓reduceIte, Option.bind_fun_some]
  by_cases hcookie : name = ofAscii "cookie"
  · simp only [hcookie, ↓reduceIte]
  simp only [hcookie, ↓reduceIte]
  by_cases hset : name = ofAscii "set-cookie"
  · have hguard : (fun value => if setCookieName value ∈ RESERVED_GATEWAY_COOKIES then none
        else some value) =
        Option.guard fun value : JsString => setCookieName value ∉ RESERVED_GATEWAY_COOKIES := by
      funext value
      by_cases hreserved : setCookieName value ∈ RESERVED_GATEWAY_COOKIES
      all_goals simp [Option.guard, hreserved]
    simp only [hset, ↓reduceIte, true_and, hguard]
    exact congrFun List.filterMap_eq_filter values
  · simp only [hset, false_and, ↓reduceIte, List.filterMap_some]

/-- The pairs of the record. -/
def localPairs (headers : List HeaderPair) (kind : StreamKind) (originProjection : OriginProjection)
    (localUrl publicUrl : WebUrl) : List HeaderPair :=
  ((sanitizeHopByHopHeaders headers).filterMap (projectRequestHeader parseUrl publicUrl
      (effectiveUrl originProjection localUrl publicUrl)) ++
    generatedHeaders originProjection publicUrl
      (effectiveUrl originProjection localUrl publicUrl)).filter fun (name, _) =>
    kind ≠ .websocket ∨ name.toLowerCase ≠ ofAscii "sec-websocket-extensions"

theorem headerValues_localPairs (kind : StreamKind) (originProjection : OriginProjection)
    (localUrl publicUrl : WebUrl) (name : JsString) :
    headerValues (localPairs parseUrl (forwardedHeaders rawHeaders) kind originProjection localUrl
        publicUrl) name =
      if kind = .websocket ∧ name = ofAscii "sec-websocket-extensions" then []
      else (headerValues (forwardedHeaders rawHeaders) name).filterMap (projectValue parseUrl publicUrl
          (effectiveUrl originProjection localUrl publicUrl) name) ++
        headerValues (generatedHeaders originProjection publicUrl
          (effectiveUrl originProjection localUrl publicUrl)) name := by
  have hfilter := headerValues_filter ((sanitizeHopByHopHeaders (forwardedHeaders rawHeaders)).filterMap
      (projectRequestHeader parseUrl publicUrl (effectiveUrl originProjection localUrl publicUrl)) ++
    generatedHeaders originProjection publicUrl
      (effectiveUrl originProjection localUrl publicUrl))
    (fun name => kind ≠ .websocket ∨ name ≠ ofAscii "sec-websocket-extensions") name
  rw [localPairs, hfilter, headerValues_append, headerValues_project,
    headerValues_sanitize_forwarded]
  by_cases hextensions : kind = .websocket ∧ name = ofAscii "sec-websocket-extensions"
  · simp [hextensions]
  · have hkept : kind ≠ .websocket ∨ name ≠ ofAscii "sec-websocket-extensions" := by
      rwa [← not_and_or]
    simp only [hextensions, hkept, decide_true, ↓reduceIte]

end Composed

section Record
variable {parseUrl : UrlParser} {headers : List HeaderPair} {kind : StreamKind}
  {originProjection : OriginProjection} {localUrl publicUrl : WebUrl}

/-- The record, with what an upgrade puts into it. -/
def localRecord (kind : StreamKind) (pairs : List HeaderPair) : OutgoingHeaders :=
  match kind with
  | .http => headerPairsToOutgoingHeaders pairs
  | .websocket => ((headerPairsToOutgoingHeaders pairs).set (ofAscii "connection")
      (.one (ofAscii "Upgrade"))).set (ofAscii "upgrade") (.one (ofAscii "websocket"))

theorem toLocalHeaders_eq {origin : WebUrl} {configuration : SessionConfigSnapshot}
    (hlocal : parseOrigin parseUrl origin.origin "localOrigin" = .ok localUrl)
    (hpublic : parseOrigin parseUrl configuration.publicOrigin "publicOrigin" = .ok publicUrl) :
    toLocalHeaders parseUrl headers origin configuration kind =
      .ok (localRecord kind (localPairs parseUrl headers kind configuration.originProjection localUrl
        publicUrl)) := by
  simp only [toLocalHeaders, projectRequestHeaders, hlocal, hpublic, bind, Except.bind]
  cases kind <;> rfl

/-- Only an upgrade writes two headers of its own. -/
theorem localRecord_get (kind : StreamKind) (pairs : List HeaderPair) {name : JsString}
    (h : kind = .websocket → name ≠ ofAscii "connection" ∧ name ≠ ofAscii "upgrade") :
    (localRecord kind pairs).get name = OutgoingValue.ofValues (headerValues pairs name) := by
  cases kind with
  | http => exact headerPairsToOutgoingHeaders_get pairs name
  | websocket =>
    obtain ⟨hconnection, hupgrade⟩ := h rfl
    rw [localRecord, OutgoingHeaders.get_set_ne _ _ hupgrade,
      OutgoingHeaders.get_set_ne _ _ hconnection, headerPairsToOutgoingHeaders_get]

theorem headerValues_generated_host (effective : WebUrl) :
    headerValues (generatedHeaders originProjection publicUrl effective) (ofAscii "host") =
      [effective.host] := by
  cases originProjection <;> rfl

theorem headerValues_generated_other {effective : WebUrl} {name : JsString}
    (hhost : name ≠ ofAscii "host")
    (h : originProjection = .localView ∨ name ∉ generatedNames) :
    headerValues (generatedHeaders originProjection publicUrl effective) name = [] := by
  have hnames : ∀ pair ∈ generatedHeaders originProjection publicUrl effective,
      pair.1.toLowerCase ≠ name := by
    intro pair hpair
    cases originProjection with
    | localView =>
      rw [generatedHeaders, List.mem_singleton] at hpair
      rw [hpair]
      exact Ne.symm hhost
    | proxyAware =>
      have hother := h.resolve_left nofun
      simp only [generatedHeaders, List.mem_cons, List.not_mem_nil, or_false] at hpair
      rcases hpair with rfl | rfl | rfl | rfl | rfl
      · exact Ne.symm hhost
      all_goals
        intro heq
        apply hother
        rw [← heq]
        dsimp only
        decide
  rw [headerValues, List.map_eq_nil_iff, List.filter_eq_nil_iff]
  intro pair hpair
  simpa using hnames pair hpair

end Record

theorem generatedNames_untrusted : ∀ name ∈ generatedNames,
    isUntrustedForwardingHeader name = true := by decide

section Local
variable (parseUrl : UrlParser) (rawHeaders : List JsString) (kind : StreamKind)
  (originProjection : OriginProjection) (localUrl publicUrl : WebUrl)

/-- The five filters and the record together. -/
def localOutput : OutgoingHeaders :=
  localRecord kind
    (localPairs parseUrl (forwardedHeaders rawHeaders) kind originProjection localUrl publicUrl)

variable {parseUrl rawHeaders kind originProjection localUrl publicUrl} {name : JsString}

theorem localOutput_get
    (h : kind = .websocket → name ≠ ofAscii "connection" ∧ name ≠ ofAscii "upgrade")
    (hextensions : ¬ (kind = .websocket ∧ name = ofAscii "sec-websocket-extensions")) :
    (localOutput parseUrl rawHeaders kind originProjection localUrl publicUrl).get name =
      OutgoingValue.ofValues
        ((headerValues (forwardedHeaders rawHeaders) name).filterMap (projectValue parseUrl publicUrl
          (effectiveUrl originProjection localUrl publicUrl) name) ++
        headerValues (generatedHeaders originProjection publicUrl
          (effectiveUrl originProjection localUrl publicUrl)) name) := by
  rw [localOutput, localRecord_get _ _ h, headerValues_localPairs, if_neg hextensions]

/-- A header that is neither passed on nor generated is absent. -/
theorem localOutput_eq_none
    (h : kind = .websocket → name ≠ ofAscii "connection" ∧ name ≠ ofAscii "upgrade")
    (hstopped : isUntrustedForwardingHeader name = true ∨
      HopByHop (rawHeadersToPairs rawHeaders) name ∨
      name.startsWith (ofAscii "x-review-tunnel-") = true)
    (hhost : name ≠ ofAscii "host")
    (hgenerated : originProjection = .localView ∨ name ∉ generatedNames) :
    (localOutput parseUrl rawHeaders kind originProjection localUrl publicUrl).get name = none := by
  rw [localOutput, localRecord_get _ _ h, headerValues_localPairs,
    projected_eq_nil _ _ _ _ (.inr hstopped), headerValues_generated_other hhost hgenerated,
    List.append_nil, ite_self]
  rfl

theorem localOutput_untrusted (h : isUntrustedForwardingHeader name = true)
    (hgenerated : originProjection = .localView ∨ name ∉ generatedNames) :
    (localOutput parseUrl rawHeaders kind originProjection localUrl publicUrl).get name = none := by
  refine localOutput_eq_none (fun _ => ⟨?_, ?_⟩) (.inl h) ?_ hgenerated
  all_goals
    rintro rfl
    exact absurd h (by decide)

theorem localOutput_forLocal :
    ForLocal parseUrl (rawHeadersToPairs rawHeaders) kind originProjection localUrl publicUrl
      (localOutput parseUrl rawHeaders kind originProjection localUrl publicUrl) := by
  constructor
  case host =>
    rw [localOutput_get (fun _ => by decide) (by rintro ⟨-, h⟩; exact absurd h (by decide)),
      projected_eq_nil _ _ _ _ (.inl rfl), headerValues_generated_host]
    rfl
  case generated =>
    rintro rfl
    refine ⟨?_, ?_, ?_, ?_⟩
    all_goals
      rw [localOutput_get (fun _ => by decide) (by rintro ⟨-, h⟩; exact absurd h (by decide)),
        projected_eq_nil _ _ _ _ (.inr (.inl (by decide)))]
      rfl
  case untrusted => exact fun name h hgenerated => localOutput_untrusted h hgenerated
  case identity =>
    intro name hname
    have hidentity : ∀ name ∈ UNTRUSTED_PROXY_IDENTITY_HEADERS,
        isUntrustedForwardingHeader name = true ∧ name ∉ generatedNames := by decide
    exact localOutput_untrusted (hidentity name hname).1 (.inr (hidentity name hname).2)
  case upgrade =>
    rintro rfl
    rw [localOutput, localRecord]
    exact ⟨by rw [OutgoingHeaders.get_set_ne _ _ (by decide), OutgoingHeaders.get_set_self],
      OutgoingHeaders.get_set_self _ _ _⟩
  case hop =>
    intro name hhop hhost htrusted hupgrade
    refine localOutput_eq_none hupgrade (.inr (.inl hhop)) hhost (.inr fun hmem => ?_)
    rw [generatedNames_untrusted name hmem] at htrusted
    cases htrusted
  case internal =>
    intro name hname
    refine localOutput_eq_none (fun _ => ⟨?_, ?_⟩) (.inr (.inr hname)) ?_ (.inr fun hmem => ?_)
    rotate_right
    · have hforeign : ∀ name ∈ generatedNames,
          name.startsWith (ofAscii "x-review-tunnel-") = false := by decide
      rw [hforeign name hmem] at hname
      cases hname
    all_goals
      rintro rfl
      exact absurd hname (by decide)
  case extensions =>
    rintro rfl
    rw [localOutput, localRecord_get _ _ (fun _ => by decide), headerValues_localPairs,
      if_pos ⟨rfl, rfl⟩]
    rfl
  case passed =>
    intro name hpassed
    have hgenerated : name ∉ generatedNames := by
      intro hmem
      have htrusted := hpassed.forwarding
      rw [generatedNames_untrusted name hmem] at htrusted
      cases htrusted
    have hupgrade : name ≠ ofAscii "connection" ∧ name ≠ ofAscii "upgrade" := by
      constructor
      all_goals
        rintro rfl
        exact hpassed.hop (.inl (by decide))
    rw [localOutput_get (fun _ => hupgrade) hpassed.extensions, projected_passed _ _ _ _ hpassed,
      headerValues_generated_other hpassed.host (.inr hgenerated), List.append_nil]

end Local

/-- From the reviewer's raw headers to the record that the local application gets. -/
theorem toLocalHeaders_forLocal (parse : List UInt8 → Except JsError JsonValue)
    (parseUrl : UrlParser) (request : IncomingMessage) (kind : StreamKind) (payload : List UInt8)
    (origin localUrl publicUrl : WebUrl) (configuration : SessionConfigSnapshot)
    (hprepare : prepareOpenRequest request kind = .ok payload)
    (hparse : parse payload = .ok (.object (openMetadata request kind).fields))
    (hlocal : parseOrigin parseUrl origin.origin "localOrigin" = .ok localUrl)
    (hpublic : parseOrigin parseUrl configuration.publicOrigin "publicOrigin" = .ok publicUrl) :
    ∃ metadata output, decodeOpenHttpMetadata parse payload = .ok metadata ∧
      toLocalHeaders parseUrl metadata.headers origin configuration metadata.kind = .ok output ∧
      ForLocal parseUrl (rawHeadersToPairs request.rawHeaders) kind configuration.originProjection
        localUrl publicUrl output := by
  refine ⟨openMetadata request kind, localOutput parseUrl request.rawHeaders kind
    configuration.originProjection localUrl publicUrl, ?_, toLocalHeaders_eq hlocal hpublic,
    localOutput_forLocal⟩
  simp only [decodeOpenHttpMetadata, parseObject, hparse, bind, Except.bind]
  exact (prepareOpenRequest_eq_ok hprepare).1

def localUrl3000 : WebUrl where
  origin := ofAscii "http://127.0.0.1:3000"
  protocol := ofAscii "http:"
  host := ofAscii "127.0.0.1:3000"
  port := ofAscii "3000"
  pathname := ofAscii "/"
  search := []
  hash := []

def previewUrl : WebUrl where
  origin := ofAscii "https://preview.example"
  protocol := ofAscii "https:"
  host := ofAscii "preview.example"
  port := []
  pathname := ofAscii "/"
  search := []
  hash := []

def parseKnownUrl : UrlParser := fun value =>
  if value = localUrl3000.origin then some localUrl3000
  else if value = previewUrl.origin then some previewUrl
  else none

def previewRequest (rawHeaders : List String) : IncomingMessage where
  rawHeaders := rawHeaders.map ofAscii
  method := some (ofAscii "GET")
  url := some (ofAscii "/")

def previewConfiguration (originProjection : OriginProjection) : SessionConfigSnapshot where
  originProjection := originProjection
  publicOrigin := previewUrl.origin

def hopRequest : IncomingMessage :=
  previewRequest ["Host", "preview.example", "Origin", "https://preview.example", "Connection",
    "X-Hop", "X-Hop", "1", "X-Forwarded-For", "::1"]

def hopPayload : List UInt8 := encodeMetadata (openMetadata hopRequest .websocket)

set_option maxRecDepth 8000 in
theorem toLocalHeaders_forLocal_preview :
    prepareOpenRequest hopRequest .websocket = .ok hopPayload ∧
      ∃ metadata output,
        decodeOpenHttpMetadata (ResponseHead.parseOnly hopPayload
          (openMetadata hopRequest .websocket).fields) hopPayload = .ok metadata ∧
        toLocalHeaders parseKnownUrl metadata.headers localUrl3000 (previewConfiguration .localView)
          metadata.kind = .ok output ∧
        ForLocal parseKnownUrl (rawHeadersToPairs hopRequest.rawHeaders) .websocket .localView
          localUrl3000 previewUrl output := by
  have hprepare : prepareOpenRequest hopRequest .websocket = .ok hopPayload := by rfl
  have hparse : ResponseHead.parseOnly hopPayload (openMetadata hopRequest .websocket).fields
      hopPayload = .ok (.object (openMetadata hopRequest .websocket).fields) := if_pos rfl
  have hlocal : parseOrigin parseKnownUrl localUrl3000.origin "localOrigin" =
      .ok localUrl3000 := by rfl
  have hpublic : parseOrigin parseKnownUrl (previewConfiguration .localView).publicOrigin
      "publicOrigin" = .ok previewUrl := by rfl
  exact ⟨hprepare, toLocalHeaders_forLocal _ _ _ _ _ _ _ _ _ hprepare hparse hlocal hpublic⟩

def cookieRequest : IncomingMessage :=
  previewRequest ["Set-Cookie", "rt_session_dev=1", "Cookie", "a=1;b=2"]

set_option maxRecDepth 8000 in
/-- A header that no filter is to touch is lost, and a cookie without a reserved name is rewritten. -/
theorem toLocalHeaders_changes_cookies :
    (∃ payload, prepareOpenRequest cookieRequest .http = .ok payload) ∧
      Passed (rawHeadersToPairs cookieRequest.rawHeaders) .http (ofAscii "set-cookie") ∧
      headerValues (rawHeadersToPairs cookieRequest.rawHeaders) (ofAscii "set-cookie") =
        [ofAscii "rt_session_dev=1"] ∧
      headerValues (rawHeadersToPairs cookieRequest.rawHeaders) (ofAscii "cookie") =
        [ofAscii "a=1;b=2"] ∧
      ∃ output, toLocalHeaders parseKnownUrl (openMetadata cookieRequest .http).headers localUrl3000
          (previewConfiguration .localView) .http = .ok output ∧
        output.get (ofAscii "set-cookie") = none ∧
        output.get (ofAscii "cookie") = some (.one (ofAscii "a=1; b=2")) := by
  refine ⟨⟨encodeMetadata (openMetadata cookieRequest .http), by rfl⟩, ?_, by decide, by decide,
    [(ofAscii "cookie", .one (ofAscii "a=1; b=2")), (ofAscii "host", .one localUrl3000.host)],
    by rfl, by decide, by decide⟩
  constructor
  all_goals decide

end Lotur.LocalHeaders
