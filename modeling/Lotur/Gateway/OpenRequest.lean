import Lotur.Gateway.CookieHeader
import Lotur.Protocol.OpenHttp
import Lotur.Proxy.ProjectionPolicy

/-! `prepareOpenRequest` of `apps/gateway/src/gateway-streams.ts`: what of a reviewer's request goes
into the OPEN_HTTP payload. -/
namespace Lotur.Gateway
open JsString OpenHttp
open ResponseHead (RESERVED_GATEWAY_COOKIES)

/-- What is read of Node's `IncomingMessage`. -/
structure IncomingMessage where
  rawHeaders : List JsString
  method : Option JsString
  url : Option JsString
  deriving DecidableEq, Repr

structure OpenRequestError where
  status : ℕ
  code : String
  deriving DecidableEq, Repr

/-- The headers that are forwarded. -/
def forwardedHeaders (rawHeaders : List JsString) : List HeaderPair :=
  isolateGatewayCredentials
    (sanitizeHopByHopHeaders (stripUntrustedForwardingHeaders (rawHeadersToPairs rawHeaders)))
    RESERVED_GATEWAY_COOKIES

def openMetadata (request : IncomingMessage) (kind : StreamKind) : OpenHttp.OpenHttpMetadata where
  kind := kind
  method := request.method.getD (ofAscii "GET")
  path := request.url.getD (ofAscii "/")
  headers := forwardedHeaders request.rawHeaders
  requestBodyEnded := kind = .websocket
  initialWindowBytes := INITIAL_STREAM_WINDOW_BYTES

/-- Whatever `encodeOpenHttpMetadata` throws is a `TypeError`. -/
def prepareOpenRequest (request : IncomingMessage) (kind : StreamKind) :
    Except OpenRequestError (List UInt8) :=
  match encodeOpenHttpMetadata (openMetadata request kind) with
  | .ok payload => .ok payload
  | .error _ =>
    if (forwardedHeaders request.rawHeaders).length > MAX_HTTP_HEADER_PAIRS then
      .error ⟨431, "REQUEST_HEADERS_TOO_LARGE"⟩
    else .error ⟨400, "INVALID_REQUEST_METADATA"⟩

/-- The part carries a reserved cookie. -/
def ReservedPart (part : JsString) : Prop :=
  ∃ before value : JsString, part = before ++ 0x3d :: value ∧ before.trim ∈ RESERVED_GATEWAY_COOKIES

/-- The same part, or a reserved cookie in both. -/
def SameCookie (left right : JsString) : Prop :=
  left = right ∨ ReservedPart left ∧ ReservedPart right

/-- The same header but for what the gateway keeps to itself: the values of its own headers and of
its own cookies. -/
inductive SameHeader : HeaderPair → HeaderPair → Prop
  | same (pair : HeaderPair) : SameHeader pair pair
  | internal (name left right : JsString)
      (hname : name.toLowerCase.startsWith (ofAscii "x-review-tunnel-") = true) :
      SameHeader (name, left) (name, right)
  | cookie (name left right : JsString) (hname : name.toLowerCase = ofAscii "cookie")
      (hparts : List.Forall₂ SameCookie (left.split 0x3b) (right.split 0x3b)) :
      SameHeader (name, left) (name, right)

theorem ReservedPart.name {part : JsString} (h : ReservedPart part) :
    cookiePartName part.trim ∈ RESERVED_GATEWAY_COOKIES := by
  obtain ⟨before, value, rfl, hreserved⟩ := h
  have hequals : (0x3d : UInt16) ∉ before := fun hmem =>
    (reserved_trim hreserved).2 (mem_trim hmem (by decide))
  have hne : before.dropWhile isWhiteSpace ≠ [] := by
    intro hnil
    have htrim : before.trim = [] := by rw [← trim_dropWhile, hnil]; rfl
    rw [htrim] at hreserved
    revert hreserved
    decide
  have hlast : ∀ unit ∈ (before.dropWhile isWhiteSpace ++ [0x3d]).getLast?,
      isWhiteSpace unit = false := by
    rw [List.getLast?_concat]
    rintro _ ⟨⟩
    decide
  have hstart : before.dropWhile isWhiteSpace ++ [0x3d] <+: trim (before ++ 0x3d :: value) := by
    rw [prefix_trim_iff hlast, List.dropWhile_append, if_neg (by simpa using hne)]
    exact ⟨value, by simp⟩
  have hdrop : (0x3d : UInt16) ∉ before.dropWhile isWhiteSpace :=
    fun hmem => hequals ((List.dropWhile_suffix _).subset hmem)
  rw [cookiePartName, before_of_prefix hdrop hstart]
  change trim (before.dropWhile isWhiteSpace) ∈ RESERVED_GATEWAY_COOKIES
  rw [trim_dropWhile]
  exact hreserved

theorem keptParts_congr {left right : List JsString} (h : List.Forall₂ SameCookie left right) :
    (left.map trim).filter (fun part => cookiePartName part ∉ RESERVED_GATEWAY_COOKIES) =
      (right.map trim).filter (fun part => cookiePartName part ∉ RESERVED_GATEWAY_COOKIES) := by
  induction h with
  | nil => rfl
  | cons hpart _ ih =>
    rcases hpart with rfl | ⟨hleft, hright⟩
    · simp only [List.map_cons, List.filter_cons, ih]
    · simp only [List.map_cons, List.filter_cons, hleft.name, hright.name, not_true_eq_false,
        decide_false, Bool.false_eq_true, ↓reduceIte, ih]

theorem SameHeader.name_eq {left right : HeaderPair} (h : SameHeader left right) :
    left.1 = right.1 := by
  cases h <;> rfl

/-- What the filters read of a header but its name is the same in both. -/
theorem SameHeader.isolated {left right : HeaderPair} (h : SameHeader left right) :
    isolateHeader RESERVED_GATEWAY_COOKIES left = isolateHeader RESERVED_GATEWAY_COOKIES right := by
  cases h with
  | same pair => rfl
  | internal name left right hname => simp [isolateHeader, hname]
  | cookie name left right hname hparts =>
    unfold isolateHeader
    dsimp only
    simp only [keptParts_congr hparts, hname, ↓reduceIte]

theorem SameHeader.connection {left right : HeaderPair} (h : SameHeader left right)
    (hname : left.1.toLowerCase = ofAscii "connection") : left = right := by
  cases h with
  | same pair => rfl
  | internal name left right hinternal =>
    rw [hname] at hinternal
    exact absurd hinternal (by decide)
  | cookie name left right hcookie hparts =>
    rw [hname] at hcookie
    exact absurd hcookie (by decide)

theorem connectionTokens_congr {left right : List HeaderPair}
    (h : List.Forall₂ SameHeader left right) : connectionTokens left = connectionTokens right := by
  induction h with
  | nil => rfl
  | @cons first second left right hfirst _ ih =>
    unfold connectionTokens at ih ⊢
    rw [List.flatMap_cons, List.flatMap_cons, ih]
    by_cases hname : first.1.toLowerCase = ofAscii "connection"
    · rw [hfirst.connection hname]
    · have hother : second.1.toLowerCase ≠ ofAscii "connection" := hfirst.name_eq ▸ hname
      simp [hname, hother]

/-- A filter by name keeps the headers of both requests side by side. -/
theorem forall₂_filter_name {left right : List HeaderPair}
    (h : List.Forall₂ SameHeader left right) (keeps : JsString → Bool) :
    List.Forall₂ SameHeader (left.filter fun pair => keeps pair.1)
      (right.filter fun pair => keeps pair.1) := by
  induction h with
  | nil => exact .nil
  | cons hfirst _ ih =>
    rw [List.filter_cons, List.filter_cons, hfirst.name_eq]
    split_ifs
    · exact .cons hfirst ih
    · exact ih

theorem forwardedHeaders_congr {left right : List JsString}
    (h : List.Forall₂ SameHeader (rawHeadersToPairs left) (rawHeadersToPairs right)) :
    forwardedHeaders left = forwardedHeaders right := by
  have hstripped : List.Forall₂ SameHeader
      (stripUntrustedForwardingHeaders (rawHeadersToPairs left))
      (stripUntrustedForwardingHeaders (rawHeadersToPairs right)) :=
    forall₂_filter_name h fun name => !isUntrustedForwardingHeader name
  have hsanitized : List.Forall₂ SameHeader
      (sanitizeHopByHopHeaders (stripUntrustedForwardingHeaders (rawHeadersToPairs left)))
      (sanitizeHopByHopHeaders (stripUntrustedForwardingHeaders (rawHeadersToPairs right))) := by
    unfold sanitizeHopByHopHeaders
    rw [connectionTokens_congr hstripped]
    exact forall₂_filter_name hstripped fun name =>
      name.toLowerCase ∉ STANDARD_HOP_BY_HOP_HEADERS ∧ name.toLowerCase ∉ connectionTokens _
  unfold forwardedHeaders isolateGatewayCredentials
  generalize sanitizeHopByHopHeaders _ = left at hsanitized ⊢
  generalize sanitizeHopByHopHeaders _ = right at hsanitized ⊢
  induction hsanitized with
  | nil => rfl
  | cons hfirst _ ih => rw [List.filterMap_cons, List.filterMap_cons, hfirst.isolated, ih]

/-- A kept `Cookie` header holds no part that `parseCookie` takes for a reserved cookie. -/
theorem isolateHeader_cookie {pair kept : HeaderPair}
    (h : isolateHeader RESERVED_GATEWAY_COOKIES pair = some kept)
    (hname : kept.1.toLowerCase = ofAscii "cookie") {name : JsString}
    (hreserved : name ∈ RESERVED_GATEWAY_COOKIES) : cookieValues kept.2 name = [] := by
  have hpair : pair.1.toLowerCase = ofAscii "cookie" := isolateHeader_name h ▸ hname
  obtain ⟨rawName, value⟩ := pair
  simp only [isolateHeader, hpair, ↓reduceIte] at h
  split_ifs at h with htunnel hlength
  cases h
  have hne : ((value.split 0x3b).map trim).filter
      (fun part => cookiePartName part ∉ RESERVED_GATEWAY_COOKIES) ≠ [] :=
    List.ne_nil_of_length_pos hlength
  have hkept : ∀ part ∈ ((value.split 0x3b).map trim).filter
      (fun part => cookiePartName part ∉ RESERVED_GATEWAY_COOKIES),
      (0x3b : UInt16) ∉ part ∧ part.trim = part ∧
        cookiePartName part ∉ RESERVED_GATEWAY_COOKIES := by
    intro part hpart
    obtain ⟨hmem, hname⟩ := List.mem_filter.1 hpart
    obtain ⟨raw, hraw, rfl⟩ := List.mem_map.1 hmem
    refine ⟨fun hsep => ?_, trim_trim raw, by simpa using hname⟩
    exact not_mem_of_mem_split hraw ((trim_sublist raw).subset hsep)
  generalize ((value.split 0x3b).map trim).filter _ = kept at hne hkept ⊢
  have hsplit : ((join (ofAscii "; ") kept).split 0x3b).map trim = kept.map trim :=
    map_trim_split_join (by decide) hne fun part hpart => (hkept part hpart).1
  rw [cookieValues, hsplit, List.filter_eq_nil_iff]
  intro part hpart hstart
  obtain ⟨raw, hraw, rfl⟩ := List.mem_map.1 hpart
  obtain ⟨-, htrim, hname⟩ := hkept raw hraw
  rw [htrim, startsWith_iff] at hstart
  exact hname (cookiePartName_of_start hreserved hstart ▸ hreserved)

theorem forwardedHeaders_cookie {rawHeaders : List JsString} {kept : HeaderPair}
    (h : kept ∈ forwardedHeaders rawHeaders) (hname : kept.1.toLowerCase = ofAscii "cookie")
    {name : JsString} (hreserved : name ∈ RESERVED_GATEWAY_COOKIES) :
    cookieValues kept.2 name = [] := by
  obtain ⟨pair, -, hkept⟩ := List.mem_filterMap.1 h
  exact isolateHeader_cookie hkept hname hreserved

theorem openMetadata_congr {left right : IncomingMessage} (hmethod : left.method = right.method)
    (hurl : left.url = right.url)
    (hheaders : List.Forall₂ SameHeader (rawHeadersToPairs left.rawHeaders)
      (rawHeadersToPairs right.rawHeaders)) (kind : StreamKind) :
    openMetadata left kind = openMetadata right kind := by
  simp only [openMetadata, hmethod, hurl, forwardedHeaders_congr hheaders]

theorem prepareOpenRequest_eq_ok {request : IncomingMessage} {kind : StreamKind}
    {payload : List UInt8} (h : prepareOpenRequest request kind = .ok payload) :
    parseOpenHttpMetadata (openMetadata request kind).fields = .ok (openMetadata request kind) ∧
      payload = encodeMetadata (openMetadata request kind) := by
  unfold prepareOpenRequest at h
  cases hencode : encodeOpenHttpMetadata (openMetadata request kind) with
  | ok bytes =>
    rw [hencode] at h
    cases h
    exact encodeOpenHttpMetadata_eq_ok hencode
  | error e =>
    rw [hencode] at h
    dsimp only at h
    split_ifs at h

/-- Requests that differ only in what belongs to the gateway are opened with the same bytes, and no
cookie of its own is found in them. -/
theorem prepareOpenRequest_isolates :
    (∀ (left right : IncomingMessage) (kind : StreamKind), left.method = right.method →
      left.url = right.url → List.Forall₂ SameHeader (rawHeadersToPairs left.rawHeaders)
        (rawHeadersToPairs right.rawHeaders) →
      prepareOpenRequest left kind = prepareOpenRequest right kind) ∧
    ∀ (request : IncomingMessage) (kind : StreamKind) (payload : List UInt8),
      prepareOpenRequest request kind = .ok payload →
      payload = encodeMetadata (openMetadata request kind) ∧
        ∀ pair ∈ (openMetadata request kind).headers, pair.1.toLowerCase = ofAscii "cookie" →
          ∀ name ∈ RESERVED_GATEWAY_COOKIES,
            cookieValues pair.2 name = [] ∧ parseCookie (some pair.2) name = none := by
  constructor
  · intro left right kind hmethod hurl hheaders
    have hmetadata := openMetadata_congr hmethod hurl hheaders kind
    simp only [prepareOpenRequest, hmetadata, forwardedHeaders_congr hheaders]
  · intro request kind payload h
    refine ⟨(prepareOpenRequest_eq_ok h).2, fun pair hpair hname name hreserved => ?_⟩
    have hnone := forwardedHeaders_cookie hpair hname hreserved
    exact ⟨hnone, parseCookie_eq_none hnone⟩

/-- A request with the session cookie between two others, repeated under odd spacing. -/
def credentialRequest (session tunnel : String) : IncomingMessage where
  rawHeaders := ["Cookie", "a=1; \t__Host-rt_session =" ++ session ++ ";b=2",
    "X-Review-Tunnel-Id", tunnel, "cookie", "rt_session_dev=" ++ session].map ofAscii
  method := some (ofAscii "GET")
  url := some (ofAscii "/")

def credentialPayload : List UInt8 := encodeMetadata
  { kind := .http, method := ofAscii "GET", path := ofAscii "/"
    headers := [(ofAscii "Cookie", ofAscii "a=1; b=2")]
    requestBodyEnded := false, initialWindowBytes := 65536 }

set_option maxRecDepth 8000 in
theorem prepareOpenRequest_isolates_credentials :
    prepareOpenRequest (credentialRequest "s" "t") .http =
        prepareOpenRequest (credentialRequest "other" "") .http ∧
      prepareOpenRequest (credentialRequest "s" "t") .http = .ok credentialPayload ∧
      ∀ pair ∈ (openMetadata (credentialRequest "s" "t") .http).headers,
        pair.1.toLowerCase = ofAscii "cookie" → ∀ name ∈ RESERVED_GATEWAY_COOKIES,
          cookieValues pair.2 name = [] ∧ parseCookie (some pair.2) name = none := by
  have hpayload : prepareOpenRequest (credentialRequest "s" "t") .http = .ok credentialPayload := by
    rfl
  have hsession : SameCookie (ofAscii " \t__Host-rt_session =s")
      (ofAscii " \t__Host-rt_session =other") :=
    .inr ⟨⟨ofAscii " \t__Host-rt_session ", ofAscii "s", by decide, by decide⟩,
      ⟨ofAscii " \t__Host-rt_session ", ofAscii "other", by decide, by decide⟩⟩
  have hdevelopment : SameCookie (ofAscii "rt_session_dev=s") (ofAscii "rt_session_dev=other") :=
    .inr ⟨⟨ofAscii "rt_session_dev", ofAscii "s", by decide, by decide⟩,
      ⟨ofAscii "rt_session_dev", ofAscii "other", by decide, by decide⟩⟩
  have hheaders : List.Forall₂ SameHeader
      (rawHeadersToPairs (credentialRequest "s" "t").rawHeaders)
      (rawHeadersToPairs (credentialRequest "other" "").rawHeaders) := by
    refine .cons (.cookie _ _ _ (by decide) ?_) (.cons (.internal _ _ _ (by decide))
      (.cons (.cookie _ _ _ (by decide) ?_) .nil))
    · exact .cons (.inl rfl) (.cons hsession (.cons (.inl rfl) .nil))
    · exact .cons hdevelopment .nil
  exact ⟨prepareOpenRequest_isolates.1 _ _ .http rfl rfl hheaders, hpayload,
    (prepareOpenRequest_isolates.2 _ _ _ hpayload).2⟩

end Lotur.Gateway
