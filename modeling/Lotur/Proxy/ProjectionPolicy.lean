import Lotur.Proxy.HeaderPolicy

/-! The request side of `packages/proxy/src/projection-policy.ts`: the headers the local application
gets, seen from its own origin or from the public one. -/
namespace Lotur
open JsString

def UNTRUSTED_PROXY_IDENTITY_HEADERS : List JsString :=
  ["client-ip", "x-real-ip", "x-client-ip", "true-client-ip", "cf-connecting-ip",
    "cf-connecting-ipv6", "cloudfront-viewer-address", "fastly-client-ip", "fly-client-ip",
    "x-cluster-client-ip", "x-original-client-ip", "x-original-forwarded-for", "x-originating-ip",
    "x-remote-ip", "x-remote-addr", "x-appengine-user-ip", "x-azure-clientip",
    "x-envoy-external-address", "x-nf-client-connection-ip", "x-proxyuser-ip",
    "x-vercel-forwarded-for"].map ofAscii

def isUntrustedForwardingHeader (name : JsString) : Bool :=
  name.toLowerCase = ofAscii "forwarded" ||
    name.toLowerCase.startsWith (ofAscii "x-forwarded-") ||
    UNTRUSTED_PROXY_IDENTITY_HEADERS.contains name.toLowerCase

def stripUntrustedForwardingHeaders (headers : List HeaderPair) : List HeaderPair :=
  headers.filter fun (name, _) => !isUntrustedForwardingHeader name

/-- The getters of a parsed URL. -/
structure WebUrl where
  origin : JsString
  protocol : JsString
  host : JsString
  port : JsString
  pathname : JsString
  search : JsString
  hash : JsString
  deriving DecidableEq, Repr

/-- The `URL` constructor of the platform; `none` is the `TypeError` it throws. -/
abbrev UrlParser := JsString → Option WebUrl

inductive OriginProjection where
  | localView
  | proxyAware
  deriving DecidableEq, Repr

structure ProjectionContext where
  originProjection : OriginProjection
  localOrigin : JsString
  publicOrigin : JsString
  deriving DecidableEq, Repr

variable (parseUrl : UrlParser)

def parseOrigin (value : JsString) (name : String) : Except JsError WebUrl :=
  match parseUrl value with
  | none => .error (.typeError "Invalid URL")
  | some parsed =>
    if (parsed.protocol ≠ ofAscii "http:" ∧ parsed.protocol ≠ ofAscii "https:") ∨
        parsed.origin ≠ value then
      .error (.typeError (name ++ " must be a canonical HTTP origin"))
    else .ok parsed

def rewriteSameOriginValue (value : JsString) (expected replacement : WebUrl)
    (preservePath : Bool) : JsString :=
  if value = ofAscii "null" then value
  else match parseUrl value with
  | none => value
  | some parsed =>
    if parsed.origin ≠ expected.origin then value
    else if !preservePath then replacement.origin
    else replacement.origin ++ parsed.pathname ++ parsed.search ++ parsed.hash

def escapeForwardedValue (value : JsString) : JsString :=
  value.filter fun unit => unit ≠ 0x22 ∧ unit ≠ 0x5c

/-- The loop body of `projectRequestHeaders`: the pair pushed for one header, if any. -/
def projectRequestHeader (publicUrl effective : WebUrl) : HeaderPair → Option HeaderPair
  | (name, value) =>
    let lowerName := name.toLowerCase
    if lowerName = ofAscii "host" ∨ isUntrustedForwardingHeader lowerName then none
    else if lowerName = ofAscii "origin" then
      some (name, rewriteSameOriginValue parseUrl value publicUrl effective false)
    else if lowerName = ofAscii "referer" then
      some (name, rewriteSameOriginValue parseUrl value publicUrl effective true)
    else some (name, value)

/-- What `projectRequestHeaders` pushes after its loop. -/
def generatedHeaders (originProjection : OriginProjection) (publicUrl effective : WebUrl) :
    List HeaderPair :=
  let scheme := publicUrl.protocol.dropLast
  (ofAscii "Host", effective.host) :: match originProjection with
    | .localView => []
    | .proxyAware =>
      [(ofAscii "Forwarded", ofAscii "host=\"" ++ escapeForwardedValue publicUrl.host ++
          ofAscii "\";proto=" ++ scheme),
        (ofAscii "X-Forwarded-Host", publicUrl.host),
        (ofAscii "X-Forwarded-Proto", scheme),
        (ofAscii "X-Forwarded-Port", if publicUrl.port ≠ [] then publicUrl.port
          else if publicUrl.protocol = ofAscii "https:" then ofAscii "443" else ofAscii "80")]

def effectiveUrl (originProjection : OriginProjection) (localUrl publicUrl : WebUrl) : WebUrl :=
  match originProjection with
  | .localView => localUrl
  | .proxyAware => publicUrl

def projectRequestHeaders (headers : List HeaderPair) (context : ProjectionContext) :
    Except JsError (List HeaderPair) := do
  let localUrl ← parseOrigin parseUrl context.localOrigin "localOrigin"
  let publicUrl ← parseOrigin parseUrl context.publicOrigin "publicOrigin"
  let effective := effectiveUrl context.originProjection localUrl publicUrl
  return headers.filterMap (projectRequestHeader parseUrl publicUrl effective) ++
    generatedHeaders context.originProjection publicUrl effective

end Lotur
