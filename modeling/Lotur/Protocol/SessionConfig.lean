import Lotur.Library.Base64Url
import Lotur.Protocol.MetadataCodec
import Lotur.Protocol.SessionState

/-! The session configuration of `packages/protocol/src/session-config.ts`: its checks, its canonical
encoding and its digest. -/
namespace Lotur.SessionConfig
open JsString OpenHttp

/-- What `new URL` makes of a text. -/
structure UrlParts where
  protocol : JsString
  username : JsString
  password : JsString
  hash : JsString
  origin : JsString
  pathname : JsString
  search : JsString

/-- The functions of the platform: the text of numbers that are no small integers, the parser of
payloads, `new URL`, and SHA-256. -/
structure Platform where
  render : ℚ → JsString
  parse : List UInt8 → Except JsError JsonValue
  url : JsString → Option UrlParts
  sha256 : List UInt8 → List UInt8
  sha256_length : ∀ bytes, (sha256 bytes).length = 32

/-- The fields as they are found in a record; the checks narrow them. -/
structure SessionConfigSnapshot where
  profile : Option JsonValue
  generation : Option JsonValue
  localOriginFingerprint : Option JsonValue
  originProjection : Option JsonValue
  publicOrigin : Option JsonValue
  initialConnectionWindowBytes : Option JsonValue
  initialStreamWindowBytes : Option JsonValue
  maxTtlMs : Option JsonValue
  idleTimeoutMs : Option JsonValue
  reconnectGraceMs : Option JsonValue
  maxRequestBodyBytes : Option JsonValue
  maxFiniteResponseBytes : Option JsonValue
  maxConcurrentStreams : Option JsonValue
  maxNewStreamsPerMinute : Option JsonValue
  responseHeaderTimeoutMs : Option JsonValue
  streamInactivityTimeoutMs : Option JsonValue
  maxStreamDurationMs : Option JsonValue

structure SessionConfigMetadata where
  revision : JsonValue
  digest : JsString
  snapshot : SessionConfigSnapshot

def CARRIER_PROFILE : JsString := ofAscii "review-tunnel.v1"

section Coercion
variable (platform : Platform)

mutual

/-- `String(value)`, which a regular expression tests. -/
def coerceText : JsonValue → JsString
  | .null => ofAscii "null"
  | .bool value => ofAscii (if value then "true" else "false")
  | .number value => numberText platform.render value
  | .infinity negative => ofAscii (if negative then "-Infinity" else "Infinity")
  | .string text => text
  | .array items => join [0x2c] (coerceItems items)
  | .object _ => ofAscii "[object Object]"

/-- Inside an array `null` is empty. -/
def coerceItems : List JsonValue → List JsString
  | [] => []
  | .null :: items => [] :: coerceItems items
  | item :: items => coerceText item :: coerceItems items

end

end Coercion

section Checks
variable (platform : Platform)

/-- `/^[A-Za-z0-9_-]{43}$/`. -/
def digestPattern (text : JsString) : Bool := text.length = 43 && text.all Base64Url.isDigit

def assertDigest (value : Option JsonValue) (name : String) : Except JsError Unit :=
  if digestPattern ((value.map (coerceText platform)).getD (ofAscii "undefined")) then .ok ()
  else .error (.typeError (name ++ " must be a SHA-256 base64url digest"))

/-- The number is returned for the checks that compare with it. -/
def assertBoundedPositiveInteger (value : Option JsonValue) (name : String) (maximum : ℕ) :
    Except JsError ℕ :=
  let refused := JsError.typeError
    (name ++ " must be a positive integer no greater than " ++ toString maximum)
  match JsonValue.integerBetween 1 (2 ^ 53 - 1) value with
  | some n => if maximum < n then .error refused else .ok n
  | none => .error refused

def assertPositiveUint32 (value : Option JsonValue) (name : String) : Except JsError ℕ :=
  assertBoundedPositiveInteger value name 0xffffffff

def assertHttpUrl (value : Option JsonValue) (name : String) : Except JsError UrlParts :=
  match value with
  | some (.string text) =>
    match platform.url text with
    | some url =>
      if (url.protocol ≠ ofAscii "http:" ∧ url.protocol ≠ ofAscii "https:") ∨ url.username ≠ [] ∨
          url.password ≠ [] ∨ url.hash ≠ [] then .error (.typeError (name ++ " is invalid"))
      else .ok url
    | none => .error (.typeError (name ++ " is invalid"))
  | _ => .error (.typeError (name ++ " is invalid"))

def assertOrigin (value : Option JsonValue) (name : String) : Except JsError Unit := do
  let url ← assertHttpUrl platform value name
  match value with
  | some (.string text) =>
    if url.origin ≠ text ∨ url.pathname ≠ ofAscii "/" ∨ url.search ≠ [] then
      .error (.typeError (name ++ " must be a canonical HTTP origin"))
    else .ok ()
  | _ => .error (.typeError (name ++ " must be a canonical HTTP origin"))

def isText (text : JsString) : Option JsonValue → Bool
  | some (.string found) => found = text
  | _ => false

def assertProfile (value : Option JsonValue) : Except JsError Unit :=
  if isText CARRIER_PROFILE value then .ok ()
  else .error (.typeError "SESSION_CONFIG profile is unsupported")

def assertOriginProjection (value : Option JsonValue) : Except JsError Unit :=
  if isText (ofAscii "local-view") value || isText (ofAscii "proxy-aware") value then .ok ()
  else .error (.typeError "SESSION_CONFIG originProjection is invalid")

def assertSessionConfigSnapshot (snapshot : SessionConfigSnapshot) : Except JsError Unit := do
  assertProfile snapshot.profile
  let _ ← assertPositiveUint32 snapshot.generation "generation"
  assertDigest platform snapshot.localOriginFingerprint "localOriginFingerprint"
  assertOriginProjection snapshot.originProjection
  assertOrigin platform snapshot.publicOrigin "SESSION_CONFIG publicOrigin"
  let _ ← assertBoundedPositiveInteger snapshot.initialConnectionWindowBytes
    "initialConnectionWindowBytes" (64 * 1024 * 1024)
  let _ ← assertBoundedPositiveInteger snapshot.initialStreamWindowBytes
    "initialStreamWindowBytes" (16 * 1024 * 1024)
  let maxTtlMs ← assertBoundedPositiveInteger snapshot.maxTtlMs "maxTtlMs" (7 * 24 * 60 * 60000)
  let _ ← assertBoundedPositiveInteger snapshot.idleTimeoutMs "idleTimeoutMs" maxTtlMs
  let _ ← assertBoundedPositiveInteger snapshot.reconnectGraceMs "reconnectGraceMs" maxTtlMs
  let _ ← assertBoundedPositiveInteger snapshot.maxRequestBodyBytes "maxRequestBodyBytes"
    (1024 * 1024 * 1024)
  let _ ← assertBoundedPositiveInteger snapshot.maxFiniteResponseBytes "maxFiniteResponseBytes"
    (1024 * 1024 * 1024)
  let _ ← assertBoundedPositiveInteger snapshot.maxConcurrentStreams "maxConcurrentStreams" 10000
  let _ ← assertBoundedPositiveInteger snapshot.maxNewStreamsPerMinute "maxNewStreamsPerMinute"
    100000
  let _ ← assertBoundedPositiveInteger snapshot.responseHeaderTimeoutMs "responseHeaderTimeoutMs"
    (10 * 60000)
  let _ ← assertBoundedPositiveInteger snapshot.streamInactivityTimeoutMs
    "streamInactivityTimeoutMs" (24 * 60 * 60000)
  let _ ← assertBoundedPositiveInteger snapshot.maxStreamDurationMs "maxStreamDurationMs" maxTtlMs
  return ()

/-- The fields in the order of their names. -/
def SessionConfigSnapshot.entries (snapshot : SessionConfigSnapshot) :
    List (String × Option JsonValue) :=
  [("generation", snapshot.generation),
    ("idleTimeoutMs", snapshot.idleTimeoutMs),
    ("initialConnectionWindowBytes", snapshot.initialConnectionWindowBytes),
    ("initialStreamWindowBytes", snapshot.initialStreamWindowBytes),
    ("localOriginFingerprint", snapshot.localOriginFingerprint),
    ("maxConcurrentStreams", snapshot.maxConcurrentStreams),
    ("maxFiniteResponseBytes", snapshot.maxFiniteResponseBytes),
    ("maxNewStreamsPerMinute", snapshot.maxNewStreamsPerMinute),
    ("maxRequestBodyBytes", snapshot.maxRequestBodyBytes),
    ("maxStreamDurationMs", snapshot.maxStreamDurationMs),
    ("maxTtlMs", snapshot.maxTtlMs),
    ("originProjection", snapshot.originProjection),
    ("profile", snapshot.profile),
    ("publicOrigin", snapshot.publicOrigin),
    ("reconnectGraceMs", snapshot.reconnectGraceMs),
    ("responseHeaderTimeoutMs", snapshot.responseHeaderTimeoutMs),
    ("streamInactivityTimeoutMs", snapshot.streamInactivityTimeoutMs)]

/-- `JSON.stringify` leaves out what is undefined. -/
def canonicalFields (snapshot : SessionConfigSnapshot) : List (String × JsonValue) :=
  snapshot.entries.filterMap fun entry => entry.2.map fun value => (entry.1, value)

def encodeCanonicalSessionConfig (snapshot : SessionConfigSnapshot) :
    Except JsError (List UInt8) := do
  assertSessionConfigSnapshot platform snapshot
  return encodeMetadata platform.render (.object (canonicalFields snapshot))

def digestSessionConfig (snapshot : SessionConfigSnapshot) : Except JsError JsString := do
  let bytes ← encodeCanonicalSessionConfig platform snapshot
  return Base64Url.encode (platform.sha256 bytes)

def assertSessionConfigMetadata (metadata : SessionConfigMetadata) : Except JsError Unit := do
  let _ ← assertPositiveUint32 (some metadata.revision) "revision"
  assertDigest platform (some (.string metadata.digest)) "digest"
  assertSessionConfigSnapshot platform metadata.snapshot
  let digest ← digestSessionConfig platform metadata.snapshot
  if digest ≠ metadata.digest then
    .error (.typeError "SESSION_CONFIG digest does not match snapshot")
  else .ok ()

inductive OriginProjection where
  | localView
  | proxyAware
  deriving DecidableEq, Repr

def OriginProjection.text : OriginProjection → JsString
  | localView => ofAscii "local-view"
  | proxyAware => ofAscii "proxy-aware"

structure SessionLimits where
  maxRequestBodyBytes : ℚ
  maxFiniteResponseBytes : ℚ
  maxConcurrentStreams : ℚ
  maxNewStreamsPerMinute : ℚ
  responseHeaderTimeoutMs : ℚ
  streamInactivityTimeoutMs : ℚ
  maxStreamDurationMs : ℚ

def DEFAULT_SESSION_LIMITS : SessionLimits where
  maxRequestBodyBytes := 16 * 1024 * 1024
  maxFiniteResponseBytes := 64 * 1024 * 1024
  maxConcurrentStreams := 128
  maxNewStreamsPerMinute := 600
  responseHeaderTimeoutMs := 10000
  streamInactivityTimeoutMs := 2 * 60000
  maxStreamDurationMs := 4 * 60 * 60000

structure SnapshotInput where
  generation : ℚ
  localOriginFingerprint : JsString
  originProjection : OriginProjection
  publicOrigin : JsString
  initialConnectionWindowBytes : ℚ
  initialStreamWindowBytes : ℚ
  policy : Option SessionPolicy
  limits : Option SessionLimits

/-- The snapshot that `createSessionConfigSnapshot` fills in. -/
def SnapshotInput.snapshot (input : SnapshotInput) : SessionConfigSnapshot :=
  let policy := input.policy.getD DEFAULT_SESSION_POLICY
  let limits := input.limits.getD DEFAULT_SESSION_LIMITS
  { profile := some (.string CARRIER_PROFILE)
    generation := some (.number input.generation)
    localOriginFingerprint := some (.string input.localOriginFingerprint)
    originProjection := some (.string input.originProjection.text)
    publicOrigin := some (.string input.publicOrigin)
    initialConnectionWindowBytes := some (.number input.initialConnectionWindowBytes)
    initialStreamWindowBytes := some (.number input.initialStreamWindowBytes)
    maxTtlMs := some (.number policy.maxTtlMs)
    idleTimeoutMs := some (.number policy.idleTimeoutMs)
    reconnectGraceMs := some (.number policy.reconnectGraceMs)
    maxRequestBodyBytes := some (.number limits.maxRequestBodyBytes)
    maxFiniteResponseBytes := some (.number limits.maxFiniteResponseBytes)
    maxConcurrentStreams := some (.number limits.maxConcurrentStreams)
    maxNewStreamsPerMinute := some (.number limits.maxNewStreamsPerMinute)
    responseHeaderTimeoutMs := some (.number limits.responseHeaderTimeoutMs)
    streamInactivityTimeoutMs := some (.number limits.streamInactivityTimeoutMs)
    maxStreamDurationMs := some (.number limits.maxStreamDurationMs) }

def createSessionConfigSnapshot (input : SnapshotInput) : Except JsError SessionConfigSnapshot := do
  assertSessionConfigSnapshot platform input.snapshot
  return input.snapshot

/-- The fields that are copied out of a record. -/
def snapshotOf (record : List (String × JsonValue)) : SessionConfigSnapshot where
  profile := JsonValue.field "profile" record
  generation := JsonValue.field "generation" record
  localOriginFingerprint := JsonValue.field "localOriginFingerprint" record
  originProjection := JsonValue.field "originProjection" record
  publicOrigin := JsonValue.field "publicOrigin" record
  initialConnectionWindowBytes := JsonValue.field "initialConnectionWindowBytes" record
  initialStreamWindowBytes := JsonValue.field "initialStreamWindowBytes" record
  maxTtlMs := JsonValue.field "maxTtlMs" record
  idleTimeoutMs := JsonValue.field "idleTimeoutMs" record
  reconnectGraceMs := JsonValue.field "reconnectGraceMs" record
  maxRequestBodyBytes := JsonValue.field "maxRequestBodyBytes" record
  maxFiniteResponseBytes := JsonValue.field "maxFiniteResponseBytes" record
  maxConcurrentStreams := JsonValue.field "maxConcurrentStreams" record
  maxNewStreamsPerMinute := JsonValue.field "maxNewStreamsPerMinute" record
  responseHeaderTimeoutMs := JsonValue.field "responseHeaderTimeoutMs" record
  streamInactivityTimeoutMs := JsonValue.field "streamInactivityTimeoutMs" record
  maxStreamDurationMs := JsonValue.field "maxStreamDurationMs" record

def parseSessionConfigSnapshot (value : Option JsonValue) :
    Except JsError SessionConfigSnapshot :=
  match value with
  | some (.object record) => do
    assertSessionConfigSnapshot platform (snapshotOf record)
    return snapshotOf record
  | _ => .error (.typeError "SESSION_CONFIG snapshot is invalid")

/-- `typeof value === "number"`. -/
def parseNumber : Option JsonValue → Option JsonValue
  | some (.number value) => some (.number value)
  | some (.infinity negative) => some (.infinity negative)
  | _ => none

def decodeSessionConfigMetadata (payload : List UInt8) : Except JsError SessionConfigMetadata := do
  let value ← parseObject platform.parse payload
  match parseNumber (JsonValue.field "revision" value) with
  | none => .error (.typeError "SESSION_CONFIG revision is invalid")
  | some revision =>
    match JsonValue.field "digest" value with
    | some (.string digest) => do
      let snapshot ← parseSessionConfigSnapshot platform (JsonValue.field "snapshot" value)
      assertSessionConfigMetadata platform { revision, digest, snapshot }
      return { revision, digest, snapshot }
    | _ => .error (.typeError "SESSION_CONFIG digest is invalid")

end Checks

end Lotur.SessionConfig
