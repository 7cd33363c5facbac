import Lotur.Protocol.JavaScript

/-! The RESPONSE_HEADERS part of `packages/protocol/src/http-metadata.ts`: the checks that
a decoded payload passes before any of its text is used. -/
namespace Lotur
open JsString

abbrev HeaderPair := JsString × JsString

structure ResponseHeadersMetadata where
  statusCode : ℕ
  statusMessage : JsString
  headers : List HeaderPair
  deriving DecidableEq

def MAX_HTTP_HEADER_PAIRS : ℕ := 256

/-- One unit of `headerNamePattern`, the `token` characters of HTTP. -/
def isTokenUnit (unit : UInt16) : Bool :=
  unit ∈ [0x21, 0x23, 0x24, 0x25, 0x26, 0x27, 0x2a, 0x2b, 0x2e, 0x5e, 0x5f, 0x60, 0x7c, 0x7e, 0x2d]
    || (0x30 ≤ unit && unit ≤ 0x39) || (0x41 ≤ unit && unit ≤ 0x5a) || (0x61 ≤ unit && unit ≤ 0x7a)

/-- `headerNamePattern.test(text)`. -/
def headerNamePattern (text : JsString) : Bool := text ≠ [] && text.all isTokenUnit

/-- `/[\0\r\n]/.test(text)`. -/
def hasForbiddenUnit (text : JsString) : Bool := text.any fun unit => unit ∈ [0x00, 0x0d, 0x0a]

def parseHeaderPair : JsonValue → Except JsError HeaderPair
  | .array [.string name, .string value] =>
      if headerNamePattern name && !hasForbiddenUnit value then .ok (name, value)
      else .error (.typeError "header pair is invalid")
  | _ => .error (.typeError "header pair is invalid")

def parseHeaders : Option JsonValue → Except JsError (List HeaderPair)
  | some (.array entries) =>
      if entries.length ≤ MAX_HTTP_HEADER_PAIRS then entries.mapM parseHeaderPair
      else .error (.typeError "header list is invalid")
  | _ => .error (.typeError "header list is invalid")

def parseResponseHeadersMetadata (value : List (String × JsonValue)) :
    Except JsError ResponseHeadersMetadata := do
  let some statusCode := JsonValue.integerBetween 100 599 (JsonValue.field "statusCode" value)
    | .error (.typeError "RESPONSE_HEADERS statusCode is invalid")
  let some (.string statusMessage) := JsonValue.field "statusMessage" value
    | .error (.typeError "RESPONSE_HEADERS statusMessage is invalid")
  if hasForbiddenUnit statusMessage then
    .error (.typeError "RESPONSE_HEADERS statusMessage is invalid")
  let headers ← parseHeaders (JsonValue.field "headers" value)
  return { statusCode, statusMessage, headers }

/-- `parseObject`: the payload decoded and parsed by the platform must be an object. -/
def parseObject (parse : List UInt8 → Except JsError JsonValue) (payload : List UInt8) :
    Except JsError (List (String × JsonValue)) := do
  match ← parse payload with
  | .object fields => return fields
  | _ => .error (.typeError "metadata must be an object")

/-- `parse` stands for `JSON.parse(decoder.decode(payload))` of the platform. -/
def decodeResponseHeadersMetadata (parse : List UInt8 → Except JsError JsonValue)
    (payload : List UInt8) : Except JsError ResponseHeadersMetadata := do
  parseResponseHeadersMetadata (← parseObject parse payload)

/-- What the checks leave open: a three-digit status code, a message and values free of
NUL, CR and LF, and header names that are tokens. -/
structure ResponseHeadersMetadata.Checked (metadata : ResponseHeadersMetadata) : Prop where
  message : hasForbiddenUnit metadata.statusMessage = false
  names : ∀ pair ∈ metadata.headers, headerNamePattern pair.1 = true
  values : ∀ pair ∈ metadata.headers, hasForbiddenUnit pair.2 = false

theorem parseHeaderPair_ok {entry : JsonValue} {pair : HeaderPair}
    (h : parseHeaderPair entry = .ok pair) :
    headerNamePattern pair.1 = true ∧ hasForbiddenUnit pair.2 = false := by
  unfold parseHeaderPair at h
  split at h
  · split_ifs at h with hcheck
    cases h
    simpa using hcheck
  · cases h

theorem mapM_ok_mem {α β ε : Type} {f : α → Except ε β} :
    ∀ {entries : List α} {results : List β}, entries.mapM f = .ok results →
      ∀ result ∈ results, ∃ entry ∈ entries, f entry = .ok result := by
  intro entries
  induction entries with
  | nil =>
    intro results h result hresult
    rw [List.mapM_nil] at h
    cases h
    cases hresult
  | cons entry entries ih =>
    intro results h result hresult
    rw [List.mapM_cons] at h
    cases hfirst : f entry with
    | error e => rw [hfirst] at h; cases h
    | ok first =>
      cases hrest : entries.mapM f with
      | error e => rw [hfirst, hrest] at h; cases h
      | ok rest =>
        rw [hfirst, hrest] at h
        cases h
        rcases List.mem_cons.mp hresult with rfl | hmem
        · exact ⟨entry, by simp, hfirst⟩
        · obtain ⟨source, hsource, hf⟩ := ih hrest result hmem
          exact ⟨source, by simp [hsource], hf⟩

theorem parseHeaders_ok {value : Option JsonValue} {headers : List HeaderPair}
    (h : parseHeaders value = .ok headers) :
    ∀ pair ∈ headers, headerNamePattern pair.1 = true ∧ hasForbiddenUnit pair.2 = false := by
  unfold parseHeaders at h
  split at h
  · split_ifs at h with hlength
    intro pair hpair
    obtain ⟨entry, -, hentry⟩ := mapM_ok_mem h pair hpair
    exact parseHeaderPair_ok hentry
  · cases h

/-- Every accepted payload yields metadata that passed the checks. -/
theorem decodeResponseHeadersMetadata_checked {parse : List UInt8 → Except JsError JsonValue}
    {payload : List UInt8} {metadata : ResponseHeadersMetadata}
    (h : decodeResponseHeadersMetadata parse payload = .ok metadata) : metadata.Checked := by
  unfold decodeResponseHeadersMetadata at h
  cases hobject : parseObject parse payload with
  | error e => rw [hobject] at h; cases h
  | ok value =>
    rw [hobject] at h
    change parseResponseHeadersMetadata value = .ok metadata at h
    unfold parseResponseHeadersMetadata at h
    split at h
    · rename_i statusCode _
      split at h
      · rename_i statusMessage _
        split_ifs at h with hmessage
        · cases h
        cases hheaders : parseHeaders (JsonValue.field "headers" value) with
        | error e => rw [hheaders] at h; cases h
        | ok headers =>
          rw [hheaders] at h
          cases h
          have hpairs := parseHeaders_ok hheaders
          exact ⟨by simpa using hmessage, fun pair hp => (hpairs pair hp).1,
            fun pair hp => (hpairs pair hp).2⟩
      · cases h
    · cases h

end Lotur
