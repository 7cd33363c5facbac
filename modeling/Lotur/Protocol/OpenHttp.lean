import Lotur.Protocol.HttpMetadata
import Lotur.Relay.Carrier
import Lotur.Relay.Frames

/-! The OPEN_HTTP part of `packages/protocol/src/http-metadata.ts`, down to the bytes of its
payload. -/
namespace Lotur.OpenHttp
open JsString

structure OpenHttpMetadata where
  kind : StreamKind
  method : JsString
  path : JsString
  headers : List HeaderPair
  requestBodyEnded : Bool
  initialWindowBytes : ℕ
  deriving DecidableEq, Repr

def kindText : StreamKind → JsString
  | .http => ofAscii "HTTP"
  | .websocket => ofAscii "WEBSOCKET"

/-- The metadata as the object that `JSON.stringify` is given. -/
def OpenHttpMetadata.fields (value : OpenHttpMetadata) : List (String × JsonValue) :=
  [("kind", .string (kindText value.kind)),
    ("method", .string value.method),
    ("path", .string value.path),
    ("headers", .array (value.headers.map fun (name, text) => .array [.string name, .string text])),
    ("requestBodyEnded", .bool value.requestBodyEnded),
    ("initialWindowBytes", .number value.initialWindowBytes)]

/-- Graphic ASCII that starts with a slash and has no fragment. -/
def isRequestPath (path : JsString) : Bool :=
  path.startsWith (ofAscii "/") && (path.all fun unit => 0x21 ≤ unit && unit ≤ 0x7e) &&
    !path.contains 0x23

def parseKind : Option JsonValue → Except JsError StreamKind
  | some (.string text) =>
    if text = ofAscii "HTTP" then .ok .http
    else if text = ofAscii "WEBSOCKET" then .ok .websocket
    else .error (.typeError "OPEN_HTTP kind is invalid")
  | _ => .error (.typeError "OPEN_HTTP kind is invalid")

def parseOpenHttpMetadata (value : List (String × JsonValue)) :
    Except JsError OpenHttpMetadata := do
  let kind ← parseKind (JsonValue.field "kind" value)
  let some (.string method) := JsonValue.field "method" value
    | .error (.typeError "OPEN_HTTP method is invalid")
  if !headerNamePattern method then .error (.typeError "OPEN_HTTP method is invalid")
  let some (.string path) := JsonValue.field "path" value
    | .error (.typeError "OPEN_HTTP path is invalid")
  if !isRequestPath path then .error (.typeError "OPEN_HTTP path is invalid")
  let some (.bool requestBodyEnded) := JsonValue.field "requestBodyEnded" value
    | .error (.typeError "OPEN_HTTP requestBodyEnded is invalid")
  let some initialWindowBytes :=
      JsonValue.integerBetween 1 (16 * 1024 * 1024) (JsonValue.field "initialWindowBytes" value)
    | .error (.typeError "OPEN_HTTP initialWindowBytes is invalid")
  let headers ← parseHeaders (JsonValue.field "headers" value)
  return { kind, method, path, headers, requestBodyEnded, initialWindowBytes }

section Stringify

def hexDigit (n : ℕ) : UInt16 := if n < 10 then 0x30 + n.toUInt16 else 0x57 + n.toUInt16

/-- `\u` and four lower case digits. -/
def unicodeEscape (unit : UInt16) : JsString :=
  [0x5c, 0x75, hexDigit (unit.toNat / 0x1000), hexDigit (unit.toNat / 0x100 % 0x10),
    hexDigit (unit.toNat / 0x10 % 0x10), hexDigit (unit.toNat % 0x10)]

def isLeadingSurrogate (unit : UInt16) : Bool := 0xd800 ≤ unit && unit ≤ 0xdbff
def isTrailingSurrogate (unit : UInt16) : Bool := 0xdc00 ≤ unit && unit ≤ 0xdfff

def quoteUnit (unit : UInt16) : JsString :=
  if unit = 0x08 then ofAscii "\\b"
  else if unit = 0x09 then ofAscii "\\t"
  else if unit = 0x0a then ofAscii "\\n"
  else if unit = 0x0c then ofAscii "\\f"
  else if unit = 0x0d then ofAscii "\\r"
  else if unit = 0x22 then ofAscii "\\\""
  else if unit = 0x5c then ofAscii "\\\\"
  else if unit < 0x20 || isLeadingSurrogate unit || isTrailingSurrogate unit then
    unicodeEscape unit
  else [unit]

def quoteUnits : JsString → JsString
  | [] => []
  | [unit] => quoteUnit unit
  | high :: low :: rest =>
    if isLeadingSurrogate high && isTrailingSurrogate low then high :: low :: quoteUnits rest
    else quoteUnit high ++ quoteUnits (low :: rest)

/-- `QuoteJSONString`. -/
def quoteJsonString (value : JsString) : JsString := 0x22 :: quoteUnits value ++ [0x22]

def jsonArray (items : List JsString) : JsString := 0x5b :: join [0x2c] items ++ [0x5d]

def jsonObject (fields : List (String × JsString)) : JsString :=
  0x7b :: join [0x2c] (fields.map fun (name, text) =>
    quoteJsonString (ofAscii name) ++ 0x3a :: text) ++ [0x7d]

/-- `JSON.stringify(value)`. -/
def OpenHttpMetadata.stringify (value : OpenHttpMetadata) : JsString :=
  jsonObject
    [("kind", quoteJsonString (kindText value.kind)),
      ("method", quoteJsonString value.method),
      ("path", quoteJsonString value.path),
      ("headers", jsonArray (value.headers.map fun (name, text) =>
        jsonArray [quoteJsonString name, quoteJsonString text])),
      ("requestBodyEnded", ofAscii (if value.requestBodyEnded then "true" else "false")),
      ("initialWindowBytes", ofNat value.initialWindowBytes)]

def encodeScalar (c : ℕ) : List UInt8 :=
  if c < 0x80 then [c.toUInt8]
  else if c < 0x800 then [(0xc0 + c / 0x40).toUInt8, (0x80 + c % 0x40).toUInt8]
  else if c < 0x10000 then
    [(0xe0 + c / 0x1000).toUInt8, (0x80 + c / 0x40 % 0x40).toUInt8, (0x80 + c % 0x40).toUInt8]
  else
    [(0xf0 + c / 0x40000).toUInt8, (0x80 + c / 0x1000 % 0x40).toUInt8,
      (0x80 + c / 0x40 % 0x40).toUInt8, (0x80 + c % 0x40).toUInt8]

def encodeUnit (unit : UInt16) : List UInt8 :=
  encodeScalar (if isLeadingSurrogate unit || isTrailingSurrogate unit then 0xfffd else unit.toNat)

/-- `TextEncoder.encode`: UTF-8, a lone surrogate replaced. -/
def encodeText : JsString → List UInt8
  | [] => []
  | [unit] => encodeUnit unit
  | high :: low :: rest =>
    if isLeadingSurrogate high && isTrailingSurrogate low then
      encodeScalar (0x10000 + (high.toNat - 0xd800) * 0x400 + (low.toNat - 0xdc00)) ++
        encodeText rest
    else encodeUnit high ++ encodeText (low :: rest)

end Stringify

def encodeMetadata (value : OpenHttpMetadata) : List UInt8 := encodeText value.stringify

def encodeOpenHttpMetadata (value : OpenHttpMetadata) : Except JsError (List UInt8) := do
  return encodeMetadata (← parseOpenHttpMetadata value.fields)

/-- `parse` stands for `JSON.parse(decoder.decode(payload))` of the platform. -/
def decodeOpenHttpMetadata (parse : List UInt8 → Except JsError JsonValue)
    (payload : List UInt8) : Except JsError OpenHttpMetadata := do
  parseOpenHttpMetadata (← parseObject parse payload)

theorem parseKind_kindText (kind : StreamKind) :
    parseKind (some (.string (kindText kind))) = .ok kind := by
  cases kind <;> rfl

theorem integerBetween_natCast {low high n : ℕ} (h : low ≤ n ∧ n ≤ high) :
    JsonValue.integerBetween low high (some (.number n)) = some n := by
  simp [JsonValue.integerBetween, h.1, h.2]

theorem integerBetween_eq_some {low high n : ℕ} {m : ℕ}
    (h : JsonValue.integerBetween low high (some (.number n)) = some m) :
    m = n ∧ low ≤ n ∧ n ≤ high := by
  simp only [JsonValue.integerBetween, Rat.den_natCast, Rat.num_natCast] at h
  split_ifs at h with hrange
  obtain ⟨-, hlow, hhigh⟩ := hrange
  simp only [Option.some.injEq, Int.toNat_natCast] at h
  exact ⟨h.symm, by exact_mod_cast hlow, by exact_mod_cast hhigh⟩

theorem parseHeaderPair_pair {pair result : HeaderPair}
    (h : parseHeaderPair (.array [.string pair.1, .string pair.2]) = .ok result) :
    result = pair := by
  simp only [parseHeaderPair] at h
  split_ifs at h
  cases h
  rfl

/-- Header pairs written as an array are read back if they are accepted. -/
theorem parseHeaders_map {headers results : List HeaderPair}
    (h : parseHeaders (some (.array (headers.map fun (name, text) =>
      .array [.string name, .string text]))) = .ok results) : results = headers := by
  simp only [parseHeaders] at h
  split_ifs at h with hlength
  clear hlength
  induction headers generalizing results with
  | nil =>
    cases h
    rfl
  | cons pair headers ih =>
    rw [List.map_cons, List.mapM_cons] at h
    cases hfirst : parseHeaderPair (.array [.string pair.1, .string pair.2]) with
    | error e =>
      rw [hfirst] at h
      cases h
    | ok first =>
      rw [hfirst] at h
      cases hrest : (headers.map fun (name, text) =>
          JsonValue.array [.string name, .string text]).mapM parseHeaderPair with
      | error e =>
        rw [hrest] at h
        cases h
      | ok rest =>
        rw [hrest] at h
        cases h
        rw [parseHeaderPair_pair hfirst, ih hrest]

/-- Accepted metadata are read back as they were written. -/
theorem parseOpenHttpMetadata_fields {value result : OpenHttpMetadata}
    (h : parseOpenHttpMetadata value.fields = .ok result) : result = value := by
  have hkind : parseKind (JsonValue.field "kind" value.fields) = .ok value.kind :=
    parseKind_kindText value.kind
  have hmethod : JsonValue.field "method" value.fields = some (.string value.method) := rfl
  have hpath : JsonValue.field "path" value.fields = some (.string value.path) := rfl
  have hended : JsonValue.field "requestBodyEnded" value.fields =
    some (.bool value.requestBodyEnded) := rfl
  have hwindow : JsonValue.field "initialWindowBytes" value.fields =
    some (.number value.initialWindowBytes) := rfl
  simp only [parseOpenHttpMetadata, hkind, hmethod, hpath, hended, hwindow, bind, Except.bind] at h
  by_cases hname : headerNamePattern value.method = true
  swap
  · rw [if_pos (by simpa using hname)] at h
    cases h
  by_cases htarget : isRequestPath value.path = true
  swap
  · rw [if_neg (by simpa using hname), if_pos (by simpa using htarget)] at h
    cases h
  rw [if_neg (by simpa using hname), if_neg (by simpa using htarget)] at h
  cases hbytes : JsonValue.integerBetween 1 (16 * 1024 * 1024)
      (some (.number value.initialWindowBytes)) with
  | none =>
    rw [hbytes] at h
    cases h
  | some bytes =>
    rw [hbytes] at h
    cases hheaders : parseHeaders (JsonValue.field "headers" value.fields) with
    | error e =>
      rw [hheaders] at h
      cases h
    | ok headers =>
      rw [hheaders] at h
      cases h
      rw [parseHeaders_map hheaders, (integerBetween_eq_some hbytes).1]

theorem encodeOpenHttpMetadata_eq_ok {value : OpenHttpMetadata} {payload : List UInt8}
    (h : encodeOpenHttpMetadata value = .ok payload) :
    parseOpenHttpMetadata value.fields = .ok value ∧ payload = encodeMetadata value := by
  unfold encodeOpenHttpMetadata at h
  cases hparse : parseOpenHttpMetadata value.fields with
  | error e =>
    rw [hparse] at h
    cases h
  | ok result =>
    rw [hparse] at h
    cases h
    rw [parseOpenHttpMetadata_fields hparse]
    exact ⟨rfl, rfl⟩

end Lotur.OpenHttp
