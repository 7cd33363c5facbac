import Lotur.Library.BigEndian
import Lotur.Protocol.OpenHttp

/-! The encoders and decoders of `packages/protocol/src/http-metadata.ts` on arbitrary plain data. -/
namespace Lotur
open JsString OpenHttp

section Stringify
variable (render : ℚ → JsString)

/-- The UTF-16 code units of a Lean string. -/
def JsString.ofString (text : String) : JsString :=
  text.toList.flatMap fun c =>
    if c.toNat < 0x10000 then [c.toNat.toUInt16]
    else [(0xd800 + (c.toNat - 0x10000) / 0x400).toUInt16,
      (0xdc00 + (c.toNat - 0x10000) % 0x400).toUInt16]

/-- Integers that a double holds exactly print their digits; `render` prints the other numbers. -/
def numberText (value : ℚ) : JsString :=
  if value.den = 1 ∧ 0 ≤ value.num ∧ value.num ≤ 2 ^ 53 then ofNat value.num.toNat else render value

mutual

/-- `JSON.stringify`. -/
def JsonValue.stringify : JsonValue → JsString
  | .null => ofAscii "null"
  | .bool value => ofAscii (if value then "true" else "false")
  | .number value => numberText render value
  | .infinity _ => ofAscii "null"
  | .string text => quoteJsonString text
  | .array items => jsonArray (stringifyItems items)
  | .object fields => 0x7b :: join [0x2c] (stringifyFields fields) ++ [0x7d]

def stringifyItems : List JsonValue → List JsString
  | [] => []
  | item :: items => item.stringify :: stringifyItems items

def stringifyFields : List (String × JsonValue) → List JsString
  | [] => []
  | (name, value) :: fields =>
    (quoteJsonString (JsString.ofString name) ++ 0x3a :: value.stringify) :: stringifyFields fields

end

/-- `encoder.encode(JSON.stringify(value))`. -/
def encodeMetadata (value : JsonValue) : List UInt8 := encodeText (value.stringify render)

end Stringify

mutual

/-- What is left of a value in JSON, which has no infinities. -/
def JsonValue.finite : JsonValue → JsonValue
  | .infinity _ => .null
  | .array items => .array (finiteItems items)
  | .object fields => .object (finiteFields fields)
  | .null => .null
  | .bool value => .bool value
  | .number value => .number value
  | .string text => .string text

def finiteItems : List JsonValue → List JsonValue
  | [] => []
  | item :: items => item.finite :: finiteItems items

def finiteFields : List (String × JsonValue) → List (String × JsonValue)
  | [] => []
  | (name, value) :: fields => (name, value.finite) :: finiteFields fields

end

/-- What a value offers to property access; `null` has none, and the encoder throws. -/
def JsonValue.properties : JsonValue → List (String × JsonValue)
  | .object fields => fields
  | _ => []

namespace MetadataCodec

def headersJson (headers : List HeaderPair) : JsonValue :=
  .array (headers.map fun (name, text) => .array [.string name, .string text])

def responseFields (value : ResponseHeadersMetadata) : List (String × JsonValue) :=
  [("statusCode", .number value.statusCode), ("statusMessage", .string value.statusMessage),
    ("headers", headersJson value.headers)]

def encodeOpenHttpMetadata (render : ℚ → JsString) (value : JsonValue) :
    Except JsError (List UInt8) := do
  let metadata ← parseOpenHttpMetadata value.properties
  return encodeMetadata render (.object metadata.fields)

def encodeResponseHeadersMetadata (render : ℚ → JsString) (value : JsonValue) :
    Except JsError (List UInt8) := do
  let metadata ← parseResponseHeadersMetadata value.properties
  return encodeMetadata render (.object (responseFields metadata))

def encodeWindowUpdate (bytes : ℚ) : Except JsError (List UInt8) :=
  if bytes.den ≠ 1 ∨ bytes ≤ 0 ∨ 0xffffffff < bytes then
    .error (.rangeError "WINDOW_UPDATE bytes must be a positive uint32")
  else .ok (BigEndian.encode 4 bytes.num.toNat)

def decodeWindowUpdate (payload : List UInt8) : Except JsError ℕ :=
  if payload.length ≠ 4 then .error (.typeError "WINDOW_UPDATE payload must be four bytes")
  else if BigEndian.decode payload = 0 then
    .error (.typeError "WINDOW_UPDATE bytes must be positive")
  else .ok (BigEndian.decode payload)

/-- For metadata whose window is a number that prints exactly, the two encoders write the same. -/
theorem encodeMetadata_fields (render : ℚ → JsString) {value : OpenHttp.OpenHttpMetadata}
    (h : value.initialWindowBytes ≤ 2 ^ 53) :
    encodeMetadata render (.object value.fields) = OpenHttp.encodeMetadata value := by
  have hheaders : ∀ headers : List HeaderPair,
      stringifyItems render (headers.map fun (name, text) =>
          JsonValue.array [.string name, .string text]) =
        headers.map fun (name, text) => jsonArray [quoteJsonString name, quoteJsonString text] := by
    intro headers
    induction headers with
    | nil => rfl
    | cons pair headers ih =>
      rw [List.map_cons, stringifyItems, ih]
      rfl
  have hwindow : numberText render (value.initialWindowBytes : ℚ) =
      ofNat value.initialWindowBytes := by
    unfold numberText
    rw [if_pos ⟨Rat.den_natCast _, by rw [Rat.num_natCast]; exact Int.natCast_nonneg _, by
      rw [Rat.num_natCast]; exact_mod_cast h⟩, Rat.num_natCast, Int.toNat_natCast]
  unfold encodeMetadata OpenHttp.encodeMetadata OpenHttp.OpenHttpMetadata.stringify
  simp only [JsonValue.stringify, OpenHttp.OpenHttpMetadata.fields, stringifyFields, hheaders, hwindow,
    jsonObject, List.map_cons, List.map_nil]
  rfl

section Finite

theorem finiteItems_eq_map (items : List JsonValue) :
    finiteItems items = items.map JsonValue.finite := by
  induction items with
  | nil => rfl
  | cons item items ih => rw [finiteItems, ih, List.map_cons]

theorem field_finiteFields (name : String) (fields : List (String × JsonValue)) :
    JsonValue.field name (finiteFields fields) =
      (JsonValue.field name fields).map JsonValue.finite := by
  unfold JsonValue.field
  induction fields with
  | nil => rfl
  | cons entry fields ih =>
    obtain ⟨key, value⟩ := entry
    simp only [finiteFields, List.lookup_cons]
    cases name == key with
    | true => rfl
    | false => exact ih

theorem parseKind_finite (value : Option JsonValue) :
    parseKind (value.map JsonValue.finite) = parseKind value := by
  rcases value with _ | (_ | _ | _ | _ | _ | _ | _) <;> rfl

theorem integerBetween_finite (low high : ℕ) (value : Option JsonValue) :
    JsonValue.integerBetween low high (value.map JsonValue.finite) =
      JsonValue.integerBetween low high value := by
  rcases value with _ | (_ | _ | _ | _ | _ | _ | _) <;> rfl

theorem parseHeaderPair_finite (entry : JsonValue) :
    parseHeaderPair entry.finite = parseHeaderPair entry := by
  cases entry with
  | array items =>
    rw [JsonValue.finite, finiteItems_eq_map]
    rcases items with _ | ⟨first, _ | ⟨second, _ | ⟨third, items⟩⟩⟩
    · rfl
    · cases first <;> rfl
    · cases first <;> cases second <;> rfl
    · cases first <;> cases second <;> rfl
  | _ => rfl

theorem parseHeaders_finite (value : Option JsonValue) :
    parseHeaders (value.map JsonValue.finite) = parseHeaders value := by
  rcases value with _ | (_ | _ | _ | _ | _ | items | _)
  case some.array =>
    simp only [Option.map_some, JsonValue.finite, finiteItems_eq_map, parseHeaders,
      List.length_map, List.mapM_map, Function.comp_def, parseHeaderPair_finite]
  all_goals rfl

/-- The checks read the same out of the JSON of a value as out of the value. -/
theorem parseOpenHttpMetadata_finite (fields : List (String × JsonValue)) :
    parseOpenHttpMetadata (finiteFields fields) = parseOpenHttpMetadata fields := by
  simp only [parseOpenHttpMetadata, field_finiteFields, parseKind_finite, parseHeaders_finite,
    integerBetween_finite]
  congr 1
  funext kind
  rcases JsonValue.field "method" fields with _ | (_ | _ | _ | _ | method | _ | _)
  case some.string =>
    simp only [Option.map_some, JsonValue.finite]
    rcases JsonValue.field "path" fields with _ | (_ | _ | _ | _ | path | _ | _)
    case some.string =>
      simp only [Option.map_some, JsonValue.finite]
      rcases JsonValue.field "requestBodyEnded" fields with _ | (_ | ended | _ | _ | _ | _ | _)
      all_goals rfl
    all_goals rfl
  all_goals rfl

theorem parseResponseHeadersMetadata_finite (fields : List (String × JsonValue)) :
    parseResponseHeadersMetadata (finiteFields fields) = parseResponseHeadersMetadata fields := by
  simp only [parseResponseHeadersMetadata, field_finiteFields, parseHeaders_finite,
    integerBetween_finite]
  rcases JsonValue.field "statusMessage" fields with _ | (_ | _ | _ | _ | message | _ | _)
  all_goals rfl

end Finite

section Carried

/-- Every field of the metadata is the value's own. -/
def Carries (value : JsonValue) (fields : List (String × JsonValue)) : Prop :=
  ∀ entry ∈ fields, JsonValue.field entry.1 value.properties = some entry.2

theorem parseKind_eq_ok {value : Option JsonValue} {kind : StreamKind}
    (h : parseKind value = .ok kind) : value = some (.string (kindText kind)) := by
  unfold parseKind at h
  split at h
  · split_ifs at h with hhttp hwebsocket
    · cases h
      rw [hhttp]
      rfl
    · cases h
      rw [hwebsocket]
      rfl
  · cases h

theorem integerBetween_eq {low high n : ℕ} {value : Option JsonValue}
    (h : JsonValue.integerBetween low high value = some n) :
    value = some (.number n) ∧ low ≤ n ∧ n ≤ high := by
  unfold JsonValue.integerBetween at h
  split at h
  · next number =>
    split_ifs at h with hrange
    obtain ⟨hden, hlow, hhigh⟩ := hrange
    have hnonneg : 0 ≤ number.num := (Int.natCast_nonneg low).trans hlow
    have hn : number.num = n := by
      rw [← Option.some.inj h, Int.toNat_of_nonneg hnonneg]
    have hnumber : number = (n : ℚ) := by
      rw [← Rat.num_div_den number, hden, hn]
      simp
    rw [hn] at hlow hhigh
    exact ⟨by rw [hnumber], by exact_mod_cast hlow, by exact_mod_cast hhigh⟩
  · cases h

theorem parseHeaderPair_eq_ok {entry : JsonValue} {pair : HeaderPair}
    (h : parseHeaderPair entry = .ok pair) : entry = .array [.string pair.1, .string pair.2] := by
  unfold parseHeaderPair at h
  split at h
  · split_ifs at h
    cases h
    rfl
  · cases h

theorem parseHeaders_eq_ok {value : Option JsonValue} {headers : List HeaderPair}
    (h : parseHeaders value = .ok headers) : value = some (headersJson headers) := by
  unfold parseHeaders at h
  split at h
  · next entries =>
    split_ifs at h
    have hentries : entries = headers.map fun (name, text) =>
        JsonValue.array [.string name, .string text] := by
      clear * - h
      induction entries generalizing headers with
      | nil =>
        cases h
        rfl
      | cons entry entries ih =>
        rw [List.mapM_cons] at h
        obtain ⟨pair, hpair, h⟩ := of_bind_eq_ok h
        obtain ⟨rest, hrest, h⟩ := of_bind_eq_ok h
        cases h
        rw [List.map_cons, ← ih hrest, parseHeaderPair_eq_ok hpair]
    rw [hentries]
    rfl
  · cases h

/-- Accepted metadata are the fields of the value, and their path is graphic ASCII. -/
theorem parseOpenHttpMetadata_eq_ok {value : JsonValue} {metadata : OpenHttp.OpenHttpMetadata}
    (h : parseOpenHttpMetadata value.properties = .ok metadata) :
    Carries value metadata.fields ∧ isRequestPath metadata.path = true ∧
      ∀ pair ∈ metadata.headers, headerNamePattern pair.1 = true ∧
        hasForbiddenUnit pair.2 = false := by
  obtain ⟨kind, hkind, h⟩ := of_bind_eq_ok h
  split at h
  · next method hmethod =>
    split_ifs at h
    · cases h
    dsimp only at h
    split at h
    · next path hpath =>
      split_ifs at h with hrequest
      · cases h
      split at h
      · next ended hended =>
        split at h
        · next window hwindow =>
          obtain ⟨headers, hheaders, h⟩ := of_bind_eq_ok h
          cases h
          refine ⟨?_, by simpa using hrequest, parseHeaders_ok hheaders⟩
          simp only [Carries, OpenHttpMetadata.fields, List.forall_mem_cons, List.not_mem_nil,
            IsEmpty.forall_iff, implies_true, and_true]
          exact ⟨parseKind_eq_ok hkind, hmethod, hpath, parseHeaders_eq_ok hheaders, hended,
            (integerBetween_eq hwindow).1⟩
        · cases h
      · cases h
    · cases h
  · cases h

theorem parseResponseHeadersMetadata_eq_ok {value : JsonValue}
    {metadata : ResponseHeadersMetadata}
    (h : parseResponseHeadersMetadata value.properties = .ok metadata) :
    Carries value (responseFields metadata) ∧
      ∀ pair ∈ metadata.headers, headerNamePattern pair.1 = true ∧
        hasForbiddenUnit pair.2 = false := by
  unfold parseResponseHeadersMetadata at h
  split at h
  · next statusCode hcode =>
    split at h
    · next message hmessage =>
      split_ifs at h
      · cases h
      obtain ⟨headers, hheaders, h⟩ := of_bind_eq_ok h
      cases h
      refine ⟨?_, parseHeaders_ok hheaders⟩
      simp only [Carries, responseFields, List.forall_mem_cons, List.not_mem_nil,
        IsEmpty.forall_iff, implies_true, and_true]
      exact ⟨(integerBetween_eq hcode).1, hmessage, parseHeaders_eq_ok hheaders⟩
    · cases h
  · cases h

end Carried

section Codec
variable (render : ℚ → JsString) (parse : List UInt8 → Except JsError JsonValue)

/-- The platform reads the JSON of the value back. -/
def Inverts (value : JsonValue) : Prop := parse (encodeMetadata render value) = .ok value.finite

variable {render parse}

theorem parseObject_encode {value : JsonValue} (h : Inverts render parse value) :
    parseObject parse (encodeMetadata render value) =
      match value with
      | .object fields => .ok (finiteFields fields)
      | _ => .error (.typeError "metadata must be an object") := by
  unfold parseObject
  rw [h]
  cases value with
  | object fields => rfl
  | _ => rfl

/-- The decoder reads of the JSON of a value what the encoder checks of the value itself. -/
theorem decodeOpenHttpMetadata_encode {value : JsonValue} (h : Inverts render parse value)
    (metadata : OpenHttp.OpenHttpMetadata) :
    decodeOpenHttpMetadata parse (encodeMetadata render value) = .ok metadata ↔
      parseOpenHttpMetadata value.properties = .ok metadata := by
  unfold decodeOpenHttpMetadata
  rw [parseObject_encode h]
  cases value with
  | object fields =>
    change parseOpenHttpMetadata (finiteFields fields) = .ok metadata ↔ _
    rw [parseOpenHttpMetadata_finite]
    rfl
  | _ => exact ⟨nofun, nofun⟩

theorem decodeResponseHeadersMetadata_encode {value : JsonValue} (h : Inverts render parse value)
    (metadata : ResponseHeadersMetadata) :
    decodeResponseHeadersMetadata parse (encodeMetadata render value) = .ok metadata ↔
      parseResponseHeadersMetadata value.properties = .ok metadata := by
  unfold decodeResponseHeadersMetadata
  rw [parseObject_encode h]
  cases value with
  | object fields =>
    change parseResponseHeadersMetadata (finiteFields fields) = .ok metadata ↔ _
    rw [parseResponseHeadersMetadata_finite]
    rfl
  | _ => exact ⟨nofun, nofun⟩

theorem parseOpenHttpMetadata_self {value : JsonValue} {metadata : OpenHttp.OpenHttpMetadata}
    (h : parseOpenHttpMetadata value.properties = .ok metadata) :
    parseOpenHttpMetadata metadata.fields = .ok metadata := by
  obtain ⟨hcarries, -, -⟩ := parseOpenHttpMetadata_eq_ok h
  simp only [Carries, OpenHttpMetadata.fields, List.forall_mem_cons, List.not_mem_nil,
    IsEmpty.forall_iff, implies_true, and_true] at hcarries
  obtain ⟨hkind, hmethod, hpath, hheaders, hended, hwindow⟩ := hcarries
  rw [← h]
  simp only [parseOpenHttpMetadata, hkind, hmethod, hpath, hheaders, hended, hwindow]
  rfl

theorem parseResponseHeadersMetadata_self {value : JsonValue} {metadata : ResponseHeadersMetadata}
    (h : parseResponseHeadersMetadata value.properties = .ok metadata) :
    parseResponseHeadersMetadata (responseFields metadata) = .ok metadata := by
  obtain ⟨hcarries, -⟩ := parseResponseHeadersMetadata_eq_ok h
  simp only [Carries, responseFields, List.forall_mem_cons, List.not_mem_nil,
    IsEmpty.forall_iff, implies_true, and_true] at hcarries
  obtain ⟨hcode, hmessage, hheaders⟩ := hcarries
  rw [← h]
  simp only [parseResponseHeadersMetadata, hcode, hmessage, hheaders]
  rfl

theorem encodeOpenHttpMetadata_eq_ok {value : JsonValue} {payload : List UInt8} :
    encodeOpenHttpMetadata render value = .ok payload ↔
      ∃ metadata, parseOpenHttpMetadata value.properties = .ok metadata ∧
        payload = encodeMetadata render (.object metadata.fields) := by
  unfold encodeOpenHttpMetadata
  constructor
  · intro h
    obtain ⟨metadata, hmetadata, h⟩ := of_bind_eq_ok h
    cases h
    exact ⟨metadata, hmetadata, rfl⟩
  · rintro ⟨metadata, hmetadata, rfl⟩
    rw [hmetadata]
    rfl

theorem encodeResponseHeadersMetadata_eq_ok {value : JsonValue} {payload : List UInt8} :
    encodeResponseHeadersMetadata render value = .ok payload ↔
      ∃ metadata, parseResponseHeadersMetadata value.properties = .ok metadata ∧
        payload = encodeMetadata render (.object (responseFields metadata)) := by
  unfold encodeResponseHeadersMetadata
  constructor
  · intro h
    obtain ⟨metadata, hmetadata, h⟩ := of_bind_eq_ok h
    cases h
    exact ⟨metadata, hmetadata, rfl⟩
  · rintro ⟨metadata, hmetadata, rfl⟩
    rw [hmetadata]
    rfl

theorem decodeWindowUpdate_eq_ok {payload : List UInt8} {n : ℕ} :
    decodeWindowUpdate payload = .ok n ↔
      payload.length = 4 ∧ BigEndian.decode payload = n ∧ 0 < n := by
  unfold decodeWindowUpdate
  split_ifs with hlength hzero
  · exact ⟨nofun, fun h => absurd h.1 hlength⟩
  · refine ⟨nofun, fun h => ?_⟩
    omega
  · constructor
    · intro h
      cases h
      exact ⟨not_not.1 hlength, rfl, Nat.pos_of_ne_zero hzero⟩
    · rintro ⟨-, hn, -⟩
      rw [hn]

theorem encodeWindowUpdate_natCast {n : ℕ} (hpos : 0 < n) (hle : n ≤ 0xffffffff) :
    encodeWindowUpdate n = .ok (BigEndian.encode 4 n) := by
  have hvalid : ¬ ((n : ℚ).den ≠ 1 ∨ (n : ℚ) ≤ 0 ∨ 0xffffffff < (n : ℚ)) := by
    rintro (hden | hzero | hbig)
    · exact hden (Rat.den_natCast n)
    · have : n ≤ 0 := by exact_mod_cast hzero
      omega
    · have : 0xffffffff < n := by exact_mod_cast hbig
      omega
  unfold encodeWindowUpdate
  rw [if_neg hvalid, Rat.num_natCast, Int.toNat_natCast]

/-- The two directions of a WINDOW_UPDATE undo each other. -/
theorem windowUpdate_inverse (payload : List UInt8) (n : ℕ) :
    decodeWindowUpdate payload = .ok n ↔
      (0 < n ∧ n ≤ 0xffffffff) ∧ encodeWindowUpdate n = .ok payload := by
  rw [decodeWindowUpdate_eq_ok]
  constructor
  · rintro ⟨hlength, hdecode, hpos⟩
    have hlt := BigEndian.decode_lt payload
    rw [hlength, hdecode] at hlt
    have hle : n ≤ 0xffffffff := by omega
    refine ⟨⟨hpos, hle⟩, ?_⟩
    rw [encodeWindowUpdate_natCast hpos hle, ← hdecode, ← hlength, BigEndian.encode_decode]
  · rintro ⟨⟨hpos, hle⟩, hencode⟩
    rw [encodeWindowUpdate_natCast hpos hle] at hencode
    cases hencode
    exact ⟨BigEndian.length_encode 4 n, BigEndian.decode_encode (by omega), hpos⟩

/-- Graphic ASCII without a fragment. -/
theorem isRequestPath_units {path : JsString} (h : isRequestPath path = true) :
    ∀ unit ∈ path, 0x21 ≤ unit ∧ unit ≤ 0x7e ∧ unit ≠ 0x23 := by
  simp only [isRequestPath, Bool.and_eq_true, List.all_eq_true, decide_eq_true_eq,
    Bool.not_eq_true', List.contains_eq_mem, decide_eq_false_iff_not] at h
  intro unit hunit
  obtain ⟨⟨-, hgraphic⟩, hfragment⟩ := h
  refine ⟨(hgraphic unit hunit).1, (hgraphic unit hunit).2, fun heq => hfragment ?_⟩
  rwa [← heq]

theorem hasForbiddenUnit_eq_false {text : JsString} :
    hasForbiddenUnit text = false ↔ ∀ unit ∈ text, unit ∉ ([0x00, 0x0d, 0x0a] : List UInt16) := by
  unfold hasForbiddenUnit
  rw [List.any_eq_false]
  simp only [decide_eq_true_eq]

theorem headerNamePattern_units {name : JsString} (h : headerNamePattern name = true) :
    ∀ unit ∈ name, unit ∉ ([0x00, 0x0d, 0x0a] : List UInt16) := by
  simp only [headerNamePattern, Bool.and_eq_true, List.all_eq_true] at h
  intro unit hunit hforbidden
  have htoken := h.2 unit hunit
  fin_cases hforbidden <;> cases htoken

/-- The header lists that pass have no line break and no NUL in them. -/
def HeadersClean (headers : List HeaderPair) : Prop :=
  ∀ pair ∈ headers, ∀ unit ∈ pair.1 ++ pair.2, unit ∉ ([0x00, 0x0d, 0x0a] : List UInt16)

theorem headersClean_of_checked {headers : List HeaderPair}
    (h : ∀ pair ∈ headers, headerNamePattern pair.1 = true ∧ hasForbiddenUnit pair.2 = false) :
    HeadersClean headers := by
  intro pair hpair unit hunit
  obtain ⟨hname, hvalue⟩ := h pair hpair
  rcases List.mem_append.1 hunit with hunit | hunit
  · exact headerNamePattern_units hname unit hunit
  · exact hasForbiddenUnit_eq_false.1 hvalue unit hunit

theorem parseObject_eq_ok {payload : List UInt8} {fields : List (String × JsonValue)}
    (h : parseObject parse payload = .ok fields) : parse payload = .ok (.object fields) := by
  obtain ⟨value, hvalue, h⟩ := of_bind_eq_ok h
  split at h
  · cases h
    exact hvalue
  · cases h

theorem decodeOpenHttpMetadata_clean {payload : List UInt8} {metadata : OpenHttp.OpenHttpMetadata}
    (h : decodeOpenHttpMetadata parse payload = .ok metadata) :
    (∀ unit ∈ metadata.path, 0x21 ≤ unit ∧ unit ≤ 0x7e ∧ unit ≠ 0x23) ∧
      HeadersClean metadata.headers := by
  obtain ⟨fields, -, h⟩ := of_bind_eq_ok h
  have hparsed : parseOpenHttpMetadata (JsonValue.object fields).properties = .ok metadata := h
  obtain ⟨-, hpath, hheaders⟩ := parseOpenHttpMetadata_eq_ok hparsed
  exact ⟨isRequestPath_units hpath, headersClean_of_checked hheaders⟩

theorem decodeResponseHeadersMetadata_clean {payload : List UInt8}
    {metadata : ResponseHeadersMetadata}
    (h : decodeResponseHeadersMetadata parse payload = .ok metadata) :
    HeadersClean metadata.headers := by
  obtain ⟨fields, -, h⟩ := of_bind_eq_ok h
  have hparsed : parseResponseHeadersMetadata (JsonValue.object fields).properties =
    .ok metadata := h
  exact headersClean_of_checked (parseResponseHeadersMetadata_eq_ok hparsed).2

end Codec

/-- The encoders refuse what the decoders would refuse, and the decoders read back what they were
given; a platform that reads its own JSON back is all they need. -/
theorem metadata_codec (render : ℚ → JsString) (parse : List UInt8 → Except JsError JsonValue)
    (value : JsonValue) (hvalue : Inverts render parse value)
    (hopen : ∀ metadata, parseOpenHttpMetadata value.properties = .ok metadata →
      Inverts render parse (.object metadata.fields))
    (hresponse : ∀ metadata, parseResponseHeadersMetadata value.properties = .ok metadata →
      Inverts render parse (.object (responseFields metadata))) :
    ((∃ payload, encodeOpenHttpMetadata render value = .ok payload) ↔
      ∃ metadata, decodeOpenHttpMetadata parse (encodeMetadata render value) = .ok metadata) ∧
    (∀ payload, encodeOpenHttpMetadata render value = .ok payload →
      ∃ metadata, decodeOpenHttpMetadata parse payload = .ok metadata ∧
        Carries value metadata.fields) ∧
    ((∃ payload, encodeResponseHeadersMetadata render value = .ok payload) ↔
      ∃ metadata,
        decodeResponseHeadersMetadata parse (encodeMetadata render value) = .ok metadata) ∧
    (∀ payload, encodeResponseHeadersMetadata render value = .ok payload →
      ∃ metadata, decodeResponseHeadersMetadata parse payload = .ok metadata ∧
        Carries value (responseFields metadata)) ∧
    (∀ payload n, decodeWindowUpdate payload = .ok n ↔
      (0 < n ∧ n ≤ 0xffffffff) ∧ encodeWindowUpdate n = .ok payload) ∧
    (∀ payload metadata, decodeOpenHttpMetadata parse payload = .ok metadata →
      (∀ unit ∈ metadata.path, 0x21 ≤ unit ∧ unit ≤ 0x7e ∧ unit ≠ 0x23) ∧
        HeadersClean metadata.headers) ∧
    ∀ payload metadata, decodeResponseHeadersMetadata parse payload = .ok metadata →
      HeadersClean metadata.headers := by
  refine ⟨?_, ?_, ?_, ?_, windowUpdate_inverse, fun _ _ h => decodeOpenHttpMetadata_clean h,
    fun _ _ h => decodeResponseHeadersMetadata_clean h⟩
  · simp only [decodeOpenHttpMetadata_encode hvalue, encodeOpenHttpMetadata_eq_ok]
    exact ⟨fun ⟨_, metadata, h, _⟩ => ⟨metadata, h⟩, fun ⟨metadata, h⟩ => ⟨_, metadata, h, rfl⟩⟩
  · intro payload hpayload
    obtain ⟨metadata, hmetadata, rfl⟩ := encodeOpenHttpMetadata_eq_ok.1 hpayload
    exact ⟨metadata, (decodeOpenHttpMetadata_encode (hopen metadata hmetadata) metadata).2
      (parseOpenHttpMetadata_self hmetadata), (parseOpenHttpMetadata_eq_ok hmetadata).1⟩
  · simp only [decodeResponseHeadersMetadata_encode hvalue, encodeResponseHeadersMetadata_eq_ok]
    exact ⟨fun ⟨_, metadata, h, _⟩ => ⟨metadata, h⟩, fun ⟨metadata, h⟩ => ⟨_, metadata, h, rfl⟩⟩
  · intro payload hpayload
    obtain ⟨metadata, hmetadata, rfl⟩ := encodeResponseHeadersMetadata_eq_ok.1 hpayload
    exact ⟨metadata, (decodeResponseHeadersMetadata_encode (hresponse metadata hmetadata)
      metadata).2 (parseResponseHeadersMetadata_self hmetadata),
      (parseResponseHeadersMetadata_eq_ok hmetadata).1⟩

section Sample

def sampleMetadata : OpenHttp.OpenHttpMetadata where
  kind := .http
  method := ofAscii "GET"
  path := ofAscii "/a?b"
  headers := [(ofAscii "Accept", ofAscii "*/*"), (ofAscii "accept", [])]
  requestBodyEnded := true
  initialWindowBytes := 65536

/-- A platform that has read the sample before. -/
def sampleParse (payload : List UInt8) : Except JsError JsonValue :=
  if payload = encodeMetadata (fun _ => []) (.object sampleMetadata.fields) then
    .ok (.object sampleMetadata.fields)
  else .error (.error "SyntaxError")

theorem metadata_codec_get :
    ∃ payload metadata,
      encodeOpenHttpMetadata (fun _ => []) (.object sampleMetadata.fields) = .ok payload ∧
      decodeOpenHttpMetadata sampleParse payload = .ok metadata ∧
      Carries (.object sampleMetadata.fields) metadata.fields := by
  have hparsed : parseOpenHttpMetadata sampleMetadata.fields = .ok sampleMetadata := by rfl
  have hread : Inverts (fun _ => []) sampleParse (.object sampleMetadata.fields) := if_pos rfl
  obtain ⟨-, hdecode, -⟩ := metadata_codec (fun _ => []) sampleParse (.object sampleMetadata.fields)
    hread
    (fun metadata h => by
      cases hparsed.symm.trans h
      exact hread)
    (fun metadata h => by cases h)
  obtain ⟨metadata, hmetadata⟩ := hdecode _ (encodeOpenHttpMetadata_eq_ok.2 ⟨_, hparsed, rfl⟩)
  exact ⟨_, metadata, encodeOpenHttpMetadata_eq_ok.2 ⟨_, hparsed, rfl⟩, hmetadata⟩

end Sample

end MetadataCodec

end Lotur
