import Lotur.Library.BigEndian
import Lotur.Protocol.JavaScript

/-! `encodeEnvelope` and `decodeEnvelope`: sixteen bytes of header, then the payload. -/
namespace Lotur

/-- A double. A finite one is the rational number it stands for, so the two zeros are one. -/
inductive JsNumber
  | finite (value : ℚ)
  | infinity (negative : Bool)
  | nan
  deriving DecidableEq

namespace JsNumber

def ofNat (n : ℕ) : JsNumber := .finite n

/-- `Number.isInteger(value) && value >= 0 && value <= maximum`, the check of every field. -/
def isUnsigned (maximum : ℕ) : JsNumber → Bool
  | .finite value => value.den = 1 && 0 ≤ value.num && value.num ≤ maximum
  | _ => false

/-- The number of `bits` that `DataView` stores: the fraction is dropped and the rest wraps. -/
def toUint (bits : ℕ) : JsNumber → ℕ
  | .finite value => (value.num.tdiv value.den % (2 ^ bits : ℕ)).toNat
  | _ => 0

theorem isUnsigned_ofNat {maximum n : ℕ} : (ofNat n).isUnsigned maximum = true ↔ n ≤ maximum := by
  simp [ofNat, isUnsigned]

theorem exists_of_isUnsigned {maximum : ℕ} {value : JsNumber}
    (h : value.isUnsigned maximum = true) : ∃ n ≤ maximum, value = ofNat n := by
  cases value with
  | finite value =>
    simp only [isUnsigned, Bool.and_eq_true, decide_eq_true_eq] at h
    obtain ⟨⟨hden, hnonneg⟩, hle⟩ := h
    refine ⟨value.num.toNat, by omega, ?_⟩
    have hvalue : value = ((value.num.toNat : ℤ) : ℚ) := by
      rw [Int.toNat_of_nonneg hnonneg]
      exact (Rat.coe_int_num_of_den_eq_one hden).symm
    rw [ofNat]
    congr 1
  | infinity negative => cases h
  | nan => cases h

theorem toUint_ofNat {bits n : ℕ} (h : n < 2 ^ bits) : (ofNat n).toUint bits = n := by
  have hmod := Nat.mod_eq_of_lt h
  simp only [toUint, ofNat, Rat.num_natCast, Rat.den_natCast, Nat.cast_one, Int.tdiv_one]
  omega

end JsNumber

def MAGIC : List UInt8 := [0x52, 0x54]

def HEADER_BYTES : ℕ := 16

def PROTOCOL_VERSION : ℕ := 1

def MAX_ENVELOPE_PAYLOAD_BYTES : ℕ := 0xffff

inductive FrameType
  | Ping
  | Pong
  | Hello
  | SessionProvisioned
  | SessionConfig
  | ConfigApplied
  | SessionActive
  | OpenProbe
  | ConnectionError
  | OpenHttp
  | ResponseHeaders
  | Data
  | EndStream
  | WindowUpdate
  | ResetStream
  | CloseSession
  deriving DecidableEq, Repr

namespace FrameType

def value : FrameType → ℕ
  | Ping => 1
  | Pong => 2
  | Hello => 3
  | SessionProvisioned => 4
  | SessionConfig => 5
  | ConfigApplied => 6
  | SessionActive => 7
  | OpenProbe => 8
  | ConnectionError => 9
  | OpenHttp => 10
  | ResponseHeaders => 11
  | Data => 12
  | EndStream => 13
  | WindowUpdate => 14
  | ResetStream => 15
  | CloseSession => 20

def values : List FrameType :=
  [Ping, Pong, Hello, SessionProvisioned, SessionConfig, ConfigApplied, SessionActive, OpenProbe,
    ConnectionError, OpenHttp, ResponseHeaders, Data, EndStream, WindowUpdate, ResetStream,
    CloseSession]

/-- `Object.values(FrameType).includes(type)`, with the type that it finds. -/
def ofValue (type : ℕ) : Option FrameType := values.find? fun known => known.value = type

def isControl (type : FrameType) : Bool :=
  type ∈ [Ping, Pong, Hello, SessionProvisioned, SessionConfig, ConfigApplied, SessionActive,
    ConnectionError, CloseSession]

def hasEmptyPayload (type : FrameType) : Bool := type ∈ [Ping, Pong, EndStream, CloseSession]

@[simp] theorem ofValue_value (type : FrameType) : ofValue type.value = some type := by
  cases type <;> rfl

theorem value_of_ofValue {type : ℕ} {known : FrameType} (h : ofValue type = some known) :
    known.value = type := by
  simpa using List.find?_some h

theorem value_lt (type : FrameType) : type.value < 256 := by
  cases type <;> decide

end FrameType

structure EnvelopeInput where
  type : FrameType
  flags : JsNumber
  generation : JsNumber
  streamId : JsNumber
  payload : List UInt8
  deriving DecidableEq

structure Envelope extends EnvelopeInput where
  version : JsNumber
  deriving DecidableEq

inductive EnvelopeDecodeErrorCode
  | FRAME_TOO_SHORT
  | MAGIC_INVALID
  | VERSION_UNSUPPORTED
  | FRAME_TYPE_UNKNOWN
  | FLAGS_UNSUPPORTED
  | RESERVED_NONZERO
  | LENGTH_MISMATCH
  | PAYLOAD_UNEXPECTED
  | STREAM_ID_INVALID
  deriving DecidableEq, Repr

structure EnvelopeDecodeError where
  code : EnvelopeDecodeErrorCode
  message : String
  deriving DecidableEq, Repr

/-- `none` stands for a check that passes, and a text for the `RangeError` it throws. -/
def assertStreamId (type : FrameType) (streamId : JsNumber) : Option String :=
  if type.isControl ∧ streamId ≠ .ofNat 0 then some "control frame must use stream ID 0"
  else if !type.isControl ∧ streamId = .ofNat 0 then
    some "stream frame must use a positive stream ID"
  else none

def assertUnsignedByte (value : JsNumber) (name : String) : Option String :=
  if value.isUnsigned 0xff then none else some s!"{name} must be an unsigned byte"

def assertUint32 (value : JsNumber) (name : String) : Option String :=
  if value.isUnsigned 0xffffffff then none
  else some s!"{name} must be an unsigned 32-bit integer"

def encodeEnvelope (input : EnvelopeInput) : Except JsError (List UInt8) :=
  match assertUnsignedByte input.flags "flags" with
  | some message => .error (.rangeError message)
  | none =>
  if input.flags ≠ .ofNat 0 then
    .error (.rangeError "protocol v1 does not define envelope flags")
  else
  match assertUint32 input.generation "generation" with
  | some message => .error (.rangeError message)
  | none =>
  match assertUint32 input.streamId "streamId" with
  | some message => .error (.rangeError message)
  | none =>
  match assertStreamId input.type input.streamId with
  | some message => .error (.rangeError message)
  | none =>
  if input.type.hasEmptyPayload ∧ input.payload.length ≠ 0 then
    .error (.rangeError "protocol v1 frame type requires an empty payload")
  else if input.payload.length > MAX_ENVELOPE_PAYLOAD_BYTES then
    .error (.rangeError s!"payload exceeds {MAX_ENVELOPE_PAYLOAD_BYTES} byte envelope limit")
  else .ok (MAGIC ++ BigEndian.encode 1 PROTOCOL_VERSION ++ BigEndian.encode 1 input.type.value ++
    BigEndian.encode 1 (input.flags.toUint 8) ++ BigEndian.encode 1 0 ++
    BigEndian.encode 4 (input.generation.toUint 32) ++ BigEndian.encode 4 (input.streamId.toUint 32) ++
    BigEndian.encode 2 input.payload.length ++ input.payload)

/-- `getUint8`, `getUint16` and `getUint32`, for a width of one, two and four bytes. -/
def getUint (width : ℕ) (input : List UInt8) (offset : ℕ) : ℕ :=
  BigEndian.decode ((input.drop offset).take width)

def decodeEnvelope (input : List UInt8) : Except EnvelopeDecodeError Envelope :=
  if input.length < HEADER_BYTES then .error ⟨.FRAME_TOO_SHORT, "frame header is incomplete"⟩
  else if input.take 2 ≠ MAGIC then .error ⟨.MAGIC_INVALID, "frame magic does not match"⟩
  else
  let version := getUint 1 input 2
  if version ≠ PROTOCOL_VERSION then
    .error ⟨.VERSION_UNSUPPORTED, s!"unsupported protocol version: {version}"⟩
  else
  let type := getUint 1 input 3
  match FrameType.ofValue type with
  | none => .error ⟨.FRAME_TYPE_UNKNOWN, s!"unknown frame type: {type}"⟩
  | some known =>
  let flags := getUint 1 input 4
  if flags ≠ 0 then
    .error ⟨.FLAGS_UNSUPPORTED, s!"protocol v1 does not support envelope flags: {flags}"⟩
  else
  let reserved := getUint 1 input 5
  if reserved ≠ 0 then .error ⟨.RESERVED_NONZERO, "protocol v1 reserved byte must be zero"⟩
  else
  let generation := getUint 4 input 6
  let streamId := getUint 4 input 10
  let payloadLength := getUint 2 input 14
  if input.length ≠ HEADER_BYTES + payloadLength then
    let received := input.length - HEADER_BYTES
    .error ⟨.LENGTH_MISMATCH, s!"declared {payloadLength} payload bytes, received {received}"⟩
  else
  match assertStreamId known (.ofNat streamId) with
  | some message => .error ⟨.STREAM_ID_INVALID, message⟩
  | none =>
  if known.hasEmptyPayload ∧ payloadLength ≠ 0 then
    .error ⟨.PAYLOAD_UNEXPECTED, "protocol v1 frame type requires an empty payload"⟩
  else .ok
    { version := .ofNat version
      type := known
      flags := .ofNat flags
      generation := .ofNat generation
      streamId := .ofNat streamId
      payload := input.drop HEADER_BYTES }

theorem assertStreamId_ok {type : FrameType} {streamId : JsNumber}
    (h : assertStreamId type streamId = none) :
    type.isControl = true ↔ streamId = .ofNat 0 := by
  unfold assertStreamId at h
  split_ifs at h with hcontrol hstream
  simp only [not_and, not_not] at hcontrol hstream
  constructor
  · exact hcontrol
  · intro hzero
    by_contra htype
    exact hstream (by simpa using htype) hzero

section Encode

variable {input : EnvelopeInput} {bytes : List UInt8}

/-- What an input must satisfy to be encoded. -/
structure EnvelopeInput.Encodable (input : EnvelopeInput) : Prop where
  flags : input.flags = .ofNat 0
  generation : ∃ n ≤ 0xffffffff, input.generation = .ofNat n
  streamId : ∃ n ≤ 0xffffffff, input.streamId = .ofNat n
  control : assertStreamId input.type input.streamId = none
  empty : input.type.hasEmptyPayload = true → input.payload.length = 0
  payload : input.payload.length ≤ MAX_ENVELOPE_PAYLOAD_BYTES

theorem isUnsigned_of_assertUint32 {value : JsNumber} {name : String}
    (h : assertUint32 value name = none) : value.isUnsigned 0xffffffff = true := by
  unfold assertUint32 at h
  split_ifs at h with hunsigned
  exact hunsigned

theorem encodable_of_encode (h : encodeEnvelope input = .ok bytes) : input.Encodable := by
  unfold encodeEnvelope at h
  split at h
  · cases h
  · split at h
    · cases h
    · rename_i hflags
      split at h
      · cases h
      · rename_i hgeneration
        split at h
        · cases h
        · rename_i hstreamId
          split at h
          · cases h
          · rename_i hcontrol
            split_ifs at h with hempty hpayload
            refine ⟨not_not.mp hflags,
              JsNumber.exists_of_isUnsigned (isUnsigned_of_assertUint32 hgeneration),
              JsNumber.exists_of_isUnsigned (isUnsigned_of_assertUint32 hstreamId), hcontrol, ?_, ?_⟩
            · simpa only [not_and, not_not] using hempty
            · exact not_lt.mp hpayload

/-- The bytes of a frame whose fields have passed the checks. -/
def wire (type : FrameType) (generation streamId : ℕ) (payload : List UInt8) : List UInt8 :=
  MAGIC ++ BigEndian.encode 1 PROTOCOL_VERSION ++ BigEndian.encode 1 type.value ++
    BigEndian.encode 1 0 ++ BigEndian.encode 1 0 ++ BigEndian.encode 4 generation ++
    BigEndian.encode 4 streamId ++ BigEndian.encode 2 payload.length ++ payload

theorem encodeEnvelope_of_encodable (h : input.Encodable) {generation streamId : ℕ}
    (hgeneration : input.generation = .ofNat generation) (hgenerationLe : generation ≤ 0xffffffff)
    (hstreamId : input.streamId = .ofNat streamId) (hstreamIdLe : streamId ≤ 0xffffffff) :
    encodeEnvelope input = .ok (wire input.type generation streamId input.payload) := by
  have hflags : assertUnsignedByte (.ofNat 0) "flags" = none :=
    if_pos (JsNumber.isUnsigned_ofNat.mpr (Nat.zero_le _))
  have hgenerationOk : assertUint32 (.ofNat generation) "generation" = none :=
    if_pos (JsNumber.isUnsigned_ofNat.mpr hgenerationLe)
  have hstreamIdOk : assertUint32 (.ofNat streamId) "streamId" = none :=
    if_pos (JsNumber.isUnsigned_ofNat.mpr hstreamIdLe)
  have hcontrol := h.control
  rw [hstreamId] at hcontrol
  have hempty : ¬(input.type.hasEmptyPayload = true ∧ input.payload.length ≠ 0) := by
    simpa only [not_and, not_not] using h.empty
  have hzero : (JsNumber.ofNat 0).toUint 8 = 0 := JsNumber.toUint_ofNat (by norm_num)
  simp only [encodeEnvelope, h.flags, hflags, ne_eq, not_true_eq_false, if_false, hgeneration,
    hgenerationOk, hstreamId, hstreamIdOk, hcontrol, hempty, if_neg (not_lt.mpr h.payload), hzero,
    JsNumber.toUint_ofNat (Nat.lt_of_le_of_lt hgenerationLe (by norm_num : 0xffffffff < 2 ^ 32)),
    JsNumber.toUint_ofNat (Nat.lt_of_le_of_lt hstreamIdLe (by norm_num : 0xffffffff < 2 ^ 32))]
  rfl

end Encode

section Decode

variable {type : FrameType} {generation streamId width offset n : ℕ}
  {before rest payload input : List UInt8}

/-- A field is read back from behind the bytes that precede it. -/
theorem getUint_encode (hbefore : before.length = offset) (hn : n < 256 ^ width) :
    getUint width (before ++ (BigEndian.encode width n ++ rest)) offset = n := by
  rw [getUint, List.drop_left' hbefore, List.take_left' (BigEndian.length_encode width n),
    BigEndian.decode_encode hn]

theorem encode_getUint (h : offset + width ≤ input.length) :
    BigEndian.encode width (getUint width input offset) = (input.drop offset).take width := by
  have hlength : ((input.drop offset).take width).length = width := by
    rw [List.length_take, List.length_drop]
    omega
  have hencode := BigEndian.encode_decode ((input.drop offset).take width)
  rwa [hlength] at hencode

theorem decodeEnvelope_wire (hgeneration : generation ≤ 0xffffffff)
    (hstreamId : streamId ≤ 0xffffffff) (hcontrol : assertStreamId type (.ofNat streamId) = none)
    (hempty : type.hasEmptyPayload = true → payload.length = 0)
    (hpayload : payload.length ≤ MAX_ENVELOPE_PAYLOAD_BYTES) :
    decodeEnvelope (wire type generation streamId payload) = .ok
      { version := .ofNat PROTOCOL_VERSION
        type := type
        flags := .ofNat 0
        generation := .ofNat generation
        streamId := .ofNat streamId
        payload := payload } := by
  have hlength : (wire type generation streamId payload).length = HEADER_BYTES + payload.length := by
    simp [wire, MAGIC, HEADER_BYTES]
    omega
  have hmagic : (wire type generation streamId payload).take 2 = MAGIC := by
    simp [wire, MAGIC]
  have hversion : getUint 1 (wire type generation streamId payload) 2 = PROTOCOL_VERSION := by
    simp only [wire, List.append_assoc]
    exact getUint_encode rfl (by decide)
  have htype : getUint 1 (wire type generation streamId payload) 3 = type.value := by
    simp only [wire, List.append_assoc]
    rw [← List.append_assoc]
    exact getUint_encode rfl type.value_lt
  have hflags : getUint 1 (wire type generation streamId payload) 4 = 0 := by
    simp only [wire, List.append_assoc]
    rw [← List.append_assoc, ← List.append_assoc]
    exact getUint_encode rfl (by decide)
  have hreserved : getUint 1 (wire type generation streamId payload) 5 = 0 := by
    simp only [wire, List.append_assoc]
    rw [← List.append_assoc, ← List.append_assoc, ← List.append_assoc]
    exact getUint_encode rfl (by decide)
  have hgeneration' : getUint 4 (wire type generation streamId payload) 6 = generation := by
    simp only [wire, List.append_assoc]
    rw [← List.append_assoc, ← List.append_assoc, ← List.append_assoc, ← List.append_assoc]
    exact getUint_encode rfl (Nat.lt_of_le_of_lt hgeneration (by norm_num))
  have hstreamId' : getUint 4 (wire type generation streamId payload) 10 = streamId := by
    simp only [wire, List.append_assoc]
    rw [← List.append_assoc, ← List.append_assoc, ← List.append_assoc, ← List.append_assoc,
      ← List.append_assoc]
    exact getUint_encode rfl (Nat.lt_of_le_of_lt hstreamId (by norm_num))
  have hpayloadLength : getUint 2 (wire type generation streamId payload) 14 = payload.length := by
    simp only [wire, List.append_assoc]
    rw [← List.append_assoc, ← List.append_assoc, ← List.append_assoc, ← List.append_assoc,
      ← List.append_assoc, ← List.append_assoc]
    exact getUint_encode rfl (Nat.lt_of_le_of_lt hpayload (by decide))
  have hdrop : (wire type generation streamId payload).drop HEADER_BYTES = payload := by
    rw [wire]
    exact List.drop_left' (by simp [MAGIC, HEADER_BYTES])
  have hshort : ¬(HEADER_BYTES + payload.length < HEADER_BYTES) := by omega
  have hunexpected : ¬(type.hasEmptyPayload = true ∧ payload.length ≠ 0) := by
    simpa only [not_and, not_not] using hempty
  simp only [decodeEnvelope, hlength, hshort, hmagic, hversion, htype, hflags, hreserved,
    hgeneration', hstreamId', hpayloadLength, hdrop, FrameType.ofValue_value, hcontrol, hunexpected,
    ne_eq, not_true_eq_false, if_false]

theorem take_append_drop_add (input : List UInt8) (offset width : ℕ) :
    (input.drop offset).take width ++ input.drop (offset + width) = input.drop offset := by
  rw [← List.drop_drop, List.take_append_drop]

theorem getUint_lt (width : ℕ) (input : List UInt8) (offset : ℕ) :
    getUint width input offset < 256 ^ width :=
  (BigEndian.decode_lt _).trans_le
    (Nat.pow_le_pow_right (by norm_num) (List.length_take_le width (input.drop offset)))

theorem getUint_four_le (input : List UInt8) (offset : ℕ) : getUint 4 input offset ≤ 0xffffffff :=
  Nat.le_of_lt_succ (getUint_lt 4 input offset)

theorem getUint_two_le (input : List UInt8) (offset : ℕ) :
    getUint 2 input offset ≤ MAX_ENVELOPE_PAYLOAD_BYTES :=
  Nat.le_of_lt_succ (getUint_lt 2 input offset)

theorem payload_length (hlength : ¬input.length ≠ HEADER_BYTES + n) :
    (input.drop HEADER_BYTES).length = n := by
  rw [List.length_drop, not_not.mp hlength, Nat.add_sub_cancel_left]

/-- Sixteen bytes of header are the concatenation of their fields. -/
theorem wire_of_fields (hshort : ¬input.length < HEADER_BYTES) (hmagic : input.take 2 = MAGIC)
    (hversion : getUint 1 input 2 = PROTOCOL_VERSION) (htype : type.value = getUint 1 input 3)
    (hflags : getUint 1 input 4 = 0) (hreserved : getUint 1 input 5 = 0)
    (hpayload : (input.drop HEADER_BYTES).length = getUint 2 input 14) :
    input = wire type (getUint 4 input 6) (getUint 4 input 10) (input.drop HEADER_BYTES) := by
  rw [not_lt, HEADER_BYTES] at hshort
  have hrest : wire type (getUint 4 input 6) (getUint 4 input 10) (input.drop HEADER_BYTES) =
      input.take 2 ++ ((input.drop 2).take 1 ++ ((input.drop 3).take 1 ++ ((input.drop 4).take 1 ++
        ((input.drop 5).take 1 ++ ((input.drop 6).take 4 ++ ((input.drop 10).take 4 ++
          ((input.drop 14).take 2 ++ input.drop 16))))))) := by
    rw [← encode_getUint (by omega), ← encode_getUint (by omega), ← encode_getUint (by omega),
      ← encode_getUint (by omega), ← encode_getUint (by omega), ← encode_getUint (by omega),
      ← encode_getUint (by omega), hversion, ← htype, hflags, hreserved, ← hpayload, hmagic]
    simp only [wire, List.append_assoc, HEADER_BYTES]
  rw [hrest, take_append_drop_add input 14 2, take_append_drop_add input 10 4,
    take_append_drop_add input 6 4, take_append_drop_add input 5 1, take_append_drop_add input 4 1,
    take_append_drop_add input 3 1, take_append_drop_add input 2 1, List.take_append_drop]

/-- Bytes that pass every check are the wire form of the fields read from them. -/
theorem wire_of_decode {envelope : Envelope} (h : decodeEnvelope input = .ok envelope) :
    ∃ generation ≤ 0xffffffff, ∃ streamId ≤ 0xffffffff,
      envelope.flags = .ofNat 0 ∧ envelope.generation = .ofNat generation ∧
      envelope.streamId = .ofNat streamId ∧ assertStreamId envelope.type (.ofNat streamId) = none ∧
      (envelope.type.hasEmptyPayload = true → envelope.payload.length = 0) ∧
      envelope.payload.length ≤ MAX_ENVELOPE_PAYLOAD_BYTES ∧
      input = wire envelope.type generation streamId envelope.payload := by
  unfold decodeEnvelope at h
  dsimp only at h
  split at h
  · cases h
  · rename_i hshort
    split at h
    · cases h
    · rename_i hmagic
      split at h
      · cases h
      · rename_i hversion
        split at h
        · cases h
        · rename_i known hknown
          split at h
          · cases h
          · rename_i hflags
            split at h
            · cases h
            · rename_i hreserved
              split at h
              · cases h
              · rename_i hlength
                split at h
                · cases h
                · rename_i hcontrol
                  split at h
                  · cases h
                  · rename_i hempty
                    cases h
                    have hpayload := payload_length hlength
                    refine ⟨_, getUint_four_le input 6, _, getUint_four_le input 10, ?_, rfl, rfl,
                      hcontrol, ?_, ?_, ?_⟩
                    · rw [not_not.mp hflags]
                    · simpa [hpayload] using hempty
                    · rw [hpayload]
                      exact getUint_two_le input 14
                    · exact wire_of_fields hshort (not_not.mp hmagic) (not_not.mp hversion)
                        (FrameType.value_of_ofValue hknown) (not_not.mp hflags)
                        (not_not.mp hreserved) hpayload

end Decode

theorem decode_of_encode {input : EnvelopeInput} {bytes : List UInt8}
    (h : encodeEnvelope input = .ok bytes) :
    decodeEnvelope bytes = .ok { input with version := .ofNat PROTOCOL_VERSION } := by
  have hencodable := encodable_of_encode h
  obtain ⟨generation, hgenerationLe, hgeneration⟩ := hencodable.generation
  obtain ⟨streamId, hstreamIdLe, hstreamId⟩ := hencodable.streamId
  rw [encodeEnvelope_of_encodable hencodable hgeneration hgenerationLe hstreamId hstreamIdLe] at h
  cases h
  rw [decodeEnvelope_wire hgenerationLe hstreamIdLe (hstreamId ▸ hencodable.control)
    hencodable.empty hencodable.payload, ← hgeneration, ← hstreamId, ← hencodable.flags]

theorem encode_of_decode {bytes : List UInt8} {envelope : Envelope}
    (h : decodeEnvelope bytes = .ok envelope) :
    encodeEnvelope envelope.toEnvelopeInput = .ok bytes := by
  obtain ⟨generation, hgenerationLe, streamId, hstreamIdLe, hflags, hgeneration, hstreamId, hcontrol,
    hempty, hpayload, hbytes⟩ := wire_of_decode h
  rw [hbytes]
  refine encodeEnvelope_of_encodable ⟨hflags, ⟨_, hgenerationLe, hgeneration⟩,
    ⟨_, hstreamIdLe, hstreamId⟩, ?_, hempty, hpayload⟩ hgeneration hgenerationLe hstreamId hstreamIdLe
  rw [hstreamId]
  exact hcontrol

/-- The two functions are inverse to each other: every input that is encoded comes back, every frame
that is accepted is the encoding of what it was read as, and neither has a second form. -/
theorem envelope_codec :
    (∀ input bytes, encodeEnvelope input = .ok bytes →
      decodeEnvelope bytes = .ok { input with version := .ofNat PROTOCOL_VERSION }) ∧
    (∀ bytes envelope, decodeEnvelope bytes = .ok envelope →
      encodeEnvelope envelope.toEnvelopeInput = .ok bytes) ∧
    (∀ bytes, (∃ envelope, decodeEnvelope bytes = .ok envelope) ↔
      ∃ input, encodeEnvelope input = .ok bytes) ∧
    (∀ bytes bytes' envelope, decodeEnvelope bytes = .ok envelope →
      decodeEnvelope bytes' = .ok envelope → bytes = bytes') := by
  refine ⟨fun _ _ => decode_of_encode, fun _ _ => encode_of_decode, ?_, ?_⟩
  · intro bytes
    constructor
    · rintro ⟨envelope, h⟩
      exact ⟨_, encode_of_decode h⟩
    · rintro ⟨input, h⟩
      exact ⟨_, decode_of_encode h⟩
  · intro bytes bytes' envelope h h'
    exact Except.ok.inj ((encode_of_decode h).symm.trans (encode_of_decode h'))

def dataFrame : EnvelopeInput where
  type := .Data
  flags := .ofNat 0
  generation := .ofNat 7
  streamId := .ofNat 42
  payload := [0, 1, 127, 128, 255]

theorem envelope_codec_data : ∃ bytes, encodeEnvelope dataFrame = .ok bytes ∧
    decodeEnvelope bytes = .ok { dataFrame with version := .ofNat 1 } := by
  have hencode : encodeEnvelope dataFrame =
      .ok [0x52, 0x54, 1, 12, 0, 0, 0, 0, 0, 7, 0, 0, 0, 42, 0, 5, 0, 1, 127, 128, 255] := by
    decide +kernel
  exact ⟨_, hencode, envelope_codec.1 _ _ hencode⟩

end Lotur
