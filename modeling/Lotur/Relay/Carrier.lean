import Lotur.Protocol.Envelope

/-! `sendCarrierFrame` of `packages/relay/src/carrier.ts`: when a frame is handed to the
carrier socket and when it is refused. -/
namespace Lotur

def MAX_DATA_CHUNK_BYTES : ℕ := 32 * 1024
def MAX_CARRIER_BUFFERED_BYTES : ℕ := 1024 * 1024
def INITIAL_STREAM_WINDOW_BYTES : ℕ := 64 * 1024
def INITIAL_CONNECTION_WINDOW_BYTES : ℕ := 256 * 1024

/-- What `sendCarrierFrame` sees of the socket: `isOpen` is `readyState === 1`, which never
comes back once lost. -/
structure CarrierSocket where
  isOpen : Bool
  bufferedAmount : ℕ
  deriving DecidableEq, Repr

namespace CarrierSocket

/-- A frame with this payload can be encoded and stays within the buffered-byte limit. -/
def Fits (socket : CarrierSocket) (payloadBytes : ℕ) : Prop :=
  payloadBytes ≤ MAX_ENVELOPE_PAYLOAD_BYTES ∧
    socket.bufferedAmount + (HEADER_BYTES + payloadBytes) ≤ MAX_CARRIER_BUFFERED_BYTES

instance (socket : CarrierSocket) (payloadBytes : ℕ) : Decidable (socket.Fits payloadBytes) :=
  inferInstanceAs (Decidable (_ ∧ _))

/-- The frame of an accepted send is queued behind what the socket already buffers. -/
def sendCarrierFrame (socket : CarrierSocket) (payloadBytes : ℕ) :
    Except JsError CarrierSocket :=
  if !socket.isOpen then .error (.error "Carrier is not open")
  else if payloadBytes > MAX_ENVELOPE_PAYLOAD_BYTES then
    .error (.rangeError "payload exceeds 65535 byte envelope limit")
  else if socket.bufferedAmount + (HEADER_BYTES + payloadBytes) > MAX_CARRIER_BUFFERED_BYTES then
    .error (.error "Carrier buffered byte limit exceeded")
  else .ok { socket with bufferedAmount := socket.bufferedAmount + (HEADER_BYTES + payloadBytes) }

theorem sendCarrierFrame_ok {socket after : CarrierSocket} {payloadBytes : ℕ}
    (h : socket.sendCarrierFrame payloadBytes = .ok after) :
    socket.isOpen = true ∧ after.isOpen = true := by
  unfold sendCarrierFrame at h
  split_ifs at h with hopen
  cases h
  simp only [Bool.not_eq_true', Bool.not_eq_false] at hopen
  exact ⟨hopen, hopen⟩

theorem sendCarrierFrame_error {socket : CarrierSocket} {payloadBytes : ℕ} {error : JsError}
    (h : socket.sendCarrierFrame payloadBytes = .error error) :
    socket.isOpen = false ∨ ¬ socket.Fits payloadBytes := by
  unfold sendCarrierFrame at h
  split_ifs at h with hopen hpayload hbuffer
  · exact Or.inl (by simpa using hopen)
  · exact Or.inr fun hfits => by have := hfits.1; omega
  · exact Or.inr fun hfits => by have := hfits.2; omega

end CarrierSocket

end Lotur
