import Lotur.Gateway.Endpoint
import Lotur.Library.Execution
import Lotur.Relay.Ledger
import Lotur.Relay.Waiters

/-! The receive queue of one carrier from CONFIG_APPLIED to the loss of the transport, with the
flow windows it shares with the streams. An entry starts when the handler before it has returned;
the handlers that await `sendFlowControlledData` are those of the activation probe and of a 101
that came with a pending head. -/
namespace Lotur.Gateway

def MAX_PENDING_HEAD_BYTES : ℕ := 64 * 1024
def PROBE_NONCE_BYTES : ℕ := 32

/-- A `sendFlowControlledData` that the running handler awaits, with the bytes still to be
sent. -/
structure PendingSend where
  streamId : ℕ
  remaining : ℕ
  deriving DecidableEq, Repr

structure RelayProbe where
  streamId : ℕ
  receivedBytes : ℕ
  clientEnded : Bool
  deriving DecidableEq, Repr

inductive Activation where
  | configuring
  | probing (probe : RelayProbe)
  | active
  | lost
  deriving DecidableEq, Repr

/-- A message by what its handler does to the windows: PING, PONG and a repeated CONFIG_APPLIED
leave them alone, and `invalid` is a message whose handler throws before it gets to a stream. -/
inductive QueueEntry where
  | control
  | invalid
  | configApplied
  | frame (frame : StreamFrame)

/-- `pendingHead` has the bytes that came with each upgrade request. -/
structure ReceiveQueue where
  endpoint : Endpoint
  pendingHead : ℕ → ℕ
  activation : Activation
  entries : List QueueEntry
  handler : Option PendingSend
  receiveFailed : Bool

namespace ReceiveQueue

/-- The handler waits for credit of the transport's outbound window. -/
def isBlocked (q : ReceiveQueue) : Bool :=
  q.handler.any fun send => q.endpoint.outboundFlow.isWaiting send.streamId

/-- The handler throws, and the queue handles nothing more. -/
def fail (q : ReceiveQueue) : ReceiveQueue := { q with handler := none, receiveFailed := true }

/-- The first CONFIG_APPLIED; `accepted` tells whether it is the answer to the configuration. -/
def configApplied (q : ReceiveQueue) (accepted : Bool) : ReceiveQueue :=
  match q.activation, accepted with
  | .configuring, true =>
    match q.endpoint.streamIds.issue with
    | .error _ => q.fail
    | .ok (streamId, streamIds) =>
      match q.endpoint.outboundFlow.openStream streamId INITIAL_STREAM_WINDOW_BYTES,
          q.endpoint.inboundFlow.openStream streamId INITIAL_STREAM_WINDOW_BYTES with
      | .ok (outboundFlow, settled), .ok inboundFlow => { q with
          endpoint := { q.endpoint with
            streamIds
            outboundFlow
            inboundFlow
            grants := q.endpoint.grants ++ resolved settled }
          activation := .probing ⟨streamId, 0, false⟩
          handler := some ⟨streamId, PROBE_NONCE_BYTES⟩ }
      | _, _ => q.fail
  | _, _ => q

/-- DATA of the probe, with the WINDOW_UPDATE and the release it is answered with. -/
def probeData (q : ReceiveQueue) (probe : RelayProbe) (bytes : ℕ) : Except JsError ReceiveQueue :=
  match q.endpoint.inboundFlow.consume probe.streamId bytes with
  | .error error => .error error
  | .ok inboundFlow =>
    if probe.receivedBytes + bytes > PROBE_NONCE_BYTES then
      .error (.error "Relay probe payload is too large")
    else match inboundFlow.release probe.streamId bytes with
    | .error error => .error error
    | .ok inboundFlow => .ok { q with
        endpoint := { q.endpoint.sendWindowUpdate probe.streamId bytes with inboundFlow }
        activation := .probing { probe with receivedBytes := probe.receivedBytes + bytes } }

/-- END of the probe: both windows of the probe are closed and the session becomes ACTIVE. -/
def activate (q : ReceiveQueue) (streamId : ℕ) : Except JsError ReceiveQueue :=
  match q.endpoint.inboundFlow.closeStream streamId with
  | .error error => .error error
  | .ok inboundFlow => .ok { q with
      endpoint := { q.endpoint.closeOutbound streamId with inboundFlow }
      activation := .active }

/-- `accepted` tells whether the nonce came back and admission takes the tunnel. -/
def handleProbeFrame (q : ReceiveQueue) (probe : RelayProbe) (accepted : Bool)
    (frame : StreamFrame) : Except JsError ReceiveQueue :=
  if frame.streamId ≠ probe.streamId then .error (.error "application frame before SESSION_ACTIVE")
  else match frame.body with
  | .windowUpdate (.error error) => .error error
  | .windowUpdate (.ok bytes) =>
    match q.endpoint.acceptUpdate probe.streamId bytes with
    | .error fault => .error fault.error
    | .ok endpoint => .ok { q with endpoint }
  | .data bytes => q.probeData probe bytes
  | .endStream =>
    if probe.clientEnded then .error (.error "duplicate Relay probe END")
    else if accepted then q.activate probe.streamId
    else .ok { q with activation := .probing { probe with clientEnded := true } }
  | _ => .error (.error "unexpected activation frame")

/-- The head that a 101 leaves to be sent before its handler returns. -/
def startsSending (q : ReceiveQueue) (frame : StreamFrame) : Option PendingSend :=
  match frame.body with
  | .responseHeaders (.ok headers) =>
    if frame.streamId ∈ q.endpoint.streams ∧
        (q.endpoint.stream frame.streamId).kind = .websocket ∧ headers.statusCode = 101 ∧
        0 < q.pendingHead frame.streamId then
      some ⟨frame.streamId, q.pendingHead frame.streamId⟩
    else none
  | _ => none

def handleFrame (limits : Limits) (q : ReceiveQueue) (accepted : Bool) (frame : StreamFrame) :
    ReceiveQueue :=
  match q.activation with
  | .configuring | .lost => q.fail
  | .probing probe =>
    match q.handleProbeFrame probe accepted frame with
    | .error _ => q.fail
    | .ok q => q
  | .active =>
    match q.endpoint.handleClientFrame limits frame with
    | .error _ => q.fail
    | .ok endpoint => { q with endpoint, handler := q.startsSending frame }

/-- The next entry starts. -/
def dispatch (limits : Limits) (q : ReceiveQueue) (accepted : Bool) : Option ReceiveQueue :=
  if q.handler.isSome then none
  else match q.entries with
  | [] => none
  | entry :: entries =>
    let q := { q with entries }
    if q.receiveFailed then some q
    else some (match entry with
      | .control => q
      | .invalid => q.fail
      | .configApplied => q.configApplied accepted
      | .frame frame => q.handleFrame limits accepted frame)

/-- The handler's send has thrown: the probe fails the carrier, and a 101 resets its stream. -/
def handlerThrows (q : ReceiveQueue) (streamId : ℕ) : ReceiveQueue :=
  match q.activation with
  | .active =>
    if q.endpoint.isLive streamId then
      match q.endpoint.cancelAndReset streamId "RELAY_WRITE_FAILED" with
      | .error _ => q.fail
      | .ok endpoint => { q with endpoint, handler := none }
    else { q with handler := none }
  | _ => q.fail

/-- The next `take` of the handler's send. -/
def handlerTake (q : ReceiveQueue) : Option ReceiveQueue :=
  q.handler.bind fun send =>
    if send.remaining = 0 ∨ q.endpoint.isPumping send.streamId then none
    else match q.endpoint.take send.streamId (min MAX_DATA_CHUNK_BYTES send.remaining) with
    | some endpoint => some { q with endpoint }
    | none => some (q.handlerThrows send.streamId)

/-- The first granted chunk goes out, the handler's or another sender's. -/
def sendGranted (q : ReceiveQueue) : Option ReceiveQueue :=
  match q.endpoint.grants with
  | [] => none
  | (streamId, bytes) :: grants =>
    some { q with
      endpoint := { q.endpoint with grants }.send streamId (.data bytes)
      handler := q.handler.map fun send =>
        if send.streamId = streamId then { send with remaining := send.remaining - bytes }
        else send }

/-- The carrier refuses the chunk that was granted to the handler. -/
def handlerRefused (q : ReceiveQueue) : Option ReceiveQueue :=
  q.handler.bind fun send =>
    match q.endpoint.grants with
    | [] => none
    | (streamId, _) :: grants =>
      if send.streamId = streamId then
        some ({ q with endpoint := { q.endpoint with grants } }.handlerThrows streamId)
      else none

/-- The head or the nonce is sent, and the handler returns. -/
def handlerReturn (q : ReceiveQueue) : Option ReceiveQueue :=
  q.handler.bind fun send =>
    if send.remaining = 0 then some { q with handler := none } else none

/-- `handleReviewerRequest` and `handleReviewerUpgrade`; a longer head is answered with 413. -/
def openRequest (limits : Limits) (q : ReceiveQueue) (kind : StreamKind) (methodAllowsBody : Bool)
    (head : ℕ) : Option ReceiveQueue :=
  if q.activation ≠ .active ∨ head > MAX_PENDING_HEAD_BYTES then none
  else (q.endpoint.openStream limits kind methodAllowsBody).map fun endpoint => { q with
    endpoint
    pendingHead := Function.update q.pendingHead q.endpoint.streamIds.next head }

/-- Browser data is forwarded only after the handler of the 101 has returned. -/
def isForwarding (q : ReceiveQueue) : Endpoint.Event → Bool
  | .take streamId _ | .requestEnd streamId =>
    q.handler.any fun send => send.streamId = streamId
  | _ => false

/-- What the streams do outside the queue. -/
def streamEvent (limits : Limits) (q : ReceiveQueue) (event : Endpoint.Event) :
    Option ReceiveQueue :=
  match event with
  | .openStream _ _ | .sendGranted => none
  | event =>
    if q.activation ≠ .active ∨ q.isForwarding event then none
    else match q.endpoint.step limits event with
    | none => none
    | some (.error _) => some { q with receiveFailed := true }
    | some (.ok endpoint) => some { q with endpoint }

/-- `cleanup` and every other way a transport ends: its streams go, and the closed window rejects
all waiters. -/
def carrierLost (q : ReceiveQueue) : ReceiveQueue :=
  { q with
    endpoint := { q.endpoint with
      streams := ∅
      outboundFlow := q.endpoint.outboundFlow.close.1 }
    activation := .lost
    handler := none
    receiveFailed := true }

end ReceiveQueue

inductive QueueEvent where
  | receive (entry : QueueEntry)
  | dispatch (accepted : Bool)
  | handlerTake
  | handlerRefused
  | handlerReturn
  | sendGranted
  | openRequest (kind : StreamKind) (methodAllowsBody : Bool) (head : ℕ)
  | stream (event : Endpoint.Event)
  | carrierLost

def ReceiveQueue.step (limits : Limits) (q : ReceiveQueue) : QueueEvent → Option ReceiveQueue
  | .receive entry =>
    if q.receiveFailed then none else some { q with entries := q.entries ++ [entry] }
  | .dispatch accepted => q.dispatch limits accepted
  | .handlerTake => q.handlerTake
  | .handlerRefused => q.handlerRefused
  | .handlerReturn => q.handlerReturn
  | .sendGranted => q.sendGranted
  | .openRequest kind methodAllowsBody head => q.openRequest limits kind methodAllowsBody head
  | .stream event => q.streamEvent limits event
  | .carrierLost => some q.carrierLost

/-- A transport that a HELLO has just installed, for a new session or for a resume. -/
def ReceiveQueue.start (maxPendingCarrierFrames : ℕ) : ReceiveQueue where
  endpoint :=
    { streamIds := .new
      streams := ∅
      stream := fun _ => .absent
      outboundFlow := .new INITIAL_CONNECTION_WINDOW_BYTES
      inboundFlow := .new INITIAL_CONNECTION_WINDOW_BYTES maxPendingCarrierFrames
      grants := []
      crediting := ∅
      endSends := ∅
      outbox := [] }
  pendingHead := fun _ => 0
  activation := .configuring
  entries := []
  handler := none
  receiveFailed := false

end Lotur.Gateway
