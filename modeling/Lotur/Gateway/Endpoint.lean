import Lotur.Relay.Carrier
import Lotur.Relay.Frames

/-! The gateway's end of an active carrier with all its streams: admission and opening,
`handleClientFrame`, the downstream queues, and the callbacks of reviewer requests and sockets.
The session stays on one transport, so a stream is current while it is in the map. -/
namespace Lotur.Gateway

structure Limits where
  maxConcurrentStreams : ℕ
  maxFiniteResponseBytes : ℕ
  deriving DecidableEq, Repr

def MAX_PENDING_DOWNSTREAM_FRAMES : ℕ := 1024

/-- The fields of `GatewayHttpStream` and `GatewayWebSocketStream`. Of an upgraded stream
`requestEnded` is `browserEnded`, `responseStarted` stands for itself, `responseEnded` is
`localEnded` and `responseFinished` is `localFinished`. `methodAllowsBody` is false for HEAD. -/
structure GatewayStream where
  kind : StreamKind
  methodAllowsBody : Bool
  requestEnded : Bool
  responseStarted : Bool
  responseEnded : Bool
  responseFinished : Bool
  upgraded : Bool
  responseBytes : ℕ
  finiteResponse : Bool
  responseBodyAllowed : Bool
  downstreamQueuedFrames : ℕ
  downstreamQueue : List Operation
  cancelled : Bool
  deriving DecidableEq, Repr

def GatewayStream.opened (kind : StreamKind) (methodAllowsBody : Bool) : GatewayStream where
  kind := kind
  methodAllowsBody := methodAllowsBody
  requestEnded := false
  responseStarted := false
  responseEnded := false
  responseFinished := false
  upgraded := false
  responseBytes := 0
  finiteResponse := false
  responseBodyAllowed := false
  downstreamQueuedFrames := 0
  downstreamQueue := []
  cancelled := false

/-- The condition of `maybeDeleteStream` and of the two places that remove an upgraded stream:
one that was answered without an upgrade has no browser side to wait for. -/
def GatewayStream.isFinished (stream : GatewayStream) : Bool :=
  stream.responseFinished &&
    (stream.requestEnded || (stream.kind = .websocket && !stream.upgraded))

def responseCanHaveBody (methodAllowsBody : Bool) (statusCode : ℕ) : Bool :=
  methodAllowsBody && !(100 ≤ statusCode && statusCode < 200) && statusCode ≠ 204 &&
    statusCode ≠ 304

def isFiniteHttpResponse (headers : ResponseHeaders) : Bool :=
  !headers.eventStream && headers.declaredResponseBytes.isSome

/-- `grants`, `crediting`, `endSends` and `outbox` are those of the client's endpoint, for the
other direction. -/
structure Endpoint where
  streamIds : GatewayStreamIds
  streams : Finset ℕ
  stream : ℕ → GatewayStream
  outboundFlow : OutboundFlowWindow
  inboundFlow : GatewayInboundFlow
  grants : List (ℕ × ℕ)
  crediting : Finset ℕ
  endSends : Finset ℕ
  outbox : List StreamFrame

/-- An id that was never issued has a record that no callback holds. -/
def GatewayStream.absent : GatewayStream :=
  { GatewayStream.opened .http true with cancelled := true }

namespace Endpoint

def setStream (e : Endpoint) (streamId : ℕ) (stream : GatewayStream) : Endpoint :=
  { e with stream := Function.update e.stream streamId stream }

def send (e : Endpoint) (streamId : ℕ) (body : FrameBody) : Endpoint :=
  { e with outbox := e.outbox ++ [⟨streamId, body⟩] }

def closeOutbound (e : Endpoint) (streamId : ℕ) : Endpoint :=
  let (outboundFlow, settled) := e.outboundFlow.closeStream streamId
  { e with outboundFlow, grants := e.grants ++ resolved settled }

inductive RetirementKind where
  | localReset
  | normal
  deriving DecidableEq, Repr

/-- `removeGatewayStream` of a stream that is in the map, followed by closing its outbound
window as all callers do. -/
def remove (e : Endpoint) (streamId : ℕ) (retirement : RetirementKind) : Except Fault Endpoint :=
  let closed := match retirement with
    | .localReset => e.inboundFlow.retireStream streamId
    | .normal => e.inboundFlow.closeStream streamId
  match closed with
  | .error error => .error (.thrown error)
  | .ok inboundFlow => .ok ({ e with
      streams := e.streams.erase streamId
      inboundFlow }.closeOutbound streamId)

def setCancelled (e : Endpoint) (streamId : ℕ) : Endpoint :=
  e.setStream streamId { e.stream streamId with cancelled := true }

/-- The local error paths of a current stream. -/
def cancelAndReset (e : Endpoint) (streamId : ℕ) (code : String) : Except Fault Endpoint :=
  match (e.setCancelled streamId).remove streamId .localReset with
  | .error fault => .error fault
  | .ok e => .ok (e.send streamId (.resetStream (.ok code)))

def maybeDeleteStream (e : Endpoint) (streamId : ℕ) : Except Fault Endpoint :=
  if (e.stream streamId).isFinished then e.remove streamId .normal else .ok e

/-- What `prepareOpenRequest` puts into OPEN_HTTP. -/
def openMetadata (kind : StreamKind) : OpenHttpMetadata where
  kind := kind
  requestBodyEnded := kind = .websocket
  initialWindowBytes := INITIAL_STREAM_WINDOW_BYTES
  requestable := true

/-- `handleReviewerRequest` and `handleReviewerUpgrade` up to the send of OPEN_HTTP; `none` when
the request is refused, by `admitStream` or because the ids are used up. -/
def openStream (limits : Limits) (e : Endpoint) (kind : StreamKind) (methodAllowsBody : Bool) :
    Option Endpoint :=
  if e.streams.card ≥ limits.maxConcurrentStreams then none
  else match e.streamIds.issue with
  | .error _ => none
  | .ok (streamId, streamIds) =>
    match e.outboundFlow.openStream streamId INITIAL_STREAM_WINDOW_BYTES with
    | .error _ => none
    | .ok (outboundFlow, settled) =>
      match e.inboundFlow.openStream streamId INITIAL_STREAM_WINDOW_BYTES with
      | .error _ => none
      | .ok inboundFlow => some ({ e with
          streamIds
          streams := insert streamId e.streams
          stream := Function.update e.stream streamId (.opened kind methodAllowsBody)
          outboundFlow
          inboundFlow
          grants := e.grants ++ resolved settled }.send streamId
            (.openHttp (.ok (openMetadata kind))))

def validateRetiredClientFrame (inboundFlow : GatewayInboundFlow) (frame : StreamFrame) :
    Except JsError GatewayInboundFlow :=
  match frame.body with
  | .responseHeaders metadata => metadata.map fun _ => inboundFlow
  | .data bytes =>
    if bytes = 0 then .error (.error "inbound DATA payload must not be empty")
    else inboundFlow.consumeRetiredData frame.streamId bytes
  | .endStream => .ok inboundFlow
  | .windowUpdate bytes => bytes.map fun _ => inboundFlow
  | .resetStream code => code.map fun _ => inboundFlow
  | body => let type := body.type
    .error (.error s!"unexpected retired client frame type {type}")

/-- RESPONSE_HEADERS of an HTTP stream. -/
def acceptHttpHeaders (limits : Limits) (e : Endpoint) (streamId : ℕ)
    (headers : ResponseHeaders) : Except Fault Endpoint :=
  let stream := e.stream streamId
  let responseBodyAllowed := responseCanHaveBody stream.methodAllowsBody headers.statusCode
  let finiteResponse := responseBodyAllowed && isFiniteHttpResponse headers
  let stream := { stream with responseBodyAllowed, finiteResponse }
  if finiteResponse ∧ headers.declaredResponseBytes.any fun bytes =>
      bytes > limits.maxFiniteResponseBytes then
    (e.setStream streamId stream).cancelAndReset streamId "UPSTREAM_RESPONSE_TOO_LARGE"
  else .ok (e.setStream streamId { stream with responseStarted := true })

def acceptHeaders (limits : Limits) (e : Endpoint) (streamId : ℕ)
    (metadata : Except JsError ResponseHeaders) : Except Fault Endpoint :=
  if (e.stream streamId).responseStarted then
    .error (.thrown (.error "duplicate response headers"))
  else match metadata with
  | .error error => .error (.thrown error)
  | .ok headers =>
    match (e.stream streamId).kind with
    | .http => e.acceptHttpHeaders limits streamId headers
    | .websocket => .ok (e.setStream streamId { e.stream streamId with
        responseStarted := true
        upgraded := headers.statusCode = 101 })

/-- The checks that stand before `reserveInboundChunk`. -/
def refusal (stream : GatewayStream) : Option JsError :=
  if !stream.responseStarted then some (.error "DATA before response headers")
  else if stream.responseEnded then
    some (.error (match stream.kind with
      | .http => "DATA after response END"
      | .websocket => "DATA after WebSocket response END"))
  else if stream.kind = .http ∧ !stream.responseBodyAllowed then
    some (.error "DATA is forbidden for this response")
  else none

def reserveInboundChunk (e : Endpoint) (streamId bytes : ℕ) : Except Fault Endpoint :=
  let stream := e.stream streamId
  if bytes = 0 then .error (.thrown (.error "inbound DATA payload must not be empty"))
  else if stream.downstreamQueuedFrames ≥ MAX_PENDING_DOWNSTREAM_FRAMES then
    .error (.thrown (.error "inbound DATA frame queue exceeds configured bound"))
  else match e.inboundFlow.consume streamId bytes with
  | .error error => .error ⟨error, true⟩
  | .ok inboundFlow => .ok { e.setStream streamId { stream with
      downstreamQueuedFrames := stream.downstreamQueuedFrames + 1 } with inboundFlow }

def enqueue (e : Endpoint) (streamId : ℕ) (operation : Operation) : Endpoint :=
  e.setStream streamId { e.stream streamId with
    downstreamQueue := (e.stream streamId).downstreamQueue ++ [operation] }

def acceptData (limits : Limits) (e : Endpoint) (streamId bytes : ℕ) : Except Fault Endpoint :=
  match refusal (e.stream streamId) with
  | some error => .error (.thrown error)
  | none =>
    match e.reserveInboundChunk streamId bytes with
    | .error fault => .error fault
    | .ok e =>
      let stream := e.stream streamId
      if stream.kind = .websocket then .ok (e.enqueue streamId (.data bytes))
      else
        let stream := { stream with responseBytes := stream.responseBytes + bytes }
        if stream.finiteResponse ∧ stream.responseBytes > limits.maxFiniteResponseBytes then
          (e.setStream streamId stream).cancelAndReset streamId "UPSTREAM_RESPONSE_TOO_LARGE"
        else .ok ((e.setStream streamId stream).enqueue streamId (.data bytes))

def acceptEnd (e : Endpoint) (streamId : ℕ) : Except Fault Endpoint :=
  let stream := e.stream streamId
  if !stream.responseStarted then .error (.thrown (.error "END before response headers"))
  else if stream.responseEnded then .error (.thrown (.error (match stream.kind with
    | .http => "duplicate response END"
    | .websocket => "duplicate WebSocket response END")))
  else .ok ((e.setStream streamId { stream with responseEnded := true }).enqueue streamId
    .endStream)

def acceptUpdate (e : Endpoint) (streamId bytes : ℕ) : Except Fault Endpoint :=
  match e.outboundFlow.update streamId bytes with
  | .error error => .error (.thrown error)
  | .ok (outboundFlow, settled) =>
    .ok { e with outboundFlow, grants := e.grants ++ resolved settled }

def acceptActive (limits : Limits) (e : Endpoint) (frame : StreamFrame) : Except Fault Endpoint :=
  match frame.body with
  | .windowUpdate (.error error) => .error (.thrown error)
  | .windowUpdate (.ok bytes) => e.acceptUpdate frame.streamId bytes
  | .responseHeaders metadata => e.acceptHeaders limits frame.streamId metadata
  | .data bytes => e.acceptData limits frame.streamId bytes
  | .endStream => e.acceptEnd frame.streamId
  | .resetStream (.error error) => .error (.thrown error)
  | .resetStream (.ok _) => (e.setCancelled frame.streamId).remove frame.streamId .normal
  | body =>
    let type := body.type
    .error (.thrown (.error (match (e.stream frame.streamId).kind with
      | .http => s!"unexpected client frame type {type}"
      | .websocket => s!"unexpected WebSocket client frame type {type}")))

/-- After activation there is no probe to tell apart from retired streams. -/
def handleClientFrame (limits : Limits) (e : Endpoint) (frame : StreamFrame) :
    Except Fault Endpoint :=
  if e.streamIds.wasIssued frame.streamId ∧ frame.streamId ∉ e.streams then
    match validateRetiredClientFrame e.inboundFlow frame with
    | .error error => .error (.thrown error)
    | .ok inboundFlow => .ok { e with inboundFlow }
  else if frame.streamId ∉ e.streams ∨ (e.stream frame.streamId).cancelled then
    let streamId := frame.streamId
    .error (.thrown (.error s!"frame for unknown or retired stream {streamId}"))
  else e.acceptActive limits frame

def isPumping (e : Endpoint) (streamId : ℕ) : Bool :=
  e.outboundFlow.isWaiting streamId || e.grants.any fun grant => grant.1 = streamId

/-- The request side of the stream is open and no `sendFlowControlledData` is under way; an
upgrade request sends nothing before the upgrade. -/
def canPump (e : Endpoint) (streamId : ℕ) : Bool :=
  streamId ∈ e.streams && !(e.stream streamId).cancelled && !(e.stream streamId).requestEnded &&
    ((e.stream streamId).kind = .http || (e.stream streamId).upgraded) && !e.isPumping streamId

/-- `isCurrentGatewayStream` and not cancelled. -/
def isLive (e : Endpoint) (streamId : ℕ) : Bool :=
  streamId ∈ e.streams && !(e.stream streamId).cancelled

def sendWindowUpdate (e : Endpoint) (streamId bytes : ℕ) : Endpoint :=
  e.send streamId (.windowUpdate (.ok bytes))

def popOperation (e : Endpoint) (streamId : ℕ) (rest : List Operation) : Endpoint :=
  e.setStream streamId { e.stream streamId with downstreamQueue := rest }

/-- The end of a DATA operation; its catch is `failBufferedDownstream`. -/
def release (e : Endpoint) (streamId bytes : ℕ) : Except Fault Endpoint :=
  match e.inboundFlow.release streamId bytes with
  | .error _ => e.cancelAndReset streamId "DOWNSTREAM_WRITE_FAILED"
  | .ok inboundFlow => .ok { e.setStream streamId { e.stream streamId with
      downstreamQueuedFrames := (e.stream streamId).downstreamQueuedFrames - 1 } with inboundFlow }

def runEnd (e : Endpoint) (streamId : ℕ) : Except Fault Endpoint :=
  if e.isLive streamId then
    (e.setStream streamId { e.stream streamId with responseFinished := true }).maybeDeleteStream
      streamId
  else .ok e

/-- The first operation of the downstream queue from its start to its end, the WINDOW_UPDATE
and the release it stands for in one. -/
def runOperation (e : Endpoint) (streamId : ℕ) : Option (Except Fault Endpoint) :=
  if streamId ∈ e.crediting then none
  else match (e.stream streamId).downstreamQueue with
  | [] => none
  | .data bytes :: rest =>
    let e := e.popOperation streamId rest
    some (if e.isLive streamId then (e.sendWindowUpdate streamId bytes).release streamId bytes
      else .ok e)
  | .endStream :: rest => some ((e.popOperation streamId rest).runEnd streamId)

/-- The first operation up to the send of its WINDOW_UPDATE. -/
def announce (e : Endpoint) (streamId : ℕ) : Option Endpoint :=
  if streamId ∈ e.crediting then none
  else match (e.stream streamId).downstreamQueue with
  | .data bytes :: rest =>
    some (if e.isLive streamId then { e.sendWindowUpdate streamId bytes with
        crediting := insert streamId e.crediting }
      else e.popOperation streamId rest)
  | _ => none

/-- The rest of that operation, when the send has completed. -/
def announced (e : Endpoint) (streamId : ℕ) : Option (Except Fault Endpoint) :=
  match (e.stream streamId).downstreamQueue with
  | .data bytes :: rest =>
    if streamId ∈ e.crediting then
      let e := { e.popOperation streamId rest with crediting := e.crediting.erase streamId }
      some (if streamId ∈ e.streams then e.release streamId bytes else .ok e)
    else none
  | _ => none

def endSent (e : Endpoint) (streamId : ℕ) : Except Fault Endpoint :=
  let e := { e with endSends := e.endSends.erase streamId }
  if streamId ∈ e.streams then e.maybeDeleteStream streamId else .ok e

def take (e : Endpoint) (streamId maximumBytes : ℕ) : Option Endpoint :=
  match e.outboundFlow.take streamId maximumBytes with
  | .error _ => none
  | .ok (outboundFlow, settled) =>
    some { e with outboundFlow, grants := e.grants ++ resolved settled }

end Endpoint

/-- What happens at the gateway apart from frames: reviewer requests and upgrades, the `take`
and DATA of `sendFlowControlledData`, completions of sends, queued operations, and the timers
and error events that reset a stream. -/
inductive Endpoint.Event where
  | openStream (kind : StreamKind) (methodAllowsBody : Bool)
  | take (streamId maximumBytes : ℕ)
  | sendGranted
  | requestEnd (streamId : ℕ)
  | endSent (streamId : ℕ)
  | localReset (streamId : ℕ) (code : String)
  | operation (streamId : ℕ)
  | announce (streamId : ℕ)
  | announced (streamId : ℕ)

def Endpoint.step (limits : Limits) (e : Endpoint) : Event → Option (Except Fault Endpoint)
  | .openStream kind methodAllowsBody => (e.openStream limits kind methodAllowsBody).map .ok
  | .take streamId maximumBytes =>
    if e.canPump streamId ∧ maximumBytes ≤ MAX_DATA_CHUNK_BYTES then
      (e.take streamId maximumBytes).map .ok
    else none
  | .sendGranted =>
    match e.grants with
    | [] => none
    | (streamId, bytes) :: grants =>
      some (.ok ({ e with grants }.send streamId (.data bytes)))
  | .requestEnd streamId =>
    if e.canPump streamId then
      some (.ok { (e.setStream streamId { e.stream streamId with requestEnded := true }).send
        streamId .endStream with endSends := insert streamId e.endSends })
    else none
  | .endSent streamId => if streamId ∈ e.endSends then some (e.endSent streamId) else none
  | .localReset streamId code =>
    if e.isLive streamId then some (e.cancelAndReset streamId code) else none
  | .operation streamId => e.runOperation streamId
  | .announce streamId => (e.announce streamId).map .ok
  | .announced streamId => e.announced streamId

/-! What each function can do, for the proofs that follow an endpoint through its events. -/

/-- Two records of a stream that agree on what its queue holds. -/
structure GatewayStream.SameQueue (stream other : GatewayStream) : Prop where
  cancelled : stream.cancelled = other.cancelled
  queue : stream.downstreamQueue = other.downstreamQueue
  queuedFrames : stream.downstreamQueuedFrames = other.downstreamQueuedFrames

namespace Endpoint

variable {e e' : Endpoint} {streamId bytes : ℕ}

theorem remove_ok {retirement : RetirementKind} (h : e.remove streamId retirement = .ok e') :
    ∃ inboundFlow, (match retirement with
        | .localReset => e.inboundFlow.retireStream streamId
        | .normal => e.inboundFlow.closeStream streamId) = .ok inboundFlow ∧
      e' = ({ e with
        streams := e.streams.erase streamId
        inboundFlow } : Endpoint).closeOutbound streamId := by
  unfold remove at h
  dsimp only at h
  split at h
  · cases h
  · rename_i inboundFlow hclosed
    cases h
    exact ⟨inboundFlow, hclosed, rfl⟩

theorem cancelAndReset_ok {code : String} (h : e.cancelAndReset streamId code = .ok e') :
    ∃ removed, (e.setCancelled streamId).remove streamId .localReset = .ok removed ∧
      e' = removed.send streamId (.resetStream (.ok code)) := by
  unfold cancelAndReset at h
  split at h
  · cases h
  · rename_i removed hremoved
    cases h
    exact ⟨removed, hremoved, rfl⟩

theorem maybeDeleteStream_ok (h : e.maybeDeleteStream streamId = .ok e') :
    ((e.stream streamId).isFinished = true ∧ e.remove streamId .normal = .ok e') ∨ e' = e := by
  unfold maybeDeleteStream at h
  split at h
  · rename_i hfinished
    exact Or.inl ⟨hfinished, h⟩
  · cases h
    exact Or.inr rfl

theorem openStream_some {limits : Limits} {kind : StreamKind} {methodAllowsBody : Bool}
    (h : e.openStream limits kind methodAllowsBody = some e') :
    e.streams.card < limits.maxConcurrentStreams ∧
      ∃ streamId streamIds outboundFlow settled inboundFlow,
        e.streamIds.issue = .ok (streamId, streamIds) ∧
        e.outboundFlow.openStream streamId INITIAL_STREAM_WINDOW_BYTES =
          .ok (outboundFlow, settled) ∧
        e.inboundFlow.openStream streamId INITIAL_STREAM_WINDOW_BYTES = .ok inboundFlow ∧
        e' = ({ e with
          streamIds
          streams := insert streamId e.streams
          stream := Function.update e.stream streamId (.opened kind methodAllowsBody)
          outboundFlow
          inboundFlow
          grants := e.grants ++ resolved settled } : Endpoint).send streamId
            (.openHttp (.ok (openMetadata kind))) := by
  unfold openStream at h
  split at h
  · cases h
  · rename_i hroom
    refine ⟨by omega, ?_⟩
    split at h
    · cases h
    · rename_i streamId streamIds hissue
      split at h
      · cases h
      · rename_i outboundFlow settled houtbound
        split at h
        · cases h
        · rename_i inboundFlow hinbound
          cases h
          exact ⟨streamId, streamIds, outboundFlow, settled, inboundFlow, hissue, houtbound,
            hinbound, rfl⟩

theorem take_some {maximumBytes : ℕ} (h : e.take streamId maximumBytes = some e') :
    ∃ outboundFlow settled,
      e.outboundFlow.take streamId maximumBytes = .ok (outboundFlow, settled) ∧
      e' = { e with outboundFlow, grants := e.grants ++ resolved settled } := by
  unfold take at h
  split at h
  · cases h
  · rename_i outboundFlow settled htake
    cases h
    exact ⟨outboundFlow, settled, htake, rfl⟩

theorem release_ok (h : e.release streamId bytes = .ok e') :
    (∃ inboundFlow, e.inboundFlow.release streamId bytes = .ok inboundFlow ∧
        e' = { e.setStream streamId { e.stream streamId with
          downstreamQueuedFrames := (e.stream streamId).downstreamQueuedFrames - 1 } with
            inboundFlow }) ∨
      e.cancelAndReset streamId "DOWNSTREAM_WRITE_FAILED" = .ok e' := by
  unfold release at h
  split at h
  · exact Or.inr h
  · rename_i inboundFlow hrelease
    cases h
    exact Or.inl ⟨inboundFlow, hrelease, rfl⟩

theorem runEnd_ok (h : e.runEnd streamId = .ok e') :
    e' = e ∨ (e.isLive streamId = true ∧
      (e.setStream streamId { e.stream streamId with
        responseFinished := true }).maybeDeleteStream streamId = .ok e') := by
  unfold runEnd at h
  split at h
  · rename_i hlive
    exact Or.inr ⟨hlive, h⟩
  · cases h
    exact Or.inl rfl

theorem runOperation_ok (h : e.runOperation streamId = some (.ok e')) :
    streamId ∉ e.crediting ∧
      ((∃ bytes rest, (e.stream streamId).downstreamQueue = .data bytes :: rest ∧
          (((e.popOperation streamId rest).isLive streamId = false ∧
            e' = e.popOperation streamId rest) ∨
          ((e.popOperation streamId rest).isLive streamId = true ∧
            ((e.popOperation streamId rest).sendWindowUpdate streamId bytes).release
              streamId bytes = .ok e'))) ∨
        ∃ rest, (e.stream streamId).downstreamQueue = .endStream :: rest ∧
          (e.popOperation streamId rest).runEnd streamId = .ok e') := by
  unfold runOperation at h
  split at h
  · cases h
  · rename_i hidle
    refine ⟨hidle, ?_⟩
    split at h
    · cases h
    · rename_i bytes rest hqueue
      refine Or.inl ⟨bytes, rest, hqueue, ?_⟩
      simp only [Option.some.injEq] at h
      split at h
      · rename_i hlive
        exact Or.inr ⟨hlive, h⟩
      · rename_i hgone
        cases h
        exact Or.inl ⟨by simpa using hgone, rfl⟩
    · rename_i rest hqueue
      exact Or.inr ⟨rest, hqueue, Option.some.inj h⟩

theorem announce_some (h : e.announce streamId = some e') :
    streamId ∉ e.crediting ∧
      ∃ bytes rest, (e.stream streamId).downstreamQueue = .data bytes :: rest ∧
        ((e.isLive streamId = true ∧ e' = { e.sendWindowUpdate streamId bytes with
            crediting := insert streamId e.crediting }) ∨
          (e.isLive streamId = false ∧ e' = e.popOperation streamId rest)) := by
  unfold announce at h
  split at h
  · cases h
  · rename_i hidle
    refine ⟨hidle, ?_⟩
    split at h
    · rename_i bytes rest hqueue
      refine ⟨bytes, rest, hqueue, ?_⟩
      simp only [Option.some.injEq] at h
      split at h
      · rename_i hlive
        exact Or.inl ⟨hlive, h.symm⟩
      · rename_i hgone
        exact Or.inr ⟨by simpa using hgone, h.symm⟩
    · cases h

theorem announced_ok (h : e.announced streamId = some (.ok e')) :
    streamId ∈ e.crediting ∧
      ∃ bytes rest, (e.stream streamId).downstreamQueue = .data bytes :: rest ∧
        ((streamId ∈ e.streams ∧ ({ e.popOperation streamId rest with
            crediting := e.crediting.erase streamId } : Endpoint).release streamId bytes = .ok e') ∨
          (streamId ∉ e.streams ∧ e' = { e.popOperation streamId rest with
            crediting := e.crediting.erase streamId })) := by
  unfold announced at h
  split at h
  · rename_i bytes rest hqueue
    split at h
    · rename_i hcrediting
      refine ⟨hcrediting, bytes, rest, hqueue, ?_⟩
      have hstreams : (e.popOperation streamId rest).streams = e.streams := rfl
      simp only [Option.some.injEq, hstreams] at h
      split at h
      · rename_i hcurrent
        exact Or.inl ⟨hcurrent, h⟩
      · rename_i hgone
        cases h
        exact Or.inr ⟨hgone, rfl⟩
    · cases h
  · cases h

theorem endSent_ok (h : e.endSent streamId = .ok e') :
    e' = { e with endSends := e.endSends.erase streamId } ∨
      (streamId ∈ e.streams ∧ ({ e with
        endSends := e.endSends.erase streamId } : Endpoint).maybeDeleteStream streamId =
          .ok e') := by
  unfold endSent at h
  dsimp only at h
  split at h
  · rename_i hcurrent
    exact Or.inr ⟨hcurrent, h⟩
  · cases h
    exact Or.inl rfl

theorem acceptUpdate_ok (h : e.acceptUpdate streamId bytes = .ok e') :
    ∃ outboundFlow settled,
      e.outboundFlow.update streamId bytes = .ok (outboundFlow, settled) ∧
      e' = { e with outboundFlow, grants := e.grants ++ resolved settled } := by
  unfold acceptUpdate at h
  split at h
  · cases h
  · rename_i outboundFlow settled hupdate
    cases h
    exact ⟨outboundFlow, settled, hupdate, rfl⟩

/-- Headers only change the record, or lead to a local reset. -/
theorem acceptHeaders_ok {limits : Limits} {metadata : Except JsError ResponseHeaders}
    (h : e.acceptHeaders limits streamId metadata = .ok e') :
    ∃ stream, (e' = e.setStream streamId stream ∨
        (e.setStream streamId stream).cancelAndReset streamId "UPSTREAM_RESPONSE_TOO_LARGE" =
          .ok e') ∧ stream.SameQueue (e.stream streamId) := by
  unfold acceptHeaders at h
  split at h
  · cases h
  · split at h
    · cases h
    · split at h
      · unfold acceptHttpHeaders at h
        dsimp only at h
        split at h
        · exact ⟨_, Or.inr h, rfl, rfl, rfl⟩
        · cases h
          exact ⟨_, Or.inl rfl, rfl, rfl, rfl⟩
      · cases h
        exact ⟨_, Or.inl rfl, rfl, rfl, rfl⟩

theorem reserveInboundChunk_ok (h : e.reserveInboundChunk streamId bytes = .ok e') :
    (e.stream streamId).downstreamQueuedFrames < MAX_PENDING_DOWNSTREAM_FRAMES ∧
      ∃ inboundFlow, e.inboundFlow.consume streamId bytes = .ok inboundFlow ∧
        e' = { e.setStream streamId { e.stream streamId with
          downstreamQueuedFrames := (e.stream streamId).downstreamQueuedFrames + 1 } with
            inboundFlow } := by
  unfold reserveInboundChunk at h
  dsimp only at h
  split at h
  · cases h
  · split at h
    · cases h
    · rename_i hroom
      refine ⟨by omega, ?_⟩
      split at h
      · cases h
      · rename_i inboundFlow hconsume
        cases h
        exact ⟨inboundFlow, hconsume, rfl⟩

/-- DATA is charged and queued, or charged and answered by a local reset. -/
theorem acceptData_ok {limits : Limits} (h : e.acceptData limits streamId bytes = .ok e') :
    ∃ reserved stream, e.reserveInboundChunk streamId bytes = .ok reserved ∧
      (e' = (reserved.setStream streamId stream).enqueue streamId (.data bytes) ∨
        (reserved.setStream streamId stream).cancelAndReset streamId
          "UPSTREAM_RESPONSE_TOO_LARGE" = .ok e') ∧
      stream.SameQueue (reserved.stream streamId) := by
  unfold acceptData at h
  split at h
  · cases h
  · split at h
    · cases h
    · rename_i reserved hreserved
      dsimp only at h
      split at h
      · cases h
        refine ⟨reserved, reserved.stream streamId, hreserved, Or.inl ?_, rfl, rfl, rfl⟩
        simp [setStream]
      · split at h
        · exact ⟨reserved, _, hreserved, Or.inr h, rfl, rfl, rfl⟩
        · cases h
          exact ⟨reserved, _, hreserved, Or.inl rfl, rfl, rfl, rfl⟩

theorem acceptEnd_ok (h : e.acceptEnd streamId = .ok e') :
    e' = (e.setStream streamId { e.stream streamId with responseEnded := true }).enqueue streamId
      .endStream := by
  unfold acceptEnd at h
  dsimp only at h
  split at h
  · cases h
  · split at h
    · cases h
    · cases h
      rfl

theorem handleClientFrame_ok {limits : Limits} {frame : StreamFrame}
    (h : e.handleClientFrame limits frame = .ok e') :
    (e.streamIds.wasIssued frame.streamId = true ∧ frame.streamId ∉ e.streams ∧
        ∃ inboundFlow, validateRetiredClientFrame e.inboundFlow frame = .ok inboundFlow ∧
          e' = { e with inboundFlow }) ∨
      (frame.streamId ∈ e.streams ∧ (e.stream frame.streamId).cancelled = false ∧
        e.acceptActive limits frame = .ok e') := by
  unfold handleClientFrame at h
  split at h
  · rename_i hretired
    split at h
    · cases h
    · rename_i inboundFlow hvalid
      cases h
      exact Or.inl ⟨hretired.1, hretired.2, inboundFlow, hvalid, rfl⟩
  · split at h
    · cases h
    · rename_i hlive
      simp only [not_or, not_not, Bool.not_eq_true] at hlive
      exact Or.inr ⟨hlive.1, hlive.2, h⟩

theorem sendGranted_ok {limits : Limits} (h : e.step limits .sendGranted = some (.ok e')) :
    ∃ streamId bytes grants, e.grants = (streamId, bytes) :: grants ∧
      e' = ({ e with grants } : Endpoint).send streamId (.data bytes) := by
  simp only [step] at h
  split at h
  · cases h
  · rename_i streamId bytes grants hgrants
    cases h
    exact ⟨streamId, bytes, grants, hgrants, rfl⟩

theorem requestEnd_ok {limits : Limits}
    (h : e.step limits (.requestEnd streamId) = some (.ok e')) :
    e.canPump streamId = true ∧
      e' = { (e.setStream streamId { e.stream streamId with requestEnded := true }).send
        streamId .endStream with endSends := insert streamId e.endSends } := by
  simp only [step] at h
  split at h
  · rename_i hpump
    cases h
    exact ⟨hpump, rfl⟩
  · cases h

/-- The endpoint adds nothing but answers to its outbox and no frame to a queue. -/
structure Answers (e e' : Endpoint) : Prop where
  outbox : ∃ frames, e'.outbox = e.outbox ++ frames ∧ ∀ frame ∈ frames, frame.IsAnswer
  queued : ∀ streamId, (e'.stream streamId).downstreamQueuedFrames ≤
    (e.stream streamId).downstreamQueuedFrames

theorem Answers.trans {e'' : Endpoint} (h : Answers e e') (h' : Answers e' e'') :
    Answers e e'' := by
  obtain ⟨first, hfirst, hanswers⟩ := h.outbox
  obtain ⟨second, hsecond, hanswers'⟩ := h'.outbox
  refine ⟨⟨first ++ second, by rw [hsecond, hfirst, List.append_assoc], ?_⟩, ?_⟩
  · intro frame hframe
    rcases List.mem_append.mp hframe with hmem | hmem
    · exact hanswers frame hmem
    · exact hanswers' frame hmem
  · intro streamId
    exact (h'.queued streamId).trans (h.queued streamId)

theorem Answers.of_stream (houtbox : e'.outbox = e.outbox) (hstream : e'.stream = e.stream) :
    Answers e e' := by
  refine ⟨⟨[], by rw [houtbox, List.append_nil], by simp⟩, ?_⟩
  intro streamId
  rw [hstream]

theorem Answers.of_update {stream : GatewayStream} (houtbox : e'.outbox = e.outbox)
    (hstream : e'.stream = Function.update e.stream streamId stream)
    (hqueued : stream.downstreamQueuedFrames ≤ (e.stream streamId).downstreamQueuedFrames) :
    Answers e e' := by
  refine ⟨⟨[], by rw [houtbox, List.append_nil], by simp⟩, ?_⟩
  intro other
  rw [hstream]
  by_cases hother : other = streamId
  · subst hother
    simpa using hqueued
  · simp [hother]

theorem send_answers (e : Endpoint) (streamId : ℕ) {body : FrameBody}
    (hbody : StreamFrame.IsAnswer ⟨streamId, body⟩) : Answers e (e.send streamId body) := by
  refine ⟨⟨[⟨streamId, body⟩], rfl, ?_⟩, fun _ => le_rfl⟩
  intro frame hframe
  rw [List.mem_singleton.mp hframe]
  exact hbody

theorem remove_answers {retirement : RetirementKind}
    (h : e.remove streamId retirement = .ok e') : Answers e e' := by
  obtain ⟨inboundFlow, -, rfl⟩ := remove_ok h
  exact Answers.of_stream rfl rfl

theorem setCancelled_answers (e : Endpoint) (streamId : ℕ) :
    Answers e (e.setCancelled streamId) := Answers.of_update rfl rfl le_rfl

theorem cancelAndReset_answers {code : String} (h : e.cancelAndReset streamId code = .ok e') :
    Answers e e' := by
  obtain ⟨removed, hremoved, rfl⟩ := cancelAndReset_ok h
  have hkept := (setCancelled_answers e streamId).trans (remove_answers hremoved)
  exact hkept.trans (send_answers removed streamId (Or.inr ⟨code, rfl⟩))

theorem maybeDeleteStream_answers (h : e.maybeDeleteStream streamId = .ok e') :
    Answers e e' := by
  obtain ⟨-, hremoved⟩ | rfl := maybeDeleteStream_ok h
  · exact remove_answers hremoved
  · exact Answers.of_stream rfl rfl

theorem release_answers (h : e.release streamId bytes = .ok e') : Answers e e' := by
  obtain ⟨inboundFlow, -, rfl⟩ | hcancelled := release_ok h
  · exact Answers.of_update rfl rfl (Nat.sub_le _ _)
  · exact cancelAndReset_answers hcancelled

theorem popOperation_answers (e : Endpoint) (streamId : ℕ) (rest : List Operation) :
    Answers e (e.popOperation streamId rest) := Answers.of_update rfl rfl le_rfl

theorem runEnd_answers (h : e.runEnd streamId = .ok e') : Answers e e' := by
  obtain rfl | ⟨-, hdeleted⟩ := runEnd_ok h
  · exact Answers.of_stream rfl rfl
  · have hended : Answers e (e.setStream streamId { e.stream streamId with
        responseFinished := true }) := Answers.of_update rfl rfl le_rfl
    exact hended.trans (maybeDeleteStream_answers hdeleted)

theorem sendWindowUpdate_answers (e : Endpoint) (streamId bytes : ℕ) :
    Answers e (e.sendWindowUpdate streamId bytes) :=
  send_answers e streamId (Or.inl ⟨bytes, rfl⟩)

theorem runOperation_answers (h : e.runOperation streamId = some (.ok e')) : Answers e e' := by
  obtain ⟨-, ⟨bytes, rest, -, ⟨-, rfl⟩ | ⟨-, hrelease⟩⟩ | ⟨rest, -, hend⟩⟩ := runOperation_ok h
  · exact popOperation_answers e streamId rest
  · have hsent := (popOperation_answers e streamId rest).trans
      (sendWindowUpdate_answers (e.popOperation streamId rest) streamId bytes)
    exact hsent.trans (release_answers hrelease)
  · exact (popOperation_answers e streamId rest).trans (runEnd_answers hend)

theorem announce_answers (h : e.announce streamId = some e') : Answers e e' := by
  obtain ⟨-, bytes, rest, -, ⟨-, rfl⟩ | ⟨-, rfl⟩⟩ := announce_some h
  · have hsent := sendWindowUpdate_answers e streamId bytes
    exact ⟨hsent.outbox, hsent.queued⟩
  · exact popOperation_answers e streamId rest

theorem announced_answers (h : e.announced streamId = some (.ok e')) : Answers e e' := by
  obtain ⟨-, bytes, rest, -, hrest⟩ := announced_ok h
  have hpopped : Answers e { e.popOperation streamId rest with
      crediting := e.crediting.erase streamId } := Answers.of_update rfl rfl le_rfl
  obtain ⟨-, hrelease⟩ | ⟨-, rfl⟩ := hrest
  · exact hpopped.trans (release_answers hrelease)
  · exact hpopped

theorem event_answers {limits : Limits} {event : Event}
    (h : e.step limits event = some (.ok e'))
    (hopens : ∀ kind methodAllowsBody, event ≠ .openStream kind methodAllowsBody)
    (hgranted : event ≠ .sendGranted) (hended : ∀ streamId, event ≠ .requestEnd streamId) :
    Answers e e' := by
  cases event with
  | openStream kind methodAllowsBody => exact absurd rfl (hopens kind methodAllowsBody)
  | sendGranted => exact absurd rfl hgranted
  | requestEnd streamId => exact absurd rfl (hended streamId)
  | take streamId maximumBytes =>
    simp only [step] at h
    split at h
    · obtain ⟨taken, htake, hok⟩ := Option.map_eq_some_iff.mp h
      cases hok
      obtain ⟨outboundFlow, settled, -, rfl⟩ := take_some htake
      exact Answers.of_stream rfl rfl
    · cases h
  | endSent streamId =>
    simp only [step] at h
    split at h
    · obtain rfl | ⟨-, hdeleted⟩ := endSent_ok (Option.some.inj h)
      · exact Answers.of_stream rfl rfl
      · have hkept := maybeDeleteStream_answers hdeleted
        exact ⟨hkept.outbox, hkept.queued⟩
    · cases h
  | localReset streamId code =>
    simp only [step] at h
    split at h
    · exact cancelAndReset_answers (Option.some.inj h)
    · cases h
  | operation streamId => exact runOperation_answers h
  | announce streamId =>
    simp only [step] at h
    obtain ⟨announced, hannounce, hok⟩ := Option.map_eq_some_iff.mp h
    cases hok
    exact announce_answers hannounce
  | announced streamId => exact announced_answers h

theorem acceptHeaders_answers {limits : Limits} {metadata : Except JsError ResponseHeaders}
    (h : e.acceptHeaders limits streamId metadata = .ok e') : Answers e e' := by
  obtain ⟨stream, haccepted, hsame⟩ := acceptHeaders_ok h
  have hset : Answers e (e.setStream streamId stream) :=
    Answers.of_update rfl rfl hsame.queuedFrames.le
  obtain rfl | hcancelled := haccepted
  · exact hset
  · exact hset.trans (cancelAndReset_answers hcancelled)

/-- Behind the reservation, DATA only adds the operation or resets the stream. -/
theorem acceptData_answers {limits : Limits} (h : e.acceptData limits streamId bytes = .ok e') :
    ∃ reserved, e.reserveInboundChunk streamId bytes = .ok reserved ∧ Answers reserved e' := by
  obtain ⟨reserved, stream, hreserved, haccepted, hsame⟩ := acceptData_ok h
  have hset : Answers reserved (reserved.setStream streamId stream) :=
    Answers.of_update rfl rfl hsame.queuedFrames.le
  refine ⟨reserved, hreserved, ?_⟩
  obtain rfl | hcancelled := haccepted
  · exact hset.trans (Answers.of_update rfl rfl le_rfl)
  · exact hset.trans (cancelAndReset_answers hcancelled)

/-- A frame is answered, and only DATA of a live stream adds one to its queue. -/
theorem acceptActive_answers {limits : Limits} {frame : StreamFrame}
    (h : e.acceptActive limits frame = .ok e') :
    Answers e e' ∨ ∃ bytes reserved, frame.body = .data bytes ∧
      e.reserveInboundChunk frame.streamId bytes = .ok reserved ∧ Answers reserved e' := by
  unfold acceptActive at h
  split at h
  · cases h
  · obtain ⟨outboundFlow, settled, -, rfl⟩ := acceptUpdate_ok h
    exact Or.inl (Answers.of_stream rfl rfl)
  · exact Or.inl (acceptHeaders_answers h)
  · rename_i bytes hbody
    obtain ⟨reserved, hreserved, hanswers⟩ := acceptData_answers h
    exact Or.inr ⟨bytes, reserved, hbody, hreserved, hanswers⟩
  · rw [acceptEnd_ok h]
    have hended : Answers e (e.setStream frame.streamId { e.stream frame.streamId with
        responseEnded := true }) := Answers.of_update rfl rfl le_rfl
    exact Or.inl (hended.trans (Answers.of_update rfl rfl le_rfl))
  · cases h
  · exact Or.inl ((setCancelled_answers e frame.streamId).trans (remove_answers h))
  · cases h

theorem handleClientFrame_outbox {limits : Limits} {frame : StreamFrame}
    (h : e.handleClientFrame limits frame = .ok e') :
    ∃ frames, e'.outbox = e.outbox ++ frames ∧ ∀ frame ∈ frames, frame.IsAnswer := by
  obtain ⟨-, -, inboundFlow, -, rfl⟩ | ⟨-, -, haccept⟩ := handleClientFrame_ok h
  · exact ⟨[], by simp, by simp⟩
  · obtain hanswers | ⟨bytes, reserved, -, hreserved, hanswers⟩ := acceptActive_answers haccept
    · exact hanswers.outbox
    · obtain ⟨-, inboundFlow, -, rfl⟩ := reserveInboundChunk_ok hreserved
      exact hanswers.outbox

end Endpoint

end Lotur.Gateway
