import Lotur.Gateway.Admission
import Lotur.Gateway.Endpoint

/-! The streams of every session of the gateway: `removeGatewayStream`, `beginGatewayStream` and
`closeGatewayStreams`, the opening of a stream, the frames of the client, and the continuations
that a stream object leaves behind. A continuation may run at any time, long after its session
has moved to another carrier, so each makes its own check of what is current. -/
namespace Lotur.Gateway

structure SessionLimits extends Limits where
  maxNewStreamsPerMinute : ℕ
  maxRequestBodyBytes : ℕ
  deriving DecidableEq, Repr

structure ServerConfig where
  ctx : Context
  admission : AdmissionConfig
  limits : SessionLimits
  authorizationMaxAgeMs : ℕ

/-- A stream object with what its closures hold; `reviewerAuthorizedAt` is absent without
accounts, and `pendingHead` is the size of the upgrade's first bytes. -/
structure StreamObject where
  key : ℕ
  streamId : ℕ
  transport : GatewayTransportEpoch
  reviewerAuthorizedAt : Option ℕ
  pendingHead : ℕ
  requestBytes : ℕ
  stream : GatewayStream

/-- The two windows of one transport epoch. -/
structure Flows where
  outboundFlow : OutboundFlowWindow
  inboundFlow : GatewayInboundFlow

/-- A carrier socket before and after its upgrade, with the callback that releases its slot. -/
inductive Upgrade
  | absent
  | authorizing (releaseCarrierAuthorization : ℕ)
  | connected (releasePendingCarrier : ℕ)
  | dropped (releasePendingCarrier : ℕ)
  | refused
  deriving DecidableEq, Repr

/-- What opening a stream reads of a reviewer's request. -/
structure ReviewerRequest where
  tunnelId : Token
  kind : StreamKind
  methodAllowsBody : Bool
  declaredRequestBytes : Option ℕ
  headBytes : ℕ
  encodable : Bool
  reviewed : Bool
  deriving DecidableEq, Repr

structure StreamRate where
  windowStartedAt : ℕ
  openedInWindow : ℕ
  deriving DecidableEq, Repr

/-- The gateway process. `streams` holds the map of each session, `flows` the windows of the
epochs that a resume has replaced, `requests` the reviewers who wait for authorization, and
`expiryTimers` the epoch whose loss armed a session's reconnect timer. -/
structure Server where
  gateway : State
  admission : GatewayAdmission
  killSwitchEnabled : Bool
  upgrades : ℕ → Upgrade
  requests : List ReviewerRequest
  streams : ℕ → StreamMap ℕ
  objects : ℕ → StreamObject
  objectCount : ℕ
  flows : ℕ → GatewayTransportEpoch → Flows
  rates : ℕ → StreamRate
  expiryTimers : ℕ → Option GatewayTransportEpoch

namespace Server

/-- The windows that a transport refers to: those of the session while it is current. -/
def transportFlows (s : Server) (key : ℕ) (transport : GatewayTransportEpoch) : Flows :=
  if s.gateway.captureGatewayTransport key = transport then
    { outboundFlow := (s.gateway.heap key).outboundFlow
      inboundFlow := (s.gateway.heap key).inboundFlow }
  else s.flows key transport

def setTransportFlows (s : Server) (key : ℕ) (transport : GatewayTransportEpoch) (flows : Flows) :
    Server :=
  if s.gateway.captureGatewayTransport key = transport then
    { s with gateway := s.gateway.setSession key { s.gateway.heap key with
      outboundFlow := flows.outboundFlow
      inboundFlow := flows.inboundFlow } }
  else { s with
    flows := Function.update s.flows key (Function.update (s.flows key) transport flows) }

def isCurrentGatewayStream (s : Server) (object : ℕ) : Bool :=
  s.gateway.captureGatewayTransport (s.objects object).key = (s.objects object).transport &&
    (s.streams (s.objects object).key).lookup (s.objects object).streamId = some object

def isCurrentGatewaySessionStream (s : Server) (object : ℕ) : Bool :=
  s.gateway.isRegistered (s.objects object).key && s.isCurrentGatewayStream object

def setStream (s : Server) (object : ℕ) (stream : GatewayStream) : Server :=
  { s with objects := Function.update s.objects object { s.objects object with stream } }

def cancel (s : Server) (object : ℕ) : Server :=
  s.setStream object { (s.objects object).stream with cancelled := true }

/-- `stream.transport.outboundFlow.closeStream(streamId)`. -/
def closeOutbound (s : Server) (object : ℕ) : Server :=
  let held := s.objects object
  let flows := s.transportFlows held.key held.transport
  s.setTransportFlows held.key held.transport
    { flows with outboundFlow := (flows.outboundFlow.closeStream held.streamId).1 }

/-- One turn of the loop of `closeGatewayStreams`. A window that accounts for its bytes does not
throw when a stream is closed. -/
def closeEntry (s : Server) (object : ℕ) : Server :=
  let held := s.objects object
  let flows := s.transportFlows held.key held.transport
  (s.cancel object).setTransportFlows held.key held.transport
    { outboundFlow := (flows.outboundFlow.closeStream held.streamId).1
      inboundFlow := (flows.inboundFlow.closeStream held.streamId).toOption.getD flows.inboundFlow }

def closeGatewayStreams (s : Server) (key : ℕ) : Server :=
  let closed := ((s.streams key).entries.map Sigma.snd).foldl closeEntry s
  { closed with streams := Function.update closed.streams key ∅ }

/-- The rest of the gateway after a step of the carriers: the windows of a replaced epoch are kept
for the objects that refer to them, and a session that was disposed of takes its streams and its
timer with it. -/
def adopt (s : Server) (gateway : State) : Server :=
  let next := { s with
    gateway := gateway
    flows := fun key transport =>
      if s.gateway.captureGatewayTransport key = transport ∧
          gateway.captureGatewayTransport key ≠ transport then
        { outboundFlow := (s.gateway.heap key).outboundFlow.close.1
          inboundFlow := (s.gateway.heap key).inboundFlow }
      else s.flows key transport }
  match (List.range gateway.sessionCount).find? fun key =>
      s.gateway.isRegistered key && !gateway.isRegistered key with
  | none => next
  | some key => { next.closeGatewayStreams key with
      expiryTimers := Function.update next.expiryTimers key none }

/-- `expireGatewaySession` and `terminateGatewaySession`. -/
def disposeGatewaySession (s : Server) (key : ℕ) : Server :=
  s.adopt (s.gateway.disposeGatewaySession key)

def applySessionTransition (s : Server) (key : ℕ) (next : SessionState) : Server :=
  s.adopt (s.gateway.applySessionTransition key next).1

/-- How a call of `removeGatewayStream` ends. -/
inductive Removal
  | stale
  | removed
  | threw
  deriving DecidableEq, Repr

/-- What becomes of the receive window of a stream that is removed. -/
def closeInbound (flow : GatewayInboundFlow) (streamId : ℕ) :
    Endpoint.RetirementKind → Except JsError GatewayInboundFlow
  | .localReset => flow.retireStream streamId
  | .normal => flow.closeStream streamId

/-- STREAM_CLOSED, which only an active session is told. -/
def streamClosed (s : Server) (policy : SessionPolicy) (key now : ℕ) : Server × Removal :=
  match (s.gateway.heap key).lifecycle with
  | .ACTIVE state =>
    match (SessionState.ACTIVE state).transitionSession policy (.STREAM_CLOSED now) with
    | .error _ => (s, .threw)
    | .ok next => (s.applySessionTransition key next, .removed)
  | _ => (s, .removed)

def deleteStream (s : Server) (key streamId : ℕ) : Server :=
  { s with streams := Function.update s.streams key ((s.streams key).erase streamId) }

/-- A throw leaves the state as it is at that point. -/
def removeGatewayStream (s : Server) (policy : SessionPolicy) (object : ℕ)
    (retirement : Endpoint.RetirementKind) (now : ℕ) : Server × Removal :=
  let held := s.objects object
  if !s.isCurrentGatewayStream object then (s, .stale)
  else
    let flows := s.transportFlows held.key held.transport
    let deleted := s.deleteStream held.key held.streamId
    match closeInbound flows.inboundFlow held.streamId retirement with
    | .error _ => (deleted, .threw)
    | .ok inboundFlow =>
      (deleted.setTransportFlows held.key held.transport { flows with inboundFlow }).streamClosed
        policy held.key now

variable (config : ServerConfig)

/-- The local error paths once they have found the stream current. -/
def resetStream (s : Server) (object now : ℕ) : Server :=
  match (s.cancel object).removeGatewayStream config.ctx.sessionPolicy object .localReset now with
  | (after, .threw) => after
  | (after, _) => after.closeOutbound object

/-- The end of a stream that both sides have finished. -/
def finishStream (s : Server) (object now : ℕ) : Server :=
  match s.removeGatewayStream config.ctx.sessionPolicy object .normal now with
  | (after, .removed) => after.closeOutbound object
  | (after, _) => after

def maybeDeleteStream (s : Server) (object now : ℕ) : Server :=
  if (s.objects object).stream.isFinished then s.finishStream config object now else s

/-- One call of `take` on the object's own window; a call that throws ends in the caller's catch. -/
def takeCredit (s : Server) (object maximumBytes : ℕ) : Server :=
  let held := s.objects object
  let flows := s.transportFlows held.key held.transport
  match flows.outboundFlow.take held.streamId (min MAX_DATA_CHUNK_BYTES maximumBytes) with
  | .error _ => s
  | .ok (outboundFlow, _) =>
    s.setTransportFlows held.key held.transport { flows with outboundFlow }

def admitStream (s : Server) (key now : ℕ) : Server × Bool :=
  if (s.streams key).entries.length ≥ config.limits.maxConcurrentStreams then (s, false)
  else
    let rate := if now - (s.rates key).windowStartedAt ≥ 60000 then
      { windowStartedAt := now, openedInWindow := 0 } else s.rates key
    if rate.openedInWindow ≥ config.limits.maxNewStreamsPerMinute then
      ({ s with rates := Function.update s.rates key rate }, false)
    else ({ s with
      rates := Function.update s.rates key
        { rate with openedInWindow := rate.openedInWindow + 1 } }, true)

/-- The windows of a stream that has just been put into the map. What throws leaves it there. -/
def openFlows (s : Server) (object : ℕ) : Server :=
  let held := s.objects object
  let flows := s.transportFlows held.key held.transport
  match flows.outboundFlow.openStream held.streamId INITIAL_STREAM_WINDOW_BYTES with
  | .error _ => s
  | .ok (outboundFlow, _) =>
    match flows.inboundFlow.openStream held.streamId INITIAL_STREAM_WINDOW_BYTES with
    | .error _ => s.setTransportFlows held.key held.transport { flows with outboundFlow }
    | .ok inboundFlow =>
      s.setTransportFlows held.key held.transport { outboundFlow, inboundFlow }

/-- `beginGatewayStream` with the id that was issued for the stream. -/
def beginGatewayStream (s : Server) (key streamId now : ℕ) (request : ReviewerRequest) : Server :=
  match (s.gateway.heap key).lifecycle.transitionSession config.ctx.sessionPolicy
      (.STREAM_OPEN now) with
  | .ok (.ACTIVE state) =>
    let object : StreamObject :=
      { key := key
        streamId := streamId
        transport := s.gateway.captureGatewayTransport key
        reviewerAuthorizedAt := if request.reviewed then some now else none
        pendingHead := request.headBytes
        requestBytes := 0
        stream := .opened request.kind request.methodAllowsBody }
    let begun := s.applySessionTransition key (.ACTIVE state)
    ({ begun with
      streams := Function.update begun.streams key
        ((begun.streams key).insert streamId s.objectCount)
      objects := Function.update begun.objects s.objectCount object
      objectCount := s.objectCount + 1 }).openFlows s.objectCount
  | .ok next => s.applySessionTransition key next
  | .error _ => s

/-- `handleReviewerRequest` and `handleReviewerUpgrade` up to their first await. -/
def openStream (s : Server) (now : ℕ) (request : ReviewerRequest) : Server :=
  match s.gateway.sessions request.tunnelId with
  | none => s
  | some key =>
    let session := s.gateway.heap key
    if !isActive session ∨ !(s.gateway.carriers session.socket).isOpen then s
    else
      let (s, admitted) := s.admitStream config key now
      if !admitted then s
      else if request.declaredRequestBytes.any (· > config.limits.maxRequestBodyBytes) ∨
          request.headBytes > 64 * 1024 ∨ !request.encodable then s
      else
        match session.streamIds.issue with
        | .error _ => s
        | .ok (streamId, streamIds) =>
          beginGatewayStream config { s with
            gateway := s.gateway.setSession key { s.gateway.heap key with streamIds } }
            key streamId now request

/-- RESPONSE_HEADERS of an HTTP stream. -/
def acceptHttpHeaders (s : Server) (object now : ℕ) (headers : ResponseHeaders) : Server :=
  let stream := (s.objects object).stream
  let responseBodyAllowed := responseCanHaveBody stream.methodAllowsBody headers.statusCode
  let finiteResponse := responseBodyAllowed && isFiniteHttpResponse headers
  let stream := { stream with responseBodyAllowed, finiteResponse }
  if finiteResponse ∧ headers.declaredResponseBytes.any fun bytes =>
      bytes > config.limits.maxFiniteResponseBytes then
    (s.setStream object stream).resetStream config object now
  else s.setStream object { stream with responseStarted := true }

/-- RESPONSE_HEADERS of an upgrade; the pending head of one that succeeds is sent from here. -/
def acceptUpgradeHeaders (s : Server) (object : ℕ) (headers : ResponseHeaders) : Server :=
  let stream := (s.objects object).stream
  let upgraded := headers.statusCode = 101
  let answered := s.setStream object { stream with responseStarted := true, upgraded := upgraded }
  if upgraded ∧ (s.objects object).pendingHead > 0 then
    answered.takeCredit object (s.objects object).pendingHead
  else answered

/-- `reserveInboundChunk` and the queueing of the chunk; `none` when it throws. -/
def acceptData (s : Server) (object bytes now : ℕ) : Option Server :=
  let held := s.objects object
  let stream := held.stream
  let flows := s.transportFlows held.key held.transport
  if (Endpoint.refusal stream).isSome ∨ bytes = 0 ∨
      stream.downstreamQueuedFrames ≥ MAX_PENDING_DOWNSTREAM_FRAMES ∨
      !s.isCurrentGatewayStream object then none
  else
    match flows.inboundFlow.consume held.streamId bytes with
    | .error _ => none
    | .ok inboundFlow =>
      let reserved := s.setTransportFlows held.key held.transport { flows with inboundFlow }
      let responseBytes := if stream.kind = .http then stream.responseBytes + bytes
        else stream.responseBytes
      let stream := { stream with
        downstreamQueuedFrames := stream.downstreamQueuedFrames + 1
        responseBytes := responseBytes }
      if stream.kind = .http ∧ stream.finiteResponse ∧
          responseBytes > config.limits.maxFiniteResponseBytes then
        some ((reserved.setStream object stream).resetStream config object now)
      else some (reserved.setStream object { stream with
        downstreamQueue := stream.downstreamQueue ++ [.data bytes] })

/-- A frame for a stream of the map; `none` when its handling throws. -/
def acceptFrame (s : Server) (object now : ℕ) (body : FrameBody) : Option Server :=
  let held := s.objects object
  let stream := held.stream
  match body with
  | .windowUpdate (.ok bytes) =>
    let flows := s.transportFlows held.key held.transport
    match flows.outboundFlow.update held.streamId bytes with
    | .error _ => none
    | .ok (outboundFlow, _) =>
      some (s.setTransportFlows held.key held.transport { flows with outboundFlow })
  | .responseHeaders (.ok headers) =>
    if stream.responseStarted then none
    else
      match stream.kind with
      | .http => some (s.acceptHttpHeaders config object now headers)
      | .websocket => some (s.acceptUpgradeHeaders object headers)
  | .data bytes => s.acceptData config object bytes now
  | .endStream =>
    if !stream.responseStarted ∨ stream.responseEnded then none
    else some (s.setStream object { stream with
      responseEnded := true
      downstreamQueue := stream.downstreamQueue ++ [.endStream] })
  | .resetStream (.ok _) =>
    match (s.cancel object).removeGatewayStream config.ctx.sessionPolicy object .normal now with
    | (_, .threw) => none
    | (after, _) => some (after.closeOutbound object)
  | _ => none

/-- `handleClientFrame` on an active session. -/
def handleClientFrame (s : Server) (key now : ℕ) (frame : StreamFrame) : Option Server :=
  let session := s.gateway.heap key
  match (s.streams key).lookup frame.streamId with
  | none =>
    if session.streamIds.wasIssued frame.streamId ∧
        session.probe.map Probe.streamId ≠ some frame.streamId then
      match Endpoint.validateRetiredClientFrame session.inboundFlow frame with
      | .error _ => none
      | .ok inboundFlow =>
        some { s with gateway := s.gateway.setSession key { session with inboundFlow } }
    else none
  | some object =>
    if (s.objects object).stream.cancelled then none
    else s.acceptFrame config object now frame.body

/-- Where a stream object waits: for the next chunk of the browser, for credit, for a send, for
its downstream queue, for a timer, or for an answer about its reviewer. -/
inductive StreamPoint
  | openFails
  | requestChunk (bytes : ℕ)
  | credit (bytes : ℕ)
  | requestEnd
  | endSent
  | requestFails
  | expires
  | downstreamCloses
  | drained
  | credited
  | endQueued
  | downstreamFails
  | headFails
  | authorizationExpires
  | authorizationRevoked
  deriving DecidableEq, Repr

/-- The check of the HTTP request loop, and of the forwarding of an upgraded socket, which does
not look at the registry. -/
def isCurrentRequest (s : Server) (object : ℕ) : Bool :=
  match (s.objects object).stream.kind with
  | .http => s.isCurrentGatewaySessionStream object
  | .websocket => s.isCurrentGatewayStream object

/-- The first operation leaves the downstream queue. -/
def popOperation (s : Server) (object : ℕ) : Server :=
  s.setStream object { (s.objects object).stream with
    downstreamQueue := (s.objects object).stream.downstreamQueue.tail }

def requestChunk (s : Server) (object bytes now : ℕ) : Server :=
  let held := s.objects object
  if held.stream.cancelled ∨ !s.isCurrentRequest object then s
  else if held.stream.kind = .websocket then s.takeCredit object bytes
  else
    let counted := { s with
      objects := Function.update s.objects object
        { held with requestBytes := held.requestBytes + bytes } }
    if held.requestBytes + bytes > config.limits.maxRequestBodyBytes then
      counted.resetStream config object now
    else counted.takeCredit object bytes

def failBufferedDownstream (s : Server) (object now : ℕ) : Server :=
  if (s.objects object).stream.cancelled ∨ !s.isCurrentGatewayStream object then s
  else s.resetStream config object now

/-- The end of a queued DATA operation, when its WINDOW_UPDATE has been sent. -/
def creditSent (s : Server) (object bytes now : ℕ) : Server :=
  let held := s.objects object
  let flows := s.transportFlows held.key held.transport
  if !s.isCurrentGatewayStream object then s
  else
    match flows.inboundFlow.release held.streamId bytes with
    | .error _ => s.failBufferedDownstream config object now
    | .ok inboundFlow =>
      (s.setTransportFlows held.key held.transport { flows with inboundFlow }).setStream object
        { held.stream with downstreamQueuedFrames := held.stream.downstreamQueuedFrames - 1 }

/-- One continuation of a stream object, from its await to the next. -/
def runStream (s : Server) (object now : ℕ) : StreamPoint → Server
  | .openFails =>
    if !s.isCurrentGatewaySessionStream object then s else s.resetStream config object now
  | .requestChunk bytes => s.requestChunk config object bytes now
  | .credit bytes => s.takeCredit object bytes
  | .requestEnd =>
    if (s.objects object).stream.cancelled ∨ !s.isCurrentRequest object then s
    else s.setStream object { (s.objects object).stream with requestEnded := true }
  | .endSent => if !s.isCurrentRequest object then s else s.maybeDeleteStream config object now
  | .requestFails => if !s.isCurrentRequest object then s else s.resetStream config object now
  | .expires =>
    if (s.objects object).stream.cancelled ∨ !s.isCurrentGatewaySessionStream object then s
    else s.resetStream config object now
  | .downstreamCloses =>
    if ((s.objects object).stream.kind = .http ∧ (s.objects object).stream.responseFinished) ∨
        (s.objects object).stream.cancelled ∨ !s.isCurrentGatewaySessionStream object then s
    else s.resetStream config object now
  | .drained =>
    match (s.objects object).stream.downstreamQueue with
    | .data _ :: _ =>
      if (s.objects object).stream.cancelled ∨ !s.isCurrentGatewayStream object then
        s.popOperation object
      else s
    | _ => s
  | .credited =>
    match (s.objects object).stream.downstreamQueue with
    | .data bytes :: _ => (s.popOperation object).creditSent config object bytes now
    | _ => s
  | .endQueued =>
    match (s.objects object).stream.downstreamQueue with
    | .endStream :: _ =>
      let popped := s.popOperation object
      if (s.objects object).stream.cancelled ∨ !s.isCurrentGatewayStream object then popped
      else (popped.setStream object { (popped.objects object).stream with
        responseFinished := true }).maybeDeleteStream config object now
    | _ => s
  | .downstreamFails => (s.popOperation object).failBufferedDownstream config object now
  | .headFails =>
    if (s.objects object).stream.cancelled ∨ !s.isCurrentGatewayStream object then s
    else s.resetStream config object now
  | .authorizationExpires =>
    if s.gateway.isRegistered (s.objects object).key ∧
        isActive (s.gateway.heap (s.objects object).key) ∧
        (s.streams (s.objects object).key).lookup (s.objects object).streamId = some object ∧
        (s.objects object).reviewerAuthorizedAt.any
          (· + config.authorizationMaxAgeMs ≤ now) then s.resetStream config object now
    else s
  | .authorizationRevoked =>
    if !s.isCurrentGatewaySessionStream object then s else s.resetStream config object now

end Server

end Lotur.Gateway
