import Lotur.Client.Streams
import Lotur.Relay.Carrier

/-! The client's end of an active carrier with all its streams: `handleGatewayFrame`, the
operations that frames queue, and the callbacks of the local requests. Sends are cut at their
completion, so that a frame is on its way before the code behind the `await` runs. -/
namespace Lotur.Client

/-- The limits of the session configuration that application frames are checked against. -/
structure Limits where
  maxConcurrentStreams : ℕ
  initialStreamWindowBytes : ℕ
  maxRequestBodyBytes : ℕ
  deriving DecidableEq, Repr

/-- The tables, the stream objects and the pending continuations of the client: `grants` are
settled `take` calls whose DATA is not sent yet, `crediting` the streams whose first operation
waits for the send of its WINDOW_UPDATE, `endSends` the streams that wait for the send of END.
`outbox` holds the frames on their way to the gateway. -/
structure Endpoint where
  tables : Tables
  stream : ℕ → ClientStream
  applicationOperations : ApplicationOperationBudget
  grants : List (ℕ × ℕ)
  crediting : Finset ℕ
  endSends : Finset ℕ
  outbox : List StreamFrame

/-- An id that was never opened has a record that no callback holds. -/
def ClientStream.absent : ClientStream :=
  { ClientStream.opened .http true with cancelled := true }

namespace Endpoint

def setStream (e : Endpoint) (streamId : ℕ) (stream : ClientStream) : Endpoint :=
  { e with stream := Function.update e.stream streamId stream }

def send (e : Endpoint) (streamId : ℕ) (body : FrameBody) : Endpoint :=
  { e with outbox := e.outbox ++ [⟨streamId, body⟩] }

/-- The effect of `maybeDeleteStream` or `cancelClientStream`. -/
def absorb (e : Endpoint) (streamId : ℕ) (outcome : Retirement) : Endpoint :=
  { e with
    tables := outcome.tables
    stream := Function.update e.stream streamId outcome.stream
    grants := e.grants ++ resolved outcome.settled }

/-- The local error paths: an error of `cancelClientStream` leaves before `resetStream`. -/
def cancelAndReset (e : Endpoint) (streamId : ℕ) (code : String) : Endpoint :=
  if (e.stream streamId).cancelled then e
  else
    let outcome := cancelClientStream e.tables streamId (e.stream streamId) .localReset
    match outcome.error with
    | some _ => e.absorb streamId outcome
    | none => (e.absorb streamId outcome).send streamId (.resetStream (.ok code))

/-- The body of the OPEN_HTTP branch behind the limit check. -/
def openStream (limits : Limits) (e : Endpoint) (streamId : ℕ) (metadata : OpenHttpMetadata) :
    Except Fault Endpoint :=
  match e.tables.streamLifecycle.openStream streamId with
  | .error error => .error (.thrown error)
  | .ok streamLifecycle =>
    match e.tables.outboundFlow.openStream streamId metadata.initialWindowBytes with
    | .error error => .error (.thrown error)
    | .ok (outboundFlow, settled) =>
      match e.tables.inboundFlow.openStream streamId limits.initialStreamWindowBytes with
      | .error error => .error (.thrown error)
      | .ok inboundFlow =>
        if !metadata.requestable then
          .error (.thrown (.typeError "Request path contains unescaped characters"))
        else .ok { e with
          tables :=
            { streams := insert streamId e.tables.streams
              streamLifecycle, outboundFlow, inboundFlow }
          stream := Function.update e.stream streamId
            (.opened metadata.kind metadata.requestBodyEnded)
          grants := e.grants ++ resolved settled }

def validateRetiredGatewayFrame (inboundFlow : InboundFlowWindow) (frame : StreamFrame) :
    Except JsError InboundFlowWindow :=
  match frame.body with
  | .data bytes =>
    if bytes = 0 then .error (.error "Gateway DATA payload must not be empty")
    else inboundFlow.consumeRetiredData frame.streamId bytes
  | .endStream => .ok inboundFlow
  | .windowUpdate bytes => bytes.map fun _ => inboundFlow
  | .resetStream code => code.map fun _ => inboundFlow
  | body => let type := body.type
    .error (.error s!"unexpected retired gateway frame type {type}")

def enqueue (e : Endpoint) (streamId : ℕ) (stream : ClientStream) (operation : Operation) :
    Except Fault Endpoint :=
  match enqueueInboundOperation stream operation e.applicationOperations with
  | .error error => .error (.thrown error)
  | .ok (stream, applicationOperations) =>
    .ok { e.setStream streamId stream with applicationOperations }

/-- The bytes of an HTTP request body are counted. -/
def countData (stream : ClientStream) (bytes : ℕ) : ClientStream :=
  if stream.kind = .http then { stream with requestBytes := stream.requestBytes + bytes }
  else stream

/-- The DATA branch: only HTTP requests have a body limit. -/
def acceptData (limits : Limits) (e : Endpoint) (streamId bytes : ℕ) : Except Fault Endpoint :=
  let stream := e.stream streamId
  if stream.kind = .http ∧ stream.requestBytes + bytes > limits.maxRequestBodyBytes then
    .error (.thrown (.error "Gateway exceeded configured request body limit"))
  else match e.tables.inboundFlow.consume streamId bytes with
  | .error error => .error ⟨error, true⟩
  | .ok inboundFlow => ({ e with tables := { e.tables with inboundFlow } }).enqueue streamId
      (countData stream bytes).touchClientStream (.data bytes)

def acceptUpdate (e : Endpoint) (streamId bytes : ℕ) : Except Fault Endpoint :=
  match e.tables.outboundFlow.update streamId bytes with
  | .error error => .error (.thrown error)
  | .ok (outboundFlow, settled) => .ok { e with
    tables := { e.tables with outboundFlow }
    grants := e.grants ++ resolved settled }

def acceptReset (e : Endpoint) (streamId : ℕ) : Except Fault Endpoint :=
  let outcome := cancelClientStream e.tables streamId (e.stream streamId) .remoteReset
  match outcome.error with
  | some error => .error (.thrown error)
  | none => .ok (e.absorb streamId outcome)

/-- The frames that need an active stream. -/
def acceptActive (limits : Limits) (e : Endpoint) (frame : StreamFrame) : Except Fault Endpoint :=
  match frame.body with
  | .windowUpdate (.error error) => .error (.thrown error)
  | .windowUpdate (.ok bytes) => e.acceptUpdate frame.streamId bytes
  | .data bytes => e.acceptData limits frame.streamId bytes
  | .endStream => e.enqueue frame.streamId (e.stream frame.streamId) .endStream
  | .resetStream (.error error) => .error (.thrown error)
  | .resetStream (.ok _) => e.acceptReset frame.streamId
  | body => let type := body.type
    .error (.thrown (.error s!"unexpected gateway frame type {type}"))

def handleGatewayFrame (limits : Limits) (e : Endpoint) (frame : StreamFrame) :
    Except Fault Endpoint :=
  match frame.body with
  | .openHttp metadata =>
    if e.tables.streams.card ≥ limits.maxConcurrentStreams then
      .error (.thrown (.error "Gateway exceeded configured concurrent stream limit"))
    else match metadata with
    | .error error => .error (.thrown error)
    | .ok metadata => e.openStream limits frame.streamId metadata
  | _ =>
    if e.tables.streamLifecycle.isRetired frame.streamId then
      match validateRetiredGatewayFrame e.tables.inboundFlow frame with
      | .error error => .error (.thrown error)
      | .ok inboundFlow => .ok { e with tables := { e.tables with inboundFlow } }
    else match e.tables.streamLifecycle.requireActive frame.streamId with
    | .error error => .error (.thrown error)
    | .ok _ =>
      if frame.streamId ∉ e.tables.streams ∨ (e.stream frame.streamId).cancelled then
        let streamId := frame.streamId
        .error (.thrown (.error s!"active stream {streamId} has no client state"))
      else e.acceptActive limits frame

/-- Whether a `sendFlowControlledData` of the stream is under way. -/
def isPumping (e : Endpoint) (streamId : ℕ) : Bool :=
  e.tables.outboundFlow.isWaiting streamId || e.grants.any fun grant => grant.1 = streamId

/-- The local answer of the stream has started and can go on. -/
def canPump (e : Endpoint) (streamId : ℕ) : Bool :=
  (e.stream streamId).response && !(e.stream streamId).responseEnded &&
    !(e.stream streamId).cancelled && !e.isPumping streamId

def sendWindowUpdate (e : Endpoint) (streamId bytes : ℕ) : Endpoint :=
  e.send streamId (.windowUpdate (.ok bytes))

/-- The `finally` of a queued operation. -/
def popOperation (e : Endpoint) (streamId : ℕ) (rest : List Operation) : Endpoint :=
  { e with
    stream := Function.update e.stream streamId { e.stream streamId with
      inboundQueue := rest
      pendingInboundOperations := (e.stream streamId).pendingInboundOperations - 1 }
    applicationOperations := e.applicationOperations.release }

/-- A DATA operation of a request whose END has run is refused. -/
def refusesData (stream : ClientStream) : Bool :=
  !(stream.kind = .websocket && stream.localSocket) && stream.requestEnded

def release (e : Endpoint) (streamId bytes : ℕ) : Except Fault Endpoint :=
  match e.tables.inboundFlow.release streamId bytes with
  | .error error => .error (.thrown error)
  | .ok inboundFlow => .ok { e with tables := { e.tables with inboundFlow } }

/-- The request side ends: on the raw socket of an upgraded stream, or on the local request,
which then has to answer in time. -/
def endRequest (stream : ClientStream) : ClientStream :=
  if stream.kind = .websocket ∧ stream.localSocket then { stream with requestEnded := true }
  else { stream with requestEnded := true }.armResponseHeaderTimer

/-- The END operation, once it is off the queue. -/
def runEnd (e : Endpoint) (streamId : ℕ) : Except Fault Endpoint :=
  let stream := e.stream streamId
  if stream.cancelled then .ok e
  else if stream.requestEnded then
    .error (.thrown (.error (if stream.kind = .websocket ∧ stream.localSocket then
      "duplicate raw END" else "duplicate request END")))
  else
    let outcome := maybeDeleteStream e.tables streamId (endRequest stream)
    match outcome.error with
    | some error => .error (.thrown error)
    | none => .ok (e.absorb streamId outcome)

/-- The first operation of the stream from its start to its end, the WINDOW_UPDATE and the
release it stands for in one. -/
def runOperation (e : Endpoint) (streamId : ℕ) : Option (Except Fault Endpoint) :=
  if streamId ∈ e.crediting then none
  else match (e.stream streamId).inboundQueue with
  | [] => none
  | .data bytes :: rest =>
    if (e.stream streamId).cancelled then some (.ok (e.popOperation streamId rest))
    else if refusesData (e.stream streamId) then
      some (.error (.thrown (.error "request DATA after END")))
    else some (((e.sendWindowUpdate streamId bytes).popOperation streamId rest).release
      streamId bytes)
  | .endStream :: rest => some ((e.popOperation streamId rest).runEnd streamId)

/-- The first operation up to the send of its WINDOW_UPDATE. -/
def announce (e : Endpoint) (streamId : ℕ) : Option (Except Fault Endpoint) :=
  if streamId ∈ e.crediting then none
  else match (e.stream streamId).inboundQueue with
  | .data bytes :: rest =>
    if (e.stream streamId).cancelled then some (.ok (e.popOperation streamId rest))
    else if refusesData (e.stream streamId) then
      some (.error (.thrown (.error "request DATA after END")))
    else some (.ok { e.sendWindowUpdate streamId bytes with
      crediting := insert streamId e.crediting })
  | _ => none

/-- The rest of that operation, when the send has completed. -/
def announced (e : Endpoint) (streamId : ℕ) : Option (Except Fault Endpoint) :=
  match (e.stream streamId).inboundQueue with
  | .data bytes :: rest =>
    if streamId ∈ e.crediting then
      let e := { e.popOperation streamId rest with crediting := e.crediting.erase streamId }
      some (if (e.stream streamId).cancelled then .ok e else e.release streamId bytes)
    else none
  | _ => none

/-- The continuation of `forwardLocalResponse` or of the raw socket's `end` handler behind the
send of END. -/
def endSent (e : Endpoint) (streamId : ℕ) : Endpoint :=
  let outcome := maybeDeleteStream e.tables streamId (e.stream streamId)
  let code := if (e.stream streamId).localSocket then "LOCAL_IO_ERROR" else "LOCAL_RESPONSE_ERROR"
  let after := { e with endSends := e.endSends.erase streamId }.absorb streamId outcome
  if outcome.error.isSome then after.cancelAndReset streamId code else after

def take (e : Endpoint) (streamId maximumBytes : ℕ) : Option Endpoint :=
  match e.tables.outboundFlow.take streamId maximumBytes with
  | .error _ => none
  | .ok (outboundFlow, settled) => some { e with
    tables := { e.tables with outboundFlow }
    grants := e.grants ++ resolved settled }

end Endpoint

/-- What happens at the client apart from frames: the local response or upgraded socket, the
`take` and DATA of `sendFlowControlledData`, completions of sends, queued operations, and the
timers and error events that reset a stream. -/
inductive Endpoint.Event where
  | respond (streamId : ℕ) (headers : ResponseHeaders)
  | upgrade (streamId : ℕ) (headers : ResponseHeaders)
  | take (streamId maximumBytes : ℕ)
  | sendGranted
  | respondEnd (streamId : ℕ)
  | endSent (streamId : ℕ)
  | localReset (streamId : ℕ) (code : String)
  | operation (streamId : ℕ)
  | announce (streamId : ℕ)
  | announced (streamId : ℕ)

/-- `none` when the event cannot happen; an error is one that `onProtocolError` gets. -/
def Endpoint.step (e : Endpoint) : Event → Option (Except Fault Endpoint)
  | .respond streamId headers =>
    let stream := e.stream streamId
    if stream.cancelled ∨ stream.response then none
    else some (.ok ((e.setStream streamId
      { stream.clearResponseHeaderTimer.touchClientStream with response := true }).send
        streamId (.responseHeaders (.ok headers))))
  | .upgrade streamId headers =>
    let stream := e.stream streamId
    if stream.cancelled ∨ stream.response ∨ stream.kind = .http then none
    else some (.ok ((e.setStream streamId
      { stream.clearResponseHeaderTimer.touchClientStream with
        response := true
        localSocket := true
        requestEnded := false }).send streamId (.responseHeaders (.ok headers))))
  | .take streamId maximumBytes =>
    if e.canPump streamId ∧ maximumBytes ≤ MAX_DATA_CHUNK_BYTES then
      (e.take streamId maximumBytes).map .ok
    else none
  | .sendGranted =>
    match e.grants with
    | [] => none
    | (streamId, bytes) :: grants =>
      some (.ok ({ e with grants }.send streamId (.data bytes)))
  | .respondEnd streamId =>
    if e.canPump streamId then
      some (.ok { (e.setStream streamId { e.stream streamId with responseEnded := true }).send
        streamId .endStream with endSends := insert streamId e.endSends })
    else none
  | .endSent streamId => if streamId ∈ e.endSends then some (.ok (e.endSent streamId)) else none
  | .localReset streamId code =>
    if (e.stream streamId).cancelled then none else some (.ok (e.cancelAndReset streamId code))
  | .operation streamId => e.runOperation streamId
  | .announce streamId => e.announce streamId
  | .announced streamId => e.announced streamId

/-! What each function can do, for the proofs that follow an endpoint through its events. -/

theorem retire_of_active {tables : Tables} {streamId : ℕ}
    (h : streamId ∈ tables.streamLifecycle.active) (stream : ClientStream)
    (closeInbound : InboundFlowWindow → InboundFlowWindow) :
    retire tables streamId stream closeInbound =
      { tables :=
          { streams := tables.streams.erase streamId
            streamLifecycle := { tables.streamLifecycle with
              active := tables.streamLifecycle.active.erase streamId }
            outboundFlow := (tables.outboundFlow.closeStream streamId).1
            inboundFlow := closeInbound tables.inboundFlow }
        stream := stream.clearClientStreamTimers
        settled := (tables.outboundFlow.closeStream streamId).2
        closeCalled := true
        error := none } := by
  simp only [retire, RemoteStreamLifecycle.close_of_active h]

theorem retire_of_not_active {tables : Tables} {streamId : ℕ}
    (h : streamId ∉ tables.streamLifecycle.active) (stream : ClientStream)
    (closeInbound : InboundFlowWindow → InboundFlowWindow) :
    ∃ error, retire tables streamId stream closeInbound =
      { tables := { tables with streams := tables.streams.erase streamId }
        stream := stream.clearClientStreamTimers
        settled := []
        closeCalled := true
        error := some error } := by
  obtain ⟨error, hclose⟩ := RemoteStreamLifecycle.close_of_not_active h
  refine ⟨error, ?_⟩
  simp only [retire, hclose]

namespace Endpoint

variable {e e' : Endpoint} {streamId bytes : ℕ}

theorem take_some {maximumBytes : ℕ} (h : e.take streamId maximumBytes = some e') :
    ∃ outboundFlow settled,
      e.tables.outboundFlow.take streamId maximumBytes = .ok (outboundFlow, settled) ∧
      e' = { e with
        tables := { e.tables with outboundFlow }
        grants := e.grants ++ resolved settled } := by
  unfold take at h
  split at h
  · cases h
  · rename_i outboundFlow settled htake
    exact ⟨outboundFlow, settled, htake, (Option.some.inj h).symm⟩

theorem release_ok (h : e.release streamId bytes = .ok e') :
    ∃ inboundFlow, e.tables.inboundFlow.release streamId bytes = .ok inboundFlow ∧
      e' = { e with tables := { e.tables with inboundFlow } } := by
  unfold release at h
  split at h
  · cases h
  · rename_i inboundFlow hrelease
    cases h
    exact ⟨inboundFlow, hrelease, rfl⟩

theorem runEnd_ok (h : e.runEnd streamId = .ok e') :
    ((e.stream streamId).cancelled = true ∧ e' = e) ∨
      ((e.stream streamId).cancelled = false ∧ (e.stream streamId).requestEnded = false ∧
        (maybeDeleteStream e.tables streamId (endRequest (e.stream streamId))).error = none ∧
        e' = e.absorb streamId
          (maybeDeleteStream e.tables streamId (endRequest (e.stream streamId)))) := by
  unfold runEnd at h
  dsimp only at h
  split at h
  · rename_i hcancelled
    cases h
    exact Or.inl ⟨hcancelled, rfl⟩
  · rename_i hlive
    split at h
    · cases h
    · rename_i hopen
      split at h
      · cases h
      · rename_i hdeleted
        cases h
        exact Or.inr ⟨by simpa using hlive, by simpa using hopen, hdeleted, rfl⟩

theorem runOperation_ok (h : e.runOperation streamId = some (.ok e')) :
    streamId ∉ e.crediting ∧
      ((∃ bytes rest, (e.stream streamId).inboundQueue = .data bytes :: rest ∧
          (e.stream streamId).cancelled = true ∧ e' = e.popOperation streamId rest) ∨
        (∃ bytes rest, (e.stream streamId).inboundQueue = .data bytes :: rest ∧
          (e.stream streamId).cancelled = false ∧
          ((e.sendWindowUpdate streamId bytes).popOperation streamId rest).release
            streamId bytes = .ok e') ∨
        ∃ rest, (e.stream streamId).inboundQueue = .endStream :: rest ∧
          (e.popOperation streamId rest).runEnd streamId = .ok e') := by
  unfold runOperation at h
  split at h
  · cases h
  · rename_i hidle
    refine ⟨hidle, ?_⟩
    split at h
    · cases h
    · rename_i bytes rest hqueue
      split at h
      · rename_i hcancelled
        cases h
        exact Or.inl ⟨bytes, rest, hqueue, hcancelled, rfl⟩
      · rename_i hlive
        split at h
        · cases h
        · exact Or.inr (Or.inl ⟨bytes, rest, hqueue, by simpa using hlive, Option.some.inj h⟩)
    · rename_i rest hqueue
      exact Or.inr (Or.inr ⟨rest, hqueue, Option.some.inj h⟩)

theorem announce_ok (h : e.announce streamId = some (.ok e')) :
    streamId ∉ e.crediting ∧ ∃ bytes rest, (e.stream streamId).inboundQueue = .data bytes :: rest ∧
      (((e.stream streamId).cancelled = true ∧ e' = e.popOperation streamId rest) ∨
        ((e.stream streamId).cancelled = false ∧ e' = { e.sendWindowUpdate streamId bytes with
          crediting := insert streamId e.crediting })) := by
  unfold announce at h
  split at h
  · cases h
  · rename_i hidle
    refine ⟨hidle, ?_⟩
    split at h
    · rename_i bytes rest hqueue
      refine ⟨bytes, rest, hqueue, ?_⟩
      split at h
      · rename_i hcancelled
        cases h
        exact Or.inl ⟨hcancelled, rfl⟩
      · rename_i hlive
        split at h
        · cases h
        · cases h
          exact Or.inr ⟨by simpa using hlive, rfl⟩
    · cases h

theorem announced_ok (h : e.announced streamId = some (.ok e')) :
    streamId ∈ e.crediting ∧ ∃ bytes rest, (e.stream streamId).inboundQueue = .data bytes :: rest ∧
      (((e.stream streamId).cancelled = true ∧ e' = { e.popOperation streamId rest with
          crediting := e.crediting.erase streamId }) ∨
        ((e.stream streamId).cancelled = false ∧ ({ e.popOperation streamId rest with
          crediting := e.crediting.erase streamId }).release streamId bytes = .ok e')) := by
  unfold announced at h
  split at h
  · rename_i bytes rest hqueue
    split at h
    · rename_i hcrediting
      refine ⟨hcrediting, bytes, rest, hqueue, ?_⟩
      have hstream : ((e.popOperation streamId rest).stream streamId).cancelled =
          (e.stream streamId).cancelled := by
        simp [popOperation]
      simp only [hstream] at h
      split at h
      · rename_i hcancelled
        cases h
        exact Or.inl ⟨hcancelled, rfl⟩
      · rename_i hlive
        exact Or.inr ⟨by simpa using hlive, Option.some.inj h⟩
    · cases h
  · cases h

theorem openStream_ok {limits : Limits} {metadata : OpenHttpMetadata}
    (h : e.openStream limits streamId metadata = .ok e') :
    ∃ streamLifecycle outboundFlow settled inboundFlow,
      e.tables.streamLifecycle.openStream streamId = .ok streamLifecycle ∧
      e.tables.outboundFlow.openStream streamId metadata.initialWindowBytes =
        .ok (outboundFlow, settled) ∧
      e.tables.inboundFlow.openStream streamId limits.initialStreamWindowBytes =
        .ok inboundFlow ∧
      e' = { e with
        tables :=
          { streams := insert streamId e.tables.streams
            streamLifecycle, outboundFlow, inboundFlow }
        stream := Function.update e.stream streamId
          (.opened metadata.kind metadata.requestBodyEnded)
        grants := e.grants ++ resolved settled } := by
  unfold openStream at h
  split at h
  · cases h
  · rename_i streamLifecycle hlifecycle
    split at h
    · cases h
    · rename_i outboundFlow settled houtbound
      split at h
      · cases h
      · rename_i inboundFlow hinbound
        split at h
        · cases h
        · cases h
          exact ⟨streamLifecycle, outboundFlow, settled, inboundFlow, hlifecycle, houtbound,
            hinbound, rfl⟩

theorem enqueue_ok {stream : ClientStream} {operation : Operation}
    (h : e.enqueue streamId stream operation = .ok e') :
    stream.pendingInboundOperations < MAX_PENDING_STREAM_OPERATIONS ∧
      e.applicationOperations.pending < e.applicationOperations.limit ∧
      e' = { e with
        stream := Function.update e.stream streamId { stream with
          inboundQueue := stream.inboundQueue ++ [operation]
          pendingInboundOperations := stream.pendingInboundOperations + 1 }
        applicationOperations := { e.applicationOperations with
          pending := e.applicationOperations.pending + 1 } } := by
  unfold enqueue enqueueInboundOperation ApplicationOperationBudget.reserve at h
  by_cases hstream : stream.pendingInboundOperations ≥ MAX_PENDING_STREAM_OPERATIONS
  · simp only [hstream, if_true] at h
    cases h
  · by_cases hbudget : e.applicationOperations.pending ≥ e.applicationOperations.limit
    · simp only [hstream, hbudget, if_true, if_false] at h
      cases h
    · simp only [hstream, hbudget, if_false] at h
      cases h
      exact ⟨by omega, by omega, rfl⟩

theorem acceptData_ok {limits : Limits} (h : e.acceptData limits streamId bytes = .ok e') :
    ∃ inboundFlow, e.tables.inboundFlow.consume streamId bytes = .ok inboundFlow ∧
      ({ e with tables := { e.tables with inboundFlow } } : Endpoint).enqueue streamId
        (countData (e.stream streamId) bytes).touchClientStream (.data bytes) = .ok e' := by
  unfold acceptData at h
  dsimp only at h
  split at h
  · cases h
  · split at h
    · cases h
    · rename_i inboundFlow hconsume
      exact ⟨inboundFlow, hconsume, h⟩

theorem acceptUpdate_ok (h : e.acceptUpdate streamId bytes = .ok e') :
    ∃ outboundFlow settled,
      e.tables.outboundFlow.update streamId bytes = .ok (outboundFlow, settled) ∧
      e' = { e with
        tables := { e.tables with outboundFlow }
        grants := e.grants ++ resolved settled } := by
  unfold acceptUpdate at h
  split at h
  · cases h
  · rename_i outboundFlow settled hupdate
    cases h
    exact ⟨outboundFlow, settled, hupdate, rfl⟩

theorem acceptReset_ok (h : e.acceptReset streamId = .ok e') :
    (cancelClientStream e.tables streamId (e.stream streamId) .remoteReset).error = none ∧
      e' = e.absorb streamId
        (cancelClientStream e.tables streamId (e.stream streamId) .remoteReset) := by
  unfold acceptReset at h
  dsimp only at h
  split at h
  · cases h
  · rename_i hcancel
    cases h
    exact ⟨hcancel, rfl⟩

/-- A frame is one that opens a stream, one of a retired stream, or one of a live stream. -/
theorem handleGatewayFrame_ok {limits : Limits} {frame : StreamFrame}
    (h : e.handleGatewayFrame limits frame = .ok e') :
    (∃ metadata, frame.body = .openHttp (.ok metadata) ∧
        e.openStream limits frame.streamId metadata = .ok e') ∨
      (e.tables.streamLifecycle.isRetired frame.streamId = true ∧
        (∀ metadata, frame.body ≠ .openHttp metadata) ∧
        ∃ inboundFlow, validateRetiredGatewayFrame e.tables.inboundFlow frame = .ok inboundFlow ∧
          e' = { e with tables := { e.tables with inboundFlow } }) ∨
      (frame.streamId ∈ e.tables.streamLifecycle.active ∧ frame.streamId ∈ e.tables.streams ∧
        (e.stream frame.streamId).cancelled = false ∧
        (∀ metadata, frame.body ≠ .openHttp metadata) ∧ e.acceptActive limits frame = .ok e') := by
  unfold handleGatewayFrame at h
  split at h
  · rename_i metadata hbody
    split at h
    · cases h
    · split at h
      · cases h
      · rename_i metadata
        exact Or.inl ⟨metadata, hbody, h⟩
  · rename_i hbody
    split at h
    · rename_i hretired
      split at h
      · cases h
      · rename_i inboundFlow hvalid
        cases h
        exact Or.inr (Or.inl ⟨hretired, hbody, inboundFlow, hvalid, rfl⟩)
    · split at h
      · cases h
      · rename_i hrequired
        split at h
        · cases h
        · rename_i hlive
          simp only [not_or, not_not, Bool.not_eq_true] at hlive
          refine Or.inr (Or.inr ⟨?_, hlive.1, hlive.2, hbody, h⟩)
          unfold RemoteStreamLifecycle.requireActive at hrequired
          split_ifs at hrequired with hactive
          exact hactive

end Endpoint

end Lotur.Client
