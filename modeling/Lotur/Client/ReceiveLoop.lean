import Lotur.Client.Endpoint
import Lotur.Library.Execution

/-! The message handler of `connectTunnelClient`: frames wait in the receive queue until
SESSION_ACTIVE and are handled at once afterwards. A message is what `decodeEnvelope` returns
or throws; the decoder lets control frames through only on stream 0, and PING only without a
payload. Addresses, secrets, ids, fingerprints and digests are tokens that are only compared. -/
namespace Lotur.Client.ReceiveLoop

abbrev Token := ℕ

structure SessionProvisionedMetadata where
  tunnelId : Token
  shareUrl : Token
  provisionId : Token
  resumeSecret : Token
  deriving DecidableEq, Repr

structure SessionConfigSnapshot where
  generation : ℕ
  localOriginFingerprint : Token
  originProjection : Token
  initialConnectionWindowBytes : ℕ
  limits : Limits
  deriving DecidableEq, Repr

structure SessionConfigMetadata where
  revision : ℕ
  digest : Token
  snapshot : SessionConfigSnapshot
  deriving DecidableEq, Repr

structure SessionActiveMetadata where
  generation : ℕ
  tunnelId : Token
  shareUrl : Token
  deriving DecidableEq, Repr

inductive Control where
  | ping
  | connectionError (code : Except JsError String)
  | sessionProvisioned (metadata : Except JsError SessionProvisionedMetadata)
  | sessionConfig (metadata : Except JsError SessionConfigMetadata)
  | sessionActive (metadata : Except JsError SessionActiveMetadata)
  | other (type : ℕ)

def Control.type : Control → ℕ
  | .ping => 1
  | .connectionError _ => 9
  | .sessionProvisioned _ => 4
  | .sessionConfig _ => 5
  | .sessionActive _ => 7
  | .other type => type

/-- A frame of stream 0, the OPEN_PROBE of a stream, or an application frame. -/
inductive Frame where
  | control (control : Control)
  | openProbe (streamId : ℕ) (initialWindowBytes : Except JsError ℕ)
  | stream (frame : StreamFrame)

structure Envelope where
  generation : ℕ
  frame : Frame

/-- A text message and bytes that are no envelope come as the error they lead to. -/
abbrev Message := Except JsError Envelope

structure Input where
  tunnelId : Token
  resumeSecret : Option Token
  localOriginFingerprint : Token
  originProjection : Token
  deriving DecidableEq, Repr

def MAX_PENDING_ACTIVATION_FRAMES : ℕ := 64
def MAX_PENDING_CONTROL_FRAMES : ℕ := 64

/-- The variables of `connectTunnelClient` that frames read and write. The flow windows of the
endpoint count only once `configured` is set, which happens together with their creation. -/
structure Session where
  active : Bool
  generation : ℕ
  pendingPongs : ℕ
  provisioned : Option SessionProvisionedMetadata
  resumeSecret : Option Token
  configured : Option SessionConfigMetadata
  localConnectAddress : Option Token
  localOriginReady : Option Bool
  probeStreamId : Option ℕ
  probeEnded : Bool
  endpoint : Endpoint

/-- Where a queued handler waits: for a carrier send after which it returns, for the local
origin, for the WINDOW_UPDATE of probe DATA, for one DATA frame of the echo with this many bytes
left, or for credit that no other handler can bring. -/
inductive Await where
  | sending
  | probing
  | crediting (streamId bytes : ℕ)
  | echoing (streamId remaining : ℕ)
  | starved
  deriving DecidableEq, Repr

inductive Outcome where
  | done
  | awaits (await : Await)
  | throws (error : JsError)

namespace Session

def setTables (session : Session) (tables : Tables) : Session :=
  { session with endpoint := { session.endpoint with tables } }

/-- `sendFlowControlledData` for what is left of the probe's payload. -/
def echo (session : Session) (streamId remaining : ℕ) : Session × Outcome :=
  if remaining = 0 then (session, .done)
  else match session.endpoint.tables.outboundFlow.take streamId
      (min MAX_DATA_CHUNK_BYTES remaining) with
  | .error error => (session, .throws error)
  | .ok (outboundFlow, settled) =>
    let session := session.setTables { session.endpoint.tables with outboundFlow }
    match (resolved settled).lookup streamId with
    | none => (session, .awaits .starved)
    | some bytes => (session, .awaits (.echoing streamId (remaining - bytes)))

def handleProvisioned (input : Input) (session : Session)
    (received : SessionProvisionedMetadata) : Session × Outcome :=
  if received.tunnelId ≠ input.tunnelId then
    (session, .throws (.error "SESSION_PROVISIONED tunnel mismatch"))
  else ({ session with
    provisioned := some received
    resumeSecret := some received.resumeSecret }, .done)

/-- SESSION_CONFIG up to its first `await`. -/
def handleConfig (input : Input) (session : Session) (generation : ℕ)
    (received : SessionConfigMetadata) : Session × Outcome :=
  if received.snapshot.generation ≠ generation ∨
      received.snapshot.localOriginFingerprint ≠ input.localOriginFingerprint ∨
      received.snapshot.originProjection ≠ input.originProjection then
    (session, .throws (.error "SESSION_CONFIG does not match requested local origin"))
  else if input.resumeSecret = none ∧ session.provisioned = none then
    (session, .throws (.error "SESSION_CONFIG arrived before SESSION_PROVISIONED"))
  else if session.configured.any fun configured =>
      configured.revision ≠ received.revision ∨ configured.digest ≠ received.digest then
    (session, .throws (.error "SESSION_CONFIG changed within a candidate generation"))
  else
    let tables := session.endpoint.tables
    let tables := if session.configured.isSome then tables else { tables with
      outboundFlow := .new received.snapshot.initialConnectionWindowBytes
      inboundFlow := .new received.snapshot.initialConnectionWindowBytes 4096 }
    ({ session.setTables tables with configured := some received, generation },
      .awaits (if session.localOriginReady = none then .probing else .sending))

def handleOpenProbe (session : Session) (streamId : ℕ)
    (initialWindowBytes : Except JsError ℕ) : Session × Outcome :=
  match session.configured with
  | none => (session, .throws (.error "OPEN_PROBE arrived before configuration was applied"))
  | some configured =>
    match initialWindowBytes with
    | .error error => (session, .throws error)
    | .ok initialWindowBytes =>
      if session.probeStreamId.isSome then (session, .throws (.error "duplicate OPEN_PROBE"))
      else
        let tables := session.endpoint.tables
        match tables.streamLifecycle.openStream streamId with
        | .error error => (session, .throws error)
        | .ok streamLifecycle =>
          let opened := { session.setTables { tables with streamLifecycle } with
            probeStreamId := some streamId }
          match tables.outboundFlow.openStream streamId initialWindowBytes with
          | .error error => (opened, .throws error)
          | .ok (outboundFlow, _) =>
            match tables.inboundFlow.openStream streamId
                configured.snapshot.limits.initialStreamWindowBytes with
            | .error error =>
              (opened.setTables { tables with streamLifecycle, outboundFlow }, .throws error)
            | .ok inboundFlow =>
              (opened.setTables { tables with streamLifecycle, outboundFlow, inboundFlow }, .done)

/-- A frame of the probe's stream. -/
def handleProbe (session : Session) (frame : StreamFrame) : Session × Outcome :=
  let tables := session.endpoint.tables
  match frame.body with
  | .windowUpdate (.error error) => (session, .throws error)
  | .windowUpdate (.ok bytes) =>
    match tables.outboundFlow.update frame.streamId bytes with
    | .error error => (session, .throws error)
    | .ok (outboundFlow, _) => (session.setTables { tables with outboundFlow }, .done)
  | .data bytes =>
    match tables.inboundFlow.consume frame.streamId bytes with
    | .error error => (session, .throws error)
    | .ok inboundFlow =>
      (session.setTables { tables with inboundFlow }, .awaits (.crediting frame.streamId bytes))
  | .endStream =>
    if session.probeEnded then (session, .throws (.error "duplicate Relay probe END"))
    else
      let session := { session with probeEnded := true }
      match tables.streamLifecycle.close frame.streamId with
      | .error error => (session, .throws error)
      | .ok streamLifecycle => (session.setTables { tables with
          streamLifecycle
          inboundFlow := tables.inboundFlow.closeStream frame.streamId }, .awaits .sending)
  | _ => (session, .throws (.error "SESSION_ACTIVE must follow successful activation checks"))

def handleActive (input : Input) (session : Session) (generation : ℕ)
    (activated : SessionActiveMetadata) : Session × Outcome :=
  if generation ≠ activated.generation ∨ session.configured = none ∨ !session.probeEnded ∨
      session.resumeSecret = none ∨ session.localConnectAddress = none ∨
      activated.tunnelId ≠ input.tunnelId ∨
      session.provisioned.any fun provisioned => activated.shareUrl ≠ provisioned.shareUrl then
    (session, .throws (.error "SESSION_ACTIVE generation mismatch"))
  else
    let tables := session.endpoint.tables
    let outboundFlow := match session.probeStreamId with
      | none => tables.outboundFlow
      | some streamId => (tables.outboundFlow.closeStream streamId).1
    ({ session.setTables { tables with outboundFlow } with
      generation := activated.generation
      active := true }, .done)

/-- The part of the queued handler before activation. -/
def handleActivation (input : Input) (session : Session) (envelope : Envelope) :
    Session × Outcome :=
  match envelope.frame with
  | .control .ping => (session, .awaits .sending)
  | .control (.connectionError (.error error)) => (session, .throws error)
  | .control (.connectionError (.ok code)) => (session, .throws (.error code))
  | .control (.sessionProvisioned metadata) =>
    if input.resumeSecret.isSome ∨ session.provisioned.isSome then
      (session, .throws (.error "unexpected SESSION_PROVISIONED"))
    else match metadata with
    | .error error => (session, .throws error)
    | .ok received => session.handleProvisioned input received
  | .control (.sessionConfig (.error error)) => (session, .throws error)
  | .control (.sessionConfig (.ok received)) =>
    session.handleConfig input envelope.generation received
  | .control (.sessionActive (.error error)) => (session, .throws error)
  | .control (.sessionActive (.ok activated)) =>
    session.handleActive input envelope.generation activated
  | .control (.other _) =>
    (session, .throws (.error "SESSION_ACTIVE must follow successful activation checks"))
  | .openProbe streamId initialWindowBytes => session.handleOpenProbe streamId initialWindowBytes
  | .stream frame =>
    if session.probeStreamId = some frame.streamId then session.handleProbe frame
    else (session, .throws (.error "SESSION_ACTIVE must follow successful activation checks"))

/-- How `handleGatewayFrame` sees a frame: only application frames have a case of their own. -/
def applicationFrame : Frame → StreamFrame
  | .control control => ⟨0, .other control.type⟩
  | .openProbe streamId _ => ⟨streamId, .other 8⟩
  | .stream frame => frame

def dispatchActiveEnvelope (session : Session) (envelope : Envelope) : Except JsError Session :=
  if envelope.generation ≠ session.generation then .error (.error "stale Carrier generation")
  else match envelope.frame with
  | .control .ping =>
    if session.pendingPongs ≥ MAX_PENDING_CONTROL_FRAMES then
      .error (.error "too many pending Carrier PING frames")
    else .ok { session with pendingPongs := session.pendingPongs + 1 }
  | frame =>
    match session.configured, session.localConnectAddress with
    | none, _ => .error (.error "active Session has no configuration")
    | _, none => .error (.error "active Session has no pinned local origin address")
    | some configured, some _ =>
      match session.endpoint.handleGatewayFrame configured.snapshot.limits
          (applicationFrame frame) with
      | .error fault => .error fault.error
      | .ok endpoint => .ok { session with endpoint }

def dispatch (session : Session) : Message → Session × Outcome
  | .error error => (session, .throws error)
  | .ok envelope =>
    match session.dispatchActiveEnvelope envelope with
    | .error error => (session, .throws error)
    | .ok session => (session, .done)

/-- The queued handler up to its first `await`. -/
def handle (input : Input) (session : Session) (message : Message) : Session × Outcome :=
  if session.active then session.dispatch message
  else match message with
  | .error error => (session, .throws error)
  | .ok envelope => session.handleActivation input envelope

/-- The handler behind an `await` that was fulfilled; `address` is what probing found. -/
def proceed (session : Session) (address : Option Token) : Await → Session × Outcome
  | .sending => (session, .done)
  | .probing =>
    ({ session with
      localConnectAddress := address
      localOriginReady := some address.isSome }, .awaits .sending)
  | .crediting streamId bytes =>
    match session.endpoint.tables.inboundFlow.release streamId bytes with
    | .error error => (session, .throws error)
    | .ok inboundFlow =>
      (session.setTables { session.endpoint.tables with inboundFlow }).echo streamId bytes
  | .echoing streamId remaining => session.echo streamId remaining
  | .starved => (session, .awaits .starved)

@[simp] theorem setTables_active (session : Session) (tables : Tables) :
    (session.setTables tables).active = session.active := rfl

theorem echo_active (session : Session) (streamId remaining : ℕ) :
    (session.echo streamId remaining).1.active = session.active := by
  unfold echo
  split_ifs
  · rfl
  · split
    · rfl
    · dsimp only
      split <;> rfl

theorem proceed_active (session : Session) (address : Option Token) (await : Await) :
    (session.proceed address await).1.active = session.active := by
  cases await with
  | sending => rfl
  | probing => rfl
  | starved => rfl
  | echoing streamId remaining => exact echo_active session streamId remaining
  | crediting streamId bytes =>
    simp only [proceed]
    split
    · rfl
    · rw [echo_active, setTables_active]

theorem dispatch_active (session : Session) (message : Message) :
    (session.dispatch message).1.active = session.active := by
  unfold dispatch
  split
  · rfl
  · split
    · rfl
    · rename_i hdispatch
      unfold dispatchActiveEnvelope at hdispatch
      split at hdispatch
      · cases hdispatch
      · split at hdispatch
        · split at hdispatch
          · cases hdispatch
          · cases hdispatch
            rfl
        · split at hdispatch
          · cases hdispatch
          · cases hdispatch
          · split at hdispatch
            · cases hdispatch
            · cases hdispatch
              rfl

theorem handleOpenProbe_active (session : Session) (streamId : ℕ)
    (initialWindowBytes : Except JsError ℕ) :
    (session.handleOpenProbe streamId initialWindowBytes).1.active = session.active := by
  unfold handleOpenProbe
  split
  · rfl
  · split
    · rfl
    · split_ifs
      · rfl
      · dsimp only
        split
        · rfl
        · split
          · rfl
          · split <;> rfl

theorem handleProbe_active (session : Session) (frame : StreamFrame) :
    (session.handleProbe frame).1.active = session.active := by
  unfold handleProbe
  dsimp only
  split
  · rfl
  · split <;> rfl
  · split <;> rfl
  · split_ifs
    · rfl
    · split <;> rfl
  · rfl

theorem dispatch_not_awaits (session : Session) (message : Message) (await : Await) :
    (session.dispatch message).2 ≠ .awaits await := by
  unfold dispatch
  split
  · simp
  · split <;> simp

/-- A handler that starts before activation leaves the session inactive or returns. -/
theorem handleActivation_active (input : Input) (session : Session) (envelope : Envelope)
    (hactive : session.active = false) :
    (session.handleActivation input envelope).1.active = false ∨
      (session.handleActivation input envelope).2 = .done := by
  unfold handleActivation
  split
  · exact Or.inl hactive
  · exact Or.inl hactive
  · exact Or.inl hactive
  · split_ifs
    · exact Or.inl hactive
    · split
      · exact Or.inl hactive
      · unfold handleProvisioned
        split_ifs <;> exact Or.inl hactive
  · exact Or.inl hactive
  · unfold handleConfig
    split_ifs <;> exact Or.inl hactive
  · exact Or.inl hactive
  · unfold handleActive
    split_ifs
    · exact Or.inl hactive
    · exact Or.inr rfl
  · exact Or.inl hactive
  · rw [handleOpenProbe_active]
    exact Or.inl hactive
  · split_ifs
    · rw [handleProbe_active]
      exact Or.inl hactive
    · exact Or.inl hactive

theorem handle_awaits (input : Input) (session : Session) (message : Message) (await : Await)
    (h : (session.handle input message).2 = .awaits await) :
    (session.handle input message).1.active = false := by
  unfold handle at h ⊢
  split_ifs at h ⊢ with hactive
  · exact absurd h (dispatch_not_awaits session message await)
  · have hinactive : session.active = false := by simpa using hactive
    cases message with
    | error error => exact hinactive
    | ok envelope =>
      rcases handleActivation_active input session envelope hinactive with hkept | hdone
      · exact hkept
      · simp only at h
        rw [hdone] at h
        cases h

/-- `fail`, for a socket that is gone: every stream is cancelled and the windows close. -/
def fail (e : Endpoint) : Endpoint :=
  { e with
    tables := { e.tables with
      streams := ∅
      outboundFlow := e.tables.outboundFlow.close.1
      inboundFlow := (e.tables.streams.sort (· ≤ ·)).foldl
        (fun inboundFlow streamId => inboundFlow.closeStream streamId) e.tables.inboundFlow }
    stream := fun streamId =>
      if streamId ∈ e.tables.streams then
        { (e.stream streamId).clearClientStreamTimers with cancelled := true }
      else e.stream streamId }

end Session

/-- The session, the receive queue and the handler that has started. The last four fields
record the messages received and the ones acted on, in order, how many had been acted on when
one was rejected, and those that a handler took up after a protocol error. -/
structure State where
  session : Session
  protocolClosing : Bool
  receiveQueue : List Message
  running : Option Await
  pendingActivationFrames : ℕ
  received : List Message
  handled : List Message
  rejections : List ℕ
  late : List Message

/-- What the event loop of the client does next. One `messages` label holds the message events
of one macrotask; `run` starts the handler at the head of the receive queue. -/
inductive Label where
  | messages (batch : List Message)
  | run
  | settles (fulfilled : Bool) (address : Option Token)
  | pongSettles (fulfilled : Bool)
  | controlFrame
  | resetFails
  | socketClosed
  | application (event : Endpoint.Event)

namespace State

def closeForProtocolError (s : State) : State := { s with protocolClosing := true }

/-- The handler takes up a message. -/
def takeUp (s : State) (message : Message) : State :=
  { s with
    handled := s.handled ++ [message]
    late := if s.protocolClosing then s.late ++ [message] else s.late }

def reject (s : State) : State :=
  { s.closeForProtocolError with rejections := s.rejections ++ [s.handled.length] }

/-- A queued handler that stops: it returns, waits, or throws into the catch of the queue. -/
def conclude (s : State) (session : Session) : Outcome → State
  | .done => { s with
      session
      running := none
      pendingActivationFrames := s.pendingActivationFrames - 1 }
  | .awaits await => { s with session, running := some await }
  | .throws _ => ({ s with
      session
      running := none
      pendingActivationFrames := s.pendingActivationFrames - 1 }).reject

/-- A message of an active session is handled inside the event. -/
def handleNow (s : State) (message : Message) : State :=
  match s.session.dispatch message with
  | (session, .throws _) => ({ s.takeUp message with session }).reject
  | (session, _) => { s.takeUp message with session }

/-- The listener of the `message` event. -/
def receive (s : State) (message : Message) : State :=
  let s := { s with received := s.received ++ [message] }
  if s.protocolClosing then s
  else if s.session.active then s.handleNow message
  else
    let s := { s with pendingActivationFrames := s.pendingActivationFrames + 1 }
    if s.pendingActivationFrames > MAX_PENDING_ACTIVATION_FRAMES then s.closeForProtocolError
    else { s with receiveQueue := s.receiveQueue ++ [message] }

end State

/-- Message events come only between macrotasks, when every handler that could start without
waiting has run; everything else may happen at any time. -/
def step (input : Input) (s : State) : Label → Option State
  | .messages batch =>
    if s.running.isSome ∨ s.receiveQueue.isEmpty then some (batch.foldl State.receive s) else none
  | .run =>
    match s.running, s.receiveQueue with
    | none, message :: receiveQueue =>
      let (session, outcome) := s.session.handle input message
      some (({ s with receiveQueue }.takeUp message).conclude session outcome)
    | _, _ => none
  | .settles fulfilled address =>
    match s.running with
    | none => none
    | some await =>
      match fulfilled, await with
      | true, .starved | false, .probing => none
      | true, await =>
        let (session, outcome) := s.session.proceed address await
        some (s.conclude session outcome)
      | false, _ => some (s.conclude s.session (.throws (.error "Carrier send failed")))
  | .pongSettles fulfilled =>
    if s.session.pendingPongs = 0 then none
    else
      let s := { s with session := { s.session with
        pendingPongs := s.session.pendingPongs - 1 } }
      some (if fulfilled then s else s.closeForProtocolError)
  | .controlFrame | .resetFails => some s.closeForProtocolError
  | .socketClosed =>
    some { s with session := { s.session with endpoint := Session.fail s.session.endpoint } }
  | .application event =>
    if s.session.active then
      match s.session.endpoint.step event with
      | none => none
      | some (.error _) => some s.closeForProtocolError
      | some (.ok endpoint) => some { s with session := { s.session with endpoint } }
    else none

/-- A new connection. -/
def start (input : Input) : State where
  session :=
    { active := false
      generation := 0
      pendingPongs := 0
      provisioned := none
      resumeSecret := input.resumeSecret
      configured := none
      localConnectAddress := none
      localOriginReady := none
      probeStreamId := none
      probeEnded := false
      endpoint :=
        { tables :=
            { streams := ∅
              streamLifecycle := .new
              outboundFlow := .new 0
              inboundFlow := .new 0 4096 }
          stream := fun _ => .absent
          applicationOperations := { limit := MAX_PENDING_APPLICATION_OPERATIONS, pending := 0 }
          grants := []
          crediting := ∅
          endSends := ∅
          outbox := [] } }
  protocolClosing := false
  receiveQueue := []
  running := none
  pendingActivationFrames := 0
  received := []
  handled := []
  rejections := []
  late := []

/-- The messages acted on are the first ones received, nothing is acted on behind a rejected
one, and no handler takes up a message after a protocol error. -/
def ActsOnPrefix (s : State) : Prop :=
  s.handled <+: s.received ∧ (∀ count ∈ s.rejections, count = s.handled.length) ∧ s.late = []

/-- A step that raises the protocol error finds no other message in the receive queue. -/
def RaisesAlone (input : Input) (s : State) (a : Label) : Prop :=
  match step input s a with
  | none => True
  | some s' => s.protocolClosing = false → s'.protocolClosing = true → s'.receiveQueue = []

instance (messages : List Message) : Decidable (messages = []) :=
  decidable_of_iff (messages.isEmpty = true) List.isEmpty_iff

instance (input : Input) (s : State) (a : Label) : Decidable (RaisesAlone input s a) :=
  match h : step input s a with
  | none => isTrue (by simp [RaisesAlone, h])
  | some s' => decidable_of_iff
      (s.protocolClosing = false → s'.protocolClosing = true → s'.receiveQueue = [])
      (by simp [RaisesAlone, h])

/-- What holds whether or not the receive queue is empty when an error is raised. -/
structure Ordered (s : State) : Prop where
  serial : s.session.active = true → s.running = none
  order : s.protocolClosing = false → s.received = s.handled ++ s.receiveQueue
  segment : s.handled <+: s.received
  rejected : ∀ count ∈ s.rejections, s.protocolClosing = true ∧ count = s.handled.length
  late : s.late = []

structure Inv (s : State) : Prop extends Ordered s where
  closed : s.protocolClosing = true → s.receiveQueue = []

theorem Inv.actsOnPrefix {s : State} (h : Inv s) : ActsOnPrefix s :=
  ⟨h.segment, fun count hcount => (h.rejected count hcount).2, h.late⟩

theorem start_inv (input : Input) : Inv (start input) where
  serial := by intro h; cases h
  order := fun _ => rfl
  segment := List.nil_prefix
  rejected := by intro count hcount; cases hcount
  late := rfl
  closed := fun _ => rfl

theorem closeForProtocolError_ordered {s : State} (h : Ordered s) :
    Ordered s.closeForProtocolError where
  serial := h.serial
  order := by intro hclosing; cases hclosing
  segment := h.segment
  rejected := fun count hcount => ⟨rfl, (h.rejected count hcount).2⟩
  late := h.late

theorem reject_ordered {s : State} (h : Ordered s) : Ordered s.reject where
  serial := h.serial
  order := by intro hclosing; cases hclosing
  segment := h.segment
  rejected := by
    intro count hcount
    rcases List.mem_append.mp hcount with hold | hnew
    · exact ⟨rfl, (h.rejected count hold).2⟩
    · exact ⟨rfl, List.mem_singleton.mp hnew⟩
  late := h.late

theorem session_ordered {s : State} (h : Ordered s) (session : Session)
    (hactive : session.active = true → s.running = none) : Ordered { s with session } where
  serial := hactive
  order := h.order
  segment := h.segment
  rejected := h.rejected
  late := h.late

theorem conclude_ordered {s : State} (h : Ordered s) (session : Session) (outcome : Outcome)
    (hawaits : ∀ await, outcome = .awaits await → session.active = false) :
    Ordered (s.conclude session outcome) := by
  have hstopped : Ordered { s with
      session
      running := none
      pendingActivationFrames := s.pendingActivationFrames - 1 } :=
    { serial := fun _ => rfl
      order := h.order
      segment := h.segment
      rejected := h.rejected
      late := h.late }
  cases outcome with
  | done => exact hstopped
  | throws error => exact reject_ordered hstopped
  | awaits await =>
    refine
      { serial := ?_
        order := h.order
        segment := h.segment
        rejected := h.rejected
        late := h.late }
    intro hactive
    have hinactive := hawaits await rfl
    rw [show session.active = true from hactive] at hinactive
    cases hinactive

/-- A message of the queue that a handler takes up moves from the queue to what is handled. -/
theorem takeUp_ordered {s : State} (h : Ordered s) {message : Message}
    {receiveQueue : List Message} (hclosing : s.protocolClosing = false)
    (hqueue : s.receiveQueue = message :: receiveQueue) :
    Ordered ({ s with receiveQueue }.takeUp message) := by
  have horder := h.order hclosing
  rw [hqueue] at horder
  have hmoved : s.received = (s.handled ++ [message]) ++ receiveQueue := by
    rw [horder, List.append_assoc]
    rfl
  refine
    { serial := h.serial
      order := fun _ => hmoved
      segment := ⟨receiveQueue, hmoved.symm⟩
      rejected := ?_
      late := ?_ }
  · intro count hcount
    have hraised := (h.rejected count hcount).1
    rw [hclosing] at hraised
    cases hraised
  · simpa [State.takeUp, hclosing] using h.late

theorem handleNow_ordered {s : State} (h : Ordered s) (message : Message)
    (hclosing : s.protocolClosing = false) (hactive : s.session.active = true)
    (hqueue : s.receiveQueue = []) :
    Ordered ({ s with received := s.received ++ [message] }.handleNow message) := by
  have horder := h.order hclosing
  rw [hqueue, List.append_nil] at horder
  have htaken : Ordered ({ s with received := s.received ++ [message] }.takeUp message) := by
    refine
      { serial := h.serial
        order := ?_
        segment := ?_
        rejected := ?_
        late := ?_ }
    · intro _
      show s.received ++ [message] = (s.handled ++ [message]) ++ s.receiveQueue
      rw [horder, hqueue, List.append_nil]
    · show s.handled ++ [message] <+: s.received ++ [message]
      rw [horder]
    · intro count hcount
      have hraised := (h.rejected count hcount).1
      rw [hclosing] at hraised
      cases hraised
    · simpa [State.takeUp, hclosing] using h.late
  have hkept : ∀ session outcome, s.session.dispatch message = (session, outcome) →
      Ordered { { s with received := s.received ++ [message] }.takeUp message with session } := by
    intro session outcome hdispatch
    refine session_ordered htaken session fun _ => h.serial hactive
  unfold State.handleNow
  split
  · rename_i session error hdispatch
    exact reject_ordered (hkept session _ hdispatch)
  · rename_i session outcome _ hdispatch
    exact hkept session _ hdispatch

/-- While message events come in, an active session has nothing queued. -/
structure Receiving (s : State) : Prop extends Ordered s where
  direct : s.session.active = true → s.receiveQueue = []

theorem ignored_receiving {s : State} (h : Receiving s) (message : Message)
    (hclosing : s.protocolClosing = true) :
    Receiving { s with received := s.received ++ [message] } where
  serial := h.serial
  order := by
    intro hopen
    rw [show s.protocolClosing = false from hopen] at hclosing
    cases hclosing
  segment := h.segment.trans (List.prefix_append s.received [message])
  rejected := h.rejected
  late := h.late
  direct := h.direct

theorem enqueued_receiving {s : State} (h : Receiving s) (message : Message)
    (hclosing : s.protocolClosing = false) (hactive : s.session.active = false) :
    Receiving { s with
      received := s.received ++ [message]
      pendingActivationFrames := s.pendingActivationFrames + 1
      receiveQueue := s.receiveQueue ++ [message] } where
  serial := h.serial
  order := by
    intro _
    show s.received ++ [message] = s.handled ++ (s.receiveQueue ++ [message])
    rw [h.order hclosing, List.append_assoc]
  segment := h.segment.trans (List.prefix_append s.received [message])
  rejected := h.rejected
  late := h.late
  direct := by
    intro hnow
    rw [show s.session.active = true from hnow] at hactive
    cases hactive

theorem overflowed_receiving {s : State} (h : Receiving s) (message : Message)
    (hactive : s.session.active = false) :
    Receiving ({ s with
      received := s.received ++ [message]
      pendingActivationFrames := s.pendingActivationFrames + 1 }).closeForProtocolError where
  serial := h.serial
  order := by intro hclosing; cases hclosing
  segment := h.segment.trans (List.prefix_append s.received [message])
  rejected := fun count hcount => ⟨rfl, (h.rejected count hcount).2⟩
  late := h.late
  direct := by
    intro hnow
    rw [show s.session.active = true from hnow] at hactive
    cases hactive

theorem handleNow_receiveQueue (s : State) (message : Message) :
    (s.handleNow message).receiveQueue = s.receiveQueue := by
  unfold State.handleNow
  split <;> rfl

theorem receive_receiving {s : State} (h : Receiving s) (message : Message) :
    Receiving (s.receive message) := by
  unfold State.receive
  dsimp only
  split_ifs with hclosing hactive hfull
  · exact ignored_receiving h message hclosing
  · have hopen : s.protocolClosing = false := by simpa using hclosing
    have hempty := h.direct hactive
    refine { handleNow_ordered h.toOrdered message hopen hactive hempty with direct := ?_ }
    intro _
    rw [handleNow_receiveQueue]
    exact hempty
  · have hinactive : s.session.active = false := by simpa using hactive
    exact overflowed_receiving h message hinactive
  · have hopen : s.protocolClosing = false := by simpa using hclosing
    have hinactive : s.session.active = false := by simpa using hactive
    exact enqueued_receiving h message hopen hinactive

theorem batch_receiving {s : State} (h : Receiving s) (batch : List Message) :
    Receiving (batch.foldl State.receive s) := by
  induction batch generalizing s with
  | nil => exact h
  | cons message batch ih => exact ih (receive_receiving h message)

/-- After the error, message events only add to what was received. -/
theorem batch_closing {s : State} (batch : List Message) (hclosing : s.protocolClosing = true) :
    (batch.foldl State.receive s).receiveQueue = s.receiveQueue := by
  induction batch generalizing s with
  | nil => rfl
  | cons message batch ih =>
    have hignored : s.receive message = { s with received := s.received ++ [message] } := by
      simp [State.receive, hclosing]
    rw [List.foldl_cons, hignored]
    exact ih hclosing

/-- A queued handler is only ever started before a protocol error. -/
theorem run_ordered {input : Input} {s s' : State} (h : Inv s)
    (hstep : step input s .run = some s') : Ordered s' := by
  simp only [step] at hstep
  split at hstep
  · rename_i message receiveQueue hrunning hqueue
    cases hstep
    have hclosing : s.protocolClosing = false := by
      by_contra hraised
      have hempty := h.closed (by simpa using hraised)
      rw [hqueue] at hempty
      cases hempty
    apply conclude_ordered (takeUp_ordered h.toOrdered hclosing hqueue)
    intro await hawaits
    exact Session.handle_awaits input s.session message await hawaits
  · cases hstep

theorem settles_ordered {input : Input} {s s' : State} {fulfilled : Bool}
    {address : Option Token} (h : Ordered s)
    (hstep : step input s (.settles fulfilled address) = some s') : Ordered s' := by
  have hinactive : s.running ≠ none → s.session.active = false := by
    intro hrunning
    by_contra hactive
    exact hrunning (h.serial (by simpa using hactive))
  simp only [step] at hstep
  split at hstep
  · cases hstep
  · rename_i await hrunning
    have hquiet := hinactive (by simp [hrunning])
    split at hstep
    · cases hstep
    · cases hstep
    · cases hstep
      apply conclude_ordered h
      intro _ _
      rw [Session.proceed_active]
      exact hquiet
    · cases hstep
      apply conclude_ordered h
      intro _ hawaits
      cases hawaits

theorem step_ordered {input : Input} {s s' : State} {a : Label} (h : Inv s)
    (hstep : step input s a = some s') : Ordered s' := by
  cases a with
  | messages batch =>
    simp only [step] at hstep
    split_ifs at hstep with hquiet
    cases hstep
    refine (batch_receiving { h.toOrdered with direct := ?_ } batch).toOrdered
    intro hactive
    rcases hquiet with hrunning | hempty
    · rw [h.serial hactive] at hrunning
      cases hrunning
    · simpa using hempty
  | run => exact run_ordered h hstep
  | settles fulfilled address => exact settles_ordered h.toOrdered hstep
  | pongSettles fulfilled =>
    simp only [step] at hstep
    split_ifs at hstep
    all_goals cases hstep
    · exact session_ordered h.toOrdered _ h.serial
    · exact closeForProtocolError_ordered (session_ordered h.toOrdered _ h.serial)
  | controlFrame =>
    cases hstep
    exact closeForProtocolError_ordered h.toOrdered
  | resetFails =>
    cases hstep
    exact closeForProtocolError_ordered h.toOrdered
  | socketClosed =>
    cases hstep
    exact session_ordered h.toOrdered _ h.serial
  | application event =>
    simp only [step] at hstep
    split_ifs at hstep
    split at hstep
    · cases hstep
    · cases hstep
      exact closeForProtocolError_ordered h.toOrdered
    · cases hstep
      exact session_ordered h.toOrdered _ h.serial

theorem conclude_receiveQueue (s : State) (session : Session) (outcome : Outcome) :
    (s.conclude session outcome).receiveQueue = s.receiveQueue := by
  cases outcome <;> rfl

/-- An empty queue stays empty once messages are ignored. -/
theorem step_closed {input : Input} {s s' : State} {a : Label}
    (hclosing : s.protocolClosing = true) (hempty : s.receiveQueue = [])
    (hstep : step input s a = some s') : s'.receiveQueue = [] := by
  cases a with
  | messages batch =>
    simp only [step] at hstep
    split_ifs at hstep
    cases hstep
    rw [batch_closing batch hclosing]
    exact hempty
  | run =>
    simp only [step] at hstep
    split at hstep
    · rename_i hqueue
      rw [hempty] at hqueue
      cases hqueue
    · cases hstep
  | settles fulfilled address =>
    simp only [step] at hstep
    split at hstep
    · cases hstep
    · split at hstep
      · cases hstep
      · cases hstep
      · cases hstep
        rw [conclude_receiveQueue]
        exact hempty
      · cases hstep
        exact hempty
  | pongSettles fulfilled =>
    simp only [step] at hstep
    split_ifs at hstep
    all_goals cases hstep
    all_goals exact hempty
  | controlFrame =>
    cases hstep
    exact hempty
  | resetFails =>
    cases hstep
    exact hempty
  | socketClosed =>
    cases hstep
    exact hempty
  | application event =>
    simp only [step] at hstep
    split_ifs at hstep
    split at hstep
    all_goals cases hstep
    all_goals exact hempty

theorem step_inv {input : Input} (s : State) (a : Label) (s' : State) (h : Inv s)
    (halone : RaisesAlone input s a) (hstep : step input s a = some s') : Inv s' := by
  refine { step_ordered h hstep with closed := ?_ }
  intro hclosing
  cases hbefore : s.protocolClosing with
  | true => exact step_closed hbefore (h.closed hbefore) hstep
  | false =>
    rw [RaisesAlone, hstep] at halone
    exact halone hbefore hclosing

/-- A client that asks for a new tunnel. -/
def newTunnel : Input where
  tunnelId := 7
  resumeSecret := none
  localOriginFingerprint := 1
  originProjection := 0

def control (control : Control) : Message := .ok ⟨1, .control control⟩

def probe (body : FrameBody) : Message := .ok ⟨1, .stream ⟨1, body⟩⟩

def sessionConfig : SessionConfigMetadata where
  revision := 1
  digest := 5
  snapshot :=
    { generation := 1
      localOriginFingerprint := 1
      originProjection := 0
      initialConnectionWindowBytes := INITIAL_CONNECTION_WINDOW_BYTES
      limits :=
        { maxConcurrentStreams := 128
          initialStreamWindowBytes := INITIAL_STREAM_WINDOW_BYTES
          maxRequestBodyBytes := 16 * 1024 * 1024 } }

def sessionActive : Message := control (.sessionActive (.ok ⟨1, 7, 3⟩))

def openHttp : Message :=
  .ok ⟨1, .stream ⟨3, .openHttp (.ok ⟨.http, true, INITIAL_STREAM_WINDOW_BYTES, true⟩)⟩⟩

/-- The handshake up to the end of the probe, with the queue empty again. -/
def handshake : List Label :=
  [.messages [control (.sessionProvisioned (.ok ⟨7, 3, 4, 9⟩)),
      control (.sessionConfig (.ok sessionConfig))],
    .run, .run, .settles true (some 2), .settles true none,
    .messages [.ok ⟨1, .openProbe 1 (.ok INITIAL_STREAM_WINDOW_BYTES)⟩, probe (.data 32),
      probe .endStream],
    .run, .run, .settles true none, .settles true none, .run, .settles true none]

end Lotur.Client.ReceiveLoop
