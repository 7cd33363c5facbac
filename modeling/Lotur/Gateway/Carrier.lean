import Lotur.Protocol.SessionState
import Lotur.Relay.StreamIds
import Lotur.Relay.Carrier

/-! `attachGatewayCarrier`: the receive queue of every carrier socket, the handshake from HELLO
to activation, and `cleanup`. Handlers are cut at their `await`s; a label says which event of
the gateway process comes next. Application streams are left to the streams' own modules, and
tunnel ids, secrets, receipts and digests are tokens that are only compared. -/
namespace Lotur.Gateway

abbrev Token := ℕ

inductive OriginProjection
  | localView
  | proxyAware
  deriving DecidableEq, Repr

inductive HelloMode
  | create
  | resume (resumeSecret : Token)
  deriving DecidableEq, Repr

structure HelloMetadata where
  mode : HelloMode
  tunnelId : Token
  localOriginFingerprint : Token
  originProjection : OriginProjection
  deriving DecidableEq, Repr

/-- The part of a configuration snapshot that differs between sessions of one gateway. -/
structure SessionConfigSnapshot where
  generation : ℕ
  localOriginFingerprint : Token
  originProjection : OriginProjection
  publicOrigin : Token
  deriving DecidableEq, Repr

structure SessionConfigMetadata where
  revision : ℕ
  digest : Token
  snapshot : SessionConfigSnapshot
  deriving DecidableEq, Repr

/-- `result` is `APPLIED` when `applied` holds and `REJECTED` otherwise. -/
structure ConfigAppliedMetadata where
  revision : ℕ
  digest : Token
  applied : Bool
  localOriginReady : Bool
  provisionReceipt : Option Token
  deriving DecidableEq, Repr

/-- A decoded frame; `none` stands for metadata that the frame's own decoder rejects. -/
inductive Frame
  | ping
  | pong
  | hello (metadata : Option HelloMetadata)
  | configApplied (metadata : Option ConfigAppliedMetadata)
  | closeSession
  | data (streamId : ℕ) (payload : List UInt8)
  | endStream (streamId : ℕ)
  | windowUpdate (streamId : ℕ) (bytes : Option ℕ)
  | other (streamId : ℕ)
  deriving DecidableEq, Repr

structure Envelope where
  generation : ℕ
  frame : Frame
  deriving DecidableEq, Repr

/-- A message event; `none` is one that is not binary or not an envelope. -/
structure Message where
  byteLength : ℕ
  envelope : Option Envelope
  deriving DecidableEq, Repr

structure Owner where
  accountId : Token
  accountAuthVersion : ℕ
  deriving DecidableEq, Repr

/-- `purpose` is `"resume"` when `forResume` holds and `"create"` otherwise. -/
structure DeveloperAuthorization where
  owner : Owner
  forResume : Bool
  tunnelId : Token
  deriving DecidableEq, Repr

def resumeOwnerAuthorizationMatches (existing candidate : Option Owner) : Bool :=
  existing.map Owner.accountId = candidate.map Owner.accountId &&
    existing.map Owner.accountAuthVersion = candidate.map Owner.accountAuthVersion

/-- `id` is the identity of the probe object, which the code compares after its awaits. -/
structure Probe where
  id : ℕ
  streamId : ℕ
  expected : List UInt8
  received : List (List UInt8)
  receivedBytes : ℕ
  clientEnded : Bool
  deriving DecidableEq, Repr

/-- The flow windows are followed from HELLO to activation only. -/
structure GatewaySession where
  tunnelId : Token
  socket : ℕ
  streamIds : GatewayStreamIds
  outboundFlow : OutboundFlowWindow
  inboundFlow : GatewayInboundFlow
  generation : ℕ
  revision : ℕ
  config : SessionConfigMetadata
  lifecycle : SessionState
  provisionId : Option Token
  appliedConfig : Option ConfigAppliedMetadata
  probe : Option Probe
  resumeDigest : Token
  owner : Option Owner
  terminal : Bool

/-- Flow windows are replaced together with the socket, so the two numbers identify the
epoch. -/
structure GatewayTransportEpoch where
  socket : ℕ
  generation : ℕ
  deriving DecidableEq, Repr

/-- Where the handler at the head of a receive queue waits for a carrier send. -/
inductive Await
  | rejecting
  | provisioning (key : ℕ)
  | configuring (key : ℕ) (transport : GatewayTransportEpoch) (config : SessionConfigMetadata)
  | ponging
  | probeOpening (key : ℕ) (transport : GatewayTransportEpoch) (probe : Probe)
  | probeSending (key : ℕ) (transport : GatewayTransportEpoch) (probe : Probe)
  | probeEnding
  | probeCrediting (key : ℕ) (transport : GatewayTransportEpoch) (probeId streamId bytes : ℕ)
  | activating
  | application
  deriving DecidableEq, Repr

/-- A socket with the closure variables of `attachGatewayCarrier`. `running` is the handler
that has started, with the size of its message. -/
structure Carrier where
  isOpen : Bool
  developerAuthorization : Option DeveloperAuthorization
  session : Option ℕ
  connectionMode : Option HelloMode
  resumeAttemptId : Option ℕ
  receiveQueue : List Message
  running : Option (Await × ℕ)
  pendingCarrierFrames : ℕ
  pendingCarrierBytes : ℕ
  receiveFailed : Bool
  cleanedUp : Bool

def Carrier.new (developerAuthorization : Option DeveloperAuthorization) : Carrier where
  isOpen := true
  developerAuthorization := developerAuthorization
  session := none
  connectionMode := none
  resumeAttemptId := none
  receiveQueue := []
  running := none
  pendingCarrierFrames := 0
  pendingCarrierBytes := 0
  receiveFailed := false
  cleanedUp := false

/-- What happened so far, for statements about the past of a session. -/
inductive Event
  | created (socket key : ℕ) (hello : HelloMetadata) (registered : Bool) (provisionId : Token)
  | resumed (socket key generation : ℕ) (hello : HelloMetadata) (now : ℕ)
      (existing : GatewaySession) (authorization : Option Owner)
  | configSent (socket key : ℕ) (config : SessionConfigMetadata)
  | configApplied (socket key : ℕ) (config : SessionConfigMetadata)
      (applied : ConfigAppliedMetadata) (nonce : List UInt8)
  | probeData (socket key : ℕ) (payload : List UInt8)
  | activated (socket key generation : ℕ) (current : GatewayTransportEpoch)
      (isReady canActivateTunnel : Bool)
  | application (socket key generation : ℕ)

structure Context where
  requireAuthorization : Bool
  sessionPolicy : SessionPolicy
  maxPendingCarrierFrames : ℕ
  maxPendingCarrierBytes : ℕ
  maxPendingTunnels : ℕ
  maxActiveTunnels : ℕ
  maxTunnelsPerAccount : ℕ
  digestResumeSecret : Token → Token
  digestSessionConfig : SessionConfigSnapshot → Token

/-- What a handler reads of the rest of the gateway when it runs: the clock, admission, the
carriers and credentials that count as pending, and the random nonce. -/
structure Moment where
  now : ℕ
  isReady : Bool
  pendingElsewhere : ℕ
  reservedByAccount : ℕ
  nonce : List UInt8
  deriving DecidableEq, Repr

/-- `heap` holds every session object ever made, `sessions` the registry by tunnel id, and
`drawn` the number of random tokens drawn. -/
structure State where
  carriers : ℕ → Carrier
  heap : ℕ → GatewaySession
  sessionCount : ℕ
  sessions : Token → Option ℕ
  drawn : ℕ
  log : List Event

namespace State

def setCarrier (s : State) (socket : ℕ) (carrier : Carrier) : State :=
  { s with carriers := Function.update s.carriers socket carrier }

def setSession (s : State) (key : ℕ) (session : GatewaySession) : State :=
  { s with heap := Function.update s.heap key session }

def record (s : State) (event : Event) : State := { s with log := s.log ++ [event] }

/-- `sessions.get(session.tunnelId) === session`. -/
def isRegistered (s : State) (key : ℕ) : Bool := s.sessions (s.heap key).tunnelId = some key

def closeSocket (s : State) (socket : ℕ) : State :=
  s.setCarrier socket { s.carriers socket with isOpen := false }

def dequeue (s : State) (socket : ℕ) (rest : List Message) : State :=
  s.setCarrier socket { s.carriers socket with receiveQueue := rest }

/-- The handler waits for a carrier send. -/
def await (s : State) (socket bytes : ℕ) (await : Await) : State :=
  s.setCarrier socket { s.carriers socket with running := some (await, bytes) }

/-- The handler returns, and `finally` takes its message off the pending counters. -/
def finish (s : State) (socket bytes : ℕ) : State :=
  s.setCarrier socket { s.carriers socket with
    running := none
    pendingCarrierFrames := (s.carriers socket).pendingCarrierFrames - 1
    pendingCarrierBytes := (s.carriers socket).pendingCarrierBytes - bytes }

/-- The handler throws: the catch block stops the receive queue and closes the socket. -/
def fail (s : State) (socket bytes : ℕ) : State :=
  (s.setCarrier socket
    { s.carriers socket with receiveFailed := true, isOpen := false }).finish socket bytes

/-- `rejectCarrier` waits for its CONNECTION_ERROR only on an open socket. -/
def rejectCarrier (s : State) (socket bytes : ℕ) : State :=
  if (s.carriers socket).isOpen then s.await socket bytes .rejecting
  else (s.closeSocket socket).finish socket bytes

def captureGatewayTransport (s : State) (key : ℕ) : GatewayTransportEpoch :=
  { socket := (s.heap key).socket, generation := (s.heap key).generation }

def isCurrentGatewaySessionTransport (s : State) (key : ℕ)
    (transport : GatewayTransportEpoch) : Bool :=
  s.isRegistered key && s.captureGatewayTransport key = transport

def disposeActivationCandidate (s : State) (key : ℕ) : State :=
  s.setSession key { s.heap key with
    probe := none
    outboundFlow := (s.heap key).outboundFlow.close.1 }

def remove (s : State) (key : ℕ) : State :=
  if s.isRegistered key then
    { s with sessions := Function.update s.sessions (s.heap key).tunnelId none }
  else s

/-- `disposeGatewaySession` followed by closing the session's socket, as `expireGatewaySession`
and `terminateGatewaySession` do. -/
def disposeGatewaySession (s : State) (key : ℕ) : State :=
  if s.isRegistered key then
    (((s.setSession key { s.heap key with terminal := true }).disposeActivationCandidate
      key).remove key).closeSocket (s.heap key).socket
  else s

/-- `applySessionTransition`, with `false` for a session that has expired. -/
def applySessionTransition (s : State) (key : ℕ) (next : SessionState) : State × Bool :=
  let applied := s.setSession key { s.heap key with lifecycle := next }
  match next with
  | .EXPIRED _ _ => (applied.disposeGatewaySession key, false)
  | _ => (applied, true)

def registered (s : State) : List GatewaySession :=
  ((List.range s.sessionCount).filter s.isRegistered).map s.heap

def isPending (session : GatewaySession) : Bool :=
  match session.lifecycle with
  | .CREATING => true
  | _ => false

def isLive (session : GatewaySession) : Bool :=
  match session.lifecycle with
  | .ACTIVE _ | .RECONNECTING _ => true
  | _ => false

def ownedBy (accountId : Option Token) (session : GatewaySession) : Bool :=
  accountId.isSome && session.owner.map Owner.accountId = accountId

def canAdmitNewTunnel (s : State) (ctx : Context) (moment : Moment) (accountId : Option Token) :
    Bool :=
  let counted := s.registered.filter fun session => !session.terminal
  decide (moment.pendingElsewhere + counted.countP isPending < ctx.maxPendingTunnels) &&
    decide (counted.countP isLive < ctx.maxActiveTunnels) &&
    (accountId = none ||
      decide (moment.reservedByAccount + counted.countP (ownedBy accountId) <
        ctx.maxTunnelsPerAccount))

def canActivateTunnel (s : State) (ctx : Context) (key : ℕ) : Bool :=
  let others := (((List.range s.sessionCount).filter s.isRegistered).filter
    fun other => other ≠ key).map s.heap |>.filter fun session => !session.terminal
  let accountId := (s.heap key).owner.map Owner.accountId
  decide (others.countP isLive < ctx.maxActiveTunnels) &&
    (accountId = none || decide (others.countP (ownedBy accountId) < ctx.maxTunnelsPerAccount))

section Frames

variable (s : State) (socket key : ℕ) (carrier : Carrier) (session : GatewaySession)

@[simp] theorem setCarrier_self : (s.setCarrier socket carrier).carriers socket = carrier := by
  simp [setCarrier]

@[simp] theorem setCarrier_heap : (s.setCarrier socket carrier).heap = s.heap := rfl

theorem setCarrier_of_ne {other : ℕ} (h : other ≠ socket) :
    (s.setCarrier socket carrier).carriers other = s.carriers other := by
  simp [setCarrier, h]

@[simp] theorem setSession_self : (s.setSession key session).heap key = session := by
  simp [setSession]

theorem setSession_of_ne {other : ℕ} (h : other ≠ key) :
    (s.setSession key session).heap other = s.heap other := by
  simp [setSession, h]

end Frames

/-- The parts of the closure that outlive a handler. -/
structure SameClosure (before after : Carrier) : Prop where
  session : after.session = before.session
  connectionMode : after.connectionMode = before.connectionMode
  resumeAttemptId : after.resumeAttemptId = before.resumeAttemptId
  cleanedUp : after.cleanedUp = before.cleanedUp

/-- Steps that only move a receive queue: no session, registry or closure variable changes. -/
structure Bookkeeping (s s' : State) : Prop where
  heap : s'.heap = s.heap
  sessionCount : s'.sessionCount = s.sessionCount
  sessions : s'.sessions = s.sessions
  drawn : s'.drawn = s.drawn
  closure : ∀ socket, SameClosure (s.carriers socket) (s'.carriers socket)

theorem SameClosure.refl (carrier : Carrier) : SameClosure carrier carrier := ⟨rfl, rfl, rfl, rfl⟩

theorem SameClosure.trans {a b c : Carrier} (hab : SameClosure a b) (hbc : SameClosure b c) :
    SameClosure a c where
  session := hbc.session.trans hab.session
  connectionMode := hbc.connectionMode.trans hab.connectionMode
  resumeAttemptId := hbc.resumeAttemptId.trans hab.resumeAttemptId
  cleanedUp := hbc.cleanedUp.trans hab.cleanedUp

theorem Bookkeeping.trans {a b c : State} (hab : Bookkeeping a b) (hbc : Bookkeeping b c) :
    Bookkeeping a c where
  heap := hbc.heap.trans hab.heap
  sessionCount := hbc.sessionCount.trans hab.sessionCount
  sessions := hbc.sessions.trans hab.sessions
  drawn := hbc.drawn.trans hab.drawn
  closure socket := (hab.closure socket).trans (hbc.closure socket)

theorem setCarrier_bookkeeping (s : State) (socket : ℕ) {carrier : Carrier}
    (h : SameClosure (s.carriers socket) carrier) : Bookkeeping s (s.setCarrier socket carrier) where
  heap := rfl
  sessionCount := rfl
  sessions := rfl
  drawn := rfl
  closure other := by
    by_cases hother : other = socket
    · subst hother
      simpa using h
    · rw [setCarrier_of_ne _ _ _ hother]
      exact .refl _

theorem closeSocket_bookkeeping (s : State) (socket : ℕ) : Bookkeeping s (s.closeSocket socket) :=
  setCarrier_bookkeeping s socket ⟨rfl, rfl, rfl, rfl⟩

theorem dequeue_bookkeeping (s : State) (socket : ℕ) (rest : List Message) :
    Bookkeeping s (s.dequeue socket rest) :=
  setCarrier_bookkeeping s socket ⟨rfl, rfl, rfl, rfl⟩

theorem await_bookkeeping (s : State) (socket bytes : ℕ) (point : Await) :
    Bookkeeping s (s.await socket bytes point) :=
  setCarrier_bookkeeping s socket ⟨rfl, rfl, rfl, rfl⟩

theorem finish_bookkeeping (s : State) (socket bytes : ℕ) :
    Bookkeeping s (s.finish socket bytes) :=
  setCarrier_bookkeeping s socket ⟨rfl, rfl, rfl, rfl⟩

theorem fail_bookkeeping (s : State) (socket bytes : ℕ) :
    Bookkeeping s (s.fail socket bytes) := by
  refine Bookkeeping.trans ?_ (finish_bookkeeping _ socket bytes)
  exact setCarrier_bookkeeping s socket ⟨rfl, rfl, rfl, rfl⟩

theorem rejectCarrier_bookkeeping (s : State) (socket bytes : ℕ) :
    Bookkeeping s (s.rejectCarrier socket bytes) := by
  unfold rejectCarrier
  split_ifs
  · exact await_bookkeeping s socket bytes _
  · exact (closeSocket_bookkeeping s socket).trans (finish_bookkeeping _ socket bytes)

theorem record_bookkeeping (s : State) (event : Event) : Bookkeeping s (s.record event) :=
  ⟨rfl, rfl, rfl, rfl, fun _ => .refl _⟩

end State

section Handlers

variable (ctx : Context)

/-- A new session object is registered under its tunnel id, and SESSION_PROVISIONED is sent. -/
def createSession (s : State) (socket bytes : ℕ) (hello : HelloMetadata) : State :=
  let carrier := s.carriers socket
  let key := s.sessionCount
  let resumeSecret := s.drawn
  let provisionId := s.drawn + 1
  let snapshot : SessionConfigSnapshot :=
    { generation := 1
      localOriginFingerprint := hello.localOriginFingerprint
      originProjection := hello.originProjection
      publicOrigin := hello.tunnelId }
  let session : GatewaySession :=
    { tunnelId := hello.tunnelId
      socket := socket
      streamIds := .new
      outboundFlow := .new INITIAL_CONNECTION_WINDOW_BYTES
      inboundFlow := .new INITIAL_CONNECTION_WINDOW_BYTES ctx.maxPendingCarrierFrames
      generation := 1
      revision := 1
      config := ⟨1, ctx.digestSessionConfig snapshot, snapshot⟩
      lifecycle := .CREATING
      provisionId := some provisionId
      appliedConfig := none
      probe := none
      resumeDigest := ctx.digestResumeSecret resumeSecret
      owner := carrier.developerAuthorization.map DeveloperAuthorization.owner
      terminal := false }
  let registered := (s.sessions hello.tunnelId).isSome
  let next :=
    { s with
      heap := Function.update s.heap key session
      sessionCount := s.sessionCount + 1
      sessions := Function.update s.sessions hello.tunnelId (some key)
      drawn := s.drawn + 2 }
  ((next.setCarrier socket { carrier with
    session := some key
    connectionMode := some hello.mode }).record
      (.created socket key hello registered provisionId)).await socket bytes (.provisioning key)

/-- The session as it continues on a new socket with the candidate's generation. -/
def resumedSession (session : GatewaySession) (socket generation : ℕ) (hello : HelloMetadata) :
    GatewaySession :=
  let snapshot : SessionConfigSnapshot :=
    { generation := generation
      localOriginFingerprint := hello.localOriginFingerprint
      originProjection := hello.originProjection
      publicOrigin := session.tunnelId }
  { session with
    socket := socket
    streamIds := session.streamIds.reset
    outboundFlow := .new INITIAL_CONNECTION_WINDOW_BYTES
    inboundFlow := .new INITIAL_CONNECTION_WINDOW_BYTES ctx.maxPendingCarrierFrames
    generation := generation
    revision := session.revision + 1
    config := ⟨session.revision + 1, ctx.digestSessionConfig snapshot, snapshot⟩
    appliedConfig := none }

/-- The socket takes the session over and sends its new SESSION_CONFIG. `existing` is the
session before the attempt started. -/
def resumeSession (s : State) (socket bytes key attemptId generation now : ℕ)
    (hello : HelloMetadata) (existing : GatewaySession) : State :=
  let carrier := s.carriers socket
  let disposed := s.disposeActivationCandidate key
  let session := resumedSession ctx (disposed.heap key) socket generation hello
  (((disposed.setSession key session).setCarrier socket { carrier with
    session := some key
    connectionMode := some hello.mode
    resumeAttemptId := some attemptId }).record
      (.resumed socket key generation hello now existing
        (carrier.developerAuthorization.map DeveloperAuthorization.owner))).await socket bytes
          (.configuring key ⟨socket, generation⟩ session.config)

/-- The checks a resume passes before its attempt starts. -/
def resumeAdmitted (s : State) (carrier : Carrier) (key now : ℕ) (hello : HelloMetadata)
    (resumeSecret : Token) : Bool :=
  let existing := s.heap key
  !existing.terminal &&
    (match existing.lifecycle with
      | .RECONNECTING state => isResumeAllowed now state.disconnectedAt ctx.sessionPolicy
      | _ => false) &&
    ctx.digestResumeSecret resumeSecret = existing.resumeDigest &&
    resumeOwnerAuthorizationMatches existing.owner
      (carrier.developerAuthorization.map DeveloperAuthorization.owner) &&
    existing.config.snapshot.localOriginFingerprint = hello.localOriginFingerprint &&
    existing.config.snapshot.originProjection = hello.originProjection

def handleResume (s : State) (socket bytes : ℕ) (moment : Moment) (hello : HelloMetadata)
    (resumeSecret : Token) : State :=
  match s.sessions hello.tunnelId with
  | none => s.rejectCarrier socket bytes
  | some key =>
    if !resumeAdmitted ctx s (s.carriers socket) key moment.now hello resumeSecret then
      s.rejectCarrier socket bytes
    else
      let attemptId := s.drawn
      let drawn := { s with drawn := s.drawn + 1 }
      match (s.heap key).lifecycle.transitionSession ctx.sessionPolicy
          (.START_RESUME moment.now attemptId) with
      | .error (.RESUME_IN_PROGRESS _) => drawn.rejectCarrier socket bytes
      | .error _ => drawn.fail socket bytes
      | .ok next =>
        match drawn.applySessionTransition key next with
        | (expired, false) => expired.rejectCarrier socket bytes
        | (started, true) =>
          match next with
          | .RECONNECTING ⟨_, _, _, _, _, some generation, _⟩ =>
            resumeSession ctx started socket bytes key attemptId generation moment.now hello
              (s.heap key)
          | _ => started.fail socket bytes

def authorizationMatches (carrier : Carrier) (hello : HelloMetadata) : Bool :=
  match carrier.developerAuthorization with
  | none => false
  | some authorization =>
    authorization.forResume = (hello.mode ≠ .create) && authorization.tunnelId = hello.tunnelId

/-- The first frame of a socket. -/
def handleHello (s : State) (socket bytes : ℕ) (moment : Moment) (envelope : Envelope) : State :=
  match envelope.generation, envelope.frame with
  | 0, .hello (some hello) =>
    if ctx.requireAuthorization && !authorizationMatches (s.carriers socket) hello then
      (s.closeSocket socket).finish socket bytes
    else
      match hello.mode with
      | .create =>
        if (s.sessions hello.tunnelId).isSome then s.rejectCarrier socket bytes
        else if !s.canAdmitNewTunnel ctx moment
            ((s.carriers socket).developerAuthorization.map fun a => a.owner.accountId) then
          s.rejectCarrier socket bytes
        else createSession ctx s socket bytes hello
      | .resume resumeSecret => handleResume ctx s socket bytes moment hello resumeSecret
  | _, _ => s.fail socket bytes

/-- An accepted CONFIG_APPLIED: the probe is opened on the session's transport. -/
def openProbe (s : State) (socket bytes key : ℕ) (moment : Moment)
    (applied : ConfigAppliedMetadata) : State :=
  let before := s.heap key
  let session := { before with appliedConfig := some applied, provisionId := none }
  match session.probe with
  | some _ => (s.setSession key session).finish socket bytes
  | none =>
    match session.streamIds.issue with
    | .error _ => (s.setSession key session).fail socket bytes
    | .ok (streamId, streamIds) =>
      let probe : Probe :=
        { id := s.drawn
          streamId := streamId
          expected := moment.nonce
          received := []
          receivedBytes := 0
          clientEnded := false }
      let opened := { session with streamIds := streamIds, probe := some probe }
      let drawn := ({ s with drawn := s.drawn + 1 }).record
        (.configApplied socket key before.config applied moment.nonce)
      match session.outboundFlow.openStream streamId INITIAL_STREAM_WINDOW_BYTES with
      | .error _ => (drawn.setSession key opened).fail socket bytes
      | .ok (outboundFlow, _) =>
        match session.inboundFlow.openStream streamId INITIAL_STREAM_WINDOW_BYTES with
        | .error _ =>
          (drawn.setSession key { opened with outboundFlow := outboundFlow }).fail socket bytes
        | .ok inboundFlow =>
          (drawn.setSession key { opened with
            outboundFlow := outboundFlow
            inboundFlow := inboundFlow }).await socket bytes
              (.probeOpening key (drawn.captureGatewayTransport key) probe)

/-- CONFIG_APPLIED on a session that is not yet active. -/
def handleConfigApplied (s : State) (socket bytes key : ℕ) (moment : Moment)
    (applied : ConfigAppliedMetadata) : State :=
  let session := s.heap key
  match session.appliedConfig with
  | some previous =>
    if previous = applied then s.finish socket bytes else s.rejectCarrier socket bytes
  | none =>
    if applied.revision ≠ session.config.revision ∨ applied.digest ≠ session.config.digest then
      s.rejectCarrier socket bytes
    else if (s.carriers socket).connectionMode = some .create ∧
        applied.provisionReceipt ≠ session.provisionId then s.rejectCarrier socket bytes
    else if !applied.localOriginReady then s.rejectCarrier socket bytes
    else if !applied.applied then s.rejectCarrier socket bytes
    else openProbe s socket bytes key moment applied

/-- Probe DATA is collected and its credit returned. -/
def handleProbeData (s : State) (socket bytes key : ℕ) (probe : Probe) (payload : List UInt8) :
    State :=
  let session := s.heap key
  match session.inboundFlow.consume probe.streamId payload.length with
  | .error _ => s.fail socket bytes
  | .ok inboundFlow =>
    let receivedBytes := probe.receivedBytes + payload.length
    if receivedBytes > probe.expected.length then
      (s.setSession key { session with
        inboundFlow := inboundFlow
        probe := some { probe with receivedBytes := receivedBytes } }).fail socket bytes
    else
      ((s.setSession key { session with
        inboundFlow := inboundFlow
        probe := some { probe with
          receivedBytes := receivedBytes
          received := probe.received ++ [payload] } }).record
            (.probeData socket key payload)).await socket bytes
              (.probeCrediting key (s.captureGatewayTransport key) probe.id probe.streamId
                payload.length)

/-- The commit of an activation whose probe came back complete. -/
def activate (s : State) (socket bytes key : ℕ) (moment : Moment) (canActivate : Bool) : State :=
  let session := s.heap key
  let current := s.captureGatewayTransport key
  let committed (next : State) (active : ActiveState) : State :=
    let recorded := next.record
      (.activated socket key active.generation current moment.isReady canActivate)
    if active.generation ≠ session.generation then recorded.fail socket bytes
    else recorded.await socket bytes .activating
  match session.lifecycle with
  | .CREATING =>
    match session.lifecycle.transitionSession ctx.sessionPolicy (.ACTIVATE moment.now) with
    | .ok (.ACTIVE active) =>
      committed (s.setSession key { session with lifecycle := .ACTIVE active }) active
    | .ok next => (s.setSession key { session with lifecycle := next }).fail socket bytes
    | .error _ => s.fail socket bytes
  | _ =>
    match (s.carriers socket).resumeAttemptId with
    | none => s.fail socket bytes
    | some attemptId =>
      match session.lifecycle.transitionSession ctx.sessionPolicy
          (.RESUME_COMMITTED moment.now attemptId) with
      | .error _ => s.fail socket bytes
      | .ok next =>
        match s.applySessionTransition key next with
        | (expired, false) => expired.finish socket bytes
        | (applied, true) =>
          match next with
          | .ACTIVE active => committed applied active
          | _ => applied.fail socket bytes

/-- Probe END: the echo is compared with the nonce and the session is activated. -/
def handleProbeEnd (s : State) (socket bytes key : ℕ) (moment : Moment) (probe : Probe) :
    State :=
  if probe.clientEnded then s.fail socket bytes
  else
    let session := { s.heap key with probe := some { probe with clientEnded := true } }
    let ended := s.setSession key session
    if probe.received.flatten ≠ probe.expected then ended.rejectCarrier socket bytes
    else if !moment.isReady then ended.rejectCarrier socket bytes
    else if !ended.canActivateTunnel ctx key then ended.rejectCarrier socket bytes
    else
      let outboundFlow := (session.outboundFlow.closeStream probe.streamId).1
      match session.inboundFlow.closeStream probe.streamId with
      | .error _ =>
        (ended.setSession key { session with outboundFlow := outboundFlow }).fail socket bytes
      | .ok inboundFlow =>
        activate ctx (ended.setSession key { session with
          outboundFlow := outboundFlow
          inboundFlow := inboundFlow
          probe := none }) socket bytes key moment (ended.canActivateTunnel ctx key)

/-- A frame other than CONFIG_APPLIED on a session that is not yet active. -/
def handleProbeFrame (s : State) (socket bytes key : ℕ) (moment : Moment) (frame : Frame) :
    State :=
  match (s.heap key).probe with
  | none => s.fail socket bytes
  | some probe =>
    match frame with
    | .windowUpdate streamId (some credit) =>
      if streamId ≠ probe.streamId then s.fail socket bytes
      else
        match (s.heap key).outboundFlow.update streamId credit with
        | .error _ => s.fail socket bytes
        | .ok (outboundFlow, _) =>
          (s.setSession key { s.heap key with outboundFlow := outboundFlow }).finish socket bytes
    | .data streamId payload =>
      if streamId ≠ probe.streamId then s.fail socket bytes
      else handleProbeData s socket bytes key probe payload
    | .endStream streamId =>
      if streamId ≠ probe.streamId then s.fail socket bytes
      else handleProbeEnd ctx s socket bytes key moment probe
    | _ => s.fail socket bytes

/-- A frame on an active session. -/
def handleActive (s : State) (socket bytes key : ℕ) (frame : Frame) : State :=
  match frame with
  | .closeSession =>
    ((s.setCarrier socket { s.carriers socket with
      receiveFailed := true }).disposeGatewaySession key).finish socket bytes
  | .configApplied none => s.fail socket bytes
  | .configApplied (some applied) =>
    if (s.heap key).appliedConfig = some applied then s.finish socket bytes
    else s.rejectCarrier socket bytes
  | _ =>
    (s.record (.application socket key (s.heap key).generation)).await socket bytes .application

def isActive (session : GatewaySession) : Bool :=
  match session.lifecycle with
  | .ACTIVE _ => true
  | _ => false

/-- A frame of a socket that has greeted. -/
def handleFrame (s : State) (socket bytes key : ℕ) (moment : Moment) (envelope : Envelope) :
    State :=
  let session := s.heap key
  if envelope.generation ≠ session.generation then s.fail socket bytes
  else if session.terminal ∨ !s.isRegistered key then s.finish socket bytes
  else
    match envelope.frame with
    | .pong => s.finish socket bytes
    | .ping => s.await socket bytes .ponging
    | frame =>
      if isActive session then handleActive s socket bytes key frame
      else
        match frame with
        | .configApplied none => s.fail socket bytes
        | .configApplied (some applied) =>
          handleConfigApplied s socket bytes key moment applied
        | frame => handleProbeFrame ctx s socket bytes key moment frame

/-- One queued handler up to its first await. -/
def runHandler (s : State) (socket : ℕ) (message : Message) (moment : Moment) : State :=
  let carrier := s.carriers socket
  if carrier.receiveFailed then s.finish socket message.byteLength
  else
    match message.envelope with
    | none => s.fail socket message.byteLength
    | some envelope =>
      match carrier.session with
      | none => handleHello ctx s socket message.byteLength moment envelope
      | some key => handleFrame ctx s socket message.byteLength key moment envelope

/-- The rest of a handler once its carrier send has completed, up to its next await. -/
def resumeHandler (s : State) (socket bytes : ℕ) : Await → State
  | .rejecting => (s.closeSocket socket).finish socket bytes
  | .provisioning key =>
    if !s.isRegistered key ∨ (s.heap key).socket ≠ socket then s.finish socket bytes
    else s.await socket bytes
      (.configuring key (s.captureGatewayTransport key) (s.heap key).config)
  | .configuring key _ config => (s.record (.configSent socket key config)).finish socket bytes
  | .probeOpening key transport probe =>
    if !s.isCurrentGatewaySessionTransport key transport ∨
        (s.heap key).probe.map Probe.id ≠ some probe.id then s.finish socket bytes
    else
      match (s.heap key).outboundFlow.take probe.streamId probe.expected.length with
      | .error _ => s.fail socket bytes
      | .ok (outboundFlow, _) =>
        (s.setSession key { s.heap key with outboundFlow := outboundFlow }).await socket bytes
          (.probeSending key transport probe)
  | .probeSending key transport probe =>
    if !s.isCurrentGatewaySessionTransport key transport ∨
        (s.heap key).probe.map Probe.id ≠ some probe.id then s.finish socket bytes
    else s.await socket bytes .probeEnding
  | .probeCrediting key transport probeId streamId credit =>
    if !s.isCurrentGatewaySessionTransport key transport ∨
        (s.heap key).probe.map Probe.id ≠ some probeId then s.finish socket bytes
    else
      match (s.heap key).inboundFlow.release streamId credit with
      | .error _ => s.fail socket bytes
      | .ok inboundFlow =>
        (s.setSession key { s.heap key with inboundFlow := inboundFlow }).finish socket bytes
  | .ponging | .probeEnding | .activating | .application => s.finish socket bytes

/-- `cleanup`, which runs for the first `error` or `close` event of the socket. -/
def cleanup (s : State) (socket now : ℕ) : State :=
  let carrier := s.carriers socket
  let cleaned := s.setCarrier socket { carrier with cleanedUp := true, isOpen := false }
  match carrier.session with
  | none => cleaned
  | some key =>
    if !s.isRegistered key ∨ (s.heap key).socket ≠ socket then cleaned
    else
      let disposed := cleaned.disposeActivationCandidate key
      let session := disposed.heap key
      if session.terminal then disposed.remove key
      else
        match session.lifecycle with
        | .CREATING => disposed.remove key
        | .ACTIVE _ =>
          match session.lifecycle.transitionSession ctx.sessionPolicy (.CARRIER_LOST now) with
          | .ok next => (disposed.applySessionTransition key next).1
          | .error _ => disposed
        | .RECONNECTING state =>
          if carrier.resumeAttemptId.isSome ∧
              state.candidateAttemptId = carrier.resumeAttemptId then
            match session.lifecycle.transitionSession ctx.sessionPolicy
                (.RESUME_FAILED now (carrier.resumeAttemptId.getD 0)) with
            | .ok next => (disposed.applySessionTransition key next).1
            | .error _ => disposed
          else disposed
        | _ => disposed

inductive Label
  | message (socket : ℕ) (message : Message)
  /-- A WebSocket ping or pong, which the carrier does not support. -/
  | controlFrame (socket : ℕ)
  | run (socket : ℕ) (moment : Moment)
  | sendSettles (socket : ℕ) (succeeded : Bool)
  | socketCloses (socket : ℕ)
  | cleanup (socket now : ℕ)
  /-- A stream opens or closes, or a timer ticks. -/
  | lifecycle (key : ℕ) (event : SessionEvent)
  /-- Sign-out, revocation, or authorization that is too old. -/
  | terminate (key : ℕ)
  deriving DecidableEq, Repr

/-- The message listener. -/
def receiveMessage (s : State) (socket : ℕ) (message : Message) : State :=
  let carrier := s.carriers socket
  if carrier.receiveFailed then s
  else if carrier.pendingCarrierFrames ≥ ctx.maxPendingCarrierFrames ∨
      carrier.pendingCarrierBytes + message.byteLength > ctx.maxPendingCarrierBytes then
    s.setCarrier socket { carrier with receiveFailed := true, isOpen := false }
  else s.setCarrier socket { carrier with
    receiveQueue := carrier.receiveQueue ++ [message]
    pendingCarrierFrames := carrier.pendingCarrierFrames + 1
    pendingCarrierBytes := carrier.pendingCarrierBytes + message.byteLength }

/-- The events that streams and timers send to a session. -/
def isStreamOrTick : SessionEvent → Bool
  | .STREAM_OPEN _ | .STREAM_CLOSED _ | .TICK _ => true
  | _ => false

/-- `none` means that the event cannot happen in this state. -/
def step (s : State) : Label → Option State
  | .message socket message => some (receiveMessage ctx s socket message)
  | .controlFrame socket =>
    if (s.carriers socket).cleanedUp ∨ (s.carriers socket).receiveFailed then none
    else some (s.setCarrier socket
      { s.carriers socket with receiveFailed := true, isOpen := false })
  | .run socket moment =>
    match (s.carriers socket).running, (s.carriers socket).receiveQueue with
    | none, message :: rest =>
      some (runHandler ctx (s.dequeue socket rest) socket message moment)
    | _, _ => none
  | .sendSettles socket succeeded =>
    match (s.carriers socket).running with
    | none => none
    | some (.rejecting, bytes) => some (resumeHandler s socket bytes .rejecting)
    | some (await, bytes) =>
      if succeeded then some (resumeHandler s socket bytes await)
      else some (s.fail socket bytes)
  | .socketCloses socket => some (s.closeSocket socket)
  | .cleanup socket now =>
    if (s.carriers socket).cleanedUp then none else some (cleanup ctx s socket now)
  | .lifecycle key event =>
    if !isStreamOrTick event ∨ !s.isRegistered key then none
    else
      match (s.heap key).lifecycle.transitionSession ctx.sessionPolicy event with
      | .ok next => some (s.applySessionTransition key next).1
      | .error _ => none
  | .terminate key => some (s.disposeGatewaySession key)

theorem step_run {ctx : Context} {s s' : State} {socket : ℕ} {moment : Moment}
    (h : step ctx s (.run socket moment) = some s') :
    ∃ message rest, (s.carriers socket).running = none ∧
      (s.carriers socket).receiveQueue = message :: rest ∧
      s' = runHandler ctx (s.dequeue socket rest) socket message moment := by
  simp only [step] at h
  cases hrunning : (s.carriers socket).running with
  | some point => simp [hrunning] at h
  | none =>
    cases hqueue : (s.carriers socket).receiveQueue with
    | nil => simp [hrunning, hqueue] at h
    | cons message rest =>
      rw [hrunning, hqueue] at h
      exact ⟨message, rest, rfl, rfl, (Option.some.inj h).symm⟩

theorem step_sendSettles {ctx : Context} {s s' : State} {socket : ℕ} {succeeded : Bool}
    (h : step ctx s (.sendSettles socket succeeded) = some s') :
    ∃ point bytes, (s.carriers socket).running = some (point, bytes) ∧
      (s' = resumeHandler s socket bytes point ∨ s' = s.fail socket bytes) := by
  simp only [step] at h
  split at h
  · cases h
  · rename_i bytes hrunning
    exact ⟨.rejecting, bytes, hrunning, Or.inl (Option.some.inj h).symm⟩
  · rename_i point bytes _ hrunning
    split_ifs at h
    · exact ⟨point, bytes, hrunning, Or.inl (Option.some.inj h).symm⟩
    · exact ⟨point, bytes, hrunning, Or.inr (Option.some.inj h).symm⟩

end Handlers

/-- The content of a heap cell that no session has taken yet. -/
def GatewaySession.unused : GatewaySession where
  tunnelId := 0
  socket := 0
  streamIds := .new
  outboundFlow := .new INITIAL_CONNECTION_WINDOW_BYTES
  inboundFlow := .new INITIAL_CONNECTION_WINDOW_BYTES 0
  generation := 0
  revision := 0
  config := ⟨0, 0, ⟨0, 0, .localView, 0⟩⟩
  lifecycle := .CREATING
  provisionId := none
  appliedConfig := none
  probe := none
  resumeDigest := 0
  owner := none
  terminal := false

/-- A gateway with sockets connected under these authorizations and no session. -/
def start (authorizations : ℕ → Option DeveloperAuthorization) : State where
  carriers socket := .new (authorizations socket)
  heap _ := .unused
  sessionCount := 0
  sessions _ := none
  drawn := 0
  log := []

/-- A gateway without accounts, with room for ten tunnels. -/
def openGateway : Context where
  requireAuthorization := false
  sessionPolicy := DEFAULT_SESSION_POLICY
  maxPendingCarrierFrames := 1024
  maxPendingCarrierBytes := 1048576
  maxPendingTunnels := 10
  maxActiveTunnels := 10
  maxTunnelsPerAccount := 10
  digestResumeSecret secret := secret + 1
  digestSessionConfig snapshot := snapshot.generation

def noon : Moment where
  now := 0
  isReady := true
  pendingElsewhere := 0
  reservedByAccount := 0
  nonce := List.replicate 32 7

def helloCreate : Message :=
  ⟨200, some ⟨0, .hello (some ⟨.create, 5, 6, .localView⟩)⟩⟩

end Lotur.Gateway
