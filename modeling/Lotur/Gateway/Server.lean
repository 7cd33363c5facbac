import Lotur.Gateway.Streams

/-! `createGatewayServer`: carrier upgrades and their admission, the frames of every carrier, the
requests of reviewers, the operational timers, and the kill switch. A request or an upgrade that
waits for authorization may be answered at any later time. -/
namespace Lotur.Gateway

namespace Server

variable (config : ServerConfig)

def start (initialKillSwitch : Bool) (now : ℕ) : Server where
  gateway := Gateway.start fun _ => none
  admission := .new now
  killSwitchEnabled := initialKillSwitch
  upgrades _ := .absent
  requests := []
  streams _ := ∅
  objects _ :=
    { key := 0
      streamId := 0
      transport := ⟨0, 0⟩
      reviewerAuthorizedAt := none
      pendingHead := 0
      requestBytes := 0
      stream := .absent }
  objectCount := 0
  flows _ _ :=
    { outboundFlow := .new INITIAL_CONNECTION_WINDOW_BYTES
      inboundFlow := .new INITIAL_CONNECTION_WINDOW_BYTES 0 }
  rates _ := ⟨0, 0⟩
  expiryTimers _ := none

def setUpgrade (s : Server) (socket : ℕ) (upgrade : Upgrade) : Server :=
  { s with upgrades := Function.update s.upgrades socket upgrade }

def isConnected (s : Server) (socket : ℕ) : Bool :=
  match s.upgrades socket with
  | .connected _ => true
  | _ => false

/-- `handleUpgrade`, which attaches the carrier unless it refuses the handshake. -/
def connect (s : Server) (socket callback : ℕ) (accepted : Bool)
    (authorization : Option DeveloperAuthorization) : Server :=
  if accepted then
    ({ s with gateway := s.gateway.setCarrier socket (.new authorization) }).setUpgrade socket
      (.connected callback)
  else s.setUpgrade socket (.dropped callback)

/-- The slot of a carrier that may now be attached; `none` when there is no capacity. -/
def reservePendingCarrier (s : Server) (socket now : ℕ) (accepted : Bool)
    (authorization : Option DeveloperAuthorization) : Server :=
  match s.admission.reservePendingCarrierConnection config.ctx s.gateway now with
  | (admission, none) => ({ s with admission }).setUpgrade socket .refused
  | (admission, some callback) => ({ s with admission }).connect socket callback accepted authorization

/-- The `upgrade` event of a carrier. `wellFormed` stands for an empty head and the subprotocol. -/
def upgradeCarrier (s : Server) (socket now : ℕ) (wellFormed accepted : Bool) : Option Server :=
  if s.upgrades socket ≠ .absent then none
  else if s.killSwitchEnabled ∨ !wellFormed then some (s.setUpgrade socket .refused)
  else if config.ctx.requireAuthorization then
    match s.admission.reserveCarrierAuthorizationAttempt config.ctx with
    | (admission, none) => some (({ s with admission }).setUpgrade socket .refused)
    | (admission, some attempt) =>
      some (({ s with admission }).setUpgrade socket (.authorizing attempt))
  else some (s.reservePendingCarrier config socket now accepted none)

/-- The rest of the upgrade once the credential was consumed, or refused (`none`). -/
def carrierAuthorized (s : Server) (socket now : ℕ) (usable accepted : Bool)
    (authorization : Option DeveloperAuthorization) : Option Server :=
  match s.upgrades socket with
  | .authorizing attempt =>
    let released (next : Server) : Server :=
      { next with admission := next.admission.releaseCarrierAuthorizationAttempt attempt }
    match authorization with
    | none => some (released (s.setUpgrade socket .refused))
    | some granted =>
      let consumed := { s with admission := s.admission.consumeCredentialReservation granted now }
      if !usable then some (released (consumed.setUpgrade socket .refused))
      else some (released (consumed.reservePendingCarrier config socket now accepted authorization))
  | _ => none

/-- The callback that `close`, `error` and HELLO all call. -/
def releasePendingCarrier (s : Server) (socket : ℕ) : Server :=
  match s.upgrades socket with
  | .connected callback | .dropped callback =>
    { s with admission := s.admission.releasePendingCarrierConnection callback }
  | _ => s

/-- The HELLO at the head of the queue that passes the checks before `releasePendingCarrier`. -/
def greeting (s : Server) (socket : ℕ) : Option HelloMetadata :=
  let carrier := s.gateway.carriers socket
  match carrier.receiveQueue with
  | ⟨_, some ⟨0, .hello (some hello)⟩⟩ :: _ =>
    if carrier.receiveFailed ∨ carrier.session.isSome ∨
        (config.ctx.requireAuthorization && !authorizationMatches carrier hello) then none
    else some hello
  | _ => none

/-- What admission has done by the time the handler asks `canAdmitNewTunnel`. -/
def greeted (s : Server) (socket now : ℕ) : Server :=
  match s.greeting config socket with
  | none => s
  | some hello =>
    let released := s.releasePendingCarrier socket
    if hello.mode = .create ∧ s.gateway.sessions hello.tunnelId = none then
      { released with admission := released.admission.cleanupCredentialReservations now }
    else released

/-- The frame that `handleClientFrame` sees; `body` is the content of a frame that the handshake
does not look into. -/
def streamFrame (body : FrameBody) : Frame → StreamFrame
  | .data streamId payload => ⟨streamId, .data payload.length⟩
  | .endStream streamId => ⟨streamId, .endStream⟩
  | .windowUpdate streamId (some bytes) => ⟨streamId, .windowUpdate (.ok bytes)⟩
  | .windowUpdate streamId none =>
    ⟨streamId, .windowUpdate (.error (.typeError "WINDOW_UPDATE payload must be four bytes"))⟩
  | .other streamId => ⟨streamId, body⟩
  | _ => ⟨0, body⟩

/-- The frame that the handler now running passes to `handleClientFrame`, with its session and the
size of its message. -/
def application (before : Carrier) (after : Carrier) : Option (ℕ × ℕ × Frame) :=
  match before.receiveQueue, before.session, after.running with
  | ⟨_, some ⟨_, frame⟩⟩ :: _, some key, some (.application, bytes) => some (key, bytes, frame)
  | _, _, _ => none

/-- One queued handler up to its first await. -/
def run (s : Server) (socket now : ℕ) (gatewayAdmissionReady : Bool) (nonce : List UInt8)
    (body : FrameBody) : Option Server :=
  let carrier := s.gateway.carriers socket
  let accountId := carrier.developerAuthorization.map fun a => a.owner.accountId
  let greeted := s.greeted config socket now
  let moment := greeted.admission.moment now (!s.killSwitchEnabled && gatewayAdmissionReady) nonce
    accountId
  match Gateway.step config.ctx s.gateway (.run socket moment) with
  | none => none
  | some gateway =>
    let next := greeted.adopt gateway
    match application carrier (gateway.carriers socket) with
    | none => some next
    | some (key, bytes, frame) =>
      some ((next.handleClientFrame config key now (streamFrame body frame)).getD
        { next with gateway := gateway.fail socket bytes })

/-- The activation that has been announced takes the reconnect timer off the session. -/
def announced (s : Server) (socket : ℕ) : Option ℕ :=
  match (s.gateway.carriers socket).running, (s.gateway.carriers socket).session with
  | some (.activating, _), some key =>
    if Carries s.gateway socket key ∧ isActive (s.gateway.heap key) then some key else none
  | _, _ => none

def sendSettles (s : Server) (socket : ℕ) (succeeded : Bool) : Option Server :=
  match Gateway.step config.ctx s.gateway (.sendSettles socket succeeded) with
  | none => none
  | some gateway =>
    match s.announced socket, succeeded with
    | some key, true =>
      some { s.adopt gateway with expiryTimers := Function.update s.expiryTimers key none }
    | _, _ => some (s.adopt gateway)

/-- `cleanup` closes the streams of the session it finds, and arms the reconnect timer. -/
def cleanup (s : Server) (socket now : ℕ) : Server :=
  let gateway := Gateway.cleanup config.ctx s.gateway socket now
  match (s.gateway.carriers socket).session with
  | none => s.adopt gateway
  | some key =>
    if Carries s.gateway socket key then
      let closed := (s.adopt gateway).closeGatewayStreams key
      match gateway.isRegistered key, (gateway.heap key).lifecycle with
      | true, .RECONNECTING _ => { closed with
          expiryTimers := Function.update closed.expiryTimers key
            (some (s.gateway.captureGatewayTransport key)) }
      | _, _ => closed
    else s.adopt gateway

/-- `sessionTimer` on one session; the reviewers of its streams expire on their own. -/
def sessionTick (s : Server) (key now : ℕ) (developerAuthorizationExpired : Bool) : Server :=
  let session := s.gateway.heap key
  match s.gateway.isRegistered key, session.lifecycle with
  | true, .ACTIVE _ | true, .RECONNECTING _ =>
    match session.lifecycle.transitionSession config.ctx.sessionPolicy (.TICK now) with
    | .error _ => s
    | .ok (.EXPIRED reason closedAt) => s.applySessionTransition key (.EXPIRED reason closedAt)
    | .ok next =>
      if developerAuthorizationExpired then
        (s.applySessionTransition key next).disposeGatewaySession key
      else s
  | _, _ => s

/-- The timer that `cleanup` arms. -/
def expiryTimer (s : Server) (key now : ℕ) : Server :=
  let fired := { s with expiryTimers := Function.update s.expiryTimers key none }
  match s.gateway.isRegistered key, (s.gateway.heap key).lifecycle with
  | true, .RECONNECTING state =>
    match (SessionState.RECONNECTING state).transitionSession config.ctx.sessionPolicy
        (.TICK now) with
    | .error _ => fired
    | .ok next => fired.applySessionTransition key next
  | _, _ => fired

/-- The sessions that a loop over `sessions.values()` visits. -/
def registeredKeys (s : Server) : List ℕ :=
  (List.range s.gateway.sessionCount).filter s.gateway.isRegistered

def disposeAll (s : Server) : Server := s.registeredKeys.foldl disposeGatewaySession s

def updateKillSwitch (s : Server) (enabled : Bool) : Server :=
  if s.killSwitchEnabled = enabled then s
  else
    let changed := { s with killSwitchEnabled := enabled }
    if !enabled then changed else changed.disposeAll

/-- `transport` is what the continuation captured before its await. -/
def whenCurrent (s : Server) (key : ℕ) (transport : GatewayTransportEpoch)
    (next : Server → Server) : Server :=
  if s.gateway.isCurrentGatewaySessionTransport key transport then next s else s

def closeSocket (s : Server) (socket : ℕ) : Server :=
  { s with gateway := s.gateway.closeSocket socket }

inductive Label
  | reserveCarrierCredential (accountId : Token) (forResume : Bool) (tunnelId : Token) (now : ℕ)
  | releaseCarrierCredential (reservationId : ℕ)
  | upgradeCarrier (socket now : ℕ) (wellFormed accepted : Bool)
  | carrierAuthorized (socket now : ℕ) (usable accepted : Bool)
      (authorization : Option DeveloperAuthorization)
  | releasePendingCarrier (socket : ℕ)
  | message (socket : ℕ) (message : Message)
  | controlFrame (socket : ℕ)
  | run (socket now : ℕ) (gatewayAdmissionReady : Bool) (nonce : List UInt8) (body : FrameBody)
  | sendSettles (socket : ℕ) (succeeded : Bool)
  | socketCloses (socket : ℕ)
  | cleanup (socket now : ℕ)
  | reviewerRequest (request : ReviewerRequest)
  | reviewerAuthorized (index now : ℕ)
  | reviewerRefused (index : ℕ)
  | stream (object now : ℕ) (point : StreamPoint)
  | sessionTick (key now : ℕ) (developerAuthorizationExpired : Bool)
  | expiryTimer (key now : ℕ)
  | heartbeatFails (key : ℕ) (transport : GatewayTransportEpoch)
  | activationTimeout (key : ℕ) (transport : GatewayTransportEpoch)
  | developerRevoked (key : ℕ) (transport : GatewayTransportEpoch)
  | terminate (key : ℕ)
  | updateKillSwitch (enabled : Bool)
  | close

/-- `none` means that the event cannot happen in this state. -/
def step (s : Server) : Label → Option Server
  | .reserveCarrierCredential accountId forResume tunnelId now =>
    some { s with admission := (s.admission.reserveCarrierCredential config.ctx config.admission
      s.gateway accountId forResume tunnelId now).1 }
  | .releaseCarrierCredential reservationId =>
    some { s with admission := s.admission.releaseCarrierCredential reservationId }
  | .upgradeCarrier socket now wellFormed accepted =>
    s.upgradeCarrier config socket now wellFormed accepted
  | .carrierAuthorized socket now usable accepted authorization =>
    s.carrierAuthorized config socket now usable accepted authorization
  | .releasePendingCarrier socket => some (s.releasePendingCarrier socket)
  | .message socket message =>
    if s.isConnected socket then
      (Gateway.step config.ctx s.gateway (.message socket message)).map s.adopt
    else none
  | .controlFrame socket =>
    if s.isConnected socket then
      (Gateway.step config.ctx s.gateway (.controlFrame socket)).map s.adopt
    else none
  | .run socket now gatewayAdmissionReady nonce body =>
    s.run config socket now gatewayAdmissionReady nonce body
  | .sendSettles socket succeeded => s.sendSettles config socket succeeded
  | .socketCloses socket => some (s.closeSocket socket)
  | .cleanup socket now =>
    if (s.gateway.carriers socket).cleanedUp ∨ !s.isConnected socket then none
    else some (s.cleanup config socket now)
  | .reviewerRequest request =>
    if s.killSwitchEnabled then some s else some { s with requests := s.requests ++ [request] }
  | .reviewerAuthorized index now =>
    match s.requests[index]? with
    | none => none
    | some request =>
      some (({ s with requests := s.requests.eraseIdx index }).openStream config now request)
  | .reviewerRefused index => some { s with requests := s.requests.eraseIdx index }
  | .stream object now point =>
    if object < s.objectCount then some (s.runStream config object now point) else none
  | .sessionTick key now expired => some (s.sessionTick config key now expired)
  | .expiryTimer key now =>
    if (s.expiryTimers key).isSome then some (s.expiryTimer config key now) else none
  | .heartbeatFails key transport =>
    some (s.whenCurrent key transport fun s => s.closeSocket transport.socket)
  | .activationTimeout key transport =>
    if isActive (s.gateway.heap key) ∨ s.gateway.captureGatewayTransport key ≠ transport then some s
    else some (s.closeSocket transport.socket)
  | .developerRevoked key transport =>
    some (s.whenCurrent key transport fun s => s.disposeGatewaySession key)
  | .terminate key => some (s.disposeGatewaySession key)
  | .updateKillSwitch enabled => some (s.updateKillSwitch enabled)
  | .close => some { s.disposeAll with admission := s.disposeAll.admission.close }

end Server

end Lotur.Gateway
