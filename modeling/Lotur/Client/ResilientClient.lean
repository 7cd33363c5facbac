import Lotur.Protocol.JavaScript

/-! `connectResilientTunnelClient`: the first connection, its supervision and the reconnect loop.
Each waits for promises, which may settle at any time, and goes on some time after that. -/
namespace Lotur.Client.Resilient
open JsString

/-- `gateway` is a `TunnelConnectionError`. -/
inductive ClientError where
  | gateway (code : JsString) (retryAfterMs : Option ℕ)
  | other (message : JsString)
  deriving DecidableEq, Repr

def isWordUnit (unit : UInt16) : Bool :=
  (0x30 ≤ unit && unit ≤ 0x39) || (0x41 ≤ unit && unit ≤ 0x5a) || unit = 0x5f ||
    (0x61 ≤ unit && unit ≤ 0x7a)

/-- The pattern `/WebSocket code (?:1002|1008)\b/`. -/
def namesFatalCode (message : JsString) : Bool :=
  message.tails.any fun rest =>
    [ofAscii "WebSocket code 1002", ofAscii "WebSocket code 1008"].any fun start =>
      startsWith rest start && ((rest.drop start.length).head?.all fun unit => !isWordUnit unit)

def isTransientReconnectError : ClientError → Bool
  | .gateway code _ => code = ofAscii "RESUME_IN_PROGRESS"
  | .other message => !namesFatalCode message

structure Context where
  resumeSecret : JsString
  pinnedLocalAddress : JsString
  deriving DecidableEq, Repr

structure Activation extends Context where
  generation : ℕ
  deriving DecidableEq, Repr

inductive ClosureReason where
  | closed
  | disconnected
  | failed
  deriving DecidableEq, Repr

structure TunnelClientClosure where
  reason : ClosureReason
  error : Option ClientError
  deriving DecidableEq, Repr

/-- A client that `connectionFactory` has returned: what it was given, how far its promises are, and
which of its functions were called. -/
structure Connection where
  context : Option Context
  carrierCredential : Option JsString
  ready : Option (Except ClientError Activation)
  activationCandidate : Option (Option Context)
  closed : Option TunnelClientClosure
  closing : Bool
  disconnecting : Bool
  deriving DecidableEq

def Connection.new (context : Option Context) (carrierCredential : Option JsString) : Connection :=
  ⟨context, carrierCredential, none, none, none, false, false⟩

inductive Status where
  | reconnecting (attempt : ℕ) (error : ClientError)
  | active (attempt : Option ℕ)
  | failed (error : ClientError)
  deriving DecidableEq, Repr

/-- A call of `reconnect`; `establishing` tells which of its two callers waits for it. -/
structure Reconnect where
  establishing : Bool
  context : Context
  attempt : ℕ
  lastError : ClientError
  deriving DecidableEq, Repr

/-- A call of `settleBeforeDeadline`, with its outcome once it has settled. -/
inductive Wait where
  | initialDelay (outcome : Option (Except ClientError Unit))
  | credential (outcome : Option (Except ClientError JsString))
  | ready (connection : ℕ) (outcome : Option (Except ClientError Activation))
  | shutdown (connection : ℕ) (settled : Bool)
  | backoff (delayMs : ℕ) (outcome : Option (Except ClientError Unit))
  deriving DecidableEq

/-- Where the functions have got to. `establishes` and `fails` are the callbacks of `ready`, and
`resumes` and `givesUp` the two ways on from the `reconnect` of `supervise`. -/
inductive Phase where
  | awaitsReady
  | awaitsCandidate (failure : ClientError)
  | awaitsClosed (failure : ClientError) (context : Option Context)
  | reconnecting (reconnect : Reconnect) (wait : Wait)
  | establishes (value : Activation)
  | fails (failure : ClientError)
  | supervises (client : ℕ)
  | resumes (value : Activation)
  | givesUp (failure : ClientError)
  | ended
  deriving DecidableEq

/-- `deadlinePassed` is about the current call of `reconnect`, and `closePending` says that the call
of `close` that has stopped the client waits. -/
structure State where
  connections : List Connection
  current : ℕ
  activation : Option Activation
  stopped : Bool
  ready : Option (Except ClientError Activation)
  closure : Option TunnelClientClosure
  initialActiveReported : Bool
  deadlinePassed : Bool
  closePending : Bool
  statuses : List Status
  phase : Phase
  deriving DecidableEq

def start (carrierCredential : Option JsString) : State where
  connections := [.new none carrierCredential]
  current := 0
  activation := none
  stopped := false
  ready := none
  closure := none
  initialActiveReported := false
  deadlinePassed := false
  closePending := false
  statuses := []
  phase := .awaitsReady

def stopError : ClientError := .other (ofAscii "Tunnel client closed")

def deadlineError : ClientError := .other (ofAscii "Carrier reconnect deadline exceeded")

namespace Wait

def label : Wait → JsString
  | .initialDelay _ => ofAscii "initial reconnect delay"
  | .credential _ => ofAscii "Carrier credential issuance"
  | .ready _ _ => ofAscii "Carrier resume activation"
  | .shutdown _ _ => ofAscii "failed Carrier shutdown"
  | .backoff _ _ => ofAscii "reconnect backoff"

/-- A wait that has not settled yet is rejected; a shutdown goes on after a rejection, too. -/
def reject (error : ClientError) : Wait → Wait
  | .initialDelay outcome => .initialDelay (outcome.or (some (.error error)))
  | .credential outcome => .credential (outcome.or (some (.error error)))
  | .ready connection outcome => .ready connection (outcome.or (some (.error error)))
  | .shutdown connection _ => .shutdown connection true
  | .backoff delayMs outcome => .backoff delayMs (outcome.or (some (.error error)))

end Wait

namespace State

def settleClosure (s : State) (value : TunnelClientClosure) : State :=
  if s.closure.isSome then s else { s with closure := some value }

def report (s : State) (status : Status) : State := { s with statuses := s.statuses ++ [status] }

def update (s : State) (connection : ℕ) (f : Connection → Connection) : State :=
  { s with connections := s.connections.modify connection f }

def disconnectAt (s : State) (connection : ℕ) : State :=
  s.update connection fun client => { client with disconnecting := true }

section Reconnect

/-- The signal may be aborted already. -/
def await (s : State) (reconnect : Reconnect) (wait : Wait) : State :=
  { s with phase := .reconnecting reconnect (if s.stopped then wait.reject stopError else wait) }

/-- `reconnect` throws. -/
def leave (s : State) (reconnect : Reconnect) (error : ClientError) : State :=
  { s with phase := if reconnect.establishing then .fails error else .givesUp error }

/-- The end of the loop. -/
def exhausted (s : State) (reconnect : Reconnect) : State :=
  s.leave reconnect (if s.deadlinePassed then deadlineError else reconnect.lastError)

/-- How long the next attempt waits, unless the deadline is nearer. -/
def reconnectDelay (reconnect : Reconnect) : ℕ :=
  let exponentialDelay := min 2000 (100 * 2 ^ min (reconnect.attempt - 1) 4)
  match reconnect.lastError with
  | .gateway _ retryAfterMs => retryAfterMs.getD exponentialDelay
  | .other _ => exponentialDelay

def afterFailure (s : State) (reconnect : Reconnect) : State :=
  if s.stopped ∨ !isTransientReconnectError reconnect.lastError ∨ s.deadlinePassed then
    s.exhausted reconnect
  else s.await reconnect (.backoff (reconnectDelay reconnect) none)

def caught (s : State) (reconnect : Reconnect) (error : ClientError) (candidate : Option ℕ) :
    State :=
  let reconnect := { reconnect with lastError := error }
  match candidate with
  | some connection => (s.disconnectAt connection).await reconnect (.shutdown connection false)
  | none => s.afterFailure reconnect

/-- `thrown` is what `connectionFactory` throws, if it does. -/
def connect (s : State) (reconnect : Reconnect) (credential : Option JsString)
    (thrown : Option ClientError) : State :=
  match thrown with
  | some error => s.caught reconnect error none
  | none =>
    { s with
      connections := s.connections ++ [Connection.new (some reconnect.context) credential]
      current := s.connections.length }.await reconnect (.ready s.connections.length none)

/-- The head of the loop. -/
def attempt (issuesCredentials : Bool) (s : State) (reconnect : Reconnect)
    (thrown : Option ClientError) : State :=
  if s.stopped ∨ s.deadlinePassed then s.exhausted reconnect
  else
    let reconnect := { reconnect with attempt := reconnect.attempt + 1 }
    let s := s.report (.reconnecting reconnect.attempt reconnect.lastError)
    if issuesCredentials then s.await reconnect (.credential none)
    else s.connect reconnect none thrown

def beginReconnect (s : State) (establishing : Bool) (context : Context)
    (initialError : ClientError) : State :=
  { s with deadlinePassed := false }.await
    { establishing, context, attempt := 0, lastError := initialError } (.initialDelay none)

/-- `reconnect` returns. -/
def established (s : State) (reconnect : Reconnect) (value : Activation) : State :=
  let s := s.report (.active (some reconnect.attempt))
  if reconnect.establishing then
    { s with initialActiveReported := true, phase := .establishes value }
  else { s with phase := .resumes value }

/-- What follows a wait of `reconnect` that has settled. -/
def resumeReconnect (issuesCredentials : Bool) (s : State) (reconnect : Reconnect) (wait : Wait)
    (thrown : Option ClientError) : Option State :=
  match wait with
  | .initialDelay (some (.ok _)) | .backoff _ (some (.ok _)) =>
    some (s.attempt issuesCredentials reconnect thrown)
  | .initialDelay (some (.error error)) | .backoff _ (some (.error error)) =>
    some (s.leave reconnect error)
  | .credential (some (.ok credential)) =>
    if s.stopped then
      some (s.caught reconnect (.other (ofAscii "Tunnel client stopped during reconnect")) none)
    else some (s.connect reconnect (some credential) thrown)
  | .credential (some (.error error)) => some (s.caught reconnect error none)
  | .ready _ (some (.ok value)) => some (s.established reconnect value)
  | .ready connection (some (.error error)) => some (s.caught reconnect error (some connection))
  | .shutdown _ true => some (s.afterFailure reconnect)
  | _ => none

end Reconnect

/-- `supervise` after the client that it watches has closed. -/
def superviseClosed (s : State) (client : ℕ) (outcome : TunnelClientClosure) : State :=
  if s.current ≠ client then { s with phase := .ended }
  else if s.stopped ∨ outcome.reason = .closed then
    { s.settleClosure ⟨.closed, none⟩ with phase := .ended }
  else
    match s.activation with
    | none =>
      let error := outcome.error.getD (.other (ofAscii "Carrier closed before activation"))
      { s.settleClosure ⟨.failed, some error⟩ with phase := .ended }
    | some activation =>
      s.beginReconnect false activation.toContext
        (outcome.error.getD (.other (ofAscii "Carrier disconnected")))

def fail (s : State) (failure : ClientError) : State :=
  { ({ s with stopped := true }.report (.failed failure)).settleClosure ⟨.failed, some failure⟩ with
    phase := .ended }

/-- The function that waits goes on, if what it waits for has settled. -/
def continues (issuesCredentials : Bool) (s : State) (thrown : Option ClientError) : Option State :=
  match s.phase with
  | .awaitsReady =>
    match s.connections[0]?.bind Connection.ready with
    | none => none
    | some (.ok value) => some { s with phase := .establishes value }
    | some (.error failure) => some { s with phase := .awaitsCandidate failure }
  | .awaitsCandidate failure =>
    (s.connections[0]?.bind Connection.activationCandidate).map fun context =>
      { s with phase := .awaitsClosed failure context }
  | .awaitsClosed failure context =>
    (s.connections[0]?.bind Connection.closed).map fun _ =>
      match context with
      | none => { s with phase := .fails failure }
      | some context =>
        if isTransientReconnectError failure then s.beginReconnect true context failure
        else { s with phase := .fails failure }
  | .reconnecting reconnect wait => s.resumeReconnect issuesCredentials reconnect wait thrown
  | .establishes value =>
    let reported := if s.initialActiveReported then s else s.report (.active none)
    some { reported with
      activation := some value
      ready := some (.ok value)
      phase := .supervises s.current }
  | .fails failure => some { s.fail failure with ready := some (.error failure) }
  | .supervises client =>
    (s.connections[client]?.bind Connection.closed).map (s.superviseClosed client)
  | .resumes value => some { s with activation := some value, phase := .supervises s.current }
  | .givesUp failure =>
    if s.stopped then some { s.settleClosure ⟨.closed, none⟩ with phase := .ended }
    else some (s.fail failure)
  | .ended => none

/-- The wait of `reconnect` settles. -/
def settleWait (s : State) (f : Wait → Option Wait) : Option State :=
  match s.phase with
  | .reconnecting reconnect wait =>
    (f wait).map fun wait => { s with phase := .reconnecting reconnect wait }
  | _ => none

/-- What a connection promises has settled, and the wait for it takes that over. -/
def settles (s : State) : Wait → Option Wait
  | .ready connection none =>
    (s.connections[connection]?.bind Connection.ready).map fun result =>
      .ready connection (some result)
  | .shutdown connection false =>
    (s.connections[connection]?.bind Connection.closed).map fun _ => .shutdown connection true
  | _ => none

def close (s : State) : State :=
  if s.stopped then s.settleClosure ⟨.closed, none⟩
  else
    let stopping := { s with
      stopped := true
      closePending := true
      phase := match s.phase with
        | .reconnecting reconnect wait => .reconnecting reconnect (wait.reject stopError)
        | phase => phase }
    stopping.update s.current fun client => { client with closing := true }

end State

inductive Label where
  | readySettles (connection : ℕ) (result : Except ClientError Activation)
  | candidateSettles (connection : ℕ) (context : Option Context)
  | closedSettles (connection : ℕ) (closure : TunnelClientClosure)
  | credentialSettles (result : Except ClientError JsString)
  | delayElapses
  | waitSettles
  | waitExpires (byTimer : Bool)
  | deadlinePasses
  | continues (thrown : Option ClientError)
  | close
  | closeSettles (succeeded : Bool)
  | disconnect
  deriving DecidableEq

/-- A promise settles once; `none` means that the event cannot happen in this state. -/
def step (issuesCredentials : Bool) (s : State) : Label → Option State
  | .readySettles connection result =>
    match s.connections[connection]? with
    | some ⟨_, _, none, _, _, _, _⟩ =>
      some (s.update connection fun client => { client with ready := some result })
    | _ => none
  | .candidateSettles connection context =>
    match s.connections[connection]? with
    | some ⟨_, _, _, none, _, _, _⟩ =>
      some (s.update connection fun client => { client with activationCandidate := some context })
    | _ => none
  | .closedSettles connection closure =>
    match s.connections[connection]? with
    | some ⟨_, _, _, _, none, _, _⟩ =>
      some (s.update connection fun client => { client with closed := some closure })
    | _ => none
  | .credentialSettles result =>
    s.settleWait fun
      | .credential none => some (.credential (some result))
      | _ => none
  | .delayElapses =>
    s.settleWait fun
      | .initialDelay none => some (.initialDelay (some (.ok ())))
      | .backoff delayMs none => some (.backoff delayMs (some (.ok ())))
      | _ => none
  | .waitSettles => s.settleWait s.settles
  | .waitExpires byTimer =>
    s.settleWait fun wait => some (wait.reject
      (if byTimer then .other (wait.label ++ ofAscii " deadline exceeded") else deadlineError))
  | .deadlinePasses => some { s with deadlinePassed := true }
  | .continues thrown => s.continues issuesCredentials thrown
  | .close => some s.close
  | .closeSettles succeeded =>
    if s.closePending then
      let s := if succeeded then s else s.disconnectAt s.current
      some { s.settleClosure ⟨.closed, none⟩ with closePending := false }
    else none
  | .disconnect => some (s.disconnectAt s.current)

end Lotur.Client.Resilient
