import Lotur.Client.Streams
import Lotur.Library.Execution

/-! One client stream and every callback that can retire it: the operations its frames queue,
the local response or upgraded socket, its timers, and the completions of its sends. -/
namespace Lotur.Client.StreamRetirement

/-- How far the local answer has come. `raw` is an upgraded socket; `ending` has set
`responseEnded` and waits for the send of END. -/
inductive Forwarding where
  | idle
  | headers
  | body
  | raw
  | ending
  | done
  deriving DecidableEq, Repr

inductive Timer where
  | duration
  | inactivity
  | responseHeader
  deriving DecidableEq, Repr

/-- The stream, the tables of its carrier and the variables of its callbacks. The last five
fields record what happened: calls of `RemoteStreamLifecycle.close`, what they threw, whether
`maybeDeleteStream` removed the stream, and the RESET_STREAM codes sent before and after. -/
structure State where
  tables : Tables
  applicationOperations : ApplicationOperationBudget
  stream : ClientStream
  forwarding : Forwarding
  producerPending : Bool
  localEnded : Bool
  requestErrorListener : Bool
  socketErrorListener : Bool
  socketCloseListener : Bool
  protocolClosing : Bool
  closeCalls : ℕ
  closeErrors : List JsError
  deleted : Bool
  resets : List String
  lateResets : List String

namespace State

def absorb (s : State) (outcome : Retirement) : State :=
  { s with
    tables := outcome.tables
    stream := outcome.stream
    closeCalls := s.closeCalls + if outcome.closeCalled then 1 else 0
    closeErrors := s.closeErrors ++ outcome.error.toList }

def resetStream (s : State) (code : String) : State :=
  { s with
    resets := s.resets ++ [code]
    lateResets := if s.deleted then s.lateResets ++ [code] else s.lateResets }

def closeForProtocolError (s : State) : State := { s with protocolClosing := true }

/-- `terminate`, `failLocalSocket`, the request's error listener and the catch block of
`forwardLocalResponse`: an error of `cancelClientStream` leaves before `resetStream`. -/
def cancelAndReset (streamId : ℕ) (s : State) (code : String) : State :=
  if s.stream.cancelled then s
  else
    let outcome := cancelClientStream s.tables streamId s.stream .localReset
    match outcome.error with
    | some _ => s.absorb outcome
    | none => (s.absorb outcome).resetStream code

/-- `maybeDeleteStream` and whether it threw. -/
def deleteIfEnded (streamId : ℕ) (s : State) : State × Bool :=
  let outcome := maybeDeleteStream s.tables streamId s.stream
  ({ s.absorb outcome with
      deleted := s.deleted || (outcome.closeCalled && outcome.error.isNone) },
    outcome.error.isSome)

/-- The code sent by the catch handler of the path that waits for the END send. -/
def endFailureCode (s : State) : String :=
  if s.stream.localSocket then "LOCAL_IO_ERROR" else "LOCAL_RESPONSE_ERROR"

def popOperation (s : State) (rest : List Operation) : State :=
  { s with
    stream := { s.stream with
      inboundQueue := rest
      pendingInboundOperations := s.stream.pendingInboundOperations - 1 }
    applicationOperations := s.applicationOperations.release }

/-- A queued DATA operation that goes through returns its bytes to the inbound window. -/
def runData (streamId : ℕ) (s : State) (bytes : ℕ) : State :=
  if s.stream.cancelled then s
  else if !(s.stream.kind = .websocket ∧ s.stream.localSocket) && s.stream.requestEnded then
    s.closeForProtocolError
  else match s.tables.inboundFlow.release streamId bytes with
  | .error _ => s.closeForProtocolError
  | .ok inboundFlow => { s with tables := { s.tables with inboundFlow } }

/-- The queued END operation. -/
def runEnd (streamId : ℕ) (s : State) : State :=
  if s.stream.cancelled then s
  else if s.stream.requestEnded then s.closeForProtocolError
  else
    let stream := { s.stream with requestEnded := true }
    let stream := if stream.kind = .websocket ∧ stream.localSocket then stream
      else stream.armResponseHeaderTimer
    let (after, threw) := deleteIfEnded streamId { s with stream }
    if threw && !after.stream.cancelled then after.closeForProtocolError else after

/-- DATA and END frames of an active stream queue an operation; on a retired id only the
retired-data budget is charged. -/
def receive (streamId : ℕ) (s : State) (operation : Operation) : State :=
  if s.tables.streamLifecycle.isRetired streamId then
    match operation with
    | .endStream => s
    | .data bytes =>
      match s.tables.inboundFlow.consumeRetiredData streamId bytes with
      | .error _ => s.closeForProtocolError
      | .ok inboundFlow => { s with tables := { s.tables with inboundFlow } }
  else if streamId ∉ s.tables.streamLifecycle.active ∨ streamId ∉ s.tables.streams ∨
      s.stream.cancelled then s.closeForProtocolError
  else
    let (stream, consumed) := match operation with
      | .endStream => (s.stream, Except.ok s.tables.inboundFlow)
      | .data bytes => (s.stream.touchClientStream, s.tables.inboundFlow.consume streamId bytes)
    let s := { s with stream }
    match consumed with
    | .error _ => s.closeForProtocolError
    | .ok inboundFlow =>
      let s := { s with tables := { s.tables with inboundFlow } }
      match enqueueInboundOperation s.stream operation s.applicationOperations with
      | .error _ => s.closeForProtocolError
      | .ok (stream, applicationOperations) => { s with stream, applicationOperations }

def receiveReset (streamId : ℕ) (s : State) : State :=
  if s.tables.streamLifecycle.isRetired streamId then s
  else if streamId ∉ s.tables.streamLifecycle.active ∨ streamId ∉ s.tables.streams ∨
      s.stream.cancelled then s.closeForProtocolError
  else
    let outcome := cancelClientStream s.tables streamId s.stream .remoteReset
    match outcome.error with
    | some _ => (s.absorb outcome).closeForProtocolError
    | none => s.absorb outcome

def timerArmed (s : State) : Timer → Bool
  | .duration => s.stream.durationTimer
  | .inactivity => s.stream.inactivityTimer
  | .responseHeader => s.stream.responseHeaderTimer

end State

def timerCode : Timer → String
  | .duration => "LIMIT_EXCEEDED"
  | .inactivity => "IDLE_TIMEOUT"
  | .responseHeader => "HEADER_TIMEOUT"

inductive Label where
  | frame (operation : Operation)
  | frameReset
  | runOperation
  | operationFails
  | localResponse
  | localUpgrade (valid : Bool)
  | headersSent
  | chunk
  | forwardingFails
  | responseEnds
  | socketData
  | producerSent
  | producerFails
  | socketEnd
  | rawEnds
  | endSent
  | endFails
  | socketError
  | socketClose
  | requestError
  | timerFires (timer : Timer)
  deriving DecidableEq, Repr

/-- One callback of the stream; `none` when it cannot be called in that state. -/
def step (streamId : ℕ) (s : State) : Label → Option State
  | .frame operation => if s.protocolClosing then none else some (s.receive streamId operation)
  | .frameReset => if s.protocolClosing then none else some (s.receiveReset streamId)
  | .runOperation =>
    match s.stream.inboundQueue with
    | [] => none
    | .data bytes :: rest => some ((s.popOperation rest).runData streamId bytes)
    | .endStream :: rest => some ((s.popOperation rest).runEnd streamId)
  | .operationFails =>
    match s.stream.inboundQueue with
    | .data _ :: rest =>
      let s := s.popOperation rest
      some (if s.stream.cancelled then s else s.closeForProtocolError)
    | _ => none
  | .localResponse =>
    if s.forwarding = .idle then
      some { s with
        stream := { s.stream.clearResponseHeaderTimer.touchClientStream with response := true }
        forwarding := .headers }
    else none
  | .localUpgrade valid =>
    if s.forwarding = .idle ∧ s.stream.kind = .websocket then
      if valid then
        some { s with
          stream := { s.stream.clearResponseHeaderTimer.touchClientStream with
            response := true, localSocket := true, requestEnded := false }
          forwarding := .raw
          producerPending := true
          socketErrorListener := true
          socketCloseListener := true }
      else some ({ s.cancelAndReset streamId "INVALID_WEBSOCKET_ACCEPT" with
        forwarding := .done })
    else none
  | .headersSent => if s.forwarding = .headers then some { s with forwarding := .body } else none
  | .chunk =>
    if s.forwarding = .body then
      if s.stream.cancelled then some { s with forwarding := .done }
      else some { s with stream := s.stream.touchClientStream }
    else none
  | .forwardingFails =>
    if s.forwarding = .headers ∨ s.forwarding = .body then
      some { s.cancelAndReset streamId "LOCAL_RESPONSE_ERROR" with forwarding := .done }
    else none
  | .responseEnds =>
    if s.forwarding = .body then
      if s.stream.cancelled then some { s with forwarding := .done }
      else some { s with
        stream := { s.stream with responseEnded := true }
        forwarding := .ending }
    else none
  | .socketData =>
    if s.forwarding = .raw ∧ s.localEnded = false then
      if s.stream.cancelled then some s
      else if s.producerPending then some (s.cancelAndReset streamId "LOCAL_IO_ERROR")
      else some { s with producerPending := true, stream := s.stream.touchClientStream }
    else none
  | .producerSent =>
    if s.forwarding = .raw ∧ s.producerPending then some { s with producerPending := false }
    else none
  | .producerFails =>
    if s.forwarding = .raw ∧ s.producerPending then
      some { s.cancelAndReset streamId "LOCAL_IO_ERROR" with forwarding := .done }
    else none
  | .socketEnd =>
    if s.forwarding = .raw ∧ s.localEnded = false then some { s with localEnded := true } else none
  | .rawEnds =>
    if s.forwarding = .raw ∧ s.localEnded ∧ s.producerPending = false then
      if s.stream.cancelled then some { s with forwarding := .done }
      else some { s with
        stream := { s.stream with responseEnded := true }
        forwarding := .ending }
    else none
  | .endSent =>
    if s.forwarding = .ending then
      let (after, threw) := s.deleteIfEnded streamId
      let after := { after with forwarding := .done }
      some (if threw then after.cancelAndReset streamId after.endFailureCode else after)
    else none
  | .endFails =>
    if s.forwarding = .ending then
      some { s.cancelAndReset streamId s.endFailureCode with forwarding := .done }
    else none
  | .socketError =>
    if s.socketErrorListener then
      some ({ s with socketErrorListener := false }.cancelAndReset streamId "LOCAL_IO_ERROR")
    else none
  | .socketClose =>
    if s.socketCloseListener then
      let s := { s with socketCloseListener := false }
      some (if s.localEnded then s else s.cancelAndReset streamId "LOCAL_IO_ERROR")
    else none
  | .requestError =>
    if s.requestErrorListener then
      some ({ s with requestErrorListener := false }.cancelAndReset streamId "LOCAL_ORIGIN_ERROR")
    else none
  | .timerFires timer =>
    if s.timerArmed timer then some (s.cancelAndReset streamId (timerCode timer)) else none

/-- The state right after the OPEN_HTTP frame was handled. -/
def start (tables : Tables) (applicationOperations : ApplicationOperationBudget)
    (kind : StreamKind) (requestBodyEnded : Bool) : State :=
  { tables
    applicationOperations
    stream := .opened kind requestBodyEnded
    forwarding := .idle
    producerPending := false
    localEnded := false
    requestErrorListener := true
    socketErrorListener := false
    socketCloseListener := false
    protocolClosing := false
    closeCalls := 0
    closeErrors := []
    deleted := false
    resets := []
    lateResets := [] }

/-- `close` was called at most once and never threw, and no RESET_STREAM followed a normal
deletion. -/
def RetiresOnce (s : State) : Prop :=
  s.closeCalls ≤ 1 ∧ s.closeErrors = [] ∧ s.lateResets = []

/-- The three moments that go wrong are avoided: the END operation does not end the request
side while the send of the response END is under way, that send does not complete on a stream
cancelled meanwhile with its request side ended, and no local `error` event comes after both
sides ended and the END was sent. -/
def WellTimed (s : State) : Label → Prop
  | .runOperation => ¬ (s.stream.inboundQueue.head? = some .endStream ∧
      s.stream.cancelled = false ∧ s.stream.requestEnded = false ∧ s.forwarding = .ending)
  | .endSent => s.stream.cancelled = false ∨ s.stream.requestEnded = false
  | .requestError | .socketError => ¬ (s.stream.cancelled = false ∧
      s.stream.requestEnded = true ∧ s.stream.responseEnded = true ∧ s.forwarding = .done)
  | _ => True

instance (s : State) (a : Label) : Decidable (WellTimed s a) := by
  unfold WellTimed
  split <;> infer_instance

/-- What holds between the callbacks of a well-timed run. -/
structure Inv (streamId : ℕ) (s : State) : Prop where
  live : s.stream.cancelled = false → s.deleted = false →
    s.closeCalls = 0 ∧ streamId ∈ s.tables.streamLifecycle.active
  retired : s.stream.cancelled = true ∨ s.deleted = true →
    s.closeCalls = 1 ∧ streamId ∉ s.tables.streamLifecycle.active
  noError : s.closeErrors = []
  noLateReset : s.lateResets = []
  deletedEnded : s.deleted = true → s.stream.cancelled = false ∧ s.stream.requestEnded = true ∧
    s.stream.responseEnded = true ∧ s.forwarding = .done
  deletedTimers : s.deleted = true → s.stream.responseHeaderTimer = false ∧
    s.stream.inactivityTimer = false ∧ s.stream.durationTimer = false
  unanswered : s.forwarding ∈ [Forwarding.idle, .headers, .body, .raw] →
    s.stream.responseEnded = false
  unupgraded : s.forwarding ∈ [Forwarding.idle, .headers, .body] → s.socketCloseListener = false
  socketEnded : s.socketCloseListener = true → s.stream.responseEnded = true →
    s.localEnded = true

theorem Inv.retiresOnce {streamId : ℕ} {s : State} (h : Inv streamId s) : RetiresOnce s := by
  refine ⟨?_, h.noError, h.noLateReset⟩
  by_cases hcancelled : s.stream.cancelled = true
  · exact (h.retired (Or.inl hcancelled)).1.le
  · by_cases hdeleted : s.deleted = true
    · exact (h.retired (Or.inr hdeleted)).1.le
    · have := h.live (by simpa using hcancelled) (by simpa using hdeleted)
      omega

/-- A stream whose answer is still under way was not removed by `maybeDeleteStream`. -/
theorem Inv.not_deleted {streamId : ℕ} {s : State} (h : Inv streamId s)
    (hforward : s.forwarding ≠ .done) : s.deleted = false := by
  by_contra hdeleted
  exact hforward (h.deletedEnded (by simpa using hdeleted)).2.2.2

theorem Inv.answered {streamId : ℕ} {s : State} (h : Inv streamId s)
    (hresponse : s.stream.responseEnded = true) :
    s.forwarding = .ending ∨ s.forwarding = .done := by
  have hnot := mt h.unanswered (by simp [hresponse])
  cases hforward : s.forwarding <;> simp [hforward] at hnot ⊢

theorem start_inv {streamId : ℕ} {tables : Tables} (operations : ApplicationOperationBudget)
    (kind : StreamKind) (requestBodyEnded : Bool)
    (h : streamId ∈ tables.streamLifecycle.active) :
    Inv streamId (start tables operations kind requestBodyEnded) := by
  constructor <;> simp [start, ClientStream.opened, h]

section Retiring
variable {streamId : ℕ} {s : State}

/-- Cancelling a live stream closes it in the lifecycle and throws nothing. -/
theorem cancelAndReset_live (code : String) (hcancelled : s.stream.cancelled = false)
    (hactive : streamId ∈ s.tables.streamLifecycle.active) :
    ∃ tables settled, streamId ∉ tables.streamLifecycle.active ∧
      s.cancelAndReset streamId code =
        (s.absorb { tables
                    stream := { s.stream with cancelled := true }.clearClientStreamTimers
                    settled, closeCalled := true, error := none }).resetStream code := by
  have hclose := RemoteStreamLifecycle.close_of_active hactive
  simp only [State.cancelAndReset, hcancelled, Bool.false_eq_true, ↓reduceIte,
    cancelClientStream, retire, hclose]
  exact ⟨_, _, Finset.notMem_erase _ _, rfl⟩

theorem cancelAndReset_inv (code : String) (h : Inv streamId s)
    (hdeleted : s.stream.cancelled = false → s.deleted = false) :
    Inv streamId (s.cancelAndReset streamId code) := by
  by_cases hcancelled : s.stream.cancelled = true
  · simpa only [State.cancelAndReset, hcancelled, ↓reduceIte] using h
  have hcancelled : s.stream.cancelled = false := by simpa using hcancelled
  obtain ⟨hcalls, hactive⟩ := h.live hcancelled (hdeleted hcancelled)
  obtain ⟨tables, settled, hgone, heq⟩ := cancelAndReset_live code hcancelled hactive
  have hnot := hdeleted hcancelled
  rw [heq]
  constructor <;>
    simp [State.absorb, State.resetStream, ClientStream.clearClientStreamTimers, hnot, hcalls,
      h.noError, h.noLateReset, hgone]
  · simpa using h.unanswered
  · simpa using h.unupgraded
  · exact h.socketEnded

theorem forwarding_done_inv (h : Inv streamId s) :
    Inv streamId { s with forwarding := .done } := by
  constructor
  case deletedEnded =>
    intro hdeleted
    obtain ⟨hc, hq, hr, -⟩ := h.deletedEnded hdeleted
    exact ⟨hc, hq, hr, rfl⟩
  case unanswered => simp
  case unupgraded => simp
  case live => exact h.live
  case retired => exact h.retired
  case noError => exact h.noError
  case noLateReset => exact h.noLateReset
  case deletedTimers => exact h.deletedTimers
  case socketEnded => exact h.socketEnded

/-- A callback that retires nothing: it leaves the retirement record alone and does not touch
a stream that was removed. -/
structure Quiet (s s' : State) : Prop where
  cancelled : s'.stream.cancelled = s.stream.cancelled
  deleted : s'.deleted = s.deleted
  closeCalls : s'.closeCalls = s.closeCalls
  closeErrors : s'.closeErrors = s.closeErrors
  lateResets : s'.lateResets = s.lateResets
  active : s'.tables.streamLifecycle.active = s.tables.streamLifecycle.active
  removed : s.deleted = true → s'.stream.requestEnded = s.stream.requestEnded ∧
    s'.stream.responseEnded = s.stream.responseEnded ∧ s'.forwarding = s.forwarding ∧
    s'.stream.responseHeaderTimer = s.stream.responseHeaderTimer ∧
    s'.stream.inactivityTimer = s.stream.inactivityTimer ∧
    s'.stream.durationTimer = s.stream.durationTimer

theorem Inv.quiet {s' : State} (h : Inv streamId s) (q : Quiet s s')
    (hunanswered : s'.forwarding ∈ [Forwarding.idle, .headers, .body, .raw] →
      s'.stream.responseEnded = false)
    (hunupgraded : s'.forwarding ∈ [Forwarding.idle, .headers, .body] →
      s'.socketCloseListener = false)
    (hsocket : s'.socketCloseListener = true → s'.stream.responseEnded = true →
      s'.localEnded = true) : Inv streamId s' where
  live hc hd := by
    rw [q.closeCalls, q.active]
    exact h.live (q.cancelled ▸ hc) (q.deleted ▸ hd)
  retired hr := by
    rw [q.closeCalls, q.active]
    rw [q.cancelled, q.deleted] at hr
    exact h.retired hr
  noError := q.closeErrors.trans h.noError
  noLateReset := q.lateResets.trans h.noLateReset
  deletedEnded hd := by
    rw [q.deleted] at hd
    obtain ⟨hrequest, hresponse, hforward, -⟩ := q.removed hd
    rw [q.cancelled, hrequest, hresponse, hforward]
    exact h.deletedEnded hd
  deletedTimers hd := by
    rw [q.deleted] at hd
    obtain ⟨-, -, -, hheader, hinactivity, hduration⟩ := q.removed hd
    rw [hheader, hinactivity, hduration]
    exact h.deletedTimers hd
  unanswered := hunanswered
  unupgraded := hunupgraded
  socketEnded := hsocket

/-- A quiet callback that also leaves the answer where it was. -/
theorem Inv.quiet_unmoved {s' : State} (h : Inv streamId s) (q : Quiet s s')
    (hforward : s'.forwarding = s.forwarding)
    (hresponse : s'.stream.responseEnded = s.stream.responseEnded)
    (hclose : s'.socketCloseListener = s.socketCloseListener)
    (hended : s'.localEnded = s.localEnded) : Inv streamId s' := by
  apply h.quiet q
  · rw [hforward, hresponse]
    exact h.unanswered
  · rw [hforward, hclose]
    exact h.unupgraded
  · rw [hclose, hresponse, hended]
    exact h.socketEnded

theorem closeForProtocolError_inv (h : Inv streamId s) : Inv streamId s.closeForProtocolError :=
  h.quiet_unmoved ⟨rfl, rfl, rfl, rfl, rfl, rfl, fun _ => ⟨rfl, rfl, rfl, rfl, rfl, rfl⟩⟩
    rfl rfl rfl rfl

theorem popOperation_inv (rest : List Operation) (h : Inv streamId s) :
    Inv streamId (s.popOperation rest) :=
  h.quiet_unmoved ⟨rfl, rfl, rfl, rfl, rfl, rfl, fun _ => ⟨rfl, rfl, rfl, rfl, rfl, rfl⟩⟩
    rfl rfl rfl rfl

theorem inboundFlow_inv (inboundFlow : InboundFlowWindow) (h : Inv streamId s) :
    Inv streamId { s with tables := { s.tables with inboundFlow } } :=
  h.quiet_unmoved ⟨rfl, rfl, rfl, rfl, rfl, rfl, fun _ => ⟨rfl, rfl, rfl, rfl, rfl, rfl⟩⟩
    rfl rfl rfl rfl

theorem runData_inv (bytes : ℕ) (h : Inv streamId s) :
    Inv streamId (s.runData streamId bytes) := by
  unfold State.runData
  split
  · exact h
  split
  · exact closeForProtocolError_inv h
  split
  · exact closeForProtocolError_inv h
  · exact inboundFlow_inv _ h

/-- An active stream has not been retired, so its timers may be armed again. -/
theorem touch_inv (h : Inv streamId s) (hdeleted : s.deleted = false) :
    Inv streamId { s with stream := s.stream.touchClientStream } := by
  refine h.quiet_unmoved ?_ rfl rfl rfl rfl
  refine ⟨rfl, rfl, rfl, rfl, rfl, rfl, fun hd => ?_⟩
  rw [hdeleted] at hd
  cases hd

theorem enqueue_inv {operation : Operation} {stream : ClientStream}
    {operations : ApplicationOperationBudget} (h : Inv streamId s)
    (henqueue : enqueueInboundOperation s.stream operation s.applicationOperations =
      .ok (stream, operations)) :
    Inv streamId { s with stream, applicationOperations := operations } := by
  unfold enqueueInboundOperation at henqueue
  split_ifs at henqueue with hfull
  · cases henqueue
  cases hreserve : s.applicationOperations.reserve with
  | error e => rw [hreserve] at henqueue; cases henqueue
  | ok reserved =>
    rw [hreserve] at henqueue
    cases henqueue
    exact h.quiet_unmoved ⟨rfl, rfl, rfl, rfl, rfl, rfl,
      fun _ => ⟨rfl, rfl, rfl, rfl, rfl, rfl⟩⟩ rfl rfl rfl rfl

theorem receive_inv (operation : Operation) (h : Inv streamId s) :
    Inv streamId (s.receive streamId operation) := by
  unfold State.receive
  split
  · cases operation with
    | endStream => exact h
    | data bytes =>
      simp only
      split
      · exact closeForProtocolError_inv h
      · exact inboundFlow_inv _ h
  split
  · exact closeForProtocolError_inv h
  rename_i hactive
  simp only [not_or, not_not] at hactive
  have hdeleted : s.deleted = false := by
    by_contra hd
    exact (h.retired (Or.inr (by simpa using hd))).2 hactive.1
  cases operation with
  | endStream =>
    simp only
    split
    · exact closeForProtocolError_inv h
    · exact enqueue_inv h (by assumption)
  | data bytes =>
    have htouched := touch_inv h hdeleted
    simp only
    split
    · exact closeForProtocolError_inv htouched
    · have hflow := inboundFlow_inv (by assumption) htouched
      split
      · exact closeForProtocolError_inv hflow
      · exact enqueue_inv hflow (by assumption)

theorem receiveReset_inv (h : Inv streamId s) : Inv streamId (s.receiveReset streamId) := by
  unfold State.receiveReset
  split
  · exact h
  split
  · exact closeForProtocolError_inv h
  rename_i hactive
  simp only [not_or, not_not, Bool.not_eq_true] at hactive
  obtain ⟨hactive, -, hcancelled⟩ := hactive
  have hdeleted : s.deleted = false := by
    by_contra hd
    exact (h.retired (Or.inr (by simpa using hd))).2 hactive
  have hclose := RemoteStreamLifecycle.close_of_active hactive
  obtain ⟨hcalls, -⟩ := h.live hcancelled hdeleted
  simp only [cancelClientStream, hcancelled, Bool.false_eq_true, ↓reduceIte, retire, hclose]
  constructor <;>
    simp [State.absorb, ClientStream.clearClientStreamTimers, hdeleted, hcalls, h.noError,
      h.noLateReset]
  · simpa using h.unanswered
  · simpa using h.unupgraded
  · exact h.socketEnded

/-- Removing a live stream whose two sides have ended, with no send of END under way. -/
theorem deleteIfEnded_inv (h : Inv streamId s) (hcancelled : s.stream.cancelled = false)
    (hdeleted : s.deleted = false) (hforward : s.stream.responseEnded = true →
      s.forwarding = .done) :
    Inv streamId (s.deleteIfEnded streamId).1 ∧ (s.deleteIfEnded streamId).2 = false := by
  obtain ⟨hcalls, hactive⟩ := h.live hcancelled hdeleted
  have hclose := RemoteStreamLifecycle.close_of_active hactive
  unfold State.deleteIfEnded maybeDeleteStream
  by_cases hended : (s.stream.requestEnded && s.stream.responseEnded) = true
  · have hsides := hended
    rw [Bool.and_eq_true] at hsides
    simp only [hended, ↓reduceIte, retire, hclose]
    refine ⟨?_, rfl⟩
    constructor <;>
      simp [State.absorb, ClientStream.clearClientStreamTimers, hcancelled, hcalls, h.noError,
        h.noLateReset, hsides.1, hsides.2, hforward hsides.2]
    intro hlistener
    exact h.socketEnded hlistener hsides.2
  · simp only [hended, Bool.false_eq_true, ↓reduceIte, Retirement.unchanged]
    refine ⟨h.quiet_unmoved ⟨rfl, ?_, ?_, ?_, rfl, rfl,
      fun _ => ⟨rfl, rfl, rfl, rfl, rfl, rfl⟩⟩ rfl rfl rfl rfl, rfl⟩ <;> simp [State.absorb]

theorem requestEnds_inv (stream : ClientStream) (h : Inv streamId s)
    (hdeleted : s.deleted = false) (hcancelled : stream.cancelled = s.stream.cancelled)
    (hresponse : stream.responseEnded = s.stream.responseEnded) :
    Inv streamId { s with stream } := by
  refine h.quiet_unmoved ?_ rfl hresponse rfl rfl
  refine ⟨hcancelled, rfl, rfl, rfl, rfl, rfl, fun hd => ?_⟩
  rw [hdeleted] at hd
  cases hd

theorem runEnd_inv (h : Inv streamId s) (htimed : ¬ (s.stream.cancelled = false ∧
      s.stream.requestEnded = false ∧ s.forwarding = .ending)) :
    Inv streamId (s.runEnd streamId) := by
  unfold State.runEnd
  split
  · exact h
  split
  · exact closeForProtocolError_inv h
  rename_i hcancelled hrequest
  have hcancelled : s.stream.cancelled = false := by simpa using hcancelled
  have hrequest : s.stream.requestEnded = false := by simpa using hrequest
  have hdeleted : s.deleted = false := by
    by_contra hd
    have := (h.deletedEnded (by simpa using hd)).2.1
    rw [hrequest] at this
    cases this
  simp only
  set stream := (if s.stream.kind = .websocket ∧ s.stream.localSocket = true then
      { s.stream with requestEnded := true }
    else { s.stream with requestEnded := true }.armResponseHeaderTimer) with hstream
  have hkept : stream.cancelled = s.stream.cancelled ∧
      stream.responseEnded = s.stream.responseEnded := by
    rw [hstream]
    unfold ClientStream.armResponseHeaderTimer
    split_ifs <;> exact ⟨rfl, rfl⟩
  have hbefore := requestEnds_inv stream h hdeleted hkept.1 hkept.2
  have hafter := deleteIfEnded_inv hbefore (hkept.1.trans hcancelled) hdeleted (by
    intro hresponse
    rcases h.answered (hkept.2.symm.trans hresponse) with hending | hdone
    · exact absurd ⟨hcancelled, hrequest, hending⟩ htimed
    · exact hdone)
  simp only [hafter.2, Bool.false_and, Bool.false_eq_true, ↓reduceIte]
  exact hafter.1

/-- The send of END completes on a stream that is still live or has an open request side. -/
theorem endSent_inv (h : Inv streamId s) (hending : s.forwarding = .ending)
    (htimed : s.stream.cancelled = false ∨ s.stream.requestEnded = false) :
    Inv streamId { (s.deleteIfEnded streamId).1 with forwarding := .done } ∧
      (s.deleteIfEnded streamId).2 = false := by
  have hdone := forwarding_done_inv h
  have hdeleted := h.not_deleted (by simp [hending])
  by_cases hcancelled : s.stream.cancelled = false
  · exact deleteIfEnded_inv hdone hcancelled hdeleted fun _ => rfl
  · have hrequest := htimed.resolve_left hcancelled
    simp only [State.deleteIfEnded, maybeDeleteStream, hrequest, Bool.false_and,
      Bool.false_eq_true, ↓reduceIte, Retirement.unchanged]
    refine ⟨hdone.quiet_unmoved ⟨rfl, ?_, ?_, ?_, rfl, rfl,
      fun _ => ⟨rfl, rfl, rfl, rfl, rfl, rfl⟩⟩ rfl rfl rfl rfl, rfl⟩ <;> simp [State.absorb]

/-- Every callback of a well-timed run keeps the invariant. -/
theorem step_inv {s' : State} {a : Label} (h : Inv streamId s) (htimed : WellTimed s a)
    (hstep : step streamId s a = some s') : Inv streamId s' := by
  cases a with
  | frame operation =>
    simp only [step] at hstep
    split_ifs at hstep
    cases hstep
    exact receive_inv operation h
  | frameReset =>
    simp only [step] at hstep
    split_ifs at hstep
    cases hstep
    exact receiveReset_inv h
  | runOperation =>
    simp only [step] at hstep
    split at hstep
    · cases hstep
    · cases hstep
      exact runData_inv _ (popOperation_inv _ h)
    · rename_i rest hqueue
      cases hstep
      apply runEnd_inv (popOperation_inv rest h)
      simp only [WellTimed, hqueue, List.head?_cons, true_and] at htimed
      exact htimed
  | operationFails =>
    simp only [step] at hstep
    split at hstep
    · cases hstep
      split_ifs
      · exact popOperation_inv _ h
      · exact closeForProtocolError_inv (popOperation_inv _ h)
    · cases hstep
  | localResponse =>
    simp only [step] at hstep
    split_ifs at hstep with hidle
    cases hstep
    have hdeleted := h.not_deleted (by simp [hidle])
    refine h.quiet ⟨rfl, rfl, rfl, rfl, rfl, rfl, fun hd => ?_⟩ ?_ ?_ ?_
    · rw [hdeleted] at hd; cases hd
    · exact fun _ => h.unanswered (by simp [hidle])
    · exact fun _ => h.unupgraded (by simp [hidle])
    · exact h.socketEnded
  | localUpgrade valid =>
    simp only [step] at hstep
    split_ifs at hstep with hidle hvalid
    · cases hstep
      have hdeleted := h.not_deleted (by simp [hidle.1])
      have hopen : s.stream.responseEnded = false := h.unanswered (by simp [hidle.1])
      refine h.quiet ⟨rfl, rfl, rfl, rfl, rfl, rfl, fun hd => ?_⟩ ?_ ?_ ?_
      · rw [hdeleted] at hd; cases hd
      · exact fun _ => hopen
      · simp
      · intro _ hresponse
        rw [show s.stream.responseEnded = true from hresponse] at hopen
        cases hopen
    · cases hstep
      exact forwarding_done_inv (cancelAndReset_inv _ h fun _ => h.not_deleted (by simp [hidle.1]))
  | headersSent =>
    simp only [step] at hstep
    split_ifs at hstep with hheaders
    cases hstep
    have hdeleted := h.not_deleted (by simp [hheaders])
    refine h.quiet ⟨rfl, rfl, rfl, rfl, rfl, rfl, fun hd => ?_⟩ ?_ ?_ h.socketEnded
    · rw [hdeleted] at hd; cases hd
    · exact fun _ => h.unanswered (by simp [hheaders])
    · exact fun _ => h.unupgraded (by simp [hheaders])
  | chunk =>
    simp only [step] at hstep
    split_ifs at hstep with hbody hcancelled
    · cases hstep
      exact forwarding_done_inv h
    · cases hstep
      exact touch_inv h (h.not_deleted (by simp [hbody]))
  | forwardingFails =>
    simp only [step] at hstep
    split_ifs at hstep with hphase
    cases hstep
    apply forwarding_done_inv (cancelAndReset_inv _ h fun _ => h.not_deleted ?_)
    rcases hphase with hphase | hphase <;> simp [hphase]
  | responseEnds =>
    simp only [step] at hstep
    split_ifs at hstep with hbody hcancelled
    · cases hstep
      exact forwarding_done_inv h
    · cases hstep
      have hdeleted := h.not_deleted (by simp [hbody])
      have hlistener := h.unupgraded (by simp [hbody])
      refine h.quiet ⟨rfl, rfl, rfl, rfl, rfl, rfl, fun hd => ?_⟩ (by simp) (by simp) ?_
      · rw [hdeleted] at hd; cases hd
      · intro hclose
        rw [show s.socketCloseListener = true from hclose] at hlistener
        cases hlistener
  | socketData =>
    simp only [step] at hstep
    split_ifs at hstep with hraw hcancelled hpending
    · cases hstep
      exact h
    · cases hstep
      exact cancelAndReset_inv _ h fun _ => h.not_deleted (by simp [hraw.1])
    · cases hstep
      have htouched := touch_inv h (h.not_deleted (by simp [hraw.1]))
      exact htouched.quiet_unmoved ⟨rfl, rfl, rfl, rfl, rfl, rfl,
        fun _ => ⟨rfl, rfl, rfl, rfl, rfl, rfl⟩⟩ rfl rfl rfl rfl
  | producerSent =>
    simp only [step] at hstep
    split_ifs at hstep
    cases hstep
    exact h.quiet_unmoved ⟨rfl, rfl, rfl, rfl, rfl, rfl,
      fun _ => ⟨rfl, rfl, rfl, rfl, rfl, rfl⟩⟩ rfl rfl rfl rfl
  | producerFails =>
    simp only [step] at hstep
    split_ifs at hstep with hraw
    cases hstep
    exact forwarding_done_inv (cancelAndReset_inv _ h fun _ => h.not_deleted (by simp [hraw.1]))
  | socketEnd =>
    simp only [step] at hstep
    split_ifs at hstep with hraw
    cases hstep
    exact h.quiet ⟨rfl, rfl, rfl, rfl, rfl, rfl, fun _ => ⟨rfl, rfl, rfl, rfl, rfl, rfl⟩⟩
      h.unanswered h.unupgraded fun _ _ => rfl
  | rawEnds =>
    simp only [step] at hstep
    split_ifs at hstep with hraw hcancelled
    · cases hstep
      exact forwarding_done_inv h
    · cases hstep
      have hdeleted := h.not_deleted (by simp [hraw.1])
      refine h.quiet ⟨rfl, rfl, rfl, rfl, rfl, rfl, fun hd => ?_⟩ (by simp) (by simp) ?_
      · rw [hdeleted] at hd; cases hd
      · exact fun _ _ => hraw.2.1
  | endSent =>
    simp only [step] at hstep
    split_ifs at hstep with hending hthrew
    · rw [(endSent_inv h hending htimed).2] at hthrew
      cases hthrew
    · cases hstep
      exact (endSent_inv h hending htimed).1
  | endFails =>
    simp only [step] at hstep
    split_ifs at hstep with hending
    cases hstep
    exact forwarding_done_inv (cancelAndReset_inv _ h fun _ => h.not_deleted (by simp [hending]))
  | socketError =>
    simp only [step] at hstep
    split_ifs at hstep
    cases hstep
    have hquiet : Inv streamId { s with socketErrorListener := false } :=
      h.quiet_unmoved ⟨rfl, rfl, rfl, rfl, rfl, rfl,
        fun _ => ⟨rfl, rfl, rfl, rfl, rfl, rfl⟩⟩ rfl rfl rfl rfl
    apply cancelAndReset_inv _ hquiet
    intro hcancelled
    by_contra hd
    obtain ⟨-, hrequest, hresponse, hdone⟩ := h.deletedEnded (by simpa using hd)
    exact htimed ⟨hcancelled, hrequest, hresponse, hdone⟩
  | socketClose =>
    simp only [step] at hstep
    have hquiet : Inv streamId { s with socketCloseListener := false } :=
      h.quiet ⟨rfl, rfl, rfl, rfl, rfl, rfl, fun _ => ⟨rfl, rfl, rfl, rfl, rfl, rfl⟩⟩
        h.unanswered (fun _ => rfl) (by simp)
    split_ifs at hstep with hlistener hended
    · cases hstep
      exact hquiet
    · cases hstep
      apply cancelAndReset_inv _ hquiet
      intro _
      by_contra hd
      have hsides := h.deletedEnded (by simpa using hd)
      exact hended (h.socketEnded hlistener hsides.2.2.1)
  | requestError =>
    simp only [step] at hstep
    split_ifs at hstep
    cases hstep
    have hquiet : Inv streamId { s with requestErrorListener := false } :=
      h.quiet_unmoved ⟨rfl, rfl, rfl, rfl, rfl, rfl,
        fun _ => ⟨rfl, rfl, rfl, rfl, rfl, rfl⟩⟩ rfl rfl rfl rfl
    apply cancelAndReset_inv _ hquiet
    intro hcancelled
    by_contra hd
    obtain ⟨-, hrequest, hresponse, hdone⟩ := h.deletedEnded (by simpa using hd)
    exact htimed ⟨hcancelled, hrequest, hresponse, hdone⟩
  | timerFires timer =>
    simp only [step] at hstep
    split_ifs at hstep with harmed
    cases hstep
    apply cancelAndReset_inv _ h
    intro _
    by_contra hd
    obtain ⟨hheader, hinactivity, hduration⟩ := h.deletedTimers (by simpa using hd)
    cases timer <;> simp [State.timerArmed, hheader, hinactivity, hduration] at harmed

end Retiring

/-- In every run of a stream's callbacks that avoids the three bad moments, the stream is
retired at most once and no RESET_STREAM follows a normal deletion. -/
theorem stream_retires_once (streamId : ℕ) (tables : Tables)
    (operations : ApplicationOperationBudget) (kind : StreamKind) (requestBodyEnded : Bool)
    (hactive : streamId ∈ tables.streamLifecycle.active) (schedule : List Label) (s : State)
    (htimed : Execution.Guarded (step streamId) WellTimed
      (start tables operations kind requestBodyEnded) schedule)
    (hrun : Execution.run (step streamId) (start tables operations kind requestBodyEnded)
      schedule = some s) : RetiresOnce s :=
  (Execution.invariant_of_guarded (fun _ _ _ h hguard hstep => step_inv h hguard hstep)
    (start_inv operations kind requestBodyEnded hactive) htimed hrun).retiresOnce

/-- The tables of a carrier whose only stream has just been opened as stream 1. -/
def openedTables : Tables :=
  { streams := {1}
    streamLifecycle := { active := {1}, highestOpenedStreamId := 1 }
    outboundFlow := { OutboundFlowWindow.new 262144 with
      streams := AList.singleton 1 ⟨65536, 0⟩ }
    inboundFlow := { InboundFlowWindow.new 262144 4096 with
      streams := AList.singleton 1 ⟨65536, 0, 0⟩ } }

def openedRequest : State :=
  start openedTables { limit := MAX_PENDING_APPLICATION_OPERATIONS, pending := 0 } .http false

-- A whole exchange: the request ends, the answer is forwarded, and its END is sent.
theorem stream_retires_once_exchange :
    ∃ s, Execution.run (step 1) openedRequest [.frame .endStream, .runOperation, .localResponse,
        .headersSent, .chunk, .responseEnds, .endSent, .frameReset] = some s ∧
      RetiresOnce s := by
  refine ⟨_, rfl, ?_⟩
  exact stream_retires_once 1 openedTables
    { limit := MAX_PENDING_APPLICATION_OPERATIONS, pending := 0 } .http false (by decide)
    [.frame .endStream, .runOperation, .localResponse, .headersSent, .chunk, .responseEnds,
      .endSent, .frameReset] _ (by decide) rfl

/-- The queued END operation runs while the response END is being sent: the completed send
closes the stream a second time, and its catch block a third time. -/
theorem stream_retires_twice :
    ∃ s, Execution.run (step 1) openedRequest [.frame .endStream, .localResponse, .headersSent,
        .responseEnds, .runOperation, .endSent] = some s ∧
      s.closeCalls = 3 ∧ ¬ RetiresOnce s := by
  refine ⟨_, rfl, rfl, ?_⟩
  rintro ⟨hcalls, -, -⟩
  exact absurd hcalls (by decide)

end Lotur.Client.StreamRetirement
