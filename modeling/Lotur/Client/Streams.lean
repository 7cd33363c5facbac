import Lotur.Relay.Frames

/-! The client's stream records and the functions of `client.ts` that retire them. -/
namespace Lotur.Client

/-- The fields of `ClientStream` that its callbacks read. A timer field tells whether the
timer is armed; `response` and `localSocket` whether the object is there. -/
structure ClientStream where
  kind : StreamKind
  requestEnded : Bool
  requestBytes : ℕ
  responseEnded : Bool
  cancelled : Bool
  response : Bool
  localSocket : Bool
  inboundQueue : List Operation
  pendingInboundOperations : ℕ
  responseHeaderTimer : Bool
  inactivityTimer : Bool
  durationTimer : Bool
  deriving DecidableEq, Repr

namespace ClientStream

/-- The record made for an OPEN_HTTP frame, with the duration and inactivity timers armed,
and the header timer if the request has no body to wait for. -/
def opened (kind : StreamKind) (requestBodyEnded : Bool) : ClientStream :=
  { kind
    requestEnded := requestBodyEnded
    requestBytes := 0
    responseEnded := false
    cancelled := false
    response := false
    localSocket := false
    inboundQueue := []
    pendingInboundOperations := 0
    responseHeaderTimer := requestBodyEnded
    inactivityTimer := true
    durationTimer := true }

def clearResponseHeaderTimer (stream : ClientStream) : ClientStream :=
  { stream with responseHeaderTimer := false }

def touchClientStream (stream : ClientStream) : ClientStream :=
  { stream with inactivityTimer := true }

def clearClientStreamTimers (stream : ClientStream) : ClientStream :=
  { stream with responseHeaderTimer := false, inactivityTimer := false, durationTimer := false }

def armResponseHeaderTimer (stream : ClientStream) : ClientStream :=
  if stream.cancelled || stream.response || stream.responseHeaderTimer then stream
  else { stream with responseHeaderTimer := true }

end ClientStream

/-- The tables of one carrier that a stream's callbacks share. -/
structure Tables where
  streams : Finset ℕ
  streamLifecycle : RemoteStreamLifecycle
  outboundFlow : OutboundFlowWindow
  inboundFlow : InboundFlowWindow

/-- The outcome of a function that may retire a stream: the changes made before it returned
or threw, whether it called `RemoteStreamLifecycle.close`, and what it threw. -/
structure Retirement where
  tables : Tables
  stream : ClientStream
  settled : List Settlement
  closeCalled : Bool
  error : Option JsError

inductive RetirementKind where
  | localReset
  | remoteReset
  deriving DecidableEq, Repr

def Retirement.unchanged (tables : Tables) (stream : ClientStream) : Retirement :=
  { tables, stream, settled := [], closeCalled := false, error := none }

/-- The common tail of both functions: timers off, out of the map, then `close`, and only if
that returns the two flow windows. -/
def retire (tables : Tables) (streamId : ℕ) (stream : ClientStream)
    (closeInbound : InboundFlowWindow → InboundFlowWindow) : Retirement :=
  let stream := stream.clearClientStreamTimers
  let tables := { tables with streams := tables.streams.erase streamId }
  match tables.streamLifecycle.close streamId with
  | .error error => { tables, stream, settled := [], closeCalled := true, error := some error }
  | .ok streamLifecycle =>
    let (outboundFlow, settled) := tables.outboundFlow.closeStream streamId
    { tables := { tables with
        streamLifecycle, outboundFlow
        inboundFlow := closeInbound tables.inboundFlow }
      stream, settled, closeCalled := true, error := none }

def maybeDeleteStream (tables : Tables) (streamId : ℕ) (stream : ClientStream) : Retirement :=
  if stream.requestEnded && stream.responseEnded then
    retire tables streamId stream fun inboundFlow => inboundFlow.closeStream streamId
  else .unchanged tables stream

def cancelClientStream (tables : Tables) (streamId : ℕ) (stream : ClientStream)
    (retirement : RetirementKind) : Retirement :=
  if stream.cancelled then .unchanged tables stream
  else retire tables streamId { stream with cancelled := true } fun inboundFlow =>
    match retirement with
    | .localReset => inboundFlow.retireStream streamId
    | .remoteReset => inboundFlow.closeStream streamId

def MAX_PENDING_STREAM_OPERATIONS : ℕ := 1024

def MAX_PENDING_APPLICATION_OPERATIONS : ℕ := 4096

/-- `ApplicationOperationBudget`: the operations queued on all streams of the carrier. -/
structure ApplicationOperationBudget where
  limit : ℕ
  pending : ℕ
  deriving DecidableEq, Repr

def ApplicationOperationBudget.reserve (budget : ApplicationOperationBudget) :
    Except JsError ApplicationOperationBudget :=
  if budget.pending ≥ budget.limit then
    .error (.error "connection application operation limit exceeded")
  else .ok { budget with pending := budget.pending + 1 }

/-- The callback `reserve` returns; it runs once, when its operation settles. -/
def ApplicationOperationBudget.release (budget : ApplicationOperationBudget) :
    ApplicationOperationBudget := { budget with pending := budget.pending - 1 }

def enqueueInboundOperation (stream : ClientStream) (operation : Operation)
    (applicationOperations : ApplicationOperationBudget) :
    Except JsError (ClientStream × ApplicationOperationBudget) := do
  if stream.pendingInboundOperations ≥ MAX_PENDING_STREAM_OPERATIONS then
    throw (.error "too many pending operations for one stream")
  let applicationOperations ← applicationOperations.reserve
  return ({ stream with
    inboundQueue := stream.inboundQueue ++ [operation]
    pendingInboundOperations := stream.pendingInboundOperations + 1 }, applicationOperations)

end Lotur.Client
