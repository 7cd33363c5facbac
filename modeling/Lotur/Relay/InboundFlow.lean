import Lotur.Relay.FlowWindow

/-! The receive side of flow control: `RetiredDataBudget` of the relay package,
`GatewayInboundFlow` of the gateway and `InboundFlowWindow` of the client. -/
namespace Lotur

/-- The allowances are kept in insertion order, the oldest first. -/
structure RetiredDataBudget where
  maximumBytes : ℕ
  maximumTrackedStreams : ℕ
  remainingBytes : ℕ
  streamBytes : List (ℕ × ℕ)
  remainingFrames : ℕ
  deriving DecidableEq

namespace RetiredDataBudget

def new (maximumBytes maximumFrames : ℕ) : RetiredDataBudget :=
  { maximumBytes
    maximumTrackedStreams := maximumFrames
    remainingBytes := maximumBytes
    streamBytes := []
    remainingFrames := maximumFrames }

def allow (budget : RetiredDataBudget) (streamId bytes : ℕ) : RetiredDataBudget :=
  if bytes = 0 ∨ budget.remainingFrames = 0 ∨ budget.remainingBytes = 0 ∨
      (budget.streamBytes.lookup streamId).isSome then budget
  else
    let tracked := if budget.streamBytes.length ≥ budget.maximumTrackedStreams then
      budget.streamBytes.tail else budget.streamBytes
    { budget with streamBytes := tracked ++ [(streamId, min bytes budget.maximumBytes)] }

/-- A stream that still has allowance after a frame moves to the young end of the order. -/
def consume (budget : RetiredDataBudget) (streamId bytes : ℕ) :
    Except JsError RetiredDataBudget :=
  let availableBytes := (budget.streamBytes.lookup streamId).getD 0
  if streamId = 0 then .error (.rangeError "streamId must be a positive safe integer")
  else if bytes = 0 then .error (.rangeError "retired DATA bytes must be a positive safe integer")
  else if budget.remainingFrames = 0 then
    .error (.retiredDataBudgetError "retired DATA frame budget is exhausted")
  else if bytes > availableBytes ∨ bytes > budget.remainingBytes then
    .error (.retiredDataBudgetError "retired DATA byte budget is exhausted")
  else
    let others := budget.streamBytes.filter fun entry => entry.1 ≠ streamId
    let spent := { budget with
      remainingFrames := budget.remainingFrames - 1
      remainingBytes := budget.remainingBytes - bytes }
    if spent.remainingFrames = 0 ∨ spent.remainingBytes = 0 then
      .ok { spent with streamBytes := [] }
    else if availableBytes - bytes > 0 then
      .ok { spent with streamBytes := others ++ [(streamId, availableBytes - bytes)] }
    else .ok { spent with streamBytes := others }

end RetiredDataBudget

namespace GatewayInboundFlow

structure StreamCredit where
  initial : ℕ
  available : ℕ
  outstanding : ℕ
  deriving DecidableEq, Repr

end GatewayInboundFlow

structure GatewayInboundFlow where
  initialConnectionBytes : ℕ
  connectionAvailable : ℕ
  streams : StreamMap GatewayInboundFlow.StreamCredit
  retiredData : RetiredDataBudget

namespace GatewayInboundFlow

def new (initialConnectionBytes maximumFrames : ℕ) : GatewayInboundFlow :=
  { initialConnectionBytes
    connectionAvailable := initialConnectionBytes
    streams := ∅
    retiredData := .new initialConnectionBytes maximumFrames }

def openStream (flow : GatewayInboundFlow) (streamId initialStreamBytes : ℕ) :
    Except JsError GatewayInboundFlow :=
  if streamId = 0 then .error (.rangeError "streamId must be a positive integer")
  else if initialStreamBytes = 0 then
    .error (.rangeError "initialStreamBytes must be a positive integer")
  else if streamId ∈ flow.streams then
    .error (.gatewayInboundFlowError "stream credit already exists")
  else .ok { flow with
    streams := flow.streams.insert streamId ⟨initialStreamBytes, initialStreamBytes, 0⟩ }

def consume (flow : GatewayInboundFlow) (streamId bytes : ℕ) :
    Except JsError GatewayInboundFlow :=
  if bytes = 0 then .error (.rangeError "bytes must be a positive integer")
  else match flow.streams.lookup streamId with
  | none => .error (.gatewayInboundFlowError "stream credit does not exist")
  | some stream =>
    if bytes > stream.available then
      .error (.gatewayInboundFlowError "DATA exceeds stream receive credit")
    else if bytes > flow.connectionAvailable then
      .error (.gatewayInboundFlowError "DATA exceeds connection receive credit")
    else .ok { flow with
      connectionAvailable := flow.connectionAvailable - bytes
      streams := flow.streams.insert streamId
        ⟨stream.initial, stream.available - bytes, stream.outstanding + bytes⟩ }

def release (flow : GatewayInboundFlow) (streamId bytes : ℕ) :
    Except JsError GatewayInboundFlow :=
  if bytes = 0 then .error (.rangeError "bytes must be a positive integer")
  else match flow.streams.lookup streamId with
  | none => .error (.gatewayInboundFlowError "stream credit does not exist")
  | some stream =>
    if bytes > stream.outstanding then
      .error (.gatewayInboundFlowError "release exceeds consumed stream bytes")
    else if stream.available + bytes > stream.initial ∨
        flow.connectionAvailable + bytes > flow.initialConnectionBytes then
      .error (.gatewayInboundFlowError "receive credit exceeds configured maximum")
    else .ok { flow with
      connectionAvailable := flow.connectionAvailable + bytes
      streams := flow.streams.insert streamId
        ⟨stream.initial, stream.available + bytes, stream.outstanding - bytes⟩ }

def closeStream (flow : GatewayInboundFlow) (streamId : ℕ) :
    Except JsError GatewayInboundFlow :=
  match flow.streams.lookup streamId with
  | none => .ok flow
  | some stream =>
    if flow.connectionAvailable + stream.outstanding > flow.initialConnectionBytes then
      .error (.gatewayInboundFlowError
        "connection receive credit exceeds configured maximum")
    else .ok { flow with
      connectionAvailable := flow.connectionAvailable + stream.outstanding
      streams := flow.streams.erase streamId }

def retireStream (flow : GatewayInboundFlow) (streamId : ℕ) :
    Except JsError GatewayInboundFlow :=
  match flow.streams.lookup streamId with
  | none => .ok flow
  | some stream =>
    ({ flow with
      retiredData := flow.retiredData.allow streamId
        (min stream.available flow.connectionAvailable) }).closeStream streamId

def consumeRetiredData (flow : GatewayInboundFlow) (streamId bytes : ℕ) :
    Except JsError GatewayInboundFlow := do
  return { flow with retiredData := ← flow.retiredData.consume streamId bytes }

end GatewayInboundFlow

structure InboundStreamWindow where
  limit : ℕ
  consumedBytes : ℕ
  pendingFrames : ℕ
  deriving DecidableEq, Repr

structure InboundFlowWindow where
  connectionLimit : ℕ
  maxPendingFrames : ℕ
  streams : StreamMap InboundStreamWindow
  retiredData : RetiredDataBudget
  connectionConsumedBytes : ℕ
  pendingFrames : ℕ

namespace InboundFlowWindow

def new (connectionLimit maxPendingFrames : ℕ) : InboundFlowWindow :=
  { connectionLimit
    maxPendingFrames
    streams := ∅
    retiredData := .new connectionLimit maxPendingFrames
    connectionConsumedBytes := 0
    pendingFrames := 0 }

def openStream (window : InboundFlowWindow) (streamId streamLimit : ℕ) :
    Except JsError InboundFlowWindow :=
  if streamId = 0 ∨ streamId > 0xffffffff then
    .error (.rangeError "streamId must be a positive uint32")
  else if streamLimit = 0 then
    .error (.rangeError "streamLimit must be a positive safe integer")
  else if streamId ∈ window.streams then
    .error (.inboundFlowError s!"stream {streamId} already has an inbound window")
  else .ok { window with streams := window.streams.insert streamId ⟨streamLimit, 0, 0⟩ }

def consume (window : InboundFlowWindow) (streamId bytes : ℕ) :
    Except JsError InboundFlowWindow :=
  if bytes = 0 then .error (.rangeError "DATA bytes must be a positive safe integer")
  else match window.streams.lookup streamId with
  | none => .error (.inboundFlowError s!"stream {streamId} has no inbound window")
  | some stream =>
    if stream.consumedBytes + bytes > stream.limit then
      .error (.inboundFlowError s!"stream {streamId} exceeded inbound flow credit")
    else if window.connectionConsumedBytes + bytes > window.connectionLimit then
      .error (.inboundFlowError "connection exceeded inbound flow credit")
    else if window.pendingFrames ≥ window.maxPendingFrames then
      .error (.inboundFlowError "too many pending inbound DATA frames")
    else .ok { window with
      streams := window.streams.insert streamId
        ⟨stream.limit, stream.consumedBytes + bytes, stream.pendingFrames + 1⟩
      connectionConsumedBytes := window.connectionConsumedBytes + bytes
      pendingFrames := window.pendingFrames + 1 }

def release (window : InboundFlowWindow) (streamId bytes : ℕ) :
    Except JsError InboundFlowWindow :=
  if bytes = 0 then .error (.rangeError "released DATA bytes must be a positive safe integer")
  else match window.streams.lookup streamId with
  | none => .error (.inboundFlowError s!"stream {streamId} has no inbound window")
  | some stream =>
    if stream.consumedBytes < bytes ∨ stream.pendingFrames = 0 then
      .error (.inboundFlowError s!"stream {streamId} released unconsumed credit")
    else .ok { window with
      streams := window.streams.insert streamId
        ⟨stream.limit, stream.consumedBytes - bytes, stream.pendingFrames - 1⟩
      connectionConsumedBytes := window.connectionConsumedBytes - bytes
      pendingFrames := window.pendingFrames - 1 }

def closeStream (window : InboundFlowWindow) (streamId : ℕ) : InboundFlowWindow :=
  match window.streams.lookup streamId with
  | none => window
  | some stream => { window with
    connectionConsumedBytes := window.connectionConsumedBytes - stream.consumedBytes
    pendingFrames := window.pendingFrames - stream.pendingFrames
    streams := window.streams.erase streamId }

def retireStream (window : InboundFlowWindow) (streamId : ℕ) : InboundFlowWindow :=
  match window.streams.lookup streamId with
  | none => window
  | some stream =>
    ({ window with
      retiredData := window.retiredData.allow streamId
        (min (stream.limit - stream.consumedBytes)
          (window.connectionLimit - window.connectionConsumedBytes)) }).closeStream streamId

def consumeRetiredData (window : InboundFlowWindow) (streamId bytes : ℕ) :
    Except JsError InboundFlowWindow := do
  return { window with retiredData := ← window.retiredData.consume streamId bytes }

end InboundFlowWindow

end Lotur
