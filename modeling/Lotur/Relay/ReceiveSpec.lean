import Lotur.Library.MapSums
import Lotur.Relay.InboundFlow

/-! What a receive window is for: how much a peer may send on each stream and on the carrier, and
the calls of `GatewayInboundFlow` and of `InboundFlowWindow` with the state a throwing call leaves
behind. -/
namespace Lotur

inductive ReceiveCall where
  | openStream (streamId bytes : ℕ)
  | consume (streamId bytes : ℕ)
  | release (streamId bytes : ℕ)
  | closeStream (streamId : ℕ)
  | retireStream (streamId : ℕ)
  | consumeRetiredData (streamId bytes : ℕ)
  deriving DecidableEq, Repr

/-- `frames` has the sizes of the DATA that was consumed and is not released. -/
structure ReceivedStream where
  limit : ℕ
  frames : List ℕ
  deriving DecidableEq, Repr

structure ReceiveSpec where
  connectionLimit : ℕ
  streams : StreamMap ReceivedStream
  retiredData : RetiredDataBudget

namespace ReceiveSpec

def new (connectionLimit maximumFrames : ℕ) : ReceiveSpec where
  connectionLimit := connectionLimit
  streams := ∅
  retiredData := .new connectionLimit maximumFrames

def heldBytes (spec : ReceiveSpec) : ℤ :=
  AList.total (fun stream : ReceivedStream => (stream.frames.sum : ℤ)) spec.streams

def heldFrames (spec : ReceiveSpec) : ℤ :=
  AList.total (fun stream : ReceivedStream => (stream.frames.length : ℤ)) spec.streams

/-- The DATA of the stream is given back to the connection. -/
def close (spec : ReceiveSpec) (streamId : ℕ) : ReceiveSpec :=
  { spec with streams := spec.streams.erase streamId }

/-- What the peer may still send goes to the budget for late DATA. -/
def retire (spec : ReceiveSpec) (streamId : ℕ) (stream : ReceivedStream) : ReceiveSpec :=
  { spec.close streamId with
    retiredData := spec.retiredData.allow streamId
      (min (stream.limit - stream.frames.sum) (spec.connectionLimit - spec.heldBytes).toNat) }

/-- A call that is not accepted has no next state. -/
def call (spec : ReceiveSpec) : ReceiveCall → Option ReceiveSpec
  | .openStream i bytes =>
    if 0 < i ∧ 0 < bytes ∧ i ∉ spec.streams then
      some { spec with streams := spec.streams.insert i ⟨bytes, []⟩ }
    else none
  | .consume i bytes =>
    if bytes = 0 then none
    else (spec.streams.lookup i).bind fun stream =>
      if stream.frames.sum + bytes ≤ stream.limit ∧
          spec.heldBytes + bytes ≤ spec.connectionLimit then
        some { spec with
          streams := spec.streams.insert i ⟨stream.limit, stream.frames ++ [bytes]⟩ }
      else none
  | .release i bytes =>
    if bytes = 0 then none
    else (spec.streams.lookup i).bind fun stream =>
      if bytes ∈ stream.frames then
        some { spec with
          streams := spec.streams.insert i ⟨stream.limit, stream.frames.erase bytes⟩ }
      else none
  | .closeStream i =>
    some (match spec.streams.lookup i with
    | none => spec
    | some _ => spec.close i)
  | .retireStream i =>
    some (match spec.streams.lookup i with
    | none => spec
    | some stream => spec.retire i stream)
  | .consumeRetiredData i bytes =>
    match spec.retiredData.consume i bytes with
    | .ok retiredData => some { spec with retiredData }
    | .error _ => none

/-- No stream holds more than its limit. -/
def Within (spec : ReceiveSpec) : Prop :=
  ∀ i stream, spec.streams.lookup i = some stream → stream.frames.sum ≤ stream.limit

end ReceiveSpec

/-- A call whose checks come before its first write changes nothing when it throws. -/
def attempted {α : Type*} (before : α) : Except JsError α → α × Option JsError
  | .ok after => (after, none)
  | .error error => (before, some error)

namespace GatewayInboundFlow

/-- `release` writes before its last check. -/
def releaseCall (flow : GatewayInboundFlow) (streamId bytes : ℕ) :
    GatewayInboundFlow × Option JsError :=
  if bytes = 0 then (flow, some (.rangeError "bytes must be a positive integer"))
  else match flow.streams.lookup streamId with
  | none => (flow, some (.gatewayInboundFlowError "stream credit does not exist"))
  | some stream =>
    if bytes > stream.outstanding then
      (flow, some (.gatewayInboundFlowError "release exceeds consumed stream bytes"))
    else
      let released := { flow with
        connectionAvailable := flow.connectionAvailable + bytes
        streams := flow.streams.insert streamId
          ⟨stream.initial, stream.available + bytes, stream.outstanding - bytes⟩ }
      (released,
        if stream.available + bytes > stream.initial ∨
            released.connectionAvailable > flow.initialConnectionBytes then
          some (.gatewayInboundFlowError "receive credit exceeds configured maximum")
        else none)

/-- So does `closeStream`. -/
def closeCall (flow : GatewayInboundFlow) (streamId : ℕ) : GatewayInboundFlow × Option JsError :=
  match flow.streams.lookup streamId with
  | none => (flow, none)
  | some stream =>
    let closed := { flow with
      connectionAvailable := flow.connectionAvailable + stream.outstanding
      streams := flow.streams.erase streamId }
    (closed,
      if closed.connectionAvailable > flow.initialConnectionBytes then
        some (.gatewayInboundFlowError
          "connection receive credit exceeds configured maximum")
      else none)

def retireCall (flow : GatewayInboundFlow) (streamId : ℕ) : GatewayInboundFlow × Option JsError :=
  match flow.streams.lookup streamId with
  | none => (flow, none)
  | some stream =>
    ({ flow with
      retiredData := flow.retiredData.allow streamId
        (min stream.available flow.connectionAvailable) }).closeCall streamId

def call (flow : GatewayInboundFlow) : ReceiveCall → GatewayInboundFlow × Option JsError
  | .openStream i bytes => attempted flow (flow.openStream i bytes)
  | .consume i bytes => attempted flow (flow.consume i bytes)
  | .release i bytes => flow.releaseCall i bytes
  | .closeStream i => flow.closeCall i
  | .retireStream i => flow.retireCall i
  | .consumeRetiredData i bytes => attempted flow (flow.consumeRetiredData i bytes)

/-- The two errors that report a broken invariant. -/
def exceedsMaximum : List JsError :=
  [.gatewayInboundFlowError "receive credit exceeds configured maximum",
    .gatewayInboundFlowError "connection receive credit exceeds configured maximum"]

theorem releaseCall_eq (flow : GatewayInboundFlow) (i bytes : ℕ) :
    (flow.release i bytes = match flow.releaseCall i bytes with
      | (released, none) => .ok released
      | (_, some error) => .error error) := by
  unfold release releaseCall
  cases flow.streams.lookup i with
  | none =>
    dsimp only
    split_ifs
    · rfl
    · rfl
  | some stream =>
    dsimp only
    split_ifs
    · rfl
    · rfl
    · rfl
    · rfl

theorem closeCall_eq (flow : GatewayInboundFlow) (i : ℕ) :
    (flow.closeStream i = match flow.closeCall i with
      | (closed, none) => .ok closed
      | (_, some error) => .error error) := by
  unfold closeStream closeCall
  cases flow.streams.lookup i with
  | none => rfl
  | some stream =>
    dsimp only
    split_ifs
    · rfl
    · rfl

theorem retireCall_eq (flow : GatewayInboundFlow) (i : ℕ) :
    (flow.retireStream i = match flow.retireCall i with
      | (retired, none) => .ok retired
      | (_, some error) => .error error) := by
  unfold retireStream retireCall
  cases flow.streams.lookup i with
  | none => rfl
  | some stream => exact closeCall_eq _ i

end GatewayInboundFlow

namespace InboundFlowWindow

def call (window : InboundFlowWindow) : ReceiveCall → InboundFlowWindow × Option JsError
  | .openStream i bytes => attempted window (window.openStream i bytes)
  | .consume i bytes => attempted window (window.consume i bytes)
  | .release i bytes => attempted window (window.release i bytes)
  | .closeStream i => (window.closeStream i, none)
  | .retireStream i => (window.retireStream i, none)
  | .consumeRetiredData i bytes => attempted window (window.consumeRetiredData i bytes)

end InboundFlowWindow

end Lotur
