import Lotur.Protocol.JavaScript
import Mathlib.Data.List.AList

/-! `OutboundFlowWindow` of `packages/relay/src/flow-window.ts`: the credit a sender holds on
its streams and on the connection, and the queue of `take` calls waiting for credit. -/
namespace Lotur

/-- A JavaScript `Map` keyed by stream id. -/
abbrev StreamMap (α : Type) := AList fun _ : ℕ => α

structure StreamCredit where
  available : ℕ
  outstanding : ℕ
  deriving DecidableEq, Repr

structure CreditWaiter where
  streamId : ℕ
  maximumBytes : ℕ
  deriving DecidableEq, Repr

/-- How the promise of one waiter settles. -/
inductive Settlement where
  | resolved (streamId bytes : ℕ)
  | rejected (streamId : ℕ) (error : JsError)
  deriving DecidableEq, Repr

structure OutboundFlowWindow where
  initialConnectionBytes : ℕ
  connectionAvailable : ℕ
  streams : StreamMap StreamCredit
  waiters : List CreditWaiter
  closed : Bool

namespace OutboundFlowWindow

def new (initialConnectionBytes : ℕ) : OutboundFlowWindow :=
  { initialConnectionBytes
    connectionAvailable := initialConnectionBytes
    streams := ∅
    waiters := []
    closed := false }

/-- What one pass of the waiter loop may grant to a waiter of a stream. -/
def grantable (window : OutboundFlowWindow) (waiter : CreditWaiter) (stream : StreamCredit) : ℕ :=
  min waiter.maximumBytes (min stream.available window.connectionAvailable)

/-- The credit moves of one grant. -/
def grant (window : OutboundFlowWindow) (streamId bytes : ℕ) (stream : StreamCredit) :
    OutboundFlowWindow :=
  { window with
    connectionAvailable := window.connectionAvailable - bytes
    streams := window.streams.insert streamId
      ⟨stream.available - bytes, stream.outstanding + bytes⟩ }

/-- The loop of `#drainWaiters` over the waiters still to be looked at. The window's own
list collects the waiters that stay. -/
def drainFrom (window : OutboundFlowWindow) :
    List CreditWaiter → OutboundFlowWindow × List Settlement
  | [] => (window, [])
  | waiter :: rest =>
    match window.streams.lookup waiter.streamId with
    | none =>
      let (after, settled) := window.drainFrom rest
      (after, .rejected waiter.streamId (.flowWindowError "stream window does not exist") :: settled)
    | some stream =>
      if window.grantable waiter stream = 0 then
        ({ window with waiters := window.waiters ++ [waiter] }).drainFrom rest
      else
        let (after, settled) :=
          (window.grant waiter.streamId (window.grantable waiter stream) stream).drainFrom rest
        (after, .resolved waiter.streamId (window.grantable waiter stream) :: settled)

def drainWaiters (window : OutboundFlowWindow) : OutboundFlowWindow × List Settlement :=
  ({ window with waiters := [] }).drainFrom window.waiters

def openStream (window : OutboundFlowWindow) (streamId initialStreamBytes : ℕ) :
    Except JsError (OutboundFlowWindow × List Settlement) :=
  if streamId = 0 then .error (.rangeError "streamId must be a positive integer")
  else if initialStreamBytes = 0 then
    .error (.rangeError "initialStreamBytes must be a positive integer")
  else if window.closed then .error (.flowWindowError "connection window is closed")
  else if streamId ∈ window.streams then .error (.flowWindowError "stream window already exists")
  else .ok ({ window with
    streams := window.streams.insert streamId ⟨initialStreamBytes, 0⟩ }).drainWaiters

/-- The call queues a waiter and looks at the whole queue at once. -/
def take (window : OutboundFlowWindow) (streamId maximumBytes : ℕ) :
    Except JsError (OutboundFlowWindow × List Settlement) :=
  if maximumBytes = 0 then .error (.rangeError "maximumBytes must be a positive integer")
  else if window.closed then .error (.flowWindowError "connection window is closed")
  else if streamId ∉ window.streams then .error (.flowWindowError "stream window does not exist")
  else .ok ({ window with
    waiters := window.waiters ++ [(⟨streamId, maximumBytes⟩ : CreditWaiter)] }).drainWaiters

def update (window : OutboundFlowWindow) (streamId bytes : ℕ) :
    Except JsError (OutboundFlowWindow × List Settlement) :=
  if bytes = 0 then .error (.rangeError "bytes must be a positive integer")
  else match window.streams.lookup streamId with
  | none => .error (.flowWindowError "stream window does not exist")
  | some stream =>
    if bytes > stream.outstanding then
      .error (.flowWindowError "WINDOW_UPDATE exceeds outstanding bytes")
    else if window.connectionAvailable + bytes > window.initialConnectionBytes then
      .error (.flowWindowError "connection window exceeds configured maximum")
    else .ok ({ window with
      connectionAvailable := window.connectionAvailable + bytes
      streams := window.streams.insert streamId
        ⟨stream.available + bytes, stream.outstanding - bytes⟩ }).drainWaiters

/-- The waiters of the stream are rejected from the last to the first; the bytes it has
outstanding return to the connection. -/
def closeStream (window : OutboundFlowWindow) (streamId : ℕ) :
    OutboundFlowWindow × List Settlement :=
  match window.streams.lookup streamId with
  | none => (window, [])
  | some stream =>
    let rejected := (window.waiters.filter fun waiter => waiter.streamId = streamId).reverse.map
      fun waiter => Settlement.rejected waiter.streamId
        (.flowWindowError "stream window does not exist")
    let (after, settled) := ({ window with
      streams := window.streams.erase streamId
      connectionAvailable := window.connectionAvailable + stream.outstanding
      waiters := window.waiters.filter fun waiter => waiter.streamId ≠ streamId }).drainWaiters
    (after, rejected ++ settled)

def close (window : OutboundFlowWindow) : OutboundFlowWindow × List Settlement :=
  ({ window with closed := true, streams := ∅, waiters := [] },
    window.waiters.map fun waiter => .rejected waiter.streamId
      (.flowWindowError "connection window is closed"))

end OutboundFlowWindow

end Lotur
