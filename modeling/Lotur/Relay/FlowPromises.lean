import Lotur.Library.MapSums
import Lotur.Relay.FlowWindow

/-! `OutboundFlowWindow` call by call: with the promise of every `take`, and with the state a
throwing call leaves behind. Byte counts are integers, so that a credit could run below zero. -/
namespace Lotur

/-- A `take` call; `ticket` is its number among all `take` calls and tells its promise apart. -/
structure TakeCall where
  ticket : ℕ
  streamId : ℕ
  maximumBytes : ℤ
  deriving DecidableEq, Repr

inductive TakeOutcome where
  | granted (bytes : ℤ)
  | rejected (error : JsError)
  deriving DecidableEq, Repr

def TakeOutcome.isGranted : TakeOutcome → Bool
  | .granted _ => true
  | .rejected _ => false

def TakeOutcome.bytes : TakeOutcome → ℤ
  | .granted bytes => bytes
  | .rejected _ => 0

structure CreditAccount where
  available : ℤ
  outstanding : ℤ
  deriving DecidableEq, Repr

/-- The last three fields are the history: the size with which a stream was opened last, the
number of `take` calls, and how their promises were settled, in order. No call reads them. -/
structure FlowPromises where
  initialConnectionBytes : ℤ
  connectionAvailable : ℤ
  streams : StreamMap CreditAccount
  waiters : List TakeCall
  closed : Bool
  initialStreamBytes : ℕ → ℤ
  takeCalls : ℕ
  settled : List (TakeCall × TakeOutcome)

namespace FlowPromises

def new (initialConnectionBytes : ℤ) : FlowPromises where
  initialConnectionBytes := initialConnectionBytes
  connectionAvailable := initialConnectionBytes
  streams := ∅
  waiters := []
  closed := false
  initialStreamBytes := fun _ => 0
  takeCalls := 0
  settled := []

def settle (w : FlowPromises) (call : TakeCall) (outcome : TakeOutcome) : FlowPromises :=
  { w with settled := w.settled ++ [(call, outcome)] }

def noStream : JsError := .flowWindowError "stream window does not exist"
def noConnection : JsError := .flowWindowError "connection window is closed"

/-- What the loop grants to a waiter when it looks at it. -/
def grantable (w : FlowPromises) (call : TakeCall) (credit : CreditAccount) : ℤ :=
  min call.maximumBytes (min credit.available w.connectionAvailable)

def grant (w : FlowPromises) (call : TakeCall) (credit : CreditAccount) : FlowPromises :=
  { w with
    connectionAvailable := w.connectionAvailable - w.grantable call credit
    streams := w.streams.insert call.streamId
      ⟨credit.available - w.grantable call credit, credit.outstanding + w.grantable call credit⟩
    settled := w.settled ++ [(call, .granted (w.grantable call credit))] }

/-- The loop of `#drainWaiters` over the waiters it has not looked at yet; those it passed over
are the window's own. -/
def drainFrom (w : FlowPromises) : List TakeCall → FlowPromises
  | [] => w
  | call :: rest =>
    match w.streams.lookup call.streamId with
    | none => (w.settle call (.rejected noStream)).drainFrom rest
    | some credit =>
      if w.grantable call credit = 0 then
        ({ w with waiters := w.waiters ++ [call] }).drainFrom rest
      else (w.grant call credit).drainFrom rest

def drainWaiters (w : FlowPromises) : FlowPromises :=
  ({ w with waiters := [] }).drainFrom w.waiters

def openStream (w : FlowPromises) (streamId : ℕ) (initialStreamBytes : ℤ) :
    FlowPromises × Option JsError :=
  if streamId = 0 then (w, some (.rangeError "streamId must be a positive integer"))
  else if initialStreamBytes ≤ 0 then
    (w, some (.rangeError "initialStreamBytes must be a positive integer"))
  else if w.closed then (w, some noConnection)
  else if streamId ∈ w.streams then
    (w, some (.flowWindowError "stream window already exists"))
  else (({ w with
    streams := w.streams.insert streamId ⟨initialStreamBytes, 0⟩
    initialStreamBytes :=
      Function.update w.initialStreamBytes streamId initialStreamBytes }).drainWaiters, none)

/-- A `take` that throws rejects its promise at once. -/
def take (w : FlowPromises) (streamId : ℕ) (maximumBytes : ℤ) : FlowPromises × Option JsError :=
  let call : TakeCall := ⟨w.takeCalls, streamId, maximumBytes⟩
  let w := { w with takeCalls := w.takeCalls + 1 }
  let throws (error : JsError) := (w.settle call (.rejected error), some error)
  if maximumBytes ≤ 0 then throws (.rangeError "maximumBytes must be a positive integer")
  else if w.closed then throws noConnection
  else if streamId ∉ w.streams then throws noStream
  else (({ w with waiters := w.waiters ++ [call] }).drainWaiters, none)

def exceedsMaximum : JsError := .flowWindowError "connection window exceeds configured maximum"

/-- The connection's credit is checked after it was raised. -/
def update (w : FlowPromises) (streamId : ℕ) (bytes : ℤ) : FlowPromises × Option JsError :=
  if bytes ≤ 0 then (w, some (.rangeError "bytes must be a positive integer"))
  else match w.streams.lookup streamId with
  | none => (w, some noStream)
  | some credit =>
    if bytes > credit.outstanding then
      (w, some (.flowWindowError "WINDOW_UPDATE exceeds outstanding bytes"))
    else
      let w := { w with
        streams := w.streams.insert streamId ⟨credit.available + bytes, credit.outstanding - bytes⟩
        connectionAvailable := w.connectionAvailable + bytes }
      if w.connectionAvailable > w.initialConnectionBytes then (w, some exceedsMaximum)
      else (w.drainWaiters, none)

def rejectAll (calls : List TakeCall) (error : JsError) : List (TakeCall × TakeOutcome) :=
  calls.map fun call => (call, .rejected error)

/-- The waiters of the stream are rejected from the last to the first. -/
def closeStream (w : FlowPromises) (streamId : ℕ) : FlowPromises :=
  match w.streams.lookup streamId with
  | none => w
  | some credit => ({ w with
      streams := w.streams.erase streamId
      connectionAvailable := w.connectionAvailable + credit.outstanding
      waiters := w.waiters.filter fun call : TakeCall => call.streamId ≠ streamId
      settled := w.settled ++
        rejectAll (w.waiters.filter fun call : TakeCall => call.streamId = streamId).reverse noStream
      }).drainWaiters

def close (w : FlowPromises) : FlowPromises :=
  { w with
    closed := true
    streams := ∅
    waiters := []
    settled := w.settled ++ rejectAll w.waiters noConnection }

inductive Call where
  | openStream (streamId : ℕ) (initialStreamBytes : ℤ)
  | take (streamId : ℕ) (maximumBytes : ℤ)
  | update (streamId : ℕ) (bytes : ℤ)
  | closeStream (streamId : ℕ)
  | close

/-- What the call leaves, and the error it throws if it throws. -/
def call (w : FlowPromises) : Call → FlowPromises × Option JsError
  | .openStream streamId initialStreamBytes => w.openStream streamId initialStreamBytes
  | .take streamId maximumBytes => w.take streamId maximumBytes
  | .update streamId bytes => w.update streamId bytes
  | .closeStream streamId => (w.closeStream streamId, none)
  | .close => (w.close, none)

def run (w : FlowPromises) (calls : List Call) : FlowPromises :=
  calls.foldl (fun w next => (w.call next).1) w

/-- How the promise of a `take` call was settled: at most one outcome. -/
def outcomes (w : FlowPromises) (ticket : ℕ) : List TakeOutcome :=
  (w.settled.filter fun entry => entry.1.ticket = ticket).map Prod.snd

/-- The `take` calls of a stream that were granted credit, in the order of the grants. -/
def grantedTo (w : FlowPromises) (streamId : ℕ) : List ℕ :=
  (w.settled.filter fun entry => entry.1.streamId = streamId && entry.2.isGranted).map
    fun entry => entry.1.ticket

end FlowPromises

end Lotur
