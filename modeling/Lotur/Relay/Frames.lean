import Lotur.Relay.StreamIds

/-! The frames of application streams as the two ends of a carrier exchange them. A payload
that matters only by its size is its number of bytes; metadata is what the decoder of the frame
returns or throws. -/
namespace Lotur

inductive StreamKind where
  | http
  | websocket
  deriving DecidableEq, Repr

/-- What the client reads of OPEN_HTTP metadata; `requestable` tells whether Node's `request`
accepts the method, the path and the projected headers. -/
structure OpenHttpMetadata where
  kind : StreamKind
  requestBodyEnded : Bool
  initialWindowBytes : ℕ
  requestable : Bool
  deriving DecidableEq, Repr

/-- What the gateway reads of RESPONSE_HEADERS metadata: the declared length is the result of
`contentLengthFromPairs`, and `eventStream` that of the content type test. -/
structure ResponseHeaders where
  statusCode : ℕ
  declaredResponseBytes : Option ℕ
  eventStream : Bool
  deriving DecidableEq, Repr

inductive FrameBody where
  | openHttp (metadata : Except JsError OpenHttpMetadata)
  | responseHeaders (metadata : Except JsError ResponseHeaders)
  | data (bytes : ℕ)
  | endStream
  | windowUpdate (bytes : Except JsError ℕ)
  | resetStream (code : Except JsError String)
  | other (type : ℕ)

/-- The number that `FrameType` gives the frame. -/
def FrameBody.type : FrameBody → ℕ
  | .openHttp _ => 10
  | .responseHeaders _ => 11
  | .data _ => 12
  | .endStream => 13
  | .windowUpdate _ => 14
  | .resetStream _ => 15
  | .other type => type

structure StreamFrame where
  streamId : ℕ
  body : FrameBody

/-- The frames with which an endpoint answers what it received. -/
def StreamFrame.IsAnswer (frame : StreamFrame) : Prop :=
  (∃ bytes, frame.body = .windowUpdate (.ok bytes)) ∨ ∃ code, frame.body = .resetStream (.ok code)

/-- What one DATA or END frame queues on a stream of its receiver. -/
inductive Operation where
  | data (bytes : ℕ)
  | endStream
  deriving DecidableEq, Repr

/-- An error that fails the carrier. `rejectedData` marks the errors that the receive window's
`consume` threw. -/
structure Fault where
  error : JsError
  rejectedData : Bool
  deriving DecidableEq, Repr

def Fault.thrown (error : JsError) : Fault := ⟨error, false⟩

/-- The credit of the `take` calls that settled with bytes, in order. -/
def resolved (settled : List Settlement) : List (ℕ × ℕ) :=
  settled.filterMap fun settlement =>
    match settlement with
    | .resolved streamId bytes => some (streamId, bytes)
    | .rejected _ _ => none

/-- Whether a `take` of the stream still waits for credit. -/
def OutboundFlowWindow.isWaiting (window : OutboundFlowWindow) (streamId : ℕ) : Bool :=
  window.waiters.any fun waiter => waiter.streamId = streamId

end Lotur
