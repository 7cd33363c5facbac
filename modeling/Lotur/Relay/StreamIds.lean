import Lotur.Relay.InboundFlow

/-! The two ends of stream numbering: `GatewayStreamIds` hands out odd ids, and
`RemoteStreamLifecycle` checks on the client that they arrive in that order. -/
namespace Lotur

structure GatewayStreamIds where
  highestIssuedStreamId : ℕ
  deriving DecidableEq, Repr

namespace GatewayStreamIds

def new : GatewayStreamIds := { highestIssuedStreamId := 0 }

def next (ids : GatewayStreamIds) : ℕ :=
  if ids.highestIssuedStreamId = 0 then 1 else ids.highestIssuedStreamId + 2

def issue (ids : GatewayStreamIds) : Except JsError (ℕ × GatewayStreamIds) :=
  if ids.highestIssuedStreamId > 0xfffffffd then
    .error (.gatewayStreamIdError "gateway stream ID space is exhausted")
  else .ok (ids.next, { highestIssuedStreamId := ids.next })

def wasIssued (ids : GatewayStreamIds) (streamId : ℕ) : Bool :=
  0 < streamId && streamId ≤ ids.highestIssuedStreamId && streamId % 2 = 1

def reset (_ids : GatewayStreamIds) : GatewayStreamIds := { highestIssuedStreamId := 0 }

end GatewayStreamIds

structure RemoteStreamLifecycle where
  active : Finset ℕ
  highestOpenedStreamId : ℕ
  deriving DecidableEq

namespace RemoteStreamLifecycle

def new : RemoteStreamLifecycle := { active := ∅, highestOpenedStreamId := 0 }

def expectedStreamId (lifecycle : RemoteStreamLifecycle) : ℕ :=
  if lifecycle.highestOpenedStreamId = 0 then 1 else lifecycle.highestOpenedStreamId + 2

def openStream (lifecycle : RemoteStreamLifecycle) (streamId : ℕ) :
    Except JsError RemoteStreamLifecycle :=
  if streamId = 0 ∨ streamId > 0xffffffff then
    .error (.remoteStreamLifecycleError "remote stream ID must be a positive uint32")
  else if streamId % 2 = 0 then
    .error (.remoteStreamLifecycleError "gateway stream ID must be odd")
  else if streamId ≠ lifecycle.expectedStreamId then
    if streamId ≤ lifecycle.highestOpenedStreamId then
      .error (.remoteStreamLifecycleError
        s!"remote stream ID {streamId} was reused or reordered")
    else
      let expectedStreamId := lifecycle.expectedStreamId
      .error (.remoteStreamLifecycleError
        s!"remote stream ID {streamId} is out of sequence; expected {expectedStreamId}")
  else .ok { active := insert streamId lifecycle.active, highestOpenedStreamId := streamId }

def isRetired (lifecycle : RemoteStreamLifecycle) (streamId : ℕ) : Bool :=
  0 < streamId && streamId ≤ lifecycle.highestOpenedStreamId && streamId % 2 = 1 &&
    streamId ∉ lifecycle.active

def requireActive (lifecycle : RemoteStreamLifecycle) (streamId : ℕ) : Except JsError Unit :=
  if streamId ∈ lifecycle.active then .ok ()
  else if lifecycle.isRetired streamId then
    .error (.remoteStreamLifecycleError s!"retired remote stream ID {streamId}")
  else .error (.remoteStreamLifecycleError s!"unknown remote stream ID {streamId}")

def close (lifecycle : RemoteStreamLifecycle) (streamId : ℕ) :
    Except JsError RemoteStreamLifecycle := do
  lifecycle.requireActive streamId
  return { lifecycle with active := lifecycle.active.erase streamId }

theorem close_of_active {lifecycle : RemoteStreamLifecycle} {streamId : ℕ}
    (h : streamId ∈ lifecycle.active) :
    lifecycle.close streamId =
      .ok { lifecycle with active := lifecycle.active.erase streamId } := by
  simp only [close, requireActive, if_pos h]
  rfl

theorem close_of_not_active {lifecycle : RemoteStreamLifecycle} {streamId : ℕ}
    (h : streamId ∉ lifecycle.active) : ∃ error, lifecycle.close streamId = .error error := by
  simp only [close, requireActive, if_neg h]
  split_ifs
  · exact ⟨_, rfl⟩
  · exact ⟨_, rfl⟩

end RemoteStreamLifecycle

end Lotur
