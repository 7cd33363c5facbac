import Lotur.Client.Endpoint
import Lotur.Gateway.Endpoint
import Lotur.Library.Execution

/-! Two honest endpoints on one transport after activation. The outbox of each side is the FIFO
channel to the other; a side that failed handles nothing more. -/
namespace Lotur.Tunnel

/-- The session configuration, as far as both sides read it. -/
structure Limits where
  maxConcurrentStreams : ℕ
  maxRequestBodyBytes : ℕ
  maxFiniteResponseBytes : ℕ
  deriving DecidableEq, Repr

def Limits.gateway (limits : Limits) : Gateway.Limits where
  maxConcurrentStreams := limits.maxConcurrentStreams
  maxFiniteResponseBytes := limits.maxFiniteResponseBytes

def Limits.client (limits : Limits) : Client.Limits where
  maxConcurrentStreams := limits.maxConcurrentStreams
  initialStreamWindowBytes := INITIAL_STREAM_WINDOW_BYTES
  maxRequestBodyBytes := limits.maxRequestBodyBytes

structure State where
  gateway : Gateway.Endpoint
  client : Client.Endpoint
  gatewayFailure : Option Fault
  clientFailure : Option Fault

namespace State

def absorbGateway (s : State) : Except Fault Gateway.Endpoint → State
  | .error fault => { s with gatewayFailure := some fault }
  | .ok gateway => { s with gateway }

def absorbClient (s : State) : Except Fault Client.Endpoint → State
  | .error fault => { s with clientFailure := some fault }
  | .ok client => { s with client }

end State

inductive Label where
  | gateway (event : Gateway.Endpoint.Event)
  | client (event : Client.Endpoint.Event)
  | toGateway
  | toClient

def step (limits : Limits) (s : State) : Label → Option State
  | .gateway event =>
    if s.gatewayFailure.isSome then none
    else (s.gateway.step limits.gateway event).map s.absorbGateway
  | .client event =>
    if s.clientFailure.isSome then none else (s.client.step event).map s.absorbClient
  | .toGateway =>
    if s.gatewayFailure.isSome then none
    else match s.client.outbox with
    | [] => none
    | frame :: outbox =>
      let s := { s with client := { s.client with outbox } }
      some (s.absorbGateway (s.gateway.handleClientFrame limits.gateway frame))
  | .toClient =>
    if s.clientFailure.isSome then none
    else match s.gateway.outbox with
    | [] => none
    | frame :: outbox =>
      let s := { s with gateway := { s.gateway with outbox } }
      some (s.absorbClient (s.client.handleGatewayFrame limits.client frame))

/-- The state after activation: the probe had stream 1, and its credit has come back. -/
def start : State where
  gateway :=
    { streamIds := { highestIssuedStreamId := 1 }
      streams := ∅
      stream := fun _ => .absent
      outboundFlow := .new INITIAL_CONNECTION_WINDOW_BYTES
      inboundFlow := .new INITIAL_CONNECTION_WINDOW_BYTES 4096
      grants := []
      crediting := ∅
      endSends := ∅
      outbox := [] }
  client :=
    { tables :=
        { streams := ∅
          streamLifecycle := { active := ∅, highestOpenedStreamId := 1 }
          outboundFlow := .new INITIAL_CONNECTION_WINDOW_BYTES
          inboundFlow := .new INITIAL_CONNECTION_WINDOW_BYTES 4096 }
      stream := fun _ => .absent
      applicationOperations :=
        { limit := Client.MAX_PENDING_APPLICATION_OPERATIONS, pending := 0 }
      grants := []
      crediting := ∅
      endSends := ∅
      outbox := [] }
  gatewayFailure := none
  clientFailure := none

variable {limits : Limits} {s s' : State}

theorem step_gateway {event : Gateway.Endpoint.Event}
    (h : step limits s (.gateway event) = some s') :
    s.gatewayFailure = none ∧
      ((∃ gateway, s.gateway.step limits.gateway event = some (.ok gateway) ∧
          s' = { s with gateway }) ∨
        ∃ fault, s.gateway.step limits.gateway event = some (.error fault) ∧
          s' = { s with gatewayFailure := some fault }) := by
  simp only [step] at h
  split at h
  · cases h
  · rename_i halive
    refine ⟨by simpa using halive, ?_⟩
    obtain ⟨outcome, houtcome, habsorbed⟩ := Option.map_eq_some_iff.mp h
    cases outcome with
    | error fault => exact Or.inr ⟨fault, houtcome, habsorbed.symm⟩
    | ok gateway => exact Or.inl ⟨gateway, houtcome, habsorbed.symm⟩

theorem step_client {event : Client.Endpoint.Event}
    (h : step limits s (.client event) = some s') :
    s.clientFailure = none ∧
      ((∃ client, s.client.step event = some (.ok client) ∧ s' = { s with client }) ∨
        ∃ fault, s.client.step event = some (.error fault) ∧
          s' = { s with clientFailure := some fault }) := by
  simp only [step] at h
  split at h
  · cases h
  · rename_i halive
    refine ⟨by simpa using halive, ?_⟩
    obtain ⟨outcome, houtcome, habsorbed⟩ := Option.map_eq_some_iff.mp h
    cases outcome with
    | error fault => exact Or.inr ⟨fault, houtcome, habsorbed.symm⟩
    | ok client => exact Or.inl ⟨client, houtcome, habsorbed.symm⟩

theorem step_toGateway (h : step limits s .toGateway = some s') :
    s.gatewayFailure = none ∧ ∃ frame outbox, s.client.outbox = frame :: outbox ∧
      ((∃ gateway, s.gateway.handleClientFrame limits.gateway frame = .ok gateway ∧
          s' = { s with gateway, client := { s.client with outbox } }) ∨
        ∃ fault, s.gateway.handleClientFrame limits.gateway frame = .error fault ∧
          s' = { s with
            client := { s.client with outbox }
            gatewayFailure := some fault }) := by
  simp only [step] at h
  split at h
  · cases h
  · rename_i halive
    refine ⟨by simpa using halive, ?_⟩
    split at h
    · cases h
    · rename_i frame outbox houtbox
      refine ⟨frame, outbox, houtbox, ?_⟩
      cases houtcome : s.gateway.handleClientFrame limits.gateway frame with
      | error fault =>
        rw [houtcome] at h
        exact Or.inr ⟨fault, rfl, (Option.some.inj h).symm⟩
      | ok gateway =>
        rw [houtcome] at h
        exact Or.inl ⟨gateway, rfl, (Option.some.inj h).symm⟩

theorem step_toClient (h : step limits s .toClient = some s') :
    s.clientFailure = none ∧ ∃ frame outbox, s.gateway.outbox = frame :: outbox ∧
      ((∃ client, s.client.handleGatewayFrame limits.client frame = .ok client ∧
          s' = { s with client, gateway := { s.gateway with outbox } }) ∨
        ∃ fault, s.client.handleGatewayFrame limits.client frame = .error fault ∧
          s' = { s with
            gateway := { s.gateway with outbox }
            clientFailure := some fault }) := by
  simp only [step] at h
  split at h
  · cases h
  · rename_i halive
    refine ⟨by simpa using halive, ?_⟩
    split at h
    · cases h
    · rename_i frame outbox houtbox
      refine ⟨frame, outbox, houtbox, ?_⟩
      cases houtcome : s.client.handleGatewayFrame limits.client frame with
      | error fault =>
        rw [houtcome] at h
        exact Or.inr ⟨fault, rfl, (Option.some.inj h).symm⟩
      | ok client =>
        rw [houtcome] at h
        exact Or.inl ⟨client, rfl, (Option.some.inj h).symm⟩

end Lotur.Tunnel
