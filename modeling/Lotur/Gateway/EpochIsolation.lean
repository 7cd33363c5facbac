import Lotur.Gateway.TransportEpochs

/-! Continuations that outlive their transport: what a stream, a probe, a heartbeat, a timer, a
queued frame or the cleanup of a socket does once its session has moved to another transport. -/
namespace Lotur.Gateway

open State

/-- The transport that a handler captured before its await. -/
def Await.captured : Await → Option (ℕ × GatewayTransportEpoch)
  | .configuring key transport _ => some (key, transport)
  | .probeOpening key transport _ => some (key, transport)
  | .probeSending key transport _ => some (key, transport)
  | .probeCrediting key transport _ _ _ => some (key, transport)
  | _ => none

namespace Server

/-- The step belongs to a session on one of its transports. -/
inductive Delayed (s : Server) (key : ℕ) (transport : GatewayTransportEpoch) : Label → Prop
  | stream {object now : ℕ} {point : StreamPoint} (hkey : (s.objects object).key = key)
      (htransport : (s.objects object).transport = transport) :
      Delayed s key transport (.stream object now point)
  | handler {socket bytes : ℕ} {succeeded : Bool} {point : Await}
      (hrunning : (s.gateway.carriers socket).running = some (point, bytes))
      (hpoint : point.captured = some (key, transport)) :
      Delayed s key transport (.sendSettles socket succeeded)
  | heartbeat : Delayed s key transport (.heartbeatFails key transport)
  | activation : Delayed s key transport (.activationTimeout key transport)
  | revocation : Delayed s key transport (.developerRevoked key transport)
  | frame {socket now byteLength : ℕ} {ready : Bool} {nonce : List UInt8} {body : FrameBody}
      {frame : Frame} {rest : List Message} (hsocket : transport.socket = socket)
      (hsession : (s.gateway.carriers socket).session = some key)
      (hqueue : (s.gateway.carriers socket).receiveQueue =
        ⟨byteLength, some ⟨transport.generation, frame⟩⟩ :: rest)
      (hgeneration : (s.gateway.heap key).generation ≠ transport.generation) :
      Delayed s key transport (.run socket now ready nonce body)
  | cleanup {socket now : ℕ} (hsocket : transport.socket = socket)
      (hsession : (s.gateway.carriers socket).session = some key)
      (hmoved : (s.gateway.heap key).socket ≠ socket) :
      Delayed s key transport (.cleanup socket now)

/-- Nothing changes for any session, except the windows of one transport. -/
structure Isolated (key : ℕ) (transport : GatewayTransportEpoch) (s s' : Server) : Prop where
  streams : s'.streams = s.streams
  sessions : s'.gateway.sessions = s.gateway.sessions
  lifecycle : ∀ other, (s'.gateway.heap other).lifecycle = (s.gateway.heap other).lifecycle
  capture : ∀ other, s'.gateway.captureGatewayTransport other =
    s.gateway.captureGatewayTransport other
  flows : ∀ other epoch, (other, epoch) ≠ (key, transport) →
    s'.transportFlows other epoch = s.transportFlows other epoch

section Isolation

variable {config : ServerConfig} {s s' : Server} {key object now : ℕ}
  {transport : GatewayTransportEpoch}

theorem Isolated.refl (s : Server) : Isolated key transport s s :=
  ⟨rfl, rfl, fun _ => rfl, fun _ => rfl, fun _ _ _ => rfl⟩

theorem setStream_isolated (s : Server) (object : ℕ) (stream : GatewayStream) :
    Isolated key transport s (s.setStream object stream) :=
  ⟨rfl, rfl, fun _ => rfl, fun _ => rfl, fun _ _ _ => rfl⟩

/-- The windows of a replaced transport are not those of the session. -/
theorem setTransportFlows_isolated {flows : Flows}
    (hstale : s.gateway.captureGatewayTransport key ≠ transport) :
    Isolated key transport s (s.setTransportFlows key transport flows) := by
  unfold setTransportFlows
  rw [if_neg hstale]
  refine ⟨rfl, rfl, fun _ => rfl, fun _ => rfl, ?_⟩
  intro other epoch hother
  unfold transportFlows
  dsimp only
  split_ifs
  · rfl
  · by_cases hkey : other = key
    · have hepoch : epoch ≠ transport := by
        rintro rfl
        exact hother (by rw [hkey])
      rw [hkey, Function.update_self, Function.update_of_ne hepoch]
    · rw [Function.update_of_ne hkey]

theorem takeCredit_isolated (maximumBytes : ℕ)
    (hstale : s.gateway.captureGatewayTransport (s.objects object).key ≠
      (s.objects object).transport) :
    Isolated (s.objects object).key (s.objects object).transport s
      (s.takeCredit object maximumBytes) := by
  unfold takeCredit
  dsimp only
  split
  · exact .refl s
  · exact setTransportFlows_isolated hstale

/-- A step of the carriers that touches no session. -/
theorem adopt_isolated {gateway : State} (hheap : gateway.heap = s.gateway.heap)
    (hsessions : gateway.sessions = s.gateway.sessions) :
    Isolated key transport s (s.adopt gateway) := by
  have hkept (key : ℕ) (hkey : s.gateway.isRegistered key = true) :
      gateway.isRegistered key = true := by
    simpa [isRegistered, hsessions, hheap] using hkey
  obtain ⟨hgateway, hstreams, -⟩ := adopt_kept hkept
  have hflows : (s.adopt gateway).flows = s.flows := by
    have hnone : (List.range gateway.sessionCount).find? (fun key =>
        s.gateway.isRegistered key && !gateway.isRegistered key) = none := by
      rw [List.find?_eq_none]
      intro key _ hkey
      simp only [Bool.and_eq_true, Bool.not_eq_true'] at hkey
      rw [hkept key hkey.1] at hkey
      cases hkey.2
    unfold adopt
    dsimp only
    rw [hnone]
    funext other epoch
    simp only [captureGatewayTransport, hheap]
    split_ifs with hboth
    · exact absurd hboth.1 hboth.2
    · rfl
  refine ⟨hstreams, by rw [hgateway, hsessions], fun other => by rw [hgateway, hheap], ?_, ?_⟩
  · intro other
    simp only [hgateway, captureGatewayTransport, hheap]
  · intro other epoch _
    have hcapture : gateway.captureGatewayTransport other =
        s.gateway.captureGatewayTransport other := by
      simp only [captureGatewayTransport, hheap]
    unfold transportFlows
    rw [hgateway, hflows, hcapture, hheap]

theorem isCurrentGatewayStream_stale
    (hstale : s.gateway.captureGatewayTransport (s.objects object).key ≠
      (s.objects object).transport) : s.isCurrentGatewayStream object = false := by
  simp [isCurrentGatewayStream, hstale]

/-- Every continuation of a stream makes its own check of what is current. -/
theorem runStream_isolated (h : Placed s) (point : StreamPoint)
    (hstale : s.gateway.captureGatewayTransport (s.objects object).key ≠
      (s.objects object).transport) :
    Isolated (s.objects object).key (s.objects object).transport s
      (s.runStream config object now point) := by
  have hstream := isCurrentGatewayStream_stale hstale
  have hsession : s.isCurrentGatewaySessionStream object = false := by
    simp [isCurrentGatewaySessionStream, hstream]
  have hrequest : s.isCurrentRequest object = false := by
    unfold isCurrentRequest
    split
    · exact hsession
    · exact hstream
  have hpopped : Isolated (s.objects object).key (s.objects object).transport s
      (s.popOperation object) := setStream_isolated s object _
  have hpoppedStale : (s.popOperation object).isCurrentGatewayStream object = false := by
    simp [isCurrentGatewayStream, popOperation, setStream, hstale]
  unfold runStream
  cases point with
  | openFails => simp [hsession, Isolated.refl]
  | requestChunk bytes => simp [requestChunk, hrequest, Isolated.refl]
  | credit bytes => exact takeCredit_isolated bytes hstale
  | requestEnd => simp [hrequest, Isolated.refl]
  | endSent => simp [hrequest, Isolated.refl]
  | requestFails => simp [hrequest, Isolated.refl]
  | expires => simp [hsession, Isolated.refl]
  | downstreamCloses => simp [hsession, Isolated.refl]
  | drained =>
    dsimp only
    split
    · simp [hstream, hpopped]
    · exact .refl s
  | credited =>
    dsimp only
    split
    · simp [creditSent, hpoppedStale, hpopped]
    · exact .refl s
  | endQueued =>
    dsimp only
    split
    · simp [hstream, hpopped]
    · exact .refl s
  | downstreamFails => simp [failBufferedDownstream, hpoppedStale, hpopped]
  | headFails => simp [hstream, Isolated.refl]
  | authorizationExpires =>
    dsimp only
    split_ifs with hopen
    · -- The timer does not look at the transport; the map does it for it.
      exact absurd (h.streams _ _ _ hopen.2.2.1).2.2.2.symm hstale
    · exact .refl s
  | authorizationRevoked => simp [hsession, Isolated.refl]

theorem resumeHandler_isolated {socket bytes : ℕ} {point : Await}
    (hpoint : point.captured = some (key, transport))
    (hstale : s.gateway.captureGatewayTransport key ≠ transport) :
    Bookkeeping s.gateway (resumeHandler s.gateway socket bytes point) := by
  have hcurrent : s.gateway.isCurrentGatewaySessionTransport key transport = false := by
    simp [isCurrentGatewaySessionTransport, hstale]
  have hfinish := finish_bookkeeping s.gateway socket bytes
  cases point with
  | configuring other captured configuration =>
    exact (record_bookkeeping s.gateway _).trans (finish_bookkeeping _ socket bytes)
  | probeOpening other captured probe =>
    cases hpoint
    simpa [resumeHandler, hcurrent] using hfinish
  | probeSending other captured probe =>
    cases hpoint
    simpa [resumeHandler, hcurrent] using hfinish
  | probeCrediting other captured probeId streamId credit =>
    cases hpoint
    simpa [resumeHandler, hcurrent] using hfinish
  | rejecting => cases hpoint
  | provisioning other => cases hpoint
  | ponging => cases hpoint
  | probeEnding => cases hpoint
  | activating => cases hpoint
  | application => cases hpoint

theorem sendSettles_isolated {socket bytes : ℕ} {succeeded : Bool} {point : Await}
    (hrunning : (s.gateway.carriers socket).running = some (point, bytes))
    (hpoint : point.captured = some (key, transport))
    (hstale : s.gateway.captureGatewayTransport key ≠ transport)
    (h : s.sendSettles config socket succeeded = some s') : Isolated key transport s s' := by
  have hannounced : s.announced socket = none := by
    unfold announced
    rw [hrunning]
    cases point with
    | activating => cases hpoint
    | _ => rfl
  unfold sendSettles at h
  split at h
  · cases h
  · rename_i gateway hstep
    rw [hannounced] at h
    have hbook : Bookkeeping s.gateway gateway := by
      obtain ⟨other, size, hother, hsettled⟩ := step_sendSettles hstep
      rw [hrunning] at hother
      cases hother
      rcases hsettled with rfl | rfl
      · exact resumeHandler_isolated hpoint hstale
      · exact fail_bookkeeping s.gateway socket bytes
    cases h
    exact adopt_isolated hbook.heap hbook.sessions

theorem cleanup_isolated {socket : ℕ} (hsession : (s.gateway.carriers socket).session = some key)
    (hmoved : (s.gateway.heap key).socket ≠ socket) :
    Isolated key transport s (s.cleanup config socket now) := by
  have hcleaned : Gateway.cleanup config.ctx s.gateway socket now = s.gateway.setCarrier socket
      { s.gateway.carriers socket with cleanedUp := true, isOpen := false } := by
    unfold Gateway.cleanup
    dsimp only
    rw [hsession]
    exact if_pos (Or.inr hmoved)
  have hcarries : ¬ Carries s.gateway socket key := fun hcarries => hmoved hcarries.2.2
  unfold Server.cleanup
  dsimp only
  rw [hsession, hcleaned]
  dsimp only
  rw [if_neg hcarries]
  exact adopt_isolated rfl rfl

/-- A frame of another generation stops the queue of its own socket. -/
theorem run_isolated {socket byteLength : ℕ} {ready : Bool} {nonce : List UInt8} {body : FrameBody}
    {frame : Frame} {rest : List Message}
    (hsession : (s.gateway.carriers socket).session = some key)
    (hqueue : (s.gateway.carriers socket).receiveQueue =
      ⟨byteLength, some ⟨transport.generation, frame⟩⟩ :: rest)
    (hgeneration : (s.gateway.heap key).generation ≠ transport.generation)
    (h : s.run config socket now ready nonce body = some s') : Isolated key transport s s' := by
  have hgreeting : s.greeting config socket = none := by
    unfold greeting
    dsimp only
    rw [hqueue]
    split
    · simp [hsession]
    · rfl
  have hgreeted : s.greeted config socket now = s := by
    unfold greeted
    rw [hgreeting]
  unfold run at h
  dsimp only at h
  rw [hgreeted] at h
  split at h
  · cases h
  · rename_i gateway hstep
    obtain ⟨message, others, -, hhead, hgateway⟩ := step_run hstep
    rw [hqueue] at hhead
    cases hhead
    have hstopped : gateway = (s.gateway.dequeue socket rest).finish socket byteLength ∨
        gateway = (s.gateway.dequeue socket rest).fail socket byteLength := by
      rw [hgateway]
      unfold runHandler
      dsimp only
      split
      · exact Or.inl rfl
      · have hheld : ((s.gateway.dequeue socket rest).carriers socket).session = some key := by
          simp [dequeue, hsession]
        rw [hheld]
        dsimp only
        unfold handleFrame
        exact Or.inr (if_pos hgeneration.symm)
    have hbook : Bookkeeping s.gateway gateway := by
      refine (dequeue_bookkeeping s.gateway socket rest).trans ?_
      rcases hstopped with rfl | rfl
      · exact finish_bookkeeping _ socket byteLength
      · exact fail_bookkeeping _ socket byteLength
    have hrunning : (gateway.carriers socket).running = none := by
      rcases hstopped with rfl | rfl
      · simp [State.finish]
      · simp [State.fail, State.finish]
    have happlication :
        application (s.gateway.carriers socket) (gateway.carriers socket) = none := by
      unfold application
      rw [hrunning]
      split
      · rename_i hnone
        cases hnone
      · rfl
    rw [happlication] at h
    cases h
    exact adopt_isolated hbook.heap hbook.sessions

end Isolation

/-- In every run, a step that belongs to a transport which its session has left neither adds nor
removes a stream, moves no session in its life cycle and leaves the windows of every other
transport as they are, also where the session has a stream with the same id by then. -/
theorem run_epochs_isolated (config : ServerConfig) (initialKillSwitch : Bool) (startedAt : ℕ)
    {schedule : List Label} {s s' : Server} {label : Label} {key : ℕ}
    {transport : GatewayTransportEpoch}
    (hrun : Execution.run (step config) (start initialKillSwitch startedAt) schedule = some s)
    (hdelayed : Delayed s key transport label)
    (hleft : s.gateway.captureGatewayTransport key ≠ transport)
    (hstep : step config s label = some s') : Isolated key transport s s' := by
  have hplaced := (run_later (start_kept initialKillSwitch startedAt)
    (start_placed initialKillSwitch startedAt) hrun).2.placed
  cases hdelayed with
  | stream hkey htransport =>
    simp only [step] at hstep
    split at hstep
    · cases hstep
      rw [← hkey, ← htransport]
      apply runStream_isolated hplaced
      rwa [hkey, htransport]
    · cases hstep
  | handler hrunning hpoint => exact sendSettles_isolated hrunning hpoint hleft hstep
  | heartbeat =>
    cases hstep
    simp [whenCurrent, isCurrentGatewaySessionTransport, hleft, Isolated.refl]
  | activation =>
    simp only [step, if_pos (Or.inr hleft)] at hstep
    cases hstep
    exact .refl s
  | revocation =>
    cases hstep
    simp [whenCurrent, isCurrentGatewaySessionTransport, hleft, Isolated.refl]
  | frame _ hsession hqueue hgeneration => exact run_isolated hsession hqueue hgeneration hstep
  | cleanup _ hsession hmoved =>
    simp only [step] at hstep
    split at hstep
    · cases hstep
    · cases hstep
      exact cleanup_isolated hsession hmoved

/-- The first stream expires late, when its id belongs to the second one. -/
theorem run_epochs_isolated_reopened :
    ∃ s s', Execution.run (step openServer) (start false 0) reopened = some s ∧
      step openServer s (.stream 0 3 .expires) = some s' ∧
      (s.objects 0).streamId = (s.objects 1).streamId ∧
      (s'.streams 0).lookup 3 = some 1 := by
  have hobserved : (Execution.run (step openServer) (start false 0) reopened).bind (fun s =>
      (step openServer s (.stream 0 3 .expires)).map fun _ =>
        (((s.objects 0).key, (s.objects 0).transport, s.gateway.captureGatewayTransport 0),
          (s.objects 0).streamId, (s.objects 1).streamId,
          decide ((s.streams 0).lookup 3 = some 1))) =
            some ((0, ⟨0, 1⟩, ⟨1, 2⟩), 3, 3, true) := by
    decide +kernel
  obtain ⟨s, hrun, hobserved⟩ := Option.bind_eq_some_iff.mp hobserved
  obtain ⟨s', hstep, hobserved⟩ := Option.map_eq_some_iff.mp hobserved
  simp only [Prod.mk.injEq, decide_eq_true_eq] at hobserved
  obtain ⟨⟨hkey, htransport, hcurrent⟩, hid, hid', hopen⟩ := hobserved
  refine ⟨s, s', hrun, hstep, hid.trans hid'.symm, ?_⟩
  have hisolated := run_epochs_isolated openServer false 0 hrun (.stream hkey htransport)
    (by rw [hcurrent]; decide) hstep
  rw [hisolated.streams]
  exact hopen

end Server

end Lotur.Gateway
