import Lotur.Gateway.ServerRuns
import Lotur.Gateway.Transports

/-! Transport epochs over whole runs of the gateway: a transport that a session has left does not
come back, and every open stream belongs to the transport that its session has now. -/
namespace Lotur.Gateway

open State

namespace Server

/-- No stream enters a map and no session changes its transport. -/
structure Recedes (s s' : Server) : Prop where
  gateway : Stays s.gateway s'.gateway
  upgrades : s'.upgrades = s.upgrades
  objectCount : s'.objectCount = s.objectCount
  key : ∀ object, (s'.objects object).key = (s.objects object).key
  streamId : ∀ object, (s'.objects object).streamId = (s.objects object).streamId
  transport : ∀ object, (s'.objects object).transport = (s.objects object).transport
  lookup : ∀ key streamId object, (s'.streams key).lookup streamId = some object →
    (s.streams key).lookup streamId = some object

section Functions

variable {config : ServerConfig} {s s' s'' : Server} {key object now bytes : ℕ}

theorem Recedes.refl (s : Server) : Recedes s s :=
  ⟨.refl _, rfl, rfl, fun _ => rfl, fun _ => rfl, fun _ => rfl, fun _ _ _ => id⟩

theorem Recedes.trans (h : Recedes s s') (h' : Recedes s' s'') : Recedes s s'' where
  gateway := h.gateway.trans h'.gateway
  upgrades := h'.upgrades.trans h.upgrades
  objectCount := h'.objectCount.trans h.objectCount
  key object := (h'.key object).trans (h.key object)
  streamId object := (h'.streamId object).trans (h.streamId object)
  transport object := (h'.transport object).trans (h.transport object)
  lookup key streamId object hlookup :=
    h.lookup key streamId object (h'.lookup key streamId object hlookup)

theorem setGateway_recedes {gateway : State} (h : Stays s.gateway gateway) :
    Recedes s { s with gateway } :=
  ⟨h, rfl, rfl, fun _ => rfl, fun _ => rfl, fun _ => rfl, fun _ _ _ => id⟩

/-- Admission, requests, rates, replaced windows and timers belong to no transport. -/
theorem recedes_of_same (hgateway : s'.gateway = s.gateway) (hupgrades : s'.upgrades = s.upgrades)
    (hcount : s'.objectCount = s.objectCount) (hobjects : s'.objects = s.objects)
    (hstreams : s'.streams = s.streams) : Recedes s s' := by
  refine ⟨?_, hupgrades, hcount, ?_, ?_, ?_, ?_⟩
  · rw [hgateway]
    exact .refl _
  · simp [hobjects]
  · simp [hobjects]
  · simp [hobjects]
  · simp [hstreams]

theorem setObject_recedes {held : StreamObject} (hkey : held.key = (s.objects object).key)
    (hstream : held.streamId = (s.objects object).streamId)
    (htransport : held.transport = (s.objects object).transport) :
    Recedes s { s with objects := Function.update s.objects object held } := by
  refine ⟨.refl _, rfl, rfl, ?_, ?_, ?_, fun _ _ _ => id⟩
  · intro other
    by_cases hother : other = object
    · simp [hother, hkey]
    · simp [hother]
  · intro other
    by_cases hother : other = object
    · simp [hother, hstream]
    · simp [hother]
  · intro other
    by_cases hother : other = object
    · simp [hother, htransport]
    · simp [hother]

theorem setStream_recedes (s : Server) (object : ℕ) (stream : GatewayStream) :
    Recedes s (s.setStream object stream) :=
  setObject_recedes rfl rfl rfl

theorem cancel_recedes (s : Server) (object : ℕ) : Recedes s (s.cancel object) :=
  setStream_recedes s object _

theorem popOperation_recedes (s : Server) (object : ℕ) : Recedes s (s.popOperation object) :=
  setStream_recedes s object _

theorem setTransportFlows_recedes {transport : GatewayTransportEpoch} {flows : Flows} :
    Recedes s (s.setTransportFlows key transport flows) := by
  unfold setTransportFlows
  split_ifs
  · exact setGateway_recedes (setSession_stays ⟨rfl, rfl, rfl, rfl, rfl⟩)
  · exact recedes_of_same rfl rfl rfl rfl rfl

theorem closeOutbound_recedes (s : Server) (object : ℕ) : Recedes s (s.closeOutbound object) :=
  setTransportFlows_recedes

theorem closeEntry_recedes (s : Server) (object : ℕ) : Recedes s (s.closeEntry object) :=
  (cancel_recedes s object).trans setTransportFlows_recedes

theorem clearStreams_recedes (s : Server) (key : ℕ) :
    Recedes s { s with streams := Function.update s.streams key ∅ } := by
  refine ⟨.refl _, rfl, rfl, fun _ => rfl, fun _ => rfl, fun _ => rfl, ?_⟩
  intro other streamId object hlookup
  by_cases hother : other = key
  · simp [hother] at hlookup
  · simpa [hother] using hlookup

theorem closeGatewayStreams_recedes (s : Server) (key : ℕ) :
    Recedes s (s.closeGatewayStreams key) := by
  have hclosed (objects : List ℕ) : ∀ s : Server, Recedes s (objects.foldl closeEntry s) := by
    induction objects with
    | nil => exact fun s => .refl s
    | cons object objects ih => exact fun s => (closeEntry_recedes s object).trans (ih _)
  exact (hclosed _ s).trans (clearStreams_recedes _ key)

theorem setTimers_recedes (s : Server) (expiryTimers : ℕ → Option GatewayTransportEpoch) :
    Recedes s { s with expiryTimers } :=
  recedes_of_same rfl rfl rfl rfl rfl

/-- Beyond the step of the carriers itself, streams are only closed. -/
theorem adopt_recedes (s : Server) (gateway : State) :
    Recedes { s with gateway } (s.adopt gateway) := by
  have hflows (flows : ℕ → GatewayTransportEpoch → Flows) :
      Recedes { s with gateway } { s with gateway, flows } :=
    recedes_of_same rfl rfl rfl rfl rfl
  unfold adopt
  dsimp only
  split
  · exact hflows _
  · rename_i key _
    refine Recedes.trans ?_ (setTimers_recedes _ (Function.update s.expiryTimers key none))
    refine Recedes.trans ?_ (closeGatewayStreams_recedes _ key)
    exact hflows _

theorem adopt_stays_recedes {gateway : State} (h : Stays s.gateway gateway) :
    Recedes s (s.adopt gateway) :=
  (setGateway_recedes h).trans (adopt_recedes s gateway)

theorem disposeGatewaySession_recedes (s : Server) (key : ℕ) :
    Recedes s (s.disposeGatewaySession key) :=
  adopt_stays_recedes (disposeGatewaySession_stays _ key)

theorem applySessionTransition_recedes (s : Server) (key : ℕ) (next : SessionState) :
    Recedes s (s.applySessionTransition key next) :=
  adopt_stays_recedes (applySessionTransition_stays _ key next)

theorem streamClosed_recedes (s : Server) (policy : SessionPolicy) (key now : ℕ) :
    Recedes s (s.streamClosed policy key now).1 := by
  unfold streamClosed
  split
  · split
    · exact .refl s
    · exact applySessionTransition_recedes s key _
  · exact .refl s

theorem deleteStream_recedes (s : Server) (key streamId : ℕ) :
    Recedes s (s.deleteStream key streamId) := by
  refine ⟨.refl _, rfl, rfl, fun _ => rfl, fun _ => rfl, fun _ => rfl, ?_⟩
  intro other id object hlookup
  unfold deleteStream at hlookup
  by_cases hother : other = key
  · rw [hother] at hlookup ⊢
    dsimp only at hlookup
    rw [Function.update_self] at hlookup
    by_cases hid : id = streamId
    · rw [hid, AList.lookup_erase] at hlookup
      cases hlookup
    · rwa [AList.lookup_erase_ne hid] at hlookup
  · simpa [hother] using hlookup

theorem removeGatewayStream_recedes (object now : ℕ) (policy : SessionPolicy)
    (retirement : Endpoint.RetirementKind) :
    Recedes s (s.removeGatewayStream policy object retirement now).1 := by
  have hdeleted := deleteStream_recedes s (s.objects object).key (s.objects object).streamId
  unfold removeGatewayStream
  dsimp only
  split_ifs
  · exact .refl s
  · split
    · exact hdeleted
    · exact (hdeleted.trans setTransportFlows_recedes).trans (streamClosed_recedes _ policy _ now)

theorem resetStream_recedes (s : Server) (object now : ℕ) :
    Recedes s (s.resetStream config object now) := by
  have hremoved := (cancel_recedes s object).trans (removeGatewayStream_recedes object now
    config.ctx.sessionPolicy .localReset)
  unfold resetStream
  split
  · rename_i after hafter
    rw [hafter] at hremoved
    exact hremoved
  · rename_i after _ _ hafter
    rw [hafter] at hremoved
    exact hremoved.trans (closeOutbound_recedes after object)

/-- The shape of most continuations. -/
theorem resetStream_unless_recedes {stale : Prop} [Decidable stale] :
    Recedes s (if stale then s else s.resetStream config object now) := by
  split
  · exact .refl s
  · exact resetStream_recedes s object now

theorem finishStream_recedes (s : Server) (object now : ℕ) :
    Recedes s (s.finishStream config object now) := by
  have hremoved := @removeGatewayStream_recedes s object now config.ctx.sessionPolicy .normal
  unfold finishStream
  split
  · rename_i after hafter
    rw [hafter] at hremoved
    exact hremoved.trans (closeOutbound_recedes after object)
  · rename_i after _ _ hafter
    rw [hafter] at hremoved
    exact hremoved

theorem maybeDeleteStream_recedes (s : Server) (object now : ℕ) :
    Recedes s (s.maybeDeleteStream config object now) := by
  unfold maybeDeleteStream
  split_ifs
  · exact finishStream_recedes s object now
  · exact .refl s

theorem takeCredit_recedes (s : Server) (object maximumBytes : ℕ) :
    Recedes s (s.takeCredit object maximumBytes) := by
  unfold takeCredit
  dsimp only
  split
  · exact .refl s
  · exact setTransportFlows_recedes

theorem openFlows_recedes (s : Server) (object : ℕ) : Recedes s (s.openFlows object) := by
  unfold openFlows
  dsimp only
  split
  · exact .refl s
  · split
    · exact setTransportFlows_recedes
    · exact setTransportFlows_recedes

theorem acceptHttpHeaders_recedes {headers : ResponseHeaders} :
    Recedes s (s.acceptHttpHeaders config object now headers) := by
  unfold acceptHttpHeaders
  dsimp only
  split
  · exact (setStream_recedes s object _).trans (resetStream_recedes _ object now)
  · exact setStream_recedes s object _

theorem acceptUpgradeHeaders_recedes {headers : ResponseHeaders} :
    Recedes s (s.acceptUpgradeHeaders object headers) := by
  unfold acceptUpgradeHeaders
  dsimp only
  split
  · exact (setStream_recedes s object _).trans (takeCredit_recedes _ object _)
  · exact setStream_recedes s object _

theorem acceptData_recedes (h : s.acceptData config object bytes now = some s') :
    Recedes s s' := by
  unfold acceptData at h
  dsimp only at h
  split at h
  · cases h
  · split at h
    · cases h
    · generalize (if (s.objects object).stream.kind = .http then
        (s.objects object).stream.responseBytes + bytes else _) = responseBytes at h
      split at h
      · cases h
        exact (setTransportFlows_recedes.trans (setStream_recedes _ object _)).trans
          (resetStream_recedes _ object now)
      · cases h
        exact setTransportFlows_recedes.trans (setStream_recedes _ object _)

theorem acceptFrame_recedes {body : FrameBody}
    (h : s.acceptFrame config object now body = some s') : Recedes s s' := by
  unfold acceptFrame at h
  dsimp only at h
  split at h
  · split at h
    · cases h
    · cases h
      exact setTransportFlows_recedes
  · split at h
    · cases h
    · split at h
      · cases h
        exact acceptHttpHeaders_recedes
      · cases h
        exact acceptUpgradeHeaders_recedes
  · exact acceptData_recedes h
  · split at h
    · cases h
    · cases h
      exact setStream_recedes s object _
  · have hremoved := (cancel_recedes s object).trans (removeGatewayStream_recedes object now
      config.ctx.sessionPolicy .normal)
    split at h
    · cases h
    · rename_i after _ _ hafter
      rw [hafter] at hremoved
      cases h
      exact hremoved.trans (closeOutbound_recedes after object)
  · cases h

theorem handleClientFrame_recedes {frame : StreamFrame}
    (h : s.handleClientFrame config key now frame = some s') : Recedes s s' := by
  unfold handleClientFrame at h
  dsimp only at h
  split at h
  · split at h
    · split at h
      · cases h
      · cases h
        exact setGateway_recedes (setSession_stays ⟨rfl, rfl, rfl, rfl, rfl⟩)
    · cases h
  · split at h
    · cases h
    · exact acceptFrame_recedes h

theorem requestChunk_recedes : Recedes s (s.requestChunk config object bytes now) := by
  have hcounted : Recedes s { s with
      objects := Function.update s.objects object { s.objects object with
        requestBytes := (s.objects object).requestBytes + bytes } } :=
    setObject_recedes rfl rfl rfl
  unfold requestChunk
  dsimp only
  split_ifs
  · exact .refl s
  · exact takeCredit_recedes s object bytes
  · exact hcounted.trans (resetStream_recedes _ object now)
  · exact hcounted.trans (takeCredit_recedes _ object bytes)

theorem failBufferedDownstream_recedes (s : Server) (object now : ℕ) :
    Recedes s (s.failBufferedDownstream config object now) :=
  resetStream_unless_recedes

theorem creditSent_recedes (s : Server) (object bytes now : ℕ) :
    Recedes s (s.creditSent config object bytes now) := by
  unfold creditSent
  dsimp only
  split
  · exact .refl s
  · split
    · exact failBufferedDownstream_recedes s object now
    · exact setTransportFlows_recedes.trans (setStream_recedes _ object _)

/-- A continuation of a stream never opens one. -/
theorem runStream_recedes (s : Server) (object now : ℕ) (point : StreamPoint) :
    Recedes s (s.runStream config object now point) := by
  cases point with
  | openFails => exact resetStream_unless_recedes
  | requestChunk bytes => exact requestChunk_recedes
  | credit bytes => exact takeCredit_recedes s object bytes
  | requestEnd =>
    unfold runStream
    dsimp only
    split_ifs
    · exact .refl s
    · exact setStream_recedes s object _
  | endSent =>
    unfold runStream
    dsimp only
    split_ifs
    · exact .refl s
    · exact maybeDeleteStream_recedes s object now
  | requestFails => exact resetStream_unless_recedes
  | expires => exact resetStream_unless_recedes
  | downstreamCloses => exact resetStream_unless_recedes
  | drained =>
    unfold runStream
    dsimp only
    split
    · split_ifs
      · exact popOperation_recedes s object
      · exact .refl s
    · exact .refl s
  | credited =>
    unfold runStream
    dsimp only
    split
    · exact (popOperation_recedes s object).trans (creditSent_recedes _ object _ now)
    · exact .refl s
  | endQueued =>
    have hpopped := popOperation_recedes s object
    unfold runStream
    dsimp only
    split
    · split_ifs
      · exact hpopped
      · exact (hpopped.trans (setStream_recedes _ object _)).trans
          (maybeDeleteStream_recedes _ object now)
    · exact .refl s
  | downstreamFails =>
    exact (popOperation_recedes s object).trans (failBufferedDownstream_recedes _ object now)
  | headFails => exact resetStream_unless_recedes
  | authorizationExpires =>
    unfold runStream
    dsimp only
    split_ifs
    · exact resetStream_recedes s object now
    · exact .refl s
  | authorizationRevoked => exact resetStream_unless_recedes

end Functions

section Steps

variable {config : ServerConfig} {s s' : Server} {key socket now : ℕ}

theorem closeSocket_recedes (s : Server) (socket : ℕ) : Recedes s (s.closeSocket socket) :=
  setGateway_recedes (closeSocket_stays _ socket)

theorem sendSettles_recedes {succeeded : Bool}
    (h : s.sendSettles config socket succeeded = some s') :
    Recedes s s' := by
  unfold sendSettles at h
  split at h
  · cases h
  · rename_i gateway hstep
    have hadopted := adopt_stays_recedes (step_sendSettles_stays hstep)
    split at h
    · cases h
      exact hadopted.trans (setTimers_recedes _ _)
    · cases h
      exact hadopted

theorem cleanup_recedes (s : Server) (socket now : ℕ) :
    Recedes s (s.cleanup config socket now) := by
  have hadopted := adopt_stays_recedes (@cleanup_stays config.ctx s.gateway socket now)
  unfold cleanup
  dsimp only
  split
  · exact hadopted
  · rename_i key _
    split
    · have hclosed := hadopted.trans (closeGatewayStreams_recedes _ key)
      split
      · exact hclosed.trans (setTimers_recedes _ _)
      · exact hclosed
    · exact hadopted

theorem sessionTick_recedes (s : Server) (key now : ℕ) (developerAuthorizationExpired : Bool) :
    Recedes s (s.sessionTick config key now developerAuthorizationExpired) := by
  have happlied (next : SessionState) : Recedes s (s.applySessionTransition key next) :=
    applySessionTransition_recedes s key next
  unfold sessionTick
  dsimp only
  split
  · split
    · exact .refl s
    · exact happlied _
    · split_ifs
      · exact (happlied _).trans (disposeGatewaySession_recedes _ key)
      · exact .refl s
  · split
    · exact .refl s
    · exact happlied _
    · split_ifs
      · exact (happlied _).trans (disposeGatewaySession_recedes _ key)
      · exact .refl s
  · exact .refl s

theorem expiryTimer_recedes (s : Server) (key now : ℕ) :
    Recedes s (s.expiryTimer config key now) := by
  have hfired := setTimers_recedes s (Function.update s.expiryTimers key none)
  unfold expiryTimer
  dsimp only
  split
  · split
    · exact hfired
    · exact hfired.trans (applySessionTransition_recedes _ key _)
  · exact hfired

theorem disposeAll_recedes (s : Server) : Recedes s s.disposeAll := by
  have hfold (keys : List ℕ) : ∀ s : Server, Recedes s (keys.foldl disposeGatewaySession s) := by
    induction keys with
    | nil => exact fun s => .refl s
    | cons key keys ih => exact fun s => (disposeGatewaySession_recedes s key).trans (ih _)
  exact hfold s.registeredKeys s

theorem updateKillSwitch_recedes (s : Server) (enabled : Bool) :
    Recedes s (s.updateKillSwitch enabled) := by
  have hchanged : Recedes s { s with killSwitchEnabled := enabled } :=
    recedes_of_same rfl rfl rfl rfl rfl
  unfold updateKillSwitch
  dsimp only
  split_ifs
  · exact .refl s
  · exact hchanged
  · exact hchanged.trans (disposeAll_recedes _)

theorem whenCurrent_recedes {transport : GatewayTransportEpoch} {next : Server → Server}
    (h : Recedes s (next s)) : Recedes s (s.whenCurrent key transport next) := by
  unfold whenCurrent
  split_ifs
  · exact h
  · exact .refl s

theorem releasePendingCarrier_recedes (s : Server) (socket : ℕ) :
    Recedes s (s.releasePendingCarrier socket) := by
  unfold releasePendingCarrier
  split
  · exact recedes_of_same rfl rfl rfl rfl rfl
  · exact recedes_of_same rfl rfl rfl rfl rfl
  · exact .refl s

theorem greeted_recedes (s : Server) (socket now : ℕ) :
    Recedes s (s.greeted config socket now) := by
  have hreleased := releasePendingCarrier_recedes s socket
  unfold greeted
  split
  · exact .refl s
  · dsimp only
    split_ifs
    · exact hreleased.trans (recedes_of_same rfl rfl rfl rfl rfl)
    · exact hreleased

end Steps

/-- Every session is on a socket that has greeted, only connected sockets have, and an open stream
is filed under its own id, with the session and on the transport that it was opened for. -/
structure Placed (s : Server) : Prop where
  attached : ∀ key < s.gateway.sessionCount,
    (s.gateway.carriers (s.gateway.heap key).socket).session ≠ none
  unconnected : ∀ socket, s.isConnected socket = false →
    (s.gateway.carriers socket).session = none ∧ (s.gateway.carriers socket).receiveQueue = []
  streams : ∀ key streamId object, (s.streams key).lookup streamId = some object →
    object < s.objectCount ∧ (s.objects object).key = key ∧
      (s.objects object).streamId = streamId ∧
      (s.objects object).transport = s.gateway.captureGatewayTransport key
  live : ∀ key, s.gateway.isRegistered key = true → (s.gateway.heap key).terminal = false

theorem start_placed (initialKillSwitch : Bool) (now : ℕ) :
    Placed (start initialKillSwitch now) where
  attached key hkey := absurd hkey (Nat.not_lt_zero key)
  unconnected socket _ := ⟨rfl, rfl⟩
  streams key streamId object hlookup := by simp [start] at hlookup
  live key hregistered := by simp [start, Gateway.start, isRegistered] at hregistered

section Placed

variable {config : ServerConfig} {s s' s'' : Server} {key socket now : ℕ}

theorem isConnected_congr (h : s'.upgrades = s.upgrades) (socket : ℕ) :
    s'.isConnected socket = s.isConnected socket := by
  unfold isConnected
  rw [h]

theorem Placed.recedes (h : Placed s) (hrecedes : Recedes s s') : Placed s' where
  attached key hkey := by
    rw [hrecedes.gateway.sessionCount] at hkey
    have hsocket : (s'.gateway.heap key).socket = (s.gateway.heap key).socket :=
      congrArg GatewayTransportEpoch.socket (hrecedes.gateway.transport key)
    rw [hsocket, hrecedes.gateway.session]
    exact h.attached key hkey
  unconnected socket hsocket := by
    rw [isConnected_congr hrecedes.upgrades] at hsocket
    obtain ⟨hsession, hqueue⟩ := h.unconnected socket hsocket
    exact ⟨(hrecedes.gateway.session socket).trans hsession, hrecedes.gateway.queue socket hqueue⟩
  streams key streamId object hlookup := by
    rw [hrecedes.objectCount, hrecedes.key, hrecedes.streamId, hrecedes.transport,
      hrecedes.gateway.transport]
    exact h.streams key streamId object (hrecedes.lookup key streamId object hlookup)
  live key hregistered := by
    obtain ⟨hbefore, hterminal⟩ := hrecedes.gateway.registered key hregistered
    rw [hterminal]
    exact h.live key hbefore

/-- The session that a socket takes over has no open stream. -/
theorem Placed.attaches {gateway : State} (h : Placed s) (haccounted : Accounted s)
    (hconnected : s.isConnected socket = true) (hattaches : Attaches key socket s.gateway gateway) :
    Placed { s with gateway } := by
  have hempty : s.streams key = ∅ := by
    rcases hattaches.taken with ⟨-, -, state, hstate⟩ | ⟨-, hkey, -⟩
    · apply haccounted.empty
      rw [hstate]
      simp
    · by_contra hlive
      have hlt := haccounted.registry.lt (haccounted.live key hlive).1
      omega
  have hcount (other : ℕ) (hother : other < gateway.sessionCount) (hne : other ≠ key) :
      other < s.gateway.sessionCount := by
    rcases hattaches.taken with ⟨hcount, -⟩ | ⟨hcount, hkey, -⟩
    · omega
    · omega
  refine ⟨?_, ?_, ?_, ?_⟩
  · intro other hother
    dsimp only at hother ⊢
    rw [hattaches.session]
    split_ifs with hsocket
    · simp
    · have hne : other ≠ key := by
        rintro rfl
        exact hsocket hattaches.socket
      have hplace : (gateway.heap other).socket = (s.gateway.heap other).socket :=
        congrArg GatewayTransportEpoch.socket (hattaches.transport other hne)
      rw [hplace]
      exact h.attached other (hcount other hother hne)
  · intro other hother
    have hne : other ≠ socket := by
      rintro rfl
      have hsame : isConnected { s with gateway } other = s.isConnected other := rfl
      rw [hsame, hconnected] at hother
      cases hother
    obtain ⟨hsession, hqueue⟩ := h.unconnected other hother
    refine ⟨?_, hattaches.queue other hne hqueue⟩
    dsimp only
    rw [hattaches.session, if_neg hne, hsession]
  · intro other streamId object hlookup
    have hne : other ≠ key := by
      rintro rfl
      dsimp only at hlookup
      rw [hempty] at hlookup
      simp at hlookup
    dsimp only
    rw [hattaches.transport other hne]
    exact h.streams other streamId object hlookup
  · intro other hregistered
    dsimp only at hregistered ⊢
    by_cases hnew : other = s.gateway.sessionCount ∧
        gateway.sessionCount = s.gateway.sessionCount + 1
    · rcases hattaches.taken with ⟨hsame, -⟩ | ⟨-, hkey, hterminal⟩
      · omega
      · rw [hnew.1, ← hkey]
        apply hterminal
        rwa [hkey, ← hnew.1]
    · have hold : other = s.gateway.sessionCount →
          gateway.sessionCount = s.gateway.sessionCount := by
        intro hother
        rcases hattaches.taken with ⟨hsame, -⟩ | ⟨hcount, -⟩
        · exact hsame
        · exact absurd ⟨hother, hcount⟩ hnew
      obtain ⟨hbefore, hterminal⟩ := hattaches.registered other hold hregistered
      rw [hterminal]
      exact h.live other hbefore

/-- The upgrade of a socket that is not connected yet. -/
theorem Placed.setUpgrade {upgrade : Upgrade} (h : Placed s)
    (hsocket : s.isConnected socket = false) : Placed (s.setUpgrade socket upgrade) where
  attached := h.attached
  unconnected other hother := by
    by_cases hself : other = socket
    · rw [hself]
      exact h.unconnected socket hsocket
    · apply h.unconnected other
      simpa [isConnected, Server.setUpgrade, hself] using hother
  streams := h.streams
  live := h.live

/-- What a step leaves behind. -/
structure Progress (s s' : Server) : Prop where
  placed : Placed s'
  later : Later s.gateway s'.gateway

theorem Placed.progress (h : Placed s) (hrecedes : Recedes s s') : Progress s s' :=
  ⟨h.recedes hrecedes, hrecedes.gateway.later⟩

theorem Progress.trans (h : Progress s s') (h' : Progress s' s'') : Progress s s'' :=
  ⟨h'.placed, h.later.trans h'.later⟩

theorem Placed.refused {upgrade : Upgrade} (h : Placed s) (hsocket : s.isConnected socket = false) :
    Progress s (s.setUpgrade socket upgrade) :=
  ⟨h.setUpgrade hsocket, .refl _⟩

theorem connect_progress {callback : ℕ} {accepted : Bool}
    {authorization : Option DeveloperAuthorization} (h : Placed s)
    (hsocket : s.isConnected socket = false) :
    Progress s (s.connect socket callback accepted authorization) := by
  unfold connect
  split_ifs
  · have hattached : Recedes s { s with
        gateway := s.gateway.setCarrier socket (.new authorization) } :=
      setGateway_recedes (setCarrier_stays (h.unconnected socket hsocket).1.symm fun _ => rfl)
    exact (h.progress hattached).trans ((h.recedes hattached).refused hsocket)
  · exact h.refused hsocket

theorem reservePendingCarrier_progress {accepted : Bool}
    {authorization : Option DeveloperAuthorization} (h : Placed s)
    (hsocket : s.isConnected socket = false) :
    Progress s (s.reservePendingCarrier config socket now accepted authorization) := by
  have hadmission (admission : GatewayAdmission) : Recedes s { s with admission } :=
    recedes_of_same rfl rfl rfl rfl rfl
  unfold reservePendingCarrier
  split
  · exact (h.progress (hadmission _)).trans ((h.recedes (hadmission _)).refused hsocket)
  · exact (h.progress (hadmission _)).trans (connect_progress (h.recedes (hadmission _)) hsocket)

theorem upgradeCarrier_progress {wellFormed accepted : Bool} (h : Placed s)
    (hstep : s.upgradeCarrier config socket now wellFormed accepted = some s') : Progress s s' := by
  have hadmission (admission : GatewayAdmission) : Recedes s { s with admission } :=
    recedes_of_same rfl rfl rfl rfl rfl
  unfold upgradeCarrier at hstep
  split at hstep
  · cases hstep
  · rename_i habsent
    have hsocket : s.isConnected socket = false := by
      simp only [ne_eq, not_not] at habsent
      simp [isConnected, habsent]
    split at hstep
    · cases hstep
      exact h.refused hsocket
    · split at hstep
      · split at hstep
        · cases hstep
          exact (h.progress (hadmission _)).trans ((h.recedes (hadmission _)).refused hsocket)
        · cases hstep
          exact (h.progress (hadmission _)).trans ((h.recedes (hadmission _)).refused hsocket)
      · cases hstep
        exact reservePendingCarrier_progress h hsocket

theorem carrierAuthorized_progress {usable accepted : Bool}
    {authorization : Option DeveloperAuthorization} (h : Placed s)
    (hstep : s.carrierAuthorized config socket now usable accepted authorization = some s') :
    Progress s s' := by
  have hadmission (next : Server) (admission : GatewayAdmission) :
      Recedes next { next with admission } :=
    recedes_of_same rfl rfl rfl rfl rfl
  unfold carrierAuthorized at hstep
  split at hstep
  · rename_i attempt hupgrade
    have hsocket : s.isConnected socket = false := by simp [isConnected, hupgrade]
    have hreleased {next : Server} (hnext : Progress s next) : Progress s { next with
        admission := next.admission.releaseCarrierAuthorizationAttempt attempt } :=
      hnext.trans (hnext.placed.progress (hadmission next _))
    split at hstep
    · cases hstep
      exact hreleased (h.refused hsocket)
    · rename_i granted
      have hconsumed := hadmission s (s.admission.consumeCredentialReservation granted now)
      split at hstep
      · cases hstep
        exact hreleased ((h.progress hconsumed).trans ((h.recedes hconsumed).refused hsocket))
      · cases hstep
        exact hreleased ((h.progress hconsumed).trans
          (reservePendingCarrier_progress (h.recedes hconsumed) hsocket))
  · cases hstep

/-- A message waits on a connected socket. -/
theorem receiveMessage_progress {message : Message} (h : Placed s)
    (hsocket : s.isConnected socket = true) :
    Progress s { s with gateway := receiveMessage config.ctx s.gateway socket message } := by
  have hcarrier (carrier : Carrier)
      (hsession : carrier.session = (s.gateway.carriers socket).session) :
      Progress s { s with gateway := s.gateway.setCarrier socket carrier } := by
    have hsame (other : ℕ) : ((s.gateway.setCarrier socket carrier).carriers other).session =
        (s.gateway.carriers other).session := by
      by_cases hother : other = socket
      · rw [hother, setCarrier_self, hsession]
      · rw [setCarrier_of_ne _ _ _ hother]
    refine ⟨⟨?_, ?_, h.streams, h.live⟩, ?_⟩
    · intro key hkey
      dsimp only
      rw [setCarrier_heap, hsame]
      exact h.attached key hkey
    · intro other hother
      have hne : other ≠ socket := by
        rintro rfl
        have hupgrades : isConnected { s with
          gateway := s.gateway.setCarrier other carrier } other = s.isConnected other := rfl
        rw [hupgrades, hsocket] at hother
        cases hother
      dsimp only
      rw [setCarrier_of_ne _ _ _ hne]
      exact h.unconnected other hother
    · refine ⟨le_rfl, fun other hnone => ?_, fun _ _ => Or.inl rfl, fun _ _ => rfl, fun _ _ => id⟩
      exact (hsame other).symm.trans hnone
  unfold receiveMessage
  dsimp only
  split_ifs
  · exact h.progress (.refl s)
  · exact hcarrier _ rfl
  · exact hcarrier _ rfl

theorem run_progress {ready : Bool} {nonce : List UInt8} {body : FrameBody} (hkept : Kept s)
    (h : Placed s) (hrun : s.run config socket now ready nonce body = some s') :
    Progress s s' := by
  have hgreeted := @greeted_recedes config s socket now
  have haccounted := (hkept.advances (@greeted_advances config s socket now hkept)).accounted
  have hgateway := (@greeted_sessions config s socket now).1
  unfold run at hrun
  dsimp only at hrun
  generalize s.greeted config socket now = greeted at hgreeted haccounted hgateway hrun
  have hplaced := h.recedes hgreeted
  refine (h.progress hgreeted).trans ?_
  split at hrun
  · cases hrun
  · rename_i gateway hstep
    rw [← hgateway] at hstep
    obtain ⟨hqueue, hfollows⟩ := step_run_follows haccounted.registry hstep
    have hconnected : greeted.isConnected socket = true := by
      by_contra hsocket
      rw [Bool.not_eq_true] at hsocket
      exact hqueue (hplaced.unconnected socket hsocket).2
    have hframed : Progress greeted { greeted with gateway } := by
      rcases hfollows with hstays | ⟨key, hattaches⟩
      · exact hplaced.progress (setGateway_recedes hstays)
      · exact ⟨hplaced.attaches haccounted hconnected hattaches, hattaches.later⟩
    refine hframed.trans ?_
    have hadopted := adopt_recedes greeted gateway
    split at hrun
    · cases hrun
      exact hframed.placed.progress hadopted
    · rename_i key bytes frame _
      cases hrun
      cases hframe : (greeted.adopt gateway).handleClientFrame config key now
          (streamFrame body frame) with
      | some handled =>
        exact hframed.placed.progress (hadopted.trans (handleClientFrame_recedes hframe))
      | none =>
        refine hframed.placed.progress ?_
        exact ⟨fail_stays gateway socket bytes, hadopted.upgrades, hadopted.objectCount,
          hadopted.key, hadopted.streamId, hadopted.transport, hadopted.lookup⟩

/-- A new stream is filed under its session, on the transport of that session. -/
theorem Placed.opens {count streamId : ℕ} {held : StreamObject} (h : Placed s)
    (hcount : count = s.objectCount) (hkey : held.key = key) (hstream : held.streamId = streamId)
    (htransport : held.transport = s.gateway.captureGatewayTransport key) :
    Placed { s with
      streams := Function.update s.streams key ((s.streams key).insert streamId count)
      objects := Function.update s.objects count held
      objectCount := count + 1 } where
  attached := h.attached
  unconnected := h.unconnected
  streams other id object hlookup := by
    dsimp only at hlookup ⊢
    have hold (hbefore : (s.streams other).lookup id = some object) :
        object < count + 1 ∧ ((Function.update s.objects count held) object).key = other ∧
          ((Function.update s.objects count held) object).streamId = id ∧
          ((Function.update s.objects count held) object).transport =
            s.gateway.captureGatewayTransport other := by
      obtain ⟨hlt, hplace⟩ := h.streams other id object hbefore
      have hne : object ≠ count := by omega
      rw [Function.update_of_ne hne]
      exact ⟨by omega, hplace⟩
    by_cases hother : other = key
    · subst hother
      rw [Function.update_self] at hlookup
      by_cases hid : id = streamId
      · rw [hid, AList.lookup_insert] at hlookup
        cases hlookup
        rw [Function.update_self, hid]
        exact ⟨Nat.lt_succ_self _, hkey, hstream, htransport⟩
      · rw [AList.lookup_insert_ne hid] at hlookup
        exact hold hlookup
    · rw [Function.update_of_ne hother] at hlookup
      exact hold hlookup
  live := h.live

theorem beginGatewayStream_progress {streamId : ℕ} {request : ReviewerRequest} (h : Placed s) :
    Progress s (s.beginGatewayStream config key streamId now request) := by
  unfold beginGatewayStream
  split
  · rename_i state _
    have hbegun := applySessionTransition_recedes s key (.ACTIVE state)
    have hopened {next : Server} (hnext : Placed next) (hlater : Later s.gateway next.gateway) :
        Progress s (next.openFlows s.objectCount) :=
      Progress.trans ⟨hnext, hlater⟩ (hnext.progress (openFlows_recedes next _))
    dsimp only
    refine hopened ((h.recedes hbegun).opens hbegun.objectCount.symm rfl rfl ?_)
      hbegun.gateway.later
    exact (hbegun.gateway.transport key).symm
  · exact h.progress (applySessionTransition_recedes s key _)
  · exact h.progress (.refl s)

theorem admitStream_recedes (s : Server) (key now : ℕ) :
    Recedes s (s.admitStream config key now).1 := by
  unfold admitStream
  split
  · exact .refl s
  · generalize (if now - (s.rates key).windowStartedAt ≥ 60000 then _ else s.rates key) = rate
    dsimp only
    split
    · exact recedes_of_same rfl rfl rfl rfl rfl
    · exact recedes_of_same rfl rfl rfl rfl rfl

theorem openStream_progress {request : ReviewerRequest} (h : Placed s) :
    Progress s (s.openStream config now request) := by
  unfold openStream
  split
  · exact h.progress (.refl s)
  · rename_i key _
    have hadmitted := @admitStream_recedes config s key now
    dsimp only
    split
    · exact h.progress (.refl s)
    · generalize s.admitStream config key now = answer at hadmitted
      obtain ⟨admitted, accepted⟩ := answer
      dsimp only at hadmitted ⊢
      split
      · exact h.progress hadmitted
      · split
        · exact h.progress hadmitted
        · split
          · exact h.progress hadmitted
          · refine Progress.trans (h.progress (hadmitted.trans (setGateway_recedes ?_)))
              (beginGatewayStream_progress ?_)
            · exact setSession_stays ⟨rfl, rfl, rfl, rfl, rfl⟩
            · refine h.recedes (hadmitted.trans (setGateway_recedes ?_))
              exact setSession_stays ⟨rfl, rfl, rfl, rfl, rfl⟩

theorem step_progress {label : Label} (hkept : Kept s) (h : Placed s)
    (hstep : step config s label = some s') : Progress s s' := by
  have hsame {next : Server} (hgateway : next.gateway = s.gateway)
      (hupgrades : next.upgrades = s.upgrades) (hcount : next.objectCount = s.objectCount)
      (hobjects : next.objects = s.objects) (hstreams : next.streams = s.streams) :
      Progress s next :=
    h.progress (recedes_of_same hgateway hupgrades hcount hobjects hstreams)
  cases label with
  | reserveCarrierCredential accountId forResume tunnelId now =>
    cases hstep
    exact hsame rfl rfl rfl rfl rfl
  | releaseCarrierCredential reservationId =>
    cases hstep
    exact hsame rfl rfl rfl rfl rfl
  | upgradeCarrier socket now wellFormed accepted => exact upgradeCarrier_progress h hstep
  | carrierAuthorized socket now usable accepted authorization =>
    exact carrierAuthorized_progress h hstep
  | releasePendingCarrier socket =>
    cases hstep
    exact h.progress (releasePendingCarrier_recedes s socket)
  | message socket message =>
    simp only [step, Gateway.step, Option.map_some] at hstep
    split at hstep
    · rename_i hconnected
      cases hstep
      have hreceived := @receiveMessage_progress config s socket message h hconnected
      exact hreceived.trans (hreceived.placed.progress (adopt_recedes s _))
    · cases hstep
  | controlFrame socket =>
    simp only [step, Gateway.step] at hstep
    split at hstep
    · split at hstep
      · cases hstep
      · cases hstep
        exact h.progress (adopt_stays_recedes (setCarrier_stays rfl id))
    · cases hstep
  | run socket now ready nonce body => exact run_progress hkept h hstep
  | sendSettles socket succeeded => exact h.progress (sendSettles_recedes hstep)
  | socketCloses socket =>
    cases hstep
    exact h.progress (closeSocket_recedes s socket)
  | cleanup socket now =>
    simp only [step] at hstep
    split at hstep
    · cases hstep
    · cases hstep
      exact h.progress (cleanup_recedes s socket now)
  | reviewerRequest request =>
    simp only [step] at hstep
    split at hstep
    · cases hstep
      exact h.progress (.refl s)
    · cases hstep
      exact hsame rfl rfl rfl rfl rfl
  | reviewerAuthorized index now =>
    simp only [step] at hstep
    split at hstep
    · cases hstep
    · cases hstep
      have hwaiting : Progress s { s with requests := s.requests.eraseIdx index } :=
        hsame rfl rfl rfl rfl rfl
      exact hwaiting.trans (openStream_progress hwaiting.placed)
  | reviewerRefused index =>
    cases hstep
    exact hsame rfl rfl rfl rfl rfl
  | stream object now point =>
    simp only [step] at hstep
    split at hstep
    · cases hstep
      exact h.progress (runStream_recedes s object now point)
    · cases hstep
  | sessionTick key now expired =>
    cases hstep
    exact h.progress (sessionTick_recedes s key now expired)
  | expiryTimer key now =>
    simp only [step] at hstep
    split at hstep
    · cases hstep
      exact h.progress (expiryTimer_recedes s key now)
    · cases hstep
  | heartbeatFails key transport =>
    cases hstep
    exact h.progress (whenCurrent_recedes (closeSocket_recedes s transport.socket))
  | activationTimeout key transport =>
    simp only [step] at hstep
    split at hstep
    · cases hstep
      exact h.progress (.refl s)
    · cases hstep
      exact h.progress (closeSocket_recedes s transport.socket)
  | developerRevoked key transport =>
    cases hstep
    exact h.progress (whenCurrent_recedes (disposeGatewaySession_recedes s key))
  | terminate key =>
    cases hstep
    exact h.progress (disposeGatewaySession_recedes s key)
  | updateKillSwitch enabled =>
    cases hstep
    exact h.progress (updateKillSwitch_recedes s enabled)
  | close =>
    cases hstep
    exact h.progress ((disposeAll_recedes s).trans (recedes_of_same rfl rfl rfl rfl rfl))

theorem run_later {schedule : List Label} (hkept : Kept s) (h : Placed s)
    (hrun : Execution.run (step config) s schedule = some s') :
    Kept s' ∧ Progress s s' := by
  induction schedule generalizing s with
  | nil =>
    cases hrun
    exact ⟨hkept, h, .refl _⟩
  | cons label schedule ih =>
    rw [Execution.run] at hrun
    cases hnext : step config s label with
    | none =>
      rw [hnext] at hrun
      cases hrun
    | some next =>
      rw [hnext] at hrun
      have hprogress := step_progress hkept h hnext
      obtain ⟨hkept', hrest⟩ := ih (step_kept hkept hnext) hprogress.placed hrun
      exact ⟨hkept', hprogress.trans hrest⟩

end Placed

/-- A session that changes its transport has left the old one, which has served it. -/
theorem Placed.left {s s' : Server} {key : ℕ} (h : Placed s)
    (hlater : Later s.gateway s'.gateway) (hkey : key < s.gateway.sessionCount)
    (hmoved : s'.gateway.captureGatewayTransport key ≠ s.gateway.captureGatewayTransport key) :
    Left s'.gateway key (s.gateway.captureGatewayTransport key) where
  key_lt := hkey.trans_le hlater.sessionCount
  served hnone := h.attached key hkey (hlater.session _ hnone)
  elsewhere := hmoved

section Runs

variable (config : ServerConfig) (initialKillSwitch : Bool) (startedAt : ℕ)

/-- In every run, a transport that a session has left is never its transport again, a session that
has left the registry never returns, and its owner never changes. -/
theorem run_transports_never_return {before between after : List Label} {s s' s'' : Server}
    (hbefore : Execution.run (step config) (start initialKillSwitch startedAt) before = some s)
    (hbetween : Execution.run (step config) s between = some s')
    (hafter : Execution.run (step config) s' after = some s'') :
    ∀ key < s.gateway.sessionCount,
      (s'.gateway.captureGatewayTransport key ≠ s.gateway.captureGatewayTransport key →
        s''.gateway.captureGatewayTransport key ≠ s.gateway.captureGatewayTransport key) ∧
      (s.gateway.isRegistered key = false → s''.gateway.isRegistered key = false) ∧
      (s''.gateway.heap key).owner = (s.gateway.heap key).owner := by
  obtain ⟨hkept, hfirst⟩ := run_later (start_kept initialKillSwitch startedAt)
    (start_placed initialKillSwitch startedAt) hbefore
  obtain ⟨hkept', hsecond⟩ := run_later hkept hfirst.placed hbetween
  obtain ⟨-, hthird⟩ := run_later hkept' hsecond.placed hafter
  have hlater := hsecond.later.trans hthird.later
  intro key hkey
  refine ⟨?_, ?_, hlater.owner key hkey⟩
  · intro hmoved
    exact ((hfirst.placed.left hsecond.later hkey hmoved).later hthird.later).elsewhere
  · intro hgone
    by_contra hback
    rw [Bool.not_eq_false] at hback
    rw [hlater.registered key hkey hback] at hgone
    cases hgone

end Runs

section Scenario

/-- The socket of the session is lost, and the session resumes on another one. -/
def resumption : List Label :=
  [.cleanup 0 0, .upgradeCarrier 1 0 true true,
    .message 1 ⟨200, some ⟨0, .hello (some ⟨.resume 0, 5, 6, .localView⟩)⟩⟩, runNoon 1,
    .sendSettles 1 true]

/-- The handshake of the second transport. -/
def reactivation : List Label :=
  [.message 1 (frameOf 2 (.configApplied (some ⟨2, 2, true, true, none⟩))), runNoon 1,
    .sendSettles 1 true, .sendSettles 1 true, .sendSettles 1 true,
    .message 1 (frameOf 2 (.data 1 (List.replicate 32 7))), runNoon 1, .sendSettles 1 true,
    .message 1 (frameOf 2 (.endStream 1)), runNoon 1, .sendSettles 1 true]

def openOne (now : ℕ) : List Label :=
  [.reviewerRequest reviewerRequest, .reviewerAuthorized 0 now]

/-- A stream is open on each of the two transports in turn, and both have the same id. -/
def reopened : List Label := activation ++ openOne 0 ++ resumption ++ reactivation ++ openOne 1

theorem run_transports_never_return_resumption :
    ∃ s s' s'', Execution.run (step openServer) (start false 0) activation = some s ∧
      Execution.run (step openServer) s resumption = some s' ∧
      Execution.run (step openServer) s' reactivation = some s'' ∧
      s.gateway.captureGatewayTransport 0 = ⟨0, 1⟩ ∧
      s''.gateway.captureGatewayTransport 0 ≠ ⟨0, 1⟩ := by
  have hobserved : (Execution.run (step openServer) (start false 0) activation).bind (fun s =>
      (Execution.run (step openServer) s resumption).bind fun s' =>
        (Execution.run (step openServer) s' reactivation).map fun _ =>
          (s.gateway.sessionCount, s.gateway.captureGatewayTransport 0,
            s'.gateway.captureGatewayTransport 0)) = some (1, ⟨0, 1⟩, ⟨1, 2⟩) := by
    decide +kernel
  obtain ⟨s, hs, hobserved⟩ := Option.bind_eq_some_iff.mp hobserved
  obtain ⟨s', hs', hobserved⟩ := Option.bind_eq_some_iff.mp hobserved
  obtain ⟨s'', hs'', hobserved⟩ := Option.map_eq_some_iff.mp hobserved
  simp only [Prod.mk.injEq] at hobserved
  obtain ⟨hcount, hbefore, hbetween⟩ := hobserved
  refine ⟨s, s', s'', hs, hs', hs'', hbefore, ?_⟩
  have hreturn := run_transports_never_return openServer false 0 hs hs' hs'' 0 (by omega)
  rw [hbefore] at hreturn
  apply hreturn.1
  rw [hbetween]
  decide

end Scenario

end Server

end Lotur.Gateway
