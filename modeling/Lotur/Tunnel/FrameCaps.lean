import Lotur.Tunnel.System

/-! Flow control bounds bytes; four caps bound frames. Each cap counts what waits at the
receiver, so it is kept while the frames on their way still fit beside what is counted. -/
namespace Lotur.Tunnel

def isData (frame : StreamFrame) : Bool :=
  match frame.body with
  | .data _ => true
  | _ => false

/-- DATA and END are the frames that queue an operation. -/
def isOperation (frame : StreamFrame) : Bool :=
  match frame.body with
  | .data _ | .endStream => true
  | _ => false

def isDataOf (streamId : ℕ) (frame : StreamFrame) : Bool :=
  isData frame && frame.streamId = streamId

def isOperationOf (streamId : ℕ) (frame : StreamFrame) : Bool :=
  isOperation frame && frame.streamId = streamId

/-- A DATA frame that the gateway is about to handle, and a DATA or END frame that the client is
about to handle, are below every cap that counts them. -/
structure CapsKept (s : State) : Prop where
  gateway : ∀ frame outbox, s.client.outbox = frame :: outbox → isData frame = true →
    s.gatewayFailure = none → (s.gateway.stream frame.streamId).downstreamQueuedFrames <
      Gateway.MAX_PENDING_DOWNSTREAM_FRAMES
  client : ∀ frame outbox, s.gateway.outbox = frame :: outbox → isOperation frame = true →
    s.clientFailure = none →
      (s.client.stream frame.streamId).pendingInboundOperations <
        Client.MAX_PENDING_STREAM_OPERATIONS ∧
      s.client.applicationOperations.pending < s.client.applicationOperations.limit ∧
      (isData frame = true → s.client.tables.inboundFlow.pendingFrames <
        s.client.tables.inboundFlow.maxPendingFrames)

/-- The client has room for one more operation of the stream behind those on their way. -/
def RoomAtClient (s : State) (streamId : ℕ) : Prop :=
  s.gateway.outbox.countP (isOperationOf streamId) +
      (s.client.stream streamId).pendingInboundOperations <
    Client.MAX_PENDING_STREAM_OPERATIONS ∧
  s.gateway.outbox.countP isOperation + s.client.applicationOperations.pending <
    s.client.applicationOperations.limit

/-- A sender hands over a frame only while the frames on their way and those the receiver
counts leave room for it under the receiver's caps. -/
def RoomForFrame (s : State) : Label → Prop
  | .client .sendGranted => ∀ grant ∈ s.client.grants.head?,
    s.client.outbox.countP (isDataOf grant.1) +
      (s.gateway.stream grant.1).downstreamQueuedFrames < Gateway.MAX_PENDING_DOWNSTREAM_FRAMES
  | .gateway .sendGranted => ∀ grant ∈ s.gateway.grants.head?, RoomAtClient s grant.1 ∧
    s.gateway.outbox.countP isData + s.client.tables.inboundFlow.pendingFrames <
      s.client.tables.inboundFlow.maxPendingFrames
  | .gateway (.requestEnd streamId) => RoomAtClient s streamId
  | _ => True

instance (s : State) (streamId : ℕ) : Decidable (RoomAtClient s streamId) :=
  inferInstanceAs (Decidable (_ ∧ _))

instance (s : State) : (a : Label) → Decidable (RoomForFrame s a)
  | .client .sendGranted => inferInstanceAs (Decidable (∀ grant ∈ s.client.grants.head?, _))
  | .gateway .sendGranted => inferInstanceAs (Decidable (∀ grant ∈ s.gateway.grants.head?, _ ∧ _))
  | .gateway (.requestEnd streamId) => inferInstanceAs (Decidable (RoomAtClient s streamId))
  | .toGateway | .toClient => isTrue trivial
  | .client (.respond ..) | .client (.upgrade ..) | .client (.take ..)
  | .client (.respondEnd _) | .client (.endSent _) | .client (.localReset ..)
  | .client (.operation _) | .client (.announce _) | .client (.announced _) => isTrue trivial
  | .gateway (.openStream ..) | .gateway (.take ..) | .gateway (.endSent _)
  | .gateway (.localReset ..) | .gateway (.operation _) | .gateway (.announce _)
  | .gateway (.announced _) => isTrue trivial

/-! Neither side adds to the other's queues except by DATA and END. -/

section Client

open Client

/-- The client counts no more than before, under the same limits, and sends no DATA. -/
structure Relaxes (e e' : Endpoint) : Prop where
  outbox : ∃ frames, e'.outbox = e.outbox ++ frames ∧ ∀ frame ∈ frames, isData frame = false
  operations : ∀ streamId, (e'.stream streamId).pendingInboundOperations ≤
    (e.stream streamId).pendingInboundOperations
  pending : e'.applicationOperations.pending ≤ e.applicationOperations.pending
  limit : e'.applicationOperations.limit = e.applicationOperations.limit
  pendingFrames : e'.tables.inboundFlow.pendingFrames ≤ e.tables.inboundFlow.pendingFrames
  maxPendingFrames : e'.tables.inboundFlow.maxPendingFrames = e.tables.inboundFlow.maxPendingFrames

theorem Relaxes.trans {first second third : Endpoint} (h : Relaxes first second)
    (h' : Relaxes second third) : Relaxes first third where
  outbox := by
    obtain ⟨sent, hsent, hdata⟩ := h.outbox
    obtain ⟨added, hadded, hdata'⟩ := h'.outbox
    refine ⟨sent ++ added, by rw [hadded, hsent, List.append_assoc], ?_⟩
    intro frame hframe
    rcases List.mem_append.mp hframe with hmem | hmem
    · exact hdata frame hmem
    · exact hdata' frame hmem
  operations := fun streamId => (h'.operations streamId).trans (h.operations streamId)
  pending := h'.pending.trans h.pending
  limit := h'.limit.trans h.limit
  pendingFrames := h'.pendingFrames.trans h.pendingFrames
  maxPendingFrames := h'.maxPendingFrames.trans h.maxPendingFrames

/-- Windows that only get emptier. -/
structure Drains (window window' : InboundFlowWindow) : Prop where
  pendingFrames : window'.pendingFrames ≤ window.pendingFrames
  maxPendingFrames : window'.maxPendingFrames = window.maxPendingFrames

theorem closeStream_drains (window : InboundFlowWindow) (streamId : ℕ) :
    Drains window (window.closeStream streamId) := by
  unfold InboundFlowWindow.closeStream
  split
  · exact ⟨le_rfl, rfl⟩
  · exact ⟨Nat.sub_le _ _, rfl⟩

theorem retireStream_drains (window : InboundFlowWindow) (streamId : ℕ) :
    Drains window (window.retireStream streamId) := by
  unfold InboundFlowWindow.retireStream
  split
  · exact ⟨le_rfl, rfl⟩
  · exact ⟨(closeStream_drains _ streamId).pendingFrames,
      (closeStream_drains _ streamId).maxPendingFrames⟩

theorem release_drains {window window' : InboundFlowWindow} {streamId bytes : ℕ}
    (h : window.release streamId bytes = .ok window') : Drains window window' := by
  unfold InboundFlowWindow.release at h
  split at h
  · cases h
  · split at h
    · cases h
    · split at h
      · cases h
      · cases h
        exact ⟨Nat.sub_le _ _, rfl⟩

theorem consume_pending {window window' : InboundFlowWindow} {streamId bytes : ℕ}
    (h : window.consume streamId bytes = .ok window') :
    window'.pendingFrames = window.pendingFrames + 1 ∧
      window'.maxPendingFrames = window.maxPendingFrames := by
  unfold InboundFlowWindow.consume at h
  split at h
  · cases h
  · split at h
    · cases h
    · split_ifs at h
      cases h
      exact ⟨rfl, rfl⟩

theorem consumeRetiredData_drains {window window' : InboundFlowWindow} {streamId bytes : ℕ}
    (h : window.consumeRetiredData streamId bytes = .ok window') : Drains window window' := by
  unfold InboundFlowWindow.consumeRetiredData at h
  cases hconsume : window.retiredData.consume streamId bytes with
  | error error =>
    rw [hconsume] at h
    cases h
  | ok retiredData =>
    rw [hconsume] at h
    cases h
    exact ⟨le_rfl, rfl⟩

theorem retired_drains {window window' : InboundFlowWindow} {frame : StreamFrame}
    (h : Endpoint.validateRetiredGatewayFrame window frame = .ok window') :
    Drains window window' := by
  have hmap : ∀ {α : Type} (metadata : Except JsError α),
      metadata.map (fun _ => window) = .ok window' → Drains window window' := by
    intro α metadata hmetadata
    cases metadata with
    | error error => cases hmetadata
    | ok value =>
      cases hmetadata
      exact ⟨le_rfl, rfl⟩
  unfold Endpoint.validateRetiredGatewayFrame at h
  split at h
  · split at h
    · cases h
    · exact consumeRetiredData_drains h
  · cases h
    exact ⟨le_rfl, rfl⟩
  · exact hmap _ h
  · exact hmap _ h
  · cases h

/-- A change of one record and of the windows. -/
theorem Relaxes.of_update {e e' : Endpoint} {streamId : ℕ} {stream : ClientStream}
    (houtbox : e'.outbox = e.outbox)
    (hstream : e'.stream = Function.update e.stream streamId stream)
    (hoperations : stream.pendingInboundOperations ≤
      (e.stream streamId).pendingInboundOperations)
    (hpending : e'.applicationOperations.pending ≤ e.applicationOperations.pending)
    (hlimit : e'.applicationOperations.limit = e.applicationOperations.limit)
    (hwindow : Drains e.tables.inboundFlow e'.tables.inboundFlow) : Relaxes e e' where
  outbox := ⟨[], by rw [houtbox, List.append_nil], by simp⟩
  operations := by
    intro other
    rw [hstream]
    by_cases hother : other = streamId
    · subst hother
      simpa using hoperations
    · simp [hother]
  pending := hpending
  limit := hlimit
  pendingFrames := hwindow.pendingFrames
  maxPendingFrames := hwindow.maxPendingFrames

theorem Relaxes.of_window {e e' : Endpoint} (houtbox : e'.outbox = e.outbox)
    (hstream : e'.stream = e.stream)
    (hbudget : e'.applicationOperations = e.applicationOperations)
    (hwindow : Drains e.tables.inboundFlow e'.tables.inboundFlow) : Relaxes e e' where
  outbox := ⟨[], by rw [houtbox, List.append_nil], by simp⟩
  operations := by
    intro streamId
    rw [hstream]
  pending := by rw [hbudget]
  limit := by rw [hbudget]
  pendingFrames := hwindow.pendingFrames
  maxPendingFrames := hwindow.maxPendingFrames

theorem Relaxes.refl (e : Endpoint) : Relaxes e e := Relaxes.of_window rfl rfl rfl ⟨le_rfl, rfl⟩

theorem send_relaxes (e : Endpoint) (streamId : ℕ) {body : FrameBody}
    (hbody : isData ⟨streamId, body⟩ = false) : Relaxes e (e.send streamId body) where
  outbox := by
    refine ⟨[⟨streamId, body⟩], rfl, ?_⟩
    intro frame hframe
    rw [List.mem_singleton.mp hframe]
    exact hbody
  operations := fun _ => le_rfl
  pending := le_rfl
  limit := rfl
  pendingFrames := le_rfl
  maxPendingFrames := rfl

theorem absorb_retire_relaxes (e : Endpoint) (streamId : ℕ) (stream : ClientStream)
    (closeInbound : InboundFlowWindow → InboundFlowWindow)
    (hoperations : stream.pendingInboundOperations = (e.stream streamId).pendingInboundOperations)
    (hclose : ∀ window, Drains window (closeInbound window)) :
    Relaxes e (e.absorb streamId (retire e.tables streamId stream closeInbound)) := by
  by_cases hactive : streamId ∈ e.tables.streamLifecycle.active
  · rw [retire_of_active hactive]
    exact Relaxes.of_update rfl rfl hoperations.le le_rfl rfl (hclose e.tables.inboundFlow)
  · obtain ⟨error, hretire⟩ := retire_of_not_active hactive stream closeInbound
    rw [hretire]
    exact Relaxes.of_update rfl rfl hoperations.le le_rfl rfl ⟨le_rfl, rfl⟩

theorem absorb_delete_relaxes (e : Endpoint) (streamId : ℕ) (stream : ClientStream)
    (hoperations : stream.pendingInboundOperations =
      (e.stream streamId).pendingInboundOperations) :
    Relaxes e (e.absorb streamId (maybeDeleteStream e.tables streamId stream)) := by
  unfold maybeDeleteStream
  split
  · exact absorb_retire_relaxes e streamId stream _ hoperations
      fun window => closeStream_drains window streamId
  · exact Relaxes.of_update rfl rfl hoperations.le le_rfl rfl ⟨le_rfl, rfl⟩

theorem absorb_cancel_relaxes (e : Endpoint) (streamId : ℕ) (retirement : RetirementKind) :
    Relaxes e (e.absorb streamId
      (cancelClientStream e.tables streamId (e.stream streamId) retirement)) := by
  unfold cancelClientStream
  split
  · exact Relaxes.of_update rfl rfl le_rfl le_rfl rfl ⟨le_rfl, rfl⟩
  · apply absorb_retire_relaxes
    · rfl
    · intro window
      cases retirement with
      | localReset => exact retireStream_drains window streamId
      | remoteReset => exact closeStream_drains window streamId

theorem cancelAndReset_relaxes (e : Endpoint) (streamId : ℕ) (code : String) :
    Relaxes e (e.cancelAndReset streamId code) := by
  have hcancel := absorb_cancel_relaxes e streamId .localReset
  unfold Endpoint.cancelAndReset
  split
  · exact Relaxes.refl e
  · dsimp only
    split
    · exact hcancel
    · exact hcancel.trans (send_relaxes _ streamId rfl)

theorem endSent_relaxes (e : Endpoint) (streamId : ℕ) : Relaxes e (e.endSent streamId) := by
  have hdelete := absorb_delete_relaxes { e with endSends := e.endSends.erase streamId } streamId
    (e.stream streamId) rfl
  have hcancel := cancelAndReset_relaxes ({ e with
    endSends := e.endSends.erase streamId }.absorb streamId
      (maybeDeleteStream e.tables streamId (e.stream streamId))) streamId
  have herased : Relaxes e { e with endSends := e.endSends.erase streamId } :=
    Relaxes.of_window rfl rfl rfl ⟨le_rfl, rfl⟩
  unfold Endpoint.endSent
  dsimp only
  split
  · exact herased.trans (hdelete.trans (hcancel _))
  · exact herased.trans hdelete

theorem popOperation_relaxes (e : Endpoint) (streamId : ℕ) (rest : List Operation) :
    Relaxes e (e.popOperation streamId rest) :=
  Relaxes.of_update rfl rfl (Nat.sub_le _ _) (Nat.sub_le _ _) rfl ⟨le_rfl, rfl⟩

theorem release_relaxes {e e' : Endpoint} {streamId bytes : ℕ}
    (h : e.release streamId bytes = .ok e') : Relaxes e e' := by
  obtain ⟨inboundFlow, hrelease, rfl⟩ := Endpoint.release_ok h
  exact Relaxes.of_window rfl rfl rfl (release_drains hrelease)

theorem endRequest_operations (stream : ClientStream) :
    (Endpoint.endRequest stream).pendingInboundOperations = stream.pendingInboundOperations := by
  unfold Endpoint.endRequest ClientStream.armResponseHeaderTimer
  split_ifs <;> rfl

theorem runEnd_relaxes {e e' : Endpoint} {streamId : ℕ} (h : e.runEnd streamId = .ok e') :
    Relaxes e e' := by
  obtain ⟨-, rfl⟩ | ⟨-, -, -, rfl⟩ := Endpoint.runEnd_ok h
  · exact Relaxes.refl e'
  · exact absorb_delete_relaxes e streamId _ (endRequest_operations _)

theorem runOperation_relaxes {e e' : Endpoint} {streamId : ℕ}
    (h : e.runOperation streamId = some (.ok e')) : Relaxes e e' := by
  obtain ⟨-, ⟨bytes, rest, -, -, rfl⟩ | ⟨bytes, rest, -, -, hrelease⟩ | ⟨rest, -, hend⟩⟩ :=
    Endpoint.runOperation_ok h
  · exact popOperation_relaxes e streamId rest
  · have hpopped := popOperation_relaxes (e.sendWindowUpdate streamId bytes) streamId rest
    have hsent : Relaxes e (e.sendWindowUpdate streamId bytes) := send_relaxes e streamId rfl
    exact (hsent.trans hpopped).trans (release_relaxes hrelease)
  · exact (popOperation_relaxes e streamId rest).trans (runEnd_relaxes hend)

theorem announce_relaxes {e e' : Endpoint} {streamId : ℕ}
    (h : e.announce streamId = some (.ok e')) : Relaxes e e' := by
  obtain ⟨-, bytes, rest, -, ⟨-, rfl⟩ | ⟨-, rfl⟩⟩ := Endpoint.announce_ok h
  · exact popOperation_relaxes e streamId rest
  · have hsent : Relaxes e (e.sendWindowUpdate streamId bytes) := send_relaxes e streamId rfl
    exact hsent.trans (Relaxes.of_window rfl rfl rfl ⟨le_rfl, rfl⟩)

theorem announced_relaxes {e e' : Endpoint} {streamId : ℕ}
    (h : e.announced streamId = some (.ok e')) : Relaxes e e' := by
  obtain ⟨-, bytes, rest, -, hrest⟩ := Endpoint.announced_ok h
  have hpopped : Relaxes e { e.popOperation streamId rest with
      crediting := e.crediting.erase streamId } :=
    (popOperation_relaxes e streamId rest).trans (Relaxes.of_window rfl rfl rfl ⟨le_rfl, rfl⟩)
  obtain ⟨-, rfl⟩ | ⟨-, hrelease⟩ := hrest
  · exact hpopped
  · exact hpopped.trans (release_relaxes hrelease)

theorem event_relaxes {e e' : Endpoint} {event : Endpoint.Event}
    (h : e.step event = some (.ok e')) (hgranted : event ≠ .sendGranted) : Relaxes e e' := by
  cases event with
  | respond streamId headers =>
    simp only [Endpoint.step] at h
    split at h
    · cases h
    · cases h
      have hset : Relaxes e (e.setStream streamId
          { (e.stream streamId).clearResponseHeaderTimer.touchClientStream with
            response := true }) := Relaxes.of_update rfl rfl le_rfl le_rfl rfl ⟨le_rfl, rfl⟩
      exact hset.trans (send_relaxes _ streamId rfl)
  | upgrade streamId headers =>
    simp only [Endpoint.step] at h
    split at h
    · cases h
    · cases h
      have hset : Relaxes e (e.setStream streamId
          { (e.stream streamId).clearResponseHeaderTimer.touchClientStream with
            response := true
            localSocket := true
            requestEnded := false }) :=
        Relaxes.of_update rfl rfl le_rfl le_rfl rfl ⟨le_rfl, rfl⟩
      exact hset.trans (send_relaxes _ streamId rfl)
  | take streamId maximumBytes =>
    simp only [Endpoint.step] at h
    split at h
    · obtain ⟨taken, htake, hok⟩ := Option.map_eq_some_iff.mp h
      cases hok
      obtain ⟨outboundFlow, settled, -, rfl⟩ := Endpoint.take_some htake
      exact Relaxes.of_window rfl rfl rfl ⟨le_rfl, rfl⟩
    · cases h
  | sendGranted => exact absurd rfl hgranted
  | respondEnd streamId =>
    simp only [Endpoint.step] at h
    split at h
    · cases h
      have hset : Relaxes e (e.setStream streamId { e.stream streamId with
          responseEnded := true }) := Relaxes.of_update rfl rfl le_rfl le_rfl rfl ⟨le_rfl, rfl⟩
      have hsent := hset.trans (send_relaxes _ streamId (show isData ⟨streamId, .endStream⟩ =
        false from rfl))
      exact hsent.trans (Relaxes.of_window rfl rfl rfl ⟨le_rfl, rfl⟩)
    · cases h
  | endSent streamId =>
    simp only [Endpoint.step] at h
    split at h
    · cases h
      exact endSent_relaxes e streamId
    · cases h
  | localReset streamId code =>
    simp only [Endpoint.step] at h
    split at h
    · cases h
    · cases h
      exact cancelAndReset_relaxes e streamId code
  | operation streamId => exact runOperation_relaxes h
  | announce streamId => exact announce_relaxes h
  | announced streamId => exact announced_relaxes h

theorem sendGranted_ok {e e' : Endpoint} (h : e.step .sendGranted = some (.ok e')) :
    ∃ streamId bytes grants, e.grants = (streamId, bytes) :: grants ∧
      e' = ({ e with grants } : Endpoint).send streamId (.data bytes) := by
  simp only [Endpoint.step] at h
  split at h
  · cases h
  · rename_i streamId bytes grants hgrants
    cases h
    exact ⟨streamId, bytes, grants, hgrants, rfl⟩

/-- What handling one frame may add to the client's counters. -/
structure Counts (frame : StreamFrame) (e e' : Endpoint) : Prop where
  outbox : e'.outbox = e.outbox
  operations : ∀ streamId, (e'.stream streamId).pendingInboundOperations ≤
    (e.stream streamId).pendingInboundOperations +
      if isOperationOf streamId frame then 1 else 0
  pending : e'.applicationOperations.pending ≤ e.applicationOperations.pending +
    if isOperation frame then 1 else 0
  limit : e'.applicationOperations.limit = e.applicationOperations.limit
  pendingFrames : e'.tables.inboundFlow.pendingFrames ≤ e.tables.inboundFlow.pendingFrames +
    if isData frame then 1 else 0
  maxPendingFrames : e'.tables.inboundFlow.maxPendingFrames = e.tables.inboundFlow.maxPendingFrames

theorem Counts.of_relaxes {frame : StreamFrame} {e e' : Endpoint} (h : Relaxes e e')
    (houtbox : e'.outbox = e.outbox) : Counts frame e e' where
  outbox := houtbox
  operations := fun streamId => (h.operations streamId).trans (Nat.le_add_right _ _)
  pending := h.pending.trans (Nat.le_add_right _ _)
  limit := h.limit
  pendingFrames := h.pendingFrames.trans (Nat.le_add_right _ _)
  maxPendingFrames := h.maxPendingFrames

/-- An operation is counted on its stream and on the connection. -/
theorem enqueue_counts {frame : StreamFrame} {e e' : Endpoint} {stream : ClientStream}
    {operation : Operation} (hoperation : isOperation frame = true)
    (hstream : stream.pendingInboundOperations =
      (e.stream frame.streamId).pendingInboundOperations)
    (h : e.enqueue frame.streamId stream operation = .ok e') :
    e'.tables = e.tables ∧ Counts frame e e' := by
  obtain ⟨-, -, rfl⟩ := Endpoint.enqueue_ok h
  refine ⟨rfl, rfl, ?_, ?_, rfl, Nat.le_add_right _ _, rfl⟩
  · intro streamId
    by_cases hother : streamId = frame.streamId
    · subst hother
      simp [isOperationOf, hoperation, hstream]
    · simp [hother]
  · simp [hoperation]

theorem countData_operations (stream : ClientStream) (bytes : ℕ) :
    (Endpoint.countData stream bytes).touchClientStream.pendingInboundOperations =
      stream.pendingInboundOperations := by
  unfold Endpoint.countData
  split_ifs <;> rfl

theorem acceptActive_counts {limits : Client.Limits} {frame : StreamFrame} {e e' : Endpoint}
    (h : e.acceptActive limits frame = .ok e') : Counts frame e e' := by
  unfold Endpoint.acceptActive at h
  split at h
  · cases h
  · obtain ⟨outboundFlow, settled, -, rfl⟩ := Endpoint.acceptUpdate_ok h
    exact Counts.of_relaxes (Relaxes.of_window rfl rfl rfl ⟨le_rfl, rfl⟩) rfl
  · rename_i bytes hbody
    obtain ⟨inboundFlow, hconsume, henqueue⟩ := Endpoint.acceptData_ok h
    have hpending := consume_pending hconsume
    have hdata : isData frame = true := by simp [isData, hbody]
    have hoperation : isOperation frame = true := by simp [isOperation, hbody]
    obtain ⟨htables, hcounts⟩ := enqueue_counts hoperation (countData_operations _ bytes) henqueue
    refine ⟨hcounts.outbox, hcounts.operations, hcounts.pending, hcounts.limit, ?_, ?_⟩
    · rw [htables, hdata]
      exact hpending.1.le
    · rw [htables]
      exact hpending.2
  · rename_i hbody
    have hoperation : isOperation frame = true := by simp [isOperation, hbody]
    exact (enqueue_counts hoperation rfl h).2
  · cases h
  · obtain ⟨-, rfl⟩ := Endpoint.acceptReset_ok h
    exact Counts.of_relaxes (absorb_cancel_relaxes e frame.streamId .remoteReset) rfl
  · cases h

theorem openStream_counts {limits : Client.Limits} {frame : StreamFrame} {e e' : Endpoint}
    {streamId : ℕ} {metadata : OpenHttpMetadata}
    (h : e.openStream limits streamId metadata = .ok e') : Counts frame e e' := by
  obtain ⟨streamLifecycle, outboundFlow, settled, inboundFlow, -, -, hinbound, rfl⟩ :=
    Endpoint.openStream_ok h
  have hwindow : Drains e.tables.inboundFlow inboundFlow := by
    unfold InboundFlowWindow.openStream at hinbound
    split_ifs at hinbound
    cases hinbound
    exact ⟨le_rfl, rfl⟩
  exact Counts.of_relaxes
    (Relaxes.of_update rfl rfl (Nat.zero_le _) le_rfl rfl hwindow) rfl

theorem handleGatewayFrame_counts {limits : Client.Limits} {frame : StreamFrame}
    {e e' : Endpoint} (h : e.handleGatewayFrame limits frame = .ok e') : Counts frame e e' := by
  obtain ⟨metadata, -, hopen⟩ | ⟨-, -, inboundFlow, hvalid, rfl⟩ | ⟨-, -, -, -, haccept⟩ :=
    Endpoint.handleGatewayFrame_ok h
  · exact openStream_counts hopen
  · exact Counts.of_relaxes (Relaxes.of_window rfl rfl rfl (retired_drains hvalid)) rfl
  · exact acceptActive_counts haccept

end Client

namespace FrameCaps

/-- The frames on their way fit beside what their receiver counts. -/
structure Inv (s : State) : Prop where
  gateway : s.gatewayFailure = none → ∀ streamId,
    s.client.outbox.countP (isDataOf streamId) +
      (s.gateway.stream streamId).downstreamQueuedFrames ≤ Gateway.MAX_PENDING_DOWNSTREAM_FRAMES
  operations : s.clientFailure = none → ∀ streamId,
    s.gateway.outbox.countP (isOperationOf streamId) +
      (s.client.stream streamId).pendingInboundOperations ≤ Client.MAX_PENDING_STREAM_OPERATIONS
  pending : s.clientFailure = none →
    s.gateway.outbox.countP isOperation + s.client.applicationOperations.pending ≤
      s.client.applicationOperations.limit
  frames : s.clientFailure = none →
    s.gateway.outbox.countP isData + s.client.tables.inboundFlow.pendingFrames ≤
      s.client.tables.inboundFlow.maxPendingFrames

theorem Inv.capsKept {s : State} (h : Inv s) : CapsKept s where
  gateway := by
    intro frame outbox houtbox hdata halive
    have hcount := h.gateway halive frame.streamId
    rw [houtbox, List.countP_cons] at hcount
    simp only [isDataOf, hdata, Bool.true_and, decide_true, if_true] at hcount
    omega
  client := by
    intro frame outbox houtbox hoperation halive
    have hstream := h.operations halive frame.streamId
    have hpending := h.pending halive
    have hframes := h.frames halive
    rw [houtbox, List.countP_cons] at hstream hpending hframes
    simp only [isOperationOf, hoperation, Bool.true_and, decide_true, if_true] at hstream hpending
    refine ⟨by omega, by omega, ?_⟩
    intro hdata
    simp only [hdata, if_true] at hframes
    omega

theorem start_inv : Inv start where
  gateway := fun _ _ => Nat.zero_le _
  operations := fun _ _ => Nat.zero_le _
  pending := fun _ => by decide
  frames := fun _ => by decide

theorem countP_append_of_none {p : StreamFrame → Bool} {frames added : List StreamFrame}
    (h : ∀ frame ∈ added, p frame = false) : (frames ++ added).countP p = frames.countP p := by
  have hnone : added.countP p = 0 := by
    rw [List.countP_eq_zero]
    intro frame hframe
    simp [h frame hframe]
  rw [List.countP_append, hnone, add_zero]

theorem answer_not_operation {frame : StreamFrame} (h : frame.IsAnswer) :
    isOperation frame = false ∧ isData frame = false := by
  rcases h with ⟨bytes, hbody⟩ | ⟨code, hbody⟩
  · simp [isOperation, isData, hbody]
  · simp [isOperation, isData, hbody]

/-- The gateway's end changes, and what it adds to its outbox is no operation. -/
theorem Inv.of_gateway {s : State} (h : Inv s) {gateway : Gateway.Endpoint}
    (houtbox : ∃ frames, gateway.outbox = s.gateway.outbox ++ frames ∧
      ∀ frame ∈ frames, isOperation frame = false ∧ isData frame = false)
    (hqueued : s.gatewayFailure = none → ∀ streamId, s.client.outbox.countP (isDataOf streamId) +
      (gateway.stream streamId).downstreamQueuedFrames ≤ Gateway.MAX_PENDING_DOWNSTREAM_FRAMES) :
    Inv { s with gateway } := by
  obtain ⟨frames, hadded, hnone⟩ := houtbox
  have hcount : ∀ p : StreamFrame → Bool, (∀ frame ∈ frames, p frame = false) →
      gateway.outbox.countP p = s.gateway.outbox.countP p := by
    intro p hp
    rw [hadded]
    exact countP_append_of_none hp
  refine ⟨hqueued, ?_, ?_, ?_⟩
  · intro halive streamId
    show gateway.outbox.countP (isOperationOf streamId) + _ ≤ _
    rw [hcount _ fun frame hframe => by simp [isOperationOf, (hnone frame hframe).1]]
    exact h.operations halive streamId
  · intro halive
    show gateway.outbox.countP isOperation + _ ≤ _
    rw [hcount _ fun frame hframe => (hnone frame hframe).1]
    exact h.pending halive
  · intro halive
    show gateway.outbox.countP isData + _ ≤ _
    rw [hcount _ fun frame hframe => (hnone frame hframe).2]
    exact h.frames halive

theorem Inv.answers {s : State} (h : Inv s) {gateway : Gateway.Endpoint}
    (hanswers : Gateway.Endpoint.Answers s.gateway gateway) : Inv { s with gateway } := by
  obtain ⟨frames, houtbox, hframes⟩ := hanswers.outbox
  apply h.of_gateway ⟨frames, houtbox, fun frame hframe => answer_not_operation (hframes frame hframe)⟩
  intro halive streamId
  have hcount := h.gateway halive streamId
  have hqueued := hanswers.queued streamId
  omega

theorem openStream_inv {limits : Limits} {s : State} (h : Inv s) {gateway : Gateway.Endpoint}
    {kind : StreamKind} {methodAllowsBody : Bool}
    (hopen : s.gateway.openStream limits.gateway kind methodAllowsBody = some gateway) :
    Inv { s with gateway } := by
  obtain ⟨-, opened, streamIds, outboundFlow, settled, inboundFlow, -, -, -, rfl⟩ :=
    Gateway.Endpoint.openStream_some hopen
  apply h.of_gateway
  · refine ⟨[⟨opened, .openHttp (.ok (Gateway.Endpoint.openMetadata kind))⟩], rfl, ?_⟩
    intro frame hframe
    rw [List.mem_singleton.mp hframe]
    exact ⟨rfl, rfl⟩
  · intro halive streamId
    have hcount := h.gateway halive streamId
    show _ + (Function.update s.gateway.stream opened (.opened kind methodAllowsBody)
      streamId).downstreamQueuedFrames ≤ _
    by_cases hopened : streamId = opened
    · subst hopened
      simp only [Function.update_self, Gateway.GatewayStream.opened]
      omega
    · rw [Function.update_of_ne hopened]
      exact hcount

/-- One more operation on its way, when there is room for it at the client. -/
theorem operationSent_inv {s : State} (h : Inv s) {gateway : Gateway.Endpoint}
    {streamId : ℕ} {body : FrameBody}
    (houtbox : gateway.outbox = s.gateway.outbox ++ [⟨streamId, body⟩])
    (hqueued : ∀ other, (gateway.stream other).downstreamQueuedFrames =
      (s.gateway.stream other).downstreamQueuedFrames)
    (hroom : RoomAtClient s streamId)
    (hdata : isData ⟨streamId, body⟩ = true →
      s.gateway.outbox.countP isData + s.client.tables.inboundFlow.pendingFrames <
        s.client.tables.inboundFlow.maxPendingFrames) : Inv { s with gateway } := by
  refine ⟨?_, ?_, ?_, ?_⟩
  · intro halive other
    show _ + (gateway.stream other).downstreamQueuedFrames ≤ _
    rw [hqueued other]
    exact h.gateway halive other
  · intro halive other
    have hcount := h.operations halive other
    have hfree := hroom.1
    show gateway.outbox.countP (isOperationOf other) +
      (s.client.stream other).pendingInboundOperations ≤ _
    rw [houtbox, List.countP_append, List.countP_singleton]
    by_cases hother : other = streamId
    · subst hother
      split_ifs <;> omega
    · have hnot : isOperationOf other ⟨streamId, body⟩ = false := by
        simp [isOperationOf, Ne.symm hother]
      rw [hnot]
      simpa using hcount
  · intro halive
    have hfree := hroom.2
    show gateway.outbox.countP isOperation + s.client.applicationOperations.pending ≤
      s.client.applicationOperations.limit
    rw [houtbox, List.countP_append, List.countP_singleton]
    split_ifs <;> omega
  · intro halive
    have hcount := h.frames halive
    show gateway.outbox.countP isData + s.client.tables.inboundFlow.pendingFrames ≤
      s.client.tables.inboundFlow.maxPendingFrames
    rw [houtbox, List.countP_append, List.countP_singleton]
    split_ifs with hsent
    · have hfree := hdata hsent
      omega
    · simpa using hcount

theorem gatewayEvent_inv {limits : Limits} {s s' : State} {event : Gateway.Endpoint.Event}
    (h : Inv s) (hroom : RoomForFrame s (.gateway event))
    (hstep : step limits s (.gateway event) = some s') : Inv s' := by
  obtain ⟨-, ⟨gateway, hevent, rfl⟩ | ⟨fault, -, rfl⟩⟩ := step_gateway hstep
  · cases event with
    | openStream kind methodAllowsBody =>
      simp only [Gateway.Endpoint.step] at hevent
      obtain ⟨opened, hopen, hok⟩ := Option.map_eq_some_iff.mp hevent
      cases hok
      exact openStream_inv h hopen
    | sendGranted =>
      obtain ⟨streamId, bytes, grants, hgrants, rfl⟩ := Gateway.Endpoint.sendGranted_ok hevent
      have hgrant := hroom (streamId, bytes) (by simp [hgrants])
      exact operationSent_inv h rfl (fun _ => rfl) hgrant.1 fun _ => hgrant.2
    | requestEnd streamId =>
      obtain ⟨-, rfl⟩ := Gateway.Endpoint.requestEnd_ok hevent
      refine operationSent_inv h rfl ?_ hroom ?_
      · intro other
        show (Function.update s.gateway.stream streamId _ other).downstreamQueuedFrames = _
        by_cases hother : other = streamId
        · subst hother
          simp
        · simp [hother]
      · intro hdata
        cases hdata
    | take streamId maximumBytes =>
      exact h.answers (Gateway.Endpoint.event_answers hevent (by simp) (by simp) (by simp))
    | endSent streamId =>
      exact h.answers (Gateway.Endpoint.event_answers hevent (by simp) (by simp) (by simp))
    | localReset streamId code =>
      exact h.answers (Gateway.Endpoint.event_answers hevent (by simp) (by simp) (by simp))
    | operation streamId =>
      exact h.answers (Gateway.Endpoint.event_answers hevent (by simp) (by simp) (by simp))
    | announce streamId =>
      exact h.answers (Gateway.Endpoint.event_answers hevent (by simp) (by simp) (by simp))
    | announced streamId =>
      exact h.answers (Gateway.Endpoint.event_answers hevent (by simp) (by simp) (by simp))
  · refine ⟨?_, h.operations, h.pending, h.frames⟩
    intro hfailed
    cases hfailed

theorem Inv.relaxes {s : State} (h : Inv s) {client : Client.Endpoint}
    (hrelaxes : Relaxes s.client client) : Inv { s with client } := by
  obtain ⟨frames, houtbox, hnone⟩ := hrelaxes.outbox
  refine ⟨?_, ?_, ?_, ?_⟩
  · intro halive streamId
    show client.outbox.countP (isDataOf streamId) + _ ≤ _
    rw [houtbox, countP_append_of_none fun frame hframe => by
      simp [isDataOf, hnone frame hframe]]
    exact h.gateway halive streamId
  · intro halive streamId
    have hcount := h.operations halive streamId
    have hfewer := hrelaxes.operations streamId
    show s.gateway.outbox.countP (isOperationOf streamId) +
      (client.stream streamId).pendingInboundOperations ≤ _
    omega
  · intro halive
    have hcount := h.pending halive
    have hfewer := hrelaxes.pending
    show s.gateway.outbox.countP isOperation + client.applicationOperations.pending ≤
      client.applicationOperations.limit
    rw [hrelaxes.limit]
    omega
  · intro halive
    have hcount := h.frames halive
    have hfewer := hrelaxes.pendingFrames
    show s.gateway.outbox.countP isData + client.tables.inboundFlow.pendingFrames ≤
      client.tables.inboundFlow.maxPendingFrames
    rw [hrelaxes.maxPendingFrames]
    omega

theorem clientEvent_inv {limits : Limits} {s s' : State} {event : Client.Endpoint.Event}
    (h : Inv s) (hroom : RoomForFrame s (.client event))
    (hstep : step limits s (.client event) = some s') : Inv s' := by
  obtain ⟨-, ⟨client, hevent, rfl⟩ | ⟨fault, -, rfl⟩⟩ := step_client hstep
  · by_cases hgranted : event = .sendGranted
    · subst hgranted
      obtain ⟨streamId, bytes, grants, hgrants, rfl⟩ := sendGranted_ok hevent
      have hfree : s.client.outbox.countP (isDataOf streamId) +
          (s.gateway.stream streamId).downstreamQueuedFrames <
            Gateway.MAX_PENDING_DOWNSTREAM_FRAMES := hroom (streamId, bytes) (by simp [hgrants])
      refine ⟨?_, h.operations, h.pending, h.frames⟩
      intro halive other
      have hcount := h.gateway halive other
      show (s.client.outbox ++ [(⟨streamId, .data bytes⟩ : StreamFrame)]).countP (isDataOf other) +
        (s.gateway.stream other).downstreamQueuedFrames ≤ _
      rw [List.countP_append, List.countP_singleton]
      by_cases hother : other = streamId
      · subst hother
        split_ifs <;> omega
      · have hnot : isDataOf other ⟨streamId, .data bytes⟩ = false := by
          simp [isDataOf, Ne.symm hother]
        rw [hnot]
        simpa using hcount
    · exact h.relaxes (event_relaxes hevent hgranted)
  · refine ⟨h.gateway, ?_, ?_, ?_⟩
    all_goals intro hfailed
    all_goals cases hfailed

/-- A frame leaves the client's outbox; DATA of a live stream is counted by the gateway. -/
theorem toGateway_inv {limits : Limits} {s s' : State} (h : Inv s)
    (hstep : step limits s .toGateway = some s') : Inv s' := by
  obtain ⟨halive, frame, outbox, houtbox, hhandled⟩ := step_toGateway hstep
  have hpopped : ∀ streamId, outbox.countP (isDataOf streamId) +
      (if isDataOf streamId frame then 1 else 0) +
      (s.gateway.stream streamId).downstreamQueuedFrames ≤
        Gateway.MAX_PENDING_DOWNSTREAM_FRAMES := by
    intro streamId
    have hcount := h.gateway halive streamId
    rw [houtbox, List.countP_cons] at hcount
    exact hcount
  have hdropped : Inv { s with client := { s.client with outbox } } := by
    refine ⟨?_, h.operations, h.pending, h.frames⟩
    intro _ streamId
    have hcount := hpopped streamId
    show outbox.countP (isDataOf streamId) + (s.gateway.stream streamId).downstreamQueuedFrames ≤ _
    omega
  obtain ⟨gateway, hframe, rfl⟩ | ⟨fault, -, rfl⟩ := hhandled
  · obtain ⟨-, -, inboundFlow, -, rfl⟩ | ⟨-, -, haccept⟩ :=
      Gateway.Endpoint.handleClientFrame_ok hframe
    · exact hdropped.answers (Gateway.Endpoint.Answers.of_stream rfl rfl)
    · obtain hanswers | ⟨bytes, reserved, hbody, hreserved, hanswers⟩ :=
        Gateway.Endpoint.acceptActive_answers haccept
      · exact hdropped.answers hanswers
      · obtain ⟨-, inboundFlow, -, rfl⟩ := Gateway.Endpoint.reserveInboundChunk_ok hreserved
        obtain ⟨frames, hadded, hframes⟩ := hanswers.outbox
        refine hdropped.of_gateway ⟨frames, hadded, fun frame hmem =>
          answer_not_operation (hframes frame hmem)⟩ ?_
        intro _ streamId
        have hcount := hpopped streamId
        have hqueued := hanswers.queued streamId
        show outbox.countP (isDataOf streamId) + _ ≤ _
        by_cases hstream : streamId = frame.streamId
        · subst hstream
          have hdata : isDataOf frame.streamId frame = true := by simp [isDataOf, isData, hbody]
          rw [hdata, if_pos rfl] at hcount
          simp only [Gateway.Endpoint.setStream, Function.update_self] at hqueued
          omega
        · simp only [Gateway.Endpoint.setStream, Function.update_of_ne hstream] at hqueued
          omega
  · refine ⟨?_, h.operations, h.pending, h.frames⟩
    intro hfailed
    cases hfailed

/-- A frame leaves the gateway's outbox, and the client counts it at most once. -/
theorem toClient_inv {limits : Limits} {s s' : State} (h : Inv s)
    (hstep : step limits s .toClient = some s') : Inv s' := by
  obtain ⟨halive, frame, outbox, houtbox, ⟨client, hframe, rfl⟩ | ⟨fault, -, rfl⟩⟩ :=
    step_toClient hstep
  · have hcounts := handleGatewayFrame_counts hframe
    refine ⟨?_, ?_, ?_, ?_⟩
    · intro hgateway streamId
      show client.outbox.countP (isDataOf streamId) + _ ≤ _
      rw [hcounts.outbox]
      exact h.gateway hgateway streamId
    · intro _ streamId
      have hcount := h.operations halive streamId
      have hadded := hcounts.operations streamId
      rw [houtbox, List.countP_cons] at hcount
      show outbox.countP (isOperationOf streamId) +
        (client.stream streamId).pendingInboundOperations ≤ _
      omega
    · intro _
      have hcount := h.pending halive
      have hadded := hcounts.pending
      rw [houtbox, List.countP_cons] at hcount
      show outbox.countP isOperation + client.applicationOperations.pending ≤
        client.applicationOperations.limit
      rw [hcounts.limit]
      omega
    · intro _
      have hcount := h.frames halive
      have hadded := hcounts.pendingFrames
      rw [houtbox, List.countP_cons] at hcount
      show outbox.countP isData + client.tables.inboundFlow.pendingFrames ≤
        client.tables.inboundFlow.maxPendingFrames
      rw [hcounts.maxPendingFrames]
      omega
  · refine ⟨h.gateway, ?_, ?_, ?_⟩
    all_goals intro hfailed
    all_goals cases hfailed

theorem step_inv {limits : Limits} (s : State) (a : Label) (s' : State) (h : Inv s)
    (hroom : RoomForFrame s a) (hstep : step limits s a = some s') : Inv s' := by
  cases a with
  | gateway event => exact gatewayEvent_inv h hroom hstep
  | client event => exact clientEvent_inv h hroom hstep
  | toGateway => exact toGateway_inv h hstep
  | toClient => exact toClient_inv h hstep

end FrameCaps

namespace FrameCaps

def unhurried : Limits where
  maxConcurrentStreams := 1
  maxRequestBodyBytes := 1048576
  maxFiniteResponseBytes := 1048576

def ok : ResponseHeaders where
  statusCode := 200
  declaredResponseBytes := none
  eventStream := false

/-- Stream 3 is answered with a body of unknown length. -/
def answered : List Label :=
  [.gateway (.openStream .http true), .toClient, .client (.respond 3 ok), .toGateway]

def oneByte : StreamFrame := ⟨3, .data 1⟩

/-- The gateway has queued so many one-byte chunks of stream 3 for a reviewer that does not
read, and the frames are on their way. -/
structure Flooded (queued : ℕ) (frames : List StreamFrame) (s : State) : Prop where
  gatewayAlive : s.gatewayFailure = none
  clientAlive : s.clientFailure = none
  outbox : s.client.outbox = frames
  grants : s.client.grants = []
  waiters : s.client.tables.outboundFlow.waiters = []
  closed : s.client.tables.outboundFlow.closed = false
  response : (s.client.stream 3).response = true
  responding : (s.client.stream 3).responseEnded = false
  uncancelled : (s.client.stream 3).cancelled = false
  connection : s.client.tables.outboundFlow.connectionAvailable + queued + frames.length =
    INITIAL_CONNECTION_WINDOW_BYTES
  credit : ∃ stream, s.client.tables.outboundFlow.streams.lookup 3 = some stream ∧
    stream.available + queued + frames.length = INITIAL_STREAM_WINDOW_BYTES
  known : 3 ∈ s.gateway.streams
  current : (s.gateway.stream 3).cancelled = false
  accepts : Gateway.Endpoint.refusal (s.gateway.stream 3) = none
  http : (s.gateway.stream 3).kind = .http
  infinite : (s.gateway.stream 3).finiteResponse = false
  queuedFrames : (s.gateway.stream 3).downstreamQueuedFrames = queued
  receiving : s.gateway.inboundFlow.connectionAvailable + queued = INITIAL_CONNECTION_WINDOW_BYTES
  received : ∃ stream, s.gateway.inboundFlow.streams.lookup 3 = some stream ∧
    stream.available + queued = INITIAL_STREAM_WINDOW_BYTES

theorem handOver_flooded {queued : ℕ} {s : State} (h : Flooded queued [] s)
    (hqueued : queued < INITIAL_STREAM_WINDOW_BYTES) :
    ∃ s', Execution.run (step unhurried) s [.client (.take 3 1), .client .sendGranted] = some s' ∧
      Flooded queued [oneByte] s' := by
  obtain ⟨stream, hlookup, hcredit⟩ := h.credit
  have hmem : 3 ∈ s.client.tables.outboundFlow.streams := by
    rw [← AList.lookup_isSome, hlookup]
    rfl
  have hconnection := h.connection
  have hwindow : INITIAL_STREAM_WINDOW_BYTES ≤ INITIAL_CONNECTION_WINDOW_BYTES := by decide
  simp only [List.length_nil, add_zero] at hcredit hconnection
  have hgrantable : min 1 (min stream.available
      s.client.tables.outboundFlow.connectionAvailable) = 1 := by omega
  have htake : s.client.tables.outboundFlow.take 3 1 = .ok
      (s.client.tables.outboundFlow.grant 3 1 stream, [.resolved 3 1]) := by
    simp [OutboundFlowWindow.take, h.closed, hmem, h.waiters, OutboundFlowWindow.drainWaiters,
      OutboundFlowWindow.drainFrom, hlookup, OutboundFlowWindow.grantable, hgrantable,
      OutboundFlowWindow.grant]
  have hstep : step unhurried s (.client (.take 3 1)) = some { s with client := { s.client with
      tables := { s.client.tables with
        outboundFlow := s.client.tables.outboundFlow.grant 3 1 stream }
      grants := [(3, 1)] } } := by
    have hpump : s.client.canPump 3 = true := by
      simp [Client.Endpoint.canPump, Client.Endpoint.isPumping, OutboundFlowWindow.isWaiting,
        h.response, h.responding, h.uncancelled, h.waiters, h.grants]
    have hchunk : 1 ≤ MAX_DATA_CHUNK_BYTES := by decide
    simp [step, h.clientAlive, Client.Endpoint.step, hpump, hchunk, Client.Endpoint.take, htake,
      resolved, h.grants, State.absorbClient]
  have hsent : ∀ s' : State, s'.clientFailure = none → s'.client.grants = [(3, 1)] →
      step unhurried s' (.client .sendGranted) = some { s' with client := { s'.client with
        grants := []
        outbox := s'.client.outbox ++ [oneByte] } } := by
    intro s' halive hgrants
    simp [step, halive, Client.Endpoint.step, hgrants, State.absorbClient, Client.Endpoint.send,
      oneByte]
  refine ⟨{ s with client := { s.client with
    tables := { s.client.tables with
      outboundFlow := s.client.tables.outboundFlow.grant 3 1 stream }
    grants := []
    outbox := s.client.outbox ++ [oneByte] } }, ?_, ?_⟩
  · rw [Execution.run, hstep, Option.bind_some, Execution.run, hsent]
    · rfl
    · exact h.clientAlive
    · rfl
  · exact { h with
      outbox := by
        show s.client.outbox ++ [oneByte] = [oneByte]
        rw [h.outbox]
        rfl
      grants := rfl
      connection := by
        show s.client.tables.outboundFlow.connectionAvailable - 1 + queued + 1 = _
        omega
      credit := by
        refine ⟨⟨stream.available - 1, stream.outstanding + 1⟩, ?_, ?_⟩
        · show AList.lookup 3 (AList.insert 3 _ _) = _
          exact AList.lookup_insert _
        · show stream.available - 1 + queued + 1 = _
          omega }

theorem deliver_flooded {queued : ℕ} {s : State} (h : Flooded queued [oneByte] s)
    (hqueued : queued < Gateway.MAX_PENDING_DOWNSTREAM_FRAMES) :
    ∃ s', step unhurried s .toGateway = some s' ∧ Flooded (queued + 1) [] s' := by
  obtain ⟨stream, hlookup, hcredit⟩ := h.received
  have hreceiving := h.receiving
  have hconnection := h.connection
  have hcap : Gateway.MAX_PENDING_DOWNSTREAM_FRAMES < INITIAL_STREAM_WINDOW_BYTES := by decide
  have hwindow : INITIAL_STREAM_WINDOW_BYTES ≤ INITIAL_CONNECTION_WINDOW_BYTES := by decide
  have hconsume : s.gateway.inboundFlow.consume 3 1 = .ok { s.gateway.inboundFlow with
      connectionAvailable := s.gateway.inboundFlow.connectionAvailable - 1
      streams := s.gateway.inboundFlow.streams.insert 3
        ⟨stream.initial, stream.available - 1, stream.outstanding + 1⟩ } := by
    have hfits : ¬ 1 > stream.available := by omega
    have hconnected : ¬ 1 > s.gateway.inboundFlow.connectionAvailable := by omega
    simp only [GatewayInboundFlow.consume, hlookup, if_neg hfits, if_neg hconnected]
    rfl
  refine ⟨{ s with
    client := { s.client with outbox := [] }
    gateway := ({ s.gateway with
      inboundFlow := { s.gateway.inboundFlow with
        connectionAvailable := s.gateway.inboundFlow.connectionAvailable - 1
        streams := s.gateway.inboundFlow.streams.insert 3
          ⟨stream.initial, stream.available - 1, stream.outstanding + 1⟩ } }).setStream 3
      { s.gateway.stream 3 with
        downstreamQueuedFrames := queued + 1
        responseBytes := (s.gateway.stream 3).responseBytes + 1
        downstreamQueue := (s.gateway.stream 3).downstreamQueue ++ [Operation.data 1] } }, ?_, ?_⟩
  · have hroom : ¬ queued ≥ Gateway.MAX_PENDING_DOWNSTREAM_FRAMES := by omega
    simp [step, h.gatewayAlive, h.outbox, oneByte, Gateway.Endpoint.handleClientFrame, h.known,
      h.current, Gateway.Endpoint.acceptActive, Gateway.Endpoint.acceptData, h.accepts,
      Gateway.Endpoint.reserveInboundChunk, h.queuedFrames, hroom, hconsume,
      Gateway.Endpoint.setStream, h.http, h.infinite, Gateway.Endpoint.enqueue,
      State.absorbGateway]
  · exact { h with
      outbox := rfl
      connection := by
        simp only [List.length_singleton] at hconnection
        show s.client.tables.outboundFlow.connectionAvailable + (queued + 1) + 0 = _
        omega
      credit := by
        obtain ⟨credit, hcredit, hsent⟩ := h.credit
        simp only [List.length_singleton] at hsent
        exact ⟨credit, hcredit, by simp only [List.length_nil]; omega⟩
      current := by simpa [Gateway.Endpoint.setStream] using h.current
      accepts := by simpa [Gateway.Endpoint.setStream, Gateway.Endpoint.refusal] using h.accepts
      http := by simpa [Gateway.Endpoint.setStream] using h.http
      infinite := by simpa [Gateway.Endpoint.setStream] using h.infinite
      queuedFrames := by simp [Gateway.Endpoint.setStream]
      receiving := by
        show s.gateway.inboundFlow.connectionAvailable - 1 + (queued + 1) = _
        omega
      received := by
        refine ⟨⟨stream.initial, stream.available - 1, stream.outstanding + 1⟩, ?_, ?_⟩
        · show AList.lookup 3 (AList.insert 3 _ _) = _
          exact AList.lookup_insert _
        · show stream.available - 1 + (queued + 1) = _
          omega }

theorem deliver_fails {s : State}
    (h : Flooded Gateway.MAX_PENDING_DOWNSTREAM_FRAMES [oneByte] s) :
    ∃ s', step unhurried s .toGateway = some s' ∧ s'.gatewayFailure = some (.thrown
      (.error "inbound DATA frame queue exceeds configured bound")) := by
  refine ⟨{ s with
    client := { s.client with outbox := [] }
    gatewayFailure := some (.thrown (.error
      "inbound DATA frame queue exceeds configured bound")) }, ?_, rfl⟩
  simp [step, h.gatewayAlive, h.outbox, oneByte, Gateway.Endpoint.handleClientFrame, h.known,
    h.current, Gateway.Endpoint.acceptActive, Gateway.Endpoint.acceptData, h.accepts,
    Gateway.Endpoint.reserveInboundChunk, h.queuedFrames, State.absorbGateway]

/-- The local application writes its body in chunks of one byte. -/
def trickle : ℕ → List Label
  | 0 => answered
  | chunks + 1 => trickle chunks ++ [.client (.take 3 1), .client .sendGranted] ++ [.toGateway]

theorem trickle_flooded {chunks : ℕ} (hchunks : chunks ≤ Gateway.MAX_PENDING_DOWNSTREAM_FRAMES) :
    ∃ s, Execution.run (step unhurried) start (trickle chunks) = some s ∧
      Flooded chunks [] s := by
  induction chunks with
  | zero =>
    refine ⟨_, rfl, ?_⟩
    constructor
    all_goals first | rfl | decide
  | succ chunks ih =>
    obtain ⟨s, hrun, hflooded⟩ := ih (by omega)
    have hwindow : Gateway.MAX_PENDING_DOWNSTREAM_FRAMES < INITIAL_STREAM_WINDOW_BYTES := by decide
    obtain ⟨sent, hsent, hoffered⟩ := handOver_flooded hflooded (by omega)
    obtain ⟨s', hdelivered, hnext⟩ := deliver_flooded hoffered (by omega)
    refine ⟨s', ?_, hnext⟩
    rw [trickle, Execution.run_append, Execution.run_append, hrun, Option.bind_some, hsent,
      Option.bind_some, Execution.run, hdelivered]
    rfl

end FrameCaps

end Lotur.Tunnel
