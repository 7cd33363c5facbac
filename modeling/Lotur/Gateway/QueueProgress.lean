import Lotur.Gateway.ReceiveQueue

/-! When the head of a receive queue waits for credit: only if the connection window was used up
at a `take` of a pending head. The probe never waits, and the stream's own window is never used
up by a head. -/
namespace Lotur.Gateway

/-- Two records of a stream at the same stage of an upgrade. -/
structure GatewayStream.SameStage (stream other : GatewayStream) : Prop where
  kind : other.kind = stream.kind
  responseStarted : other.responseStarted = stream.responseStarted
  upgraded : other.upgraded = stream.upgraded

theorem GatewayStream.SameStage.refl (stream : GatewayStream) : stream.SameStage stream :=
  ⟨rfl, rfl, rfl⟩

namespace Endpoint

variable {e e' : Endpoint} {i bytes : ℕ} {limits : Limits}

/-- What an endpoint does that asks for credit or opens a stream for the askers alone, and
upgrades no other. -/
structure Yields (askers : Set ℕ) (e e' : Endpoint) : Prop where
  window : OutboundFlowWindow.Relieves askers e.outboundFlow e'.outboundFlow
  grants : ∃ grants, e'.grants = e.grants ++ grants
  ids : e.streamIds.highestIssuedStreamId ≤ e'.streamIds.highestIssuedStreamId
  streams : ∀ i ∉ askers, i ∈ e'.streams → i ∈ e.streams
  stage : ∀ i ∉ askers, (e.stream i).SameStage (e'.stream i)

variable {askers : Set ℕ}

theorem Yields.trans {e'' : Endpoint} (h : Yields askers e e') (h' : Yields askers e' e'') :
    Yields askers e e'' := by
  obtain ⟨first, hfirst⟩ := h.grants
  obtain ⟨second, hsecond⟩ := h'.grants
  refine ⟨h.window.trans h'.window, ⟨first ++ second, ?_⟩, h.ids.trans h'.ids, ?_, ?_⟩
  · rw [hsecond, hfirst, List.append_assoc]
  · intro i hi hmem
    exact h.streams i hi (h'.streams i hi hmem)
  · intro i hi
    exact ⟨(h'.stage i hi).kind.trans (h.stage i hi).kind,
      (h'.stage i hi).responseStarted.trans (h.stage i hi).responseStarted,
      (h'.stage i hi).upgraded.trans (h.stage i hi).upgraded⟩

theorem Yields.of_same (hwindow : e'.outboundFlow = e.outboundFlow) (hgrants : e'.grants = e.grants)
    (hids : e'.streamIds = e.streamIds) (hstreams : e'.streams = e.streams)
    (hstage : ∀ i, (e.stream i).SameStage (e'.stream i)) : Yields askers e e' := by
  refine ⟨?_, ⟨[], by rw [hgrants, List.append_nil]⟩, by rw [hids], ?_, fun i _ => hstage i⟩
  · rw [hwindow]
    exact .refl _
  · intro i _ hmem
    rwa [hstreams] at hmem

theorem setStream_stage {record : GatewayStream} (h : (e.stream i).SameStage record) (j : ℕ) :
    (e.stream j).SameStage ((e.setStream i record).stream j) := by
  by_cases hj : j = i
  · subst hj
    simpa [setStream] using h
  · simpa [setStream, hj] using GatewayStream.SameStage.refl (e.stream j)

theorem setStream_yields {record : GatewayStream} (h : (e.stream i).SameStage record) :
    Yields ∅ e (e.setStream i record) := .of_same rfl rfl rfl rfl (setStream_stage h)

theorem closeOutbound_yields (e : Endpoint) (i : ℕ) : Yields ∅ e (e.closeOutbound i) :=
  ⟨OutboundFlowWindow.closeStream_relieves _ _, ⟨_, rfl⟩, le_rfl, fun _ _ => id,
    fun _ _ => ⟨rfl, rfl, rfl⟩⟩

theorem remove_yields {retirement : RetirementKind} (h : e.remove i retirement = .ok e') :
    Yields ∅ e e' := by
  obtain ⟨inboundFlow, -, rfl⟩ := remove_ok h
  exact ⟨OutboundFlowWindow.closeStream_relieves _ _, ⟨_, rfl⟩, le_rfl,
    fun _ _ => Finset.mem_of_mem_erase, fun _ _ => ⟨rfl, rfl, rfl⟩⟩

theorem send_yields (e : Endpoint) (i : ℕ) (body : FrameBody) : Yields ∅ e (e.send i body) :=
  .of_same rfl rfl rfl rfl fun _ => ⟨rfl, rfl, rfl⟩

theorem setCancelled_yields (e : Endpoint) (i : ℕ) : Yields ∅ e (e.setCancelled i) :=
  setStream_yields ⟨rfl, rfl, rfl⟩

theorem cancelAndReset_yields {code : String} (h : e.cancelAndReset i code = .ok e') :
    Yields ∅ e e' := by
  obtain ⟨removed, hremoved, rfl⟩ := cancelAndReset_ok h
  have hkept := (setCancelled_yields e i).trans (remove_yields hremoved)
  exact hkept.trans (send_yields removed i _)

theorem maybeDeleteStream_yields (h : e.maybeDeleteStream i = .ok e') : Yields ∅ e e' := by
  obtain ⟨-, hremoved⟩ | rfl := maybeDeleteStream_ok h
  · exact remove_yields hremoved
  · exact .of_same rfl rfl rfl rfl fun _ => ⟨rfl, rfl, rfl⟩

theorem release_yields (h : e.release i bytes = .ok e') : Yields ∅ e e' := by
  obtain ⟨inboundFlow, -, rfl⟩ | hcancelled := release_ok h
  · exact .of_same rfl rfl rfl rfl (setStream_stage ⟨rfl, rfl, rfl⟩)
  · exact cancelAndReset_yields hcancelled

theorem popOperation_yields (e : Endpoint) (i : ℕ) (rest : List Operation) :
    Yields ∅ e (e.popOperation i rest) := setStream_yields ⟨rfl, rfl, rfl⟩

theorem runEnd_yields (h : e.runEnd i = .ok e') : Yields ∅ e e' := by
  obtain rfl | ⟨-, hdeleted⟩ := runEnd_ok h
  · exact .of_same rfl rfl rfl rfl fun _ => ⟨rfl, rfl, rfl⟩
  · have hended : Yields ∅ e (e.setStream i { e.stream i with responseFinished := true }) :=
      setStream_yields ⟨rfl, rfl, rfl⟩
    exact hended.trans (maybeDeleteStream_yields hdeleted)

theorem runOperation_yields (h : e.runOperation i = some (.ok e')) : Yields ∅ e e' := by
  obtain ⟨-, ⟨bytes, rest, -, ⟨-, rfl⟩ | ⟨-, hrelease⟩⟩ | ⟨rest, -, hend⟩⟩ := runOperation_ok h
  · exact popOperation_yields e i rest
  · have hsent := (popOperation_yields e i rest).trans
      (send_yields (e.popOperation i rest) i (.windowUpdate (.ok bytes)))
    exact hsent.trans (release_yields hrelease)
  · exact (popOperation_yields e i rest).trans (runEnd_yields hend)

theorem announce_yields (h : e.announce i = some e') : Yields ∅ e e' := by
  obtain ⟨-, bytes, rest, -, ⟨-, rfl⟩ | ⟨-, rfl⟩⟩ := announce_some h
  · exact .of_same rfl rfl rfl rfl fun _ => ⟨rfl, rfl, rfl⟩
  · exact popOperation_yields e i rest

theorem announced_yields (h : e.announced i = some (.ok e')) : Yields ∅ e e' := by
  obtain ⟨-, bytes, rest, -, hrest⟩ := announced_ok h
  have hpopped : Yields ∅ e { e.popOperation i rest with crediting := e.crediting.erase i } :=
    .of_same rfl rfl rfl rfl (setStream_stage ⟨rfl, rfl, rfl⟩)
  obtain ⟨-, hrelease⟩ | ⟨-, rfl⟩ := hrest
  · exact hpopped.trans (release_yields hrelease)
  · exact hpopped

theorem endSent_yields (h : e.endSent i = .ok e') : Yields ∅ e e' := by
  have herased : Yields ∅ e { e with endSends := e.endSends.erase i } :=
    .of_same rfl rfl rfl rfl fun _ => ⟨rfl, rfl, rfl⟩
  obtain rfl | ⟨-, hdeleted⟩ := endSent_ok h
  · exact herased
  · exact herased.trans (maybeDeleteStream_yields hdeleted)

/-- A stream event yields unless it opens a stream, asks for credit or sends what it was
granted. -/
theorem event_yields {event : Event} (h : e.step limits event = some (.ok e'))
    (hopens : ∀ kind methodAllowsBody, event ≠ .openStream kind methodAllowsBody)
    (hgranted : event ≠ .sendGranted) (htakes : ∀ i bytes, event ≠ .take i bytes) :
    Yields ∅ e e' := by
  cases event with
  | openStream kind methodAllowsBody => exact absurd rfl (hopens kind methodAllowsBody)
  | sendGranted => exact absurd rfl hgranted
  | take i bytes => exact absurd rfl (htakes i bytes)
  | requestEnd i =>
    obtain ⟨-, rfl⟩ := requestEnd_ok h
    exact .of_same rfl rfl rfl rfl (setStream_stage ⟨rfl, rfl, rfl⟩)
  | endSent i =>
    simp only [step] at h
    split at h
    · exact endSent_yields (Option.some.inj h)
    · cases h
  | localReset i code =>
    simp only [step] at h
    split at h
    · exact cancelAndReset_yields (Option.some.inj h)
    · cases h
  | operation i => exact runOperation_yields h
  | announce i =>
    simp only [step] at h
    obtain ⟨announced, hannounce, hok⟩ := Option.map_eq_some_iff.1 h
    cases hok
    exact announce_yields hannounce
  | announced i => exact announced_yields h

theorem acceptUpdate_yields (h : e.acceptUpdate i bytes = .ok e') : Yields ∅ e e' := by
  obtain ⟨outboundFlow, settled, hupdate, rfl⟩ := acceptUpdate_ok h
  exact ⟨OutboundFlowWindow.update_relieves hupdate, ⟨_, rfl⟩, le_rfl, fun _ _ => id,
    fun _ _ => ⟨rfl, rfl, rfl⟩⟩

theorem take_yields {maximumBytes : ℕ} (h : e.take i maximumBytes = some e') :
    Yields {i} e e' := by
  obtain ⟨outboundFlow, settled, htake, rfl⟩ := take_some h
  exact ⟨OutboundFlowWindow.take_relieves htake, ⟨_, rfl⟩, le_rfl, fun _ _ => id,
    fun _ _ => .refl _⟩

/-- A new stream has the next id and a whole window. -/
theorem openStream_yields (hstarved : e.outboundFlow.Starved) {kind : StreamKind}
    {methodAllowsBody : Bool} (h : e.openStream limits kind methodAllowsBody = some e') :
    e.streamIds.highestIssuedStreamId < e.streamIds.next ∧
      Yields {e.streamIds.next} e e' ∧
      e'.streamIds.highestIssuedStreamId = e.streamIds.next ∧
      e'.stream e.streamIds.next = .opened kind methodAllowsBody ∧
      e'.outboundFlow.isWaiting e.streamIds.next = false ∧
      e'.outboundFlow.streams.lookup e.streamIds.next = some ⟨INITIAL_STREAM_WINDOW_BYTES, 0⟩ := by
  obtain ⟨-, streamId, streamIds, outboundFlow, settled, inboundFlow, hissue, houtbound, -, rfl⟩ :=
    openStream_some h
  obtain ⟨rfl, hhighest, hnew⟩ : streamId = e.streamIds.next ∧
      streamIds.highestIssuedStreamId = streamId ∧
        e.streamIds.highestIssuedStreamId < streamId := by
    unfold GatewayStreamIds.issue at hissue
    split_ifs at hissue
    cases hissue
    refine ⟨rfl, rfl, ?_⟩
    unfold GatewayStreamIds.next
    split_ifs with hfirst <;> omega
  obtain ⟨hidle, hlookup⟩ := OutboundFlowWindow.openStream_fresh hstarved houtbound
  refine ⟨hnew, ⟨OutboundFlowWindow.openStream_relieves houtbound, ⟨_, rfl⟩, ?_, ?_, ?_⟩, hhighest,
    Function.update_self _ _ _, hidle, hlookup⟩
  · exact hnew.le.trans hhighest.ge
  · intro i hi hmem
    exact (Finset.mem_insert.1 hmem).resolve_left hi
  · intro i hi
    have hother : Function.update e.stream e.streamIds.next (.opened kind methodAllowsBody) i =
        e.stream i := Function.update_of_ne hi _ _
    exact ⟨congrArg GatewayStream.kind hother, congrArg GatewayStream.responseStarted hother,
      congrArg GatewayStream.upgraded hother⟩

theorem setStream_self_yields (e : Endpoint) (i : ℕ) (record : GatewayStream) :
    Yields {i} e (e.setStream i record) := by
  refine ⟨.refl _, ⟨[], (List.append_nil _).symm⟩, le_rfl, fun _ _ => id, ?_⟩
  intro j hj
  have hother : (e.setStream i record).stream j = e.stream j := Function.update_of_ne hj _ _
  rw [hother]
  exact .refl _

theorem enqueue_yields (e : Endpoint) (i : ℕ) (operation : Operation) :
    Yields ∅ e (e.enqueue i operation) := setStream_yields ⟨rfl, rfl, rfl⟩

theorem reserveInboundChunk_yields (h : e.reserveInboundChunk i bytes = .ok e') :
    Yields ∅ e e' := by
  obtain ⟨-, inboundFlow, -, rfl⟩ := reserveInboundChunk_ok h
  exact .of_same rfl rfl rfl rfl (setStream_stage ⟨rfl, rfl, rfl⟩)

theorem acceptData_yields (h : e.acceptData limits i bytes = .ok e') : Yields ∅ e e' := by
  unfold acceptData at h
  split at h
  · cases h
  · split at h
    · cases h
    · rename_i reserved hreserved
      have hyields := reserveInboundChunk_yields hreserved
      have hcounted : Yields ∅ reserved (reserved.setStream i { reserved.stream i with
          responseBytes := (reserved.stream i).responseBytes + bytes }) :=
        setStream_yields ⟨rfl, rfl, rfl⟩
      dsimp only at h
      split at h
      · cases h
        exact hyields.trans (enqueue_yields reserved i _)
      · split at h
        · exact (hyields.trans hcounted).trans (cancelAndReset_yields h)
        · cases h
          exact (hyields.trans hcounted).trans (enqueue_yields _ i _)

theorem acceptEnd_yields (h : e.acceptEnd i = .ok e') : Yields ∅ e e' := by
  rw [acceptEnd_ok h]
  have hended : Yields ∅ e (e.setStream i { e.stream i with responseEnded := true }) :=
    setStream_yields ⟨rfl, rfl, rfl⟩
  exact hended.trans (enqueue_yields _ i _)

/-- What RESPONSE_HEADERS leave: the stream is reset, or it has started, upgraded if it is a
websocket and the status is 101. -/
theorem acceptHeaders_cases {metadata : Except JsError ResponseHeaders}
    (h : e.acceptHeaders limits i metadata = .ok e') :
    ∃ headers, metadata = .ok headers ∧ (e.stream i).responseStarted = false ∧
      (((e.stream i).kind = .websocket ∧ e' = e.setStream i { e.stream i with
          responseStarted := true
          upgraded := headers.statusCode = 101 }) ∨
        ((e.stream i).kind = .http ∧ (Yields ∅ e e' ∨ ∃ record, e' = e.setStream i record ∧
          record.kind = .http ∧ record.responseStarted = true ∧
          record.upgraded = (e.stream i).upgraded))) := by
  unfold acceptHeaders at h
  split at h
  · cases h
  · rename_i hstarted
    split at h
    · cases h
    · rename_i headers
      refine ⟨headers, rfl, by simpa using hstarted, ?_⟩
      split at h
      · rename_i hkind
        refine Or.inr ⟨hkind, ?_⟩
        unfold acceptHttpHeaders at h
        dsimp only at h
        split at h
        · have hset : Yields ∅ e (e.setStream i { e.stream i with
              finiteResponse := responseCanHaveBody (e.stream i).methodAllowsBody
                headers.statusCode && isFiniteHttpResponse headers
              responseBodyAllowed := responseCanHaveBody (e.stream i).methodAllowsBody
                headers.statusCode }) := setStream_yields ⟨rfl, rfl, rfl⟩
          exact Or.inl (hset.trans (cancelAndReset_yields h))
        · cases h
          exact Or.inr ⟨_, rfl, hkind, rfl, rfl⟩
      · rename_i hkind
        cases h
        exact Or.inl ⟨hkind, rfl⟩

/-- A frame of the active carrier yields, unless it is a response of a live stream. -/
theorem handleClientFrame_yields {frame : StreamFrame}
    (h : e.handleClientFrame limits frame = .ok e')
    (hbody : ∀ metadata, frame.body = .responseHeaders metadata → frame.streamId ∉ e.streams) :
    Yields ∅ e e' := by
  obtain ⟨-, -, inboundFlow, -, rfl⟩ | ⟨hmem, -, haccept⟩ := handleClientFrame_ok h
  · exact .of_same rfl rfl rfl rfl fun _ => ⟨rfl, rfl, rfl⟩
  · unfold acceptActive at haccept
    split at haccept
    · cases haccept
    · exact acceptUpdate_yields haccept
    · rename_i metadata hheaders
      exact absurd hmem (hbody metadata hheaders)
    · exact acceptData_yields haccept
    · exact acceptEnd_yields haccept
    · cases haccept
    · exact (setCancelled_yields e _).trans (remove_yields haccept)
    · cases haccept

theorem handleClientFrame_headers {frame : StreamFrame} {metadata : Except JsError ResponseHeaders}
    (h : e.handleClientFrame limits frame = .ok e') (hbody : frame.body = .responseHeaders metadata)
    (hmem : frame.streamId ∈ e.streams) :
    e.acceptHeaders limits frame.streamId metadata = .ok e' := by
  obtain ⟨-, hgone, -⟩ | ⟨-, -, haccept⟩ := handleClientFrame_ok h
  · exact absurd hmem hgone
  · simpa only [acceptActive, hbody] using haccept

end Endpoint

namespace ReceiveQueue

variable {limits : Limits} {q q' : ReceiveQueue} {i : ℕ}

/-- What holds while the head of the queue was never left without credit. Who waits is an HTTP
stream or an upgraded one, so an upgrade finds the window of its stream untouched, and that window
holds the whole head. -/
structure Ready (q : ReceiveQueue) : Prop where
  starved : q.endpoint.outboundFlow.Starved
  unblocked : ∀ send, q.handler = some send →
    q.endpoint.outboundFlow.isWaiting send.streamId = false
  pumps : ∀ i, q.endpoint.outboundFlow.isWaiting i = true →
    (q.endpoint.stream i).kind = .http ∨ (q.endpoint.stream i).upgraded = true
  staged : ∀ i, (q.endpoint.stream i).upgraded = true →
    (q.endpoint.stream i).responseStarted = true
  fresh : ∀ i ∈ q.endpoint.streams, (q.endpoint.stream i).kind = .websocket →
    (q.endpoint.stream i).responseStarted = false →
      ∀ credit, q.endpoint.outboundFlow.streams.lookup i = some credit →
        q.pendingHead i ≤ credit.available
  issued : ∀ i ∈ q.endpoint.streams, i ≤ q.endpoint.streamIds.highestIssuedStreamId
  started : ∀ send, q.handler = some send →
    send.streamId ≤ q.endpoint.streamIds.highestIssuedStreamId ∧
      (send.streamId ∈ q.endpoint.streams →
        (q.endpoint.stream send.streamId).responseStarted = true)
  remaining : ∀ send, q.handler = some send →
    ∀ credit, q.endpoint.outboundFlow.streams.lookup send.streamId = some credit →
      send.remaining ≤ credit.available + granted q.endpoint.grants send.streamId
  connection : q.activation ≠ .active → ∀ send, q.handler = some send →
    send.remaining ≤ q.endpoint.outboundFlow.connectionAvailable +
      granted q.endpoint.grants send.streamId
  early : q.activation ≠ .active → q.endpoint.streams = ∅
  configuring : q.activation = .configuring →
    q.handler = none ∧ q.endpoint.outboundFlow = .new INITIAL_CONNECTION_WINDOW_BYTES

/-- When no handler runs, nothing is to be known of its send. -/
theorem Ready.idle (h : q.Ready) (hhandler : q'.handler = none)
    (hendpoint : q'.endpoint = q.endpoint) (hheads : q'.pendingHead = q.pendingHead)
    (hactivation : q'.activation = q.activation) : q'.Ready := by
  have hnone : ∀ send, q'.handler ≠ some send := by
    intro send hsend
    rw [hhandler] at hsend
    cases hsend
  refine ⟨?_, fun send hsend => absurd hsend (hnone send), ?_, ?_, ?_, ?_,
    fun send hsend => absurd hsend (hnone send), fun send hsend => absurd hsend (hnone send),
    fun _ send hsend => absurd hsend (hnone send), ?_, ?_⟩
  all_goals simp only [hendpoint, hheads, hactivation]
  · exact h.starved
  · exact h.pumps
  · exact h.staged
  · exact h.fresh
  · exact h.issued
  · exact h.early
  · exact fun hphase => ⟨hhandler, (h.configuring hphase).2⟩

theorem Ready.fail (h : q.Ready) : q.fail.Ready := h.idle rfl rfl rfl rfl

/-- The entries and the failure flag play no part in it. -/
theorem Ready.queued (h : q.Ready) (entries : List QueueEntry) (receiveFailed : Bool) :
    Ready { q with entries, receiveFailed } :=
  ⟨h.starved, h.unblocked, h.pumps, h.staged, h.fresh, h.issued, h.started, h.remaining,
    h.connection, h.early, h.configuring⟩

/-- A stream whose response has not started does not wait. -/
theorem Ready.fresh_idle (h : q.Ready) (hkind : (q.endpoint.stream i).kind = .websocket)
    (hstarted : (q.endpoint.stream i).responseStarted = false) :
    q.endpoint.outboundFlow.isWaiting i = false := by
  by_contra hwaiting
  rcases h.pumps i (by simpa using hwaiting) with hhttp | hupgraded
  · rw [hkind] at hhttp
    cases hhttp
  · rw [h.staged i hupgraded] at hstarted
    cases hstarted

/-- An active endpoint keeps it through everything that yields, when the askers are no handler
and come out of it as they should. -/
theorem Ready.yields (h : q.Ready) {askers : Set ℕ} {e' : Endpoint} {pendingHead : ℕ → ℕ}
    (hactive : q.activation = .active) (hyields : Endpoint.Yields askers q.endpoint e')
    (hheads : ∀ i ∉ askers, pendingHead i = q.pendingHead i)
    (hhandler : ∀ send, q.handler = some send → send.streamId ∉ askers)
    (hpumps : ∀ i ∈ askers, e'.outboundFlow.isWaiting i = true →
      (e'.stream i).kind = .http ∨ (e'.stream i).upgraded = true)
    (hstaged : ∀ i ∈ askers, (e'.stream i).upgraded = true →
      (e'.stream i).responseStarted = true)
    (hfresh : ∀ i ∈ askers, i ∈ e'.streams → (e'.stream i).kind = .websocket →
      (e'.stream i).responseStarted = false → ∀ credit,
        e'.outboundFlow.streams.lookup i = some credit → pendingHead i ≤ credit.available)
    (hissued : ∀ i ∈ askers, i ∈ e'.streams → i ≤ e'.streamIds.highestIssuedStreamId) :
    Ready { q with endpoint := e', pendingHead } := by
  refine ⟨hyields.window.starved h.starved, ?_, ?_, ?_, ?_, ?_, ?_, ?_,
    fun hphase => absurd hactive hphase, fun hphase => absurd hactive hphase, ?_⟩
  · intro send hsend
    exact hyields.window.idle (hhandler send hsend) (h.unblocked send hsend)
  · intro i hwaiting
    by_cases hi : i ∈ askers
    · exact hpumps i hi hwaiting
    · have hstage := hyields.stage i hi
      rw [hstage.kind, hstage.upgraded]
      exact h.pumps i (hyields.window.waiting i hi hwaiting)
  · intro i hupgraded
    by_cases hi : i ∈ askers
    · exact hstaged i hi hupgraded
    · have hstage := hyields.stage i hi
      rw [hstage.responseStarted]
      exact h.staged i (hstage.upgraded ▸ hupgraded)
  · intro i hmem hkind hstarted credit' hlookup
    by_cases hi : i ∈ askers
    · exact hfresh i hi hmem hkind hstarted credit' hlookup
    · have hstage := hyields.stage i hi
      have hkind' : (q.endpoint.stream i).kind = .websocket := hstage.kind ▸ hkind
      have hstarted' : (q.endpoint.stream i).responseStarted = false :=
        hstage.responseStarted ▸ hstarted
      obtain ⟨credit, hcredit, hle⟩ := hyields.window.credit i hi credit'
        (h.fresh_idle hkind' hstarted') hlookup
      have hhead := h.fresh i (hyields.streams i hi hmem) hkind' hstarted' credit hcredit
      show pendingHead i ≤ credit'.available
      rw [hheads i hi]
      exact hhead.trans hle
  · intro i hmem
    by_cases hi : i ∈ askers
    · exact hissued i hi hmem
    · exact (h.issued i (hyields.streams i hi hmem)).trans hyields.ids
  · intro send hsend
    have hi := hhandler send hsend
    obtain ⟨hissued', hstarted⟩ := h.started send hsend
    refine ⟨hissued'.trans hyields.ids, ?_⟩
    intro hmem
    show (e'.stream send.streamId).responseStarted = true
    rw [(hyields.stage send.streamId hi).responseStarted]
    exact hstarted (hyields.streams _ hi hmem)
  · intro send hsend credit' hlookup
    have hi := hhandler send hsend
    obtain ⟨credit, hcredit, hle⟩ := hyields.window.credit send.streamId hi credit'
      (h.unblocked send hsend) hlookup
    have hremaining := h.remaining send hsend credit hcredit
    obtain ⟨grants, hgrants⟩ := hyields.grants
    show send.remaining ≤ credit'.available + granted e'.grants send.streamId
    rw [hgrants, granted_append, Finsupp.add_apply]
    omega
  · intro hphase
    rw [show q.activation = .configuring from hphase] at hactive
    cases hactive

/-- The same when nobody asks. -/
theorem Ready.quiet (h : q.Ready) {e' : Endpoint} (hactive : q.activation = .active)
    (hyields : Endpoint.Yields ∅ q.endpoint e') : Ready { q with endpoint := e' } :=
  h.yields hactive hyields (fun _ _ => rfl) (fun _ _ hmem => hmem) (fun _ hmem => hmem.elim)
    (fun _ hmem => hmem.elim) (fun _ hmem => hmem.elim) (fun _ hmem => hmem.elim)

/-- The condition under which the head of the queue is served: a 101 that goes on to send its head
finds some of the connection window left. -/
def FindsCredit (q : ReceiveQueue) : QueueEvent → Prop
  | .handlerTake => q.activation = .active → 0 < q.endpoint.outboundFlow.connectionAvailable
  | _ => True

instance (q : ReceiveQueue) (event : QueueEvent) : Decidable (q.FindsCredit event) := by
  cases event <;> unfold FindsCredit <;> infer_instance

theorem throws_ready (h : Ready { q with handler := none }) (i : ℕ) :
    (q.handlerThrows i).Ready := by
  unfold handlerThrows
  split
  · rename_i hactive
    split
    · split
      · exact h.fail
      · rename_i endpoint hreset
        exact h.quiet hactive (Endpoint.cancelAndReset_yields hreset)
    · exact h
  · exact h.fail

theorem granted_of_idle {e : Endpoint} (h : e.isPumping i = false) : granted e.grants i = 0 := by
  have hnone : ∀ grant ∈ e.grants, grant.1 ≠ i := by
    have hgrants := (Bool.or_eq_false_iff.1 h).2
    simpa using hgrants
  generalize e.grants = grants at hnone
  induction grants with
  | nil => rfl
  | cons grant grants ih =>
    have hhead := hnone grant List.mem_cons_self
    rw [granted_cons, Finsupp.add_apply, Finsupp.single_eq_of_ne hhead.symm, zero_add]
    exact ih fun other hother => hnone other (List.mem_cons_of_mem _ hother)

/-- The handler is granted credit: what its window lost is on its way. -/
theorem Ready.granted (h : q.Ready) {send : PendingSend} (hsend : q.handler = some send)
    {credit : StreamCredit} {bytes : ℕ}
    (hlookup : q.endpoint.outboundFlow.streams.lookup send.streamId = some credit)
    (hstream : bytes ≤ credit.available)
    (hconnection : bytes ≤ q.endpoint.outboundFlow.connectionAvailable) :
    Ready { q with endpoint := { q.endpoint with
      outboundFlow := q.endpoint.outboundFlow.grant send.streamId bytes credit
      grants := q.endpoint.grants ++ [(send.streamId, bytes)] } } := by
  have hmore : Lotur.granted (q.endpoint.grants ++ [(send.streamId, bytes)]) send.streamId =
      Lotur.granted q.endpoint.grants send.streamId + bytes := by
    simp
  refine ⟨fun waiter hwaiter => (h.starved waiter hwaiter).grant hlookup, h.unblocked, h.pumps,
    h.staged, ?_, h.issued, h.started, ?_, ?_, h.early, ?_⟩
  · intro i hmem hkind hstarted credit' hlookup'
    have hi : i ≠ send.streamId := by
      rintro rfl
      rw [(h.started send hsend).2 hmem] at hstarted
      cases hstarted
    rw [show AList.lookup i (q.endpoint.outboundFlow.grant send.streamId bytes credit).streams =
      AList.lookup i q.endpoint.outboundFlow.streams from AList.lookup_insert_ne hi] at hlookup'
    exact h.fresh i hmem hkind hstarted credit' hlookup'
  · intro other hother credit' hlookup'
    obtain rfl := Option.some.inj (hsend.symm.trans hother)
    have heq : (⟨credit.available - bytes, credit.outstanding + bytes⟩ : StreamCredit) =
        credit' := by simpa [OutboundFlowWindow.grant] using hlookup'
    have hremaining := h.remaining send hsend credit hlookup
    show send.remaining ≤ credit'.available + Lotur.granted _ send.streamId
    rw [hmore, ← heq]
    dsimp only
    omega
  · intro hphase other hother
    obtain rfl := Option.some.inj (hsend.symm.trans hother)
    have hle := h.connection hphase send hsend
    show send.remaining ≤ q.endpoint.outboundFlow.connectionAvailable - bytes +
      Lotur.granted _ send.streamId
    rw [hmore]
    omega
  · intro hphase
    rw [(h.configuring hphase).1] at hsend
    cases hsend

theorem handlerTake_ready (h : q.Ready) (hcredit : q.FindsCredit .handlerTake)
    (hstep : q.handlerTake = some q') : q'.Ready := by
  obtain ⟨send, hsend, hstep⟩ := Option.bind_eq_some_iff.1 hstep
  split at hstep
  · cases hstep
  · rename_i hmore
    simp only [not_or, Bool.not_eq_true] at hmore
    have hidle := h.unblocked send hsend
    split at hstep
    · rename_i endpoint htaken
      cases hstep
      obtain ⟨outboundFlow, settled, htake, rfl⟩ := Endpoint.take_some htaken
      obtain ⟨credit, hlookup⟩ := OutboundFlowWindow.take_lookup htake
      have hgranted := granted_of_idle hmore.2
      have hremaining := h.remaining send hsend credit hlookup
      rw [hgranted] at hremaining
      have hconnection : 0 < q.endpoint.outboundFlow.connectionAvailable := by
        by_cases hactive : q.activation = .active
        · exact hcredit hactive
        · have hle := h.connection hactive send hsend
          rw [hgranted] at hle
          omega
      obtain ⟨rfl, rfl⟩ := OutboundFlowWindow.take_granted h.starved hlookup hconnection
        (by omega) htake
      refine h.granted hsend hlookup ?_ ?_ <;>
      · unfold OutboundFlowWindow.grantable
        omega
    · cases hstep
      exact throws_ready (h.idle rfl rfl rfl rfl) _

theorem sendGranted_ready (h : q.Ready) (hstep : q.sendGranted = some q') : q'.Ready := by
  unfold sendGranted at hstep
  split at hstep
  · cases hstep
  · rename_i streamId bytes grants hgrants
    cases hstep
    -- what goes out is what is no longer to be sent
    have hsent : ∀ (send : PendingSend) available, send.remaining ≤ available +
        Lotur.granted q.endpoint.grants send.streamId →
      (if send.streamId = streamId then
        { send with remaining := send.remaining - bytes } else send).remaining ≤
          available + Lotur.granted grants send.streamId := by
      intro send available hle
      rw [hgrants, granted_cons, Finsupp.add_apply, Finsupp.single_apply] at hle
      split_ifs with hsame
      · rw [if_pos hsame.symm] at hle
        dsimp only
        omega
      · rw [if_neg fun heq => hsame heq.symm] at hle
        omega
    have hhandler : ∀ sent, (q.handler.map fun send => if send.streamId = streamId then
        { send with remaining := send.remaining - bytes } else send) = some sent →
        ∃ send, q.handler = some send ∧ sent.streamId = send.streamId ∧
          sent = if send.streamId = streamId then
            { send with remaining := send.remaining - bytes } else send := by
      intro sent hsome
      obtain ⟨send, hsend, rfl⟩ := Option.map_eq_some_iff.1 hsome
      refine ⟨send, hsend, ?_, rfl⟩
      split_ifs <;> rfl
    refine ⟨h.starved, ?_, h.pumps, h.staged, h.fresh, h.issued, ?_, ?_, ?_, h.early, ?_⟩
    · intro sent hsome
      obtain ⟨send, hsend, hid, -⟩ := hhandler sent hsome
      rw [hid]
      exact h.unblocked send hsend
    · intro sent hsome
      obtain ⟨send, hsend, hid, -⟩ := hhandler sent hsome
      rw [hid]
      exact h.started send hsend
    · intro sent hsome credit hlookup
      obtain ⟨send, hsend, hid, hsent'⟩ := hhandler sent hsome
      rw [hid] at hlookup ⊢
      rw [hsent']
      exact hsent send _ (h.remaining send hsend credit hlookup)
    · intro hphase sent hsome
      obtain ⟨send, hsend, hid, hsent'⟩ := hhandler sent hsome
      rw [hid, hsent']
      exact hsent send _ (h.connection hphase send hsend)
    · intro hphase
      obtain ⟨hnone, hwindow⟩ := h.configuring hphase
      exact ⟨by rw [hnone]; rfl, hwindow⟩

theorem handlerRefused_ready (h : q.Ready) (hstep : q.handlerRefused = some q') : q'.Ready := by
  obtain ⟨send, hsend, hstep⟩ := Option.bind_eq_some_iff.1 hstep
  split at hstep
  · cases hstep
  · rename_i streamId bytes grants hgrants
    split_ifs at hstep
    cases hstep
    have hnone : ∀ send, (none : Option PendingSend) ≠ some send := fun _ hsome => by cases hsome
    have hdropped : Ready { q with endpoint := { q.endpoint with grants }, handler := none } :=
      ⟨h.starved, fun send hsome => absurd hsome (hnone send), h.pumps, h.staged, h.fresh,
        h.issued, fun send hsome => absurd hsome (hnone send),
        fun send hsome => absurd hsome (hnone send),
        fun _ send hsome => absurd hsome (hnone send), h.early,
        fun hphase => ⟨rfl, (h.configuring hphase).2⟩⟩
    exact throws_ready hdropped streamId

theorem openRequest_ready (h : q.Ready) {kind : StreamKind} {methodAllowsBody : Bool} {head : ℕ}
    (hstep : q.openRequest limits kind methodAllowsBody head = some q') : q'.Ready := by
  unfold openRequest at hstep
  split at hstep
  · cases hstep
  · rename_i hopen
    simp only [not_or, not_not, Nat.not_lt] at hopen
    obtain ⟨endpoint, hendpoint, rfl⟩ := Option.map_eq_some_iff.1 hstep
    obtain ⟨hnew, hyields, hhighest, hrecord, hidle, hlookup⟩ :=
      Endpoint.openStream_yields h.starved hendpoint
    refine h.yields hopen.1 hyields ?_ ?_ ?_ ?_ ?_ ?_
    · intro i hi
      exact Function.update_of_ne hi _ _
    · intro send hsend hmem
      have hissued := (h.started send hsend).1
      rw [Set.mem_singleton_iff.1 hmem] at hissued
      omega
    · rintro i rfl hwaiting
      rw [hidle] at hwaiting
      cases hwaiting
    · rintro i rfl hupgraded
      rw [hrecord] at hupgraded
      cases hupgraded
    · rintro i rfl - - - credit hcredit
      obtain rfl := Option.some.inj (hlookup.symm.trans hcredit)
      rw [Function.update_self]
      exact hopen.2
    · rintro i rfl -
      exact hhighest.ge

/-- Only a stream that may pump asks for credit, and not the one of a handler that still sends. -/
theorem take_ready (h : q.Ready) (hactive : q.activation = .active) {i maximumBytes : ℕ}
    (hforwarding : q.isForwarding (.take i maximumBytes) = false) (hpump : q.endpoint.canPump i)
    {endpoint : Endpoint} (htake : q.endpoint.take i maximumBytes = some endpoint) :
    Ready { q with endpoint } := by
  have hsame : endpoint.stream = q.endpoint.stream ∧ endpoint.streams = q.endpoint.streams ∧
      endpoint.streamIds = q.endpoint.streamIds := by
    obtain ⟨outboundFlow, settled, -, rfl⟩ := Endpoint.take_some htake
    exact ⟨rfl, rfl, rfl⟩
  have hpumps : (q.endpoint.stream i).kind = .http ∨ (q.endpoint.stream i).upgraded = true := by
    simp only [Endpoint.canPump, Bool.and_eq_true, Bool.or_eq_true, decide_eq_true_eq] at hpump
    exact hpump.1.2
  refine h.yields hactive (Endpoint.take_yields htake) (fun _ _ => rfl) ?_ ?_ ?_ ?_ ?_
  · rintro send hsend rfl
    simp [isForwarding, hsend] at hforwarding
  · rintro j rfl -
    rw [hsame.1]
    exact hpumps
  · rintro j rfl hupgraded
    rw [hsame.1] at hupgraded ⊢
    exact h.staged j hupgraded
  · rintro j rfl - hkind hstarted
    rw [hsame.1] at hkind hstarted
    rcases hpumps with hhttp | hupgraded
    · rw [hkind] at hhttp
      cases hhttp
    · rw [h.staged j hupgraded] at hstarted
      cases hstarted
  · rintro j rfl hmem
    rw [hsame.2.1] at hmem
    rw [hsame.2.2]
    exact h.issued j hmem

theorem streamEvent_ready (h : q.Ready) {event : Endpoint.Event}
    (hstep : q.streamEvent limits event = some q') : q'.Ready := by
  unfold streamEvent at hstep
  split at hstep
  · cases hstep
  · cases hstep
  · rename_i hopens hgranted
    split at hstep
    · cases hstep
    · rename_i hallowed
      simp only [not_or, not_not, Bool.not_eq_true] at hallowed
      obtain ⟨hactive, hforwarding⟩ := hallowed
      split at hstep
      · cases hstep
      · cases hstep
        exact h.queued q.entries true
      · rename_i endpoint hevent
        cases hstep
        by_cases htakes : ∃ i bytes, event = .take i bytes
        · obtain ⟨i, bytes, rfl⟩ := htakes
          simp only [Endpoint.step] at hevent
          split at hevent
          · rename_i hpump
            obtain ⟨taken, htaken, hok⟩ := Option.map_eq_some_iff.1 hevent
            cases hok
            exact take_ready h hactive hforwarding hpump.1 htaken
          · cases hevent
        · exact h.quiet hactive (Endpoint.event_yields hevent hopens (fun heq => hgranted heq)
            fun i bytes heq => htakes ⟨i, bytes, heq⟩)

/-- Before activation there are no streams, and a handler that has returned leaves no send. -/
theorem Ready.handshake (h : q.Ready) (hphase : q.activation ≠ .active)
    (hhandler : q'.handler = none) (hyields : Endpoint.Yields ∅ q.endpoint q'.endpoint)
    (hnext : q'.activation ≠ .configuring) : q'.Ready := by
  have hnone : ∀ send, q'.handler ≠ some send := by
    intro send hsend
    rw [hhandler] at hsend
    cases hsend
  have hstage := fun i => hyields.stage i (Set.notMem_empty i)
  have hstreams : q'.endpoint.streams = ∅ := by
    refine Finset.eq_empty_of_forall_notMem fun i hmem => ?_
    have hold := hyields.streams i (Set.notMem_empty i) hmem
    rw [h.early hphase] at hold
    exact Finset.notMem_empty i hold
  refine ⟨hyields.window.starved h.starved, fun send hsend => absurd hsend (hnone send), ?_, ?_, ?_,
    ?_, fun send hsend => absurd hsend (hnone send), fun send hsend => absurd hsend (hnone send),
    fun _ send hsend => absurd hsend (hnone send), fun _ => hstreams,
    fun hconfiguring => absurd hconfiguring hnext⟩
  · intro i hwaiting
    rw [(hstage i).kind, (hstage i).upgraded]
    exact h.pumps i (hyields.window.waiting i (Set.notMem_empty i) hwaiting)
  · intro i hupgraded
    rw [(hstage i).upgraded] at hupgraded
    rw [(hstage i).responseStarted]
    exact h.staged i hupgraded
  · intro i hmem
    rw [hstreams] at hmem
    cases hmem
  · intro i hmem
    rw [hstreams] at hmem
    cases hmem

theorem configApplied_ready (h : q.Ready) (accepted : Bool) :
    (q.configApplied accepted).Ready := by
  unfold configApplied
  split
  · rename_i hphase
    split
    · exact h.fail
    · rename_i streamId streamIds hissue
      split
      · rename_i outboundFlow settled inboundFlow houtbound hinbound
        rw [(h.configuring hphase).2] at houtbound
        obtain ⟨hconnection, hwaiters, hlookup⟩ := OutboundFlowWindow.openStream_new houtbound
        have hstreams := h.early (by rw [hphase]; simp)
        have hidle : ∀ i, outboundFlow.isWaiting i = false := by
          intro i
          rw [OutboundFlowWindow.isWaiting, hwaiters]
          rfl
        have hhighest : streamId ≤ streamIds.highestIssuedStreamId := by
          unfold GatewayStreamIds.issue at hissue
          split_ifs at hissue
          cases hissue
          exact le_rfl
        refine ⟨?_, fun send _ => hidle send.streamId, ?_, h.staged, ?_, ?_, ?_, ?_, ?_,
          fun _ => hstreams, fun hconfiguring => by cases hconfiguring⟩
        · intro waiter hwaiter
          rw [show outboundFlow.waiters = [] from hwaiters] at hwaiter
          cases hwaiter
        · intro i hwaiting
          exact absurd ((hidle i).symm.trans hwaiting) (by decide)
        · intro i hmem
          rw [show q.endpoint.streams = ∅ from hstreams] at hmem
          cases hmem
        · intro i hmem
          rw [show q.endpoint.streams = ∅ from hstreams] at hmem
          cases hmem
        · intro send hsend
          obtain rfl := Option.some.inj hsend
          refine ⟨hhighest, fun hmem => ?_⟩
          rw [show q.endpoint.streams = ∅ from hstreams] at hmem
          cases hmem
        · intro send hsend credit hcredit
          obtain rfl := Option.some.inj hsend
          obtain rfl := Option.some.inj (hlookup.symm.trans hcredit)
          show 32 ≤ 65536 + _
          omega
        · intro _ send hsend
          obtain rfl := Option.some.inj hsend
          show 32 ≤ outboundFlow.connectionAvailable + _
          rw [hconnection, INITIAL_CONNECTION_WINDOW_BYTES]
          omega
      · exact h.fail
  · exact h

theorem handleProbeFrame_ready (h : q.Ready) (hhandler : q.handler = none) {probe : RelayProbe}
    (hphase : q.activation = .probing probe) {accepted : Bool} {frame : StreamFrame}
    (hframe : q.handleProbeFrame probe accepted frame = .ok q') : q'.Ready := by
  have hearly : q.activation ≠ .active := by
    rw [hphase]
    simp
  have hsame : ∀ {e' : Endpoint}, e'.outboundFlow = q.endpoint.outboundFlow →
      e'.grants = q.endpoint.grants → e'.streamIds = q.endpoint.streamIds →
      e'.streams = q.endpoint.streams → e'.stream = q.endpoint.stream →
      Endpoint.Yields ∅ q.endpoint e' := by
    intro e' hwindow hgrants hids hstreams hstream
    refine .of_same hwindow hgrants hids hstreams fun i => ?_
    rw [hstream]
    exact .refl _
  unfold handleProbeFrame at hframe
  split at hframe
  · cases hframe
  · split at hframe
    · cases hframe
    · split at hframe
      · cases hframe
      · rename_i endpoint hupdate
        cases hframe
        refine h.handshake hearly hhandler (Endpoint.acceptUpdate_yields hupdate) ?_
        rw [show _ = q.activation from rfl, hphase]
        simp
    · unfold probeData at hframe
      split at hframe
      · cases hframe
      · split_ifs at hframe
        split at hframe
        · cases hframe
        · cases hframe
          exact h.handshake hearly hhandler (hsame rfl rfl rfl rfl rfl) (by simp)
    · split_ifs at hframe
      · unfold activate at hframe
        split at hframe
        · cases hframe
        · cases hframe
          have hclosed := Endpoint.closeOutbound_yields q.endpoint probe.streamId
          refine h.handshake hearly hhandler ?_ (by simp)
          exact ⟨hclosed.window, hclosed.grants, hclosed.ids, hclosed.streams, hclosed.stage⟩
      · cases hframe
        exact h.handshake hearly hhandler (hsame rfl rfl rfl rfl rfl) (by simp)
    · cases hframe

/-- A first response changes the record of its stream. -/
theorem record_ready (h : q.Ready) (hactive : q.activation = .active)
    (hhandler : q.handler = none) (hmem : i ∈ q.endpoint.streams) {record : GatewayStream}
    (hpumps : q.endpoint.outboundFlow.isWaiting i = true → record.kind = .http)
    (hstarted : record.responseStarted = true) :
    Ready { q with endpoint := q.endpoint.setStream i record } := by
  have hself : (q.endpoint.setStream i record).stream i = record := Function.update_self _ _ _
  refine h.yields hactive (Endpoint.setStream_self_yields q.endpoint i record) (fun _ _ => rfl)
    ?_ ?_ ?_ ?_ ?_
  · intro send hsend
    rw [hhandler] at hsend
    cases hsend
  · rintro j rfl hwaiting
    rw [hself]
    exact Or.inl (hpumps hwaiting)
  · rintro j rfl -
    rw [hself]
    exact hstarted
  · rintro j rfl - - hunstarted
    rw [hself, hstarted] at hunstarted
    cases hunstarted
  · rintro j rfl -
    exact h.issued j hmem

/-- A 101 starts its send on a window that nothing was taken of. -/
theorem headers_ready (h : q.Ready) (hactive : q.activation = .active)
    (hhandler : q.handler = none) {frame : StreamFrame} {metadata : Except JsError ResponseHeaders}
    (hbody : frame.body = .responseHeaders metadata) (hmem : frame.streamId ∈ q.endpoint.streams)
    {endpoint : Endpoint}
    (haccept : q.endpoint.acceptHeaders limits frame.streamId metadata = .ok endpoint) :
    Ready { q with endpoint, handler := q.startsSending frame } := by
  obtain ⟨headers, rfl, hunstarted, hcases⟩ := Endpoint.acceptHeaders_cases haccept
  rcases hcases with ⟨hkind, rfl⟩ | ⟨hkind, hhttp⟩
  · have hidle := h.fresh_idle hkind hunstarted
    have hready : Ready { q with
        endpoint := q.endpoint.setStream frame.streamId { q.endpoint.stream frame.streamId with
          responseStarted := true
          upgraded := headers.statusCode = 101 } } :=
      record_ready h hactive hhandler hmem
        (fun hwaiting => absurd (hidle.symm.trans hwaiting) (by decide)) rfl
    cases hsending : q.startsSending frame with
    | none => exact hready.idle rfl rfl rfl rfl
    | some send =>
      obtain rfl : send = ⟨frame.streamId, q.pendingHead frame.streamId⟩ := by
        simp only [startsSending, hbody] at hsending
        split_ifs at hsending
        exact (Option.some.inj hsending).symm
      refine ⟨hready.starved, ?_, hready.pumps, hready.staged, hready.fresh, hready.issued, ?_, ?_,
        fun hphase => absurd hactive hphase, hready.early, ?_⟩
      · intro send hsend
        obtain rfl := Option.some.inj hsend
        exact hidle
      · intro send hsend
        obtain rfl := Option.some.inj hsend
        refine ⟨h.issued _ hmem, fun _ => ?_⟩
        show (Function.update q.endpoint.stream frame.streamId _
          frame.streamId).responseStarted = true
        rw [Function.update_self]
      · intro send hsend credit hlookup
        obtain rfl := Option.some.inj hsend
        exact (h.fresh _ hmem hkind hunstarted credit hlookup).trans (Nat.le_add_right _ _)
      · intro hphase
        rw [show q.activation = .configuring from hphase] at hactive
        cases hactive
  · have hnone : q.startsSending frame = none := by
      simp [startsSending, hbody, hkind]
    rw [hnone]
    rcases hhttp with hyields | ⟨record, rfl, hrecord, hstarted, -⟩
    · exact (h.quiet hactive hyields).idle rfl rfl rfl rfl
    · exact (record_ready h hactive hhandler hmem (fun _ => hrecord) hstarted).idle rfl rfl rfl rfl

theorem handleFrame_ready (h : q.Ready) (hhandler : q.handler = none) (accepted : Bool)
    (frame : StreamFrame) : (q.handleFrame limits accepted frame).Ready := by
  unfold handleFrame
  split
  · exact h.fail
  · exact h.fail
  · rename_i probe hphase
    split
    · exact h.fail
    · rename_i next hnext
      exact handleProbeFrame_ready h hhandler hphase hnext
  · rename_i hactive
    split
    · exact h.fail
    · rename_i endpoint hendpoint
      by_cases hheaders : ∃ metadata, frame.body = .responseHeaders metadata ∧
          frame.streamId ∈ q.endpoint.streams
      · obtain ⟨metadata, hbody, hmem⟩ := hheaders
        exact headers_ready h hactive hhandler hbody hmem
          (Endpoint.handleClientFrame_headers hendpoint hbody hmem)
      · have hnone : q.startsSending frame = none := by
          unfold startsSending
          split
          · rename_i headers hbody
            have hgone : frame.streamId ∉ q.endpoint.streams :=
              fun hmem => hheaders ⟨_, hbody, hmem⟩
            simp [hgone]
          · rfl
        rw [hnone]
        have hyields := Endpoint.handleClientFrame_yields hendpoint
          fun metadata hbody hmem => hheaders ⟨metadata, hbody, hmem⟩
        exact (h.quiet hactive hyields).idle rfl rfl rfl rfl

theorem dispatch_ready (h : q.Ready) {accepted : Bool}
    (hstep : q.dispatch limits accepted = some q') : q'.Ready := by
  unfold dispatch at hstep
  split at hstep
  · cases hstep
  · rename_i hrunning
    have hhandler : q.handler = none := by simpa using hrunning
    split at hstep
    · cases hstep
    · rename_i entry entries hentries
      have hnext := h.queued entries q.receiveFailed
      dsimp only at hstep
      split at hstep
      · cases hstep
        exact hnext
      · cases hstep
        cases entry with
        | control => exact hnext
        | invalid => exact hnext.fail
        | configApplied => exact configApplied_ready hnext accepted
        | frame frame => exact handleFrame_ready hnext hhandler accepted frame

theorem carrierLost_ready (h : q.Ready) : q.carrierLost.Ready := by
  have hidle : ∀ i, q.carrierLost.endpoint.outboundFlow.isWaiting i = false := fun _ => rfl
  refine ⟨nofun, nofun, ?_, h.staged, ?_, ?_, nofun, nofun, nofun, fun _ => rfl, nofun⟩
  · intro i hwaiting
    exact absurd ((hidle i).symm.trans hwaiting) (by decide)
  · exact fun i hmem => absurd hmem (Finset.notMem_empty i)
  · exact fun i hmem => absurd hmem (Finset.notMem_empty i)

/-- One step keeps it. -/
theorem step_ready {event : QueueEvent} (h : q.Ready) (hcredit : q.FindsCredit event)
    (hstep : q.step limits event = some q') : q'.Ready := by
  cases event with
  | receive entry =>
    simp only [step] at hstep
    split_ifs at hstep
    cases hstep
    exact h.queued (q.entries ++ [entry]) q.receiveFailed
  | dispatch accepted => exact dispatch_ready h hstep
  | handlerTake => exact handlerTake_ready h hcredit hstep
  | handlerRefused => exact handlerRefused_ready h hstep
  | handlerReturn =>
    obtain ⟨send, hsend, hstep⟩ := Option.bind_eq_some_iff.1 hstep
    split_ifs at hstep
    cases hstep
    exact h.idle rfl rfl rfl rfl
  | sendGranted => exact sendGranted_ready h hstep
  | openRequest kind methodAllowsBody head => exact openRequest_ready h hstep
  | stream event => exact streamEvent_ready h hstep
  | carrierLost =>
    cases hstep
    exact carrierLost_ready h

theorem start_ready (maxPendingCarrierFrames : ℕ) : (start maxPendingCarrierFrames).Ready := by
  refine ⟨nofun, nofun, fun _ _ => Or.inl rfl, nofun, ?_, ?_, nofun, nofun, nofun, fun _ => rfl,
    fun _ => ⟨rfl, rfl⟩⟩
  · exact fun i hmem => absurd hmem (Finset.notMem_empty i)
  · exact fun i hmem => absurd hmem (Finset.notMem_empty i)

theorem Ready.not_blocked (h : q.Ready) : q.isBlocked = false := by
  unfold isBlocked
  cases hhandler : q.handler with
  | none => rfl
  | some send => exact h.unblocked send hhandler

/-- The probe of a new transport, from CONFIG_APPLIED to activation. -/
def probed : List QueueEvent :=
  [.receive .configApplied, .dispatch true, .handlerTake, .sendGranted, .handlerReturn,
    .receive (.frame ⟨1, .windowUpdate (.ok 32)⟩), .receive (.frame ⟨1, .data 32⟩),
    .receive (.frame ⟨1, .endStream⟩), .dispatch true, .dispatch true, .dispatch true]

/-- A request body that fills the window of its stream. -/
def upload (i : ℕ) : List QueueEvent :=
  [.openRequest .http true 0, .stream (.take i 32768), .sendGranted, .stream (.take i 32768),
    .sendGranted]

/-- An upgrade whose request came with one more byte is answered with 101. -/
def upgrade (i : ℕ) : List QueueEvent :=
  [.openRequest .websocket true 1, .receive (.frame ⟨i, .responseHeaders (.ok ⟨101, none, false⟩)⟩),
    .dispatch true, .handlerTake]

def roomy : Limits where
  maxConcurrentStreams := 100
  maxFiniteResponseBytes := 1000000

end ReceiveQueue

end Lotur.Gateway
