import Lotur.Tunnel.System

/-! Both ends count streams against one limit, but finish them at different moments. The client's
map is compared with the gateway's after the frames that are on their way. -/
namespace Lotur.Tunnel

def isOpen (frame : StreamFrame) : Bool :=
  match frame.body with
  | .openHttp _ => true
  | _ => false

/-- What a frame does to the client's map if it is not rejected. -/
def arrive (streams : Finset ℕ) (frame : StreamFrame) : Finset ℕ :=
  match frame.body with
  | .openHttp _ => insert frame.streamId streams
  | .resetStream _ => streams.erase frame.streamId
  | _ => streams

/-- The streams the client will still hold when the frames on their way have arrived. -/
def clientStreams (s : State) : Finset ℕ := s.gateway.outbox.foldl arrive s.client.tables.streams

/-- The streams that the gateway has finished and the client has not. -/
def leftover (s : State) : Finset ℕ := clientStreams s \ s.gateway.streams

/-- An OPEN_HTTP that the client is about to handle finds room in its map. -/
def LimitHeld (limits : Limits) (s : State) : Prop :=
  ∀ frame outbox, s.gateway.outbox = frame :: outbox → isOpen frame = true →
    s.clientFailure = none → s.client.tables.streams.card < limits.maxConcurrentStreams

/-- A stream is admitted only if there is room for the leftover streams too. -/
def CountsLeftover (limits : Limits) (s : State) : Label → Prop
  | .gateway (.openStream _ _) =>
    s.gateway.streams.card + (leftover s).card < limits.maxConcurrentStreams
  | _ => True

instance (limits : Limits) (s : State) : (a : Label) → Decidable (CountsLeftover limits s a)
  | .gateway (.openStream _ _) => inferInstanceAs (Decidable (_ < _))
  | .gateway (.take _ _) | .gateway .sendGranted | .gateway (.requestEnd _)
  | .gateway (.endSent _) | .gateway (.localReset _ _) | .gateway (.operation _)
  | .gateway (.announce _) | .gateway (.announced _) | .client _ | .toGateway
  | .toClient => isTrue trivial

/-- Every OPEN_HTTP of the list finds room when the frames before it have arrived. -/
def Admissible (maximum : ℕ) : Finset ℕ → List StreamFrame → Prop
  | _, [] => True
  | streams, frame :: rest =>
    (isOpen frame = true → streams.card < maximum) ∧ Admissible maximum (arrive streams frame) rest

theorem arrive_mono {small large : Finset ℕ} (h : small ⊆ large) (frame : StreamFrame) :
    arrive small frame ⊆ arrive large frame := by
  unfold arrive
  split
  · exact Finset.insert_subset_insert _ h
  · exact Finset.erase_subset_erase _ h
  · exact h

theorem Admissible.mono {maximum : ℕ} {small large : Finset ℕ} (h : small ⊆ large)
    {frames : List StreamFrame} (hlarge : Admissible maximum large frames) :
    Admissible maximum small frames := by
  induction frames generalizing small large with
  | nil => trivial
  | cons frame rest ih =>
    constructor
    · intro hopen
      have hcard := Finset.card_le_card h
      have hroom := hlarge.1 hopen
      omega
    · exact ih (arrive_mono h frame) hlarge.2

theorem admissible_append {maximum : ℕ} {streams : Finset ℕ} {frames added : List StreamFrame}
    (h : Admissible maximum streams frames)
    (hadded : Admissible maximum (frames.foldl arrive streams) added) :
    Admissible maximum streams (frames ++ added) := by
  induction frames generalizing streams with
  | nil => exact hadded
  | cons frame rest ih => exact ⟨h.1, ih h.2 hadded⟩

theorem admissible_of_not_open {maximum : ℕ} {streams : Finset ℕ} {frames : List StreamFrame}
    (h : ∀ frame ∈ frames, isOpen frame = false) : Admissible maximum streams frames := by
  induction frames generalizing streams with
  | nil => trivial
  | cons frame rest ih =>
    constructor
    · intro hopen
      rw [h frame List.mem_cons_self] at hopen
      cases hopen
    · exact ih fun other hother => h other (List.mem_cons_of_mem frame hother)

/-! The client only loses streams, except for the one an OPEN_HTTP adds. -/

section Client

open Client

/-- The map shrinks, and it stays within the active ids. -/
structure Shrinks (tables tables' : Tables) : Prop where
  streams : tables'.streams ⊆ tables.streams
  active : tables.streams ⊆ tables.streamLifecycle.active →
    tables'.streams ⊆ tables'.streamLifecycle.active

theorem Shrinks.refl (tables : Tables) : Shrinks tables tables := ⟨subset_rfl, id⟩

theorem Shrinks.trans {first second third : Tables} (h : Shrinks first second)
    (h' : Shrinks second third) : Shrinks first third where
  streams := h'.streams.trans h.streams
  active := fun hactive => h'.active (h.active hactive)

theorem Shrinks.of_flow {tables : Tables} (outboundFlow : OutboundFlowWindow)
    (inboundFlow : InboundFlowWindow) :
    Shrinks tables { tables with outboundFlow, inboundFlow } := ⟨subset_rfl, id⟩

theorem retire_shrinks (tables : Tables) (streamId : ℕ) (stream : ClientStream)
    (closeInbound : InboundFlowWindow → InboundFlowWindow) :
    (retire tables streamId stream closeInbound).tables.streams =
        tables.streams.erase streamId ∧
      Shrinks tables (retire tables streamId stream closeInbound).tables := by
  by_cases hactive : streamId ∈ tables.streamLifecycle.active
  · rw [retire_of_active hactive]
    exact ⟨rfl, Finset.erase_subset _ _, fun h => Finset.erase_subset_erase _ h⟩
  · obtain ⟨error, hretire⟩ := retire_of_not_active hactive stream closeInbound
    rw [hretire]
    exact ⟨rfl, Finset.erase_subset _ _, fun h => (Finset.erase_subset _ _).trans h⟩

theorem maybeDeleteStream_shrinks (tables : Tables) (streamId : ℕ) (stream : ClientStream) :
    Shrinks tables (maybeDeleteStream tables streamId stream).tables := by
  unfold maybeDeleteStream
  split
  · exact (retire_shrinks tables streamId stream _).2
  · exact Shrinks.refl tables

theorem cancelClientStream_shrinks (tables : Tables) (streamId : ℕ) (stream : ClientStream)
    (retirement : RetirementKind) :
    Shrinks tables (cancelClientStream tables streamId stream retirement).tables := by
  unfold cancelClientStream
  split
  · exact Shrinks.refl tables
  · exact (retire_shrinks tables streamId _ _).2

theorem cancelAndReset_shrinks (e : Endpoint) (streamId : ℕ) (code : String) :
    Shrinks e.tables (e.cancelAndReset streamId code).tables := by
  have hcancel := cancelClientStream_shrinks e.tables streamId (e.stream streamId) .localReset
  unfold Endpoint.cancelAndReset
  split
  · exact Shrinks.refl e.tables
  · dsimp only
    split
    · exact hcancel
    · exact hcancel

theorem endSent_shrinks (e : Endpoint) (streamId : ℕ) :
    Shrinks e.tables (e.endSent streamId).tables := by
  have hdelete := maybeDeleteStream_shrinks e.tables streamId (e.stream streamId)
  have hcancel := cancelAndReset_shrinks ({ e with
    endSends := e.endSends.erase streamId }.absorb streamId
      (maybeDeleteStream e.tables streamId (e.stream streamId))) streamId
  unfold Endpoint.endSent
  dsimp only
  split
  · exact hdelete.trans (hcancel _)
  · exact hdelete

theorem release_shrinks {e e' : Endpoint} {streamId bytes : ℕ}
    (h : e.release streamId bytes = .ok e') : Shrinks e.tables e'.tables := by
  obtain ⟨inboundFlow, -, rfl⟩ := Endpoint.release_ok h
  exact Shrinks.of_flow _ inboundFlow

theorem runEnd_shrinks {e e' : Endpoint} {streamId : ℕ} (h : e.runEnd streamId = .ok e') :
    Shrinks e.tables e'.tables := by
  obtain ⟨-, rfl⟩ | ⟨-, -, -, rfl⟩ := Endpoint.runEnd_ok h
  · exact Shrinks.refl e'.tables
  · exact maybeDeleteStream_shrinks e.tables streamId _

theorem event_shrinks {e e' : Endpoint} {event : Endpoint.Event}
    (h : e.step event = some (.ok e')) : Shrinks e.tables e'.tables := by
  cases event with
  | respond streamId headers =>
    simp only [Endpoint.step] at h
    split at h
    · cases h
    · cases h
      exact Shrinks.refl e.tables
  | upgrade streamId headers =>
    simp only [Endpoint.step] at h
    split at h
    · cases h
    · cases h
      exact Shrinks.refl e.tables
  | take streamId maximumBytes =>
    simp only [Endpoint.step] at h
    split at h
    · obtain ⟨taken, htake, hok⟩ := Option.map_eq_some_iff.mp h
      cases hok
      obtain ⟨outboundFlow, settled, -, rfl⟩ := Endpoint.take_some htake
      exact Shrinks.of_flow outboundFlow _
    · cases h
  | sendGranted =>
    simp only [Endpoint.step] at h
    split at h
    · cases h
    · cases h
      exact Shrinks.refl e.tables
  | respondEnd streamId =>
    simp only [Endpoint.step] at h
    split at h
    · cases h
      exact Shrinks.refl e.tables
    · cases h
  | endSent streamId =>
    simp only [Endpoint.step] at h
    split at h
    · cases h
      exact endSent_shrinks e streamId
    · cases h
  | localReset streamId code =>
    simp only [Endpoint.step] at h
    split at h
    · cases h
    · cases h
      exact cancelAndReset_shrinks e streamId code
  | operation streamId =>
    obtain ⟨-, ⟨bytes, rest, -, -, rfl⟩ | ⟨bytes, rest, -, -, hrelease⟩ | ⟨rest, -, hend⟩⟩ :=
      Endpoint.runOperation_ok h
    · exact Shrinks.refl e.tables
    · have hshrinks := release_shrinks hrelease
      exact hshrinks
    · have hshrinks := runEnd_shrinks hend
      exact hshrinks
  | announce streamId =>
    obtain ⟨-, bytes, rest, -, ⟨-, rfl⟩ | ⟨-, rfl⟩⟩ := Endpoint.announce_ok h
    · exact Shrinks.refl e.tables
    · exact Shrinks.refl e.tables
  | announced streamId =>
    obtain ⟨-, bytes, rest, -, ⟨-, rfl⟩ | ⟨-, hrelease⟩⟩ := Endpoint.announced_ok h
    · exact Shrinks.refl e.tables
    · have hshrinks := release_shrinks hrelease
      exact hshrinks

/-- A frame of a live stream only takes streams away, and RESET_STREAM takes its own. -/
theorem acceptActive_shrinks {limits : Client.Limits} {e e' : Endpoint} {frame : StreamFrame}
    (hlive : (e.stream frame.streamId).cancelled = false)
    (h : e.acceptActive limits frame = .ok e') :
    Shrinks e.tables e'.tables ∧
      (∀ code, frame.body = .resetStream code →
        e'.tables.streams = e.tables.streams.erase frame.streamId) := by
  unfold Endpoint.acceptActive at h
  split at h
  · cases h
  · rename_i bytes hbody
    obtain ⟨outboundFlow, settled, -, rfl⟩ := Endpoint.acceptUpdate_ok h
    refine ⟨Shrinks.of_flow outboundFlow _, ?_⟩
    intro code hreset
    rw [hbody] at hreset
    cases hreset
  · rename_i bytes hbody
    obtain ⟨inboundFlow, -, henqueue⟩ := Endpoint.acceptData_ok h
    obtain ⟨-, -, rfl⟩ := Endpoint.enqueue_ok henqueue
    refine ⟨Shrinks.of_flow _ inboundFlow, ?_⟩
    intro code hreset
    rw [hbody] at hreset
    cases hreset
  · rename_i hbody
    obtain ⟨-, -, rfl⟩ := Endpoint.enqueue_ok h
    refine ⟨Shrinks.refl e.tables, ?_⟩
    intro code hreset
    rw [hbody] at hreset
    cases hreset
  · cases h
  · obtain ⟨-, rfl⟩ := Endpoint.acceptReset_ok h
    have hretire := retire_shrinks e.tables frame.streamId
      { e.stream frame.streamId with cancelled := true }
      (fun inboundFlow => inboundFlow.closeStream frame.streamId)
    have hcancel : cancelClientStream e.tables frame.streamId (e.stream frame.streamId)
        .remoteReset = retire e.tables frame.streamId
          { e.stream frame.streamId with cancelled := true }
          (fun inboundFlow => inboundFlow.closeStream frame.streamId) := by
      simp [cancelClientStream, hlive]
    rw [hcancel]
    exact ⟨hretire.2, fun code hbody => hretire.1⟩
  · cases h

/-- The client's map after a frame is within what `arrive` says. -/
theorem handleGatewayFrame_arrives {limits : Client.Limits} {e e' : Endpoint}
    {frame : StreamFrame} (hactive : e.tables.streams ⊆ e.tables.streamLifecycle.active)
    (h : e.handleGatewayFrame limits frame = .ok e') :
    e'.tables.streams ⊆ arrive e.tables.streams frame ∧
      e'.tables.streams ⊆ e'.tables.streamLifecycle.active := by
  obtain ⟨metadata, hbody, hopen⟩ | ⟨hretired, hbody, inboundFlow, -, rfl⟩ |
    ⟨-, -, hlive, hbody, haccept⟩ := Endpoint.handleGatewayFrame_ok h
  · obtain ⟨streamLifecycle, outboundFlow, settled, inboundFlow, hlifecycle, -, -, rfl⟩ :=
      Endpoint.openStream_ok hopen
    have hinserted : streamLifecycle.active =
        insert frame.streamId e.tables.streamLifecycle.active := by
      unfold RemoteStreamLifecycle.openStream at hlifecycle
      split_ifs at hlifecycle
      cases hlifecycle
      rfl
    constructor
    · simp [arrive, hbody]
    · show insert frame.streamId e.tables.streams ⊆ streamLifecycle.active
      rw [hinserted]
      exact Finset.insert_subset_insert _ hactive
  · refine ⟨?_, hactive⟩
    have hgone : frame.streamId ∉ e.tables.streams := by
      intro hmem
      have hnot : frame.streamId ∉ e.tables.streamLifecycle.active := by
        simp only [RemoteStreamLifecycle.isRetired, Bool.and_eq_true, decide_eq_true_eq] at hretired
        exact hretired.2
      exact hnot (hactive hmem)
    unfold arrive
    split
    · rename_i metadata hopened
      exact absurd hopened (hbody metadata)
    · rw [Finset.erase_eq_of_notMem hgone]
    · exact subset_rfl
  · obtain ⟨hshrinks, hreset⟩ := acceptActive_shrinks hlive haccept
    refine ⟨?_, hshrinks.active hactive⟩
    unfold arrive
    split
    · rename_i metadata hopened
      exact absurd hopened (hbody metadata)
    · rename_i code hcode
      rw [hreset code hcode]
    · exact hshrinks.streams

end Client

theorem not_open_of_answer {frame : StreamFrame} (h : frame.IsAnswer) : isOpen frame = false := by
  rcases h with ⟨bytes, hbody⟩ | ⟨code, hbody⟩
  · simp [isOpen, hbody]
  · simp [isOpen, hbody]

/-- The gateway sends OPEN_HTTP only when it admits a stream. -/
theorem gateway_outbox {limits : Gateway.Limits} {e e' : Gateway.Endpoint}
    {event : Gateway.Endpoint.Event}
    (hopens : ∀ kind methodAllowsBody, event ≠ .openStream kind methodAllowsBody)
    (h : e.step limits event = some (.ok e')) :
    ∃ frames, e'.outbox = e.outbox ++ frames ∧ ∀ frame ∈ frames, isOpen frame = false := by
  have hsent : ∀ streamId body, isOpen ⟨streamId, body⟩ = false →
      e'.outbox = e.outbox ++ [⟨streamId, body⟩] →
      ∃ frames, e'.outbox = e.outbox ++ frames ∧ ∀ frame ∈ frames, isOpen frame = false := by
    intro streamId body hbody houtbox
    refine ⟨_, houtbox, ?_⟩
    intro frame hframe
    rw [List.mem_singleton.mp hframe]
    exact hbody
  by_cases hgranted : event = .sendGranted
  · subst hgranted
    obtain ⟨streamId, bytes, grants, -, rfl⟩ := Gateway.Endpoint.sendGranted_ok h
    exact hsent streamId (.data bytes) rfl rfl
  · by_cases hended : ∃ streamId, event = .requestEnd streamId
    · obtain ⟨streamId, rfl⟩ := hended
      obtain ⟨-, rfl⟩ := Gateway.Endpoint.requestEnd_ok h
      exact hsent streamId .endStream rfl rfl
    · have hanswers := Gateway.Endpoint.event_answers h hopens hgranted fun streamId heq =>
        hended ⟨streamId, heq⟩
      obtain ⟨frames, houtbox, hframes⟩ := hanswers.outbox
      exact ⟨frames, houtbox, fun frame hframe => not_open_of_answer (hframes frame hframe)⟩

namespace StreamLimit

/-- While the client handles frames, every OPEN_HTTP on its way finds room. -/
structure Inv (limits : Limits) (s : State) : Prop where
  admissible : s.clientFailure = none →
    Admissible limits.maxConcurrentStreams s.client.tables.streams s.gateway.outbox
  active : s.clientFailure = none →
    s.client.tables.streams ⊆ s.client.tables.streamLifecycle.active

theorem Inv.limitHeld {limits : Limits} {s : State} (h : Inv limits s) : LimitHeld limits s := by
  intro frame outbox houtbox hopen halive
  have hadmissible := h.admissible halive
  rw [houtbox] at hadmissible
  exact hadmissible.1 hopen

theorem start_inv (limits : Limits) : Inv limits start where
  admissible := fun _ => trivial
  active := fun _ => subset_rfl

theorem Inv.gateway {limits : Limits} {s : State} (h : Inv limits s) {gateway : Gateway.Endpoint}
    (hopens : ∃ frames, gateway.outbox = s.gateway.outbox ++ frames ∧
      ∀ frame ∈ frames, isOpen frame = false) : Inv limits { s with gateway } where
  admissible := by
    intro halive
    obtain ⟨frames, houtbox, hnone⟩ := hopens
    show Admissible _ s.client.tables.streams gateway.outbox
    rw [houtbox]
    exact admissible_append (h.admissible halive) (admissible_of_not_open hnone)
  active := h.active

/-- The admitted stream finds room behind everything that is on its way. -/
theorem openStream_inv {limits : Limits} {s : State} (h : Inv limits s)
    {gateway : Gateway.Endpoint} {kind : StreamKind} {methodAllowsBody : Bool}
    (hroom : s.gateway.streams.card + (leftover s).card < limits.maxConcurrentStreams)
    (hopen : s.gateway.openStream limits.gateway kind methodAllowsBody = some gateway) :
    Inv limits { s with gateway } := by
  obtain ⟨-, streamId, streamIds, outboundFlow, settled, inboundFlow, -, -, -, rfl⟩ :=
    Gateway.Endpoint.openStream_some hopen
  refine ⟨?_, h.active⟩
  intro halive
  refine admissible_append (h.admissible halive) ⟨?_, trivial⟩
  intro _
  have hunion : (clientStreams s).card ≤ s.gateway.streams.card + (leftover s).card := by
    rw [add_comm]
    exact Finset.card_le_card_sdiff_add_card
  show (clientStreams s).card < limits.maxConcurrentStreams
  omega

theorem gatewayEvent_inv {limits : Limits} {s s' : State} {event : Gateway.Endpoint.Event}
    (h : Inv limits s) (hcounts : CountsLeftover limits s (.gateway event))
    (hstep : step limits s (.gateway event) = some s') : Inv limits s' := by
  obtain ⟨-, ⟨gateway, hevent, rfl⟩ | ⟨fault, -, rfl⟩⟩ := step_gateway hstep
  · by_cases hopens : ∃ kind methodAllowsBody, event = .openStream kind methodAllowsBody
    · obtain ⟨kind, methodAllowsBody, rfl⟩ := hopens
      simp only [Gateway.Endpoint.step] at hevent
      obtain ⟨opened, hopen, hok⟩ := Option.map_eq_some_iff.mp hevent
      cases hok
      exact openStream_inv h hcounts hopen
    · refine h.gateway (gateway_outbox ?_ hevent)
      intro kind methodAllowsBody heq
      exact hopens ⟨kind, methodAllowsBody, heq⟩
  · exact ⟨h.admissible, h.active⟩

theorem clientEvent_inv {limits : Limits} {s s' : State} {event : Client.Endpoint.Event}
    (h : Inv limits s) (hstep : step limits s (.client event) = some s') : Inv limits s' := by
  obtain ⟨halive, ⟨client, hevent, rfl⟩ | ⟨fault, -, rfl⟩⟩ := step_client hstep
  · have hshrinks := event_shrinks hevent
    refine ⟨?_, ?_⟩
    · intro _
      exact (h.admissible halive).mono hshrinks.streams
    · intro _
      exact hshrinks.active (h.active halive)
  · refine ⟨?_, ?_⟩
    · intro hfailed
      cases hfailed
    · intro hfailed
      cases hfailed

theorem toGateway_inv {limits : Limits} {s s' : State} (h : Inv limits s)
    (hstep : step limits s .toGateway = some s') : Inv limits s' := by
  obtain ⟨-, frame, outbox, -, ⟨gateway, hframe, rfl⟩ | ⟨fault, -, rfl⟩⟩ := step_toGateway hstep
  · obtain ⟨frames, houtbox, hframes⟩ := Gateway.Endpoint.handleClientFrame_outbox hframe
    have hkept := h.gateway ⟨frames, houtbox, fun frame hmem =>
      not_open_of_answer (hframes frame hmem)⟩
    exact ⟨hkept.admissible, hkept.active⟩
  · exact ⟨h.admissible, h.active⟩

theorem toClient_inv {limits : Limits} {s s' : State} (h : Inv limits s)
    (hstep : step limits s .toClient = some s') : Inv limits s' := by
  obtain ⟨halive, frame, outbox, houtbox, ⟨client, hframe, rfl⟩ | ⟨fault, -, rfl⟩⟩ :=
    step_toClient hstep
  · have hadmissible := h.admissible halive
    rw [houtbox] at hadmissible
    obtain ⟨hwithin, hactive⟩ := handleGatewayFrame_arrives (h.active halive) hframe
    exact ⟨fun _ => hadmissible.2.mono hwithin, fun _ => hactive⟩
  · refine ⟨?_, ?_⟩
    · intro hfailed
      cases hfailed
    · intro hfailed
      cases hfailed

theorem step_inv {limits : Limits} (s : State) (a : Label) (s' : State) (h : Inv limits s)
    (hcounts : CountsLeftover limits s a) (hstep : step limits s a = some s') :
    Inv limits s' := by
  cases a with
  | gateway event => exact gatewayEvent_inv h hcounts hstep
  | client event => exact clientEvent_inv h hstep
  | toGateway => exact toGateway_inv h hstep
  | toClient => exact toClient_inv h hstep

end StreamLimit

namespace StreamLimit

def oneStream : Limits where
  maxConcurrentStreams := 1
  maxRequestBodyBytes := 1024
  maxFiniteResponseBytes := 1024

def ok : ResponseHeaders where
  statusCode := 200
  declaredResponseBytes := none
  eventStream := false

/-- The local application stops reading a request body of one byte and answers all the same:
the DATA and END operations of stream 3 stay queued while the gateway finishes the stream. -/
def answeredEarly : List Label :=
  [.gateway (.openStream .http true), .toClient, .gateway (.take 3 1), .gateway .sendGranted,
    .toClient, .gateway (.requestEnd 3), .toClient, .gateway (.endSent 3),
    .client (.respond 3 ok), .client (.respondEnd 3), .client (.endSent 3),
    .toGateway, .toGateway, .gateway (.operation 3)]

end StreamLimit

end Lotur.Tunnel
