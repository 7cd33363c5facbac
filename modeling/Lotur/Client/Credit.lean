import Lotur.Client.Endpoint
import Lotur.Relay.Accounts

/-! The client's end as a port of the credit protocol: every event and every frame is a move of
that port, as long as a stream that ended on both sides has nothing outstanding when it goes. -/
namespace Lotur.Client

open CreditProtocol

namespace Endpoint

noncomputable def accounts (e : Endpoint) : Accounts where
  outboundFlow := e.tables.outboundFlow
  grants := e.grants
  retired := e.tables.streamLifecycle.isRetired
  held := e.tables.inboundFlow.held
  crediting := e.crediting
  queue := fun i => (e.stream i).inboundQueue
  outbox := e.outbox

end Endpoint

/-- The tables agree on the live streams, a cancelled stream is not one of them, and ids that
were not opened have nothing queued. -/
structure Coherent (tables : Tables) (stream : ℕ → ClientStream) : Prop where
  inbound : tables.inboundFlow.Balanced INITIAL_STREAM_WINDOW_BYTES INITIAL_CONNECTION_WINDOW_BYTES
  inboundStreams : ∀ i, i ∈ tables.inboundFlow.streams ↔ i ∈ tables.streamLifecycle.active
  outboundStreams : ∀ i, i ∈ tables.outboundFlow.streams → i ∈ tables.streamLifecycle.active
  active : ∀ i ∈ tables.streamLifecycle.active,
    0 < i ∧ i ≤ tables.streamLifecycle.highestOpenedStreamId ∧ i % 2 = 1
  cancelled : ∀ i ∈ tables.streamLifecycle.active, (stream i).cancelled = false
  fresh : ∀ i, tables.streamLifecycle.highestOpenedStreamId < i → (stream i).inboundQueue = []

theorem Coherent.update {tables : Tables} {stream : ℕ → ClientStream} (h : Coherent tables stream)
    {i : ℕ} {record : ClientStream}
    (hcancelled : i ∈ tables.streamLifecycle.active → record.cancelled = false)
    (hfresh : tables.streamLifecycle.highestOpenedStreamId < i → record.inboundQueue = []) :
    Coherent tables (Function.update stream i record) := by
  refine ⟨h.inbound, h.inboundStreams, h.outboundStreams, h.active, ?_, ?_⟩
  · intro j hj
    by_cases hij : j = i
    · subst hij
      rw [Function.update_self]
      exact hcancelled hj
    · rw [Function.update_of_ne hij]
      exact h.cancelled j hj
  · intro j hj
    by_cases hij : j = i
    · subst hij
      rw [Function.update_self]
      exact hfresh hj
    · rw [Function.update_of_ne hij]
      exact h.fresh j hj

namespace Endpoint

structure Sound (e : Endpoint) : Prop where
  accounts : e.accounts.Sound
  coherent : Coherent e.tables e.stream

variable {e e' : Endpoint} {i bytes : ℕ}

theorem queue_update (records : ℕ → ClientStream) (i : ℕ) (stream : ClientStream) :
    (fun j => (Function.update records i stream j).inboundQueue) =
      Function.update (fun j => (records j).inboundQueue) i stream.inboundQueue := by
  funext j
  by_cases hj : j = i
  · subst hj
    simp
  · simp [hj]

theorem queue_kept {records : ℕ → ClientStream} {stream : ClientStream}
    (h : stream.inboundQueue = (records i).inboundQueue) :
    (fun j => (Function.update records i stream j).inboundQueue) =
      fun j => (records j).inboundQueue := by
  rw [queue_update, h]
  exact Function.update_eq_self i _

theorem not_retired_of_active (hactive : i ∈ e.tables.streamLifecycle.active) :
    e.tables.streamLifecycle.isRetired i = false := by
  simp [RemoteStreamLifecycle.isRetired, hactive]

/-- The record of one stream changes, its queue does not. -/
theorem Sound.update (h : e.Sound) {stream : ClientStream}
    (hqueue : stream.inboundQueue = (e.stream i).inboundQueue)
    (hcancelled : i ∈ e.tables.streamLifecycle.active → stream.cancelled = false) :
    ({ e with stream := Function.update e.stream i stream } : Endpoint).Sound ∧
      ({ e with stream := Function.update e.stream i stream } : Endpoint).accounts =
        e.accounts := by
  have haccounts : ({ e with stream := Function.update e.stream i stream } : Endpoint).accounts =
      e.accounts := by
    unfold Endpoint.accounts
    rw [queue_kept hqueue]
  refine ⟨⟨haccounts ▸ h.accounts, h.coherent.update hcancelled ?_⟩, haccounts⟩
  exact fun hnew => hqueue.trans (h.coherent.fresh i hnew)

/-- The frames on their way and the sends under way concern no table. -/
theorem Sound.outbox (h : e.Sound) (outbox : List StreamFrame) (endSends : Finset ℕ) :
    ({ e with outbox, endSends } : Endpoint).Sound :=
  ⟨⟨h.accounts.balanced, h.accounts.positive, h.accounts.queued, h.accounts.waiting,
    h.accounts.retired⟩, h.coherent⟩

theorem isRetired_erase (h : e.Sound) (hactive : i ∈ e.tables.streamLifecycle.active) :
    RemoteStreamLifecycle.isRetired { e.tables.streamLifecycle with
      active := e.tables.streamLifecycle.active.erase i } =
      fun j => e.tables.streamLifecycle.isRetired j || j = i := by
  obtain ⟨hpositive, hopened, hodd⟩ := h.coherent.active i hactive
  funext j
  unfold RemoteStreamLifecycle.isRetired
  by_cases hj : j = i
  · subst hj
    simp [hpositive, hopened, hodd]
  · simp [hj]

/-- Retiring a live stream closes its accounts. -/
theorem absorb_retire (h : e.Sound) (hactive : i ∈ e.tables.streamLifecycle.active)
    (stream : ClientStream) (closeInbound : InboundFlowWindow → InboundFlowWindow)
    (hqueue : stream.inboundQueue = (e.stream i).inboundQueue)
    (hclose : InboundFlowWindow.Holds INITIAL_STREAM_WINDOW_BYTES INITIAL_CONNECTION_WINDOW_BYTES
      (e.tables.inboundFlow.held.erase i) (fun j => j ≠ i ∧ j ∈ e.tables.inboundFlow.streams)
      (closeInbound e.tables.inboundFlow)) :
    (e.absorb i (retire e.tables i stream closeInbound)).Sound ∧
      (e.absorb i (retire e.tables i stream closeInbound)).accounts =
        e.accounts.close i (e.tables.outboundFlow.closeStream i).1
          (e.tables.outboundFlow.closeStream i).2 := by
  have hsettles := OutboundFlowWindow.closeStream_settles h.accounts.balanced i
  have hkept : stream.clearClientStreamTimers.inboundQueue = (e.stream i).inboundQueue := hqueue
  rw [retire_of_active hactive]
  have haccounts : (e.absorb i
      { tables :=
          { streams := e.tables.streams.erase i
            streamLifecycle := { e.tables.streamLifecycle with
              active := e.tables.streamLifecycle.active.erase i }
            outboundFlow := (e.tables.outboundFlow.closeStream i).1
            inboundFlow := closeInbound e.tables.inboundFlow }
        stream := stream.clearClientStreamTimers
        settled := (e.tables.outboundFlow.closeStream i).2
        closeCalled := true
        error := none }).accounts =
      e.accounts.close i (e.tables.outboundFlow.closeStream i).1
        (e.tables.outboundFlow.closeStream i).2 := by
    unfold absorb accounts Accounts.close Accounts.serve
    dsimp only
    rw [isRetired_erase h hactive, hclose.held, queue_kept hkept]
  refine ⟨⟨?_, hclose.balanced, ?_, ?_, ?_, ?_, ?_⟩, haccounts⟩
  · rw [haccounts]
    exact h.accounts.close i ⟨_, hsettles⟩
  · intro j
    show j ∈ (closeInbound e.tables.inboundFlow).streams ↔
      j ∈ e.tables.streamLifecycle.active.erase i
    rw [hclose.streams j, h.coherent.inboundStreams j, Finset.mem_erase]
  · intro j hj
    obtain ⟨hne, hmem⟩ := (hsettles.streams j).mp hj
    exact Finset.mem_erase.mpr ⟨hne, h.coherent.outboundStreams j hmem⟩
  · intro j hj
    exact h.coherent.active j (Finset.mem_of_mem_erase hj)
  · intro j hj
    obtain ⟨hne, hmem⟩ := Finset.mem_erase.mp hj
    show (Function.update e.stream i _ j).cancelled = false
    rw [Function.update_of_ne hne]
    exact h.coherent.cancelled j hmem
  · intro j hj
    show (Function.update e.stream i stream.clearClientStreamTimers j).inboundQueue = []
    rw [congrFun (queue_kept hkept) j]
    exact h.coherent.fresh j hj

/-- Retiring a stream that is gone changes its record only. -/
theorem absorb_retire_gone (h : e.Sound) (hactive : i ∉ e.tables.streamLifecycle.active)
    (stream : ClientStream) (closeInbound : InboundFlowWindow → InboundFlowWindow)
    (hqueue : stream.inboundQueue = (e.stream i).inboundQueue) :
    (retire e.tables i stream closeInbound).error ≠ none ∧
      (e.absorb i (retire e.tables i stream closeInbound)).Sound ∧
      (e.absorb i (retire e.tables i stream closeInbound)).accounts = e.accounts := by
  obtain ⟨error, hretire⟩ := retire_of_not_active hactive stream closeInbound
  have hkept : stream.clearClientStreamTimers.inboundQueue = (e.stream i).inboundQueue := hqueue
  obtain ⟨hsound, haccounts⟩ := h.update hkept fun hmem => absurd hmem hactive
  have habsorbed : (e.absorb i (retire e.tables i stream closeInbound)).accounts =
      e.accounts := by
    rw [hretire, ← haccounts]
    unfold absorb accounts
    simp [resolved]
  refine ⟨by simp [hretire], ⟨?_, ?_⟩, habsorbed⟩
  · rw [habsorbed]
    exact h.accounts
  · have hcoherent := hsound.coherent
    rw [hretire]
    exact ⟨hcoherent.inbound, hcoherent.inboundStreams, hcoherent.outboundStreams,
      hcoherent.active, hcoherent.cancelled, hcoherent.fresh⟩

/-- The endpoint stays sound, and what it did is a sequence of moves. -/
def Advances (e e' : Endpoint) : Prop :=
  e'.Sound ∧ Accounts.Moves e.accounts.port e'.accounts.port

theorem Advances.trans {e'' : Endpoint} (h : Advances e e') (h' : Advances e' e'') :
    Advances e e'' := ⟨h'.1, h.2.trans h'.2⟩

theorem Advances.of_accounts (accounts : Accounts) (haccounts : e'.accounts = accounts)
    (hcoherent : Coherent e'.tables e'.stream)
    (h : accounts.Sound ∧ Accounts.Moves e.accounts.port accounts.port) : Advances e e' := by
  subst haccounts
  exact ⟨⟨h.1, hcoherent⟩, h.2⟩

theorem Sound.advances_of_accounts (h : e'.Sound) (haccounts : e'.accounts = e.accounts) :
    Advances e e' := by
  refine ⟨h, ?_⟩
  rw [haccounts]
  exact Accounts.Moves.refl _

theorem Sound.advances_record (h : e.Sound) (i : ℕ) (stream : ClientStream)
    (hqueue : stream.inboundQueue = (e.stream i).inboundQueue)
    (hcancelled : stream.cancelled = (e.stream i).cancelled) :
    Advances e { e with stream := Function.update e.stream i stream } := by
  obtain ⟨hsound, haccounts⟩ := h.update hqueue fun hactive =>
    hcancelled.trans (h.coherent.cancelled i hactive)
  exact hsound.advances_of_accounts haccounts

theorem Sound.advances_send (h : e.Sound) {body : FrameBody} (hbody : item ⟨i, body⟩ = none)
    (endSends : Finset ℕ) : Advances e { e.send i body with endSends } := by
  refine ⟨h.outbox _ endSends, ?_⟩
  have hport : (e.accounts.send i body).port = e.accounts.port :=
    Accounts.send_other_port e.accounts i hbody
  show Accounts.Moves e.accounts.port (e.accounts.send i body).port
  rw [hport]
  exact Accounts.Moves.refl _

/-- A record changes and a frame that flow control does not see is sent. -/
theorem Sound.advances_answer (h : e.Sound) (i : ℕ) (stream : ClientStream) (body : FrameBody)
    (hqueue : stream.inboundQueue = (e.stream i).inboundQueue)
    (hcancelled : stream.cancelled = (e.stream i).cancelled) (hbody : item ⟨i, body⟩ = none)
    (endSends : Finset ℕ) : Advances e { (e.setStream i stream).send i body with endSends } := by
  have hset := h.advances_record i stream hqueue hcancelled
  exact hset.trans (hset.1.advances_send hbody endSends)

/-- A stream that ended on both sides goes with nothing outstanding. -/
theorem absorb_delete (h : e.Sound) {stream : ClientStream}
    (hqueue : stream.inboundQueue = (e.stream i).inboundQueue)
    (hcancelled : stream.cancelled = (e.stream i).cancelled)
    (hsettled : stream.requestEnded = true → stream.responseEnded = true →
      e.tables.outboundFlow.outstandingBytes i = 0) :
    Advances e (e.absorb i (maybeDeleteStream e.tables i stream)) := by
  unfold maybeDeleteStream
  split
  · rename_i hended
    simp only [Bool.and_eq_true] at hended
    by_cases hactive : i ∈ e.tables.streamLifecycle.active
    · obtain ⟨hsound, haccounts⟩ := absorb_retire h hactive stream
        (fun inboundFlow => inboundFlow.closeStream i) hqueue
        (InboundFlowWindow.closeStream_holds h.coherent.inbound i)
      refine ⟨hsound, ?_⟩
      rw [haccounts]
      exact Accounts.finish_moves i (hsettled hended.1 hended.2)
        ⟨_, OutboundFlowWindow.closeStream_settles h.accounts.balanced i⟩
    · obtain ⟨-, hsound, haccounts⟩ := absorb_retire_gone h hactive stream
        (fun inboundFlow => inboundFlow.closeStream i) hqueue
      exact hsound.advances_of_accounts haccounts
  · have hkept : e.absorb i (.unchanged e.tables stream) =
        { e with stream := Function.update e.stream i stream } := by
      simp [absorb, Retirement.unchanged, resolved]
    rw [hkept]
    exact h.advances_record i stream hqueue hcancelled

theorem cancelAndReset_advances (h : e.Sound) (i : ℕ) (code : String) :
    Advances e (e.cancelAndReset i code) := by
  unfold cancelAndReset
  split
  · exact h.advances_of_accounts rfl
  · rename_i hlive
    have hcancel : cancelClientStream e.tables i (e.stream i) .localReset =
        retire e.tables i { e.stream i with cancelled := true } fun inboundFlow =>
          inboundFlow.retireStream i := by
      simp [cancelClientStream, hlive]
    by_cases hactive : i ∈ e.tables.streamLifecycle.active
    · obtain ⟨hsound, haccounts⟩ := absorb_retire h hactive { e.stream i with cancelled := true }
        (fun inboundFlow => inboundFlow.retireStream i) rfl
        (InboundFlowWindow.retireStream_holds h.coherent.inbound i)
      have herror : (retire e.tables i { e.stream i with cancelled := true } fun inboundFlow =>
          inboundFlow.retireStream i).error = none := by
        rw [retire_of_active hactive]
      rw [hcancel]
      dsimp only
      rw [herror]
      refine ⟨hsound.outbox _ _, ?_⟩
      have hmoves := Accounts.reset_moves i code
        ⟨_, OutboundFlowWindow.closeStream_settles h.accounts.balanced i⟩
      show Accounts.Moves e.accounts.port ((e.absorb i (retire e.tables i
        { e.stream i with cancelled := true } fun inboundFlow =>
          inboundFlow.retireStream i)).accounts.send i (.resetStream (.ok code))).port
      rw [haccounts]
      exact hmoves
    · obtain ⟨herror, hsound, haccounts⟩ := absorb_retire_gone h hactive
        { e.stream i with cancelled := true } (fun inboundFlow => inboundFlow.retireStream i) rfl
      obtain ⟨error, herror⟩ := Option.ne_none_iff_exists'.mp herror
      rw [hcancel]
      dsimp only
      rw [herror]
      exact hsound.advances_of_accounts haccounts

theorem take_advances (h : e.Sound) {maximumBytes : ℕ}
    (htake : e.take i maximumBytes = some e') : Advances e e' := by
  obtain ⟨outboundFlow, settled, htaken, rfl⟩ := take_some htake
  have hsettles := OutboundFlowWindow.take_settles h.accounts.balanced htaken
  refine ⟨⟨h.accounts.serve ⟨_, hsettles⟩, ?_⟩, Accounts.serve_moves ⟨_, hsettles⟩⟩
  exact { h.coherent with
    outboundStreams := fun j hj => h.coherent.outboundStreams j ((hsettles.streams j).mp hj) }

theorem popped_accounts (e : Endpoint) (i : ℕ) (rest : List Operation) :
    (e.popOperation i rest).accounts = e.accounts.setQueue i rest := by
  unfold popOperation accounts Accounts.setQueue
  dsimp only
  rw [queue_update]

theorem popped_coherent (h : e.Sound) {operation : Operation} {rest : List Operation}
    (hqueue : (e.stream i).inboundQueue = operation :: rest) :
    Coherent e.tables (e.popOperation i rest).stream := by
  refine h.coherent.update (fun hactive => h.coherent.cancelled i hactive) ?_
  intro hnew
  rw [h.coherent.fresh i hnew] at hqueue
  cases hqueue

theorem popOperation_advances (h : e.Sound) {operation : Operation} {rest : List Operation}
    (hqueue : (e.stream i).inboundQueue = operation :: rest) (hidle : i ∉ e.crediting) :
    Advances e (e.popOperation i rest) := by
  have hbytes : queuedBytes rest ≤ queuedBytes (e.accounts.queue i) := by
    show _ ≤ queuedBytes (e.stream i).inboundQueue
    rw [hqueue]
    exact Accounts.queuedBytes_tail_le
  refine ⟨⟨?_, popped_coherent h hqueue⟩, ?_⟩
  · rw [popped_accounts]
    exact h.accounts.setQueue hbytes hidle
  · have hport : (e.accounts.setQueue i rest).port = e.accounts.port :=
      Accounts.setQueue_port hidle rest
    rw [popped_accounts, hport]
    exact Accounts.Moves.refl _

theorem release_coherent (h : e.Sound) {stream : ℕ → ClientStream} {inboundFlow : InboundFlowWindow}
    (hcoherent : Coherent e.tables stream)
    (hrelease : e.tables.inboundFlow.release i bytes = .ok inboundFlow) :
    Coherent { e.tables with inboundFlow } stream := by
  obtain ⟨-, hholds⟩ := InboundFlowWindow.release_holds h.coherent.inbound hrelease
  exact { hcoherent with
    inbound := hholds.balanced
    inboundStreams := fun j => (hholds.streams j).trans (hcoherent.inboundStreams j) }

/-- A DATA operation that runs through gives its bytes back. -/
theorem credit_advances (h : e.Sound) {rest : List Operation}
    (hqueue : (e.stream i).inboundQueue = .data bytes :: rest) (hidle : i ∉ e.crediting)
    (hrelease : ((e.sendWindowUpdate i bytes).popOperation i rest).release i bytes = .ok e') :
    Advances e e' := by
  obtain ⟨inboundFlow, hreleased, rfl⟩ := release_ok hrelease
  obtain ⟨hheld, hholds⟩ := InboundFlowWindow.release_holds h.coherent.inbound hreleased
  have hcoherent := release_coherent h (popped_coherent h hqueue) hreleased
  refine Advances.of_accounts (e.accounts.credit i bytes rest) ?_ hcoherent
    (Accounts.credit_moves h.accounts hidle hqueue hheld)
  have hpopped := congrArg Accounts.queue (popped_accounts e i rest)
  show Accounts.mk _ _ _ inboundFlow.held _ (e.popOperation i rest).accounts.queue _ = _
  rw [hholds.held, hpopped]
  rfl

/-- The client's condition: when a stream goes because both its sides ended, every byte it sent
has been credited. -/
def Settled (e : Endpoint) : Event → Prop
  | .operation i => (e.stream i).inboundQueue.head? = some .endStream →
    (e.stream i).cancelled = false → (e.stream i).responseEnded = true →
      e.tables.outboundFlow.outstandingBytes i = 0
  | .endSent i => (e.stream i).requestEnded = true → (e.stream i).responseEnded = true →
      e.tables.outboundFlow.outstandingBytes i = 0
  | _ => True

theorem endRequest_queue (stream : ClientStream) :
    (endRequest stream).inboundQueue = stream.inboundQueue ∧
      (endRequest stream).cancelled = stream.cancelled ∧
      (endRequest stream).responseEnded = stream.responseEnded := by
  unfold endRequest ClientStream.armResponseHeaderTimer
  split_ifs <;> exact ⟨rfl, rfl, rfl⟩

theorem runEnd_advances (h : e.Sound)
    (hsettled : (e.stream i).cancelled = false → (e.stream i).responseEnded = true →
      e.tables.outboundFlow.outstandingBytes i = 0)
    (hend : e.runEnd i = .ok e') : Advances e e' := by
  obtain ⟨-, rfl⟩ | ⟨hlive, -, -, rfl⟩ := runEnd_ok hend
  · exact h.advances_of_accounts rfl
  · obtain ⟨hqueue, hcancelled, hended⟩ := endRequest_queue (e.stream i)
    refine absorb_delete h hqueue hcancelled ?_
    intro _ hresponse
    exact hsettled hlive (hended.symm.trans hresponse)

theorem runOperation_advances (h : e.Sound) (hsettled : e.Settled (.operation i))
    (hrun : e.runOperation i = some (.ok e')) : Advances e e' := by
  obtain ⟨hidle, ⟨bytes, rest, hqueue, -, rfl⟩ | ⟨bytes, rest, hqueue, -, hrelease⟩ |
    ⟨rest, hqueue, hend⟩⟩ := runOperation_ok hrun
  · exact popOperation_advances h hqueue hidle
  · exact credit_advances h hqueue hidle hrelease
  · have hpopped := popOperation_advances h hqueue hidle
    refine hpopped.trans (runEnd_advances hpopped.1 ?_ hend)
    simp only [popOperation, Function.update_self]
    exact hsettled (by rw [hqueue]; rfl)

theorem announce_advances (h : e.Sound) (hannounce : e.announce i = some (.ok e')) :
    Advances e e' := by
  obtain ⟨hidle, bytes, rest, hqueue, ⟨-, rfl⟩ | ⟨-, rfl⟩⟩ := announce_ok hannounce
  · exact popOperation_advances h hqueue hidle
  · exact Advances.of_accounts (e.accounts.announce i bytes) rfl h.coherent
      (Accounts.announce_moves h.accounts hidle hqueue)

theorem announced_advances (h : e.Sound) (hannounced : e.announced i = some (.ok e')) :
    Advances e e' := by
  obtain ⟨hcrediting, bytes, rest, hqueue, hrest⟩ := announced_ok hannounced
  have hpopped := congrArg Accounts.queue (popped_accounts e i rest)
  obtain ⟨hcancelled, rfl⟩ | ⟨-, hrelease⟩ := hrest
  · have hgone : i ∉ e.tables.inboundFlow.streams := by
      rw [h.coherent.inboundStreams]
      intro hactive
      rw [h.coherent.cancelled i hactive] at hcancelled
      cases hcancelled
    have hport := Accounts.abandon_port h.accounts rest (amounts_of_not_mem hgone)
    refine Advances.of_accounts (e.accounts.abandon i rest) ?_ (popped_coherent h hqueue)
      ⟨Accounts.abandon_sound h.accounts hqueue, hport ▸ Accounts.Moves.refl _⟩
    show Accounts.mk _ _ _ _ _ (e.popOperation i rest).accounts.queue _ = _
    rw [hpopped]
    rfl
  · obtain ⟨inboundFlow, hreleased, rfl⟩ := release_ok hrelease
    obtain ⟨hheld, hholds⟩ := InboundFlowWindow.release_holds h.coherent.inbound hreleased
    have hcoherent := release_coherent h (popped_coherent h hqueue) hreleased
    refine Advances.of_accounts (e.accounts.repay i bytes rest) ?_ hcoherent
      (Accounts.repay_moves h.accounts hcrediting hqueue hheld)
    show Accounts.mk _ _ _ inboundFlow.held _ (e.popOperation i rest).accounts.queue _ = _
    rw [hholds.held, hpopped]
    rfl

theorem endSent_advances (h : e.Sound) (hsettled : e.Settled (.endSent i)) :
    Advances e (e.endSent i) := by
  have herased : ({ e with endSends := e.endSends.erase i } : Endpoint).Sound := h.outbox _ _
  have hdeleted := absorb_delete herased rfl rfl hsettled
  unfold endSent
  dsimp only
  split
  · exact hdeleted.trans (cancelAndReset_advances hdeleted.1 i _)
  · exact hdeleted

theorem sendGranted_ok (hstep : e.step .sendGranted = some (.ok e')) :
    ∃ i bytes grants, e.grants = (i, bytes) :: grants ∧
      e' = ({ e with grants } : Endpoint).send i (.data bytes) := by
  simp only [step] at hstep
  split at hstep
  · cases hstep
  · rename_i i bytes grants hgrants
    cases hstep
    exact ⟨i, bytes, grants, hgrants, rfl⟩

theorem event_advances (h : e.Sound) {event : Event} (hsettled : e.Settled event)
    (hstep : e.step event = some (.ok e')) : Advances e e' := by
  cases event with
  | respond i headers =>
    simp only [step] at hstep
    split at hstep
    · cases hstep
    · cases hstep
      exact h.advances_answer i
        { (e.stream i).clearResponseHeaderTimer.touchClientStream with response := true }
        (.responseHeaders (.ok headers)) rfl rfl rfl e.endSends
  | upgrade i headers =>
    simp only [step] at hstep
    split at hstep
    · cases hstep
    · cases hstep
      exact h.advances_answer i
        { (e.stream i).clearResponseHeaderTimer.touchClientStream with
          response := true
          localSocket := true
          requestEnded := false } (.responseHeaders (.ok headers)) rfl rfl rfl e.endSends
  | take i maximumBytes =>
    simp only [step] at hstep
    split at hstep
    · obtain ⟨taken, htake, hok⟩ := Option.map_eq_some_iff.mp hstep
      cases hok
      exact take_advances h htake
    · cases hstep
  | sendGranted =>
    obtain ⟨i, bytes, grants, hgrants, rfl⟩ := sendGranted_ok hstep
    exact Advances.of_accounts _ rfl h.coherent (Accounts.sendGranted_moves h.accounts hgrants)
  | respondEnd i =>
    simp only [step] at hstep
    split at hstep
    · cases hstep
      exact h.advances_answer i { e.stream i with responseEnded := true } .endStream rfl rfl rfl
        (insert i e.endSends)
    · cases hstep
  | endSent i =>
    simp only [step] at hstep
    split at hstep
    · cases hstep
      exact endSent_advances h hsettled
    · cases hstep
  | localReset i code =>
    simp only [step] at hstep
    split at hstep
    · cases hstep
    · cases hstep
      exact cancelAndReset_advances h i code
  | operation i => exact runOperation_advances h hsettled hstep
  | announce i => exact announce_advances h hstep
  | announced i => exact announced_advances h hstep

/-- The endpoint handles an item, and what it does then is a sequence of moves. -/
def Handles (e : Endpoint) (item : Item ℕ) (e' : Endpoint) : Prop :=
  e'.Sound ∧ ∃ p, Receive e.accounts.port item p ∧ Accounts.Moves p e'.accounts.port

theorem lifecycle_openStream_ok {lifecycle lifecycle' : RemoteStreamLifecycle}
    (hopen : lifecycle.openStream i = .ok lifecycle') :
    lifecycle.highestOpenedStreamId < i ∧ (0 < i ∧ i % 2 = 1) ∧
      lifecycle' = ⟨insert i lifecycle.active, i⟩ := by
  have hgreater : lifecycle.highestOpenedStreamId < lifecycle.expectedStreamId := by
    unfold RemoteStreamLifecycle.expectedStreamId
    split_ifs <;> omega
  unfold RemoteStreamLifecycle.openStream at hopen
  split at hopen
  · cases hopen
  · split at hopen
    · cases hopen
    · split at hopen
      · split at hopen
        · cases hopen
        · cases hopen
      · rename_i hid hodd hexpected
        cases hopen
        exact ⟨by omega, ⟨by omega, by omega⟩, rfl⟩

theorem openStream_advances (h : e.Sound) {limits : Limits} {metadata : OpenHttpMetadata}
    (hwindow : metadata.initialWindowBytes ≤ INITIAL_STREAM_WINDOW_BYTES)
    (hlimit : limits.initialStreamWindowBytes = INITIAL_STREAM_WINDOW_BYTES)
    (hopen : e.openStream limits i metadata = .ok e') : Advances e e' := by
  obtain ⟨streamLifecycle, outboundFlow, settled, inboundFlow, hlifecycle, houtbound, hinbound,
    rfl⟩ := openStream_ok hopen
  rw [hlimit] at hinbound
  have hsettles := OutboundFlowWindow.openStream_settles h.accounts.balanced hwindow houtbound
  have hholds := InboundFlowWindow.openStream_holds h.coherent.inbound hinbound
  obtain ⟨hnew, hvalid, rfl⟩ := lifecycle_openStream_ok hlifecycle
  have hretired : ∀ j, e.tables.streamLifecycle.isRetired j = true →
      RemoteStreamLifecycle.isRetired
        ⟨insert i e.tables.streamLifecycle.active, i⟩ j = true := by
    intro j hj
    simp only [RemoteStreamLifecycle.isRetired, Bool.and_eq_true, decide_eq_true_eq] at hj ⊢
    refine ⟨⟨⟨hj.1.1.1, by omega⟩, hj.1.2⟩, ?_⟩
    rw [Finset.mem_insert, not_or]
    exact ⟨by omega, hj.2⟩
  have hheld : ∀ j, RemoteStreamLifecycle.isRetired
      ⟨insert i e.tables.streamLifecycle.active, i⟩ j = true → e.accounts.held j = 0 := by
    intro j hj
    simp only [RemoteStreamLifecycle.isRetired, Bool.and_eq_true, decide_eq_true_eq,
      Finset.mem_insert, not_or] at hj
    refine amounts_of_not_mem ?_
    rw [h.coherent.inboundStreams j]
    exact hj.2.2
  have hqueue : (ClientStream.opened metadata.kind metadata.requestBodyEnded).inboundQueue =
      (e.stream i).inboundQueue := (h.coherent.fresh i hnew).symm
  refine Advances.of_accounts _ ?_ ?_
    (Accounts.open_moves h.accounts ⟨_, hsettles⟩ hretired hheld)
  · show Accounts.mk _ _ _ inboundFlow.held _
      (fun j => (Function.update e.stream i _ j).inboundQueue) _ = _
    rw [hholds.held, queue_kept hqueue]
    rfl
  · refine ⟨hholds.balanced, ?_, ?_, ?_, ?_, ?_⟩
    · intro j
      rw [hholds.streams j, h.coherent.inboundStreams j]
      exact Finset.mem_insert.symm
    · intro j hj
      rcases (hsettles.streams j).mp hj with heq | hmem
      · exact Finset.mem_insert.mpr (Or.inl heq)
      · exact Finset.mem_insert_of_mem (h.coherent.outboundStreams j hmem)
    · intro j hj
      rcases Finset.mem_insert.mp hj with heq | hmem
      · rw [heq]
        exact ⟨hvalid.1, le_rfl, hvalid.2⟩
      · obtain ⟨hpositive, hopened, hodd⟩ := h.coherent.active j hmem
        exact ⟨hpositive, by show j ≤ i; omega, hodd⟩
    · intro j hj
      show (Function.update e.stream i _ j).cancelled = false
      by_cases hij : j = i
      · subst hij
        rw [Function.update_self]
        rfl
      · rw [Function.update_of_ne hij]
        exact h.coherent.cancelled j (Finset.mem_of_mem_insert_of_ne hj hij)
    · intro j hj
      have hgreater : e.tables.streamLifecycle.highestOpenedStreamId < j := lt_trans hnew hj
      show (Function.update e.stream i _ j).inboundQueue = []
      rw [congrFun (queue_kept hqueue) j]
      exact h.coherent.fresh j hgreater

theorem retired_inbound (h : e.Sound) {frame : StreamFrame} {inboundFlow : InboundFlowWindow}
    (hvalid : validateRetiredGatewayFrame e.tables.inboundFlow frame = .ok inboundFlow) :
    InboundFlowWindow.Holds INITIAL_STREAM_WINDOW_BYTES INITIAL_CONNECTION_WINDOW_BYTES
      e.tables.inboundFlow.held (· ∈ e.tables.inboundFlow.streams) inboundFlow := by
  have hsame : InboundFlowWindow.Holds INITIAL_STREAM_WINDOW_BYTES INITIAL_CONNECTION_WINDOW_BYTES
      e.tables.inboundFlow.held (· ∈ e.tables.inboundFlow.streams) e.tables.inboundFlow :=
    ⟨h.coherent.inbound, rfl, fun _ => Iff.rfl⟩
  have hmap : ∀ {α : Type} (metadata : Except JsError α),
      metadata.map (fun _ => e.tables.inboundFlow) = .ok inboundFlow →
        inboundFlow = e.tables.inboundFlow := by
    intro α metadata hmetadata
    cases metadata with
    | error error => cases hmetadata
    | ok value =>
      cases hmetadata
      rfl
  unfold validateRetiredGatewayFrame at hvalid
  split at hvalid
  · split at hvalid
    · cases hvalid
    · exact InboundFlowWindow.consumeRetiredData_holds h.coherent.inbound hvalid
  · cases hvalid
    exact hsame
  · rw [hmap _ hvalid]
    exact hsame
  · rw [hmap _ hvalid]
    exact hsame
  · cases hvalid

theorem retired_sound (h : e.Sound) {frame : StreamFrame} {inboundFlow : InboundFlowWindow}
    (hvalid : validateRetiredGatewayFrame e.tables.inboundFlow frame = .ok inboundFlow) :
    ({ e with tables := { e.tables with inboundFlow } } : Endpoint).Sound ∧
      ({ e with tables := { e.tables with inboundFlow } } : Endpoint).accounts = e.accounts := by
  have hholds := retired_inbound h hvalid
  have haccounts : ({ e with tables := { e.tables with inboundFlow } } : Endpoint).accounts =
      e.accounts := by
    show Accounts.mk _ _ _ inboundFlow.held _ _ _ = _
    rw [hholds.held]
    rfl
  refine ⟨⟨haccounts ▸ h.accounts, ?_⟩, haccounts⟩
  exact { h.coherent with
    inbound := hholds.balanced
    inboundStreams := fun j => (hholds.streams j).trans (h.coherent.inboundStreams j) }

theorem acceptUpdate_handles (h : e.Sound) (hupdate : e.acceptUpdate i bytes = .ok e') :
    Handles e (.credit i bytes) e' := by
  obtain ⟨outboundFlow, settled, hupdated, rfl⟩ := acceptUpdate_ok hupdate
  obtain ⟨hbytes, hsettles⟩ := OutboundFlowWindow.update_settles h.accounts.balanced hupdated
  refine ⟨⟨h.accounts.serve ⟨_, hsettles⟩, ?_⟩, Accounts.update_moves hbytes ⟨_, hsettles⟩⟩
  exact { h.coherent with
    outboundStreams := fun j hj => h.coherent.outboundStreams j ((hsettles.streams j).mp hj) }

theorem enqueued_coherent (h : Coherent e.tables e.stream) {tables : Tables} {stream : ClientStream}
    (hlifecycle : tables.streamLifecycle = e.tables.streamLifecycle)
    (hcoherent : Coherent tables e.stream) (hactive : i ∈ e.tables.streamLifecycle.active)
    (hcancelled : stream.cancelled = (e.stream i).cancelled) :
    Coherent tables (Function.update e.stream i stream) := by
  refine hcoherent.update (fun _ => hcancelled.trans (h.cancelled i hactive)) ?_
  intro hnew
  obtain ⟨-, hopened, -⟩ := h.active i hactive
  rw [hlifecycle] at hnew
  omega

theorem acceptData_handles (h : e.Sound) {limits : Limits}
    (hactive : i ∈ e.tables.streamLifecycle.active)
    (hdata : e.acceptData limits i bytes = .ok e') : Handles e (.data i bytes) e' := by
  obtain ⟨inboundFlow, hconsume, henqueue⟩ := acceptData_ok hdata
  obtain ⟨-, -, rfl⟩ := enqueue_ok henqueue
  have hholds := InboundFlowWindow.consume_holds h.coherent.inbound hconsume
  have hqueue : (countData (e.stream i) bytes).touchClientStream.inboundQueue =
      (e.stream i).inboundQueue := by
    unfold countData
    split_ifs <;> rfl
  have hcancelled : (countData (e.stream i) bytes).touchClientStream.cancelled =
      (e.stream i).cancelled := by
    unfold countData
    split_ifs <;> rfl
  have hretired : e.accounts.retired i = false := not_retired_of_active hactive
  obtain ⟨hsound, hreceive⟩ := Accounts.receive_moves h.accounts bytes hretired
  have hconsumed : Coherent { e.tables with inboundFlow } e.stream :=
    { h.coherent with
      inbound := hholds.balanced
      inboundStreams := fun j => (hholds.streams j).trans (h.coherent.inboundStreams j) }
  have haccounts : ({ e with
      tables := { e.tables with inboundFlow }
      stream := Function.update e.stream i
        { (countData (e.stream i) bytes).touchClientStream with
          inboundQueue := (countData (e.stream i) bytes).touchClientStream.inboundQueue ++
            [.data bytes]
          pendingInboundOperations :=
            (countData (e.stream i) bytes).touchClientStream.pendingInboundOperations + 1 }
      applicationOperations := { e.applicationOperations with
        pending := e.applicationOperations.pending + 1 } } : Endpoint).accounts =
      e.accounts.receive i bytes := by
    show Accounts.mk _ _ _ inboundFlow.held _
      (fun j => (Function.update e.stream i _ j).inboundQueue) _ = _
    rw [hholds.held, queue_update]
    dsimp only
    rw [hqueue]
    rfl
  refine ⟨⟨?_, enqueued_coherent h.coherent rfl hconsumed hactive hcancelled⟩, _, hreceive, ?_⟩
  · rw [haccounts]
    exact hsound
  · rw [haccounts]
    exact Accounts.Moves.refl _

theorem enqueueEnd_advances (h : e.Sound) (hactive : i ∈ e.tables.streamLifecycle.active)
    (henqueue : e.enqueue i (e.stream i) .endStream = .ok e') : Advances e e' := by
  obtain ⟨-, -, rfl⟩ := enqueue_ok henqueue
  obtain ⟨hsound, hport⟩ := Accounts.enqueueEnd_sound h.accounts i
  refine Advances.of_accounts _ ?_ (enqueued_coherent h.coherent rfl h.coherent hactive rfl)
    ⟨hsound, hport ▸ Accounts.Moves.refl _⟩
  show Accounts.mk _ _ _ _ _ (fun j => (Function.update e.stream i _ j).inboundQueue) _ = _
  rw [queue_update]
  rfl

theorem acceptReset_handles (h : e.Sound) (hactive : i ∈ e.tables.streamLifecycle.active)
    (hreset : e.acceptReset i = .ok e') : Handles e (.reset i) e' := by
  obtain ⟨-, rfl⟩ := acceptReset_ok hreset
  have hcancel : cancelClientStream e.tables i (e.stream i) .remoteReset =
      retire e.tables i { e.stream i with cancelled := true } fun inboundFlow =>
        inboundFlow.closeStream i := by
    simp [cancelClientStream, h.coherent.cancelled i hactive]
  obtain ⟨hsound, haccounts⟩ := absorb_retire h hactive { e.stream i with cancelled := true }
    (fun inboundFlow => inboundFlow.closeStream i) rfl
    (InboundFlowWindow.closeStream_holds h.coherent.inbound i)
  rw [hcancel]
  refine ⟨hsound, ?_⟩
  rw [haccounts]
  exact Accounts.receiveReset_moves i
    ⟨_, OutboundFlowWindow.closeStream_settles h.accounts.balanced i⟩

/-- Every frame is one item, or none that flow control sees. -/
theorem frame_handled (h : e.Sound) {limits : Limits} {frame : StreamFrame}
    (hwindow : ∀ metadata, frame.body = .openHttp (.ok metadata) →
      metadata.initialWindowBytes ≤ INITIAL_STREAM_WINDOW_BYTES)
    (hlimit : limits.initialStreamWindowBytes = INITIAL_STREAM_WINDOW_BYTES)
    (hframe : e.handleGatewayFrame limits frame = .ok e') :
    match item frame with
    | none => Advances e e'
    | some received => Handles e received e' := by
  obtain ⟨metadata, hbody, hopen⟩ | ⟨hretired, hbody, inboundFlow, hvalid, rfl⟩ |
    ⟨hactive, -, -, hbody, haccept⟩ := handleGatewayFrame_ok hframe
  · simp only [item, hbody]
    exact openStream_advances h (hwindow metadata hbody) hlimit hopen
  · obtain ⟨hsound, haccounts⟩ := retired_sound h hvalid
    cases hitem : item frame with
    | none => exact hsound.advances_of_accounts haccounts
    | some received =>
      refine ⟨hsound, e.accounts.port, Receive.retired received ?_, ?_⟩
      · rw [item_id hitem]
        exact hretired
      · rw [haccounts]
        exact Accounts.Moves.refl _
  · unfold acceptActive at haccept
    split at haccept
    · cases haccept
    · rename_i bytes hupdate
      simp only [item, hupdate]
      exact acceptUpdate_handles h haccept
    · rename_i bytes hdata
      simp only [item, hdata]
      exact acceptData_handles h hactive haccept
    · rename_i hend
      simp only [item, hend]
      exact enqueueEnd_advances h hactive haccept
    · cases haccept
    · rename_i code hreset
      simp only [item, hreset]
      exact acceptReset_handles h hactive haccept
    · cases haccept

theorem enqueue_thrown {stream : ClientStream} {operation : Operation} {fault : Fault}
    (henqueue : e.enqueue i stream operation = .error fault) : fault.rejectedData = false := by
  unfold enqueue at henqueue
  split at henqueue <;> cases henqueue
  rfl

theorem openStream_thrown {limits : Limits} {metadata : OpenHttpMetadata} {fault : Fault}
    (hopen : e.openStream limits i metadata = .error fault) : fault.rejectedData = false := by
  unfold openStream at hopen
  split at hopen
  · cases hopen
    rfl
  · split at hopen
    · cases hopen
      rfl
    · split at hopen
      · cases hopen
        rfl
      · split at hopen <;> cases hopen
        rfl

/-- Of the frames of a live stream only DATA is turned away by the receive window. -/
theorem acceptActive_rejected {limits : Limits} {frame : StreamFrame} {fault : Fault}
    (haccept : e.acceptActive limits frame = .error fault) (hrejected : fault.rejectedData = true) :
    ∃ bytes error, frame.body = .data bytes ∧
      e.tables.inboundFlow.consume frame.streamId bytes = .error error := by
  have hthrown : fault.rejectedData ≠ false := by
    rw [hrejected]
    exact Bool.noConfusion
  unfold acceptActive at haccept
  split at haccept
  · cases haccept
    exact absurd rfl hthrown
  · unfold acceptUpdate at haccept
    split at haccept <;> cases haccept
    exact absurd rfl hthrown
  · rename_i bytes hbody
    unfold acceptData at haccept
    dsimp only at haccept
    split at haccept
    · cases haccept
      exact absurd rfl hthrown
    · split at haccept
      · rename_i error hconsume
        exact ⟨bytes, error, hbody, hconsume⟩
      · exact absurd (enqueue_thrown haccept) hthrown
  · exact absurd (enqueue_thrown haccept) hthrown
  · cases haccept
    exact absurd rfl hthrown
  · unfold acceptReset at haccept
    dsimp only at haccept
    split at haccept <;> cases haccept
    exact absurd rfl hthrown
  · cases haccept
    exact absurd rfl hthrown

/-- The receive window turns away only DATA of a live stream. -/
theorem frame_rejected {limits : Limits} {frame : StreamFrame} {fault : Fault}
    (hframe : e.handleGatewayFrame limits frame = .error fault)
    (hrejected : fault.rejectedData = true) :
    ∃ bytes error, frame.body = .data bytes ∧
      frame.streamId ∈ e.tables.streamLifecycle.active ∧
      e.tables.inboundFlow.consume frame.streamId bytes = .error error := by
  have hthrown : fault.rejectedData ≠ false := by
    rw [hrejected]
    exact Bool.noConfusion
  unfold handleGatewayFrame at hframe
  split at hframe
  · split at hframe
    · cases hframe
      exact absurd rfl hthrown
    · split at hframe
      · cases hframe
        exact absurd rfl hthrown
      · exact absurd (openStream_thrown hframe) hthrown
  · split at hframe
    · split at hframe <;> cases hframe
      exact absurd rfl hthrown
    · split at hframe
      · cases hframe
        exact absurd rfl hthrown
      · rename_i hrequired
        split at hframe
        · cases hframe
          exact absurd rfl hthrown
        · obtain ⟨bytes, error, hbody, hconsume⟩ := acceptActive_rejected hframe hrejected
          refine ⟨bytes, error, hbody, ?_, hconsume⟩
          unfold RemoteStreamLifecycle.requireActive at hrequired
          split_ifs at hrequired with hactive
          exact hactive

theorem release_thrown {fault : Fault} (hrelease : e.release i bytes = .error fault) :
    fault.rejectedData = false := by
  unfold release at hrelease
  split at hrelease <;> cases hrelease
  rfl

theorem runEnd_thrown {fault : Fault} (hend : e.runEnd i = .error fault) :
    fault.rejectedData = false := by
  unfold runEnd at hend
  dsimp only at hend
  split at hend
  · cases hend
  · split at hend
    · cases hend
      rfl
    · split at hend <;> cases hend
      rfl

theorem runOperation_thrown {fault : Fault} (hrun : e.runOperation i = some (.error fault)) :
    fault.rejectedData = false := by
  unfold runOperation at hrun
  split at hrun
  · cases hrun
  · split at hrun
    · cases hrun
    · split at hrun
      · cases hrun
      · split at hrun
        · cases hrun
          rfl
        · exact release_thrown (Option.some.inj hrun)
    · exact runEnd_thrown (Option.some.inj hrun)

theorem announce_thrown {fault : Fault} (hannounce : e.announce i = some (.error fault)) :
    fault.rejectedData = false := by
  unfold announce at hannounce
  split at hannounce
  · cases hannounce
  · split at hannounce
    · split at hannounce
      · cases hannounce
      · split at hannounce <;> cases hannounce
        rfl
    · cases hannounce

theorem announced_thrown {fault : Fault} (hannounced : e.announced i = some (.error fault)) :
    fault.rejectedData = false := by
  unfold announced at hannounced
  split at hannounced
  · split at hannounced
    · dsimp only at hannounced
      split at hannounced
      · cases hannounced
      · exact release_thrown (Option.some.inj hannounced)
    · cases hannounced
  · cases hannounced

/-- The events that are not frames consume nothing. -/
theorem event_thrown {event : Event} {fault : Fault} (hstep : e.step event = some (.error fault)) :
    fault.rejectedData = false := by
  cases event with
  | operation i => exact runOperation_thrown hstep
  | announce i => exact announce_thrown hstep
  | announced i => exact announced_thrown hstep
  | sendGranted =>
    simp only [step] at hstep
    split at hstep <;> cases hstep
  | take i maximumBytes =>
    simp only [step] at hstep
    split at hstep
    · obtain ⟨taken, -, hok⟩ := Option.map_eq_some_iff.mp hstep
      cases hok
    · cases hstep
  | respond i headers =>
    simp only [step] at hstep
    split at hstep <;> cases hstep
  | upgrade i headers =>
    simp only [step] at hstep
    split at hstep <;> cases hstep
  | respondEnd i =>
    simp only [step] at hstep
    split at hstep <;> cases hstep
  | endSent i =>
    simp only [step] at hstep
    split at hstep <;> cases hstep
  | localReset i code =>
    simp only [step] at hstep
    split at hstep <;> cases hstep

theorem Sound.popped (h : e.Sound) (outbox : List StreamFrame) :
    ({ e with outbox } : Endpoint).Sound := ⟨h.accounts.popped outbox, h.coherent⟩

instance (e : Endpoint) : (event : Event) → Decidable (e.Settled event)
  | .operation _ => inferInstanceAs (Decidable (_ → _ → _ → _))
  | .endSent _ => inferInstanceAs (Decidable (_ → _ → _))
  | .respond _ _ => isTrue trivial
  | .upgrade _ _ => isTrue trivial
  | .take _ _ => isTrue trivial
  | .sendGranted => isTrue trivial
  | .respondEnd _ => isTrue trivial
  | .localReset _ _ => isTrue trivial
  | .announce _ => isTrue trivial
  | .announced _ => isTrue trivial

theorem frame_taken (h : e.Sound) {limits : Limits} {frame : StreamFrame}
    (hwindow : ∀ metadata, frame.body = .openHttp (.ok metadata) →
      metadata.initialWindowBytes ≤ INITIAL_STREAM_WINDOW_BYTES)
    (hlimit : limits.initialStreamWindowBytes = INITIAL_STREAM_WINDOW_BYTES)
    (hframe : e.handleGatewayFrame limits frame = .ok e') :
    e'.Sound ∧ Accounts.Takes frame e.accounts e'.accounts := by
  have hhandled := frame_handled h hwindow hlimit hframe
  unfold Accounts.Takes
  cases hitem : item frame with
  | none =>
    simp only [hitem] at hhandled
    exact hhandled
  | some received =>
    simp only [hitem] at hhandled
    exact hhandled

/-- The gateway has seen no WINDOW_UPDATE whose bytes the window still has to get back. -/
def Repaid (e : Endpoint) : Prop :=
  ∀ i ∈ e.crediting, e.tables.streamLifecycle.isRetired i = false →
    headBytes (e.stream i).inboundQueue ≤ updateBytes i e.outbox

instance (e : Endpoint) : Decidable e.Repaid :=
  inferInstanceAs (Decidable (∀ i ∈ e.crediting, _ → _ ≤ _))

/-- DATA that the gateway sent within its credit fits the window, if the window counts few
enough frames. -/
theorem consume_of_covered (h : e.Sound) {peer : Accounts} {outbox : List StreamFrame}
    (hcovered : Accounts.Covered e.accounts peer)
    (houtbox : peer.outbox = ⟨i, .data bytes⟩ :: outbox)
    (hactive : i ∈ e.tables.streamLifecycle.active) (hrepaid : e.Repaid)
    (hframes : e.tables.inboundFlow.pendingFrames < e.tables.inboundFlow.maxPendingFrames) :
    ∃ inboundFlow, e.tables.inboundFlow.consume i bytes = .ok inboundFlow := by
  have howed : ∀ j, e.accounts.port.owed j ≤ credits e.accounts.port.outbox j :=
    Accounts.owed_le_credits hrepaid
  have hlive : i ∉ e.accounts.port.shut := by
    have hnot : e.accounts.retired i = false := not_retired_of_active hactive
    simp [Accounts.port, hnot]
  obtain ⟨hbytes, hstream, hconnection⟩ :=
    Covers.accepts hcovered (Accounts.popped_item houtbox rfl) hlive howed
  exact InboundFlowWindow.consume_accepts h.coherent.inbound
    ((h.coherent.inboundStreams i).mpr hactive) hbytes hstream hconnection hframes

/-- An event that carries an operation through leaves nothing announced. -/
def Event.isWhole : Event → Bool
  | .announce _ => false
  | .announced _ => false
  | _ => true

theorem cancelAndReset_crediting (e : Endpoint) (i : ℕ) (code : String) :
    (e.cancelAndReset i code).crediting = e.crediting := by
  unfold cancelAndReset
  split
  · rfl
  · dsimp only
    split <;> rfl

theorem runOperation_crediting (h : e.runOperation i = some (.ok e')) :
    e'.crediting = e.crediting := by
  obtain ⟨-, ⟨bytes, rest, -, -, rfl⟩ | ⟨bytes, rest, -, -, hrelease⟩ | ⟨rest, -, hend⟩⟩ :=
    runOperation_ok h
  · rfl
  · obtain ⟨inboundFlow, -, rfl⟩ := release_ok hrelease
    rfl
  · obtain ⟨-, rfl⟩ | ⟨-, -, -, rfl⟩ := runEnd_ok hend
    · rfl
    · rfl

theorem event_crediting {event : Event} (hwhole : event.isWhole = true)
    (hstep : e.step event = some (.ok e')) : e'.crediting = e.crediting := by
  cases event with
  | respond i headers =>
    simp only [step] at hstep
    split at hstep <;> cases hstep
    rfl
  | upgrade i headers =>
    simp only [step] at hstep
    split at hstep <;> cases hstep
    rfl
  | take i maximumBytes =>
    simp only [step] at hstep
    split at hstep
    · obtain ⟨taken, htake, hok⟩ := Option.map_eq_some_iff.mp hstep
      cases hok
      obtain ⟨outboundFlow, settled, -, rfl⟩ := take_some htake
      rfl
    · cases hstep
  | sendGranted =>
    simp only [step] at hstep
    split at hstep <;> cases hstep
    rfl
  | respondEnd i =>
    simp only [step] at hstep
    split at hstep <;> cases hstep
    rfl
  | endSent i =>
    simp only [step] at hstep
    split at hstep <;> cases hstep
    unfold endSent
    dsimp only
    split
    · exact cancelAndReset_crediting _ i _
    · rfl
  | localReset i code =>
    simp only [step] at hstep
    split at hstep <;> cases hstep
    exact cancelAndReset_crediting e i code
  | operation i => exact runOperation_crediting hstep
  | announce i => cases hwhole
  | announced i => cases hwhole

theorem frame_crediting {limits : Limits} {frame : StreamFrame}
    (hframe : e.handleGatewayFrame limits frame = .ok e') : e'.crediting = e.crediting := by
  obtain ⟨metadata, -, hopen⟩ | ⟨-, -, inboundFlow, -, rfl⟩ | ⟨-, -, -, -, haccept⟩ :=
    handleGatewayFrame_ok hframe
  · obtain ⟨streamLifecycle, outboundFlow, settled, inboundFlow, -, -, -, rfl⟩ :=
      openStream_ok hopen
    rfl
  · rfl
  · unfold acceptActive at haccept
    split at haccept
    · cases haccept
    · obtain ⟨outboundFlow, settled, -, rfl⟩ := acceptUpdate_ok haccept
      rfl
    · obtain ⟨inboundFlow, -, henqueue⟩ := acceptData_ok haccept
      obtain ⟨-, -, rfl⟩ := enqueue_ok henqueue
      rfl
    · obtain ⟨-, -, rfl⟩ := enqueue_ok haccept
      rfl
    · cases haccept
    · obtain ⟨-, rfl⟩ := acceptReset_ok haccept
      rfl
    · cases haccept

theorem repaid_of_idle (h : e.crediting = ∅) : e.Repaid := by
  intro i hi
  rw [h] at hi
  exact absurd hi (Finset.notMem_empty i)

end Endpoint

end Lotur.Client
