import Lotur.Gateway.Endpoint
import Lotur.Relay.Accounts

/-! The gateway's end as a port of the credit protocol, as the client's. -/
namespace Lotur.Gateway

open CreditProtocol

namespace Endpoint

/-- A stream that was issued and is not in the map any more. -/
def isRetired (e : Endpoint) (i : ℕ) : Bool := e.streamIds.wasIssued i && i ∉ e.streams

noncomputable def accounts (e : Endpoint) : Accounts where
  outboundFlow := e.outboundFlow
  grants := e.grants
  retired := e.isRetired
  held := e.inboundFlow.held
  crediting := e.crediting
  queue := fun i => (e.stream i).downstreamQueue
  outbox := e.outbox

/-- The map agrees with the windows, a cancelled stream is not in it, and ids that were not
issued have nothing queued. -/
structure Coherent (e : Endpoint) : Prop where
  inbound : e.inboundFlow.Balanced INITIAL_STREAM_WINDOW_BYTES INITIAL_CONNECTION_WINDOW_BYTES
  inboundStreams : ∀ i, i ∈ e.inboundFlow.streams ↔ i ∈ e.streams
  outboundStreams : ∀ i, i ∈ e.outboundFlow.streams → i ∈ e.streams
  issued : ∀ i ∈ e.streams, e.streamIds.wasIssued i = true
  cancelled : ∀ i ∈ e.streams, (e.stream i).cancelled = false
  fresh : ∀ i, e.streamIds.highestIssuedStreamId < i → (e.stream i).downstreamQueue = []
  numbering : e.streamIds.highestIssuedStreamId = 0 ∨ e.streamIds.highestIssuedStreamId % 2 = 1

structure Sound (e : Endpoint) : Prop where
  accounts : e.accounts.Sound
  coherent : e.Coherent

variable {e e' : Endpoint} {i bytes : ℕ}

/-- Only the ids, the map, the records and the windows matter. -/
theorem Coherent.same (h : e.Coherent) (hids : e'.streamIds = e.streamIds)
    (hstreams : e'.streams = e.streams) (hstream : e'.stream = e.stream)
    (hinbound : e'.inboundFlow = e.inboundFlow) (houtbound : e'.outboundFlow = e.outboundFlow) :
    e'.Coherent := by
  refine ⟨?_, ?_, ?_, ?_, ?_, ?_, ?_⟩
  · rw [hinbound]
    exact h.inbound
  · rw [hinbound, hstreams]
    exact h.inboundStreams
  · rw [houtbound, hstreams]
    exact h.outboundStreams
  · rw [hstreams, hids]
    exact h.issued
  · rw [hstreams, hstream]
    exact h.cancelled
  · rw [hids, hstream]
    exact h.fresh
  · rw [hids]
    exact h.numbering

theorem Coherent.update (h : e.Coherent) {record : GatewayStream}
    (hcancelled : i ∈ e.streams → record.cancelled = false)
    (hfresh : e.streamIds.highestIssuedStreamId < i → record.downstreamQueue = []) :
    (e.setStream i record).Coherent := by
  refine ⟨h.inbound, h.inboundStreams, h.outboundStreams, h.issued, ?_, ?_, h.numbering⟩
  · intro j hj
    show (Function.update e.stream i record j).cancelled = false
    by_cases hij : j = i
    · subst hij
      rw [Function.update_self]
      exact hcancelled hj
    · rw [Function.update_of_ne hij]
      exact h.cancelled j hj
  · intro j hj
    show (Function.update e.stream i record j).downstreamQueue = []
    by_cases hij : j = i
    · subst hij
      rw [Function.update_self]
      exact hfresh hj
    · rw [Function.update_of_ne hij]
      exact h.fresh j hj

theorem Coherent.issued_le (h : e.Coherent) (hmem : i ∈ e.streams) :
    i ≤ e.streamIds.highestIssuedStreamId := by
  have hissued := h.issued i hmem
  simp only [GatewayStreamIds.wasIssued, Bool.and_eq_true, decide_eq_true_eq] at hissued
  exact hissued.1.2

theorem queue_update (records : ℕ → GatewayStream) (i : ℕ) (record : GatewayStream) :
    (fun j => (Function.update records i record j).downstreamQueue) =
      Function.update (fun j => (records j).downstreamQueue) i record.downstreamQueue := by
  funext j
  by_cases hj : j = i
  · subst hj
    simp
  · simp [hj]

theorem queue_kept {records : ℕ → GatewayStream} {record : GatewayStream}
    (h : record.downstreamQueue = (records i).downstreamQueue) :
    (fun j => (Function.update records i record j).downstreamQueue) =
      fun j => (records j).downstreamQueue := by
  rw [queue_update, h]
  exact Function.update_eq_self i _

theorem setStream_accounts {record : GatewayStream}
    (h : record.downstreamQueue = (e.stream i).downstreamQueue) :
    (e.setStream i record).accounts = e.accounts := by
  show Accounts.mk _ _ _ _ _ (fun j => (Function.update e.stream i record j).downstreamQueue) _ = _
  rw [queue_kept h]
  rfl

theorem not_retired_of_mem (h : i ∈ e.streams) : e.accounts.retired i = false := by
  show (e.streamIds.wasIssued i && i ∉ e.streams) = false
  simp [h]

/-- The endpoint stays sound, and what it did is a sequence of moves. -/
def Advances (e e' : Endpoint) : Prop :=
  e'.Sound ∧ Accounts.Moves e.accounts.port e'.accounts.port

theorem Advances.trans {e'' : Endpoint} (h : Advances e e') (h' : Advances e' e'') :
    Advances e e'' := ⟨h'.1, h.2.trans h'.2⟩

theorem Advances.of_accounts (accounts : Accounts) (haccounts : e'.accounts = accounts)
    (hcoherent : e'.Coherent)
    (h : accounts.Sound ∧ Accounts.Moves e.accounts.port accounts.port) : Advances e e' := by
  subst haccounts
  exact ⟨⟨h.1, hcoherent⟩, h.2⟩

theorem Sound.advances_of_accounts (h : e.Sound) (hcoherent : e'.Coherent)
    (haccounts : e'.accounts = e.accounts) : Advances e e' :=
  Advances.of_accounts e.accounts haccounts hcoherent ⟨h.accounts, Accounts.Moves.refl _⟩

theorem Sound.advances_record (h : e.Sound) (i : ℕ) (record : GatewayStream)
    (hqueue : record.downstreamQueue = (e.stream i).downstreamQueue)
    (hcancelled : record.cancelled = (e.stream i).cancelled) :
    Advances e (e.setStream i record) := by
  refine h.advances_of_accounts (h.coherent.update ?_ ?_) (setStream_accounts hqueue)
  · exact fun hmem => hcancelled.trans (h.coherent.cancelled i hmem)
  · exact fun hnew => hqueue.trans (h.coherent.fresh i hnew)

/-- Removing a stream of the map closes its accounts. -/
theorem remove_close (h : e.Sound) (hmem : i ∈ e.streams) (record : GatewayStream)
    {retirement : RetirementKind}
    (hqueue : record.downstreamQueue = (e.stream i).downstreamQueue)
    (hremove : (e.setStream i record).remove i retirement = .ok e') :
    e'.Sound ∧ e'.accounts = e.accounts.close i (e.outboundFlow.closeStream i).1
      (e.outboundFlow.closeStream i).2 := by
  obtain ⟨inboundFlow, hclosed, he'⟩ := remove_ok hremove
  have hsettles := OutboundFlowWindow.closeStream_settles h.accounts.balanced i
  have hholds : GatewayInboundFlow.Holds INITIAL_STREAM_WINDOW_BYTES
      INITIAL_CONNECTION_WINDOW_BYTES (e.inboundFlow.held.erase i)
      (fun j => j ≠ i ∧ j ∈ e.inboundFlow.streams) inboundFlow := by
    cases retirement with
    | localReset => exact GatewayInboundFlow.retireStream_holds h.coherent.inbound hclosed
    | normal => exact GatewayInboundFlow.closeStream_holds h.coherent.inbound hclosed
  have hretired : (fun j => e.streamIds.wasIssued j && decide (j ∉ e.streams.erase i)) =
      fun j => e.isRetired j || j = i := by
    funext j
    unfold isRetired
    by_cases hj : j = i
    · subst hj
      simp [h.coherent.issued j hmem]
    · simp [hj]
  have haccounts : e'.accounts =
      e.accounts.close i (e.outboundFlow.closeStream i).1 (e.outboundFlow.closeStream i).2 := by
    rw [he']
    show Accounts.mk _ _ (fun j => e.streamIds.wasIssued j && decide (j ∉ e.streams.erase i))
      inboundFlow.held _ (fun j => (Function.update e.stream i record j).downstreamQueue) _ = _
    rw [hholds.held, hretired, queue_kept hqueue]
    rfl
  have hsound : e'.accounts.Sound := by
    rw [haccounts]
    exact h.accounts.close i ⟨_, hsettles⟩
  subst he'
  refine ⟨⟨hsound, hholds.balanced, ?_, ?_, ?_, ?_, ?_, h.coherent.numbering⟩, haccounts⟩
  · intro j
    show j ∈ inboundFlow.streams ↔ j ∈ e.streams.erase i
    rw [hholds.streams j, h.coherent.inboundStreams j, Finset.mem_erase]
  · intro j hj
    obtain ⟨hne, hold⟩ := (hsettles.streams j).mp hj
    exact Finset.mem_erase.mpr ⟨hne, h.coherent.outboundStreams j hold⟩
  · intro j hj
    exact h.coherent.issued j (Finset.mem_of_mem_erase hj)
  · intro j hj
    obtain ⟨hne, hold⟩ := Finset.mem_erase.mp hj
    show (Function.update e.stream i record j).cancelled = false
    rw [Function.update_of_ne hne]
    exact h.coherent.cancelled j hold
  · intro j hj
    show (Function.update e.stream i record j).downstreamQueue = []
    rw [congrFun (queue_kept hqueue) j]
    exact h.coherent.fresh j hj

theorem closeStream_settlesTo (h : e.Sound) (i : ℕ) :
    Accounts.SettlesTo (e.outboundFlow.outstanding.erase i) (e.outboundFlow.closeStream i).1
      (e.outboundFlow.closeStream i).2 :=
  ⟨_, OutboundFlowWindow.closeStream_settles h.accounts.balanced i⟩

theorem Sound.send (h : e.Sound) (i : ℕ) (body : FrameBody) : (e.send i body).Sound :=
  ⟨h.accounts.send i body, h.coherent.same rfl rfl rfl rfl rfl⟩

theorem Sound.popped (h : e.Sound) (outbox : List StreamFrame) :
    ({ e with outbox } : Endpoint).Sound :=
  ⟨h.accounts.popped outbox, h.coherent.same rfl rfl rfl rfl rfl⟩

theorem Sound.advances_send (h : e.Sound) {body : FrameBody} (hbody : item ⟨i, body⟩ = none) :
    Advances e (e.send i body) := by
  have hport : (e.accounts.send i body).port = e.accounts.port :=
    Accounts.send_other_port e.accounts i hbody
  refine ⟨h.send i body, ?_⟩
  show Accounts.Moves e.accounts.port (e.accounts.send i body).port
  rw [hport]
  exact Accounts.Moves.refl _

/-- A local error closes the accounts of the stream and sends RESET_STREAM. -/
theorem cancelAndReset_close (h : e.Sound) (hmem : i ∈ e.streams) {record : GatewayStream}
    {code : String} (hqueue : record.downstreamQueue = (e.stream i).downstreamQueue)
    (hcancel : (e.setStream i record).cancelAndReset i code = .ok e') :
    e'.Sound ∧ e'.accounts = (e.accounts.close i (e.outboundFlow.closeStream i).1
      (e.outboundFlow.closeStream i).2).send i (.resetStream (.ok code)) := by
  obtain ⟨removed, hremoved, rfl⟩ := cancelAndReset_ok hcancel
  have hcancelled : (e.setStream i record).setCancelled i =
      e.setStream i { record with cancelled := true } := by
    simp [setCancelled, setStream]
  rw [hcancelled] at hremoved
  obtain ⟨hsound, haccounts⟩ := remove_close h hmem { record with cancelled := true } hqueue
    hremoved
  refine ⟨hsound.send i _, ?_⟩
  rw [← haccounts]
  rfl

theorem cancelAndReset_advances (h : e.Sound) (hmem : i ∈ e.streams) {record : GatewayStream}
    {code : String} (hqueue : record.downstreamQueue = (e.stream i).downstreamQueue)
    (hcancel : (e.setStream i record).cancelAndReset i code = .ok e') : Advances e e' := by
  obtain ⟨hsound, haccounts⟩ := cancelAndReset_close h hmem hqueue hcancel
  refine ⟨hsound, ?_⟩
  rw [haccounts]
  exact Accounts.reset_moves i code (closeStream_settlesTo h i)

/-- A stream that ended on both sides goes with nothing outstanding. -/
theorem maybeDeleteStream_advances (h : e.Sound) (hmem : i ∈ e.streams) (record : GatewayStream)
    (hqueue : record.downstreamQueue = (e.stream i).downstreamQueue)
    (hcancelled : record.cancelled = (e.stream i).cancelled)
    (hsettled : record.isFinished = true → e.outboundFlow.outstandingBytes i = 0)
    (hdelete : (e.setStream i record).maybeDeleteStream i = .ok e') : Advances e e' := by
  obtain ⟨hfinished, hremove⟩ | rfl := maybeDeleteStream_ok hdelete
  · obtain ⟨hsound, haccounts⟩ := remove_close h hmem record hqueue hremove
    refine ⟨hsound, ?_⟩
    rw [haccounts]
    refine Accounts.finish_moves i (hsettled ?_) (closeStream_settlesTo h i)
    simpa [setStream] using hfinished
  · exact h.advances_record i record hqueue hcancelled

theorem take_advances (h : e.Sound) {maximumBytes : ℕ}
    (htake : e.take i maximumBytes = some e') : Advances e e' := by
  obtain ⟨outboundFlow, settled, htaken, rfl⟩ := take_some htake
  have hsettles := OutboundFlowWindow.take_settles h.accounts.balanced htaken
  refine ⟨⟨h.accounts.serve ⟨_, hsettles⟩, ?_⟩, Accounts.serve_moves ⟨_, hsettles⟩⟩
  exact ⟨h.coherent.inbound, h.coherent.inboundStreams,
    fun j hj => h.coherent.outboundStreams j ((hsettles.streams j).mp hj), h.coherent.issued,
    h.coherent.cancelled, h.coherent.fresh, h.coherent.numbering⟩

theorem popped_accounts (e : Endpoint) (i : ℕ) (rest : List Operation) :
    (e.popOperation i rest).accounts = e.accounts.setQueue i rest := by
  show Accounts.mk _ _ _ _ _ (fun j => (Function.update e.stream i _ j).downstreamQueue) _ = _
  rw [queue_update]
  rfl

theorem popped_coherent (h : e.Sound) {operation : Operation} {rest : List Operation}
    (hqueue : (e.stream i).downstreamQueue = operation :: rest) :
    (e.popOperation i rest).Coherent := by
  refine h.coherent.update (fun hmem => h.coherent.cancelled i hmem) ?_
  intro hnew
  rw [h.coherent.fresh i hnew] at hqueue
  cases hqueue

theorem popOperation_advances (h : e.Sound) {operation : Operation} {rest : List Operation}
    (hqueue : (e.stream i).downstreamQueue = operation :: rest) (hidle : i ∉ e.crediting) :
    Advances e (e.popOperation i rest) := by
  have hbytes : queuedBytes rest ≤ queuedBytes (e.accounts.queue i) := by
    show _ ≤ queuedBytes (e.stream i).downstreamQueue
    rw [hqueue]
    exact Accounts.queuedBytes_tail_le
  have hport : (e.accounts.setQueue i rest).port = e.accounts.port :=
    Accounts.setQueue_port hidle rest
  refine Advances.of_accounts _ (popped_accounts e i rest) (popped_coherent h hqueue)
    ⟨h.accounts.setQueue hbytes hidle, ?_⟩
  rw [hport]
  exact Accounts.Moves.refl _

/-- What the window's `release` leaves of a coherent endpoint. -/
theorem Coherent.release (h : e.Coherent) {inboundFlow : GatewayInboundFlow}
    (hrelease : e.inboundFlow.release i bytes = .ok inboundFlow) :
    ({ e with inboundFlow } : Endpoint).Coherent := by
  obtain ⟨-, hholds⟩ := GatewayInboundFlow.release_holds h.inbound hrelease
  exact ⟨hholds.balanced, fun j => (hholds.streams j).trans (h.inboundStreams j),
    h.outboundStreams, h.issued, h.cancelled, h.fresh, h.numbering⟩

/-- The record of a released chunk counts one frame less. -/
theorem released_coherent (h : e.Coherent) {inboundFlow : GatewayInboundFlow}
    (hrelease : e.inboundFlow.release i bytes = .ok inboundFlow) :
    ({ e.setStream i { e.stream i with
      downstreamQueuedFrames := (e.stream i).downstreamQueuedFrames - 1 } with
        inboundFlow } : Endpoint).Coherent := by
  have hcounted : (e.setStream i { e.stream i with
      downstreamQueuedFrames := (e.stream i).downstreamQueuedFrames - 1 }).Coherent :=
    h.update (fun hmem => h.cancelled i hmem) (fun hnew => h.fresh i hnew)
  have hreleased := hcounted.release hrelease
  exact hreleased

theorem released_accounts (e : Endpoint) (i : ℕ) (inboundFlow : GatewayInboundFlow) :
    ({ e.setStream i { e.stream i with
      downstreamQueuedFrames := (e.stream i).downstreamQueuedFrames - 1 } with
        inboundFlow } : Endpoint).accounts = { e.accounts with held := inboundFlow.held } := by
  have hkept : (e.setStream i { e.stream i with
      downstreamQueuedFrames := (e.stream i).downstreamQueuedFrames - 1 }).accounts =
      e.accounts := setStream_accounts rfl
  rw [← hkept]
  rfl

/-- A DATA operation that runs through gives its bytes back, or resets the stream. -/
theorem credit_advances (h : e.Sound) (hmem : i ∈ e.streams) {rest : List Operation}
    (hqueue : (e.stream i).downstreamQueue = .data bytes :: rest) (hidle : i ∉ e.crediting)
    (hrelease : ((e.popOperation i rest).sendWindowUpdate i bytes).release i bytes = .ok e') :
    Advances e e' := by
  have hsent : ((e.popOperation i rest).sendWindowUpdate i bytes).Sound :=
    (popOperation_advances h hqueue hidle).1.send i _
  have hbase : ((e.popOperation i rest).sendWindowUpdate i bytes).accounts =
      (e.accounts.setQueue i rest).send i (.windowUpdate (.ok bytes)) := by
    rw [← popped_accounts e i rest]
    rfl
  obtain ⟨inboundFlow, hreleased, rfl⟩ | hcancel := release_ok hrelease
  · obtain ⟨hheld, hholds⟩ := GatewayInboundFlow.release_holds h.coherent.inbound hreleased
    refine Advances.of_accounts (e.accounts.credit i bytes rest) ?_
      (released_coherent hsent.coherent hreleased)
      (Accounts.credit_moves h.accounts hidle hqueue hheld)
    rw [released_accounts, hbase, hholds.held]
    rfl
  · have hreset : (((e.popOperation i rest).sendWindowUpdate i bytes).setStream i
        (((e.popOperation i rest).sendWindowUpdate i bytes).stream i)).cancelAndReset i
          "DOWNSTREAM_WRITE_FAILED" = .ok e' := by
      rw [← hcancel]
      simp [setStream]
    obtain ⟨hsound, haccounts⟩ := cancelAndReset_close hsent hmem rfl hreset
    refine ⟨hsound, ?_⟩
    rw [haccounts, hbase]
    exact Accounts.credit_reset_moves h.accounts "DOWNSTREAM_WRITE_FAILED" hidle hqueue
      (not_retired_of_mem hmem) (closeStream_settlesTo h i)

/-- The gateway's condition: when a stream goes because both its sides ended, every byte it sent
has been credited. -/
def Settled (e : Endpoint) : Event → Prop
  | .operation i => (e.stream i).downstreamQueue.head? = some .endStream → i ∈ e.streams →
    ({ e.stream i with responseFinished := true } : GatewayStream).isFinished = true →
      e.outboundFlow.outstandingBytes i = 0
  | .endSent i => i ∈ e.streams → (e.stream i).isFinished = true →
      e.outboundFlow.outstandingBytes i = 0
  | _ => True

theorem runEnd_advances (h : e.Sound)
    (hsettled : i ∈ e.streams →
      ({ e.stream i with responseFinished := true } : GatewayStream).isFinished = true →
        e.outboundFlow.outstandingBytes i = 0)
    (hend : e.runEnd i = .ok e') : Advances e e' := by
  obtain rfl | ⟨hlive, hdelete⟩ := runEnd_ok hend
  · exact h.advances_of_accounts h.coherent rfl
  · have hmem : i ∈ e.streams := by
      simp only [isLive, Bool.and_eq_true, decide_eq_true_eq] at hlive
      exact hlive.1
    exact maybeDeleteStream_advances h hmem { e.stream i with responseFinished := true } rfl rfl
      (hsettled hmem) hdelete

theorem runOperation_advances (h : e.Sound) (hsettled : e.Settled (.operation i))
    (hrun : e.runOperation i = some (.ok e')) : Advances e e' := by
  obtain ⟨hidle, ⟨bytes, rest, hqueue, ⟨-, rfl⟩ | ⟨hlive, hrelease⟩⟩ | ⟨rest, hqueue, hend⟩⟩ :=
    runOperation_ok hrun
  · exact popOperation_advances h hqueue hidle
  · have hmem : i ∈ e.streams := by
      simp only [isLive, Bool.and_eq_true, decide_eq_true_eq] at hlive
      exact hlive.1
    exact credit_advances h hmem hqueue hidle hrelease
  · have hpopped := popOperation_advances h hqueue hidle
    refine hpopped.trans (runEnd_advances hpopped.1 ?_ hend)
    intro hmem hfinished
    refine hsettled (by rw [hqueue]; rfl) hmem ?_
    simpa [popOperation, setStream, GatewayStream.isFinished] using hfinished

theorem announce_advances (h : e.Sound) (hannounce : e.announce i = some e') :
    Advances e e' := by
  obtain ⟨hidle, bytes, rest, hqueue, ⟨-, rfl⟩ | ⟨-, rfl⟩⟩ := announce_some hannounce
  · exact Advances.of_accounts (e.accounts.announce i bytes) rfl
      (h.coherent.same rfl rfl rfl rfl rfl)
      (Accounts.announce_moves h.accounts hidle hqueue)
  · exact popOperation_advances h hqueue hidle

theorem announced_advances (h : e.Sound) (hannounced : e.announced i = some (.ok e')) :
    Advances e e' := by
  obtain ⟨hcrediting, bytes, rest, hqueue, hrest⟩ := announced_ok hannounced
  have hcoherent : ({ e.popOperation i rest with
      crediting := e.crediting.erase i } : Endpoint).Coherent :=
    (popped_coherent h hqueue).same rfl rfl rfl rfl rfl
  have hbase : ({ e.popOperation i rest with
      crediting := e.crediting.erase i } : Endpoint).accounts = e.accounts.abandon i rest := by
    have hpopped := congrArg Accounts.queue (popped_accounts e i rest)
    show Accounts.mk _ _ _ _ _ (e.popOperation i rest).accounts.queue _ = _
    rw [hpopped]
    rfl
  have hsound := Accounts.abandon_sound h.accounts hqueue
  obtain ⟨hmem, hrelease⟩ | ⟨hgone, rfl⟩ := hrest
  · obtain ⟨inboundFlow, hreleased, rfl⟩ | hcancel := release_ok hrelease
    · obtain ⟨hheld, hholds⟩ := GatewayInboundFlow.release_holds h.coherent.inbound hreleased
      refine Advances.of_accounts (e.accounts.repay i bytes rest) ?_
        (released_coherent hcoherent hreleased)
        (Accounts.repay_moves h.accounts hcrediting hqueue hheld)
      rw [released_accounts, hbase, hholds.held]
      rfl
    · have hpopped : ({ e.popOperation i rest with
          crediting := e.crediting.erase i } : Endpoint).Sound := ⟨hbase ▸ hsound, hcoherent⟩
      have hreset : (({ e.popOperation i rest with
          crediting := e.crediting.erase i } : Endpoint).setStream i
            ((e.popOperation i rest).stream i)).cancelAndReset i "DOWNSTREAM_WRITE_FAILED" =
              .ok e' := by
        rw [← hcancel]
        simp [setStream]
      obtain ⟨hclosed, haccounts⟩ := cancelAndReset_close hpopped hmem rfl hreset
      refine ⟨hclosed, ?_⟩
      rw [haccounts, hbase]
      exact Accounts.abandon_reset_moves rest "DOWNSTREAM_WRITE_FAILED"
        (closeStream_settlesTo h i)
  · have hheld : e.accounts.held i = 0 :=
      amounts_of_not_mem (fun hmem => hgone ((h.coherent.inboundStreams i).mp hmem))
    have hport := Accounts.abandon_port h.accounts rest hheld
    exact Advances.of_accounts _ hbase hcoherent ⟨hsound, hport ▸ Accounts.Moves.refl _⟩

theorem endSent_advances (h : e.Sound) (hsettled : e.Settled (.endSent i))
    (hend : e.endSent i = .ok e') : Advances e e' := by
  have hcoherent : ({ e with endSends := e.endSends.erase i } : Endpoint).Coherent :=
    h.coherent.same rfl rfl rfl rfl rfl
  obtain rfl | ⟨hmem, hdelete⟩ := endSent_ok hend
  · exact h.advances_of_accounts hcoherent rfl
  · have herased : ({ e with endSends := e.endSends.erase i } : Endpoint).Sound :=
      ⟨h.accounts, hcoherent⟩
    have hkept : (({ e with endSends := e.endSends.erase i } : Endpoint).setStream i
        (e.stream i)).maybeDeleteStream i = .ok e' := by
      rw [← hdelete]
      simp [setStream]
    have hdeleted := maybeDeleteStream_advances herased hmem (e.stream i) rfl rfl
      (hsettled hmem) hkept
    exact hdeleted

theorem issue_fresh {streamIds streamIds' : GatewayStreamIds}
    (hnumbering : streamIds.highestIssuedStreamId = 0 ∨ streamIds.highestIssuedStreamId % 2 = 1)
    (hissue : streamIds.issue = .ok (i, streamIds')) :
    streamIds.highestIssuedStreamId < i ∧ streamIds' = ⟨i⟩ ∧ i % 2 = 1 := by
  unfold GatewayStreamIds.issue GatewayStreamIds.next at hissue
  split at hissue
  · cases hissue
  · cases hissue
    refine ⟨?_, rfl, ?_⟩
    · split_ifs <;> omega
    · split_ifs <;> omega

theorem openStream_advances (h : e.Sound) {limits : Limits} {kind : StreamKind}
    {methodAllowsBody : Bool} (hopen : e.openStream limits kind methodAllowsBody = some e') :
    Advances e e' := by
  obtain ⟨-, i, streamIds, outboundFlow, settled, inboundFlow, hissue, houtbound, hinbound, rfl⟩ :=
    openStream_some hopen
  obtain ⟨hnew, rfl, hodd⟩ := issue_fresh h.coherent.numbering hissue
  have hsettles := OutboundFlowWindow.openStream_settles h.accounts.balanced le_rfl houtbound
  have hholds := GatewayInboundFlow.openStream_holds h.coherent.inbound hinbound
  have hissued : ∀ j, e.streamIds.wasIssued j = true →
      GatewayStreamIds.wasIssued ⟨i⟩ j = true := by
    intro j hj
    simp only [GatewayStreamIds.wasIssued, Bool.and_eq_true, decide_eq_true_eq] at hj ⊢
    exact ⟨⟨hj.1.1, by omega⟩, hj.2⟩
  have hretired : ∀ j, e.accounts.retired j = true →
      (GatewayStreamIds.wasIssued ⟨i⟩ j && decide (j ∉ insert i e.streams)) = true := by
    intro j hj
    have hold : e.streamIds.wasIssued j = true ∧ j ∉ e.streams := by
      have hj' : (e.streamIds.wasIssued j && decide (j ∉ e.streams)) = true := hj
      simpa using hj'
    have hne : j ≠ i := by
      have hle := hold.1
      simp only [GatewayStreamIds.wasIssued, Bool.and_eq_true, decide_eq_true_eq] at hle
      omega
    simp [hissued j hold.1, hne, hold.2]
  have hheld : ∀ j, (GatewayStreamIds.wasIssued ⟨i⟩ j && decide (j ∉ insert i e.streams)) = true →
      e.accounts.held j = 0 := by
    intro j hj
    refine amounts_of_not_mem ?_
    rw [h.coherent.inboundStreams j]
    simp only [Bool.and_eq_true, decide_eq_true_eq, Finset.mem_insert, not_or] at hj
    exact hj.2.2
  have hqueue : (GatewayStream.opened kind methodAllowsBody).downstreamQueue =
      (e.stream i).downstreamQueue := (h.coherent.fresh i hnew).symm
  obtain ⟨hsound, hmoves⟩ := Accounts.open_moves h.accounts ⟨_, hsettles⟩ hretired hheld
  have hopened : ({ e with
      streamIds := ⟨i⟩
      streams := insert i e.streams
      stream := Function.update e.stream i (.opened kind methodAllowsBody)
      outboundFlow, inboundFlow
      grants := e.grants ++ resolved settled } : Endpoint).Coherent := by
    refine ⟨hholds.balanced, ?_, ?_, ?_, ?_, ?_, Or.inr hodd⟩
    · intro j
      rw [hholds.streams j, h.coherent.inboundStreams j]
      exact Finset.mem_insert.symm
    · intro j hj
      rcases (hsettles.streams j).mp hj with heq | hmem
      · exact Finset.mem_insert.mpr (Or.inl heq)
      · exact Finset.mem_insert_of_mem (h.coherent.outboundStreams j hmem)
    · intro j hj
      rcases Finset.mem_insert.mp hj with heq | hmem
      · subst heq
        simp only [GatewayStreamIds.wasIssued, hodd]
        simp
        omega
      · exact hissued j (h.coherent.issued j hmem)
    · intro j hj
      show (Function.update e.stream i _ j).cancelled = false
      by_cases hij : j = i
      · subst hij
        rw [Function.update_self]
        rfl
      · rw [Function.update_of_ne hij]
        exact h.coherent.cancelled j (Finset.mem_of_mem_insert_of_ne hj hij)
    · intro j hj
      have hgreater : e.streamIds.highestIssuedStreamId < j := lt_trans hnew hj
      show (Function.update e.stream i _ j).downstreamQueue = []
      rw [congrFun (queue_kept hqueue) j]
      exact h.coherent.fresh j hgreater
  have haccounts : ({ e with
      streamIds := ⟨i⟩
      streams := insert i e.streams
      stream := Function.update e.stream i (.opened kind methodAllowsBody)
      outboundFlow, inboundFlow
      grants := e.grants ++ resolved settled } : Endpoint).accounts =
      { e.accounts with
        retired := fun j => GatewayStreamIds.wasIssued ⟨i⟩ j &&
          decide (j ∉ insert i e.streams) }.serve outboundFlow settled := by
    show Accounts.mk _ _ _ inboundFlow.held _
      (fun j => (Function.update e.stream i _ j).downstreamQueue) _ = _
    rw [hholds.held, queue_kept hqueue]
    rfl
  have hadvances := Advances.of_accounts _ haccounts hopened ⟨hsound, hmoves⟩
  have hsent := hadvances.1.advances_send (i := i)
    (show item ⟨i, .openHttp (.ok (openMetadata kind))⟩ = none from rfl)
  exact hadvances.trans hsent

theorem event_advances (h : e.Sound) {limits : Limits} {event : Event} (hsettled : e.Settled event)
    (hstep : e.step limits event = some (.ok e')) : Advances e e' := by
  cases event with
  | openStream kind methodAllowsBody =>
    simp only [step] at hstep
    obtain ⟨opened, hopen, hok⟩ := Option.map_eq_some_iff.mp hstep
    cases hok
    exact openStream_advances h hopen
  | take i maximumBytes =>
    simp only [step] at hstep
    split at hstep
    · obtain ⟨taken, htake, hok⟩ := Option.map_eq_some_iff.mp hstep
      cases hok
      exact take_advances h htake
    · cases hstep
  | sendGranted =>
    obtain ⟨i, bytes, grants, hgrants, rfl⟩ := sendGranted_ok hstep
    exact Advances.of_accounts _ rfl (h.coherent.same rfl rfl rfl rfl rfl)
      (Accounts.sendGranted_moves h.accounts hgrants)
  | requestEnd i =>
    obtain ⟨-, rfl⟩ := requestEnd_ok hstep
    have hended := h.advances_record i { e.stream i with requestEnded := true } rfl rfl
    have hsent := hended.trans (hended.1.advances_send (i := i)
      (show item ⟨i, .endStream⟩ = none from rfl))
    exact ⟨⟨hsent.1.accounts, hsent.1.coherent.same rfl rfl rfl rfl rfl⟩, hsent.2⟩
  | endSent i =>
    simp only [step] at hstep
    split at hstep
    · exact endSent_advances h hsettled (Option.some.inj hstep)
    · cases hstep
  | localReset i code =>
    simp only [step] at hstep
    split at hstep
    · rename_i hlive
      simp only [isLive, Bool.and_eq_true, decide_eq_true_eq] at hlive
      have hkept : (e.setStream i (e.stream i)).cancelAndReset i code = .ok e' := by
        rw [← Option.some.inj hstep]
        simp [setStream]
      exact cancelAndReset_advances h hlive.1 rfl hkept
    · cases hstep
  | operation i => exact runOperation_advances h hsettled hstep
  | announce i =>
    simp only [step] at hstep
    obtain ⟨announced, hannounce, hok⟩ := Option.map_eq_some_iff.mp hstep
    cases hok
    exact announce_advances h hannounce
  | announced i => exact announced_advances h hstep

/-- The endpoint handles an item, and what it does then is a sequence of moves. -/
def Handles (e : Endpoint) (item : Item ℕ) (e' : Endpoint) : Prop :=
  e'.Sound ∧ ∃ p, Receive e.accounts.port item p ∧ Accounts.Moves p e'.accounts.port

theorem acceptUpdate_handles (h : e.Sound) (hupdate : e.acceptUpdate i bytes = .ok e') :
    Handles e (.credit i bytes) e' := by
  obtain ⟨outboundFlow, settled, hupdated, rfl⟩ := acceptUpdate_ok hupdate
  obtain ⟨hbytes, hsettles⟩ := OutboundFlowWindow.update_settles h.accounts.balanced hupdated
  refine ⟨⟨h.accounts.serve ⟨_, hsettles⟩, ?_⟩, Accounts.update_moves hbytes ⟨_, hsettles⟩⟩
  exact ⟨h.coherent.inbound, h.coherent.inboundStreams,
    fun j hj => h.coherent.outboundStreams j ((hsettles.streams j).mp hj), h.coherent.issued,
    h.coherent.cancelled, h.coherent.fresh, h.coherent.numbering⟩

theorem acceptHeaders_advances (h : e.Sound) (hmem : i ∈ e.streams) {limits : Limits}
    {metadata : Except JsError ResponseHeaders}
    (hheaders : e.acceptHeaders limits i metadata = .ok e') : Advances e e' := by
  obtain ⟨record, haccepted, hsame⟩ := acceptHeaders_ok hheaders
  obtain rfl | hcancel := haccepted
  · exact h.advances_record i record hsame.queue hsame.cancelled
  · exact cancelAndReset_advances h hmem hsame.queue hcancel

theorem enqueue_accounts (e : Endpoint) (i : ℕ) (operation : Operation) :
    (e.enqueue i operation).accounts =
      e.accounts.setQueue i (e.accounts.queue i ++ [operation]) := by
  show Accounts.mk _ _ _ _ _ (fun j => (Function.update e.stream i _ j).downstreamQueue) _ = _
  rw [queue_update]
  rfl

theorem enqueue_coherent (h : e.Coherent) (hmem : i ∈ e.streams) (operation : Operation) :
    (e.enqueue i operation).Coherent := by
  refine h.update (fun _ => h.cancelled i hmem) ?_
  intro hnew
  have hissued := h.issued_le hmem
  omega

theorem acceptEnd_advances (h : e.Sound) (hmem : i ∈ e.streams) (hend : e.acceptEnd i = .ok e') :
    Advances e e' := by
  rw [acceptEnd_ok hend]
  have hended := h.advances_record i { e.stream i with responseEnded := true } rfl rfl
  obtain ⟨hsound, hport⟩ := Accounts.enqueueEnd_sound hended.1.accounts i
  refine hended.trans (Advances.of_accounts _ (enqueue_accounts _ i _)
    (enqueue_coherent hended.1.coherent hmem _) ⟨hsound, ?_⟩)
  rw [hport]
  exact Accounts.Moves.refl _

/-- The receive window has room for the chunk and counts it. -/
theorem reserve_charge (h : e.Sound) {reserved : Endpoint}
    (hreserve : e.reserveInboundChunk i bytes = .ok reserved) :
    reserved.Coherent ∧ reserved.streams = e.streams ∧
      reserved.accounts = e.accounts.charge i bytes := by
  obtain ⟨-, inboundFlow, hconsume, hreserved⟩ := reserveInboundChunk_ok hreserve
  have hholds := GatewayInboundFlow.consume_holds h.coherent.inbound hconsume
  have hcounted : (e.setStream i { e.stream i with
      downstreamQueuedFrames := (e.stream i).downstreamQueuedFrames + 1 }).Coherent :=
    h.coherent.update (fun hmem => h.coherent.cancelled i hmem)
      (fun hnew => h.coherent.fresh i hnew)
  have hkept : (e.setStream i { e.stream i with
      downstreamQueuedFrames := (e.stream i).downstreamQueuedFrames + 1 }).accounts =
      e.accounts := setStream_accounts rfl
  have haccounts : reserved.accounts = e.accounts.charge i bytes := by
    rw [hreserved, ← hkept]
    show Accounts.mk _ _ _ inboundFlow.held _ _ _ = _
    rw [hholds.held]
    rfl
  subst hreserved
  refine ⟨⟨hholds.balanced, ?_, hcounted.outboundStreams, hcounted.issued, hcounted.cancelled,
    hcounted.fresh, hcounted.numbering⟩, rfl, haccounts⟩
  exact fun j => (hholds.streams j).trans (h.coherent.inboundStreams j)

/-- DATA of a stream in the map is charged and queued, or charged and answered by a reset. -/
theorem acceptData_handles (h : e.Sound) (hmem : i ∈ e.streams) {limits : Limits}
    (hdata : e.acceptData limits i bytes = .ok e') : Handles e (.data i bytes) e' := by
  obtain ⟨reserved, record, hreserve, haccepted, hsame⟩ := acceptData_ok hdata
  obtain ⟨hcoherent, hstreams, haccounts⟩ := reserve_charge h hreserve
  have hlive : e.accounts.retired i = false := not_retired_of_mem hmem
  have hmem' : i ∈ reserved.streams := hstreams ▸ hmem
  obtain ⟨hcharged, hcharge⟩ := Accounts.charge_moves h.accounts bytes hlive
  have hsound : reserved.Sound := ⟨haccounts ▸ hcharged, hcoherent⟩
  obtain he' | hcancel := haccepted
  · obtain ⟨hreceived, hreceive⟩ := Accounts.receive_moves h.accounts bytes hlive
    have hrecord := hsound.advances_record i record hsame.queue hsame.cancelled
    have hqueued : e'.accounts = e.accounts.receive i bytes := by
      rw [he', enqueue_accounts, setStream_accounts hsame.queue, haccounts]
      rfl
    refine ⟨⟨hqueued ▸ hreceived, ?_⟩, _, hreceive, ?_⟩
    · rw [he']
      exact enqueue_coherent hrecord.1.coherent hmem' _
    · rw [hqueued]
      exact Accounts.Moves.refl _
  · obtain ⟨hreset, hmoves⟩ := cancelAndReset_advances hsound hmem' hsame.queue hcancel
    rw [haccounts] at hmoves
    exact ⟨hreset, _, hcharge, hmoves⟩

theorem acceptReset_handles (h : e.Sound) (hmem : i ∈ e.streams)
    (hreset : (e.setCancelled i).remove i .normal = .ok e') : Handles e (.reset i) e' := by
  obtain ⟨hsound, haccounts⟩ := remove_close h hmem { e.stream i with cancelled := true } rfl hreset
  refine ⟨hsound, ?_⟩
  rw [haccounts]
  exact Accounts.receiveReset_moves i (closeStream_settlesTo h i)

theorem retired_inbound (h : e.Sound) {frame : StreamFrame} {inboundFlow : GatewayInboundFlow}
    (hvalid : validateRetiredClientFrame e.inboundFlow frame = .ok inboundFlow) :
    GatewayInboundFlow.Holds INITIAL_STREAM_WINDOW_BYTES INITIAL_CONNECTION_WINDOW_BYTES
      e.inboundFlow.held (· ∈ e.inboundFlow.streams) inboundFlow := by
  have hsame : GatewayInboundFlow.Holds INITIAL_STREAM_WINDOW_BYTES INITIAL_CONNECTION_WINDOW_BYTES
      e.inboundFlow.held (· ∈ e.inboundFlow.streams) e.inboundFlow :=
    ⟨h.coherent.inbound, rfl, fun _ => Iff.rfl⟩
  have hmap : ∀ {α : Type} (metadata : Except JsError α),
      metadata.map (fun _ => e.inboundFlow) = .ok inboundFlow →
        inboundFlow = e.inboundFlow := by
    intro α metadata hmetadata
    cases metadata with
    | error error => cases hmetadata
    | ok value =>
      cases hmetadata
      rfl
  unfold validateRetiredClientFrame at hvalid
  split at hvalid
  · rw [hmap _ hvalid]
    exact hsame
  · split at hvalid
    · cases hvalid
    · exact GatewayInboundFlow.consumeRetiredData_holds h.coherent.inbound hvalid
  · cases hvalid
    exact hsame
  · rw [hmap _ hvalid]
    exact hsame
  · rw [hmap _ hvalid]
    exact hsame
  · cases hvalid

theorem retired_sound (h : e.Sound) {frame : StreamFrame} {inboundFlow : GatewayInboundFlow}
    (hvalid : validateRetiredClientFrame e.inboundFlow frame = .ok inboundFlow) :
    ({ e with inboundFlow } : Endpoint).Sound ∧
      ({ e with inboundFlow } : Endpoint).accounts = e.accounts := by
  have hholds := retired_inbound h hvalid
  have haccounts : ({ e with inboundFlow } : Endpoint).accounts = e.accounts := by
    show Accounts.mk _ _ _ inboundFlow.held _ _ _ = _
    rw [hholds.held]
    rfl
  refine ⟨⟨haccounts ▸ h.accounts, ?_⟩, haccounts⟩
  exact { h.coherent with
    inbound := hholds.balanced
    inboundStreams := fun j => (hholds.streams j).trans (h.coherent.inboundStreams j) }

/-- Every frame is one item, or none that flow control sees. -/
theorem frame_handled (h : e.Sound) {limits : Limits} {frame : StreamFrame}
    (hframe : e.handleClientFrame limits frame = .ok e') :
    match item frame with
    | none => Advances e e'
    | some received => Handles e received e' := by
  obtain ⟨hissued, hgone, inboundFlow, hvalid, rfl⟩ | ⟨hmem, -, haccept⟩ :=
    handleClientFrame_ok hframe
  · obtain ⟨hsound, haccounts⟩ := retired_sound h hvalid
    cases hitem : item frame with
    | none => exact h.advances_of_accounts hsound.coherent haccounts
    | some received =>
      refine ⟨hsound, e.accounts.port, Receive.retired received ?_, ?_⟩
      · rw [item_id hitem]
        show (e.streamIds.wasIssued frame.streamId && decide (frame.streamId ∉ e.streams)) = true
        simp [hissued, hgone]
      · rw [haccounts]
        exact Accounts.Moves.refl _
  · unfold acceptActive at haccept
    split at haccept
    · cases haccept
    · rename_i bytes hupdate
      simp only [item, hupdate]
      exact acceptUpdate_handles h haccept
    · rename_i metadata hheaders
      simp only [item, hheaders]
      exact acceptHeaders_advances h hmem haccept
    · rename_i bytes hdata
      simp only [item, hdata]
      exact acceptData_handles h hmem haccept
    · rename_i hend
      simp only [item, hend]
      exact acceptEnd_advances h hmem haccept
    · cases haccept
    · rename_i code hreset
      simp only [item, hreset]
      exact acceptReset_handles h hmem haccept
    · cases haccept

theorem remove_thrown {retirement : RetirementKind} {fault : Fault}
    (hremove : e.remove i retirement = .error fault) : fault.rejectedData = false := by
  unfold remove at hremove
  dsimp only at hremove
  split at hremove <;> cases hremove
  rfl

theorem cancelAndReset_thrown {code : String} {fault : Fault}
    (hcancel : e.cancelAndReset i code = .error fault) : fault.rejectedData = false := by
  unfold cancelAndReset at hcancel
  split at hcancel
  · rename_i hremove
    cases hcancel
    exact remove_thrown hremove
  · cases hcancel

theorem maybeDeleteStream_thrown {fault : Fault}
    (hdelete : e.maybeDeleteStream i = .error fault) : fault.rejectedData = false := by
  unfold maybeDeleteStream at hdelete
  split at hdelete
  · exact remove_thrown hdelete
  · cases hdelete

theorem release_thrown {fault : Fault} (hrelease : e.release i bytes = .error fault) :
    fault.rejectedData = false := by
  unfold release at hrelease
  split at hrelease
  · exact cancelAndReset_thrown hrelease
  · cases hrelease

theorem acceptHeaders_thrown {limits : Limits} {metadata : Except JsError ResponseHeaders}
    {fault : Fault} (hheaders : e.acceptHeaders limits i metadata = .error fault) :
    fault.rejectedData = false := by
  unfold acceptHeaders at hheaders
  split at hheaders
  · cases hheaders
    rfl
  · split at hheaders
    · cases hheaders
      rfl
    · split at hheaders
      · unfold acceptHttpHeaders at hheaders
        dsimp only at hheaders
        split at hheaders
        · exact cancelAndReset_thrown hheaders
        · cases hheaders
      · cases hheaders

theorem acceptEnd_thrown {fault : Fault} (hend : e.acceptEnd i = .error fault) :
    fault.rejectedData = false := by
  unfold acceptEnd at hend
  dsimp only at hend
  split at hend
  · cases hend
    rfl
  · split at hend <;> cases hend
    rfl

theorem acceptUpdate_thrown {fault : Fault} (hupdate : e.acceptUpdate i bytes = .error fault) :
    fault.rejectedData = false := by
  unfold acceptUpdate at hupdate
  split at hupdate <;> cases hupdate
  rfl

theorem acceptData_rejected {limits : Limits} {fault : Fault}
    (hdata : e.acceptData limits i bytes = .error fault) (hrejected : fault.rejectedData = true) :
    ∃ error, e.inboundFlow.consume i bytes = .error error := by
  have hthrown : fault.rejectedData ≠ false := by
    rw [hrejected]
    exact Bool.noConfusion
  unfold acceptData at hdata
  split at hdata
  · cases hdata
    exact absurd rfl hthrown
  · split at hdata
    · rename_i hreserve
      cases hdata
      unfold reserveInboundChunk at hreserve
      dsimp only at hreserve
      split at hreserve
      · cases hreserve
        exact absurd rfl hthrown
      · split at hreserve
        · cases hreserve
          exact absurd rfl hthrown
        · split at hreserve
          · rename_i error hconsume
            exact ⟨error, hconsume⟩
          · cases hreserve
    · dsimp only at hdata
      split at hdata
      · cases hdata
      · split at hdata
        · exact absurd (cancelAndReset_thrown hdata) hthrown
        · cases hdata

/-- The receive window turns away only DATA of a stream in the map. -/
theorem frame_rejected {limits : Limits} {frame : StreamFrame} {fault : Fault}
    (hframe : e.handleClientFrame limits frame = .error fault)
    (hrejected : fault.rejectedData = true) :
    ∃ bytes error, frame.body = .data bytes ∧ frame.streamId ∈ e.streams ∧
      e.inboundFlow.consume frame.streamId bytes = .error error := by
  have hthrown : fault.rejectedData ≠ false := by
    rw [hrejected]
    exact Bool.noConfusion
  unfold handleClientFrame at hframe
  split at hframe
  · split at hframe <;> cases hframe
    exact absurd rfl hthrown
  · split at hframe
    · cases hframe
      exact absurd rfl hthrown
    · rename_i hlive
      simp only [not_or, not_not] at hlive
      unfold acceptActive at hframe
      split at hframe
      · cases hframe
        exact absurd rfl hthrown
      · exact absurd (acceptUpdate_thrown hframe) hthrown
      · exact absurd (acceptHeaders_thrown hframe) hthrown
      · rename_i bytes hbody
        obtain ⟨error, hconsume⟩ := acceptData_rejected hframe hrejected
        exact ⟨bytes, error, hbody, hlive.1, hconsume⟩
      · exact absurd (acceptEnd_thrown hframe) hthrown
      · cases hframe
        exact absurd rfl hthrown
      · exact absurd (remove_thrown hframe) hthrown
      · cases hframe
        exact absurd rfl hthrown

theorem runOperation_thrown {fault : Fault} (hrun : e.runOperation i = some (.error fault)) :
    fault.rejectedData = false := by
  unfold runOperation at hrun
  split at hrun
  · cases hrun
  · split at hrun
    · cases hrun
    · simp only [Option.some.injEq] at hrun
      split at hrun
      · exact release_thrown hrun
      · cases hrun
    · have hend := Option.some.inj hrun
      unfold runEnd at hend
      split at hend
      · exact maybeDeleteStream_thrown hend
      · cases hend

theorem announced_thrown {fault : Fault} (hannounced : e.announced i = some (.error fault)) :
    fault.rejectedData = false := by
  unfold announced at hannounced
  split at hannounced
  · split at hannounced
    · simp only [Option.some.injEq] at hannounced
      split at hannounced
      · exact release_thrown hannounced
      · cases hannounced
    · cases hannounced
  · cases hannounced

/-- The events that are not frames consume nothing. -/
theorem event_thrown {limits : Limits} {event : Event} {fault : Fault}
    (hstep : e.step limits event = some (.error fault)) : fault.rejectedData = false := by
  cases event with
  | openStream kind methodAllowsBody =>
    simp only [step] at hstep
    obtain ⟨opened, -, hok⟩ := Option.map_eq_some_iff.mp hstep
    cases hok
  | take i maximumBytes =>
    simp only [step] at hstep
    split at hstep
    · obtain ⟨taken, -, hok⟩ := Option.map_eq_some_iff.mp hstep
      cases hok
    · cases hstep
  | sendGranted =>
    simp only [step] at hstep
    split at hstep <;> cases hstep
  | requestEnd i =>
    simp only [step] at hstep
    split at hstep <;> cases hstep
  | endSent i =>
    simp only [step] at hstep
    split at hstep
    · have hend := Option.some.inj hstep
      unfold endSent at hend
      dsimp only at hend
      split at hend
      · exact maybeDeleteStream_thrown hend
      · cases hend
    · cases hstep
  | localReset i code =>
    simp only [step] at hstep
    split at hstep
    · exact cancelAndReset_thrown (Option.some.inj hstep)
    · cases hstep
  | operation i => exact runOperation_thrown hstep
  | announce i =>
    simp only [step] at hstep
    obtain ⟨announced, -, hok⟩ := Option.map_eq_some_iff.mp hstep
    cases hok
  | announced i => exact announced_thrown hstep

instance (e : Endpoint) : (event : Event) → Decidable (e.Settled event)
  | .operation i => inferInstanceAs (Decidable (_ → i ∈ e.streams → _ → _))
  | .endSent i => inferInstanceAs (Decidable (i ∈ e.streams → _ → _))
  | .openStream _ _ => isTrue trivial
  | .take _ _ => isTrue trivial
  | .sendGranted => isTrue trivial
  | .requestEnd _ => isTrue trivial
  | .localReset _ _ => isTrue trivial
  | .announce _ => isTrue trivial
  | .announced _ => isTrue trivial

theorem frame_taken (h : e.Sound) {limits : Limits} {frame : StreamFrame}
    (hframe : e.handleClientFrame limits frame = .ok e') :
    e'.Sound ∧ Accounts.Takes frame e.accounts e'.accounts := by
  have hhandled := frame_handled h hframe
  unfold Accounts.Takes
  cases hitem : item frame with
  | none =>
    simp only [hitem] at hhandled
    exact hhandled
  | some received =>
    simp only [hitem] at hhandled
    exact hhandled

/-- The client has seen no WINDOW_UPDATE whose bytes the window still has to get back. -/
def Repaid (e : Endpoint) : Prop :=
  ∀ i ∈ e.crediting, e.isRetired i = false →
    headBytes (e.stream i).downstreamQueue ≤ updateBytes i e.outbox

instance (e : Endpoint) : Decidable e.Repaid :=
  inferInstanceAs (Decidable (∀ i ∈ e.crediting, _ → _ ≤ _))

/-- DATA that the client sent within its credit fits the window. -/
theorem consume_of_covered (h : e.Sound) {peer : Accounts} {outbox : List StreamFrame}
    (hcovered : Accounts.Covered e.accounts peer)
    (houtbox : peer.outbox = ⟨i, .data bytes⟩ :: outbox) (hmem : i ∈ e.streams)
    (hrepaid : e.Repaid) : ∃ inboundFlow, e.inboundFlow.consume i bytes = .ok inboundFlow := by
  have howed : ∀ j, e.accounts.port.owed j ≤ credits e.accounts.port.outbox j :=
    Accounts.owed_le_credits hrepaid
  have hlive : i ∉ e.accounts.port.shut := by
    have hnot := not_retired_of_mem hmem
    simp [Accounts.port, hnot]
  obtain ⟨hbytes, hstream, hconnection⟩ :=
    Covers.accepts hcovered (Accounts.popped_item houtbox rfl) hlive howed
  exact GatewayInboundFlow.consume_accepts h.coherent.inbound
    ((h.coherent.inboundStreams i).mpr hmem) hbytes hstream hconnection

theorem cancelAndReset_crediting {code : String} (h : e.cancelAndReset i code = .ok e') :
    e'.crediting = e.crediting := by
  obtain ⟨removed, hremoved, rfl⟩ := cancelAndReset_ok h
  obtain ⟨inboundFlow, -, rfl⟩ := remove_ok hremoved
  rfl

theorem maybeDeleteStream_crediting (h : e.maybeDeleteStream i = .ok e') :
    e'.crediting = e.crediting := by
  obtain ⟨-, hremoved⟩ | rfl := maybeDeleteStream_ok h
  · obtain ⟨inboundFlow, -, rfl⟩ := remove_ok hremoved
    rfl
  · rfl

theorem runOperation_crediting (h : e.runOperation i = some (.ok e')) :
    e'.crediting = e.crediting := by
  obtain ⟨-, ⟨bytes, rest, -, ⟨-, rfl⟩ | ⟨-, hrelease⟩⟩ | ⟨rest, -, hend⟩⟩ := runOperation_ok h
  · rfl
  · obtain ⟨inboundFlow, -, rfl⟩ | hcancel := release_ok hrelease
    · rfl
    · have hkept := cancelAndReset_crediting hcancel
      exact hkept
  · obtain rfl | ⟨-, hdelete⟩ := runEnd_ok hend
    · rfl
    · have hkept := maybeDeleteStream_crediting hdelete
      exact hkept

/-- An event that carries an operation through leaves nothing announced. -/
def Event.isWhole : Event → Bool
  | .announce _ => false
  | .announced _ => false
  | _ => true

theorem event_crediting {limits : Limits} {event : Event} (hwhole : event.isWhole = true)
    (hstep : e.step limits event = some (.ok e')) : e'.crediting = e.crediting := by
  cases event with
  | openStream kind methodAllowsBody =>
    simp only [step] at hstep
    obtain ⟨opened, hopen, hok⟩ := Option.map_eq_some_iff.mp hstep
    cases hok
    obtain ⟨-, i, streamIds, outboundFlow, settled, inboundFlow, -, -, -, rfl⟩ :=
      openStream_some hopen
    rfl
  | take i maximumBytes =>
    simp only [step] at hstep
    split at hstep
    · obtain ⟨taken, htake, hok⟩ := Option.map_eq_some_iff.mp hstep
      cases hok
      obtain ⟨outboundFlow, settled, -, rfl⟩ := take_some htake
      rfl
    · cases hstep
  | sendGranted =>
    obtain ⟨i, bytes, grants, -, rfl⟩ := sendGranted_ok hstep
    rfl
  | requestEnd i =>
    obtain ⟨-, rfl⟩ := requestEnd_ok hstep
    rfl
  | endSent i =>
    simp only [step] at hstep
    split at hstep
    · obtain rfl | ⟨-, hdelete⟩ := endSent_ok (Option.some.inj hstep)
      · rfl
      · have hkept := maybeDeleteStream_crediting hdelete
        exact hkept
    · cases hstep
  | localReset i code =>
    simp only [step] at hstep
    split at hstep
    · exact cancelAndReset_crediting (Option.some.inj hstep)
    · cases hstep
  | operation i => exact runOperation_crediting hstep
  | announce i => cases hwhole
  | announced i => cases hwhole

theorem frame_crediting {limits : Limits} {frame : StreamFrame}
    (hframe : e.handleClientFrame limits frame = .ok e') : e'.crediting = e.crediting := by
  obtain ⟨-, -, inboundFlow, -, rfl⟩ | ⟨-, -, haccept⟩ := handleClientFrame_ok hframe
  · rfl
  · unfold acceptActive at haccept
    split at haccept
    · cases haccept
    · obtain ⟨outboundFlow, settled, -, rfl⟩ := acceptUpdate_ok haccept
      rfl
    · obtain ⟨record, rfl | hcancel, -⟩ := acceptHeaders_ok haccept
      · rfl
      · have hkept := cancelAndReset_crediting hcancel
        exact hkept
    · obtain ⟨reserved, record, hreserve, hrest, -⟩ := acceptData_ok haccept
      obtain ⟨-, inboundFlow, -, rfl⟩ := reserveInboundChunk_ok hreserve
      obtain rfl | hcancel := hrest
      · rfl
      · have hkept := cancelAndReset_crediting hcancel
        exact hkept
    · rw [acceptEnd_ok haccept]
      rfl
    · cases haccept
    · obtain ⟨inboundFlow, -, rfl⟩ := remove_ok haccept
      rfl
    · cases haccept

theorem repaid_of_idle (h : e.crediting = ∅) : e.Repaid := by
  intro i hi
  rw [h] at hi
  exact absurd hi (Finset.notMem_empty i)

end Endpoint

end Lotur.Gateway
