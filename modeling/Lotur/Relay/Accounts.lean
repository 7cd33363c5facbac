import Lotur.Library.CreditProtocol
import Lotur.Relay.Carrier
import Lotur.Relay.Ledger

/-! What the two ends of a carrier have in common in their flow control, as a port of the credit
protocol: the operations of both sides are moves of that port. -/
namespace Lotur

open Finsupp CreditProtocol

/-- DATA, WINDOW_UPDATE and RESET_STREAM are the frames that flow control sees. -/
def item (frame : StreamFrame) : Option (Item ℕ) :=
  match frame.body with
  | .data bytes => some (.data frame.streamId bytes)
  | .windowUpdate (.ok bytes) => some (.credit frame.streamId bytes)
  | .resetStream (.ok _) => some (.reset frame.streamId)
  | _ => none

theorem item_id {frame : StreamFrame} {received : Item ℕ} (h : item frame = some received) :
    received.id = frame.streamId := by
  unfold item at h
  split at h <;> cases h <;> rfl

/-- The DATA bytes of a stream in a list of frames. -/
def dataBytes (i : ℕ) (frames : List StreamFrame) : ℕ :=
  (frames.map fun frame => match frame.body with
    | .data bytes => if frame.streamId = i then bytes else 0
    | _ => 0).sum

/-- The bytes that a list of frames gives back to a stream. -/
def updateBytes (i : ℕ) (frames : List StreamFrame) : ℕ :=
  (frames.map fun frame => match frame.body with
    | .windowUpdate (.ok bytes) => if frame.streamId = i then bytes else 0
    | _ => 0).sum

theorem pending_items (i : ℕ) (frames : List StreamFrame) :
    pending (frames.filterMap item) i = dataBytes i frames := by
  induction frames with
  | nil => rfl
  | cons frame rest ih =>
    obtain ⟨streamId, body⟩ := frame
    rcases body with _ | _ | bytes | _ | (error | bytes) | (error | code) | _ <;>
      simpa [List.filterMap_cons, item, dataBytes, Item.pending, single_apply] using ih

theorem credits_items (i : ℕ) (frames : List StreamFrame) :
    credits (frames.filterMap item) i = updateBytes i frames := by
  induction frames with
  | nil => rfl
  | cons frame rest ih =>
    obtain ⟨streamId, body⟩ := frame
    rcases body with _ | _ | bytes | _ | (error | bytes) | (error | code) | _ <;>
      simpa [List.filterMap_cons, item, updateBytes, Item.credited, single_apply] using ih

/-- The bytes of the operation that waits for its WINDOW_UPDATE to be sent. -/
def headBytes : List Operation → ℕ
  | .data bytes :: _ => bytes
  | _ => 0

def queuedBytes : List Operation → ℕ
  | [] => 0
  | .data bytes :: rest => bytes + queuedBytes rest
  | .endStream :: rest => queuedBytes rest

theorem queuedBytes_append (queue queue' : List Operation) :
    queuedBytes (queue ++ queue') = queuedBytes queue + queuedBytes queue' := by
  induction queue with
  | nil => simp [queuedBytes]
  | cons operation rest ih =>
    cases operation with
    | data bytes => simp [queuedBytes, ih, add_assoc]
    | endStream => simp [queuedBytes, ih]

/-- One end of the carrier as flow control sees it: `retired` tells which streams it has opened
and removed, `held` what its receive window has charged. -/
structure Accounts where
  outboundFlow : OutboundFlowWindow
  grants : List (ℕ × ℕ)
  retired : ℕ → Bool
  held : ℕ →₀ ℕ
  crediting : Finset ℕ
  queue : ℕ → List Operation
  outbox : List StreamFrame

namespace Accounts

noncomputable def owed (accounts : Accounts) : ℕ →₀ ℕ :=
  indicator accounts.crediting fun i _ =>
    if accounts.retired i then 0 else headBytes (accounts.queue i)

noncomputable def port (accounts : Accounts) : Port ℕ where
  outstanding := accounts.outboundFlow.outstanding
  granted := granted accounts.grants
  shut := {i | accounts.retired i = true}
  held := accounts.held
  owed := accounts.owed
  outbox := accounts.outbox.filterMap item

/-- The moves of an end of the carrier. -/
def Moves (p p' : Port ℕ) : Prop :=
  Relation.ReflTransGen (Act INITIAL_STREAM_WINDOW_BYTES INITIAL_CONNECTION_WINDOW_BYTES) p p'

structure Sound (accounts : Accounts) : Prop where
  balanced : accounts.outboundFlow.Balanced INITIAL_STREAM_WINDOW_BYTES
    INITIAL_CONNECTION_WINDOW_BYTES
  positive : ∀ grant ∈ accounts.grants, 0 < grant.2
  queued : ∀ i, accounts.retired i = false → queuedBytes (accounts.queue i) ≤ accounts.held i
  waiting : ∀ i ∈ accounts.crediting, ∃ bytes rest, accounts.queue i = .data bytes :: rest
  retired : ∀ i, accounts.retired i = true → accounts.held i = 0

variable {accounts : Accounts}

theorem owed_apply (i : ℕ) : accounts.owed i =
    if i ∈ accounts.crediting ∧ accounts.retired i = false then headBytes (accounts.queue i)
    else 0 := by
  unfold owed
  rw [indicator_apply]
  by_cases hcrediting : i ∈ accounts.crediting
  · cases hretired : accounts.retired i <;> simp [hcrediting]
  · simp [hcrediting]

theorem owed_of_idle {i : ℕ} (h : i ∉ accounts.crediting) : accounts.owed i = 0 := by
  rw [owed_apply, if_neg (fun hmem => h hmem.1)]

theorem owed_of_retired {i : ℕ} (h : accounts.retired i = true) : accounts.owed i = 0 := by
  rw [owed_apply, if_neg (by simp [h])]

theorem Moves.refl (p : Port ℕ) : Moves p p := Relation.ReflTransGen.refl

theorem Moves.single {p p' : Port ℕ}
    (h : Act INITIAL_STREAM_WINDOW_BYTES INITIAL_CONNECTION_WINDOW_BYTES p p') : Moves p p' :=
  Relation.ReflTransGen.single h

theorem Moves.trans {p p' p'' : Port ℕ} (h : Moves p p') (h' : Moves p' p'') : Moves p p'' :=
  Relation.ReflTransGen.trans h h'

/-- The window after an operation, and the grants of the waiters it served. -/
def serve (accounts : Accounts) (outboundFlow : OutboundFlowWindow) (settled : List Settlement) :
    Accounts :=
  { accounts with outboundFlow, grants := accounts.grants ++ resolved settled }

/-- A window that settles relative to what is outstanding otherwise. -/
def SettlesTo (outstanding : ℕ →₀ ℕ) (outboundFlow : OutboundFlowWindow)
    (settled : List Settlement) : Prop :=
  ∃ streams, OutboundFlowWindow.Settles INITIAL_STREAM_WINDOW_BYTES
    INITIAL_CONNECTION_WINDOW_BYTES outstanding streams outboundFlow settled

variable {outboundFlow : OutboundFlowWindow} {settled : List Settlement}

theorem Sound.serve (h : accounts.Sound) {outstanding : ℕ →₀ ℕ}
    (hsettles : SettlesTo outstanding outboundFlow settled) :
    (accounts.serve outboundFlow settled).Sound := by
  obtain ⟨streams, hsettles⟩ := hsettles
  refine ⟨hsettles.balanced, ?_, h.queued, h.waiting, h.retired⟩
  intro grant hgrant
  rcases List.mem_append.mp hgrant with hmem | hmem
  · exact h.positive grant hmem
  · exact hsettles.positive grant hmem

/-- From a port that has so much outstanding, serving the waiters is a grant. -/
theorem serve_act (accounts : Accounts) {outstanding : ℕ →₀ ℕ}
    (hsettles : SettlesTo outstanding outboundFlow settled) :
    Act INITIAL_STREAM_WINDOW_BYTES INITIAL_CONNECTION_WINDOW_BYTES
      { accounts.port with outstanding } (accounts.serve outboundFlow settled).port := by
  obtain ⟨streams, hsettles⟩ := hsettles
  have hport : (accounts.serve outboundFlow settled).port = { accounts.port with
      outstanding := outstanding + granted (resolved settled)
      granted := accounts.port.granted + granted (resolved settled) } := by
    refine Port.ext hsettles.outstanding ?_ rfl rfl rfl rfl
    exact granted_append accounts.grants (resolved settled)
  rw [hport]
  apply Act.grant (p := { accounts.port with outstanding })
  · intro i
    have hle := hsettles.balanced.outstanding_le i
    rwa [hsettles.outstanding] at hle
  · have hle := hsettles.balanced.degree_le
    rwa [hsettles.outstanding] at hle

theorem serve_moves (hsettles : SettlesTo accounts.outboundFlow.outstanding outboundFlow settled) :
    Moves accounts.port (accounts.serve outboundFlow settled).port :=
  Moves.single (serve_act accounts hsettles)

/-- WINDOW_UPDATE reaches a stream that can still send. -/
theorem update_moves {i bytes : ℕ} (hbytes : bytes ≤ accounts.outboundFlow.outstanding i)
    (hsettles : SettlesTo (accounts.outboundFlow.outstanding - single i bytes) outboundFlow
      settled) :
    ∃ p, Receive accounts.port (.credit i bytes) p ∧
      Moves p (accounts.serve outboundFlow settled).port :=
  ⟨_, Receive.credit i bytes hbytes, Moves.single (serve_act accounts hsettles)⟩

def send (accounts : Accounts) (i : ℕ) (body : FrameBody) : Accounts :=
  { accounts with outbox := accounts.outbox ++ [⟨i, body⟩] }

theorem Sound.send (h : accounts.Sound) (i : ℕ) (body : FrameBody) :
    (accounts.send i body).Sound := ⟨h.balanced, h.positive, h.queued, h.waiting, h.retired⟩

theorem Sound.popped (h : accounts.Sound) (outbox : List StreamFrame) :
    { accounts with outbox }.Sound := ⟨h.balanced, h.positive, h.queued, h.waiting, h.retired⟩

theorem send_port (accounts : Accounts) (i : ℕ) (body : FrameBody) :
    (accounts.send i body).port = { accounts.port with
      outbox := accounts.port.outbox ++ (item ⟨i, body⟩).toList } := by
  refine Port.ext rfl rfl rfl rfl rfl ?_
  show (accounts.outbox ++ [(⟨i, body⟩ : StreamFrame)]).filterMap item = _
  rw [List.filterMap_append]
  cases hitem : item ⟨i, body⟩ <;> simp [hitem, port]

/-- Other frames do not concern flow control. -/
theorem send_other_port (accounts : Accounts) (i : ℕ) {body : FrameBody}
    (h : item ⟨i, body⟩ = none) : (accounts.send i body).port = accounts.port := by
  rw [send_port, h, Option.toList_none, List.append_nil]

/-- A granted chunk is handed over. -/
theorem sendGranted_moves (h : accounts.Sound) {i bytes : ℕ} {grants : List (ℕ × ℕ)}
    (hgrants : accounts.grants = (i, bytes) :: grants) :
    ({ accounts with grants }.send i (.data bytes)).Sound ∧
      Moves accounts.port ({ accounts with grants }.send i (.data bytes)).port := by
  have hpositive : 0 < bytes := h.positive (i, bytes) (by rw [hgrants]; exact List.mem_cons_self)
  have hgranted : accounts.port.granted = single i bytes + granted grants := by
    show granted accounts.grants = _
    rw [hgrants, granted_cons]
  refine ⟨⟨h.balanced, ?_, h.queued, h.waiting, h.retired⟩, ?_⟩
  · intro grant hgrant
    exact h.positive grant (by rw [hgrants]; exact List.mem_cons_of_mem _ hgrant)
  · rw [send_port]
    exact Moves.single (Act.send i bytes (granted grants) hpositive hgranted)

/-- The stream leaves both windows. -/
noncomputable def close (accounts : Accounts) (i : ℕ) (outboundFlow : OutboundFlowWindow)
    (settled : List Settlement) : Accounts :=
  { accounts with
    retired := fun j => accounts.retired j || j = i
    held := accounts.held.erase i }.serve outboundFlow settled

theorem Sound.close (h : accounts.Sound) (i : ℕ) {outstanding : ℕ →₀ ℕ}
    (hsettles : SettlesTo outstanding outboundFlow settled) :
    (accounts.close i outboundFlow settled).Sound := by
  refine Sound.serve ⟨h.balanced, h.positive, ?_, h.waiting, ?_⟩ hsettles
  · intro j hj
    simp only [Bool.or_eq_false_iff, decide_eq_false_iff_not] at hj
    show queuedBytes (accounts.queue j) ≤ accounts.held.erase i j
    rw [erase_ne hj.2]
    exact h.queued j hj.1
  · intro j hj
    show accounts.held.erase i j = 0
    by_cases heq : j = i
    · simp [heq]
    · rw [erase_ne heq]
      exact h.retired j (by simpa [heq] using hj)

/-- A port that shut the stream serves the waiters of the others. -/
theorem close_act (accounts : Accounts) (i : ℕ)
    (hsettles : SettlesTo (accounts.outboundFlow.outstanding.erase i) outboundFlow settled) :
    Act INITIAL_STREAM_WINDOW_BYTES INITIAL_CONNECTION_WINDOW_BYTES
      { accounts.port with
        outstanding := accounts.port.outstanding.erase i
        shut := insert i accounts.port.shut
        held := accounts.port.held.erase i
        owed := accounts.port.owed.erase i } (accounts.close i outboundFlow settled).port := by
  have hact := serve_act { accounts with
    retired := fun j => accounts.retired j || j = i
    held := accounts.held.erase i } hsettles
  have hport : { accounts with
      retired := fun j => accounts.retired j || j = i
      held := accounts.held.erase i }.port = { accounts.port with
        shut := insert i accounts.port.shut
        held := accounts.port.held.erase i
        owed := accounts.port.owed.erase i } := by
    refine Port.ext rfl rfl ?_ rfl ?_ rfl
    · ext j
      show (accounts.retired j || j = i) = true ↔ _
      simp [port, or_comm]
    · ext j
      show owed _ j = accounts.owed.erase i j
      by_cases hj : j = i
      · subst hj
        rw [erase_same]
        exact owed_of_retired (by simp)
      · rw [erase_ne hj, owed_apply, owed_apply]
        simp [hj]
  rw [hport] at hact
  exact hact

/-- The stream is reset by this end, whatever it still owed on it. -/
theorem reset_moves_from {p : Port ℕ} (i : ℕ) (code : String)
    (hport : accounts.port = { p with owed := accounts.port.owed })
    (howed : accounts.port.owed.erase i = p.owed.erase i)
    (hsettles : SettlesTo (accounts.outboundFlow.outstanding.erase i) outboundFlow settled) :
    Moves p ((accounts.close i outboundFlow settled).send i (.resetStream (.ok code))).port := by
  have hact := close_act (accounts.send i (.resetStream (.ok code))) i hsettles
  rw [send_port, hport] at hact
  dsimp only at hact
  rw [howed] at hact
  exact (Moves.single (Act.reset i)).trans (Moves.single hact)

theorem reset_moves (i : ℕ) (code : String)
    (hsettles : SettlesTo (accounts.outboundFlow.outstanding.erase i) outboundFlow settled) :
    Moves accounts.port
      ((accounts.close i outboundFlow settled).send i (.resetStream (.ok code))).port :=
  reset_moves_from i code rfl rfl hsettles

/-- Both sides of the stream have ended, and all its bytes came back. -/
theorem finish_moves (i : ℕ) (hsettled : accounts.outboundFlow.outstanding i = 0)
    (hsettles : SettlesTo (accounts.outboundFlow.outstanding.erase i) outboundFlow settled) :
    Moves accounts.port (accounts.close i outboundFlow settled).port := by
  have hact := close_act accounts i hsettles
  have herase : accounts.port.outstanding.erase i = accounts.port.outstanding :=
    erase_of_notMem_support (by simpa [port] using hsettled)
  rw [herase] at hact
  exact (Moves.single (Act.finish i hsettled)).trans (Moves.single hact)

/-- The stream is reset by the peer. -/
theorem receiveReset_moves (i : ℕ)
    (hsettles : SettlesTo (accounts.outboundFlow.outstanding.erase i) outboundFlow settled) :
    ∃ p, Receive accounts.port (.reset i) p ∧
      Moves p (accounts.close i outboundFlow settled).port :=
  ⟨_, Receive.reset i, Moves.single (close_act accounts i hsettles)⟩

/-- The queue of one stream changes. -/
def setQueue (accounts : Accounts) (i : ℕ) (queue : List Operation) : Accounts :=
  { accounts with queue := Function.update accounts.queue i queue }

theorem Sound.setQueue (h : accounts.Sound) {i : ℕ} {queue : List Operation}
    (hqueued : queuedBytes queue ≤ queuedBytes (accounts.queue i))
    (hidle : i ∉ accounts.crediting) : (accounts.setQueue i queue).Sound := by
  refine ⟨h.balanced, h.positive, ?_, ?_, h.retired⟩
  · intro j hj
    have hold := h.queued j hj
    show queuedBytes (Function.update accounts.queue i queue j) ≤ accounts.held j
    by_cases heq : j = i
    · subst heq
      rw [Function.update_self]
      exact hqueued.trans hold
    · rwa [Function.update_of_ne heq]
  · intro j hj
    have hne : j ≠ i := fun heq => hidle (heq ▸ hj)
    show ∃ bytes rest, Function.update accounts.queue i queue j = _
    rw [Function.update_of_ne hne]
    exact h.waiting j hj

/-- An operation that nothing waits for leaves the queue unseen. -/
theorem setQueue_port {i : ℕ} (hidle : i ∉ accounts.crediting) (queue : List Operation) :
    (accounts.setQueue i queue).port = accounts.port := by
  refine Port.ext rfl rfl rfl rfl ?_ rfl
  ext j
  show owed _ j = owed _ j
  rw [owed_apply, owed_apply]
  by_cases hj : j = i
  · subst hj
    simp [setQueue, hidle]
  · simp [setQueue, hj]

theorem queuedBytes_tail_le {operation : Operation} {rest : List Operation} :
    queuedBytes rest ≤ queuedBytes (operation :: rest) := by
  cases operation with
  | data bytes => exact Nat.le_add_left _ _
  | endStream => exact le_rfl

/-- A DATA operation runs from its start to its end. -/
noncomputable def credit (accounts : Accounts) (i bytes : ℕ) (rest : List Operation) : Accounts :=
  { accounts.setQueue i rest with held := accounts.held - single i bytes }.send i
    (.windowUpdate (.ok bytes))

theorem credit_moves (h : accounts.Sound) {i bytes : ℕ} {rest : List Operation}
    (hidle : i ∉ accounts.crediting) (hqueue : accounts.queue i = .data bytes :: rest)
    (hheld : bytes ≤ accounts.held i) :
    (accounts.credit i bytes rest).Sound ∧
      Moves accounts.port (accounts.credit i bytes rest).port := by
  refine ⟨⟨h.balanced, h.positive, ?_, ?_, ?_⟩, ?_⟩
  · intro j hj
    have hold := h.queued j hj
    show queuedBytes (Function.update accounts.queue i rest j) ≤ (accounts.held - single i bytes) j
    by_cases heq : j = i
    · subst heq
      rw [hqueue, queuedBytes] at hold
      rw [Function.update_self, tsub_apply, single_eq_same]
      omega
    · rw [Function.update_of_ne heq, tsub_apply, single_eq_of_ne heq, Nat.sub_zero]
      exact hold
  · exact (h.setQueue (hqueue ▸ queuedBytes_tail_le) hidle).waiting
  · intro j hj
    show (accounts.held - single i bytes) j = 0
    rw [tsub_apply, h.retired j hj, Nat.zero_sub]
  · have hact : Act INITIAL_STREAM_WINDOW_BYTES INITIAL_CONNECTION_WINDOW_BYTES accounts.port _ :=
      Act.release i bytes (by
        show accounts.owed i + bytes ≤ accounts.held i
        rw [owed_of_idle hidle]
        omega)
    have hport : (accounts.credit i bytes rest).port = { accounts.port with
        held := accounts.port.held - single i bytes
        outbox := accounts.port.outbox ++ [.credit i bytes] } := by
      have hkept := setQueue_port hidle rest
      unfold credit
      rw [send_port]
      refine Port.ext rfl rfl rfl rfl ?_ rfl
      have howed := congrArg Port.owed hkept
      exact howed
    rw [hport]
    exact Moves.single hact

/-- A DATA operation gets as far as its WINDOW_UPDATE. -/
def announce (accounts : Accounts) (i bytes : ℕ) : Accounts :=
  { accounts with crediting := insert i accounts.crediting }.send i (.windowUpdate (.ok bytes))

theorem announce_moves (h : accounts.Sound) {i bytes : ℕ} {rest : List Operation}
    (hidle : i ∉ accounts.crediting) (hqueue : accounts.queue i = .data bytes :: rest) :
    (accounts.announce i bytes).Sound ∧ Moves accounts.port (accounts.announce i bytes).port := by
  refine ⟨⟨h.balanced, h.positive, h.queued, ?_, h.retired⟩, ?_⟩
  · intro j hj
    rcases Finset.mem_insert.mp hj with heq | hmem
    · exact ⟨bytes, rest, heq ▸ hqueue⟩
    · exact h.waiting j hmem
  · have howed : ∀ j, j ≠ i → (accounts.announce i bytes).owed j = accounts.owed j := by
      intro j hj
      rw [owed_apply, owed_apply]
      simp [announce, send, hj]
    cases hretired : accounts.retired i with
    | true =>
      have hport : (accounts.announce i bytes).port = { accounts.port with
          outbox := accounts.port.outbox ++ [.credit i bytes] } := by
        unfold announce
        rw [send_port]
        refine Port.ext rfl rfl rfl rfl ?_ rfl
        ext j
        by_cases hj : j = i
        · subst hj
          have hnew : (accounts.announce j bytes).owed j = 0 := owed_of_retired hretired
          have hold : accounts.owed j = 0 := owed_of_retired hretired
          exact hnew.trans hold.symm
        · exact howed j hj
      rw [hport]
      exact Moves.single (Act.announceShut i bytes hretired)
    | false =>
      have hheld : bytes ≤ accounts.held i := by
        have hold := h.queued i hretired
        rw [hqueue, queuedBytes] at hold
        omega
      have hport : (accounts.announce i bytes).port = { accounts.port with
          owed := accounts.port.owed + single i bytes
          outbox := accounts.port.outbox ++ [.credit i bytes] } := by
        unfold announce
        rw [send_port]
        refine Port.ext rfl rfl rfl rfl ?_ rfl
        ext j
        show owed _ j = (accounts.owed + single i bytes) j
        rw [Finsupp.add_apply]
        by_cases hj : j = i
        · subst hj
          rw [single_eq_same, owed_of_idle hidle, owed_apply]
          simp [hretired, hqueue, headBytes]
        · rw [single_eq_of_ne hj, add_zero]
          exact howed j hj
      rw [hport]
      exact Moves.single (Act.announce i bytes (by
        show accounts.owed i + bytes ≤ accounts.held i
        rw [owed_of_idle hidle]
        omega))

/-- The rest of that operation. -/
noncomputable def repay (accounts : Accounts) (i bytes : ℕ) (rest : List Operation) : Accounts :=
  { accounts.setQueue i rest with
    crediting := accounts.crediting.erase i
    held := accounts.held - single i bytes }

/-- The operation of a removed stream only leaves the queue. -/
def abandon (accounts : Accounts) (i : ℕ) (rest : List Operation) : Accounts :=
  { accounts.setQueue i rest with crediting := accounts.crediting.erase i }

theorem waiting_erase (h : accounts.Sound) (i : ℕ) (rest : List Operation) :
    ∀ j ∈ accounts.crediting.erase i, ∃ bytes rest',
      Function.update accounts.queue i rest j = .data bytes :: rest' := by
  intro j hj
  have hne : j ≠ i := Finset.ne_of_mem_erase hj
  rw [Function.update_of_ne hne]
  exact h.waiting j (Finset.mem_of_mem_erase hj)

theorem repay_moves (h : accounts.Sound) {i bytes : ℕ} {rest : List Operation}
    (hcrediting : i ∈ accounts.crediting) (hqueue : accounts.queue i = .data bytes :: rest)
    (hheld : bytes ≤ accounts.held i) :
    (accounts.repay i bytes rest).Sound ∧
      Moves accounts.port (accounts.repay i bytes rest).port := by
  refine ⟨⟨h.balanced, h.positive, ?_, waiting_erase h i rest, ?_⟩, ?_⟩
  · intro j hj
    have hold := h.queued j hj
    show queuedBytes (Function.update accounts.queue i rest j) ≤ (accounts.held - single i bytes) j
    by_cases heq : j = i
    · subst heq
      rw [hqueue, queuedBytes] at hold
      rw [Function.update_self, tsub_apply, single_eq_same]
      omega
    · rw [Function.update_of_ne heq, tsub_apply, single_eq_of_ne heq, Nat.sub_zero]
      exact hold
  · intro j hj
    show (accounts.held - single i bytes) j = 0
    rw [tsub_apply, h.retired j hj, Nat.zero_sub]
  · have howed : bytes ≤ accounts.owed i := by
      cases hretired : accounts.retired i with
      | true =>
        rw [h.retired i hretired] at hheld
        exact hheld.trans (Nat.zero_le _)
      | false =>
        rw [owed_apply, if_pos ⟨hcrediting, hretired⟩, hqueue, headBytes]
    have hport : (accounts.repay i bytes rest).port = { accounts.port with
        owed := accounts.port.owed - single i bytes
        held := accounts.port.held - single i bytes } := by
      refine Port.ext rfl rfl rfl rfl ?_ rfl
      ext j
      show owed _ j = (accounts.owed - single i bytes) j
      rw [tsub_apply]
      by_cases hj : j = i
      · subst hj
        have hgone : (accounts.repay j bytes rest).owed j = 0 := owed_of_idle (by simp [repay])
        have hhead : accounts.owed j ≤ bytes := by
          rw [owed_apply, hqueue, headBytes]
          split_ifs <;> omega
        rw [hgone, single_eq_same]
        omega
      · rw [single_eq_of_ne hj, Nat.sub_zero, owed_apply, owed_apply]
        simp [repay, setQueue, hj]
    rw [hport]
    exact Moves.single (Act.repay i bytes howed)

theorem headBytes_le_queuedBytes (queue : List Operation) : headBytes queue ≤ queuedBytes queue := by
  cases queue with
  | nil => exact le_rfl
  | cons operation rest =>
    cases operation with
    | data bytes => exact Nat.le_add_right _ _
    | endStream => exact Nat.zero_le _

theorem owed_le_held (h : accounts.Sound) (i : ℕ) : accounts.owed i ≤ accounts.held i := by
  rw [owed_apply]
  split_ifs with howed
  · exact (headBytes_le_queuedBytes _).trans (h.queued i howed.2)
  · exact Nat.zero_le _

theorem abandon_sound (h : accounts.Sound) {i bytes : ℕ} {rest : List Operation}
    (hqueue : accounts.queue i = .data bytes :: rest) : (accounts.abandon i rest).Sound := by
  refine ⟨h.balanced, h.positive, ?_, waiting_erase h i rest, h.retired⟩
  intro j hj
  have hold := h.queued j hj
  show queuedBytes (Function.update accounts.queue i rest j) ≤ accounts.held j
  by_cases heq : j = i
  · subst heq
    rw [Function.update_self]
    rw [hqueue] at hold
    exact queuedBytes_tail_le.trans hold
  · rwa [Function.update_of_ne heq]

theorem abandon_port (h : accounts.Sound) {i : ℕ} (rest : List Operation)
    (hheld : accounts.held i = 0) : (accounts.abandon i rest).port = accounts.port := by
  refine Port.ext rfl rfl rfl rfl ?_ rfl
  ext j
  show owed _ j = owed _ j
  by_cases hj : j = i
  · subst hj
    have hnew : (accounts.abandon j rest).owed j = 0 := owed_of_idle (by simp [abandon])
    have hold := owed_le_held h j
    rw [hnew]
    omega
  · rw [owed_apply, owed_apply]
    simp [abandon, setQueue, hj]

theorem erase_of_eq {f g : ℕ →₀ ℕ} {i : ℕ} (h : ∀ j, j ≠ i → f j = g j) :
    f.erase i = g.erase i := by
  ext j
  by_cases hj : j = i
  · simp [hj]
  · rw [erase_ne hj, erase_ne hj, h j hj]

/-- The completion of the send finds that the bytes cannot be given back: the stream is reset. -/
theorem abandon_reset_moves {i : ℕ} (rest : List Operation) (code : String)
    (hsettles : SettlesTo (accounts.outboundFlow.outstanding.erase i) outboundFlow settled) :
    Moves accounts.port (((accounts.abandon i rest).close i outboundFlow settled).send i
      (.resetStream (.ok code))).port := by
  refine reset_moves_from i code rfl (erase_of_eq ?_) hsettles
  intro j hj
  show owed _ j = owed _ j
  rw [owed_apply, owed_apply]
  simp [abandon, setQueue, hj]

/-- The same in one step with the WINDOW_UPDATE. -/
theorem credit_reset_moves (h : accounts.Sound) {i bytes : ℕ} {rest : List Operation} (code : String)
    (hidle : i ∉ accounts.crediting) (hqueue : accounts.queue i = .data bytes :: rest)
    (hlive : accounts.retired i = false)
    (hsettles : SettlesTo (accounts.outboundFlow.outstanding.erase i) outboundFlow settled) :
    Moves accounts.port ((((accounts.setQueue i rest).send i (.windowUpdate (.ok bytes))).close i
      outboundFlow settled).send i (.resetStream (.ok code))).port := by
  have hheld : accounts.port.owed i + bytes ≤ accounts.port.held i := by
    have hold := h.queued i hlive
    have howed : accounts.port.owed i = 0 := owed_of_idle hidle
    rw [hqueue, queuedBytes] at hold
    rw [howed]
    show 0 + bytes ≤ accounts.held i
    omega
  have hport : ((accounts.setQueue i rest).send i (.windowUpdate (.ok bytes))).port =
      { accounts.port with outbox := accounts.port.outbox ++ [.credit i bytes] } := by
    rw [send_port, setQueue_port hidle]
    rfl
  have hannounced : Moves accounts.port _ := Moves.single (Act.announce i bytes hheld)
  refine hannounced.trans (reset_moves_from i code ?_ ?_ hsettles)
  · rw [hport]
  · rw [hport]
    refine erase_of_eq ?_
    intro j hj
    simp [hj]

/-- DATA of a live stream is charged. -/
noncomputable def charge (accounts : Accounts) (i bytes : ℕ) : Accounts :=
  { accounts with held := accounts.held + single i bytes }

theorem charge_moves (h : accounts.Sound) {i : ℕ} (bytes : ℕ)
    (hlive : accounts.retired i = false) :
    (accounts.charge i bytes).Sound ∧
      Receive accounts.port (.data i bytes) (accounts.charge i bytes).port := by
  refine ⟨⟨h.balanced, h.positive, ?_, h.waiting, ?_⟩, ?_⟩
  · intro j hj
    have hold := h.queued j hj
    show queuedBytes (accounts.queue j) ≤ (accounts.held + single i bytes) j
    rw [Finsupp.add_apply]
    omega
  · intro j hj
    have hne : j ≠ i := by
      intro heq
      rw [heq] at hj
      rw [show accounts.retired i = true from hj] at hlive
      cases hlive
    show (accounts.held + single i bytes) j = 0
    rw [Finsupp.add_apply, single_eq_of_ne hne, add_zero]
    exact h.retired j hj
  · exact Receive.data i bytes (by simp [port, hlive])

/-- DATA of a live stream is charged and queued. -/
noncomputable def receive (accounts : Accounts) (i bytes : ℕ) : Accounts :=
  { accounts.setQueue i (accounts.queue i ++ [.data bytes]) with
    held := accounts.held + single i bytes }

/-- A frame that only adds to the queue of a live stream. -/
theorem enqueue_owed (h : accounts.Sound) (i : ℕ) (operation : Operation) (j : ℕ) :
    (accounts.setQueue i (accounts.queue i ++ [operation])).owed j = accounts.owed j := by
  rw [owed_apply, owed_apply]
  by_cases hj : j = i
  · subst hj
    by_cases hcrediting : j ∈ accounts.crediting
    · obtain ⟨bytes, rest, hqueue⟩ := h.waiting j hcrediting
      simp [setQueue, hqueue, headBytes]
    · simp [setQueue, hcrediting]
  · simp [setQueue, hj]

theorem enqueue_waiting (h : accounts.Sound) (i : ℕ) (operation : Operation) :
    ∀ j ∈ accounts.crediting, ∃ bytes rest,
      Function.update accounts.queue i (accounts.queue i ++ [operation]) j =
        .data bytes :: rest := by
  intro j hj
  obtain ⟨bytes, rest, hqueue⟩ := h.waiting j hj
  by_cases heq : j = i
  · subst heq
    rw [Function.update_self, hqueue]
    exact ⟨bytes, _, List.cons_append⟩
  · rw [Function.update_of_ne heq]
    exact ⟨bytes, rest, hqueue⟩

theorem receive_moves (h : accounts.Sound) {i : ℕ} (bytes : ℕ)
    (hlive : accounts.retired i = false) :
    (accounts.receive i bytes).Sound ∧
      Receive accounts.port (.data i bytes) (accounts.receive i bytes).port := by
  obtain ⟨hcharged, hreceive⟩ := charge_moves h bytes hlive
  refine ⟨⟨h.balanced, h.positive, ?_, enqueue_waiting h i _, hcharged.retired⟩, ?_⟩
  · intro j hj
    have hold := h.queued j hj
    show queuedBytes (Function.update accounts.queue i _ j) ≤ (accounts.held + single i bytes) j
    by_cases heq : j = i
    · subst heq
      rw [Function.update_self, queuedBytes_append, Finsupp.add_apply, single_eq_same]
      exact Nat.add_le_add_right hold _
    · rw [Function.update_of_ne heq, Finsupp.add_apply, single_eq_of_ne heq]
      exact hold
  · have hport : (accounts.receive i bytes).port = (accounts.charge i bytes).port := by
      refine Port.ext rfl rfl rfl rfl ?_ rfl
      ext j
      exact enqueue_owed h i _ j
    rw [hport]
    exact hreceive

theorem enqueueEnd_sound (h : accounts.Sound) (i : ℕ) :
    (accounts.setQueue i (accounts.queue i ++ [.endStream])).Sound ∧
      (accounts.setQueue i (accounts.queue i ++ [.endStream])).port = accounts.port := by
  refine ⟨⟨h.balanced, h.positive, ?_, enqueue_waiting h i _, h.retired⟩, ?_⟩
  · intro j hj
    have hold := h.queued j hj
    show queuedBytes (Function.update accounts.queue i _ j) ≤ accounts.held j
    by_cases heq : j = i
    · subst heq
      rwa [Function.update_self, queuedBytes_append]
    · rwa [Function.update_of_ne heq]
  · refine Port.ext rfl rfl rfl rfl ?_ rfl
    ext j
    exact enqueue_owed h i _ j

/-- More ids count as retired; none of them holds anything. -/
theorem widen_moves (h : accounts.Sound) {retired : ℕ → Bool}
    (hretired : ∀ j, accounts.retired j = true → retired j = true)
    (hheld : ∀ j, retired j = true → accounts.held j = 0) :
    { accounts with retired }.Sound ∧ Moves accounts.port { accounts with retired }.port := by
  refine ⟨⟨h.balanced, h.positive, ?_, h.waiting, hheld⟩, ?_⟩
  · intro j hj
    refine h.queued j ?_
    cases hold : accounts.retired j with
    | false => rfl
    | true => exact absurd (hretired j hold) (by simp [show retired j = false from hj])
  · have hport : { accounts with retired }.port = { accounts.port with
        shut := {j | retired j = true} } := by
      refine Port.ext rfl rfl rfl rfl ?_ rfl
      ext j
      show owed _ j = owed _ j
      rw [owed_apply, owed_apply]
      by_cases hnew : retired j = true
      · cases hold : accounts.retired j with
        | true => simp [hnew]
        | false =>
          -- what a newly retired id has queued is part of nothing
          have hqueued := h.queued j hold
          rw [hheld j hnew] at hqueued
          by_cases hcrediting : j ∈ accounts.crediting
          · obtain ⟨bytes, rest, hqueue⟩ := h.waiting j hcrediting
            rw [hqueue, queuedBytes] at hqueued
            simp only [hnew, hqueue, headBytes]
            split_ifs <;> omega
          · simp [hcrediting]
      · cases hold : accounts.retired j with
        | true => exact absurd (hretired j hold) hnew
        | false => simp [hnew]
    rw [hport]
    exact Moves.single (Act.widen _ hretired hheld)

/-- A stream is opened under an id that has nothing queued. -/
theorem open_moves (h : accounts.Sound) {retired : ℕ → Bool}
    (hsettles : SettlesTo accounts.outboundFlow.outstanding outboundFlow settled)
    (hretired : ∀ j, accounts.retired j = true → retired j = true)
    (hheld : ∀ j, retired j = true → accounts.held j = 0) :
    ({ accounts with retired }.serve outboundFlow settled).Sound ∧
      Moves accounts.port ({ accounts with retired }.serve outboundFlow settled).port := by
  obtain ⟨hsound, hwidened⟩ := widen_moves h hretired hheld
  have hserved : Moves { accounts with retired }.port
      ({ accounts with retired }.serve outboundFlow settled).port :=
    Moves.single (serve_act { accounts with retired } hsettles)
  exact ⟨hsound.serve hsettles, hwidened.trans hserved⟩

/-- The WINDOW_UPDATEs that wait for their completion have not been seen by the peer. -/
theorem owed_le_credits
    (h : ∀ i ∈ accounts.crediting, accounts.retired i = false →
      headBytes (accounts.queue i) ≤ updateBytes i accounts.outbox) (i : ℕ) :
    accounts.port.owed i ≤ credits accounts.port.outbox i := by
  show accounts.owed i ≤ credits (accounts.outbox.filterMap item) i
  rw [owed_apply, credits_items]
  split_ifs with hwaiting
  · exact h i hwaiting.1 hwaiting.2
  · exact Nat.zero_le _

theorem owed_of_none_crediting (h : accounts.crediting = ∅) : accounts.port.owed = 0 := by
  ext i
  exact owed_of_idle (h ▸ Finset.notMem_empty i)

/-- How an end takes the next frame of the channel. -/
def Takes (frame : StreamFrame) (accounts accounts' : Accounts) : Prop :=
  match item frame with
  | none => Moves accounts.port accounts'.port
  | .some received => ∃ p, Receive accounts.port received p ∧ Moves p accounts'.port

/-- Both ends are covered by each other's credit. -/
def Covered (accounts peer : Accounts) : Prop :=
  Covers INITIAL_STREAM_WINDOW_BYTES INITIAL_CONNECTION_WINDOW_BYTES peer.port accounts.port

section Delivery

variable {peer peer' : Accounts} {frame : StreamFrame} {outbox : List StreamFrame}

theorem popped_port (houtbox : peer.outbox = frame :: outbox) :
    peer.port.outbox = (item frame).toList ++ { peer with outbox }.port.outbox := by
  show peer.outbox.filterMap item = _
  rw [houtbox, List.filterMap_cons]
  cases item frame <;> rfl

theorem popped_other (houtbox : peer.outbox = frame :: outbox) (hitem : item frame = none) :
    { peer with outbox }.port = peer.port := by
  refine Port.ext rfl rfl rfl rfl rfl ?_
  rw [popped_port houtbox, hitem]
  rfl

theorem popped_item {received : Item ℕ} (houtbox : peer.outbox = frame :: outbox)
    (hitem : item frame = some received) :
    peer.port.outbox = received :: { peer with outbox }.port.outbox := by
  rw [popped_port houtbox, hitem]
  rfl

theorem Covered.taken (h : Covered accounts peer) (houtbox : peer.outbox = frame :: outbox)
    {accounts' : Accounts} (htakes : Takes frame accounts accounts') :
    Covered accounts' { peer with outbox } := by
  unfold Takes at htakes
  unfold Covered at h ⊢
  cases hitem : item frame with
  | none =>
    simp only [hitem] at htakes
    rw [popped_other houtbox hitem]
    exact h.acts_receiver htakes
  | some received =>
    simp only [hitem] at htakes
    obtain ⟨p, hreceive, hmoves⟩ := htakes
    exact (h.receive_receiver (popped_item houtbox hitem) hreceive).acts_receiver hmoves

theorem Covered.gave (h : Covered accounts peer) (houtbox : accounts.outbox = frame :: outbox)
    (htakes : Takes frame peer peer') : Covered { accounts with outbox } peer' := by
  unfold Takes at htakes
  unfold Covered at h ⊢
  cases hitem : item frame with
  | none =>
    simp only [hitem] at htakes
    rw [popped_other houtbox hitem]
    exact h.acts_sender htakes
  | some received =>
    simp only [hitem] at htakes
    obtain ⟨p, hreceive, hmoves⟩ := htakes
    exact (h.receive_sender (popped_item houtbox hitem) hreceive).acts_sender hmoves

/-- The peer fails at the frame. -/
theorem Covered.dropped (h : Covered accounts peer) (houtbox : accounts.outbox = frame :: outbox) :
    Covered { accounts with outbox } peer := by
  unfold Covered at h ⊢
  cases hitem : item frame with
  | none =>
    rw [popped_other houtbox hitem]
    exact h
  | some received => exact h.pop (popped_item houtbox hitem)

/-- What the peer may still send fits, stream by stream summed up. -/
theorem Covered.agreement (h : Covered accounts peer) (live : Finset ℕ)
    (hlive : ∀ i ∈ live, accounts.retired i = false)
    (hheld : ∀ i, accounts.held i ≠ 0 → i ∈ live) (hidle : accounts.crediting = ∅)
    (hresets : ∀ frame ∈ peer.outbox, ∀ code, frame.body ≠ .resetStream (.ok code)) :
    accounts.held.degree +
        ∑ i ∈ live, (dataBytes i peer.outbox + updateBytes i accounts.outbox) ≤
      peer.outboundFlow.outstanding.degree := by
  have hagreement := Covers.agreement h live (fun i hi => by simp [port, hlive i hi])
    (fun i hi => hheld i (mem_support_iff.mp hi)) (owed_of_none_crediting hidle) (by
      intro i hi
      obtain ⟨frame, hframe, hitem⟩ := List.mem_filterMap.mp hi
      unfold item at hitem
      split at hitem <;> cases hitem
      rename_i code hbody
      exact hresets frame hframe code hbody)
  have hsum : ∑ i ∈ live, (dataBytes i peer.outbox + updateBytes i accounts.outbox) =
      ∑ i ∈ live, (pending peer.port.outbox i + credits accounts.port.outbox i) := by
    refine Finset.sum_congr rfl fun i _ => ?_
    rw [← pending_items, ← credits_items]
    rfl
  rw [hsum]
  exact hagreement

end Delivery

theorem Covered.moved {peer accounts' : Accounts} (h : Covered accounts peer)
    (hmoves : Moves accounts.port accounts'.port) : Covered accounts' peer :=
  Covers.acts_receiver h hmoves

theorem Covered.peerMoved {peer peer' : Accounts} (h : Covered accounts peer)
    (hmoves : Moves peer.port peer'.port) : Covered accounts peer' :=
  Covers.acts_sender h hmoves

end Accounts

end Lotur
