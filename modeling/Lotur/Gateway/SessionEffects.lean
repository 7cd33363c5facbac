import Lotur.Gateway.Carrier
import Lotur.Relay.Ledger

/-! What one step of the carriers can do to the sessions and their registry: nothing that other
parts of the gateway can see, one new session, one session that moves on, or one that is
disposed of. -/
namespace Lotur.Gateway

open State

/-- A receive window that accounts for every byte, so that closing a stream cannot throw. -/
def WellKept (flow : GatewayInboundFlow) : Prop :=
  flow.Balanced INITIAL_STREAM_WINDOW_BYTES INITIAL_CONNECTION_WINDOW_BYTES ∧
    flow.initialConnectionBytes = INITIAL_CONNECTION_WINDOW_BYTES

/-- What the rest of the gateway reads of a session. -/
structure SameStanding (before after : GatewaySession) : Prop where
  tunnelId : after.tunnelId = before.tunnelId
  socket : after.socket = before.socket
  generation : after.generation = before.generation
  lifecycle : after.lifecycle = before.lifecycle
  owner : after.owner = before.owner
  terminal : after.terminal = before.terminal
  flow : WellKept before.inboundFlow → WellKept after.inboundFlow
  issued : before.streamIds.highestIssuedStreamId ≤ after.streamIds.highestIssuedStreamId

structure Quiet (s s' : State) : Prop where
  sessions : s'.sessions = s.sessions
  sessionCount : s'.sessionCount = s.sessionCount
  standing : ∀ key, SameStanding (s.heap key) (s'.heap key)

/-- The session moves on to another state of its life cycle. -/
structure Moves (key : ℕ) (next : SessionState) (s s' : State) : Prop where
  sessions : s'.sessions = s.sessions
  sessionCount : s'.sessionCount = s.sessionCount
  others : ∀ other, other ≠ key → SameStanding (s.heap other) (s'.heap other)
  tunnelId : (s'.heap key).tunnelId = (s.heap key).tunnelId
  owner : (s'.heap key).owner = (s.heap key).owner
  terminal : (s'.heap key).terminal = (s.heap key).terminal
  lifecycle : (s'.heap key).lifecycle = next
  flow : WellKept (s.heap key).inboundFlow → WellKept (s'.heap key).inboundFlow
  issued : (∃ state, (s.heap key).lifecycle = .RECONNECTING state) ∨
    (s.heap key).streamIds.highestIssuedStreamId ≤ (s'.heap key).streamIds.highestIssuedStreamId

/-- The session leaves the registry. -/
structure Disposes (key : ℕ) (s s' : State) : Prop where
  registered : s.isRegistered key = true
  sessions : s'.sessions = Function.update s.sessions (s.heap key).tunnelId none
  sessionCount : s'.sessionCount = s.sessionCount
  others : ∀ other, other ≠ key → SameStanding (s.heap other) (s'.heap other)
  tunnelId : (s'.heap key).tunnelId = (s.heap key).tunnelId
  flow : WellKept (s.heap key).inboundFlow → WellKept (s'.heap key).inboundFlow

/-- A session that has never been seen is registered under a free tunnel id. -/
structure Creates (tunnelId : Token) (owner : Option Owner) (s s' : State) : Prop where
  free : s.sessions tunnelId = none
  sessions : s'.sessions = Function.update s.sessions tunnelId (some s.sessionCount)
  sessionCount : s'.sessionCount = s.sessionCount + 1
  others : ∀ other, other ≠ s.sessionCount → SameStanding (s.heap other) (s'.heap other)
  tunnelId : (s'.heap s.sessionCount).tunnelId = tunnelId
  owner : (s'.heap s.sessionCount).owner = owner
  lifecycle : (s'.heap s.sessionCount).lifecycle = .CREATING
  flow : WellKept (s'.heap s.sessionCount).inboundFlow

/-- Every registered key belongs to a session with that tunnel id. -/
def Registry (s : State) : Prop :=
  ∀ tunnelId key, s.sessions tunnelId = some key →
    key < s.sessionCount ∧ (s.heap key).tunnelId = tunnelId

theorem Registry.isRegistered {s : State} (h : Registry s) {tunnelId : Token} {key : ℕ}
    (hkey : s.sessions tunnelId = some key) : s.isRegistered key = true := by
  simp only [State.isRegistered, (h tunnelId key hkey).2, decide_eq_true_eq]
  exact hkey

theorem Registry.lt {s : State} (h : Registry s) {key : ℕ} (hkey : s.isRegistered key = true) :
    key < s.sessionCount := by
  simp only [State.isRegistered, decide_eq_true_eq] at hkey
  exact (h _ key hkey).1

section Flow

variable {flow flow' : GatewayInboundFlow} {streamId bytes : ℕ}

theorem wellKept_new (maximumFrames : ℕ) :
    WellKept (.new INITIAL_CONNECTION_WINDOW_BYTES maximumFrames) := by
  refine ⟨⟨?_, ?_⟩, rfl⟩
  · have hheld : (GatewayInboundFlow.new INITIAL_CONNECTION_WINDOW_BYTES maximumFrames).held = 0 := by
      ext i
      exact amounts_of_not_mem (AList.notMem_empty i)
    rw [hheld, map_zero]
    rfl
  · intro i credit hcredit
    simp [GatewayInboundFlow.new] at hcredit

theorem WellKept.openStream (h : WellKept flow)
    (hopen : flow.openStream streamId INITIAL_STREAM_WINDOW_BYTES = .ok flow') : WellKept flow' := by
  refine ⟨(GatewayInboundFlow.openStream_holds h.1 hopen).balanced, ?_⟩
  unfold GatewayInboundFlow.openStream at hopen
  split_ifs at hopen
  cases hopen
  exact h.2

theorem WellKept.consume (h : WellKept flow) (hconsume : flow.consume streamId bytes = .ok flow') :
    WellKept flow' := by
  refine ⟨(GatewayInboundFlow.consume_holds h.1 hconsume).balanced, ?_⟩
  unfold GatewayInboundFlow.consume at hconsume
  split at hconsume
  · cases hconsume
  · split at hconsume
    · cases hconsume
    · split_ifs at hconsume
      cases hconsume
      exact h.2

theorem WellKept.release (h : WellKept flow) (hrelease : flow.release streamId bytes = .ok flow') :
    WellKept flow' := by
  refine ⟨(GatewayInboundFlow.release_holds h.1 hrelease).2.balanced, ?_⟩
  unfold GatewayInboundFlow.release at hrelease
  split at hrelease
  · cases hrelease
  · split at hrelease
    · cases hrelease
    · split_ifs at hrelease
      cases hrelease
      exact h.2

theorem closeStream_initial (hclose : flow.closeStream streamId = .ok flow') :
    flow'.initialConnectionBytes = flow.initialConnectionBytes := by
  unfold GatewayInboundFlow.closeStream at hclose
  split at hclose
  · cases hclose
    rfl
  · split_ifs at hclose
    cases hclose
    rfl

theorem WellKept.closeStream (h : WellKept flow) (hclose : flow.closeStream streamId = .ok flow') :
    WellKept flow' :=
  ⟨(GatewayInboundFlow.closeStream_holds h.1 hclose).balanced, (closeStream_initial hclose).trans h.2⟩

/-- What a stream has outstanding was taken from the connection, so returning it fits. -/
theorem WellKept.closeStream_ok (h : WellKept flow) (streamId : ℕ) :
    ∃ flow', flow.closeStream streamId = .ok flow' := by
  unfold GatewayInboundFlow.closeStream
  cases hlookup : flow.streams.lookup streamId with
  | none => exact ⟨flow, rfl⟩
  | some credit =>
    dsimp only
    have hheld : flow.held streamId = credit.outstanding := amounts_of_lookup hlookup
    have hdegree := degree_erase flow.held streamId
    have hconnection := h.1.connection
    have hinitial := h.2
    rw [if_neg (by omega)]
    exact ⟨_, rfl⟩

theorem WellKept.retireStream (h : WellKept flow)
    (hretire : flow.retireStream streamId = .ok flow') : WellKept flow' := by
  refine ⟨(GatewayInboundFlow.retireStream_holds h.1 hretire).balanced, ?_⟩
  unfold GatewayInboundFlow.retireStream at hretire
  split at hretire
  · cases hretire
    exact h.2
  · have hinitial := closeStream_initial hretire
    exact hinitial.trans h.2

theorem WellKept.retireStream_ok (h : WellKept flow) (streamId : ℕ) :
    ∃ flow', flow.retireStream streamId = .ok flow' := by
  unfold GatewayInboundFlow.retireStream
  cases hlookup : flow.streams.lookup streamId with
  | none => exact ⟨flow, rfl⟩
  | some credit =>
    have hallowed : WellKept { flow with
        retiredData := flow.retiredData.allow streamId
          (min credit.available flow.connectionAvailable) } := ⟨⟨h.1.connection, h.1.stream⟩, h.2⟩
    exact hallowed.closeStream_ok streamId

theorem WellKept.consumeRetiredData (h : WellKept flow)
    (hconsume : flow.consumeRetiredData streamId bytes = .ok flow') : WellKept flow' := by
  refine ⟨(GatewayInboundFlow.consumeRetiredData_holds h.1 hconsume).balanced, ?_⟩
  unfold GatewayInboundFlow.consumeRetiredData at hconsume
  cases hbudget : flow.retiredData.consume streamId bytes with
  | error error =>
    rw [hbudget] at hconsume
    cases hconsume
  | ok retiredData =>
    rw [hbudget] at hconsume
    cases hconsume
    exact h.2

end Flow

section Composition

variable {s s' s'' : State} {key : ℕ}

theorem SameStanding.refl (session : GatewaySession) : SameStanding session session :=
  ⟨rfl, rfl, rfl, rfl, rfl, rfl, id, le_rfl⟩

theorem SameStanding.trans {a b c : GatewaySession} (hab : SameStanding a b)
    (hbc : SameStanding b c) : SameStanding a c where
  tunnelId := hbc.tunnelId.trans hab.tunnelId
  socket := hbc.socket.trans hab.socket
  generation := hbc.generation.trans hab.generation
  lifecycle := hbc.lifecycle.trans hab.lifecycle
  owner := hbc.owner.trans hab.owner
  terminal := hbc.terminal.trans hab.terminal
  flow h := hbc.flow (hab.flow h)
  issued := hab.issued.trans hbc.issued

theorem Quiet.refl (s : State) : Quiet s s := ⟨rfl, rfl, fun _ => .refl _⟩

theorem Quiet.trans (h : Quiet s s') (h' : Quiet s' s'') : Quiet s s'' where
  sessions := h'.sessions.trans h.sessions
  sessionCount := h'.sessionCount.trans h.sessionCount
  standing key := (h.standing key).trans (h'.standing key)

theorem Quiet.isRegistered (h : Quiet s s') (key : ℕ) :
    s'.isRegistered key = s.isRegistered key := by
  simp only [State.isRegistered, h.sessions, (h.standing key).tunnelId]

theorem quiet_of_bookkeeping (h : Bookkeeping s s') : Quiet s s' where
  sessions := h.sessions
  sessionCount := h.sessionCount
  standing key := by
    rw [h.heap]
    exact .refl _

theorem quiet_drawn (s : State) (n : ℕ) : Quiet s { s with drawn := s.drawn + n } :=
  ⟨rfl, rfl, fun _ => .refl _⟩

theorem quiet_setCarrier (s : State) (socket : ℕ) (carrier : Carrier) :
    Quiet s (s.setCarrier socket carrier) :=
  ⟨rfl, rfl, fun _ => .refl _⟩

theorem setSession_others {session : GatewaySession} (other : ℕ) (h : other ≠ key) :
    SameStanding (s.heap other) ((s.setSession key session).heap other) := by
  rw [setSession_of_ne _ _ _ h]
  exact .refl _

theorem quiet_setSession {session : GatewaySession} (h : SameStanding (s.heap key) session) :
    Quiet s (s.setSession key session) where
  sessions := rfl
  sessionCount := rfl
  standing other := by
    by_cases hother : other = key
    · subst hother
      simpa using h
    · exact setSession_others other hother

theorem Moves.quiet {next : SessionState} (h : Moves key next s s') (hquiet : Quiet s' s'') :
    Moves key next s s'' where
  sessions := hquiet.sessions.trans h.sessions
  sessionCount := hquiet.sessionCount.trans h.sessionCount
  others other hother := (h.others other hother).trans (hquiet.standing other)
  tunnelId := (hquiet.standing key).tunnelId.trans h.tunnelId
  owner := (hquiet.standing key).owner.trans h.owner
  terminal := (hquiet.standing key).terminal.trans h.terminal
  lifecycle := (hquiet.standing key).lifecycle.trans h.lifecycle
  flow hflow := (hquiet.standing key).flow (h.flow hflow)
  issued := h.issued.imp id fun hissued => hissued.trans (hquiet.standing key).issued

theorem Quiet.moves {next : SessionState} (hquiet : Quiet s s') (h : Moves key next s' s'') :
    Moves key next s s'' where
  sessions := h.sessions.trans hquiet.sessions
  sessionCount := h.sessionCount.trans hquiet.sessionCount
  others other hother := (hquiet.standing other).trans (h.others other hother)
  tunnelId := h.tunnelId.trans (hquiet.standing key).tunnelId
  owner := h.owner.trans (hquiet.standing key).owner
  terminal := h.terminal.trans (hquiet.standing key).terminal
  lifecycle := h.lifecycle
  flow hflow := h.flow ((hquiet.standing key).flow hflow)
  issued := by
    rw [← (hquiet.standing key).lifecycle]
    exact h.issued.imp id fun hissued => (hquiet.standing key).issued.trans hissued

/-- The second move is one from outside a reconnect, or follows one from inside it. -/
theorem Moves.trans {first next : SessionState} (h : Moves key first s s')
    (h' : Moves key next s' s'')
    (hissued : (∃ state, (s.heap key).lifecycle = .RECONNECTING state) ∨
      ∀ state, first ≠ .RECONNECTING state) : Moves key next s s'' where
  sessions := h'.sessions.trans h.sessions
  sessionCount := h'.sessionCount.trans h.sessionCount
  others other hother := (h.others other hother).trans (h'.others other hother)
  tunnelId := h'.tunnelId.trans h.tunnelId
  owner := h'.owner.trans h.owner
  terminal := h'.terminal.trans h.terminal
  lifecycle := h'.lifecycle
  flow hflow := h'.flow (h.flow hflow)
  issued := by
    rcases hissued with hbefore | hfirst
    · exact Or.inl hbefore
    · rcases h'.issued with ⟨state, hstate⟩ | hlater
      · exact absurd (h.lifecycle.symm.trans hstate) (hfirst state)
      · exact h.issued.imp id fun hearlier => hearlier.trans hlater

theorem Disposes.quiet (h : Disposes key s s') (hquiet : Quiet s' s'') : Disposes key s s'' where
  registered := h.registered
  sessions := hquiet.sessions.trans h.sessions
  sessionCount := hquiet.sessionCount.trans h.sessionCount
  others other hother := (h.others other hother).trans (hquiet.standing other)
  tunnelId := (hquiet.standing key).tunnelId.trans h.tunnelId
  flow hflow := (hquiet.standing key).flow (h.flow hflow)

theorem Quiet.disposes (hquiet : Quiet s s') (h : Disposes key s' s'') : Disposes key s s'' where
  registered := (hquiet.isRegistered key).symm.trans h.registered
  sessions := by rw [h.sessions, hquiet.sessions, (hquiet.standing key).tunnelId]
  sessionCount := h.sessionCount.trans hquiet.sessionCount
  others other hother := (hquiet.standing other).trans (h.others other hother)
  tunnelId := h.tunnelId.trans (hquiet.standing key).tunnelId
  flow hflow := h.flow ((hquiet.standing key).flow hflow)

theorem Creates.quiet {tunnelId : Token} {owner : Option Owner} (h : Creates tunnelId owner s s')
    (hquiet : Quiet s' s'') : Creates tunnelId owner s s'' where
  free := h.free
  sessions := hquiet.sessions.trans h.sessions
  sessionCount := hquiet.sessionCount.trans h.sessionCount
  others other hother := (h.others other hother).trans (hquiet.standing other)
  tunnelId := (hquiet.standing _).tunnelId.trans h.tunnelId
  owner := (hquiet.standing _).owner.trans h.owner
  lifecycle := (hquiet.standing _).lifecycle.trans h.lifecycle
  flow := (hquiet.standing _).flow h.flow

theorem Quiet.creates {tunnelId : Token} {owner : Option Owner} (hquiet : Quiet s s')
    (h : Creates tunnelId owner s' s'') : Creates tunnelId owner s s'' where
  free := hquiet.sessions ▸ h.free
  sessions := by rw [h.sessions, hquiet.sessions, hquiet.sessionCount]
  sessionCount := by rw [h.sessionCount, hquiet.sessionCount]
  others other hother :=
    (hquiet.standing other).trans (h.others other (hquiet.sessionCount ▸ hother))
  tunnelId := hquiet.sessionCount ▸ h.tunnelId
  owner := hquiet.sessionCount ▸ h.owner
  lifecycle := hquiet.sessionCount ▸ h.lifecycle
  flow := hquiet.sessionCount ▸ h.flow

theorem moves_setSession (session : GatewaySession) {next : SessionState}
    (htunnel : session.tunnelId = (s.heap key).tunnelId)
    (howner : session.owner = (s.heap key).owner)
    (hterminal : session.terminal = (s.heap key).terminal)
    (hlifecycle : session.lifecycle = next)
    (hflow : WellKept (s.heap key).inboundFlow → WellKept session.inboundFlow)
    (hissued : (∃ state, (s.heap key).lifecycle = .RECONNECTING state) ∨
      (s.heap key).streamIds.highestIssuedStreamId ≤ session.streamIds.highestIssuedStreamId) :
    Moves key next s (s.setSession key session) where
  sessions := rfl
  sessionCount := rfl
  others := setSession_others
  tunnelId := by simpa using htunnel
  owner := by simpa using howner
  terminal := by simpa using hterminal
  lifecycle := by simpa using hlifecycle
  flow := by simpa using hflow
  issued := by simpa using hissued

theorem moves_lifecycle (s : State) (key : ℕ) (next : SessionState) :
    Moves key next s (s.setSession key { s.heap key with lifecycle := next }) :=
  moves_setSession _ rfl rfl rfl rfl id (Or.inr le_rfl)

theorem quiet_disposeActivationCandidate (s : State) (key : ℕ) :
    Quiet s (s.disposeActivationCandidate key) :=
  quiet_setSession ⟨rfl, rfl, rfl, rfl, rfl, rfl, id, le_rfl⟩

theorem disposes_remove (h : s.isRegistered key = true) : Disposes key s (s.remove key) := by
  unfold State.remove
  rw [if_pos h]
  exact ⟨h, rfl, rfl, fun _ _ => .refl _, rfl, id⟩

/-- Only the life cycle or the mark `terminal` of a session changes before it is removed. -/
theorem disposes_after (session : GatewaySession) (h : s.isRegistered key = true)
    (htunnel : session.tunnelId = (s.heap key).tunnelId)
    (hflow : session.inboundFlow = (s.heap key).inboundFlow)
    (hdisposes : Disposes key (s.setSession key session) s') : Disposes key s s' where
  registered := h
  sessions := by
    rw [hdisposes.sessions]
    simp [State.setSession, htunnel]
  sessionCount := hdisposes.sessionCount
  others other hother := (setSession_others other hother).trans (hdisposes.others other hother)
  tunnelId := by
    rw [hdisposes.tunnelId]
    simpa using htunnel
  flow hkept := by
    apply hdisposes.flow
    simpa [hflow] using hkept

theorem isRegistered_setSession {session : GatewaySession}
    (htunnel : session.tunnelId = (s.heap key).tunnelId) (h : s.isRegistered key = true) :
    (s.setSession key session).isRegistered key = true := by
  simpa [State.isRegistered, State.setSession, htunnel] using h

theorem disposes_disposeGatewaySession (h : s.isRegistered key = true) :
    Disposes key s (s.disposeGatewaySession key) := by
  unfold State.disposeGatewaySession
  rw [if_pos h]
  refine disposes_after { s.heap key with terminal := true } h rfl rfl ?_
  refine Disposes.quiet ?_ (quiet_of_bookkeeping (closeSocket_bookkeeping _ _))
  refine (quiet_disposeActivationCandidate _ key).disposes (disposes_remove ?_)
  rw [(quiet_disposeActivationCandidate _ key).isRegistered]
  exact isRegistered_setSession rfl h

/-- A session that is not registered is left alone. -/
theorem disposeGatewaySession_cases (s : State) (key : ℕ) :
    Disposes key s (s.disposeGatewaySession key) ∨
      (s.isRegistered key = false ∧ s.disposeGatewaySession key = s) := by
  by_cases h : s.isRegistered key = true
  · exact Or.inl (disposes_disposeGatewaySession h)
  · refine Or.inr ⟨by simpa using h, ?_⟩
    unfold State.disposeGatewaySession
    rw [if_neg h]

theorem disposes_expired (h : s.isRegistered key = true) (reason : CloseReason) (now : ℕ) :
    Disposes key s (s.applySessionTransition key (.EXPIRED reason now)).1 := by
  exact disposes_after { s.heap key with lifecycle := .EXPIRED reason now } h rfl rfl
    (disposes_disposeGatewaySession (isRegistered_setSession rfl h))

/-- `applySessionTransition` moves a registered session on, or disposes of it. -/
theorem applySessionTransition_cases (h : s.isRegistered key = true) (next : SessionState) :
    (Moves key next s (s.applySessionTransition key next).1 ∧
      (s.applySessionTransition key next).2 = true ∧ ∀ reason now, next ≠ .EXPIRED reason now) ∨
    (Disposes key s (s.applySessionTransition key next).1 ∧
      (s.applySessionTransition key next).2 = false ∧ ∃ reason now, next = .EXPIRED reason now) := by
  cases next with
  | EXPIRED reason now => exact Or.inr ⟨disposes_expired h reason now, rfl, reason, now, rfl⟩
  | CREATING => exact Or.inl ⟨moves_lifecycle s key _, rfl, nofun⟩
  | ACTIVE state => exact Or.inl ⟨moves_lifecycle s key _, rfl, nofun⟩
  | RECONNECTING state => exact Or.inl ⟨moves_lifecycle s key _, rfl, nofun⟩
  | CLOSED reason now => exact Or.inl ⟨moves_lifecycle s key _, rfl, nofun⟩

end Composition

/-- The registered sessions that are not terminal and pass a test, as the loops of admission
count them. -/
def State.held (s : State) (test : GatewaySession → Bool) : Finset ℕ :=
  (Finset.range s.sessionCount).filter fun key =>
    s.isRegistered key = true ∧ (s.heap key).terminal = false ∧ test (s.heap key) = true

section Held

variable {s s' : State} {key : ℕ} {test : GatewaySession → Bool}

theorem mem_held (h : Registry s) : key ∈ s.held test ↔
    s.isRegistered key = true ∧ (s.heap key).terminal = false ∧ test (s.heap key) = true := by
  simp only [State.held, Finset.mem_filter, Finset.mem_range]
  constructor
  · exact fun hkey => hkey.2
  · exact fun hkey => ⟨h.lt hkey.1, hkey⟩

theorem card_filter_range (n : ℕ) (p : ℕ → Bool) :
    ((Finset.range n).filter fun i => p i = true).card = (List.range n).countP p := by
  rw [List.countP_eq_length_filter, ← List.toFinset_card_of_nodup (List.nodup_range.filter p)]
  congr 1
  ext i
  simp

theorem card_held (s : State) (test : GatewaySession → Bool) :
    (s.registered.filter fun session => !session.terminal).countP test = (s.held test).card := by
  rw [State.registered, List.countP_filter, List.countP_map, List.countP_filter,
    ← card_filter_range]
  congr 1
  ext i
  simp only [Finset.mem_filter, State.held, Function.comp_apply, Bool.and_eq_true,
    Bool.not_eq_true']
  tauto

theorem card_others (s : State) (key : ℕ) (test : GatewaySession → Bool) :
    ((((List.range s.sessionCount).filter s.isRegistered).filter
      fun other => other ≠ key).map s.heap |>.filter fun session => !session.terminal).countP test =
      ((s.held test).erase key).card := by
  rw [List.countP_filter, List.countP_map, List.countP_filter, List.countP_filter,
    ← card_filter_range]
  congr 1
  ext i
  simp only [Finset.mem_filter, Finset.mem_erase, State.held, Function.comp_apply,
    Bool.and_eq_true, Bool.not_eq_true', decide_eq_true_eq]
  tauto

theorem canAdmitNewTunnel_iff {ctx : Context} {moment : Moment} {accountId : Option Token} :
    s.canAdmitNewTunnel ctx moment accountId = true ↔
      moment.pendingElsewhere + (s.held isPending).card < ctx.maxPendingTunnels ∧
      (s.held isLive).card < ctx.maxActiveTunnels ∧
      (accountId = none ∨ moment.reservedByAccount + (s.held (ownedBy accountId)).card <
        ctx.maxTunnelsPerAccount) := by
  simp only [State.canAdmitNewTunnel, card_held, Bool.and_eq_true, Bool.or_eq_true,
    decide_eq_true_eq, and_assoc]

theorem canActivateTunnel_iff {ctx : Context} :
    s.canActivateTunnel ctx key = true ↔
      ((s.held isLive).erase key).card < ctx.maxActiveTunnels ∧
      ((s.heap key).owner.map Owner.accountId = none ∨
        ((s.held (ownedBy ((s.heap key).owner.map Owner.accountId))).erase key).card <
          ctx.maxTunnelsPerAccount) := by
  simp only [State.canActivateTunnel, card_others, Bool.and_eq_true, Bool.or_eq_true,
    decide_eq_true_eq]

/-- The test reads nothing that can change without the others seeing it. -/
def Reads (test : GatewaySession → Bool) : Prop :=
  ∀ before after, SameStanding before after → test after = test before

theorem reads_isPending : Reads isPending := by
  intro before after h
  simp only [isPending, h.lifecycle]

theorem reads_isLive : Reads isLive := by
  intro before after h
  simp only [isLive, h.lifecycle]

theorem reads_ownedBy (accountId : Option Token) : Reads (ownedBy accountId) := by
  intro before after h
  simp only [ownedBy, h.owner]

theorem Quiet.held (h : Quiet s s') (htest : Reads test) : s'.held test = s.held test := by
  ext i
  simp only [State.held, Finset.mem_filter, h.sessionCount, h.isRegistered,
    (h.standing i).terminal, htest _ _ (h.standing i)]

theorem Quiet.canActivateTunnel {ctx : Context} (h : Quiet s s') :
    s'.canActivateTunnel ctx key = s.canActivateTunnel ctx key := by
  rw [Bool.eq_iff_iff, canActivateTunnel_iff, canActivateTunnel_iff, h.held reads_isLive,
    (h.standing key).owner, h.held (reads_ownedBy _)]

theorem Quiet.canAdmitNewTunnel {ctx : Context} {moment : Moment} {accountId : Option Token}
    (h : Quiet s s') :
    s'.canAdmitNewTunnel ctx moment accountId = s.canAdmitNewTunnel ctx moment accountId := by
  rw [Bool.eq_iff_iff, canAdmitNewTunnel_iff, canAdmitNewTunnel_iff, h.held reads_isLive,
    h.held reads_isPending, h.held (reads_ownedBy _)]

end Held

/-- What the handler of one frame can do to the sessions, with the checks it made. -/
inductive RunEffect (ctx : Context) (moment : Moment) (s s' : State) : Prop
  | quiet (h : Quiet s s')
  | created (tunnelId : Token) (owner : Option Owner)
      (hadmitted : s.canAdmitNewTunnel ctx moment (owner.map Owner.accountId) = true)
      (h : Creates tunnelId owner s s')
  | resumed (key : ℕ) (state next : ReconnectingState) (hregistered : s.isRegistered key = true)
      (hbefore : (s.heap key).lifecycle = .RECONNECTING state)
      (h : Moves key (.RECONNECTING next) s s')
  | activated (key : ℕ) (active : ActiveState) (hregistered : s.isRegistered key = true)
      (hbefore : (s.heap key).lifecycle = .CREATING ∨
        ∃ state, (s.heap key).lifecycle = .RECONNECTING state)
      (hready : moment.isReady = true) (hactivable : s.canActivateTunnel ctx key = true)
      (hstreams : active.activeStreamCount = 0) (h : Moves key (.ACTIVE active) s s')
  | disposed (key : ℕ) (h : Disposes key s s')

section Handlers

variable {ctx : Context} {moment : Moment} {s s' s'' : State} {socket bytes key : ℕ}

theorem RunEffect.after (h : RunEffect ctx moment s s') (hbook : Bookkeeping s' s'') :
    RunEffect ctx moment s s'' := by
  have hquiet := quiet_of_bookkeeping hbook
  cases h with
  | quiet h => exact .quiet (h.trans hquiet)
  | created tunnelId owner hadmitted h => exact .created tunnelId owner hadmitted (h.quiet hquiet)
  | resumed key state next hregistered hbefore h =>
    exact .resumed key state next hregistered hbefore (h.quiet hquiet)
  | activated key active hregistered hbefore hready hactivable hstreams h =>
    exact .activated key active hregistered hbefore hready hactivable hstreams (h.quiet hquiet)
  | disposed key h => exact .disposed key (h.quiet hquiet)

theorem RunEffect.before (hquiet : Quiet s s') (h : RunEffect ctx moment s' s'') :
    RunEffect ctx moment s s'' := by
  cases h with
  | quiet h => exact .quiet (hquiet.trans h)
  | created tunnelId owner hadmitted h =>
    refine .created tunnelId owner ?_ (hquiet.creates h)
    rwa [← hquiet.canAdmitNewTunnel]
  | resumed key state next hregistered hbefore h =>
    refine .resumed key state next ?_ ?_ (hquiet.moves h)
    · rwa [← hquiet.isRegistered]
    · rwa [← (hquiet.standing key).lifecycle]
  | activated key active hregistered hbefore hready hactivable hstreams h =>
    refine .activated key active ?_ ?_ hready ?_ hstreams (hquiet.moves h)
    · rwa [← hquiet.isRegistered]
    · rwa [← (hquiet.standing key).lifecycle]
    · rwa [← hquiet.canActivateTunnel]
  | disposed key h => exact .disposed key (hquiet.disposes h)

theorem bookkeeping_effect (hbook : Bookkeeping s s') : RunEffect ctx moment s s' :=
  .quiet (quiet_of_bookkeeping hbook)

theorem finish_effect : RunEffect ctx moment s (s.finish socket bytes) :=
  bookkeeping_effect (finish_bookkeeping s socket bytes)

theorem fail_effect : RunEffect ctx moment s (s.fail socket bytes) :=
  bookkeeping_effect (fail_bookkeeping s socket bytes)

theorem rejectCarrier_effect : RunEffect ctx moment s (s.rejectCarrier socket bytes) :=
  bookkeeping_effect (rejectCarrier_bookkeeping s socket bytes)

theorem createSession_creates {hello : HelloMetadata} (hfree : s.sessions hello.tunnelId = none) :
    Creates hello.tunnelId ((s.carriers socket).developerAuthorization.map
      DeveloperAuthorization.owner) s (createSession ctx s socket bytes hello) := by
  refine Creates.quiet ?_ (quiet_of_bookkeeping (await_bookkeeping _ socket bytes _))
  refine Creates.quiet ?_ (quiet_of_bookkeeping (record_bookkeeping _ _))
  refine ⟨hfree, rfl, rfl, ?_, ?_, ?_, ?_, ?_⟩
  · intro other hother
    simp only [setCarrier, Function.update_of_ne hother]
    exact .refl _
  · simp [setCarrier]
  · simp [setCarrier]
  · simp [setCarrier]
  · simp only [setCarrier, Function.update_self]
    exact wellKept_new _

theorem resumeSession_moves {hello : HelloMetadata} {existing : GatewaySession}
    {attemptId generation now : ℕ} {next : ReconnectingState}
    (h : (s.heap key).lifecycle = .RECONNECTING next) :
    Moves key (.RECONNECTING next) s
      (resumeSession ctx s socket bytes key attemptId generation now hello existing) := by
  unfold resumeSession
  refine Moves.quiet ?_ (quiet_of_bookkeeping (await_bookkeeping _ socket bytes _))
  refine Moves.quiet ?_ (quiet_of_bookkeeping (record_bookkeeping _ _))
  have hdisposed := quiet_disposeActivationCandidate s key
  refine Moves.quiet (hdisposed.moves ?_) (quiet_setCarrier _ socket _)
  have hlifecycle := (hdisposed.standing key).lifecycle.trans h
  exact moves_setSession (resumedSession ctx _ socket generation hello) rfl rfl rfl hlifecycle
    (fun _ => wellKept_new _) (Or.inl ⟨next, hlifecycle⟩)

theorem handleResume_effect {hello : HelloMetadata} {resumeSecret : Token} (hregistry : Registry s) :
    RunEffect ctx moment s (handleResume ctx s socket bytes moment hello resumeSecret) := by
  unfold handleResume
  cases hkey : s.sessions hello.tunnelId with
  | none => exact rejectCarrier_effect
  | some key =>
    dsimp only
    split_ifs with hadmitted
    · exact rejectCarrier_effect
    · have hdrawn := quiet_drawn s 1
      have hregistered := hregistry.isRegistered hkey
      cases htransition : (s.heap key).lifecycle.transitionSession ctx.sessionPolicy
          (.START_RESUME moment.now s.drawn) with
      | error error =>
        cases error with
        | RESUME_IN_PROGRESS =>
          exact (RunEffect.quiet hdrawn).after (rejectCarrier_bookkeeping _ socket bytes)
        | _ => exact (RunEffect.quiet hdrawn).after (fail_bookkeeping _ socket bytes)
      | ok next =>
        rcases SessionState.transitionSession_startResume htransition with
          ⟨reason, rfl⟩ | ⟨state, hstate, -, rfl⟩
        · have hexpired := disposes_expired (s := { s with drawn := s.drawn + 1 }) hregistered reason
            moment.now
          exact (RunEffect.disposed key (hdrawn.disposes hexpired)).after
            (rejectCarrier_bookkeeping _ socket bytes)
        · refine .resumed key state { state with
            candidateAttemptId := some s.drawn
            candidateGeneration := some (state.lastIssuedGeneration.getD state.generation + 1)
            lastIssuedGeneration := some (state.lastIssuedGeneration.getD state.generation + 1) }
            hregistered hstate ?_
          refine (hdrawn.moves (moves_lifecycle _ key _)).trans (resumeSession_moves ?_)
            (Or.inl ⟨state, hstate⟩)
          simp

theorem handleHello_effect {envelope : Envelope} (hregistry : Registry s) :
    RunEffect ctx moment s (handleHello ctx s socket bytes moment envelope) := by
  unfold handleHello
  split
  · rename_i hello _ _
    split
    · exact bookkeeping_effect
        ((closeSocket_bookkeeping s socket).trans (finish_bookkeeping _ socket bytes))
    · split
      · split_ifs with hregistered hadmitted
        · exact rejectCarrier_effect
        · exact rejectCarrier_effect
        · have hfree : s.sessions hello.tunnelId = none := by simpa using hregistered
          refine .created hello.tunnelId _ ?_ (createSession_creates hfree)
          simpa [Option.map_map, Function.comp_def] using hadmitted
      · exact handleResume_effect hregistry
  · exact fail_effect

theorem issue_le {ids ids' : GatewayStreamIds} {streamId : ℕ} (h : ids.issue = .ok (streamId, ids')) :
    ids.highestIssuedStreamId < streamId ∧ ids'.highestIssuedStreamId = streamId := by
  unfold GatewayStreamIds.issue at h
  split_ifs at h
  cases h
  refine ⟨?_, rfl⟩
  unfold GatewayStreamIds.next
  split_ifs
  · omega
  · omega

theorem openProbe_quiet {applied : ConfigAppliedMetadata} :
    Quiet s (openProbe s socket bytes key moment applied) := by
  have happlied : SameStanding (s.heap key)
      { s.heap key with appliedConfig := some applied, provisionId := none } :=
    ⟨rfl, rfl, rfl, rfl, rfl, rfl, id, le_rfl⟩
  unfold openProbe
  dsimp only
  split
  · exact (quiet_setSession happlied).trans (quiet_of_bookkeeping (finish_bookkeeping _ _ _))
  · split
    · exact (quiet_setSession happlied).trans (quiet_of_bookkeeping (fail_bookkeeping _ _ _))
    · rename_i streamId streamIds hissue
      have hissued : (s.heap key).streamIds.highestIssuedStreamId ≤
          streamIds.highestIssuedStreamId := by
        have hnext := issue_le hissue
        rw [hnext.2]
        exact hnext.1.le
      have hdrawn (event : Event) : Quiet s (({ s with drawn := s.drawn + 1 }).record event) :=
        ⟨rfl, rfl, fun _ => .refl _⟩
      split
      · refine ((hdrawn _).trans (quiet_setSession ?_)).trans
          (quiet_of_bookkeeping (fail_bookkeeping _ _ _))
        exact ⟨rfl, rfl, rfl, rfl, rfl, rfl, id, hissued⟩
      · split
        · refine ((hdrawn _).trans (quiet_setSession ?_)).trans
            (quiet_of_bookkeeping (fail_bookkeeping _ _ _))
          exact ⟨rfl, rfl, rfl, rfl, rfl, rfl, id, hissued⟩
        · rename_i inboundFlow hopen
          refine ((hdrawn _).trans (quiet_setSession ?_)).trans
            (quiet_of_bookkeeping (await_bookkeeping _ _ _ _))
          exact ⟨rfl, rfl, rfl, rfl, rfl, rfl, fun h => h.openStream hopen, hissued⟩

theorem handleConfigApplied_quiet {applied : ConfigAppliedMetadata} :
    Quiet s (handleConfigApplied s socket bytes key moment applied) := by
  have hreject := quiet_of_bookkeeping (rejectCarrier_bookkeeping s socket bytes)
  unfold handleConfigApplied
  dsimp only
  split
  · split_ifs
    · exact quiet_of_bookkeeping (finish_bookkeeping s socket bytes)
    · exact hreject
  · split_ifs
    · exact hreject
    · exact hreject
    · exact hreject
    · exact hreject
    · exact openProbe_quiet

theorem handleProbeData_quiet {probe : Probe} {payload : List UInt8} :
    Quiet s (handleProbeData s socket bytes key probe payload) := by
  unfold handleProbeData
  dsimp only
  split
  · exact quiet_of_bookkeeping (fail_bookkeeping s socket bytes)
  · rename_i inboundFlow hconsume
    split_ifs
    · refine (quiet_setSession ?_).trans (quiet_of_bookkeeping (fail_bookkeeping _ _ _))
      exact ⟨rfl, rfl, rfl, rfl, rfl, rfl, fun h => h.consume hconsume, le_rfl⟩
    · refine ((quiet_setSession ?_).trans (quiet_of_bookkeeping (record_bookkeeping _ _))).trans
        (quiet_of_bookkeeping (await_bookkeeping _ _ _ _))
      exact ⟨rfl, rfl, rfl, rfl, rfl, rfl, fun h => h.consume hconsume, le_rfl⟩

/-- The commit of an activation, whose checks were made before. -/
theorem activate_effect {canActivate : Bool} (hregistered : s.isRegistered key = true)
    (hready : moment.isReady = true) (hactivable : s.canActivateTunnel ctx key = true) :
    RunEffect ctx moment s (activate ctx s socket bytes key moment canActivate) := by
  have hcommitted {next : State} {event : Event} {generation other : ℕ}
      (hnext : RunEffect ctx moment s next) :
      RunEffect ctx moment s (if generation ≠ other then (next.record event).fail socket bytes
        else (next.record event).await socket bytes .activating) := by
    have hrecorded := hnext.after (record_bookkeeping next event)
    split_ifs
    · exact hrecorded.after (fail_bookkeeping _ socket bytes)
    · exact hrecorded.after (await_bookkeeping _ socket bytes _)
  unfold activate
  dsimp only
  split
  · rename_i hcreating
    rw [hcreating]
    exact hcommitted (.activated key _ hregistered (Or.inl hcreating) hready hactivable rfl
      (moves_lifecycle s key _))
  · split
    · exact fail_effect
    · rename_i attemptId hattempt
      cases htransition : (s.heap key).lifecycle.transitionSession ctx.sessionPolicy
          (.RESUME_COMMITTED moment.now attemptId) with
      | error error => exact fail_effect
      | ok next =>
        rcases SessionState.transitionSession_resumeCommitted htransition with
          ⟨reason, rfl⟩ | ⟨state, hstate, -, rfl⟩
        · exact (RunEffect.disposed key (disposes_expired hregistered reason moment.now)).after
            (finish_bookkeeping _ socket bytes)
        · exact hcommitted (.activated key _ hregistered (Or.inr ⟨state, hstate⟩) hready hactivable
            rfl (moves_lifecycle s key _))

theorem handleProbeEnd_effect {probe : Probe} (hregistered : s.isRegistered key = true) :
    RunEffect ctx moment s (handleProbeEnd ctx s socket bytes key moment probe) := by
  unfold handleProbeEnd
  dsimp only
  have hended : Quiet s (s.setSession key
      { s.heap key with probe := some { probe with clientEnded := true } }) :=
    quiet_setSession ⟨rfl, rfl, rfl, rfl, rfl, rfl, id, le_rfl⟩
  have hreject := hended.trans (quiet_of_bookkeeping (rejectCarrier_bookkeeping _ socket bytes))
  split_ifs with hduplicate hecho hready hactivable
  · exact fail_effect
  · exact .quiet hreject
  · exact .quiet hreject
  · exact .quiet hreject
  · split
    · refine (RunEffect.quiet (hended.trans (quiet_setSession ?_))).after
        (fail_bookkeeping _ socket bytes)
      simp only [setSession_self]
      exact ⟨rfl, rfl, rfl, rfl, rfl, rfl, id, le_rfl⟩
    · rename_i inboundFlow hclose
      have hclosed : Quiet s ((s.setSession key
          { s.heap key with probe := some { probe with clientEnded := true } }).setSession key
            { s.heap key with
              outboundFlow := ((s.heap key).outboundFlow.closeStream probe.streamId).1
              inboundFlow := inboundFlow
              probe := none }) := by
        refine hended.trans (quiet_setSession ?_)
        simp only [setSession_self]
        exact ⟨rfl, rfl, rfl, rfl, rfl, rfl, fun h => h.closeStream hclose, le_rfl⟩
      refine RunEffect.before hclosed (activate_effect ?_ (by simpa using hready) ?_)
      · rw [hclosed.isRegistered]
        exact hregistered
      · rw [hclosed.canActivateTunnel, ← hended.canActivateTunnel]
        simpa using hactivable

theorem handleProbeFrame_effect {frame : Frame} (hregistered : s.isRegistered key = true) :
    RunEffect ctx moment s (handleProbeFrame ctx s socket bytes key moment frame) := by
  have hfail : RunEffect ctx moment s (s.fail socket bytes) := fail_effect
  unfold handleProbeFrame
  split
  · exact hfail
  · split
    · split_ifs
      · exact hfail
      · split
        · exact hfail
        · refine (RunEffect.quiet (quiet_setSession ?_)).after (finish_bookkeeping _ socket bytes)
          exact ⟨rfl, rfl, rfl, rfl, rfl, rfl, id, le_rfl⟩
    · split_ifs
      · exact hfail
      · exact .quiet handleProbeData_quiet
    · split_ifs
      · exact hfail
      · exact handleProbeEnd_effect hregistered
    · exact hfail

theorem handleActive_effect {frame : Frame} (hregistered : s.isRegistered key = true) :
    RunEffect ctx moment s (handleActive s socket bytes key frame) := by
  unfold handleActive
  split
  · have hstopped := quiet_setCarrier s socket { s.carriers socket with receiveFailed := true }
    refine RunEffect.after ?_ (finish_bookkeeping _ socket bytes)
    exact .disposed key (hstopped.disposes (disposes_disposeGatewaySession hregistered))
  · exact fail_effect
  · split_ifs
    · exact finish_effect
    · exact rejectCarrier_effect
  · exact bookkeeping_effect
      ((record_bookkeeping s _).trans (await_bookkeeping _ socket bytes _))

theorem handleFrame_effect {envelope : Envelope} :
    RunEffect ctx moment s (handleFrame ctx s socket bytes key moment envelope) := by
  unfold handleFrame
  dsimp only
  split
  · exact fail_effect
  · split
    · exact finish_effect
    · rename_i hcurrent
      have hregistered : s.isRegistered key = true := by
        simpa using (not_or.mp hcurrent).2
      split
      · exact finish_effect
      · exact bookkeeping_effect (await_bookkeeping s socket bytes _)
      · split
        · exact handleActive_effect hregistered
        · split
          · exact fail_effect
          · exact .quiet handleConfigApplied_quiet
          · exact handleProbeFrame_effect hregistered

theorem runHandler_effect {message : Message} (hregistry : Registry s) :
    RunEffect ctx moment s (runHandler ctx s socket message moment) := by
  unfold runHandler
  dsimp only
  split
  · exact finish_effect
  · split
    · exact fail_effect
    · split
      · exact handleHello_effect hregistry
      · exact handleFrame_effect

theorem run_effect (hregistry : Registry s) (h : step ctx s (.run socket moment) = some s') :
    RunEffect ctx moment s s' := by
  obtain ⟨message, rest, -, -, rfl⟩ := step_run h
  have hdequeued := quiet_of_bookkeeping (dequeue_bookkeeping s socket rest)
  refine RunEffect.before hdequeued (runHandler_effect ?_)
  exact hregistry

theorem resumeHandler_quiet {point : Await} : Quiet s (resumeHandler s socket bytes point) := by
  have hfinish := quiet_of_bookkeeping (finish_bookkeeping s socket bytes)
  cases point with
  | rejecting =>
    exact quiet_of_bookkeeping
      ((closeSocket_bookkeeping s socket).trans (finish_bookkeeping _ socket bytes))
  | provisioning key =>
    simp only [resumeHandler]
    split_ifs
    · exact hfinish
    · exact quiet_of_bookkeeping (await_bookkeeping s socket bytes _)
  | configuring key transport config =>
    exact quiet_of_bookkeeping
      ((record_bookkeeping s _).trans (finish_bookkeeping _ socket bytes))
  | probeOpening key transport probe =>
    simp only [resumeHandler]
    split_ifs
    · exact hfinish
    · split
      · exact quiet_of_bookkeeping (fail_bookkeeping s socket bytes)
      · refine (quiet_setSession ?_).trans (quiet_of_bookkeeping (await_bookkeeping _ _ _ _))
        exact ⟨rfl, rfl, rfl, rfl, rfl, rfl, id, le_rfl⟩
  | probeSending key transport probe =>
    simp only [resumeHandler]
    split_ifs
    · exact hfinish
    · exact quiet_of_bookkeeping (await_bookkeeping s socket bytes _)
  | probeCrediting key transport probeId streamId credit =>
    simp only [resumeHandler]
    split_ifs
    · exact hfinish
    · split
      · exact quiet_of_bookkeeping (fail_bookkeeping s socket bytes)
      · rename_i inboundFlow hrelease
        refine (quiet_setSession ?_).trans (quiet_of_bookkeeping (finish_bookkeeping _ _ _))
        exact ⟨rfl, rfl, rfl, rfl, rfl, rfl, fun h => h.release hrelease, le_rfl⟩
  | ponging => exact hfinish
  | probeEnding => exact hfinish
  | activating => exact hfinish
  | application => exact hfinish

theorem sendSettles_quiet {succeeded : Bool}
    (h : step ctx s (.sendSettles socket succeeded) = some s') : Quiet s s' := by
  obtain ⟨point, bytes, -, rfl | rfl⟩ := step_sendSettles h
  · exact resumeHandler_quiet
  · exact quiet_of_bookkeeping (fail_bookkeeping s socket bytes)

/-- The registered session that the socket carries. -/
def Carries (s : State) (socket key : ℕ) : Prop :=
  (s.carriers socket).session = some key ∧ s.isRegistered key = true ∧ (s.heap key).socket = socket

instance (s : State) (socket key : ℕ) : Decidable (Carries s socket key) :=
  inferInstanceAs (Decidable (_ ∧ _ ∧ _))

/-- What the cleanup of a socket can do: the session it carries is lost, loses its candidate, or
goes with it. -/
inductive CleanupEffect (socket : ℕ) (s s' : State) : Prop
  | quiet (hinactive : ∀ key, Carries s socket key → isActive (s.heap key) = false)
      (h : Quiet s s')
  | reconnecting (key : ℕ) (next : ReconnectingState) (hcarried : Carries s socket key)
      (hbefore : (∃ state, (s.heap key).lifecycle = .ACTIVE state) ∨
        ∃ state, (s.heap key).lifecycle = .RECONNECTING state)
      (h : Moves key (.RECONNECTING next) s s')
  | disposed (key : ℕ) (hcarried : Carries s socket key) (h : Disposes key s s')

/-- A carrier can always be lost. -/
theorem transitionSession_carrierLost (policy : SessionPolicy) (state : ActiveState) (now : ℕ) :
    (∃ reason, (SessionState.ACTIVE state).transitionSession policy (.CARRIER_LOST now) =
      .ok (.EXPIRED reason now)) ∨
    ∃ next, (SessionState.ACTIVE state).transitionSession policy (.CARRIER_LOST now) =
      .ok (.RECONNECTING next) := by
  simp only [SessionState.transitionSession, SessionEvent.now]
  cases hexpire : SessionState.expireActiveIfNeeded state now policy with
  | some expired =>
    obtain ⟨reason, rfl⟩ := SessionState.expireActiveIfNeeded_some hexpire
    exact Or.inl ⟨reason, rfl⟩
  | none => exact Or.inr ⟨_, rfl⟩

theorem transitionSession_resumeFailed {policy : SessionPolicy} {state : ReconnectingState}
    {next : SessionState} {now attemptId : ℕ}
    (h : (SessionState.RECONNECTING state).transitionSession policy
      (.RESUME_FAILED now attemptId) = .ok next) :
    (∃ reason, next = .EXPIRED reason now) ∨
      next = .RECONNECTING (SessionState.withoutCandidate state) := by
  rcases SessionState.transitionSession_ok h with hstate | hexpired | ⟨_, hstate, -⟩ |
    ⟨reconnecting, hstate, hnext⟩
  · cases hstate
  · exact Or.inl hexpired
  · cases hstate
  · cases hstate
    simp only [SessionState.transitionReconnecting] at hnext
    split_ifs at hnext
    cases hnext
    exact Or.inr rfl

theorem cleanup_effect {now : ℕ} : CleanupEffect socket s (cleanup ctx s socket now) := by
  unfold cleanup
  dsimp only
  have hcleaned := quiet_setCarrier s socket
    { s.carriers socket with cleanedUp := true, isOpen := false }
  split
  · rename_i hsession
    refine .quiet ?_ hcleaned
    intro key hcarried
    cases hsession.symm.trans hcarried.1
  · rename_i key hsession
    have honly {other : ℕ} (hother : Carries s socket other) : other = key :=
      Option.some.inj (hother.1.symm.trans hsession)
    split
    · rename_i hstale
      refine .quiet ?_ hcleaned
      intro other hother
      obtain rfl := honly hother
      simp [hother.2.1, hother.2.2] at hstale
    · rename_i hcurrent
      have hcarried : Carries s socket key := by
        refine ⟨hsession, ?_, ?_⟩
        · simpa using (not_or.mp hcurrent).1
        · exact not_not.mp (not_or.mp hcurrent).2
      have hdisposed := hcleaned.trans (quiet_disposeActivationCandidate _ key)
      have hregistered : (((s.setCarrier socket { s.carriers socket with
          cleanedUp := true, isOpen := false }).disposeActivationCandidate key).isRegistered key) =
            true := (hdisposed.isRegistered key).trans hcarried.2.1
      have hlifecycle := (hdisposed.standing key).lifecycle
      have hremoved := CleanupEffect.disposed key hcarried
        (hdisposed.disposes (disposes_remove hregistered))
      split
      · exact hremoved
      · rw [hlifecycle]
        cases hstate : (s.heap key).lifecycle with
        | CREATING => exact hremoved
        | ACTIVE state =>
          rcases transitionSession_carrierLost ctx.sessionPolicy state now with
            ⟨reason, hnext⟩ | ⟨next, hnext⟩
          · simp only [hnext]
            exact .disposed key hcarried
              (hdisposed.disposes (disposes_expired hregistered reason now))
          · simp only [hnext]
            exact .reconnecting key next hcarried (Or.inl ⟨state, hstate⟩)
              (hdisposed.moves (moves_lifecycle _ key _))
        | RECONNECTING state =>
          have hkept : CleanupEffect socket s ((s.setCarrier socket { s.carriers socket with
              cleanedUp := true, isOpen := false }).disposeActivationCandidate key) := by
            refine .quiet ?_ hdisposed
            intro other hother
            obtain rfl := honly hother
            simp [isActive, hstate]
          dsimp only
          split_ifs
          · split
            · rename_i next hnext
              rcases transitionSession_resumeFailed hnext with ⟨reason, rfl⟩ | rfl
              · exact .disposed key hcarried
                  (hdisposed.disposes (disposes_expired hregistered reason now))
              · exact .reconnecting key _ hcarried (Or.inr ⟨state, hstate⟩)
                  (hdisposed.moves (moves_lifecycle _ key _))
            · exact hkept
          · exact hkept
        | EXPIRED =>
          refine .quiet ?_ hdisposed
          intro other hother
          obtain rfl := honly hother
          simp [isActive, hstate]
        | CLOSED =>
          refine .quiet ?_ hdisposed
          intro other hother
          obtain rfl := honly hother
          simp [isActive, hstate]

end Handlers

/-! What follows for the registry and for the sessions that admission counts. -/

section Registry

variable {s s' : State} {key other : ℕ} {next : SessionState} {tunnelId : Token}
  {owner : Option Owner} {test : GatewaySession → Bool}

theorem Moves.isRegistered (h : Moves key next s s') (other : ℕ) :
    s'.isRegistered other = s.isRegistered other := by
  by_cases hother : other = key
  · subst hother
    simp only [State.isRegistered, h.sessions, h.tunnelId]
  · simp only [State.isRegistered, h.sessions, (h.others other hother).tunnelId]

theorem Disposes.isRegistered_self (h : Disposes key s s') : s'.isRegistered key = false := by
  simp [State.isRegistered, h.sessions, h.tunnelId]

theorem Disposes.isRegistered_of_ne (h : Disposes key s s') (hother : other ≠ key) :
    s'.isRegistered other = s.isRegistered other := by
  have hkey : s.sessions (s.heap key).tunnelId = some key := by
    simpa [State.isRegistered] using h.registered
  simp only [State.isRegistered, h.sessions, (h.others other hother).tunnelId]
  by_cases htunnel : (s.heap other).tunnelId = (s.heap key).tunnelId
  · simp [htunnel, hkey, hother.symm]
  · rw [Function.update_of_ne htunnel]

theorem Creates.isRegistered_new (h : Creates tunnelId owner s s') :
    s'.isRegistered s.sessionCount = true := by
  simp [State.isRegistered, h.sessions, h.tunnelId]

theorem Creates.isRegistered_of_ne (h : Creates tunnelId owner s s')
    (hother : other ≠ s.sessionCount) : s'.isRegistered other = s.isRegistered other := by
  simp only [State.isRegistered, h.sessions, (h.others other hother).tunnelId]
  by_cases htunnel : (s.heap other).tunnelId = tunnelId
  · simp [htunnel, h.free, hother.symm]
  · rw [Function.update_of_ne htunnel]

theorem Quiet.registry (h : Quiet s s') (hregistry : Registry s) : Registry s' := by
  intro tunnelId key hkey
  rw [h.sessions] at hkey
  rw [h.sessionCount, (h.standing key).tunnelId]
  exact hregistry tunnelId key hkey

theorem Moves.registry (h : Moves key next s s') (hregistry : Registry s) : Registry s' := by
  intro tunnelId other hother
  rw [h.sessions] at hother
  obtain ⟨hlt, htunnel⟩ := hregistry tunnelId other hother
  refine ⟨h.sessionCount ▸ hlt, ?_⟩
  by_cases heq : other = key
  · rw [heq, h.tunnelId, ← heq]
    exact htunnel
  · exact (h.others other heq).tunnelId.trans htunnel

theorem Disposes.registry (h : Disposes key s s') (hregistry : Registry s) : Registry s' := by
  intro tunnelId other hother
  rw [h.sessions] at hother
  have hbefore : s.sessions tunnelId = some other := by
    by_cases htunnel : tunnelId = (s.heap key).tunnelId
    · simp [htunnel] at hother
    · rwa [Function.update_of_ne htunnel] at hother
  obtain ⟨hlt, htunnel⟩ := hregistry tunnelId other hbefore
  refine ⟨h.sessionCount ▸ hlt, ?_⟩
  by_cases heq : other = key
  · rw [heq, h.tunnelId, ← heq]
    exact htunnel
  · exact (h.others other heq).tunnelId.trans htunnel

theorem Creates.registry (h : Creates tunnelId owner s s') (hregistry : Registry s) :
    Registry s' := by
  intro other key hkey
  rw [h.sessions] at hkey
  rw [h.sessionCount]
  by_cases htunnel : other = tunnelId
  · rw [htunnel, Function.update_self] at hkey
    cases hkey
    exact ⟨Nat.lt_succ_self _, h.tunnelId.trans htunnel.symm⟩
  · rw [Function.update_of_ne htunnel] at hkey
    obtain ⟨hlt, hbefore⟩ := hregistry other key hkey
    exact ⟨Nat.lt_succ_of_lt hlt, (h.others key hlt.ne).tunnelId.trans hbefore⟩

theorem Moves.held_erase (h : Moves key next s s') (htest : Reads test) :
    (s'.held test).erase key = (s.held test).erase key := by
  ext other
  simp only [Finset.mem_erase, State.held, Finset.mem_filter, h.sessionCount, h.isRegistered]
  apply and_congr_right
  intro hother
  rw [(h.others other hother).terminal, htest _ _ (h.others other hother)]

theorem Disposes.held (h : Disposes key s s') (htest : Reads test) :
    s'.held test = (s.held test).erase key := by
  ext other
  simp only [Finset.mem_erase, State.held, Finset.mem_filter, h.sessionCount]
  by_cases hother : other = key
  · subst hother
    simp [h.isRegistered_self]
  · rw [h.isRegistered_of_ne hother, (h.others other hother).terminal,
      htest _ _ (h.others other hother)]
    simp [hother]

theorem Creates.held_erase (h : Creates tunnelId owner s s') (htest : Reads test) :
    (s'.held test).erase s.sessionCount = s.held test := by
  ext other
  simp only [Finset.mem_erase, State.held, Finset.mem_filter, Finset.mem_range, h.sessionCount]
  by_cases hother : other = s.sessionCount
  · simp [hother]
  · rw [h.isRegistered_of_ne hother, (h.others other hother).terminal,
      htest _ _ (h.others other hother)]
    constructor
    · rintro ⟨-, hlt, hheld⟩
      exact ⟨by omega, hheld⟩
    · rintro ⟨hlt, hheld⟩
      exact ⟨hother, by omega, hheld⟩

theorem RunEffect.registry {ctx : Context} {moment : Moment} (h : RunEffect ctx moment s s')
    (hregistry : Registry s) : Registry s' := by
  cases h with
  | quiet h => exact h.registry hregistry
  | created _ _ _ h => exact h.registry hregistry
  | resumed _ _ _ _ _ h => exact h.registry hregistry
  | activated _ _ _ _ _ _ _ h => exact h.registry hregistry
  | disposed _ h => exact h.registry hregistry

theorem CleanupEffect.registry {socket : ℕ} (h : CleanupEffect socket s s')
    (hregistry : Registry s) : Registry s' := by
  cases h with
  | quiet _ h => exact h.registry hregistry
  | reconnecting _ _ _ _ h => exact h.registry hregistry
  | disposed _ _ h => exact h.registry hregistry

end Registry

end Lotur.Gateway
