import Lotur.Gateway.ServerRuns

/-! Two invariants of whole runs of the gateway process: the bounds of admission, which a tunnel
keeps as it passes from a reservation to a pending connection, a session being created and an
active one; and the kill switch, under which no session is live. -/
namespace Lotur.Gateway

open State

section Counts

variable {s s' : State} {key : ℕ} {next : SessionState} {test : GatewaySession → Bool}

/-- A session that moves on adds to a count only if it passes the test for the first time. -/
theorem Moves.card_held_le (h : Moves key next s s') (htest : Reads test)
    (hbefore : test (s'.heap key) = true → test (s.heap key) = true) :
    (s'.held test).card ≤ (s.held test).card := by
  apply Finset.card_le_card
  intro other
  simp only [State.held, Finset.mem_filter, h.sessionCount, h.isRegistered]
  rintro ⟨hlt, hregistered, hterminal, hother⟩
  by_cases heq : other = key
  · subst heq
    exact ⟨hlt, hregistered, h.terminal ▸ hterminal, hbefore hother⟩
  · rw [(h.others other heq).terminal] at hterminal
    rw [htest _ _ (h.others other heq)] at hother
    exact ⟨hlt, hregistered, hterminal, hother⟩

theorem Moves.card_held_le_succ (h : Moves key next s s') (htest : Reads test) :
    (s'.held test).card ≤ ((s.held test).erase key).card + 1 := by
  rw [← h.held_erase htest]
  exact Nat.le_add_of_sub_le Finset.pred_card_le_card_erase

theorem Disposes.card_held_le (h : Disposes key s s') (htest : Reads test) :
    (s'.held test).card ≤ (s.held test).card := by
  rw [h.held htest]
  exact Finset.card_erase_le

theorem Creates.card_held_le_succ {tunnelId : Token} {owner : Option Owner}
    (h : Creates tunnelId owner s s') (htest : Reads test) :
    (s'.held test).card ≤ (s.held test).card + 1 := by
  rw [← h.held_erase htest]
  exact Nat.le_add_of_sub_le Finset.pred_card_le_card_erase

/-- The new session does not pass the test. -/
theorem Creates.card_held_le {tunnelId : Token} {owner : Option Owner}
    (h : Creates tunnelId owner s s') (htest : Reads test)
    (hnew : test (s'.heap s.sessionCount) = false) : (s'.held test).card ≤ (s.held test).card := by
  rw [← h.held_erase htest, Finset.erase_eq_of_notMem]
  simp [State.held, hnew]

end Counts

namespace Server

section Bounds

variable {config : ServerConfig} {s s' : Server}

/-- The slots that are in use, of each of the three kinds, and the callbacks behind the two
counters. -/
structure Bounded (config : ServerConfig) (s : Server) : Prop where
  connections : s.admission.pendingCarrierConnections.Sound
  attempts : s.admission.carrierAuthorizationAttempts.Sound
  pending : s.admission.pendingCarrierConnections.inUse +
    s.admission.credentialReservations.length + (s.gateway.held isPending).card ≤
      config.ctx.maxPendingTunnels
  live : (s.gateway.held isLive).card ≤ config.ctx.maxActiveTunnels
  account : ∀ accountId : Token, (s.gateway.held (ownedBy (some accountId))).card ≤
    config.ctx.maxTunnelsPerAccount

theorem start_bounded (config : ServerConfig) (initialKillSwitch : Bool) (now : ℕ) :
    Bounded config (start initialKillSwitch now) where
  connections := Slots.new_sound
  attempts := Slots.new_sound
  pending := by
    have hnone : (start initialKillSwitch now).gateway.held isPending = ∅ := Finset.filter_empty _
    rw [hnone]
    simp [start, GatewayAdmission.new, Slots.new]
  live := Nat.zero_le _
  account _ := Nat.zero_le _

theorem hasPendingTunnelCapacity_iff {admission : GatewayAdmission} {sessions : State} :
    admission.hasPendingTunnelCapacity config.ctx sessions = true ↔
      admission.pendingCarrierConnections.inUse + admission.credentialReservations.length +
        (sessions.held isPending).card < config.ctx.maxPendingTunnels := by
  simp only [GatewayAdmission.hasPendingTunnelCapacity, card_held, decide_eq_true_eq]

/-- No session moves, so only the counters of admission can grow. -/
theorem Bounded.admission (h : Bounded config s) (hquiet : Quiet s.gateway s'.gateway)
    (hconnections : s'.admission.pendingCarrierConnections.Sound)
    (hattempts : s'.admission.carrierAuthorizationAttempts.Sound)
    (hpending : s'.admission.pendingCarrierConnections.inUse +
      s'.admission.credentialReservations.length + (s.gateway.held isPending).card ≤
        config.ctx.maxPendingTunnels) : Bounded config s' where
  connections := hconnections
  attempts := hattempts
  pending := by
    rw [hquiet.held reads_isPending]
    exact hpending
  live := by
    rw [hquiet.held reads_isLive]
    exact h.live
  account accountId := by
    rw [hquiet.held (reads_ownedBy _)]
    exact h.account accountId

theorem AdmissionStep.bounded (hstep : AdmissionStep config s s') (h : Bounded config s) :
    Bounded config s' := by
  have hpending := h.pending
  cases hstep.change with
  | trimmed hreservations hslots _ =>
    refine h.admission hstep.gateway (hslots.pending ▸ h.connections)
      (hslots.attempts ▸ h.attempts) ?_
    rw [hslots.pending]
    have hlength := hreservations.length_le
    omega
  | reserved hcapacity hreservations hslots _ =>
    refine h.admission hstep.gateway (hslots.pending ▸ h.connections)
      (hslots.attempts ▸ h.attempts) ?_
    rw [hslots.pending, hreservations]
    have hroom := hasPendingTunnelCapacity_iff.mp hcapacity
    push_cast
    omega
  | connected _ _ hcapacity _ hadmission _ =>
    have hroom := hasPendingTunnelCapacity_iff.mp hcapacity
    refine h.admission hstep.gateway ?_ ?_ ?_
    · rw [hadmission]
      exact h.connections.reserve
    · rw [hadmission]
      exact h.attempts
    · rw [hadmission]
      simp only [Slots.reserve]
      omega
  | released callback hissued hadmission _ =>
    refine h.admission hstep.gateway ?_ ?_ ?_
    · rw [hadmission]
      exact h.connections.release hissued
    · rw [hadmission]
      exact h.attempts
    · rw [hadmission]
      have hless := Slots.release_le s.admission.pendingCarrierConnections callback
      simp only [GatewayAdmission.releasePendingCarrierConnection]
      omega
  | attempted _ hadmission _ =>
    refine h.admission hstep.gateway ?_ ?_ ?_
    · rw [hadmission]
      exact h.connections
    · rw [hadmission]
      exact h.attempts.reserve
    · rw [hadmission]
      exact hpending
  | attemptReleased callback hissued hadmission _ =>
    refine h.admission hstep.gateway ?_ ?_ ?_
    · rw [hadmission]
      exact h.connections
    · rw [hadmission]
      exact h.attempts.release hissued
    · rw [hadmission]
      exact hpending
  | refused _ hadmission _ =>
    refine h.admission hstep.gateway ?_ ?_ ?_
    · rw [hadmission]
      exact h.connections
    · rw [hadmission]
      exact h.attempts
    · rw [hadmission]
      exact hpending

/-- Admission stays as it is, so only the counts of sessions can grow. -/
theorem Bounded.sessions (h : Bounded config s) (hsame : s'.admission = s.admission)
    (hpending : (s'.gateway.held isPending).card ≤ (s.gateway.held isPending).card)
    (hlive : (s'.gateway.held isLive).card ≤ config.ctx.maxActiveTunnels)
    (haccount : ∀ accountId : Token, (s'.gateway.held (ownedBy (some accountId))).card ≤
      config.ctx.maxTunnelsPerAccount) : Bounded config s' where
  connections := hsame ▸ h.connections
  attempts := hsame ▸ h.attempts
  pending := by
    have hbefore := h.pending
    rw [hsame]
    omega
  live := hlive
  account := haccount

/-- A session that moves on without becoming pending or live. -/
theorem Bounded.moves {key : ℕ} {next : SessionState} (h : Bounded config s)
    (hsame : s'.admission = s.admission) (hmoves : Moves key next s.gateway s'.gateway)
    (hpending : isPending (s'.gateway.heap key) = true → isPending (s.gateway.heap key) = true)
    (hlive : isLive (s'.gateway.heap key) = true → isLive (s.gateway.heap key) = true) :
    Bounded config s' := by
  refine h.sessions hsame (hmoves.card_held_le reads_isPending hpending)
    ((hmoves.card_held_le reads_isLive hlive).trans h.live) ?_
  intro accountId
  refine (hmoves.card_held_le (reads_ownedBy _) ?_).trans (h.account accountId)
  simp only [ownedBy, hmoves.owner]
  exact id

theorem isLive_iff {session : GatewaySession} : isLive session = true ↔
    (∃ state, session.lifecycle = .ACTIVE state) ∨ ∃ state, session.lifecycle = .RECONNECTING state := by
  unfold isLive
  cases session.lifecycle with
  | CREATING => simp
  | ACTIVE state => simp
  | RECONNECTING state => simp
  | EXPIRED reason closedAt => simp
  | CLOSED reason closedAt => simp

/-- A session that was live stays so. -/
theorem Bounded.stays_live {key : ℕ} {next : SessionState} (h : Bounded config s)
    (hsame : s'.admission = s.admission) (hmoves : Moves key next s.gateway s'.gateway)
    (hbefore : (∃ state, (s.gateway.heap key).lifecycle = .ACTIVE state) ∨
      ∃ state, (s.gateway.heap key).lifecycle = .RECONNECTING state)
    (hnext : next ≠ .CREATING) : Bounded config s' := by
  refine h.moves hsame hmoves ?_ fun _ => isLive_iff.mpr hbefore
  intro hpending
  unfold isPending at hpending
  rw [hmoves.lifecycle] at hpending
  split at hpending
  · exact absurd rfl hnext
  · cases hpending

theorem Bounded.creates {tunnelId : Token} {owner : Option Owner} {moment : Moment}
    (h : Bounded config s) (hsame : s'.admission = s.admission)
    (hpending : moment.pendingElsewhere = (s.admission.pendingCarrierConnections.inUse +
      s.admission.credentialReservations.length).toNat)
    (hadmitted : s.gateway.canAdmitNewTunnel config.ctx moment (owner.map Owner.accountId) = true)
    (hcreates : Creates tunnelId owner s.gateway s'.gateway) : Bounded config s' := by
  obtain ⟨hroom, -, hshare⟩ := canAdmitNewTunnel_iff.mp hadmitted
  refine ⟨hsame ▸ h.connections, hsame ▸ h.attempts, ?_, ?_, ?_⟩
  · have hcard := hcreates.card_held_le_succ reads_isPending
    have hnonneg := h.connections.nonneg
    rw [hsame]
    omega
  · refine (hcreates.card_held_le reads_isLive ?_).trans h.live
    simp [isLive, hcreates.lifecycle]
  · intro accountId
    by_cases howner : owner.map Owner.accountId = some accountId
    · rw [howner] at hshare
      have hcard := hcreates.card_held_le_succ (reads_ownedBy (some accountId))
      rcases hshare with hnone | hshare
      · cases hnone
      · omega
    · refine (hcreates.card_held_le (reads_ownedBy _) ?_).trans (h.account accountId)
      simp [ownedBy, hcreates.owner, howner]

theorem Change.bounded (hchange : Change config s s') (h : Bounded config s) :
    Bounded config s' := by
  have hsame := hchange.unmoved.admission
  cases hchange.session with
  | silent hquiet _ =>
    exact h.admission hquiet (hsame ▸ h.connections) (hsame ▸ h.attempts) (hsame ▸ h.pending)
  | created moment _ _ hpending hadmitted hcreates _ =>
    exact h.creates hsame hpending hadmitted hcreates
  | resumed key state next _ hbefore hmoves _ =>
    exact h.stays_live hsame hmoves (Or.inr ⟨state, hbefore⟩) (by rintro ⟨⟩)
  | activated key active _ _ _ hactivable _ hmoves _ =>
    refine h.sessions hsame (hmoves.card_held_le reads_isPending ?_) ?_ ?_
    · simp [isPending, hmoves.lifecycle]
    · have hcard := hmoves.card_held_le_succ reads_isLive
      have hroom := (canActivateTunnel_iff.mp hactivable).1
      omega
    · intro accountId
      refine (hmoves.card_held_le (reads_ownedBy _) ?_).trans (h.account accountId)
      simp only [ownedBy, hmoves.owner]
      exact id
  | lost key next _ hbefore hmoves _ => exact h.stays_live hsame hmoves hbefore (by rintro ⟨⟩)
  | ticked key state _ hbefore hmoves _ =>
    refine h.moves hsame hmoves ?_ ?_
    · simp only [isPending, hmoves.lifecycle, hbefore]
      exact id
    · simp only [isLive, hmoves.lifecycle, hbefore]
      exact id
  | opened key _ _ state next _ hbefore _ _ _ hmoves _ =>
    exact h.stays_live hsame hmoves (Or.inl ⟨state, hbefore⟩) (by rintro ⟨⟩)
  | closed key _ state next _ hbefore _ _ hmoves _ =>
    exact h.stays_live hsame hmoves (Or.inl ⟨state, hbefore⟩) (by rintro ⟨⟩)
  | disposed key hdisposes _ =>
    exact h.sessions hsame (hdisposes.card_held_le reads_isPending)
      ((hdisposes.card_held_le reads_isLive).trans h.live)
      fun accountId => (hdisposes.card_held_le (reads_ownedBy _)).trans (h.account accountId)

theorem Bounded.advances (h : Bounded config s) (hadvances : Advances config s s') :
    Bounded config s' := by
  induction hadvances with
  | refl => exact h
  | tail _ hadvance ih =>
    rcases hadvance with hchange | hadmission
    · exact hchange.bounded ih
    · exact hadmission.bounded ih

theorem updateKillSwitch_bounded (hkept : Kept s) (h : Bounded config s) (enabled : Bool) :
    Bounded config (s.updateKillSwitch enabled) := by
  have hswitched (enabled : Bool) : Bounded config { s with killSwitchEnabled := enabled } :=
    h.admission (.refl _) h.connections h.attempts h.pending
  rcases updateKillSwitch_cases s enabled with ⟨-, hsame⟩ | ⟨-, hcleared⟩ | ⟨-, hset⟩
  · rw [hsame]
    exact h
  · rw [hcleared]
    exact hswitched false
  · rw [hset]
    exact (hswitched true).advances
      (Reaches.advances (disposeAll_reaches (hkept.switched true).accounted))

theorem step_bounded {label : Label} (hkept : Kept s) (h : Bounded config s)
    (hstep : step config s label = some s') : Bounded config s' := by
  by_cases hlabel : ∃ enabled, label = .updateKillSwitch enabled
  · obtain ⟨enabled, rfl⟩ := hlabel
    cases hstep
    exact updateKillSwitch_bounded hkept h enabled
  · exact h.advances (step_advances hkept (fun enabled hkill => hlabel ⟨enabled, hkill⟩) hstep)

theorem run_bounded {initialKillSwitch : Bool} {startedAt : ℕ} {schedule : List Label}
    (hrun : Execution.run (step config) (start initialKillSwitch startedAt) schedule = some s) :
    Bounded config s := by
  have hnext (s : Server) (label : Label) (s' : Server) (h : Kept s ∧ Bounded config s)
      (hstep : step config s label = some s') : Kept s' ∧ Bounded config s' :=
    ⟨step_kept h.1 hstep, step_bounded h.1 h.2 hstep⟩
  exact (Execution.invariant_of_run hnext
    ⟨start_kept initialKillSwitch startedAt, start_bounded config initialKillSwitch startedAt⟩ hrun).2

/-- A counter is the number of its callbacks that have not run, and a callback runs once. -/
theorem Slots.Sound.counts {slots : Slots} (h : slots.Sound) :
    0 ≤ slots.inUse ∧ slots.inUse = (Finset.range slots.callbacks \ slots.released).card ∧
      ∀ callback < slots.callbacks, 0 ≤ (slots.release callback).inUse ∧
        (slots.release callback).release callback = slots.release callback := by
  refine ⟨h.nonneg, ?_, ?_⟩
  · have hcard := Finset.card_sdiff_add_card_eq_card h.1
    rw [Finset.card_range] at hcard
    rw [h.2]
    omega
  · intro callback hcallback
    exact ⟨(h.release hcallback).nonneg, Slots.release_again slots callback⟩

/-- The bounds of admission at every clock reading `now`, and the counters behind the callbacks. -/
theorem run_admission_bounds (config : ServerConfig) (initialKillSwitch : Bool) (startedAt : ℕ)
    (schedule : List Label) (s : Server)
    (hrun : Execution.run (step config) (start initialKillSwitch startedAt) schedule = some s) :
    (∀ now : ℕ, s.admission.pendingCarrierConnections.inUse +
      (s.admission.credentialReservations.filter fun entry => now < entry.2.expiresAt).length +
      (s.gateway.held isPending).card ≤ config.ctx.maxPendingTunnels) ∧
    (s.gateway.held isLive).card ≤ config.ctx.maxActiveTunnels ∧
    (∀ accountId : Token, (s.gateway.held (ownedBy (some accountId))).card ≤
      config.ctx.maxTunnelsPerAccount) ∧
    ∀ slots ∈ [s.admission.pendingCarrierConnections, s.admission.carrierAuthorizationAttempts],
      0 ≤ slots.inUse ∧ slots.inUse = (Finset.range slots.callbacks \ slots.released).card ∧
      ∀ callback < slots.callbacks, 0 ≤ (slots.release callback).inUse ∧
        (slots.release callback).release callback = slots.release callback := by
  have h := run_bounded hrun
  refine ⟨?_, h.live, h.account, ?_⟩
  · intro now
    have hunexpired := List.length_filter_le (fun entry : ℕ × CredentialReservation =>
      decide (now < entry.2.expiresAt)) s.admission.credentialReservations
    have hpending := h.pending
    omega
  · intro slots hslots
    simp only [List.mem_cons, List.not_mem_nil, or_false] at hslots
    rcases hslots with rfl | rfl
    · exact Slots.Sound.counts h.connections
    · exact Slots.Sound.counts h.attempts

/-- Credentials are reserved for two tunnels of one account, and one of them greets. -/
def twoCredentials : List Label :=
  .reserveCarrierCredential 3 false 5 0 :: .reserveCarrierCredential 3 true 8 10 :: activation ++
    [.releasePendingCarrier 0, .releasePendingCarrier 0]

theorem run_admission_bounds_twoCredentials :
    ∃ s, Execution.run (step openServer) (start false 0) twoCredentials = some s ∧
      s.admission.credentialReservations.length = 2 ∧ (s.gateway.held isLive).card = 1 ∧
      0 ≤ s.admission.pendingCarrierConnections.inUse := by
  have hobserved : (Execution.run (step openServer) (start false 0) twoCredentials).map
      (fun s => (s.admission.credentialReservations.length, (s.gateway.held isLive).card)) =
      some (2, 1) := by
    decide +kernel
  obtain ⟨s, hrun, hs⟩ := Option.map_eq_some_iff.mp hobserved
  simp only [Prod.mk.injEq] at hs
  have hslots := (run_admission_bounds openServer false 0 twoCredentials s hrun).2.2.2
  exact ⟨s, hrun, hs.1, hs.2, (hslots _ List.mem_cons_self).1⟩

end Bounds

section KillSwitch

variable {config : ServerConfig} {s s' : Server} {key : ℕ}

/-- While the switch is set no registered session is live. -/
def Quieted (s : Server) : Prop :=
  s.killSwitchEnabled = true → ∀ key, s.gateway.isRegistered key = true →
    isLive (s.gateway.heap key) = false

theorem start_quieted (initialKillSwitch : Bool) (now : ℕ) :
    Quieted (start initialKillSwitch now) := by
  intro _ key hregistered
  cases hregistered

theorem Quieted.quiet (h : Quieted s) (hquiet : Quiet s.gateway s'.gateway)
    (hsame : s'.killSwitchEnabled = s.killSwitchEnabled) : Quieted s' := by
  intro hset key hregistered
  rw [hquiet.isRegistered] at hregistered
  rw [reads_isLive _ _ (hquiet.standing key)]
  exact h (hsame ▸ hset) key hregistered

/-- A session that is live shows that the switch is not set. -/
theorem Quieted.unset (h : Quieted s) (hregistered : s.gateway.isRegistered key = true)
    (hlive : isLive (s.gateway.heap key) = true) : s.killSwitchEnabled = false := by
  by_contra hset
  rw [h (by simpa using hset) key hregistered] at hlive
  cases hlive

theorem quieted_of_unset (hsame : s'.killSwitchEnabled = s.killSwitchEnabled)
    (hunset : s.killSwitchEnabled = false) : Quieted s' := by
  intro hset
  rw [hsame, hunset] at hset
  cases hset

theorem Change.quieted (hchange : Change config s s') (h : Quieted s) : Quieted s' := by
  have hsame := hchange.unmoved.killSwitchEnabled
  cases hchange.session with
  | silent hquiet _ => exact h.quiet hquiet hsame
  | created _ tunnelId owner _ _ hcreates _ =>
    intro hset key hregistered
    by_cases hkey : key = s.gateway.sessionCount
    · rw [hkey]
      simp [isLive, hcreates.lifecycle]
    · rw [hcreates.isRegistered_of_ne hkey] at hregistered
      rw [reads_isLive _ _ (hcreates.others key hkey)]
      exact h (hsame ▸ hset) key hregistered
  | resumed key state _ hregistered hbefore _ _ =>
    exact quieted_of_unset hsame (h.unset hregistered (isLive_iff.mpr (Or.inr ⟨state, hbefore⟩)))
  | activated _ _ _ _ hready _ _ _ _ => exact quieted_of_unset hsame hready
  | lost key _ hregistered hbefore _ _ =>
    exact quieted_of_unset hsame (h.unset hregistered (isLive_iff.mpr hbefore))
  | ticked key state hregistered hbefore hmoves _ =>
    intro hset other hother
    rw [hmoves.isRegistered] at hother
    have hquieted := h (hsame ▸ hset) other hother
    by_cases heq : other = key
    · subst heq
      simp only [isLive, hmoves.lifecycle, ← hbefore]
      exact hquieted
    · rw [reads_isLive _ _ (hmoves.others other heq)]
      exact hquieted
  | opened key _ _ state _ hregistered hbefore _ _ _ _ _ =>
    exact quieted_of_unset hsame (h.unset hregistered (isLive_iff.mpr (Or.inl ⟨state, hbefore⟩)))
  | closed key _ state _ hregistered hbefore _ _ _ _ =>
    exact quieted_of_unset hsame (h.unset hregistered (isLive_iff.mpr (Or.inl ⟨state, hbefore⟩)))
  | disposed key hdisposes _ =>
    intro hset other hother
    by_cases heq : other = key
    · rw [heq, hdisposes.isRegistered_self] at hother
      cases hother
    · rw [hdisposes.isRegistered_of_ne heq] at hother
      rw [reads_isLive _ _ (hdisposes.others other heq)]
      exact h (hsame ▸ hset) other hother

theorem Quieted.advances (h : Quieted s) (hadvances : Advances config s s') : Quieted s' := by
  induction hadvances with
  | refl => exact h
  | tail _ hadvance ih =>
    rcases hadvance with hchange | hadmission
    · exact hchange.quieted ih
    · exact ih.quiet hadmission.gateway hadmission.killSwitchEnabled

theorem disposeGatewaySession_isRegistered (h : Accounted s) {other : ℕ}
    (hother : (s.disposeGatewaySession key).gateway.isRegistered other = true) :
    other ≠ key ∧ s.gateway.isRegistered other = true := by
  unfold disposeGatewaySession at hother
  rcases disposeGatewaySession_cases s.gateway key with hdisposes | ⟨hgone, hsame⟩
  · obtain ⟨hafter, -, -⟩ := adopt_disposes h.registry hdisposes
    by_cases heq : other = key
    · rw [heq, hafter.isRegistered_self] at hother
      cases hother
    · rw [hafter.isRegistered_of_ne heq] at hother
      exact ⟨heq, hother⟩
  · rw [hsame, ((adopt_quiet (.refl s.gateway)).gateway).isRegistered] at hother
    refine ⟨?_, hother⟩
    rintro rfl
    rw [hgone] at hother
    cases hother

/-- The loop over all sessions leaves none in the registry. -/
theorem disposeAll_isRegistered (config : ServerConfig) (h : Accounted s) (key : ℕ) :
    s.disposeAll.gateway.isRegistered key = false := by
  have hfold (keys : List ℕ) : ∀ s : Server, Accounted s →
      (keys.foldl disposeGatewaySession s).gateway.isRegistered key = true →
      key ∉ keys ∧ s.gateway.isRegistered key = true := by
    induction keys with
    | nil => exact fun s _ hregistered => ⟨List.not_mem_nil, hregistered⟩
    | cons other keys ih =>
      intro s h hregistered
      have hreached := @disposeGatewaySession_reaches config s other h
      obtain ⟨hlater, hafter⟩ := ih _ (h.reaches hreached) hregistered
      obtain ⟨hother, hbefore⟩ := disposeGatewaySession_isRegistered h hafter
      exact ⟨List.not_mem_cons_of_ne_of_not_mem hother hlater, hbefore⟩
  by_contra hregistered
  rw [Bool.not_eq_false] at hregistered
  obtain ⟨hmissed, hbefore⟩ := hfold s.registeredKeys s h hregistered
  apply hmissed
  simp only [registeredKeys, List.mem_filter, List.mem_range]
  exact ⟨h.registry.lt hbefore, hbefore⟩

theorem updateKillSwitch_quieted (config : ServerConfig) (hkept : Kept s) (h : Quieted s)
    (enabled : Bool) : Quieted (s.updateKillSwitch enabled) := by
  rcases updateKillSwitch_cases s enabled with ⟨-, hsame⟩ | ⟨-, hcleared⟩ | ⟨-, hset⟩
  · rw [hsame]
    exact h
  · rw [hcleared]
    exact fun hset => by cases hset
  · rw [hset]
    intro _ key hregistered
    rw [disposeAll_isRegistered config (hkept.switched true).accounted] at hregistered
    cases hregistered

theorem step_quieted {label : Label} (hkept : Kept s) (h : Quieted s)
    (hstep : step config s label = some s') : Quieted s' := by
  by_cases hlabel : ∃ enabled, label = .updateKillSwitch enabled
  · obtain ⟨enabled, rfl⟩ := hlabel
    cases hstep
    exact updateKillSwitch_quieted config hkept h enabled
  · exact h.advances (step_advances hkept (fun enabled hkill => hlabel ⟨enabled, hkill⟩) hstep)

/-- In every state in which the switch is set, no registered session is active or reconnecting,
and none has a stream. -/
theorem run_killSwitch_safe (config : ServerConfig) (initialKillSwitch : Bool) (startedAt : ℕ)
    (schedule : List Label) (s : Server)
    (hrun : Execution.run (step config) (start initialKillSwitch startedAt) schedule = some s)
    (hset : s.killSwitchEnabled = true) (key : ℕ) (hregistered : s.gateway.isRegistered key = true) :
    (∀ state, (s.gateway.heap key).lifecycle ≠ .ACTIVE state) ∧
    (∀ state, (s.gateway.heap key).lifecycle ≠ .RECONNECTING state) ∧ s.streams key = ∅ := by
  have hnext (s : Server) (label : Label) (s' : Server) (h : Kept s ∧ Quieted s)
      (hstep : step config s label = some s') : Kept s' ∧ Quieted s' :=
    ⟨step_kept h.1 hstep, step_quieted h.1 h.2 hstep⟩
  have hinv := Execution.invariant_of_run hnext
    ⟨start_kept initialKillSwitch startedAt, start_quieted initialKillSwitch startedAt⟩ hrun
  have hquieted := hinv.2 hset key hregistered
  have hactive (state : ActiveState) : (s.gateway.heap key).lifecycle ≠ .ACTIVE state := by
    intro hstate
    rw [isLive_iff.mpr (Or.inl ⟨state, hstate⟩)] at hquieted
    cases hquieted
  refine ⟨hactive, ?_, hinv.1.accounted.empty hactive⟩
  intro state hstate
  rw [isLive_iff.mpr (Or.inr ⟨state, hstate⟩)] at hquieted
  cases hquieted

/-- The switch is set while one session is active and another carrier has connected, which greets
only afterwards. -/
def switchedWhileConnecting : List Label :=
  activation ++ [.upgradeCarrier 1 0 true true, .updateKillSwitch true,
    .message 1 ⟨200, some ⟨0, .hello (some ⟨.create, 8, 6, .localView⟩)⟩⟩, runNoon 1]

theorem run_killSwitch_safe_connecting :
    ∃ s, Execution.run (step openServer) (start false 0) switchedWhileConnecting = some s ∧
      s.gateway.isRegistered 1 = true ∧ s.streams 1 = ∅ := by
  have hobserved : (Execution.run (step openServer) (start false 0) switchedWhileConnecting).map
      (fun s => (s.killSwitchEnabled, s.gateway.isRegistered 1)) = some (true, true) := by
    decide +kernel
  obtain ⟨s, hrun, hs⟩ := Option.map_eq_some_iff.mp hobserved
  simp only [Prod.mk.injEq] at hs
  exact ⟨s, hrun, hs.2, (run_killSwitch_safe openServer false 0 switchedWhileConnecting s hrun hs.1 1
    hs.2).2.2⟩

end KillSwitch

end Server

end Lotur.Gateway
