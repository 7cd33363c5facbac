import Lotur.Gateway.StreamAccounting

/-! What one step of the gateway process is made of: changes of sessions and streams, each of
which finds the sessions accounted for, and changes of admission, which leave both alone. -/
namespace Lotur.Gateway

open State

namespace Server

section Sessions

variable {config : ServerConfig} {s s' next : Server} {key socket now : ℕ} {gateway : State}

/-- A handler's effect on the sessions, with the streams of a session that is gone. -/
theorem adopt_reaches {moment : Moment} (h : Accounted s)
    (hpending : moment.pendingElsewhere = (s.admission.pendingCarrierConnections.inUse +
      s.admission.credentialReservations.length).toNat)
    (hready : moment.isReady = true → s.killSwitchEnabled = false)
    (heffect : RunEffect config.ctx moment s.gateway gateway)
    (hgateway : next.gateway = (s.adopt gateway).gateway ∨ Bookkeeping gateway next.gateway)
    (hstreams : next.streams = (s.adopt gateway).streams) (hunmoved : Unmoved (s.adopt gateway) next) :
    Change config s next := by
  -- Unless a session is gone, its windows are the ones the handler left.
  have hafter (hkept : ∀ key, s.gateway.isRegistered key = true → gateway.isRegistered key = true) :
      Quiet gateway next.gateway ∧ next.streams = s.streams ∧ Unmoved s next := by
    obtain ⟨hsame, hmaps, hrest⟩ := adopt_kept hkept
    refine ⟨?_, hstreams.trans hmaps, hrest.trans hunmoved⟩
    rcases hgateway with hnext | hbook
    · rw [hnext, hsame]
      exact .refl _
    · exact quiet_of_bookkeeping hbook
  cases heffect with
  | quiet hquiet =>
    obtain ⟨hrest, hmaps, hkept⟩ := hafter fun key hkey => (hquiet.isRegistered key).trans hkey
    exact ⟨hkept, .silent (hquiet.trans hrest) hmaps⟩
  | created tunnelId owner hadmitted hcreates =>
    obtain ⟨hrest, hmaps, hkept⟩ := hafter fun key hkey =>
      (hcreates.isRegistered_of_ne (h.registry.lt hkey).ne).trans hkey
    exact ⟨hkept, .created moment tunnelId owner hpending hadmitted (hcreates.quiet hrest) hmaps⟩
  | resumed key state resumed hregistered hbefore hmoves =>
    obtain ⟨hrest, hmaps, hkept⟩ := hafter fun key hkey => (hmoves.isRegistered key).trans hkey
    exact ⟨hkept, .resumed key state resumed hregistered hbefore (hmoves.quiet hrest) hmaps⟩
  | activated key active hregistered hbefore hadmission hactivable hcount hmoves =>
    obtain ⟨hrest, hmaps, hkept⟩ := hafter fun key hkey => (hmoves.isRegistered key).trans hkey
    exact ⟨hkept, .activated key active hregistered hbefore (hready hadmission) hactivable hcount
      (hmoves.quiet hrest) hmaps⟩
  | disposed key hdisposes =>
    obtain ⟨hclosed, hmaps, hkept⟩ := adopt_disposes h.registry hdisposes
    refine ⟨hkept.trans hunmoved, .disposed key ?_ (hstreams.trans hmaps)⟩
    rcases hgateway with hnext | hbook
    · rw [hnext]
      exact hclosed
    · exact hdisposes.quiet (quiet_of_bookkeeping hbook)

theorem sendSettles_silent {succeeded : Bool} (h : s.sendSettles config socket succeeded = some s') :
    Silent s s' := by
  unfold sendSettles at h
  split at h
  · cases h
  · rename_i gateway hstep
    have hadopted := adopt_quiet (sendSettles_quiet hstep)
    split at h
    · cases h
      exact ⟨hadopted.gateway, hadopted.streams,
        ⟨hadopted.unmoved.1, hadopted.unmoved.2, hadopted.unmoved.3⟩⟩
    · cases h
      exact hadopted

theorem closeSocket_silent (s : Server) (socket : ℕ) : Silent s (s.closeSocket socket) :=
  ⟨quiet_of_bookkeeping (closeSocket_bookkeeping s.gateway socket), rfl, ⟨rfl, rfl, rfl⟩⟩

/-- Both the loss of a carrier and the disposal of its session leave the map empty. -/
theorem cleanup_closed_change (h : Accounted s) (hcarried : Carries s.gateway socket key) :
    Change config s ((s.adopt (Gateway.cleanup config.ctx s.gateway socket now)).closeGatewayStreams
      key) := by
  generalize hafter : Gateway.cleanup config.ctx s.gateway socket now = gateway
  have heffect : CleanupEffect socket s.gateway gateway := hafter ▸ cleanup_effect
  obtain ⟨hquiet, hstreams, hunmoved⟩ := closeGatewayStreams_spec (s.adopt gateway) key
  have honly {other : ℕ} (hother : Carries s.gateway socket other) : other = key :=
    Option.some.inj (hother.1.symm.trans hcarried.1)
  cases heffect with
  | quiet hinactive hsame =>
    have hadopted := adopt_quiet hsame
    -- The session is not active, so it has no stream to lose.
    have hempty : s.streams key = ∅ := by
      by_contra hlive
      have hactive := (h.live key hlive).2
      rw [hinactive key hcarried] at hactive
      cases hactive
    refine ⟨hadopted.unmoved.trans hunmoved, .silent (hadopted.gateway.trans hquiet) ?_⟩
    rw [hstreams, hadopted.streams, ← hempty, Function.update_eq_self]
  | reconnecting other next hother hbefore hmoves =>
    obtain rfl := honly hother
    obtain ⟨hsame, hmaps, hkept⟩ := adopt_moves hmoves
    rw [hsame] at hquiet
    refine ⟨hkept.trans hunmoved, .lost other next hcarried.2.1 hbefore (hmoves.quiet hquiet) ?_⟩
    rw [hstreams, hmaps]
  | disposed other hother hdisposes =>
    obtain rfl := honly hother
    obtain ⟨hclosed, hmaps, hkept⟩ := adopt_disposes h.registry hdisposes
    refine ⟨hkept.trans hunmoved, .disposed other (hclosed.quiet hquiet) ?_⟩
    rw [hstreams, hmaps, Function.update_idem]

/-- A socket that no session is carried by leaves the sessions as they are. -/
theorem cleanup_stale_silent (hstale : ∀ key, ¬Carries s.gateway socket key) :
    Silent s (s.adopt (Gateway.cleanup config.ctx s.gateway socket now)) := by
  have heffect : CleanupEffect socket s.gateway (Gateway.cleanup config.ctx s.gateway socket now) :=
    cleanup_effect
  cases heffect with
  | quiet _ hsame => exact adopt_quiet hsame
  | reconnecting key _ hcarried => exact absurd hcarried (hstale key)
  | disposed key hcarried => exact absurd hcarried (hstale key)

theorem cleanup_reaches (h : Accounted s) : Reaches config s (s.cleanup config socket now) := by
  unfold cleanup
  dsimp only
  split
  · rename_i hsession
    refine (cleanup_stale_silent ?_).reaches
    intro key hcarried
    cases hsession.symm.trans hcarried.1
  · rename_i key hsession
    split
    · rename_i hcarried
      have hclosed : Reaches config s _ := .single (@cleanup_closed_change config s key socket now h
        hcarried)
      split
      · exact hclosed.trans (Silent.reaches ⟨.refl _, rfl, ⟨rfl, rfl, rfl⟩⟩)
      · exact hclosed
    · rename_i hstale
      refine (cleanup_stale_silent ?_).reaches
      intro other hother
      obtain rfl : other = key := Option.some.inj (hother.1.symm.trans hsession)
      exact hstale hother

/-- A tick expires the session or leaves its state as it is. -/
theorem transitionSession_tick {policy : SessionPolicy} {state next : SessionState}
    (h : state.transitionSession policy (.TICK now) = .ok next) :
    (∃ reason, next = .EXPIRED reason now) ∨ next = state := by
  rcases SessionState.transitionSession_ok h with rfl | hexpired | ⟨active, rfl, hnext⟩ |
    ⟨reconnecting, rfl, hnext⟩
  · cases h
  · exact Or.inl hexpired
  · cases hnext
    exact Or.inr rfl
  · cases hnext
    exact Or.inr rfl

/-- What a timer does with the state it found. -/
theorem applySessionTransition_ticked {state next : SessionState} (h : Accounted s)
    (hregistered : s.gateway.isRegistered key = true)
    (hstate : (s.gateway.heap key).lifecycle = state)
    (htick : state.transitionSession config.ctx.sessionPolicy (.TICK now) = .ok next) :
    Reaches config s (s.applySessionTransition key next) := by
  rcases transitionSession_tick htick with ⟨reason, rfl⟩ | rfl
  · exact .single (disposed_change h.registry (disposes_expired hregistered reason now))
  · rcases applySessionTransition_cases hregistered next with ⟨hmoves, -, -⟩ | ⟨hdisposes, -, -⟩
    · obtain ⟨hsame, hmaps, hkept⟩ := adopt_moves hmoves
      refine .single ⟨hkept, .ticked key next hregistered hstate ?_ hmaps⟩
      rw [applySessionTransition, hsame]
      exact hmoves
    · exact .single (disposed_change h.registry hdisposes)

theorem sessionTick_reaches {developerAuthorizationExpired : Bool} (h : Accounted s) :
    Reaches config s (s.sessionTick config key now developerAuthorizationExpired) := by
  have hticked {next : SessionState} (hregistered : s.gateway.isRegistered key = true)
      (htick : (s.gateway.heap key).lifecycle.transitionSession config.ctx.sessionPolicy
        (.TICK now) = .ok next) := applySessionTransition_ticked h hregistered rfl htick
  unfold sessionTick
  dsimp only
  split
  rotate_left 2
  · exact .refl
  all_goals
    rename_i hregistered _
    split
    · exact .refl
    · rename_i htick
      exact hticked hregistered htick
    · rename_i htick
      split
      · have hreached := hticked hregistered htick
        exact hreached.trans (disposeGatewaySession_reaches (h.reaches hreached))
      · exact .refl

theorem expiryTimer_reaches (h : Accounted s) : Reaches config s (s.expiryTimer config key now) := by
  unfold expiryTimer
  dsimp only
  have hfired : Silent s { s with expiryTimers := Function.update s.expiryTimers key none } :=
    ⟨.refl _, rfl, ⟨rfl, rfl, rfl⟩⟩
  split
  · rename_i state hregistered hstate
    split
    · exact hfired.reaches
    · rename_i next htick
      refine hfired.before h fun hafter => ?_
      exact applySessionTransition_ticked hafter hregistered hstate htick
  · exact hfired.reaches

theorem disposeAll_reaches (h : Accounted s) : Reaches config s s.disposeAll := by
  have hfold (keys : List ℕ) : ∀ s : Server, Accounted s →
      Reaches config s (keys.foldl disposeGatewaySession s) := by
    induction keys with
    | nil => exact fun s _ => .refl
    | cons key keys ih =>
      intro s h
      have hdisposed := @disposeGatewaySession_reaches config s key h
      exact hdisposed.trans (ih _ (h.reaches hdisposed))
  exact hfold s.registeredKeys s h

end Sessions

/-- The counters of admission are left alone. -/
structure SameSlots (admission admission' : GatewayAdmission) : Prop where
  pending : admission'.pendingCarrierConnections = admission.pendingCarrierConnections
  attempts : admission'.carrierAuthorizationAttempts = admission.carrierAuthorizationAttempts

/-- What can happen to admission and to the upgrade of one socket at once, with the checks that
were made. -/
inductive AdmissionChange (config : ServerConfig) (s s' : Server) : Prop
  | trimmed (hreservations : s'.admission.credentialReservations.Sublist
        s.admission.credentialReservations)
      (hslots : SameSlots s.admission s'.admission) (hupgrades : s'.upgrades = s.upgrades)
  | reserved (hcapacity : s.admission.hasPendingTunnelCapacity config.ctx s.gateway = true)
      (hreservations : s'.admission.credentialReservations.length =
        s.admission.credentialReservations.length + 1)
      (hslots : SameSlots s.admission s'.admission) (hupgrades : s'.upgrades = s.upgrades)
  | connected (socket : ℕ) (upgrade : Upgrade)
      (hcapacity : s.admission.hasPendingTunnelCapacity config.ctx s.gateway = true)
      (hupgrade : upgrade = .connected s.admission.pendingCarrierConnections.callbacks ∨
        upgrade = .dropped s.admission.pendingCarrierConnections.callbacks)
      (hadmission : s'.admission = { s.admission with
        pendingCarrierConnections := s.admission.pendingCarrierConnections.reserve })
      (hupgrades : s'.upgrades = Function.update s.upgrades socket upgrade)
  | released (callback : ℕ)
      (hissued : callback < s.admission.pendingCarrierConnections.callbacks)
      (hadmission : s'.admission = s.admission.releasePendingCarrierConnection callback)
      (hupgrades : s'.upgrades = s.upgrades)
  | attempted (socket : ℕ)
      (hadmission : s'.admission = { s.admission with
        carrierAuthorizationAttempts := s.admission.carrierAuthorizationAttempts.reserve })
      (hupgrades : s'.upgrades = Function.update s.upgrades socket
        (.authorizing s.admission.carrierAuthorizationAttempts.callbacks))
  | attemptReleased (callback : ℕ)
      (hissued : callback < s.admission.carrierAuthorizationAttempts.callbacks)
      (hadmission : s'.admission = s.admission.releaseCarrierAuthorizationAttempt callback)
      (hupgrades : s'.upgrades = s.upgrades)
  | refused (socket : ℕ) (hadmission : s'.admission = s.admission)
      (hupgrades : s'.upgrades = Function.update s.upgrades socket .refused)

structure AdmissionStep (config : ServerConfig) (s s' : Server) : Prop where
  gateway : Quiet s.gateway s'.gateway
  streams : s'.streams = s.streams
  killSwitchEnabled : s'.killSwitchEnabled = s.killSwitchEnabled
  change : AdmissionChange config s s'

def Advance (config : ServerConfig) (s s' : Server) : Prop :=
  Change config s s' ∨ AdmissionStep config s s'

abbrev Advances (config : ServerConfig) : Server → Server → Prop :=
  Relation.ReflTransGen (Advance config)

/-- Every callback that a socket holds was handed out. -/
structure Issued (s : Server) : Prop where
  attempt : ∀ socket callback, s.upgrades socket = .authorizing callback →
    callback < s.admission.carrierAuthorizationAttempts.callbacks
  pending : ∀ socket callback, s.upgrades socket = .connected callback ∨
    s.upgrades socket = .dropped callback → callback < s.admission.pendingCarrierConnections.callbacks

structure Kept (s : Server) : Prop where
  accounted : Accounted s
  issued : Issued s

theorem start_kept (initialKillSwitch : Bool) (now : ℕ) : Kept (start initialKillSwitch now) where
  accounted := start_accounted initialKillSwitch now
  issued := by
    refine ⟨?_, ?_⟩
    · intro socket callback hupgrade
      cases hupgrade
    · rintro socket callback (hupgrade | hupgrade)
      · cases hupgrade
      · cases hupgrade

section Admission

variable {config : ServerConfig} {s s' s'' : Server} {socket now : ℕ}

theorem callbacks_release (slots : Slots) (callback : ℕ) :
    (slots.release callback).callbacks = slots.callbacks := by
  unfold Slots.release
  split_ifs
  · rfl
  · rfl

/-- No callback is taken back. -/
theorem Issued.grows (h : Issued s) (hupgrades : s'.upgrades = s.upgrades)
    (hattempts : s.admission.carrierAuthorizationAttempts.callbacks ≤
      s'.admission.carrierAuthorizationAttempts.callbacks)
    (hpending : s.admission.pendingCarrierConnections.callbacks ≤
      s'.admission.pendingCarrierConnections.callbacks) : Issued s' where
  attempt socket callback hupgrade := by
    rw [hupgrades] at hupgrade
    exact (h.attempt socket callback hupgrade).trans_le hattempts
  pending socket callback hupgrade := by
    rw [hupgrades] at hupgrade
    exact (h.pending socket callback hupgrade).trans_le hpending

/-- The socket takes a callback that has been handed out, or none. -/
theorem Issued.update {upgrade : Upgrade} (h : Issued s)
    (hupgrades : s'.upgrades = Function.update s.upgrades socket upgrade)
    (hattempts : s.admission.carrierAuthorizationAttempts.callbacks ≤
      s'.admission.carrierAuthorizationAttempts.callbacks)
    (hpending : s.admission.pendingCarrierConnections.callbacks ≤
      s'.admission.pendingCarrierConnections.callbacks)
    (hattempt : ∀ callback, upgrade = .authorizing callback →
      callback < s'.admission.carrierAuthorizationAttempts.callbacks)
    (hconnected : ∀ callback, upgrade = .connected callback ∨ upgrade = .dropped callback →
      callback < s'.admission.pendingCarrierConnections.callbacks) : Issued s' where
  attempt other callback hupgrade := by
    rw [hupgrades] at hupgrade
    by_cases hother : other = socket
    · rw [hother, Function.update_self] at hupgrade
      exact hattempt callback hupgrade
    · rw [Function.update_of_ne hother] at hupgrade
      exact (h.attempt other callback hupgrade).trans_le hattempts
  pending other callback hupgrade := by
    rw [hupgrades] at hupgrade
    by_cases hother : other = socket
    · rw [hother, Function.update_self] at hupgrade
      exact hconnected callback hupgrade
    · rw [Function.update_of_ne hother] at hupgrade
      exact (h.pending other callback hupgrade).trans_le hpending

theorem AdmissionChange.issued (hchange : AdmissionChange config s s') (h : Issued s) :
    Issued s' := by
  cases hchange with
  | trimmed _ hslots hupgrades =>
    exact h.grows hupgrades (by rw [hslots.attempts]) (by rw [hslots.pending])
  | reserved _ _ hslots hupgrades =>
    exact h.grows hupgrades (by rw [hslots.attempts]) (by rw [hslots.pending])
  | connected socket upgrade _ hupgrade hadmission hupgrades =>
    refine h.update hupgrades (by rw [hadmission]) ?_ ?_ ?_
    · rw [hadmission]
      exact Nat.le_succ _
    · rintro callback rfl
      rcases hupgrade with hupgrade | hupgrade
      · cases hupgrade
      · cases hupgrade
    · intro callback hcallback
      have hlast : callback = s.admission.pendingCarrierConnections.callbacks := by
        rcases hupgrade with rfl | rfl
        · rcases hcallback with hcallback | hcallback
          · cases hcallback
            rfl
          · cases hcallback
        · rcases hcallback with hcallback | hcallback
          · cases hcallback
          · cases hcallback
            rfl
      rw [hlast, hadmission]
      exact Nat.lt_succ_self _
  | released callback _ hadmission hupgrades =>
    refine h.grows hupgrades (by rw [hadmission]; rfl) ?_
    rw [hadmission]
    exact (callbacks_release _ _).ge
  | attempted socket hadmission hupgrades =>
    refine h.update hupgrades ?_ (by rw [hadmission]) ?_ ?_
    · rw [hadmission]
      exact Nat.le_succ _
    · intro callback hcallback
      cases hcallback
      rw [hadmission]
      exact Nat.lt_succ_self _
    · rintro callback (hcallback | hcallback)
      · cases hcallback
      · cases hcallback
  | attemptReleased callback _ hadmission hupgrades =>
    refine h.grows hupgrades ?_ (by rw [hadmission]; rfl)
    rw [hadmission]
    exact (callbacks_release _ _).ge
  | refused socket hadmission hupgrades =>
    refine h.update hupgrades (by rw [hadmission]) (by rw [hadmission]) nofun ?_
    rintro callback (hcallback | hcallback)
    · cases hcallback
    · cases hcallback

theorem Advance.kept (hadvance : Advance config s s') (h : Kept s) : Kept s' := by
  rcases hadvance with hchange | hadmission
  · refine ⟨hchange.accounted h.accounted, ?_⟩
    have hsame := hchange.unmoved
    exact h.issued.grows hsame.upgrades (by rw [hsame.admission]) (by rw [hsame.admission])
  · exact ⟨h.accounted.quiet hadmission.gateway hadmission.streams,
      hadmission.change.issued h.issued⟩

theorem Kept.advances (h : Kept s) (hadvances : Advances config s s') : Kept s' := by
  induction hadvances with
  | refl => exact h
  | tail _ hadvance ih => exact hadvance.kept ih

theorem Reaches.advances (h : Reaches config s s') : Advances config s s' :=
  Relation.ReflTransGen.mono (fun _ _ => Or.inl) _ _ h

/-- A step of admission that leaves the sessions themselves untouched. -/
theorem AdmissionChange.advances (hchange : AdmissionChange config s s')
    (hgateway : Quiet s.gateway s'.gateway) (hstreams : s'.streams = s.streams)
    (hkill : s'.killSwitchEnabled = s.killSwitchEnabled) : Advances config s s' :=
  .single (Or.inr ⟨hgateway, hstreams, hkill, hchange⟩)

theorem trimmed_advances {admission : GatewayAdmission}
    (hreservations : admission.credentialReservations.Sublist s.admission.credentialReservations)
    (hslots : SameSlots s.admission admission) : Advances config s { s with admission } :=
  AdmissionChange.advances (.trimmed hreservations hslots rfl) (.refl _) rfl rfl

theorem cleanupCredentialReservations_advances (s : Server) (now : ℕ) : Advances config s
    { s with admission := s.admission.cleanupCredentialReservations now } :=
  trimmed_advances List.filter_sublist ⟨rfl, rfl⟩

theorem reserveCarrierCredential_advances {accountId : Token} {forResume : Bool}
    {tunnelId : Token} : Advances config s { s with
      admission := (s.admission.reserveCarrierCredential config.ctx config.admission s.gateway
        accountId forResume tunnelId now).1 } := by
  refine (cleanupCredentialReservations_advances s now).trans ?_
  unfold GatewayAdmission.reserveCarrierCredential
  generalize s.admission.cleanupCredentialReservations now = cleaned
  dsimp only
  split
  · exact .refl
  · rename_i hcapacity
    split
    · exact .refl
    · split
      · exact .refl
      · split
        · exact @trimmed_advances config { s with admission := cleaned } _ (List.Sublist.refl _)
            ⟨rfl, rfl⟩
        · refine AdmissionChange.advances (.reserved ?_ ?_ ⟨rfl, rfl⟩ rfl) (.refl _) rfl rfl
          · simpa using hcapacity
          · exact List.length_append

theorem connect_advances {callback : ℕ} {accepted : Bool}
    {authorization : Option DeveloperAuthorization} {admission : GatewayAdmission}
    (hcapacity : s.admission.hasPendingTunnelCapacity config.ctx s.gateway = true)
    (hadmission : admission = { s.admission with
      pendingCarrierConnections := s.admission.pendingCarrierConnections.reserve })
    (hcallback : callback = s.admission.pendingCarrierConnections.callbacks) :
    Advances config s (({ s with admission }).connect socket callback accepted authorization) := by
  unfold connect
  subst hcallback hadmission
  split
  · exact AdmissionChange.advances (.connected socket _ hcapacity (Or.inl rfl) rfl rfl)
      (quiet_setCarrier s.gateway socket _) rfl rfl
  · exact AdmissionChange.advances (.connected socket _ hcapacity (Or.inr rfl) rfl rfl)
      (.refl _) rfl rfl

theorem refused_advances (s : Server) (socket : ℕ) : Advances config s (s.setUpgrade socket .refused) :=
  AdmissionChange.advances (.refused socket rfl rfl) (.refl _) rfl rfl

theorem reservePendingCarrier_advances {accepted : Bool}
    {authorization : Option DeveloperAuthorization} :
    Advances config s (s.reservePendingCarrier config socket now accepted authorization) := by
  refine (cleanupCredentialReservations_advances s now).trans ?_
  unfold reservePendingCarrier GatewayAdmission.reservePendingCarrierConnection
  generalize s.admission.cleanupCredentialReservations now = cleaned
  dsimp only
  by_cases hcapacity : cleaned.hasPendingTunnelCapacity config.ctx s.gateway = true
  · simp only [hcapacity, Bool.not_true, Bool.false_eq_true, if_false]
    exact @connect_advances config { s with admission := cleaned } socket _ accepted authorization _
      hcapacity rfl rfl
  · simp only [hcapacity, Bool.not_false, if_true]
    exact refused_advances _ socket

theorem releasePendingCarrier_advances (h : Kept s) :
    Advances config s (s.releasePendingCarrier socket) := by
  unfold releasePendingCarrier
  split
  · rename_i callback hupgrade
    exact AdmissionChange.advances (.released callback
      (h.issued.pending socket callback (Or.inl hupgrade)) rfl rfl) (.refl _) rfl rfl
  · rename_i callback hupgrade
    exact AdmissionChange.advances (.released callback
      (h.issued.pending socket callback (Or.inr hupgrade)) rfl rfl) (.refl _) rfl rfl
  · exact .refl

theorem upgradeCarrier_advances {wellFormed accepted : Bool}
    (hstep : s.upgradeCarrier config socket now wellFormed accepted = some s') :
    Advances config s s' := by
  unfold upgradeCarrier at hstep
  split at hstep
  · cases hstep
  · split at hstep
    · cases hstep
      exact refused_advances s socket
    · split at hstep
      · unfold GatewayAdmission.reserveCarrierAuthorizationAttempt at hstep
        by_cases hfull : s.admission.carrierAuthorizationAttempts.inUse ≥ config.ctx.maxPendingTunnels
        · simp only [hfull, if_true] at hstep
          cases hstep
          exact refused_advances s socket
        · simp only [hfull, if_false] at hstep
          cases hstep
          exact AdmissionChange.advances (.attempted socket rfl rfl) (.refl _) rfl rfl
      · cases hstep
        exact reservePendingCarrier_advances

/-- The attempt's callback runs last, whatever became of the upgrade. -/
theorem attemptReleased_advances {callback : ℕ}
    (hissued : callback < s.admission.carrierAuthorizationAttempts.callbacks)
    (hadvances : Advances config s s')
    (hcallbacks : s.admission.carrierAuthorizationAttempts.callbacks =
      s'.admission.carrierAuthorizationAttempts.callbacks) :
    Advances config s { s' with
      admission := s'.admission.releaseCarrierAuthorizationAttempt callback } :=
  hadvances.trans (AdmissionChange.advances (.attemptReleased callback (hcallbacks ▸ hissued) rfl rfl)
    (.refl _) rfl rfl)

theorem reservePendingCarrier_attempts {accepted : Bool}
    {authorization : Option DeveloperAuthorization} :
    (s.reservePendingCarrier config socket now accepted
      authorization).admission.carrierAuthorizationAttempts =
        s.admission.carrierAuthorizationAttempts := by
  unfold reservePendingCarrier GatewayAdmission.reservePendingCarrierConnection connect
  dsimp only
  by_cases hcapacity : (s.admission.cleanupCredentialReservations now).hasPendingTunnelCapacity
      config.ctx s.gateway = true
  · simp only [hcapacity, Bool.not_true, Bool.false_eq_true, if_false]
    split
    · rfl
    · rfl
  · simp only [hcapacity, Bool.not_false, if_true]
    rfl

theorem consumeCredentialReservation_advances (s : Server) (authorization : DeveloperAuthorization)
    (now : ℕ) : Advances config s { s with
      admission := s.admission.consumeCredentialReservation authorization now } := by
  refine (cleanupCredentialReservations_advances s now).trans ?_
  exact @trimmed_advances config { s with
    admission := s.admission.cleanupCredentialReservations now } _ (List.eraseP_sublist) ⟨rfl, rfl⟩

theorem carrierAuthorized_advances {usable accepted : Bool}
    {authorization : Option DeveloperAuthorization} (h : Kept s)
    (hstep : s.carrierAuthorized config socket now usable accepted authorization = some s') :
    Advances config s s' := by
  unfold carrierAuthorized at hstep
  split at hstep
  · rename_i attempt hupgrade
    have hissued := h.issued.attempt socket attempt hupgrade
    dsimp only at hstep
    split at hstep
    · cases hstep
      exact attemptReleased_advances hissued (refused_advances s socket) rfl
    · rename_i granted
      have hconsumed := @consumeCredentialReservation_advances config s granted now
      split at hstep
      · cases hstep
        exact attemptReleased_advances hissued (hconsumed.trans (refused_advances _ socket)) rfl
      · cases hstep
        refine attemptReleased_advances hissued (hconsumed.trans reservePendingCarrier_advances) ?_
        rw [reservePendingCarrier_attempts]
        rfl
  · cases hstep

theorem receiveMessage_quiet {ctx : Context} {s : State} {message : Message} :
    Quiet s (receiveMessage ctx s socket message) := by
  unfold receiveMessage
  dsimp only
  split
  · exact .refl s
  · split
    · exact quiet_setCarrier s socket _
    · exact quiet_setCarrier s socket _

theorem greeted_advances (h : Kept s) : Advances config s (s.greeted config socket now) := by
  unfold greeted
  split
  · exact .refl
  · have hreleased := @releasePendingCarrier_advances config s socket h
    dsimp only
    split
    · exact hreleased.trans (cleanupCredentialReservations_advances _ now)
    · exact hreleased

theorem releasePendingCarrier_sessions (s : Server) (socket : ℕ) :
    (s.releasePendingCarrier socket).gateway = s.gateway ∧
      (s.releasePendingCarrier socket).killSwitchEnabled = s.killSwitchEnabled := by
  unfold releasePendingCarrier
  split
  · exact ⟨rfl, rfl⟩
  · exact ⟨rfl, rfl⟩
  · exact ⟨rfl, rfl⟩

theorem greeted_sessions (s : Server) (socket now : ℕ) :
    (s.greeted config socket now).gateway = s.gateway ∧
      (s.greeted config socket now).killSwitchEnabled = s.killSwitchEnabled := by
  unfold greeted
  split
  · exact ⟨rfl, rfl⟩
  · dsimp only
    split
    · exact releasePendingCarrier_sessions s socket
    · exact releasePendingCarrier_sessions s socket

theorem run_advances {ready : Bool} {nonce : List UInt8} {body : FrameBody} (h : Kept s)
    (hrun : s.run config socket now ready nonce body = some s') : Advances config s s' := by
  have hgreeted := @greeted_advances config s socket now h
  have hafter := (h.advances hgreeted).accounted
  obtain ⟨hgateway, hkill⟩ := @greeted_sessions config s socket now
  refine hgreeted.trans ?_
  unfold run at hrun
  dsimp only at hrun
  generalize s.greeted config socket now = greeted at hgateway hkill hafter hrun
  split at hrun
  · cases hrun
  · rename_i gateway hstep
    have heffect := run_effect h.accounted.registry hstep
    rw [← hgateway] at heffect
    have hready : (!s.killSwitchEnabled && ready) = true → greeted.killSwitchEnabled = false := by
      rw [hkill]
      simp only [Bool.and_eq_true, Bool.not_eq_true']
      exact And.left
    have hadopted : Reaches config greeted (greeted.adopt gateway) :=
      .single (adopt_reaches hafter rfl hready heffect (Or.inl rfl) rfl (.refl _))
    split at hrun
    · cases hrun
      exact hadopted.advances
    · rename_i key bytes frame _
      cases hrun
      cases hframe : (greeted.adopt gateway).handleClientFrame config key now
          (streamFrame body frame) with
      | some handled =>
        exact Reaches.advances
          (hadopted.trans (handleClientFrame_reaches (hafter.reaches hadopted) hframe))
      | none =>
        have hfailed : Change config greeted { greeted.adopt gateway with
            gateway := gateway.fail socket bytes } :=
          adopt_reaches hafter rfl hready heffect (Or.inr (fail_bookkeeping gateway socket bytes)) rfl
            ⟨rfl, rfl, rfl⟩
        exact Reaches.advances (.single hfailed)

theorem whenCurrent_reaches {key : ℕ} {transport : GatewayTransportEpoch} {next : Server → Server}
    (h : Reaches config s (next s)) : Reaches config s (s.whenCurrent key transport next) := by
  unfold whenCurrent
  split
  · exact h
  · exact .refl

/-- Every step but the kill switch is made of the changes above. -/
theorem step_advances {label : Label} (h : Kept s)
    (hlabel : ∀ enabled, label ≠ .updateKillSwitch enabled)
    (hstep : step config s label = some s') : Advances config s s' := by
  cases label with
  | reserveCarrierCredential accountId forResume tunnelId now =>
    cases hstep
    exact reserveCarrierCredential_advances
  | releaseCarrierCredential reservationId =>
    cases hstep
    exact trimmed_advances List.filter_sublist ⟨rfl, rfl⟩
  | upgradeCarrier socket now wellFormed accepted => exact upgradeCarrier_advances hstep
  | carrierAuthorized socket now usable accepted authorization =>
    exact carrierAuthorized_advances h hstep
  | releasePendingCarrier socket =>
    cases hstep
    exact releasePendingCarrier_advances h
  | message socket message =>
    simp only [step] at hstep
    split at hstep
    · cases hstep
      exact Reaches.advances (adopt_quiet receiveMessage_quiet).reaches
    · cases hstep
  | controlFrame socket =>
    simp only [step, Gateway.step] at hstep
    split at hstep
    · split at hstep
      · cases hstep
      · cases hstep
        exact Reaches.advances (adopt_quiet (quiet_setCarrier s.gateway socket _)).reaches
    · cases hstep
  | run socket now ready nonce body => exact run_advances h hstep
  | sendSettles socket succeeded => exact Reaches.advances (sendSettles_silent hstep).reaches
  | socketCloses socket =>
    cases hstep
    exact Reaches.advances (closeSocket_silent s socket).reaches
  | cleanup socket now =>
    simp only [step] at hstep
    split at hstep
    · cases hstep
    · cases hstep
      exact Reaches.advances (cleanup_reaches h.accounted)
  | reviewerRequest request =>
    simp only [step] at hstep
    split at hstep
    · cases hstep
      exact .refl
    · cases hstep
      exact Reaches.advances (Silent.reaches ⟨.refl _, rfl, ⟨rfl, rfl, rfl⟩⟩)
  | reviewerAuthorized index now =>
    simp only [step] at hstep
    split at hstep
    · cases hstep
    · cases hstep
      have hwaiting : Silent s { s with requests := s.requests.eraseIdx index } :=
        ⟨.refl _, rfl, ⟨rfl, rfl, rfl⟩⟩
      exact Reaches.advances (hwaiting.before h.accounted openStream_reaches)
  | reviewerRefused index =>
    cases hstep
    exact Reaches.advances (Silent.reaches ⟨.refl _, rfl, ⟨rfl, rfl, rfl⟩⟩)
  | stream object now point =>
    simp only [step] at hstep
    split at hstep
    · cases hstep
      exact Reaches.advances (runStream_reaches h.accounted point)
    · cases hstep
  | sessionTick key now expired =>
    cases hstep
    exact Reaches.advances (sessionTick_reaches h.accounted)
  | expiryTimer key now =>
    simp only [step] at hstep
    split at hstep
    · cases hstep
      exact Reaches.advances (expiryTimer_reaches h.accounted)
    · cases hstep
  | heartbeatFails key transport =>
    cases hstep
    exact Reaches.advances (whenCurrent_reaches (closeSocket_silent s transport.socket).reaches)
  | activationTimeout key transport =>
    simp only [step] at hstep
    split at hstep
    · cases hstep
      exact .refl
    · cases hstep
      exact Reaches.advances (closeSocket_silent s transport.socket).reaches
  | developerRevoked key transport =>
    cases hstep
    exact Reaches.advances (whenCurrent_reaches (disposeGatewaySession_reaches h.accounted))
  | terminate key =>
    cases hstep
    exact Reaches.advances (disposeGatewaySession_reaches h.accounted)
  | updateKillSwitch enabled => exact absurd rfl (hlabel enabled)
  | close =>
    cases hstep
    exact (Reaches.advances (disposeAll_reaches h.accounted)).trans
      (trimmed_advances (List.nil_sublist _) ⟨rfl, rfl⟩)

/-- The switch is set, and a switch that is set disposes of every session. -/
theorem updateKillSwitch_cases (s : Server) (enabled : Bool) :
    (s.killSwitchEnabled = enabled ∧ s.updateKillSwitch enabled = s) ∨
    (enabled = false ∧ s.updateKillSwitch enabled = { s with killSwitchEnabled := false }) ∨
    (enabled = true ∧
      s.updateKillSwitch enabled = disposeAll { s with killSwitchEnabled := true }) := by
  unfold updateKillSwitch
  by_cases hsame : s.killSwitchEnabled = enabled
  · exact Or.inl ⟨hsame, if_pos hsame⟩
  · rw [if_neg hsame]
    cases enabled with
    | false => exact Or.inr (Or.inl ⟨rfl, rfl⟩)
    | true => exact Or.inr (Or.inr ⟨rfl, rfl⟩)

theorem Kept.switched (h : Kept s) (enabled : Bool) : Kept { s with killSwitchEnabled := enabled } where
  accounted := h.accounted.quiet (.refl _) rfl
  issued := h.issued.grows rfl le_rfl le_rfl

theorem updateKillSwitch_kept (config : ServerConfig) (h : Kept s) (enabled : Bool) :
    Kept (s.updateKillSwitch enabled) := by
  rcases updateKillSwitch_cases s enabled with ⟨-, hsame⟩ | ⟨-, hcleared⟩ | ⟨-, hset⟩
  · rw [hsame]
    exact h
  · rw [hcleared]
    exact h.switched false
  · rw [hset]
    have hswitched := h.switched true
    have hdisposed : Advances config _ _ :=
      Reaches.advances (disposeAll_reaches hswitched.accounted)
    exact hswitched.advances hdisposed

theorem step_kept {label : Label} (h : Kept s) (hstep : step config s label = some s') : Kept s' := by
  by_cases hlabel : ∃ enabled, label = .updateKillSwitch enabled
  · obtain ⟨enabled, rfl⟩ := hlabel
    cases hstep
    exact updateKillSwitch_kept config h enabled
  · exact h.advances (step_advances h (fun enabled hkill => hlabel ⟨enabled, hkill⟩) hstep)

theorem run_kept {initialKillSwitch : Bool} {startedAt : ℕ} {schedule : List Label}
    (hrun : Execution.run (step config) (start initialKillSwitch startedAt) schedule = some s) :
    Kept s :=
  Execution.invariant_of_run (fun _ _ _ h hstep => step_kept h hstep)
    (start_kept initialKillSwitch startedAt) hrun

end Admission

/-- The count of an active session's life cycle is the size of its map, so that STREAM_CLOSED is
always accepted for a stream of the map, no removal throws, and the idle deadline applies exactly
when the map is empty. -/
theorem run_activeStreamCount (config : ServerConfig) (initialKillSwitch : Bool) (startedAt : ℕ)
    (schedule : List Label) (s : Server)
    (hrun : Execution.run (step config) (start initialKillSwitch startedAt) schedule = some s) :
    (∀ key state, s.gateway.isRegistered key = true → (s.gateway.heap key).terminal = false →
      (s.gateway.heap key).lifecycle = .ACTIVE state →
      state.activeStreamCount = (s.streams key).entries.length ∧
      (s.streams key ≠ ∅ → ∀ now, ∃ next, (SessionState.ACTIVE state).transitionSession
        config.ctx.sessionPolicy (.STREAM_CLOSED now) = .ok next) ∧
      getSessionDeadline state.activatedAt state.lastStreamClosedAt state.activeStreamCount
          config.ctx.sessionPolicy =
        if s.streams key = ∅ then
          min (state.activatedAt + config.ctx.sessionPolicy.maxTtlMs)
            (state.lastStreamClosedAt + config.ctx.sessionPolicy.idleTimeoutMs)
        else state.activatedAt + config.ctx.sessionPolicy.maxTtlMs) ∧
    ∀ s' object retirement now, Silent s s' →
      (s'.removeGatewayStream config.ctx.sessionPolicy object retirement now).2 ≠ .threw := by
  have haccounted := (run_kept hrun).accounted
  constructor
  · intro key state hregistered _ hstate
    have hcount := haccounted.count key state hregistered hstate
    have hempty : s.streams key = ∅ ↔ state.activeStreamCount = 0 := by
      rw [hcount, List.length_eq_zero_iff]
      exact AList.ext_iff
    refine ⟨hcount, ?_, ?_⟩
    · intro hstreams now
      rcases transitionSession_streamClosed config.ctx.sessionPolicy now
          (Nat.pos_of_ne_zero (mt hempty.mpr hstreams)) with ⟨reason, hnext⟩ | ⟨next, hnext, -⟩
      · exact ⟨_, hnext⟩
      · exact ⟨_, hnext⟩
    · unfold getSessionDeadline
      dsimp only
      by_cases hzero : state.activeStreamCount = 0
      · rw [if_neg (by omega), if_pos (hempty.mpr hzero)]
      · rw [if_pos (by omega), if_neg (mt hempty.mp hzero)]
  · intro s' object retirement now hsilent hthrew
    have hafter := haccounted.quiet hsilent.gateway hsilent.streams
    rcases @removeGatewayStream_cases config s' hafter object now retirement with
      ⟨-, hstale⟩ | ⟨-, removed, hremoved, -⟩
    · rw [hstale] at hthrew
      cases hthrew
    · rw [hremoved] at hthrew
      cases hthrew

section Scenario

def openServer : ServerConfig where
  ctx := openGateway
  admission := DEFAULT_ADMISSION_CONFIG
  limits :=
    { maxConcurrentStreams := 64
      maxFiniteResponseBytes := 1048576
      maxNewStreamsPerMinute := 600
      maxRequestBodyBytes := 1048576 }
  authorizationMaxAgeMs := 60000

def frameOf (generation : ℕ) (frame : Frame) : Message := ⟨100, some ⟨generation, frame⟩⟩

def runNoon (socket : ℕ) : Label := .run socket 0 true (List.replicate 32 7) .endStream

/-- A carrier connects, greets, and takes its session through the handshake. -/
def activation : List Label :=
  [.upgradeCarrier 0 0 true true, .message 0 helloCreate, runNoon 0, .sendSettles 0 true,
    .sendSettles 0 true, .message 0 (frameOf 1 (.configApplied (some ⟨1, 1, true, true, some 1⟩))),
    runNoon 0, .sendSettles 0 true, .sendSettles 0 true, .sendSettles 0 true,
    .message 0 (frameOf 1 (.data 1 (List.replicate 32 7))), runNoon 0, .sendSettles 0 true,
    .message 0 (frameOf 1 (.endStream 1)), runNoon 0, .sendSettles 0 true]

def reviewerRequest : ReviewerRequest :=
  { tunnelId := 5
    kind := .http
    methodAllowsBody := true
    declaredRequestBytes := none
    headBytes := 0
    encodable := true
    reviewed := false }

/-- Two reviewers open a stream each, and the first is reset. -/
def twoStreams : List Label :=
  activation ++ [.reviewerRequest reviewerRequest, .reviewerRequest reviewerRequest,
    .reviewerAuthorized 0 1, .reviewerAuthorized 0 2, .stream 0 3 .expires]

theorem run_activeStreamCount_twoStreams :
    ∃ s, Execution.run (step openServer) (start false 0) twoStreams = some s ∧
      ∃ state, (s.gateway.heap 0).lifecycle = .ACTIVE state ∧
        state.activeStreamCount = 1 ∧ (s.streams 0).entries.length = 1 := by
  have hobserved : (Execution.run (step openServer) (start false 0) twoStreams).map
      (fun s => (s.gateway.isRegistered 0, (s.gateway.heap 0).terminal,
        (s.gateway.heap 0).lifecycle)) =
      some (true, false, .ACTIVE ⟨0, 1, 1, 0⟩) := by
    decide +kernel
  obtain ⟨s, hrun, hs⟩ := Option.map_eq_some_iff.mp hobserved
  simp only [Prod.mk.injEq] at hs
  obtain ⟨hregistered, hterminal, hstate⟩ := hs
  have hcount := ((run_activeStreamCount openServer false 0 twoStreams s hrun).1 0 _ hregistered
    hterminal hstate).1
  exact ⟨s, hrun, _, hstate, rfl, hcount.symm⟩

end Scenario

end Server

end Lotur.Gateway
