import Lotur.Gateway.Server
import Lotur.Library.Execution
import Mathlib.Logic.Relation

/-! The count of open streams in a session's life cycle and the map of its streams. Every step of
the gateway is a sequence of changes, each of which touches one session; `Accounted` survives
every change. -/
namespace Lotur.Gateway

open State

namespace Server

/-- Admission and the kill switch are left alone. -/
structure Unmoved (s s' : Server) : Prop where
  admission : s'.admission = s.admission
  killSwitchEnabled : s'.killSwitchEnabled = s.killSwitchEnabled
  upgrades : s'.upgrades = s.upgrades

/-- What can happen to the sessions and their streams at once, with the checks that were made. -/
inductive SessionChange (config : ServerConfig) (s s' : Server) : Prop
  | silent (h : Quiet s.gateway s'.gateway) (hstreams : s'.streams = s.streams)
  | created (moment : Moment) (tunnelId : Token) (owner : Option Owner)
      (hpending : moment.pendingElsewhere = (s.admission.pendingCarrierConnections.inUse +
        s.admission.credentialReservations.length).toNat)
      (hadmitted : s.gateway.canAdmitNewTunnel config.ctx moment (owner.map Owner.accountId) = true)
      (h : Creates tunnelId owner s.gateway s'.gateway) (hstreams : s'.streams = s.streams)
  | resumed (key : ℕ) (state next : ReconnectingState)
      (hregistered : s.gateway.isRegistered key = true)
      (hbefore : (s.gateway.heap key).lifecycle = .RECONNECTING state)
      (h : Moves key (.RECONNECTING next) s.gateway s'.gateway) (hstreams : s'.streams = s.streams)
  | activated (key : ℕ) (active : ActiveState) (hregistered : s.gateway.isRegistered key = true)
      (hbefore : (s.gateway.heap key).lifecycle = .CREATING ∨
        ∃ state, (s.gateway.heap key).lifecycle = .RECONNECTING state)
      (hready : s.killSwitchEnabled = false)
      (hactivable : s.gateway.canActivateTunnel config.ctx key = true)
      (hcount : active.activeStreamCount = 0)
      (h : Moves key (.ACTIVE active) s.gateway s'.gateway) (hstreams : s'.streams = s.streams)
  | lost (key : ℕ) (next : ReconnectingState) (hregistered : s.gateway.isRegistered key = true)
      (hbefore : (∃ state, (s.gateway.heap key).lifecycle = .ACTIVE state) ∨
        ∃ state, (s.gateway.heap key).lifecycle = .RECONNECTING state)
      (h : Moves key (.RECONNECTING next) s.gateway s'.gateway)
      (hstreams : s'.streams = Function.update s.streams key ∅)
  | ticked (key : ℕ) (state : SessionState) (hregistered : s.gateway.isRegistered key = true)
      (hbefore : (s.gateway.heap key).lifecycle = state)
      (h : Moves key state s.gateway s'.gateway) (hstreams : s'.streams = s.streams)
  | opened (key streamId object : ℕ) (state next : ActiveState)
      (hregistered : s.gateway.isRegistered key = true)
      (hbefore : (s.gateway.heap key).lifecycle = .ACTIVE state)
      (hnew : streamId ∉ s.streams key)
      (hissued : streamId ≤ (s'.gateway.heap key).streamIds.highestIssuedStreamId)
      (hcount : next.activeStreamCount = state.activeStreamCount + 1)
      (h : Moves key (.ACTIVE next) s.gateway s'.gateway)
      (hstreams : s'.streams = Function.update s.streams key ((s.streams key).insert streamId object))
  | closed (key streamId : ℕ) (state next : ActiveState)
      (hregistered : s.gateway.isRegistered key = true)
      (hbefore : (s.gateway.heap key).lifecycle = .ACTIVE state)
      (hmem : streamId ∈ s.streams key)
      (hcount : next.activeStreamCount + 1 = state.activeStreamCount)
      (h : Moves key (.ACTIVE next) s.gateway s'.gateway)
      (hstreams : s'.streams = Function.update s.streams key ((s.streams key).erase streamId))
  | disposed (key : ℕ) (h : Disposes key s.gateway s'.gateway)
      (hstreams : s'.streams = Function.update s.streams key ∅)

structure Change (config : ServerConfig) (s s' : Server) : Prop where
  unmoved : Unmoved s s'
  session : SessionChange config s s'

abbrev Reaches (config : ServerConfig) : Server → Server → Prop :=
  Relation.ReflTransGen (Change config)

/-- An active session counts the streams of its map, no other session has any, and closing one
cannot throw. -/
structure Accounted (s : Server) : Prop where
  registry : Registry s.gateway
  flow : ∀ key, WellKept (s.gateway.heap key).inboundFlow
  live : ∀ key, s.streams key ≠ ∅ →
    s.gateway.isRegistered key = true ∧ isActive (s.gateway.heap key) = true
  count : ∀ key state, s.gateway.isRegistered key = true →
    (s.gateway.heap key).lifecycle = .ACTIVE state →
    state.activeStreamCount = (s.streams key).entries.length
  issued : ∀ key streamId, streamId ∈ s.streams key →
    streamId ≤ (s.gateway.heap key).streamIds.highestIssuedStreamId

theorem start_accounted (initialKillSwitch : Bool) (now : ℕ) :
    Accounted (start initialKillSwitch now) where
  registry := by
    intro tunnelId key hkey
    cases hkey
  flow _ := wellKept_new 0
  live key h := absurd rfl h
  count key state hregistered := by simp [start, Gateway.start, State.isRegistered] at hregistered
  issued key streamId h := absurd h (AList.notMem_empty streamId)

theorem length_erase {α : Type} {streams : StreamMap α} {streamId : ℕ} (h : streamId ∈ streams) :
    (streams.erase streamId).entries.length + 1 = streams.entries.length := by
  have hkeys : (streams.erase streamId).keys.length + 1 = streams.keys.length := by
    rw [AList.keys_erase]
    exact List.length_erase_add_one h
  simpa [AList.keys, List.keys] using hkeys

theorem length_insert {α : Type} {streams : StreamMap α} {streamId : ℕ} (value : α)
    (h : streamId ∉ streams) :
    (streams.insert streamId value).entries.length = streams.entries.length + 1 := by
  rw [AList.entries_insert_of_notMem h]
  rfl

theorem isActive_iff {session : GatewaySession} :
    isActive session = true ↔ ∃ state, session.lifecycle = .ACTIVE state := by
  unfold isActive
  cases session.lifecycle with
  | ACTIVE state => exact ⟨fun _ => ⟨state, rfl⟩, fun _ => rfl⟩
  | CREATING => simp
  | RECONNECTING state => simp
  | EXPIRED reason closedAt => simp
  | CLOSED reason closedAt => simp

section Changes

variable {config : ServerConfig} {s s' : Server} {key : ℕ}

/-- A session that is not active has no stream. -/
theorem Accounted.empty (h : Accounted s) (hinactive : ∀ state,
    (s.gateway.heap key).lifecycle ≠ .ACTIVE state) : s.streams key = ∅ := by
  by_contra hstreams
  obtain ⟨state, hstate⟩ := isActive_iff.mp (h.live key hstreams).2
  exact hinactive state hstate

theorem Accounted.quiet (h : Accounted s) (hquiet : Quiet s.gateway s'.gateway)
    (hstreams : s'.streams = s.streams) : Accounted s' where
  registry := hquiet.registry h.registry
  flow key := (hquiet.standing key).flow (h.flow key)
  live key hkey := by
    rw [hstreams] at hkey
    rw [hquiet.isRegistered]
    refine ⟨(h.live key hkey).1, ?_⟩
    have hactive := (h.live key hkey).2
    rwa [isActive, ← (hquiet.standing key).lifecycle] at hactive
  count key state hregistered hstate := by
    rw [hquiet.isRegistered] at hregistered
    rw [(hquiet.standing key).lifecycle] at hstate
    rw [hstreams]
    exact h.count key state hregistered hstate
  issued key streamId hmem := by
    rw [hstreams] at hmem
    exact (h.issued key streamId hmem).trans (hquiet.standing key).issued

/-- One session moves on and its map follows; the others stand as they were. -/
theorem Accounted.moves {next : SessionState} (h : Accounted s)
    (hregistered : s.gateway.isRegistered key = true) (hmoves : Moves key next s.gateway s'.gateway)
    (hothers : ∀ other, other ≠ key → s'.streams other = s.streams other)
    (hlive : s'.streams key ≠ ∅ → ∃ state, next = .ACTIVE state)
    (hcount : ∀ state, next = .ACTIVE state →
      state.activeStreamCount = (s'.streams key).entries.length)
    (hissued : ∀ streamId, streamId ∈ s'.streams key →
      streamId ≤ (s'.gateway.heap key).streamIds.highestIssuedStreamId) : Accounted s' where
  registry := hmoves.registry h.registry
  flow other := by
    by_cases hother : other = key
    · subst hother
      exact hmoves.flow (h.flow other)
    · exact (hmoves.others other hother).flow (h.flow other)
  live other hstreams := by
    rw [hmoves.isRegistered]
    by_cases hother : other = key
    · subst hother
      refine ⟨hregistered, isActive_iff.mpr ?_⟩
      rw [hmoves.lifecycle]
      exact hlive hstreams
    · rw [hothers other hother] at hstreams
      obtain ⟨hbefore, hactive⟩ := h.live other hstreams
      refine ⟨hbefore, ?_⟩
      rwa [isActive, ← (hmoves.others other hother).lifecycle] at hactive
  count other state hbefore hstate := by
    rw [hmoves.isRegistered] at hbefore
    by_cases hother : other = key
    · subst hother
      exact hcount state (hmoves.lifecycle.symm.trans hstate)
    · rw [(hmoves.others other hother).lifecycle] at hstate
      rw [hothers other hother]
      exact h.count other state hbefore hstate
  issued other streamId hmem := by
    by_cases hother : other = key
    · subst hother
      exact hissued streamId hmem
    · rw [hothers other hother] at hmem
      exact (h.issued other streamId hmem).trans (hmoves.others other hother).issued

theorem Accounted.disposes (h : Accounted s) (hdisposes : Disposes key s.gateway s'.gateway)
    (hstreams : s'.streams = Function.update s.streams key ∅) : Accounted s' where
  registry := hdisposes.registry h.registry
  flow other := by
    by_cases hother : other = key
    · subst hother
      exact hdisposes.flow (h.flow other)
    · exact (hdisposes.others other hother).flow (h.flow other)
  live other hlive := by
    rw [hstreams] at hlive
    by_cases hother : other = key
    · subst hother
      simp at hlive
    · rw [Function.update_of_ne hother] at hlive
      obtain ⟨hbefore, hactive⟩ := h.live other hlive
      rw [hdisposes.isRegistered_of_ne hother]
      refine ⟨hbefore, ?_⟩
      rwa [isActive, ← (hdisposes.others other hother).lifecycle] at hactive
  count other state hregistered hstate := by
    by_cases hother : other = key
    · subst hother
      rw [hdisposes.isRegistered_self] at hregistered
      cases hregistered
    · rw [hdisposes.isRegistered_of_ne hother] at hregistered
      rw [(hdisposes.others other hother).lifecycle] at hstate
      rw [hstreams, Function.update_of_ne hother]
      exact h.count other state hregistered hstate
  issued other streamId hmem := by
    rw [hstreams] at hmem
    by_cases hother : other = key
    · subst hother
      rw [Function.update_self] at hmem
      exact absurd hmem (AList.notMem_empty streamId)
    · rw [Function.update_of_ne hother] at hmem
      exact (h.issued other streamId hmem).trans (hdisposes.others other hother).issued

theorem Accounted.creates {tunnelId : Token} {owner : Option Owner} (h : Accounted s)
    (hcreates : Creates tunnelId owner s.gateway s'.gateway) (hstreams : s'.streams = s.streams) :
    Accounted s' := by
  -- The new key was never registered, so it has no stream yet.
  have hnew : s.streams s.gateway.sessionCount = ∅ := by
    by_contra hlive
    exact absurd (h.registry.lt (h.live _ hlive).1) (lt_irrefl _)
  refine ⟨hcreates.registry h.registry, ?_, ?_, ?_, ?_⟩
  · intro other
    by_cases hother : other = s.gateway.sessionCount
    · rw [hother]
      exact hcreates.flow
    · exact (hcreates.others other hother).flow (h.flow other)
  · intro other hlive
    rw [hstreams] at hlive
    by_cases hother : other = s.gateway.sessionCount
    · rw [hother] at hlive
      exact absurd hnew hlive
    · obtain ⟨hbefore, hactive⟩ := h.live other hlive
      rw [hcreates.isRegistered_of_ne hother]
      refine ⟨hbefore, ?_⟩
      rwa [isActive, ← (hcreates.others other hother).lifecycle] at hactive
  · intro other state hregistered hstate
    by_cases hother : other = s.gateway.sessionCount
    · rw [hother, hcreates.lifecycle] at hstate
      cases hstate
    · rw [hcreates.isRegistered_of_ne hother] at hregistered
      rw [(hcreates.others other hother).lifecycle] at hstate
      rw [hstreams]
      exact h.count other state hregistered hstate
  · intro other streamId hmem
    rw [hstreams] at hmem
    by_cases hother : other = s.gateway.sessionCount
    · rw [hother, hnew] at hmem
      exact absurd hmem (AList.notMem_empty streamId)
    · exact (h.issued other streamId hmem).trans (hcreates.others other hother).issued

theorem Change.accounted (hchange : Change config s s') (h : Accounted s) : Accounted s' := by
  cases hchange.session with
  | silent hquiet hstreams => exact h.quiet hquiet hstreams
  | created _ _ _ _ _ hcreates hstreams => exact h.creates hcreates hstreams
  | resumed key state next hregistered hbefore hmoves hstreams =>
    have hempty : s'.streams key = ∅ := by
      rw [hstreams]
      exact h.empty (by rw [hbefore]; exact fun _ => nofun)
    refine h.moves hregistered hmoves (fun other _ => by rw [hstreams]) ?_ (fun _ => nofun) ?_
    · exact fun hlive => absurd hempty hlive
    · intro streamId hmem
      rw [hempty] at hmem
      exact absurd hmem (AList.notMem_empty streamId)
  | activated key active hregistered hbefore _ _ hcount hmoves hstreams =>
    have hempty : s'.streams key = ∅ := by
      rw [hstreams]
      apply h.empty
      intro state hstate
      rw [hstate] at hbefore
      rcases hbefore with hcreating | ⟨other, hother⟩
      · cases hcreating
      · cases hother
    refine h.moves hregistered hmoves (fun other _ => by rw [hstreams]) (fun _ => ⟨active, rfl⟩) ?_ ?_
    · intro state hstate
      cases hstate
      rw [hcount, hempty]
      rfl
    · intro streamId hmem
      rw [hempty] at hmem
      exact absurd hmem (AList.notMem_empty streamId)
  | lost key next hregistered _ hmoves hstreams =>
    have hempty : s'.streams key = ∅ := by rw [hstreams, Function.update_self]
    refine h.moves hregistered hmoves ?_ (fun hlive => absurd hempty hlive) (fun _ => nofun) ?_
    · intro other hother
      rw [hstreams, Function.update_of_ne hother]
    · intro streamId hmem
      rw [hempty] at hmem
      exact absurd hmem (AList.notMem_empty streamId)
  | ticked key state hregistered hbefore hmoves hstreams =>
    refine h.moves hregistered hmoves (fun other _ => by rw [hstreams]) ?_ ?_ ?_
    · intro hlive
      rw [hstreams] at hlive
      obtain ⟨active, hactive⟩ := isActive_iff.mp (h.live key hlive).2
      exact ⟨active, hbefore.symm.trans hactive⟩
    · intro active hactive
      rw [hstreams]
      exact h.count key active hregistered (hbefore.trans hactive)
    · intro streamId hmem
      rw [hstreams] at hmem
      rcases hmoves.issued with ⟨reconnecting, hstate⟩ | hissued
      · rw [h.empty (by rw [hstate]; exact fun _ => nofun)] at hmem
        exact absurd hmem (AList.notMem_empty streamId)
      · exact (h.issued key streamId hmem).trans hissued
  | opened key streamId object state next hregistered hbefore hnew hissued hcount hmoves hstreams =>
    have hkey : s'.streams key = (s.streams key).insert streamId object := by
      rw [hstreams, Function.update_self]
    refine h.moves hregistered hmoves ?_ (fun _ => ⟨next, rfl⟩) ?_ ?_
    · intro other hother
      rw [hstreams, Function.update_of_ne hother]
    · intro active hactive
      cases hactive
      rw [hkey, length_insert object hnew, hcount, h.count key state hregistered hbefore]
    · intro other hmem
      rw [hkey, AList.mem_insert] at hmem
      rcases hmem with rfl | hmem
      · exact hissued
      · rcases hmoves.issued with ⟨reconnecting, hstate⟩ | hlater
        · rw [hbefore] at hstate
          cases hstate
        · exact (h.issued key other hmem).trans hlater
  | closed key streamId state next hregistered hbefore hmem hcount hmoves hstreams =>
    have hkey : s'.streams key = (s.streams key).erase streamId := by
      rw [hstreams, Function.update_self]
    refine h.moves hregistered hmoves ?_ (fun _ => ⟨next, rfl⟩) ?_ ?_
    · intro other hother
      rw [hstreams, Function.update_of_ne hother]
    · intro active hactive
      cases hactive
      have hbefore := h.count key state hregistered hbefore
      have hlength := length_erase hmem
      rw [hkey]
      omega
    · intro other hother
      rw [hkey, AList.mem_erase] at hother
      rcases hmoves.issued with ⟨reconnecting, hstate⟩ | hlater
      · rw [hbefore] at hstate
        cases hstate
      · exact (h.issued key other hother.2).trans hlater
  | disposed key hdisposes hstreams => exact h.disposes hdisposes hstreams

theorem Accounted.reaches (h : Accounted s) (hreaches : Reaches config s s') : Accounted s' := by
  induction hreaches with
  | refl => exact h
  | tail _ hchange ih => exact hchange.accounted ih

end Changes

/-- No session and no map changes in a way that others see. -/
structure Silent (s s' : Server) : Prop where
  gateway : Quiet s.gateway s'.gateway
  streams : s'.streams = s.streams
  unmoved : Unmoved s s'

section Functions

variable {config : ServerConfig} {s s' s'' : Server} {key object now bytes : ℕ}

theorem Unmoved.refl (s : Server) : Unmoved s s := ⟨rfl, rfl, rfl⟩

theorem Unmoved.trans (h : Unmoved s s') (h' : Unmoved s' s'') : Unmoved s s'' where
  admission := h'.admission.trans h.admission
  killSwitchEnabled := h'.killSwitchEnabled.trans h.killSwitchEnabled
  upgrades := h'.upgrades.trans h.upgrades

theorem Silent.refl (s : Server) : Silent s s := ⟨.refl _, rfl, .refl _⟩

theorem Silent.trans (h : Silent s s') (h' : Silent s' s'') : Silent s s'' where
  gateway := h.gateway.trans h'.gateway
  streams := h'.streams.trans h.streams
  unmoved := h.unmoved.trans h'.unmoved

theorem Silent.reaches (h : Silent s s') : Reaches config s s' :=
  .single ⟨h.unmoved, .silent h.gateway h.streams⟩

theorem Silent.before (h : Silent s s') (haccounted : Accounted s)
    (hnext : Accounted s' → Reaches config s' s'') : Reaches config s s'' :=
  h.reaches.trans (hnext (haccounted.quiet h.gateway h.streams))

theorem setStream_silent (s : Server) (object : ℕ) (stream : GatewayStream) :
    Silent s (s.setStream object stream) := ⟨.refl _, rfl, ⟨rfl, rfl, rfl⟩⟩

theorem cancel_silent (s : Server) (object : ℕ) : Silent s (s.cancel object) :=
  setStream_silent s object _

theorem popOperation_silent (s : Server) (object : ℕ) : Silent s (s.popOperation object) :=
  setStream_silent s object _

theorem setTransportFlows_silent {transport : GatewayTransportEpoch} {flows : Flows}
    (h : WellKept (s.transportFlows key transport).inboundFlow → WellKept flows.inboundFlow) :
    Silent s (s.setTransportFlows key transport flows) := by
  unfold setTransportFlows
  split_ifs with hcurrent
  · refine ⟨quiet_setSession ⟨rfl, rfl, rfl, rfl, rfl, rfl, ?_, le_rfl⟩, rfl, ⟨rfl, rfl, rfl⟩⟩
    intro hkept
    apply h
    rw [transportFlows, if_pos hcurrent]
    exact hkept
  · exact ⟨.refl _, rfl, ⟨rfl, rfl, rfl⟩⟩

theorem closeOutbound_silent (s : Server) (object : ℕ) : Silent s (s.closeOutbound object) :=
  setTransportFlows_silent id

theorem closeEntry_silent (s : Server) (object : ℕ) : Silent s (s.closeEntry object) := by
  refine (cancel_silent s object).trans (setTransportFlows_silent ?_)
  intro hkept
  have hflows : ((s.cancel object).transportFlows (s.objects object).key
      (s.objects object).transport) =
        s.transportFlows (s.objects object).key (s.objects object).transport := rfl
  rw [hflows] at hkept
  obtain ⟨inboundFlow, hclose⟩ := hkept.closeStream_ok (s.objects object).streamId
  rw [hclose]
  exact hkept.closeStream hclose

theorem closeEntries_silent (s : Server) (objects : List ℕ) :
    Silent s (objects.foldl closeEntry s) := by
  induction objects generalizing s with
  | nil => exact .refl s
  | cons object objects ih => exact (closeEntry_silent s object).trans (ih _)

theorem closeGatewayStreams_spec (s : Server) (key : ℕ) :
    Quiet s.gateway (s.closeGatewayStreams key).gateway ∧
      (s.closeGatewayStreams key).streams = Function.update s.streams key ∅ ∧
      Unmoved s (s.closeGatewayStreams key) := by
  have hclosed := closeEntries_silent s ((s.streams key).entries.map Sigma.snd)
  refine ⟨hclosed.gateway, ?_, ⟨hclosed.unmoved.1, hclosed.unmoved.2, hclosed.unmoved.3⟩⟩
  show Function.update _ key ∅ = _
  rw [hclosed.streams]

/-- A step that takes nothing out of the registry closes no stream. -/
theorem adopt_kept {gateway : State} (h : ∀ key, s.gateway.isRegistered key = true →
    gateway.isRegistered key = true) :
    (s.adopt gateway).gateway = gateway ∧ (s.adopt gateway).streams = s.streams ∧
      Unmoved s (s.adopt gateway) := by
  have hnone : (List.range gateway.sessionCount).find? (fun key =>
      s.gateway.isRegistered key && !gateway.isRegistered key) = none := by
    rw [List.find?_eq_none]
    intro key _ hkey
    simp only [Bool.and_eq_true, Bool.not_eq_true'] at hkey
    rw [h key hkey.1] at hkey
    cases hkey.2
  unfold adopt
  dsimp only
  rw [hnone]
  exact ⟨rfl, rfl, ⟨rfl, rfl, rfl⟩⟩

theorem adopt_disposes {gateway : State} (hregistry : Registry s.gateway)
    (h : Disposes key s.gateway gateway) :
    Disposes key s.gateway (s.adopt gateway).gateway ∧
      (s.adopt gateway).streams = Function.update s.streams key ∅ ∧
      Unmoved s (s.adopt gateway) := by
  have hfound : (List.range gateway.sessionCount).find? (fun other =>
      s.gateway.isRegistered other && !gateway.isRegistered other) = some key := by
    have hgone : ∀ other, (s.gateway.isRegistered other && !gateway.isRegistered other) = true ↔
        other = key := by
      intro other
      by_cases hother : other = key
      · simp [hother, h.registered, h.isRegistered_self]
      · simp [hother, h.isRegistered_of_ne hother]
    cases hfind : (List.range gateway.sessionCount).find? (fun other =>
        s.gateway.isRegistered other && !gateway.isRegistered other) with
    | none =>
      rw [List.find?_eq_none] at hfind
      have hlt : key < gateway.sessionCount := by
        rw [h.sessionCount]
        exact hregistry.lt h.registered
      exact absurd ((hgone key).mpr rfl) (hfind key (List.mem_range.mpr hlt))
    | some other =>
      have hother := List.find?_some hfind
      rw [(hgone other).mp hother]
  unfold adopt
  dsimp only
  rw [hfound]
  generalize hnext : ({ s with
    gateway := gateway
    flows := _ } : Server) = next
  have hgateway : next.gateway = gateway := by rw [← hnext]
  have hstreams : next.streams = s.streams := by rw [← hnext]
  have hunmoved : Unmoved s next := by
    rw [← hnext]
    exact ⟨rfl, rfl, rfl⟩
  obtain ⟨hquiet, hclosed, hkept⟩ := closeGatewayStreams_spec next key
  rw [hgateway] at hquiet
  rw [hstreams] at hclosed
  have hall := hunmoved.trans hkept
  exact ⟨h.quiet hquiet, hclosed, ⟨hall.1, hall.2, hall.3⟩⟩

theorem adopt_quiet {gateway : State} (h : Quiet s.gateway gateway) : Silent s (s.adopt gateway) := by
  have hkept (key : ℕ) (hkey : s.gateway.isRegistered key = true) :
      gateway.isRegistered key = true := (h.isRegistered key).trans hkey
  obtain ⟨hgateway, hstreams, hunmoved⟩ := adopt_kept hkept
  refine ⟨?_, hstreams, hunmoved⟩
  rw [hgateway]
  exact h

theorem disposed_change {gateway : State} (hregistry : Registry s.gateway)
    (h : Disposes key s.gateway gateway) : Change config s (s.adopt gateway) := by
  obtain ⟨hdisposes, hstreams, hunmoved⟩ := adopt_disposes hregistry h
  exact ⟨hunmoved, .disposed key hdisposes hstreams⟩

theorem disposeGatewaySession_reaches (h : Accounted s) :
    Reaches config s (s.disposeGatewaySession key) := by
  rcases disposeGatewaySession_cases s.gateway key with hdisposes | ⟨-, hsame⟩
  · exact .single (disposed_change h.registry hdisposes)
  · rw [disposeGatewaySession, hsame]
    exact (adopt_quiet (.refl _)).reaches

theorem adopt_moves {gateway : State} {next : SessionState} (h : Moves key next s.gateway gateway) :
    (s.adopt gateway).gateway = gateway ∧ (s.adopt gateway).streams = s.streams ∧
      Unmoved s (s.adopt gateway) :=
  adopt_kept fun other hother => (h.isRegistered other).trans hother

/-- A session with an open stream lets go of it, or expires. -/
theorem transitionSession_streamClosed (policy : SessionPolicy) {state : ActiveState} (now : ℕ)
    (h : 0 < state.activeStreamCount) :
    (∃ reason, (SessionState.ACTIVE state).transitionSession policy (.STREAM_CLOSED now) =
      .ok (.EXPIRED reason now)) ∨
    ∃ next, (SessionState.ACTIVE state).transitionSession policy (.STREAM_CLOSED now) =
      .ok (.ACTIVE next) ∧ next.activeStreamCount + 1 = state.activeStreamCount := by
  simp only [SessionState.transitionSession, SessionEvent.now]
  cases hexpire : SessionState.expireActiveIfNeeded state now policy with
  | some expired =>
    obtain ⟨reason, rfl⟩ := SessionState.expireActiveIfNeeded_some hexpire
    exact Or.inl ⟨reason, rfl⟩
  | none =>
    simp only [SessionState.transitionActive]
    rw [if_neg h.ne']
    refine Or.inr ⟨_, rfl, ?_⟩
    dsimp only
    omega

theorem transitionSession_streamOpen (policy : SessionPolicy) (state : ActiveState) (now : ℕ) :
    (∃ reason, (SessionState.ACTIVE state).transitionSession policy (.STREAM_OPEN now) =
      .ok (.EXPIRED reason now)) ∨
    ∃ next, (SessionState.ACTIVE state).transitionSession policy (.STREAM_OPEN now) =
      .ok (.ACTIVE next) ∧ next.activeStreamCount = state.activeStreamCount + 1 := by
  simp only [SessionState.transitionSession, SessionEvent.now]
  cases hexpire : SessionState.expireActiveIfNeeded state now policy with
  | some expired =>
    obtain ⟨reason, rfl⟩ := SessionState.expireActiveIfNeeded_some hexpire
    exact Or.inl ⟨reason, rfl⟩
  | none => exact Or.inr ⟨_, rfl, rfl⟩

/-- A stream that is current is one of an active session that counts it. -/
theorem Accounted.current (h : Accounted s) (hcurrent : s.isCurrentGatewayStream object = true) :
    s.gateway.captureGatewayTransport (s.objects object).key = (s.objects object).transport ∧
    (s.objects object).streamId ∈ s.streams (s.objects object).key ∧
    s.gateway.isRegistered (s.objects object).key = true ∧
    ∃ state, (s.gateway.heap (s.objects object).key).lifecycle = .ACTIVE state ∧
      0 < state.activeStreamCount := by
  simp only [isCurrentGatewayStream, Bool.and_eq_true, decide_eq_true_eq] at hcurrent
  have hmem : (s.objects object).streamId ∈ s.streams (s.objects object).key := by
    rw [← AList.lookup_isSome, hcurrent.2]
    rfl
  have hstreams : s.streams (s.objects object).key ≠ ∅ := by
    intro hempty
    rw [hempty] at hmem
    exact AList.notMem_empty _ hmem
  obtain ⟨hregistered, hactive⟩ := h.live _ hstreams
  obtain ⟨state, hstate⟩ := isActive_iff.mp hactive
  refine ⟨hcurrent.1, hmem, hregistered, state, hstate, ?_⟩
  have hlength := length_erase hmem
  rw [h.count _ state hregistered hstate]
  omega

theorem WellKept.closeInbound {flow : GatewayInboundFlow} (h : WellKept flow) (streamId : ℕ)
    (retirement : Endpoint.RetirementKind) :
    ∃ flow', Server.closeInbound flow streamId retirement = .ok flow' ∧ WellKept flow' := by
  cases retirement with
  | localReset =>
    obtain ⟨flow', hretire⟩ := h.retireStream_ok streamId
    exact ⟨flow', hretire, h.retireStream hretire⟩
  | normal =>
    obtain ⟨flow', hclose⟩ := h.closeStream_ok streamId
    exact ⟨flow', hclose, h.closeStream hclose⟩

/-- The count follows a map that has lost one entry, or the session expires. -/
theorem streamClosed_change {deleted : Server} {streamId : ℕ} {state : ActiveState}
    (h : Accounted s) (hregistered : s.gateway.isRegistered key = true)
    (hstate : (s.gateway.heap key).lifecycle = .ACTIVE state)
    (hpositive : 0 < state.activeStreamCount) (hmem : streamId ∈ s.streams key)
    (hgateway : Quiet s.gateway deleted.gateway) (hunmoved : Unmoved s deleted)
    (hstreams : deleted.streams = Function.update s.streams key ((s.streams key).erase streamId)) :
    ∃ s', deleted.streamClosed config.ctx.sessionPolicy key now = (s', .removed) ∧
      Change config s s' := by
  unfold streamClosed
  rw [(hgateway.standing key).lifecycle, hstate]
  dsimp only
  rcases transitionSession_streamClosed config.ctx.sessionPolicy now hpositive with
    ⟨reason, hnext⟩ | ⟨next, hnext, hcount⟩
  · rw [hnext]
    refine ⟨_, rfl, ?_⟩
    have hdisposes := disposes_expired ((hgateway.isRegistered key).trans hregistered) reason now
    obtain ⟨hgone, hcleared, hkept⟩ := adopt_disposes (hgateway.registry h.registry) hdisposes
    refine ⟨hunmoved.trans hkept, .disposed key (hgateway.disposes hgone) ?_⟩
    rw [applySessionTransition, hcleared, hstreams, Function.update_idem]
  · rw [hnext]
    refine ⟨_, rfl, ?_⟩
    have hmoves := moves_lifecycle deleted.gateway key (.ACTIVE next)
    obtain ⟨hthere, hsame, hkept⟩ := adopt_moves hmoves
    refine ⟨hunmoved.trans hkept, .closed key streamId state next hregistered hstate hmem hcount
      (hgateway.moves ?_) (hsame.trans hstreams)⟩
    have hafter := hthere ▸ hmoves
    exact hafter

/-- `removeGatewayStream` never throws: it finds the stream stale, or takes it out of the map and
off the count, or disposes of a session that has expired. -/
theorem removeGatewayStream_cases (h : Accounted s) (object now : ℕ)
    (retirement : Endpoint.RetirementKind) :
    (s.isCurrentGatewayStream object = false ∧
      s.removeGatewayStream config.ctx.sessionPolicy object retirement now = (s, .stale)) ∨
    (s.isCurrentGatewayStream object = true ∧ ∃ s',
      s.removeGatewayStream config.ctx.sessionPolicy object retirement now = (s', .removed) ∧
      Change config s s') := by
  unfold removeGatewayStream
  by_cases hcurrent : s.isCurrentGatewayStream object = true
  · refine Or.inr ⟨hcurrent, ?_⟩
    obtain ⟨htransport, hmem, hregistered, state, hstate, hpositive⟩ := h.current hcurrent
    have hflow : WellKept (s.transportFlows (s.objects object).key
        (s.objects object).transport).inboundFlow := by
      rw [transportFlows, if_pos htransport]
      exact h.flow _
    obtain ⟨inboundFlow, hclosed, hkept⟩ :=
      WellKept.closeInbound hflow (s.objects object).streamId retirement
    simp only [hcurrent, Bool.not_true, Bool.false_eq_true, if_false, hclosed]
    have hsilent := @setTransportFlows_silent
      (s.deleteStream (s.objects object).key (s.objects object).streamId) (s.objects object).key
      (s.objects object).transport { s.transportFlows (s.objects object).key
        (s.objects object).transport with inboundFlow } fun _ => hkept
    have hunmoved := hsilent.unmoved
    exact streamClosed_change h hregistered hstate hpositive hmem hsilent.gateway
      ⟨hunmoved.admission, hunmoved.killSwitchEnabled, hunmoved.upgrades⟩ hsilent.streams
  · rw [Bool.not_eq_true] at hcurrent
    refine Or.inl ⟨hcurrent, ?_⟩
    rw [hcurrent]
    rfl

theorem resetStream_reaches (h : Accounted s) : Reaches config s (s.resetStream config object now) := by
  have hcancel := cancel_silent s object
  have hcancelled := h.quiet hcancel.gateway hcancel.streams
  unfold resetStream
  rcases removeGatewayStream_cases hcancelled object now .localReset with
    ⟨-, hstale⟩ | ⟨-, s', hremoved, hchange⟩
  · rw [hstale]
    exact (hcancel.trans (closeOutbound_silent _ object)).reaches
  · rw [hremoved]
    exact (hcancel.reaches.tail hchange).trans (closeOutbound_silent _ object).reaches

/-- The shape of most continuations: a check of what is current, then the local error path. -/
theorem resetStream_unless {stale : Prop} [Decidable stale] (h : Accounted s) :
    Reaches config s (if stale then s else s.resetStream config object now) := by
  split
  · exact .refl
  · exact resetStream_reaches h

theorem finishStream_reaches (h : Accounted s) :
    Reaches config s (s.finishStream config object now) := by
  unfold finishStream
  rcases removeGatewayStream_cases h object now .normal with ⟨-, hstale⟩ | ⟨-, s', hremoved, hchange⟩
  · rw [hstale]
  · rw [hremoved]
    exact (Relation.ReflTransGen.single hchange).trans (closeOutbound_silent _ object).reaches

theorem maybeDeleteStream_reaches (h : Accounted s) :
    Reaches config s (s.maybeDeleteStream config object now) := by
  unfold maybeDeleteStream
  split_ifs
  · exact finishStream_reaches h
  · exact .refl

theorem takeCredit_silent (s : Server) (object maximumBytes : ℕ) :
    Silent s (s.takeCredit object maximumBytes) := by
  unfold takeCredit
  dsimp only
  split
  · exact .refl s
  · exact setTransportFlows_silent id

theorem openFlows_silent (s : Server) (object : ℕ) : Silent s (s.openFlows object) := by
  unfold openFlows
  dsimp only
  split
  · exact .refl s
  · split
    · exact setTransportFlows_silent id
    · rename_i inboundFlow hopen
      exact setTransportFlows_silent fun h => h.openStream hopen

/-- Only the rate of the session changes. -/
theorem admitStream_spec (s : Server) (key now : ℕ) :
    (s.admitStream config key now).1.gateway = s.gateway ∧
      Silent s (s.admitStream config key now).1 := by
  unfold admitStream
  split
  · exact ⟨rfl, .refl s⟩
  · generalize (if now - (s.rates key).windowStartedAt ≥ 60000 then _ else s.rates key) = rate
    dsimp only
    split
    · exact ⟨rfl, .refl _, rfl, ⟨rfl, rfl, rfl⟩⟩
    · exact ⟨rfl, .refl _, rfl, ⟨rfl, rfl, rfl⟩⟩

/-- The id is new to the map, since every id of the map was issued before. -/
theorem beginGatewayStream_reaches {streamId : ℕ} {request : ReviewerRequest} (h : Accounted s)
    (hregistered : s.gateway.isRegistered key = true)
    (hactive : isActive (s.gateway.heap key) = true) (hnew : streamId ∉ s.streams key)
    (hissued : streamId ≤ (s.gateway.heap key).streamIds.highestIssuedStreamId) :
    Reaches config s (s.beginGatewayStream config key streamId now request) := by
  obtain ⟨state, hstate⟩ := isActive_iff.mp hactive
  unfold beginGatewayStream
  rw [hstate]
  rcases transitionSession_streamOpen config.ctx.sessionPolicy state now with
    ⟨reason, hnext⟩ | ⟨next, hnext, hcount⟩
  · rw [hnext]
    exact .single (disposed_change h.registry (disposes_expired hregistered reason now))
  · rw [hnext]
    dsimp only
    have hmoves : Moves key (.ACTIVE next) s.gateway
        (s.gateway.applySessionTransition key (.ACTIVE next)).1 := moves_lifecycle s.gateway key _
    obtain ⟨hthere, hsame, hkept⟩ := adopt_moves hmoves
    have hafter : Moves key (.ACTIVE next) s.gateway
        (s.applySessionTransition key (.ACTIVE next)).gateway := hthere ▸ hmoves
    refine Relation.ReflTransGen.trans (.single ⟨?_, .opened key streamId s.objectCount state next
      hregistered hstate hnew ?_ hcount ?_ ?_⟩) (openFlows_silent _ _).reaches
    · exact ⟨hkept.admission, hkept.killSwitchEnabled, hkept.upgrades⟩
    · rcases hafter.issued with ⟨reconnecting, hbefore⟩ | hlater
      · rw [hstate] at hbefore
        cases hbefore
      · exact hissued.trans hlater
    · exact hafter
    · dsimp only
      rw [applySessionTransition, hsame]

theorem issue_fresh {ids ids' : GatewayStreamIds} {streamId : ℕ}
    (h : ids.issue = .ok (streamId, ids')) :
    ids.highestIssuedStreamId < streamId ∧ streamId = ids'.highestIssuedStreamId := by
  unfold GatewayStreamIds.issue at h
  split_ifs at h
  cases h
  refine ⟨?_, rfl⟩
  unfold GatewayStreamIds.next
  split_ifs
  · omega
  · omega

theorem openStream_reaches {request : ReviewerRequest} (h : Accounted s) :
    Reaches config s (s.openStream config now request) := by
  unfold openStream
  split
  · exact .refl
  · rename_i key hkey
    dsimp only
    split
    · exact .refl
    · rename_i hopen
      obtain ⟨hgateway, hadmit⟩ := @admitStream_spec config s key now
      generalize s.admitStream config key now = admission at hgateway hadmit
      obtain ⟨after, admitted⟩ := admission
      dsimp only at hgateway hadmit ⊢
      split
      · exact hadmit.reaches
      · split
        · exact hadmit.reaches
        · split
          · exact hadmit.reaches
          · rename_i streamId streamIds hissue
            obtain ⟨hnext, hhighest⟩ := issue_fresh hissue
            rw [hgateway]
            have hnumbered : Quiet s.gateway
                (s.gateway.setSession key { s.gateway.heap key with streamIds }) :=
              quiet_setSession ⟨rfl, rfl, rfl, rfl, rfl, rfl, id, hnext.le.trans hhighest.le⟩
            have hsilent : Silent s { after with
                gateway := s.gateway.setSession key { s.gateway.heap key with streamIds } } :=
              ⟨hnumbered, hadmit.streams, hadmit.unmoved.1, hadmit.unmoved.2, hadmit.unmoved.3⟩
            refine hsilent.reaches.trans (beginGatewayStream_reaches
              (h.quiet hsilent.gateway hsilent.streams) ?_ ?_ ?_ ?_)
            · exact (hnumbered.isRegistered key).trans (h.registry.isRegistered hkey)
            · have hactive : isActive (s.gateway.heap key) = true := by
                simpa using (not_or.mp hopen).1
              rwa [isActive, ← (hnumbered.standing key).lifecycle] at hactive
            · rw [hsilent.streams]
              intro hmem
              exact absurd (h.issued key streamId hmem) (Nat.not_le.mpr hnext)
            · simpa using hhighest.le

/-- What a frame for a stream that is gone can still do is charged to its allowance. -/
theorem WellKept.validateRetiredClientFrame {flow flow' : GatewayInboundFlow} {frame : StreamFrame}
    (h : WellKept flow) (hframe : Endpoint.validateRetiredClientFrame flow frame = .ok flow') :
    WellKept flow' := by
  unfold Endpoint.validateRetiredClientFrame at hframe
  split at hframe
  · rename_i metadata _
    cases metadata with
    | error error => cases hframe
    | ok headers =>
      cases hframe
      exact h
  · split_ifs at hframe
    exact h.consumeRetiredData hframe
  · cases hframe
    exact h
  · rename_i bytes _
    cases bytes with
    | error error => cases hframe
    | ok bytes =>
      cases hframe
      exact h
  · rename_i code _
    cases code with
    | error error => cases hframe
    | ok code =>
      cases hframe
      exact h
  · cases hframe

theorem acceptHttpHeaders_reaches {headers : ResponseHeaders} (h : Accounted s) :
    Reaches config s (s.acceptHttpHeaders config object now headers) := by
  unfold acceptHttpHeaders
  dsimp only
  split
  · exact (setStream_silent s object _).before h resetStream_reaches
  · exact (setStream_silent s object _).reaches

theorem acceptUpgradeHeaders_silent {headers : ResponseHeaders} :
    Silent s (s.acceptUpgradeHeaders object headers) := by
  unfold acceptUpgradeHeaders
  dsimp only
  split
  · exact (setStream_silent s object _).trans (takeCredit_silent _ object _)
  · exact setStream_silent s object _

theorem acceptData_reaches (h : Accounted s) (hdata : s.acceptData config object bytes now = some s') :
    Reaches config s s' := by
  unfold acceptData at hdata
  dsimp only at hdata
  split at hdata
  · cases hdata
  · split at hdata
    · cases hdata
    · rename_i inboundFlow hconsume
      have hreserved := @setTransportFlows_silent s (s.objects object).key
        (s.objects object).transport
        { s.transportFlows (s.objects object).key (s.objects object).transport with inboundFlow }
        fun hkept => hkept.consume hconsume
      generalize (if (s.objects object).stream.kind = .http then
        (s.objects object).stream.responseBytes + bytes else _) = responseBytes at hdata
      split at hdata
      · cases hdata
        exact (hreserved.trans (setStream_silent _ object _)).before h resetStream_reaches
      · cases hdata
        exact (hreserved.trans (setStream_silent _ object _)).reaches

theorem acceptFrame_reaches {body : FrameBody} (h : Accounted s)
    (hframe : s.acceptFrame config object now body = some s') : Reaches config s s' := by
  unfold acceptFrame at hframe
  dsimp only at hframe
  split at hframe
  · split at hframe
    · cases hframe
    · cases hframe
      refine Silent.reaches (setTransportFlows_silent ?_)
      exact id
  · split at hframe
    · cases hframe
    · split at hframe
      · cases hframe
        exact acceptHttpHeaders_reaches h
      · cases hframe
        exact acceptUpgradeHeaders_silent.reaches
  · exact acceptData_reaches h hframe
  · split at hframe
    · cases hframe
    · cases hframe
      exact (setStream_silent s object _).reaches
  · have hcancel := cancel_silent s object
    have hcancelled := h.quiet hcancel.gateway hcancel.streams
    rcases removeGatewayStream_cases hcancelled object now .normal with
      ⟨-, hstale⟩ | ⟨-, removed, hremoved, hchange⟩
    · rw [hstale] at hframe
      cases hframe
      exact (hcancel.trans (closeOutbound_silent _ object)).reaches
    · rw [hremoved] at hframe
      cases hframe
      exact (hcancel.reaches.tail hchange).trans (closeOutbound_silent _ object).reaches
  · cases hframe

theorem handleClientFrame_reaches {frame : StreamFrame} (h : Accounted s)
    (hframe : s.handleClientFrame config key now frame = some s') : Reaches config s s' := by
  unfold handleClientFrame at hframe
  dsimp only at hframe
  split at hframe
  · split at hframe
    · split at hframe
      · cases hframe
      · rename_i inboundFlow hretired
        cases hframe
        have hquiet : Quiet s.gateway
            (s.gateway.setSession key { s.gateway.heap key with inboundFlow }) :=
          quiet_setSession ⟨rfl, rfl, rfl, rfl, rfl, rfl,
            fun hkept => WellKept.validateRetiredClientFrame hkept hretired, le_rfl⟩
        exact .single ⟨⟨rfl, rfl, rfl⟩, .silent hquiet rfl⟩
    · cases hframe
  · split at hframe
    · cases hframe
    · exact acceptFrame_reaches h hframe

theorem requestChunk_reaches (h : Accounted s) :
    Reaches config s (s.requestChunk config object bytes now) := by
  unfold requestChunk
  dsimp only
  split
  · exact .refl
  · split
    · exact (takeCredit_silent s object bytes).reaches
    · have hcounted : Silent s { s with
          objects := Function.update s.objects object { s.objects object with
            requestBytes := (s.objects object).requestBytes + bytes } } :=
        ⟨.refl _, rfl, ⟨rfl, rfl, rfl⟩⟩
      split
      · exact hcounted.before h resetStream_reaches
      · exact (hcounted.trans (takeCredit_silent _ object bytes)).reaches

theorem failBufferedDownstream_reaches (h : Accounted s) :
    Reaches config s (s.failBufferedDownstream config object now) := by
  exact resetStream_unless h

theorem creditSent_reaches (h : Accounted s) :
    Reaches config s (s.creditSent config object bytes now) := by
  unfold creditSent
  dsimp only
  split
  · exact .refl
  · split
    · exact failBufferedDownstream_reaches h
    · rename_i inboundFlow hrelease
      have hreleased := @setTransportFlows_silent s (s.objects object).key
        (s.objects object).transport
        { s.transportFlows (s.objects object).key (s.objects object).transport with inboundFlow }
        fun hkept => hkept.release hrelease
      exact (hreleased.trans (setStream_silent _ object _)).reaches

/-- A continuation of a stream object, wherever it was waiting. -/
theorem runStream_reaches (h : Accounted s) (point : StreamPoint) :
    Reaches config s (s.runStream config object now point) := by
  cases point with
  | openFails => exact resetStream_unless h
  | requestChunk bytes => exact requestChunk_reaches h
  | credit bytes => exact (takeCredit_silent s object bytes).reaches
  | requestEnd =>
    simp only [runStream]
    split
    · exact .refl
    · exact (setStream_silent s object _).reaches
  | endSent =>
    simp only [runStream]
    split
    · exact .refl
    · exact maybeDeleteStream_reaches h
  | requestFails => exact resetStream_unless h
  | expires => exact resetStream_unless h
  | downstreamCloses => exact resetStream_unless h
  | drained =>
    simp only [runStream]
    split
    · split
      · exact (popOperation_silent s object).reaches
      · exact .refl
    · exact .refl
  | credited =>
    simp only [runStream]
    split
    · exact (popOperation_silent s object).before h creditSent_reaches
    · exact .refl
  | endQueued =>
    simp only [runStream]
    have hpopped := popOperation_silent s object
    split
    · split
      · exact hpopped.reaches
      · exact (hpopped.trans (setStream_silent _ object _)).before h maybeDeleteStream_reaches
    · exact .refl
  | downstreamFails => exact (popOperation_silent s object).before h failBufferedDownstream_reaches
  | headFails => exact resetStream_unless h
  | authorizationExpires =>
    simp only [runStream]
    split
    · exact resetStream_reaches h
    · exact .refl
  | authorizationRevoked => exact resetStream_unless h

end Functions

end Server

end Lotur.Gateway
