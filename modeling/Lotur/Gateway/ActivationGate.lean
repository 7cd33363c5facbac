import Lotur.Library.Execution
import Lotur.Gateway.Carrier

/-! The activation gate: what must have happened on a session's current socket before the
session becomes active, read off the log of the gateway. -/
namespace Lotur.Gateway.ActivationGate

open State SessionState

/-- The event is an accepted HELLO of the socket for the session, with everything the gateway
checked: a create finds the tunnel id free, a resume comes within the grace period with the
secret, the owner and the origin of the session it resumes. -/
def Greeted (ctx : Context) (socket key generation : ℕ) : Event → Prop
  | .created socket' key' hello registered _ =>
    socket' = socket ∧ key' = key ∧ generation = 1 ∧ hello.mode = .create ∧ registered = false
  | .resumed socket' key' generation' hello now existing authorization =>
    socket' = socket ∧ key' = key ∧ generation' = generation ∧
      ∃ resumeSecret state, hello.mode = .resume resumeSecret ∧
        existing.lifecycle = .RECONNECTING state ∧
        isResumeAllowed now state.disconnectedAt ctx.sessionPolicy = true ∧
        ctx.digestResumeSecret resumeSecret = existing.resumeDigest ∧
        existing.owner = authorization ∧
        existing.config.snapshot.localOriginFingerprint = hello.localOriginFingerprint ∧
        existing.config.snapshot.originProjection = hello.originProjection
  | _ => False

/-- The CONFIG_APPLIED matches the configuration, and after a create it carries the receipt. -/
def AppliedChecked (greeting : Event) (config : SessionConfigMetadata)
    (applied : ConfigAppliedMetadata) : Prop :=
  applied.revision = config.revision ∧ applied.digest = config.digest ∧
    applied.applied = true ∧ applied.localOriginReady = true ∧
    match greeting with
    | .created _ _ _ _ provisionId => applied.provisionReceipt = some provisionId
    | _ => True

/-- The handshake up to the probe DATA received so far, in the order of its events. -/
def handshake (socket key : ℕ) (greeting : Event) (config : SessionConfigMetadata)
    (applied : ConfigAppliedMetadata) (nonce : List UInt8) (received : List (List UInt8)) :
    List Event :=
  [greeting, .configSent socket key config, .configApplied socket key config applied nonce] ++
    received.map (.probeData socket key)

/-- What the events before it must contain for an event to be legitimate. -/
def Justified (ctx : Context) (before : List Event) : Event → Prop
  | .activated socket key generation current isReady canActivateTunnel =>
    current = ⟨socket, generation⟩ ∧ isReady = true ∧ canActivateTunnel = true ∧
      ∃ greeting config applied nonce received,
        Greeted ctx socket key generation greeting ∧
        config.snapshot.generation = generation ∧ AppliedChecked greeting config applied ∧
        received.flatten = nonce ∧
        (handshake socket key greeting config applied nonce received).Sublist before
  | .application _ key generation => ∃ socket current isReady canActivateTunnel,
      .activated socket key generation current isReady canActivateTunnel ∈ before
  | _ => True

def AllJustified (ctx : Context) (log : List Event) : Prop :=
  ∀ before event after, log = before ++ event :: after → Justified ctx before event

/-- A handshake or probe frame of the session's generation comes from its current socket. -/
def FrameFromCurrent (s : State) (socket : ℕ) : List Message → Option ℕ → Prop
  | ⟨_, some envelope⟩ :: _, some key =>
    envelope.frame ≠ .ping → envelope.frame ≠ .pong →
      (s.carriers socket).receiveFailed = false →
      envelope.generation = (s.heap key).generation → s.isRegistered key = true →
      isActive (s.heap key) = false → (s.heap key).socket = socket
  | _, _ => True

instance (s : State) (socket : ℕ) : (queue : List Message) → (session : Option ℕ) →
    Decidable (FrameFromCurrent s socket queue session)
  | ⟨_, some _⟩ :: _, some _ => inferInstanceAs (Decidable (_ → _))
  | ⟨_, some _⟩ :: _, none => isTrue trivial
  | ⟨_, none⟩ :: _, _ => isTrue trivial
  | [], _ => isTrue trivial

/-- The condition under which the gate holds: while a session is being activated, no frame of
its generation is handled for a socket that is no longer its own. -/
def FromCurrentSocket (s : State) : Label → Prop
  | .run socket _ =>
    FrameFromCurrent s socket (s.carriers socket).receiveQueue (s.carriers socket).session
  | _ => True

instance (s : State) (label : Label) : Decidable (FromCurrentSocket s label) :=
  match label with
  | .run _ _ => inferInstanceAs (Decidable (FrameFromCurrent _ _ _ _))
  | .message _ _ | .controlFrame _ | .sendSettles _ _ | .socketCloses _ | .cleanup _ _
  | .lifecycle _ _ | .terminate _ => isTrue trivial

/-- The session for which a handler still has to send SESSION_PROVISIONED or SESSION_CONFIG. -/
def greetingKey : Option (Await × ℕ) → Option ℕ
  | some (.provisioning key, _) => some key
  | some (.configuring key _ _, _) => some key
  | _ => none

/-- No further frame of the carrier is handled before SESSION_CONFIG has been sent. -/
def Pending (carrier : Carrier) : Prop :=
  carrier.receiveFailed = true ∨ (greetingKey carrier.running).isSome = true

/-- The receipt of a create is still the one in the session. -/
def HoldsReceipt (session : GatewaySession) (carrier : Carrier) : Event → Prop
  | .created _ _ _ _ provisionId => carrier.connectionMode = some .create ∧
      (session.appliedConfig = none → session.provisionId = some provisionId)
  | _ => True

/-- How far the handshake of a session with its current socket has come. -/
structure Handshake (ctx : Context) (log : List Event) (key : ℕ) (session : GatewaySession)
    (carrier : Carrier) (greeting : Event) : Prop where
  greeted : Greeted ctx session.socket key session.generation greeting
  receipt : HoldsReceipt session carrier greeting
  logged : greeting ∈ log
  configured : ¬ Pending carrier →
    [greeting, .configSent session.socket key session.config].Sublist log
  probing : ∀ probe, session.probe = some probe → ∃ applied,
    AppliedChecked greeting session.config applied ∧
      (handshake session.socket key greeting session.config applied probe.expected
        probe.received).Sublist log

/-- What a registered session owes to the log. -/
structure Grounded (ctx : Context) (log : List Event) (key : ℕ) (session : GatewaySession)
    (carrier : Carrier) : Prop where
  closure : carrier.session = some key
  config : session.config.snapshot.generation = session.generation
  creating : session.lifecycle = .CREATING → session.generation = 1
  candidate : ∀ state, session.lifecycle = .RECONNECTING state →
    state.candidateAttemptId.isSome = true → state.candidateGeneration = some session.generation
  active : ∀ state, session.lifecycle = .ACTIVE state → state.generation = session.generation ∧
    ∃ socket current isReady canActivateTunnel,
      .activated socket key session.generation current isReady canActivateTunnel ∈ log
  sending : ∀ other transport config bytes,
    carrier.running = some (.configuring other transport config, bytes) → config = session.config
  handshaken : ∃ greeting, Handshake ctx log key session carrier greeting

structure Inv (ctx : Context) (s : State) : Prop where
  registry : ∀ tunnelId key, s.sessions tunnelId = some key →
    key < s.sessionCount ∧ (s.heap key).tunnelId = tunnelId
  running : ∀ socket key, greetingKey (s.carriers socket).running = some key →
    (s.carriers socket).session = some key
  grounded : ∀ key, s.isRegistered key = true →
    Grounded ctx s.log key (s.heap key) (s.carriers (s.heap key).socket)
  justified : AllJustified ctx s.log

theorem start_inv (ctx : Context) (authorizations : ℕ → Option DeveloperAuthorization) :
    Inv ctx (start authorizations) where
  registry := by simp [start]
  running := by simp [start, Carrier.new, greetingKey]
  grounded := by simp [start, isRegistered]
  justified := by
    intro before event after h
    simp [start] at h

section Keeping

/-- Where a session may go without an activation. -/
def LifecycleKept (before after : SessionState) : Prop :=
  after = before ∨
  (∃ state state', before = .ACTIVE state ∧ after = .ACTIVE state' ∧
    state'.generation = state.generation) ∨
  (after ≠ .CREATING ∧ (∀ state, after ≠ .ACTIVE state) ∧
    ∀ state, after = .RECONNECTING state → state.candidateAttemptId = none)

/-- The session keeps its socket, its configuration and the evidence it has collected. -/
structure Kept (before after : GatewaySession) : Prop where
  socket : after.socket = before.socket
  generation : after.generation = before.generation
  config : after.config = before.config
  receipt : after.appliedConfig = none →
    before.appliedConfig = none ∧ after.provisionId = before.provisionId
  probe : ∀ probe', after.probe = some probe' → ∃ probe, before.probe = some probe ∧
    probe.expected = probe'.expected ∧ probe.received = probe'.received
  lifecycle : LifecycleKept before.lifecycle after.lifecycle

/-- The carrier keeps its closure, and a greeting that was under way stays so or fails. -/
structure Waits (before after : Carrier) : Prop where
  closure : SameClosure before after
  pending : Pending before → Pending after
  running : greetingKey after.running ≠ none → after.running = before.running

structure Keeps (s s' : State) : Prop where
  sessions : ∀ tunnelId key, s'.sessions tunnelId = some key → s.sessions tunnelId = some key
  tunnelId : ∀ key, (s'.heap key).tunnelId = (s.heap key).tunnelId
  sessionCount : s'.sessionCount = s.sessionCount
  log : s'.log = s.log
  heap : ∀ key, Kept (s.heap key) (s'.heap key)
  carriers : ∀ socket, Waits (s.carriers socket) (s'.carriers socket)

theorem LifecycleKept.trans {a b c : SessionState} (hab : LifecycleKept a b)
    (hbc : LifecycleKept b c) : LifecycleKept a c := by
  rcases hbc with rfl | ⟨state, state', rfl, rfl, hgeneration⟩ | hinert
  · exact hab
  · rcases hab with hsame | ⟨first, second, rfl, hsecond, hfirst⟩ | ⟨-, hactive, -⟩
    · exact Or.inr (Or.inl ⟨state, state', hsame.symm, rfl, hgeneration⟩)
    · cases hsecond
      exact Or.inr (Or.inl ⟨first, state', rfl, rfl, hgeneration.trans hfirst⟩)
    · exact absurd rfl (hactive state)
  · exact Or.inr (Or.inr hinert)

theorem Kept.refl (session : GatewaySession) : Kept session session :=
  ⟨rfl, rfl, rfl, fun h => ⟨h, rfl⟩, fun probe h => ⟨probe, h, rfl, rfl⟩, Or.inl rfl⟩

theorem Kept.trans {a b c : GatewaySession} (hab : Kept a b) (hbc : Kept b c) : Kept a c where
  socket := hbc.socket.trans hab.socket
  generation := hbc.generation.trans hab.generation
  config := hbc.config.trans hab.config
  receipt h := by
    obtain ⟨hb, hprovision⟩ := hbc.receipt h
    obtain ⟨ha, hprovision'⟩ := hab.receipt hb
    exact ⟨ha, hprovision.trans hprovision'⟩
  probe probe' h := by
    obtain ⟨middle, hmiddle, hexpected, hreceived⟩ := hbc.probe probe' h
    obtain ⟨probe, hprobe, hexpected', hreceived'⟩ := hab.probe middle hmiddle
    exact ⟨probe, hprobe, hexpected'.trans hexpected, hreceived'.trans hreceived⟩
  lifecycle := hab.lifecycle.trans hbc.lifecycle

theorem Waits.refl (carrier : Carrier) : Waits carrier carrier := ⟨.refl _, id, fun _ => rfl⟩

theorem Waits.trans {a b c : Carrier} (hab : Waits a b) (hbc : Waits b c) : Waits a c where
  closure := hab.closure.trans hbc.closure
  pending h := hbc.pending (hab.pending h)
  running h := by
    have hsame := hbc.running h
    rw [hsame] at h ⊢
    exact hab.running h

theorem Keeps.trans {a b c : State} (hab : Keeps a b) (hbc : Keeps b c) : Keeps a c where
  sessions tunnelId key h := hab.sessions tunnelId key (hbc.sessions tunnelId key h)
  tunnelId key := (hbc.tunnelId key).trans (hab.tunnelId key)
  sessionCount := hbc.sessionCount.trans hab.sessionCount
  log := hbc.log.trans hab.log
  heap key := (hab.heap key).trans (hbc.heap key)
  carriers socket := (hab.carriers socket).trans (hbc.carriers socket)

theorem Keeps.refl (s : State) : Keeps s s :=
  ⟨fun _ _ => id, fun _ => rfl, rfl, rfl, fun _ => .refl _, fun _ => .refl _⟩

variable {ctx : Context} {s s' : State} {socket bytes key : ℕ}

theorem Keeps.isRegistered (h : Keeps s s') (hkey : s'.isRegistered key = true) :
    s.isRegistered key = true := by
  simp only [State.isRegistered, h.tunnelId, decide_eq_true_eq] at hkey ⊢
  exact h.sessions _ _ hkey

theorem Handshake.kept {log : List Event} {session session' : GatewaySession}
    {carrier carrier' : Carrier} {greeting : Event}
    (h : Handshake ctx log key session carrier greeting) (hkept : Kept session session')
    (hwaits : Waits carrier carrier') : Handshake ctx log key session' carrier' greeting where
  greeted := by
    rw [hkept.socket, hkept.generation]
    exact h.greeted
  receipt := by
    have hreceipt := h.receipt
    cases greeting with
    | created =>
      refine ⟨hwaits.closure.connectionMode.trans hreceipt.1, fun happlied => ?_⟩
      obtain ⟨hbefore, hprovision⟩ := hkept.receipt happlied
      exact hprovision.trans (hreceipt.2 hbefore)
    | _ => trivial
  logged := h.logged
  configured hpending := by
    rw [hkept.socket, hkept.config]
    exact h.configured fun hbefore => hpending (hwaits.pending hbefore)
  probing probe' hprobe' := by
    obtain ⟨probe, hprobe, hexpected, hreceived⟩ := hkept.probe probe' hprobe'
    rw [hkept.socket, hkept.config, ← hexpected, ← hreceived]
    exact h.probing probe hprobe

theorem Grounded.kept {log : List Event} {session session' : GatewaySession}
    {carrier carrier' : Carrier} (h : Grounded ctx log key session carrier)
    (hkept : Kept session session') (hwaits : Waits carrier carrier') :
    Grounded ctx log key session' carrier' where
  closure := hwaits.closure.session.trans h.closure
  config := by
    rw [hkept.config, hkept.generation]
    exact h.config
  creating hcreating := by
    rw [hkept.generation]
    rcases hkept.lifecycle with hsame | ⟨_, _, _, hactive, _⟩ | ⟨hnot, _⟩
    · exact h.creating (hsame ▸ hcreating)
    · rw [hactive] at hcreating
      cases hcreating
    · exact absurd hcreating hnot
  candidate state hstate hcandidate := by
    rw [hkept.generation]
    rcases hkept.lifecycle with hsame | ⟨_, _, _, hactive, _⟩ | ⟨_, _, hnone⟩
    · exact h.candidate state (hsame ▸ hstate) hcandidate
    · rw [hactive] at hstate
      cases hstate
    · rw [hnone state hstate] at hcandidate
      cases hcandidate
  active state hstate := by
    rw [hkept.generation]
    rcases hkept.lifecycle with hsame | ⟨before, after, hbefore, hafter, hgeneration⟩ |
      ⟨_, hnot, _⟩
    · exact h.active state (hsame ▸ hstate)
    · obtain ⟨hold, hlogged⟩ := h.active before hbefore
      rw [hafter] at hstate
      cases hstate
      exact ⟨hgeneration.trans hold, hlogged⟩
    · exact absurd hstate (hnot state)
  sending other transport config bytes hrunning := by
    have hgreeting : greetingKey carrier'.running ≠ none := by simp [hrunning, greetingKey]
    rw [hkept.config]
    exact h.sending other transport config bytes (hwaits.running hgreeting ▸ hrunning)
  handshaken := by
    obtain ⟨greeting, hgreeting⟩ := h.handshaken
    exact ⟨greeting, hgreeting.kept hkept hwaits⟩

theorem Inv.keeps (h : Inv ctx s) (hkeeps : Keeps s s') : Inv ctx s' where
  registry tunnelId key hkey := by
    rw [hkeeps.sessionCount, hkeeps.tunnelId key]
    exact h.registry tunnelId key (hkeeps.sessions tunnelId key hkey)
  running socket key hkey := by
    have hwaits := hkeeps.carriers socket
    have hsame := hwaits.running (by simp [hkey])
    rw [hwaits.closure.session]
    exact h.running socket key (hsame ▸ hkey)
  grounded key hkey := by
    rw [(hkeeps.heap key).socket, hkeeps.log]
    exact (h.grounded key (hkeeps.isRegistered hkey)).kept (hkeeps.heap key) (hkeeps.carriers _)
  justified := by
    rw [hkeeps.log]
    exact h.justified

theorem Handshake.grow {log log' : List Event} {session : GatewaySession} {carrier : Carrier}
    {greeting : Event} (h : Handshake ctx log key session carrier greeting)
    (hlog : log.Sublist log') : Handshake ctx log' key session carrier greeting :=
  { h with
    logged := hlog.subset h.logged
    configured := fun hpending => (h.configured hpending).trans hlog
    probing := by
      intro probe hprobe
      obtain ⟨applied, hchecked, hsublist⟩ := h.probing probe hprobe
      exact ⟨applied, hchecked, hsublist.trans hlog⟩ }

theorem Grounded.grow {log log' : List Event} {session : GatewaySession} {carrier : Carrier}
    (h : Grounded ctx log key session carrier) (hlog : log.Sublist log') :
    Grounded ctx log' key session carrier :=
  { h with
    active := by
      intro state hstate
      obtain ⟨hgeneration, socket, current, isReady, canActivate, hlogged⟩ := h.active state hstate
      exact ⟨hgeneration, socket, current, isReady, canActivate, hlog.subset hlogged⟩
    handshaken := by
      obtain ⟨greeting, hgreeting⟩ := h.handshaken
      exact ⟨greeting, hgreeting.grow hlog⟩ }

theorem allJustified_snoc {log : List Event} {event : Event} (h : AllJustified ctx log)
    (hevent : Justified ctx log event) : AllJustified ctx (log ++ [event]) := by
  intro before other after heq
  rcases List.eq_nil_or_concat after with rfl | ⟨init, last, rfl⟩
  · obtain ⟨rfl, hlast⟩ := List.append_inj' heq rfl
    cases hlast
    exact hevent
  · have hsplit : log ++ [event] = (before ++ other :: init) ++ [last] := by simpa using heq
    obtain ⟨hlog, -⟩ := List.append_inj' hsplit rfl
    exact h before other init hlog

theorem Inv.record {event : Event} (h : Inv ctx s) (hevent : Justified ctx s.log event) :
    Inv ctx (s.record event) :=
  { h with
    grounded := fun key hkey => (h.grounded key hkey).grow (List.sublist_append_left _ _)
    justified := allJustified_snoc h.justified hevent }

/-- The handler at the head of the socket's queue does not greet. -/
def Idle (s : State) (socket : ℕ) : Prop := greetingKey (s.carriers socket).running = none

theorem Idle.keeps (h : Idle s socket) (hkeeps : Keeps s s') : Idle s' socket := by
  by_contra hgreeting
  have hsame := (hkeeps.carriers socket).running hgreeting
  exact hgreeting (by rw [Idle, hsame]; exact h)

theorem setCarrier_keeps {carrier : Carrier} (h : Waits (s.carriers socket) carrier) :
    Keeps s (s.setCarrier socket carrier) := by
  refine ⟨fun _ _ => id, fun _ => rfl, rfl, rfl, fun _ => .refl _, fun other => ?_⟩
  by_cases hother : other = socket
  · subst hother
    simpa using h
  · rw [setCarrier_of_ne _ _ _ hother]
    exact .refl _

theorem closeSocket_keeps (s : State) (socket : ℕ) : Keeps s (s.closeSocket socket) :=
  setCarrier_keeps ⟨⟨rfl, rfl, rfl, rfl⟩, id, fun _ => rfl⟩

theorem dequeue_keeps (s : State) (socket : ℕ) (rest : List Message) :
    Keeps s (s.dequeue socket rest) :=
  setCarrier_keeps ⟨⟨rfl, rfl, rfl, rfl⟩, id, fun _ => rfl⟩

theorem finish_keeps (bytes : ℕ) (h : Idle s socket) : Keeps s (s.finish socket bytes) := by
  refine setCarrier_keeps ⟨⟨rfl, rfl, rfl, rfl⟩, ?_, fun hgreeting => absurd rfl hgreeting⟩
  rintro (hfailed | hgreeting)
  · exact Or.inl hfailed
  · rw [h] at hgreeting
    cases hgreeting

theorem fail_keeps (s : State) (socket bytes : ℕ) : Keeps s (s.fail socket bytes) := by
  have hself : (s.setCarrier socket { s.carriers socket with
      receiveFailed := true, isOpen := false }).finish socket bytes =
        s.setCarrier socket { s.carriers socket with
          receiveFailed := true
          isOpen := false
          running := none
          pendingCarrierFrames := (s.carriers socket).pendingCarrierFrames - 1
          pendingCarrierBytes := (s.carriers socket).pendingCarrierBytes - bytes } := by
    simp [State.finish, setCarrier]
  rw [State.fail, hself]
  exact setCarrier_keeps ⟨⟨rfl, rfl, rfl, rfl⟩, fun _ => Or.inl rfl,
    fun hgreeting => absurd rfl hgreeting⟩

theorem await_keeps {point : Await} (bytes : ℕ) (h : Idle s socket)
    (hpoint : greetingKey (some (point, bytes)) = none) :
    Keeps s (s.await socket bytes point) := by
  refine setCarrier_keeps ⟨⟨rfl, rfl, rfl, rfl⟩, ?_, fun hgreeting => absurd hpoint hgreeting⟩
  rintro (hfailed | hgreeting)
  · exact Or.inl hfailed
  · rw [h] at hgreeting
    cases hgreeting

theorem idle_closeSocket (h : Idle s socket) : Idle (s.closeSocket socket) socket := by
  simpa [Idle, closeSocket] using h

theorem rejectCarrier_keeps (bytes : ℕ) (h : Idle s socket) :
    Keeps s (s.rejectCarrier socket bytes) := by
  unfold State.rejectCarrier
  split_ifs
  · exact await_keeps bytes h rfl
  · exact (closeSocket_keeps s socket).trans (finish_keeps bytes (idle_closeSocket h))

theorem drawn_keeps (s : State) (n : ℕ) : Keeps s { s with drawn := s.drawn + n } :=
  ⟨fun _ _ => id, fun _ => rfl, rfl, rfl, fun _ => .refl _, fun _ => .refl _⟩

theorem setSession_keeps {session : GatewaySession}
    (htunnel : session.tunnelId = (s.heap key).tunnelId) (hkept : Kept (s.heap key) session) :
    Keeps s (s.setSession key session) := by
  refine ⟨fun _ _ => id, fun other => ?_, rfl, rfl, fun other => ?_, fun _ => .refl _⟩
  · by_cases hother : other = key
    · subst hother
      simpa using htunnel
    · rw [setSession_of_ne _ _ _ hother]
  · by_cases hother : other = key
    · subst hother
      simpa using hkept
    · rw [setSession_of_ne _ _ _ hother]
      exact .refl _

theorem remove_keeps (s : State) (key : ℕ) : Keeps s (s.remove key) := by
  unfold State.remove
  split_ifs
  · refine ⟨?_, fun _ => rfl, rfl, rfl, fun _ => .refl _, fun _ => .refl _⟩
    intro tunnelId other hother
    by_cases htunnel : tunnelId = (s.heap key).tunnelId
    · simp [htunnel] at hother
    · simpa [htunnel] using hother
  · exact .refl s

theorem disposeActivationCandidate_keeps (s : State) (key : ℕ) :
    Keeps s (s.disposeActivationCandidate key) :=
  setSession_keeps rfl ⟨rfl, rfl, rfl, fun h => ⟨h, rfl⟩, (by intro probe h; cases h), Or.inl rfl⟩

theorem disposeGatewaySession_keeps (s : State) (key : ℕ) :
    Keeps s (s.disposeGatewaySession key) := by
  unfold State.disposeGatewaySession
  split_ifs
  · have hterminal : Keeps s (s.setSession key { s.heap key with terminal := true }) :=
      setSession_keeps rfl ⟨rfl, rfl, rfl, fun h => ⟨h, rfl⟩,
        fun probe h => ⟨probe, h, rfl, rfl⟩, Or.inl rfl⟩
    exact ((hterminal.trans (disposeActivationCandidate_keeps _ key)).trans
      (remove_keeps _ key)).trans (closeSocket_keeps _ _)
  · exact .refl s

theorem applySessionTransition_keeps {next : SessionState}
    (h : LifecycleKept (s.heap key).lifecycle next) :
    Keeps s (s.applySessionTransition key next).1 := by
  have happlied : Keeps s (s.setSession key { s.heap key with lifecycle := next }) :=
    setSession_keeps rfl ⟨rfl, rfl, rfl, fun h => ⟨h, rfl⟩,
      fun probe h => ⟨probe, h, rfl, rfl⟩, h⟩
  cases next with
  | EXPIRED => exact happlied.trans (disposeGatewaySession_keeps _ key)
  | _ => exact happlied

theorem expired_keeps (s : State) (key : ℕ) (reason : CloseReason) (now : ℕ) :
    Keeps s (s.applySessionTransition key (.EXPIRED reason now)).1 :=
  applySessionTransition_keeps (Or.inr (Or.inr ⟨by simp, by simp, by simp⟩))

end Keeping

section Handlers

variable {ctx : Context} {s s' : State} {socket bytes key : ℕ} {moment : Moment}

theorem fail_inv (h : Inv ctx s) : Inv ctx (s.fail socket bytes) := h.keeps (fail_keeps _ _ _)

theorem finish_inv (h : Inv ctx s) (hidle : Idle s socket) : Inv ctx (s.finish socket bytes) :=
  h.keeps (finish_keeps _ hidle)

theorem rejectCarrier_inv (h : Inv ctx s) (hidle : Idle s socket) :
    Inv ctx (s.rejectCarrier socket bytes) :=
  h.keeps (rejectCarrier_keeps _ hidle)

theorem await_inv {point : Await} (h : Inv ctx s) (hidle : Idle s socket)
    (hpoint : greetingKey (some (point, bytes)) = none) :
    Inv ctx (s.await socket bytes point) :=
  h.keeps (await_keeps _ hidle hpoint)

theorem quiet_inv {session : GatewaySession} (h : Inv ctx s)
    (htunnel : session.tunnelId = (s.heap key).tunnelId) (hkept : Kept (s.heap key) session) :
    Inv ctx (s.setSession key session) :=
  h.keeps (setSession_keeps htunnel hkept)

/-- Once a CONFIG_APPLIED is accepted the receipt is no longer needed. -/
theorem kept_of_applied {before after : GatewaySession} {applied : ConfigAppliedMetadata}
    (hsocket : after.socket = before.socket) (hgeneration : after.generation = before.generation)
    (hconfig : after.config = before.config) (happlied : after.appliedConfig = some applied)
    (hlifecycle : after.lifecycle = before.lifecycle)
    (hprobe : after.probe = before.probe ∨ after.probe = none) : Kept before after where
  socket := hsocket
  generation := hgeneration
  config := hconfig
  receipt h := by
    rw [happlied] at h
    cases h
  probe probe' h := by
    rcases hprobe with hprobe | hprobe
    · exact ⟨probe', hprobe ▸ h, rfl, rfl⟩
    · rw [hprobe] at h
      cases h
  lifecycle := Or.inl hlifecycle

/-- The fields a frame of the probe may change. -/
theorem kept_of_probe {before after : GatewaySession}
    (hsame : after = { before with
      probe := after.probe
      outboundFlow := after.outboundFlow
      inboundFlow := after.inboundFlow })
    (hprobe : ∀ probe', after.probe = some probe' → ∃ probe, before.probe = some probe ∧
      probe.expected = probe'.expected ∧ probe.received = probe'.received) :
    Kept before after where
  socket := by rw [hsame]
  generation := by rw [hsame]
  config := by rw [hsame]
  receipt h := by
    rw [hsame] at h ⊢
    exact ⟨h, rfl⟩
  probe := hprobe
  lifecycle := by
    rw [hsame]
    exact Or.inl rfl

/-- A session whose probe changes together with the log. -/
theorem evidence_inv {session : GatewaySession} {event : Event} (h : Inv ctx s)
    (htunnel : session.tunnelId = (s.heap key).tunnelId)
    (hkept : Kept (s.heap key) { session with probe := none })
    (hevent : Justified ctx s.log event)
    (hprobe : ∀ greeting,
      Handshake ctx s.log key (s.heap key) (s.carriers (s.heap key).socket) greeting →
      ∀ probe, session.probe = some probe → ∃ applied,
        AppliedChecked greeting (s.heap key).config applied ∧
        (handshake (s.heap key).socket key greeting (s.heap key).config applied probe.expected
          probe.received).Sublist (s.log ++ [event])) :
    Inv ctx ((s.record event).setSession key session) := by
  have hrecord := h.record hevent
  have hheap {other : ℕ} (hother : other ≠ key) :
      ((s.record event).setSession key session).heap other = s.heap other :=
    setSession_of_ne _ _ _ hother
  have hself : ((s.record event).setSession key session).heap key = session :=
    setSession_self _ _ _
  have htunnels (other : ℕ) :
      (((s.record event).setSession key session).heap other).tunnelId =
        (s.heap other).tunnelId := by
    by_cases hother : other = key
    · rw [hother, hself, htunnel]
    · rw [hheap hother]
  have hregistered {other : ℕ}
      (hother : ((s.record event).setSession key session).isRegistered other = true) :
      s.isRegistered other = true := by
    simp only [isRegistered, htunnels] at hother
    exact hother
  refine ⟨?_, hrecord.running, ?_, hrecord.justified⟩
  · intro tunnelId other hother
    rw [htunnels]
    exact hrecord.registry tunnelId other hother
  · intro other hother
    by_cases hkey : other = key
    · subst hkey
      rw [hself]
      have hbefore := h.grounded other (hregistered hother)
      have hcarrier : s.carriers session.socket = s.carriers (s.heap other).socket := by
        rw [show session.socket = (s.heap other).socket from hkept.socket]
      have hafter := (hbefore.kept hkept (.refl _)).grow (List.sublist_append_left s.log [event])
      obtain ⟨greeting, hgreeting⟩ := hbefore.handshaken
      have hshaken := (hgreeting.kept hkept (.refl _)).grow
        (List.sublist_append_left s.log [event])
      change Grounded ctx (s.log ++ [event]) other session (s.carriers session.socket)
      rw [hcarrier]
      refine { hafter with handshaken := ⟨greeting, { hshaken with probing := ?_ }⟩ }
      intro probe hsome
      obtain ⟨applied, hchecked, hsublist⟩ := hprobe greeting hgreeting probe hsome
      refine ⟨applied, ?_, ?_⟩
      · rw [show session.config = (s.heap other).config from hkept.config]
        exact hchecked
      · rw [show session.socket = (s.heap other).socket from hkept.socket,
          show session.config = (s.heap other).config from hkept.config]
        exact hsublist
    · rw [hheap hkey]
      exact hrecord.grounded other (hregistered hother)

/-- An accepted CONFIG_APPLIED of the current socket adds its evidence with the new probe. -/
theorem openProbe_inv {applied : ConfigAppliedMetadata} (h : Inv ctx s) (hidle : Idle s socket)
    (hpending : ¬ Pending (s.carriers socket)) (hsocket : (s.heap key).socket = socket)
    (happlied : (s.heap key).appliedConfig = none)
    (hrevision : applied.revision = (s.heap key).config.revision)
    (hdigest : applied.digest = (s.heap key).config.digest)
    (hreceipt : (s.carriers socket).connectionMode = some .create →
      applied.provisionReceipt = (s.heap key).provisionId)
    (hready : applied.localOriginReady = true) (hresult : applied.applied = true) :
    Inv ctx (openProbe s socket bytes key moment applied) := by
  have happended {session : GatewaySession} {probe : Probe}
      (htunnel : session.tunnelId = (s.heap key).tunnelId)
      (hkept : Kept (s.heap key) { session with probe := none })
      (hprobe : session.probe = some probe) (hexpected : probe.expected = moment.nonce)
      (hreceived : probe.received = []) :
      Inv ctx ((({ s with drawn := s.drawn + 1 }).record (.configApplied socket key
        (s.heap key).config applied moment.nonce)).setSession key session) := by
    refine evidence_inv (h.keeps (drawn_keeps s 1)) htunnel hkept trivial ?_
    intro greeting hgreeting other hother
    cases hprobe.symm.trans hother
    have hgreeted : Handshake ctx s.log key (s.heap key) (s.carriers socket) greeting :=
      hsocket ▸ hgreeting
    refine ⟨applied, ⟨hrevision, hdigest, hresult, hready, ?_⟩, ?_⟩
    · have hholds := hgreeted.receipt
      cases greeting with
      | created => exact (hreceipt hholds.1).trans (hholds.2 happlied)
      | _ => trivial
    · rw [hexpected, hreceived]
      exact (hgreeted.configured hpending).append (hsocket ▸ List.Sublist.refl _)
  unfold openProbe
  dsimp only
  split
  · refine finish_inv ?_ hidle
    exact quiet_inv h rfl (kept_of_applied rfl rfl rfl rfl rfl (Or.inl rfl))
  · split
    · apply fail_inv
      exact quiet_inv h rfl (kept_of_applied rfl rfl rfl rfl rfl (Or.inl rfl))
    · split
      · apply fail_inv
        exact happended rfl (kept_of_applied rfl rfl rfl rfl rfl (Or.inr rfl)) rfl rfl rfl
      · split
        · apply fail_inv
          exact happended rfl (kept_of_applied rfl rfl rfl rfl rfl (Or.inr rfl)) rfl rfl rfl
        · refine await_inv ?_ hidle rfl
          exact happended rfl (kept_of_applied rfl rfl rfl rfl rfl (Or.inr rfl)) rfl rfl rfl

theorem handleConfigApplied_inv {applied : ConfigAppliedMetadata} (h : Inv ctx s)
    (hidle : Idle s socket) (hpending : ¬ Pending (s.carriers socket))
    (hsocket : (s.heap key).socket = socket) :
    Inv ctx (handleConfigApplied s socket bytes key moment applied) := by
  have hreject : Inv ctx (s.rejectCarrier socket bytes) := rejectCarrier_inv h hidle
  unfold handleConfigApplied
  dsimp only
  split
  · split_ifs
    · exact finish_inv h hidle
    · exact hreject
  · rename_i happlied
    split_ifs with hconfig hreceipt hready hresult
    · exact hreject
    · exact hreject
    · exact hreject
    · exact hreject
    · simp only [not_or, not_not] at hconfig
      refine openProbe_inv h hidle hpending hsocket happlied hconfig.1 hconfig.2 ?_
        (by simpa using hready) (by simpa using hresult)
      intro hmode
      by_contra hne
      exact hreceipt ⟨hmode, hne⟩

theorem handleProbeData_inv {probe : Probe} {payload : List UInt8} (h : Inv ctx s)
    (hidle : Idle s socket) (hsocket : (s.heap key).socket = socket)
    (hprobe : (s.heap key).probe = some probe) :
    Inv ctx (handleProbeData s socket bytes key probe payload) := by
  unfold handleProbeData
  dsimp only
  split
  · exact fail_inv h
  · split_ifs
    · apply fail_inv
      refine quiet_inv h rfl (kept_of_probe rfl ?_)
      rintro probe' ⟨⟩
      exact ⟨probe, hprobe, rfl, rfl⟩
    · refine await_inv ?_ hidle rfl
      change Inv ctx ((s.record (.probeData socket key payload)).setSession key _)
      refine evidence_inv h rfl (kept_of_probe rfl ?_) trivial ?_
      · rintro probe' ⟨⟩
      · rintro greeting hgreeting probe' ⟨⟩
        obtain ⟨applied, hchecked, hsublist⟩ := hgreeting.probing probe hprobe
        refine ⟨applied, hchecked, ?_⟩
        -- The evidence so far, followed by the chunk that was just logged.
        rw [hsocket] at hsublist ⊢
        simp only [handshake, List.map_append, ← List.append_assoc] at hsublist ⊢
        exact hsublist.append (List.Sublist.refl _)

/-- A session becomes active when its activation is in the log. -/
theorem activeSession_inv {state : ActiveState} (h : Inv ctx s)
    (hgeneration : state.generation = (s.heap key).generation)
    (hlogged : ∃ socket current isReady canActivate,
      .activated socket key (s.heap key).generation current isReady canActivate ∈ s.log) :
    Inv ctx (s.setSession key { s.heap key with lifecycle := .ACTIVE state }) := by
  have htunnels (other : ℕ) : ((s.setSession key { s.heap key with
      lifecycle := .ACTIVE state }).heap other).tunnelId = (s.heap other).tunnelId := by
    by_cases hother : other = key
    · subst hother
      simp
    · rw [setSession_of_ne _ _ _ hother]
  refine ⟨?_, h.running, ?_, h.justified⟩
  · intro tunnelId other hother
    rw [htunnels]
    exact h.registry tunnelId other hother
  · intro other hother
    have hregistered : s.isRegistered other = true := by
      simp only [isRegistered, htunnels] at hother
      exact hother
    have hbefore := h.grounded other hregistered
    by_cases hkey : other = key
    · subst hkey
      rw [setSession_self]
      obtain ⟨greeting, hgreeting⟩ := hbefore.handshaken
      refine ⟨hbefore.closure, hbefore.config, ?_, ?_, ?_, hbefore.sending, greeting,
        ⟨hgreeting.greeted, ?_, hgreeting.logged, hgreeting.configured, hgreeting.probing⟩⟩
      · rintro ⟨⟩
      · rintro _ ⟨⟩
      · rintro _ ⟨⟩
        exact ⟨hgeneration, hlogged⟩
      · have hreceipt := hgreeting.receipt
        cases greeting with
        | created => exact hreceipt
        | _ => trivial
    · rw [setSession_of_ne _ _ _ hkey]
      exact hbefore

theorem committed_inv {state : ActiveState} {canActivate : Bool} (h : Inv ctx s)
    (hidle : Idle s socket) (hgeneration : state.generation = (s.heap key).generation)
    (hjustified : Justified ctx s.log (.activated socket key (s.heap key).generation
      (s.captureGatewayTransport key) moment.isReady canActivate)) :
    Inv ctx (if state.generation ≠ (s.heap key).generation then
      ((s.setSession key { s.heap key with lifecycle := .ACTIVE state }).record (.activated socket
        key state.generation (s.captureGatewayTransport key) moment.isReady canActivate)).fail
          socket bytes
      else ((s.setSession key { s.heap key with lifecycle := .ACTIVE state }).record (.activated
        socket key state.generation (s.captureGatewayTransport key) moment.isReady
          canActivate)).await socket bytes .activating) := by
  rw [if_neg (not_not.mpr hgeneration), hgeneration]
  refine await_inv ?_ hidle rfl
  have hrecord := h.record hjustified
  exact activeSession_inv hrecord hgeneration
    ⟨socket, _, _, _, List.mem_append_right _ (List.mem_singleton.mpr rfl)⟩

theorem activate_inv {canActivate : Bool} (h : Inv ctx s) (hidle : Idle s socket)
    (hregistered : s.isRegistered key = true)
    (hjustified : Justified ctx s.log (.activated socket key (s.heap key).generation
      (s.captureGatewayTransport key) moment.isReady canActivate)) :
    Inv ctx (activate ctx s socket bytes key moment canActivate) := by
  have hgrounded := h.grounded key hregistered
  unfold activate
  dsimp only
  split
  · rename_i hcreating
    rw [hcreating]
    exact committed_inv h hidle (hgrounded.creating hcreating).symm hjustified
  · split
    · exact fail_inv h
    · rename_i attemptId hattempt
      cases htransition : (s.heap key).lifecycle.transitionSession ctx.sessionPolicy
          (.RESUME_COMMITTED moment.now attemptId) with
      | error error => exact fail_inv h
      | ok next =>
        rcases transitionSession_resumeCommitted htransition with
          ⟨reason, rfl⟩ | ⟨state, hstate, hcandidate, rfl⟩
        · have hkeeps := expired_keeps s key reason moment.now
          exact finish_inv (h.keeps hkeeps) (hidle.keeps hkeeps)
        · have hgeneration := hgrounded.candidate state hstate (by simp [hcandidate])
          exact committed_inv h hidle (by simp [hgeneration]) hjustified

/-- The probe came back complete on the current socket: the activation is justified. -/
theorem handleProbeEnd_inv {probe : Probe} (h : Inv ctx s) (hidle : Idle s socket)
    (hregistered : s.isRegistered key = true) (hsocket : (s.heap key).socket = socket)
    (hprobe : (s.heap key).probe = some probe) :
    Inv ctx (handleProbeEnd ctx s socket bytes key moment probe) := by
  have hended : Keeps s (s.setSession key
      { s.heap key with probe := some { probe with clientEnded := true } }) := by
    refine setSession_keeps rfl (kept_of_probe rfl ?_)
    rintro probe' ⟨⟩
    exact ⟨probe, hprobe, rfl, rfl⟩
  have hreject : Inv ctx ((s.setSession key { s.heap key with
      probe := some { probe with clientEnded := true } }).rejectCarrier socket bytes) :=
    rejectCarrier_inv (h.keeps hended) (hidle.keeps hended)
  unfold handleProbeEnd
  dsimp only
  split_ifs with hduplicate hecho hready hcapacity
  · exact fail_inv h
  · exact hreject
  · exact hreject
  · exact hreject
  · split
    · apply fail_inv
      refine quiet_inv (h.keeps hended) (by simp) ?_
      rw [setSession_self]
      refine kept_of_probe rfl ?_
      rintro probe' ⟨⟩
      exact ⟨_, rfl, rfl, rfl⟩
    · rename_i inboundFlow _
      have hclosed : Keeps s ((s.setSession key { s.heap key with
          probe := some { probe with clientEnded := true } }).setSession key { s.heap key with
            outboundFlow := ((s.heap key).outboundFlow.closeStream probe.streamId).1
            inboundFlow := inboundFlow
            probe := none }) := by
        refine hended.trans (setSession_keeps (by simp) ?_)
        rw [setSession_self]
        refine kept_of_probe rfl ?_
        rintro probe' ⟨⟩
      refine activate_inv (h.keeps hclosed) (hidle.keeps hclosed) ?_ ?_
      · simpa [isRegistered, setSession] using hregistered
      · obtain ⟨greeting, hgreeting⟩ := (h.grounded key hregistered).handshaken
        obtain ⟨applied, hchecked, hsublist⟩ := hgreeting.probing probe hprobe
        have hgreeted := hgreeting.greeted
        rw [hsocket] at hgreeted hsublist
        refine ⟨?_, by simpa using hready, by simpa using hcapacity, greeting,
          (s.heap key).config, applied, probe.expected, probe.received, ?_, ?_, hchecked,
          not_not.mp hecho, hsublist⟩
        · simp [captureGatewayTransport, hsocket]
        · simpa using hgreeted
        · simpa using (h.grounded key hregistered).config

theorem handleProbeFrame_inv {frame : Frame} (h : Inv ctx s) (hidle : Idle s socket)
    (hregistered : s.isRegistered key = true) (hsocket : (s.heap key).socket = socket) :
    Inv ctx (handleProbeFrame ctx s socket bytes key moment frame) := by
  have hfail : Inv ctx (s.fail socket bytes) := fail_inv h
  unfold handleProbeFrame
  split
  · exact hfail
  · rename_i probe hprobe
    split
    · split_ifs
      · exact hfail
      · split
        · exact hfail
        · refine finish_inv ?_ hidle
          refine quiet_inv h rfl (kept_of_probe rfl ?_)
          exact fun probe' hprobe' => ⟨probe', hprobe', rfl, rfl⟩
    · split_ifs
      · exact hfail
      · exact handleProbeData_inv h hidle hsocket hprobe
    · split_ifs
      · exact hfail
      · exact handleProbeEnd_inv h hidle hregistered hsocket hprobe
    · exact hfail

theorem handleActive_inv {frame : Frame} (h : Inv ctx s) (hidle : Idle s socket)
    (hregistered : s.isRegistered key = true) (hactive : isActive (s.heap key) = true) :
    Inv ctx (handleActive s socket bytes key frame) := by
  unfold handleActive
  split
  · have hstopped : Keeps s ((s.setCarrier socket { s.carriers socket with
        receiveFailed := true }).disposeGatewaySession key) := by
      refine Keeps.trans (setCarrier_keeps ?_) (disposeGatewaySession_keeps _ key)
      exact ⟨⟨rfl, rfl, rfl, rfl⟩, fun _ => Or.inl rfl, fun _ => rfl⟩
    exact finish_inv (h.keeps hstopped) (hidle.keeps hstopped)
  · exact fail_inv h
  · split_ifs
    · exact finish_inv h hidle
    · exact rejectCarrier_inv h hidle
  · refine await_inv (h.record ?_) hidle rfl
    cases hstate : (s.heap key).lifecycle with
    | ACTIVE state => exact ((h.grounded key hregistered).active state hstate).2
    | _ => simp [isActive, hstate] at hactive

theorem handleFrame_inv {envelope : Envelope} (h : Inv ctx s) (hidle : Idle s socket)
    (hpending : ¬ Pending (s.carriers socket))
    (hguard : envelope.frame ≠ .ping → envelope.frame ≠ .pong →
      envelope.generation = (s.heap key).generation → s.isRegistered key = true →
      isActive (s.heap key) = false → (s.heap key).socket = socket) :
    Inv ctx (handleFrame ctx s socket bytes key moment envelope) := by
  unfold handleFrame
  dsimp only
  split
  · exact fail_inv h
  · rename_i hgeneration
    split
    · exact finish_inv h hidle
    · rename_i hlive
      simp only [not_or, Bool.not_eq_true, Bool.not_eq_true', Bool.not_eq_false] at hlive
      split
      · exact finish_inv h hidle
      · exact await_inv h hidle rfl
      · rename_i hpong hping
        split
        · rename_i hactive
          exact handleActive_inv h hidle hlive.2 hactive
        · rename_i hinactive
          have hsocket := hguard hping hpong (not_not.mp hgeneration) hlive.2
            (by simpa using hinactive)
          split
          · exact fail_inv h
          · exact handleConfigApplied_inv h hidle hpending hsocket
          · exact handleProbeFrame_inv h hidle hlive.2 hsocket

/-- A socket without a session takes one over with its greeting. -/
theorem greeting_inv {f : State} {carrier : Carrier} {session : GatewaySession}
    {greeting : Event} (h : Inv ctx s) (hsession : (s.carriers socket).session = none)
    (hcarriers : f.carriers = Function.update s.carriers socket carrier)
    (hheap : f.heap = Function.update s.heap key session)
    (hlog : f.log = s.log ++ [greeting]) (hcount : s.sessionCount ≤ f.sessionCount)
    (hkey : key < f.sessionCount) (hsessions : ∀ tunnelId other, f.sessions tunnelId = some other →
      (other = key ∧ session.tunnelId = tunnelId) ∨
        (other ≠ key ∧ s.sessions tunnelId = some other))
    (hsocket : session.socket = socket) (hrunning : greetingKey carrier.running = some key)
    (hgrounded : Grounded ctx f.log key session carrier)
    (hgreeting : Justified ctx s.log greeting) : Inv ctx f := by
  refine ⟨?_, ?_, ?_, ?_⟩
  · intro tunnelId other hother
    rcases hsessions tunnelId other hother with ⟨rfl, htunnel⟩ | ⟨hne, hbefore⟩
    · exact ⟨hkey, by simpa [hheap] using htunnel⟩
    · obtain ⟨hlt, htunnel⟩ := h.registry tunnelId other hbefore
      exact ⟨hlt.trans_le hcount, by simpa [hheap, hne] using htunnel⟩
  · intro other key' hother
    rw [hcarriers] at hother ⊢
    by_cases hsame : other = socket
    · subst hsame
      simp only [Function.update_self] at hother ⊢
      rw [hgrounded.closure, ← hrunning, hother]
    · rw [Function.update_of_ne hsame] at hother ⊢
      exact h.running other key' hother
  · intro other hother
    simp only [isRegistered, decide_eq_true_eq] at hother
    rcases hsessions _ other hother with ⟨rfl, -⟩ | ⟨hne, hbefore⟩
    · simpa [hheap, hcarriers, hsocket] using hgrounded
    · rw [hheap, Function.update_of_ne hne] at hbefore ⊢
      have hold := h.grounded other (by simpa [isRegistered] using hbefore)
      have hother : (s.heap other).socket ≠ socket := by
        intro heq
        have hclosure := hold.closure
        rw [heq, hsession] at hclosure
        cases hclosure
      rw [hcarriers, Function.update_of_ne hother, hlog]
      exact hold.grow (List.sublist_append_left _ _)
  · rw [hlog]
    exact allJustified_snoc h.justified hgreeting

theorem createSession_inv {hello : HelloMetadata} (h : Inv ctx s)
    (hsession : (s.carriers socket).session = none) (hmode : hello.mode = .create)
    (hfree : (s.sessions hello.tunnelId).isSome = false) :
    Inv ctx (createSession ctx s socket bytes hello) := by
  have hcarriers : (createSession ctx s socket bytes hello).carriers =
      Function.update s.carriers socket { s.carriers socket with
        session := some s.sessionCount
        connectionMode := some hello.mode
        running := some (.provisioning s.sessionCount, bytes) } := by
    simp [createSession, State.await, State.record, setCarrier]
  refine greeting_inv h hsession hcarriers rfl rfl (Nat.le_succ _) (Nat.lt_succ_self _) ?_ rfl rfl
    ?_ trivial
  · intro tunnelId other hother
    change Function.update s.sessions hello.tunnelId (some s.sessionCount) tunnelId =
      some other at hother
    by_cases htunnel : tunnelId = hello.tunnelId
    · subst htunnel
      rw [Function.update_self] at hother
      exact Or.inl ⟨(Option.some.inj hother).symm, rfl⟩
    · rw [Function.update_of_ne htunnel] at hother
      exact Or.inr ⟨(h.registry tunnelId other hother).1.ne, hother⟩
  · refine ⟨rfl, rfl, fun _ => rfl, ?_, ?_, ?_,
      .created socket s.sessionCount hello (s.sessions hello.tunnelId).isSome (s.drawn + 1),
      ⟨⟨rfl, rfl, rfl, hmode, hfree⟩, ?_, ?_, ?_, ?_⟩⟩
    · rintro state ⟨⟩
    · rintro state ⟨⟩
    · rintro other transport config bytes ⟨⟩
    · exact ⟨by rw [hmode], fun _ => rfl⟩
    · exact List.mem_append_right _ (List.mem_singleton.mpr rfl)
    · exact fun hpending => absurd (Or.inr rfl) hpending
    · rintro probe ⟨⟩

theorem resumeOwnerAuthorizationMatches_iff {existing candidate : Option Owner} :
    resumeOwnerAuthorizationMatches existing candidate = true ↔ existing = candidate := by
  cases existing with
  | none =>
    cases candidate with
    | none => simp [resumeOwnerAuthorizationMatches]
    | some candidate => simp [resumeOwnerAuthorizationMatches]
  | some existing =>
    cases candidate with
    | none => simp [resumeOwnerAuthorizationMatches]
    | some candidate =>
      cases existing
      cases candidate
      simp [resumeOwnerAuthorizationMatches]

theorem resumeSession_inv {hello : HelloMetadata} {resumeSecret : Token}
    {next : ReconnectingState} {generation : ℕ} (h : Inv ctx s)
    (hsession : (s.carriers socket).session = none)
    (hkey : s.sessions hello.tunnelId = some key) (hmode : hello.mode = .resume resumeSecret)
    (hadmitted : resumeAdmitted ctx s (s.carriers socket) key moment.now hello resumeSecret = true)
    (hgeneration : next.candidateGeneration = some generation) :
    Inv ctx (resumeSession ctx (({ s with drawn := s.drawn + 1 }).setSession key
      { s.heap key with lifecycle := .RECONNECTING next }) socket bytes key s.drawn generation
        moment.now hello (s.heap key)) := by
  have hcarriers : (resumeSession ctx (({ s with drawn := s.drawn + 1 }).setSession key
      { s.heap key with lifecycle := .RECONNECTING next }) socket bytes key s.drawn generation
        moment.now hello (s.heap key)).carriers =
      Function.update s.carriers socket { s.carriers socket with
        session := some key
        connectionMode := some hello.mode
        resumeAttemptId := some s.drawn
        running := some (.configuring key ⟨socket, generation⟩
          (resumedSession ctx (s.heap key) socket generation hello).config, bytes) } := by
    simp [resumeSession, resumedSession, State.await, State.record, setCarrier, setSession,
      disposeActivationCandidate]
  have hheap : (resumeSession ctx (({ s with drawn := s.drawn + 1 }).setSession key
      { s.heap key with lifecycle := .RECONNECTING next }) socket bytes key s.drawn generation
        moment.now hello (s.heap key)).heap =
      Function.update s.heap key { resumedSession ctx (s.heap key) socket generation hello with
        lifecycle := .RECONNECTING next
        probe := none } := by
    simp [resumeSession, resumedSession, State.await, State.record, setCarrier, setSession,
      disposeActivationCandidate]
  obtain ⟨hlt, htunnel⟩ := h.registry _ _ hkey
  simp only [resumeAdmitted, Bool.and_eq_true, decide_eq_true_eq] at hadmitted
  obtain ⟨⟨⟨⟨⟨-, hgrace⟩, hsecret⟩, howner⟩, hfingerprint⟩, hprojection⟩ := hadmitted
  refine greeting_inv h hsession hcarriers hheap rfl (Nat.le_refl _) hlt ?_ rfl rfl ?_ trivial
  · intro tunnelId other hother
    by_cases hsame : other = key
    · exact Or.inl ⟨hsame, hsame ▸ (h.registry tunnelId other hother).2⟩
    · exact Or.inr ⟨hsame, hother⟩
  · refine ⟨rfl, rfl, ?_, ?_, ?_, ?_, .resumed socket key generation hello moment.now (s.heap key)
      ((s.carriers socket).developerAuthorization.map DeveloperAuthorization.owner),
      ⟨⟨rfl, rfl, rfl, resumeSecret, ?_⟩, trivial, ?_, ?_, ?_⟩⟩
    · rintro ⟨⟩
    · rintro state ⟨⟩ -
      exact hgeneration
    · rintro state ⟨⟩
    · rintro other transport config bytes ⟨⟩
      rfl
    · cases hstate : (s.heap key).lifecycle with
      | RECONNECTING state =>
        rw [hstate] at hgrace
        exact ⟨state, hmode, rfl, hgrace, hsecret, resumeOwnerAuthorizationMatches_iff.mp howner,
          hfingerprint, hprojection⟩
      | _ => simp [hstate] at hgrace
    · exact List.mem_append_right _ (List.mem_singleton.mpr rfl)
    · exact fun hpending => absurd (Or.inr rfl) hpending
    · rintro probe ⟨⟩

theorem handleResume_inv {hello : HelloMetadata} {resumeSecret : Token} (h : Inv ctx s)
    (hidle : Idle s socket) (hsession : (s.carriers socket).session = none)
    (hmode : hello.mode = .resume resumeSecret) :
    Inv ctx (handleResume ctx s socket bytes moment hello resumeSecret) := by
  unfold handleResume
  cases hkey : s.sessions hello.tunnelId with
  | none => exact rejectCarrier_inv h hidle
  | some key =>
    dsimp only
    split_ifs with hadmitted
    · exact rejectCarrier_inv h hidle
    · have hdrawn := h.keeps (drawn_keeps s 1)
      cases htransition : (s.heap key).lifecycle.transitionSession ctx.sessionPolicy
          (.START_RESUME moment.now s.drawn) with
      | error error =>
        cases error with
        | RESUME_IN_PROGRESS => exact rejectCarrier_inv hdrawn hidle
        | _ => exact fail_inv hdrawn
      | ok next =>
        rcases transitionSession_startResume htransition with
          ⟨reason, rfl⟩ | ⟨state, -, -, rfl⟩
        · have hkeeps := (drawn_keeps s 1).trans (expired_keeps _ key reason moment.now)
          exact rejectCarrier_inv (h.keeps hkeeps) (hidle.keeps hkeeps)
        · exact resumeSession_inv h hsession hkey hmode (by simpa using hadmitted) rfl

theorem handleHello_inv {envelope : Envelope} (h : Inv ctx s) (hidle : Idle s socket)
    (hsession : (s.carriers socket).session = none) :
    Inv ctx (handleHello ctx s socket bytes moment envelope) := by
  unfold handleHello
  split
  · rename_i hello _ _
    by_cases hauthorized :
        (ctx.requireAuthorization && !authorizationMatches (s.carriers socket) hello) = true
    · rw [if_pos hauthorized]
      have hclosed := closeSocket_keeps s socket
      exact finish_inv (h.keeps hclosed) (hidle.keeps hclosed)
    · rw [if_neg hauthorized]
      split
      · rename_i hmode
        split_ifs with hregistered
        · exact rejectCarrier_inv h hidle
        · exact rejectCarrier_inv h hidle
        · exact createSession_inv h hsession hmode (by simpa using hregistered)
      · rename_i resumeSecret hmode
        exact handleResume_inv h hidle hsession hmode
  · exact fail_inv h

theorem runHandler_inv {message : Message} (h : Inv ctx s)
    (hrunning : (s.carriers socket).running = none)
    (hguard : FrameFromCurrent s socket [message] (s.carriers socket).session) :
    Inv ctx (runHandler ctx s socket message moment) := by
  have hidle : Idle s socket := by rw [Idle, hrunning]; rfl
  unfold runHandler
  dsimp only
  split
  · exact finish_inv h hidle
  · rename_i hreceive
    rw [Bool.not_eq_true] at hreceive
    have hpending : ¬ Pending (s.carriers socket) := by
      simp [Pending, hreceive, hrunning, greetingKey]
    split
    · exact fail_inv h
    · rename_i envelope henvelope
      split
      · rename_i hsession
        exact handleHello_inv h hidle hsession
      · rename_i key hsession
        obtain ⟨byteLength, _⟩ := message
        cases henvelope
        rw [hsession] at hguard
        exact handleFrame_inv h hidle hpending fun hping hpong =>
          hguard hping hpong hreceive

/-- A carrier may change if the session it holds stays grounded. -/
theorem carrier_inv {carrier : Carrier} (h : Inv ctx s)
    (hrunning : ∀ key, greetingKey carrier.running = some key → carrier.session = some key)
    (hgrounded : ∀ key, s.isRegistered key = true → (s.heap key).socket = socket →
      Grounded ctx s.log key (s.heap key) carrier) : Inv ctx (s.setCarrier socket carrier) := by
  refine ⟨h.registry, ?_, ?_, h.justified⟩
  · intro other key hkey
    by_cases hother : other = socket
    · subst hother
      rw [setCarrier_self] at hkey ⊢
      exact hrunning key hkey
    · rw [setCarrier_of_ne _ _ _ hother] at hkey ⊢
      exact h.running other key hkey
  · intro key hkey
    by_cases hsocket : (s.heap key).socket = socket
    · rw [setCarrier_heap, hsocket, setCarrier_self]
      exact hgrounded key hkey hsocket
    · rw [setCarrier_heap, setCarrier_of_ne _ _ _ hsocket]
      exact h.grounded key hkey

/-- The session that a greeting socket holds is the one it greets for. -/
theorem Inv.greeting_held {other : ℕ} (h : Inv ctx s)
    (hgreeting : greetingKey (s.carriers socket).running = some key)
    (hother : s.isRegistered other = true) (hsocket : (s.heap other).socket = socket) :
    other = key := by
  have hclosure := (h.grounded other hother).closure
  rw [hsocket, h.running socket key hgreeting] at hclosure
  exact (Option.some.inj hclosure).symm

theorem provisioned_inv (h : Inv ctx s)
    (hrunning : (s.carriers socket).running = some (.provisioning key, bytes)) :
    Inv ctx (resumeHandler s socket bytes (.provisioning key)) := by
  have hgreeting : greetingKey (s.carriers socket).running = some key := by
    simp [hrunning, greetingKey]
  simp only [resumeHandler]
  split_ifs with hgone
  · -- The session is gone or has moved on, so nothing is owed for this socket.
    refine carrier_inv h (by simp [greetingKey]) fun other hother hsocket => ?_
    cases h.greeting_held hgreeting hother hsocket
    rcases hgone with hgone | hgone
    · simp [hother] at hgone
    · exact absurd hsocket hgone
  · refine carrier_inv h ?_ fun other hother hsocket => ?_
    · rintro other ⟨⟩
      exact h.running socket key hgreeting
    · cases h.greeting_held hgreeting hother hsocket
      have hbefore := h.grounded key hother
      rw [hsocket] at hbefore
      obtain ⟨greeting, hshaken⟩ := hbefore.handshaken
      refine { hbefore with sending := ?_, handshaken := ⟨greeting, { hshaken with
        receipt := ?_, configured := ?_ }⟩ }
      · rintro other transport config bytes ⟨⟩
        rfl
      · have hreceipt := hshaken.receipt
        cases greeting with
        | created => exact hreceipt
        | _ => trivial
      · exact fun hpending => absurd (Or.inr rfl) hpending

theorem configured_inv {transport : GatewayTransportEpoch} {config : SessionConfigMetadata}
    (h : Inv ctx s)
    (hrunning : (s.carriers socket).running = some (.configuring key transport config, bytes)) :
    Inv ctx (resumeHandler s socket bytes (.configuring key transport config)) := by
  have hgreeting : greetingKey (s.carriers socket).running = some key := by
    simp [hrunning, greetingKey]
  have hrecord : Inv ctx (s.record (.configSent socket key config)) := h.record trivial
  refine carrier_inv hrecord (by simp [greetingKey]) fun other hother hsocket => ?_
  cases h.greeting_held hgreeting hother hsocket
  have hbefore := h.grounded key hother
  have hafter := hrecord.grounded key hother
  change (s.heap key).socket = socket at hsocket
  change Grounded ctx (s.log ++ [.configSent socket key config]) key (s.heap key)
    (s.carriers (s.heap key).socket) at hafter
  rw [hsocket] at hbefore hafter
  obtain ⟨greeting, hshaken⟩ := hbefore.handshaken
  have hgrown := hshaken.grow (List.sublist_append_left s.log [.configSent socket key config])
  refine { hafter with sending := ?_, handshaken := ⟨greeting, { hgrown with
    receipt := ?_, configured := ?_ }⟩ }
  · rintro other transport config bytes ⟨⟩
  · have hreceipt := hshaken.receipt
    cases greeting with
    | created => exact hreceipt
    | _ => trivial
  · intro _
    have hconfig := hbefore.sending key transport config bytes hrunning
    change [greeting, .configSent (s.heap key).socket key (s.heap key).config].Sublist
      (s.log ++ [.configSent socket key config])
    rw [← hconfig, hsocket]
    exact (List.singleton_sublist.mpr hshaken.logged).append (List.Sublist.refl _)

theorem resumeHandler_inv {point : Await} (h : Inv ctx s)
    (hrunning : (s.carriers socket).running = some (point, bytes)) :
    Inv ctx (resumeHandler s socket bytes point) := by
  cases point with
  | provisioning key => exact provisioned_inv h hrunning
  | configuring key transport config => exact configured_inv h hrunning
  | rejecting =>
    have hidle : Idle s socket := by rw [Idle, hrunning]; rfl
    have hclosed := closeSocket_keeps s socket
    exact finish_inv (h.keeps hclosed) (hidle.keeps hclosed)
  | probeOpening key transport probe =>
    have hidle : Idle s socket := by rw [Idle, hrunning]; rfl
    simp only [resumeHandler]
    split_ifs
    · exact finish_inv h hidle
    · split
      · exact fail_inv h
      · refine await_inv ?_ hidle rfl
        exact quiet_inv h rfl (kept_of_probe rfl fun probe' hprobe' => ⟨probe', hprobe', rfl, rfl⟩)
  | probeSending key transport probe =>
    have hidle : Idle s socket := by rw [Idle, hrunning]; rfl
    simp only [resumeHandler]
    split_ifs
    · exact finish_inv h hidle
    · exact await_inv h hidle rfl
  | probeCrediting key transport probeId streamId credit =>
    have hidle : Idle s socket := by rw [Idle, hrunning]; rfl
    simp only [resumeHandler]
    split_ifs
    · exact finish_inv h hidle
    · split
      · exact fail_inv h
      · refine finish_inv ?_ hidle
        exact quiet_inv h rfl (kept_of_probe rfl fun probe' hprobe' => ⟨probe', hprobe', rfl, rfl⟩)
  | ponging | probeEnding | activating | application =>
    have hidle : Idle s socket := by rw [Idle, hrunning]; rfl
    exact finish_inv h hidle

/-- Lost carriers, failed resumes, streams and timers never activate a session. -/
theorem lifecycleKept_of_ok {policy : SessionPolicy} {state next : SessionState}
    {event : SessionEvent} (h : state.transitionSession policy event = .ok next)
    (hevent : isStreamOrTick event = true ∨ (∃ now, event = .CARRIER_LOST now) ∨
      ∃ now attemptId, event = .RESUME_FAILED now attemptId) : LifecycleKept state next := by
  rcases transitionSession_ok h with rfl | ⟨reason, rfl⟩ | ⟨active, rfl, hnext⟩ |
    ⟨reconnecting, rfl, hnext⟩
  · cases event <;> simp [isStreamOrTick, transitionSession] at hevent h
  · exact Or.inr (Or.inr ⟨by simp, by simp, by simp⟩)
  · cases event with
    | STREAM_OPEN =>
      cases hnext
      exact Or.inr (Or.inl ⟨active, _, rfl, rfl, rfl⟩)
    | TICK =>
      cases hnext
      exact Or.inl rfl
    | STREAM_CLOSED =>
      simp only [transitionActive] at hnext
      split at hnext
      · cases hnext
      · cases hnext
        exact Or.inr (Or.inl ⟨active, _, rfl, rfl, rfl⟩)
    | CARRIER_LOST =>
      cases hnext
      exact Or.inr (Or.inr ⟨by simp, by simp, by rintro state ⟨⟩; rfl⟩)
    | RESUME_FAILED => cases hnext
    | _ => simp [isStreamOrTick] at hevent
  · cases event with
    | TICK =>
      cases hnext
      exact Or.inl rfl
    | RESUME_FAILED =>
      simp only [transitionReconnecting] at hnext
      split at hnext
      · cases hnext
      · cases hnext
        exact Or.inr (Or.inr ⟨by simp, by simp, by rintro state ⟨⟩; rfl⟩)
    | STREAM_OPEN => cases hnext
    | STREAM_CLOSED => cases hnext
    | CARRIER_LOST => cases hnext
    | _ => simp [isStreamOrTick] at hevent

/-- Cleaning up a carrier sets a flag that the handshake does not read. -/
theorem cleaned_inv (h : Inv ctx s) :
    Inv ctx (s.setCarrier socket
      { s.carriers socket with cleanedUp := true, isOpen := false }) := by
  refine carrier_inv h (h.running socket) fun key hkey hsocket => ?_
  have hbefore := h.grounded key hkey
  rw [hsocket] at hbefore
  obtain ⟨greeting, hshaken⟩ := hbefore.handshaken
  refine { hbefore with handshaken := ⟨greeting, { hshaken with receipt := ?_ }⟩ }
  have hreceipt := hshaken.receipt
  cases greeting with
  | created => exact hreceipt
  | _ => trivial

theorem cleanup_inv {now : ℕ} (h : Inv ctx s) : Inv ctx (cleanup ctx s socket now) := by
  have hcleaned : Inv ctx (s.setCarrier socket
    { s.carriers socket with cleanedUp := true, isOpen := false }) := cleaned_inv h
  unfold cleanup
  dsimp only
  split
  · exact hcleaned
  · rename_i key _
    split_ifs
    · exact hcleaned
    · exact hcleaned.keeps ((disposeActivationCandidate_keeps _ key).trans (remove_keeps _ key))
    · have hdisposed := hcleaned.keeps (disposeActivationCandidate_keeps _ key)
      split
      · exact hdisposed.keeps (remove_keeps _ key)
      · split
        · rename_i htransition
          refine hdisposed.keeps (applySessionTransition_keeps ?_)
          exact lifecycleKept_of_ok htransition (Or.inr (Or.inl ⟨now, rfl⟩))
        · exact hdisposed
      · split_ifs
        · split
          · rename_i htransition
            refine hdisposed.keeps (applySessionTransition_keeps ?_)
            exact lifecycleKept_of_ok htransition (Or.inr (Or.inr ⟨now, _, rfl⟩))
          · exact hdisposed
        · exact hdisposed
      · exact hdisposed

theorem step_inv {label : Label} (h : Inv ctx s) (hguard : FromCurrentSocket s label)
    (hstep : step ctx s label = some s') : Inv ctx s' := by
  cases label with
  | message socket message =>
    cases hstep
    unfold receiveMessage
    dsimp only
    split_ifs
    · exact h
    · exact h.keeps (setCarrier_keeps ⟨⟨rfl, rfl, rfl, rfl⟩, fun _ => Or.inl rfl, fun _ => rfl⟩)
    · exact h.keeps (setCarrier_keeps ⟨⟨rfl, rfl, rfl, rfl⟩, id, fun _ => rfl⟩)
  | controlFrame socket =>
    simp only [step] at hstep
    split_ifs at hstep
    cases hstep
    exact h.keeps (setCarrier_keeps ⟨⟨rfl, rfl, rfl, rfl⟩, fun _ => Or.inl rfl, fun _ => rfl⟩)
  | run socket moment =>
    obtain ⟨message, rest, hrunning, hqueue, rfl⟩ := step_run hstep
    have hcarrier : (s.dequeue socket rest).carriers socket =
        { s.carriers socket with receiveQueue := rest } := setCarrier_self _ _ _
    apply runHandler_inv (h.keeps (dequeue_keeps s socket rest))
    · rw [hcarrier]
      exact hrunning
    · rw [hcarrier]
      simp only [FromCurrentSocket, hqueue] at hguard
      revert hguard
      obtain ⟨byteLength, envelope⟩ := message
      cases envelope with
      | none => exact id
      | some envelope =>
        cases (s.carriers socket).session with
        | none => exact id
        | some key =>
          intro hguard hping hpong hreceive
          rw [hcarrier] at hreceive
          exact hguard hping hpong hreceive
  | sendSettles socket succeeded =>
    obtain ⟨point, bytes, hrunning, rfl | rfl⟩ := step_sendSettles hstep
    · exact resumeHandler_inv h hrunning
    · exact fail_inv h
  | socketCloses socket =>
    cases hstep
    exact h.keeps (closeSocket_keeps s socket)
  | cleanup socket now =>
    simp only [step] at hstep
    split_ifs at hstep
    cases hstep
    exact cleanup_inv h
  | lifecycle key event =>
    simp only [step] at hstep
    split_ifs at hstep with hevent
    simp only [not_or, Bool.not_eq_true', Bool.not_eq_false] at hevent
    cases htransition : (s.heap key).lifecycle.transitionSession ctx.sessionPolicy event with
    | error => simp [htransition] at hstep
    | ok next =>
      simp only [htransition, Option.some.injEq] at hstep
      rw [← hstep]
      exact h.keeps (applySessionTransition_keeps
        (lifecycleKept_of_ok htransition (Or.inl hevent.1)))
  | terminate key =>
    cases hstep
    exact h.keeps (disposeGatewaySession_keeps s key)

end Handlers

section Application

variable {ctx : Context} {s s' s'' : State} {socket bytes key : ℕ} {moment : Moment}

/-- The frames of streams, as opposed to those of the carrier itself. -/
def isStreamFrame : Frame → Bool
  | .data _ _ | .endStream _ | .windowUpdate _ _ | .other _ => true
  | _ => false

/-- The probe END that completes the echo of the nonce. -/
def CompletesProbe (session : GatewaySession) (frame : Frame) : Prop :=
  ∃ probe, session.probe = some probe ∧ frame = .endStream probe.streamId ∧
    probe.received.flatten = probe.expected

/-- Of all sessions only this one changes, and of it only the probe and its windows. -/
structure ProbeOnly (key : ℕ) (s s' : State) : Prop where
  sessions : s'.sessions = s.sessions
  sessionCount : s'.sessionCount = s.sessionCount
  others : ∀ other, other ≠ key → s'.heap other = s.heap other
  session : s'.heap key = { s.heap key with
    probe := (s'.heap key).probe
    outboundFlow := (s'.heap key).outboundFlow
    inboundFlow := (s'.heap key).inboundFlow }

theorem ProbeOnly.bookkeeping (h : ProbeOnly key s s') (hbook : Bookkeeping s' s'') :
    ProbeOnly key s s'' where
  sessions := hbook.sessions.trans h.sessions
  sessionCount := hbook.sessionCount.trans h.sessionCount
  others other hother := by
    rw [hbook.heap]
    exact h.others other hother
  session := by
    rw [hbook.heap]
    exact h.session

theorem ProbeOnly.refl (key : ℕ) (s : State) : ProbeOnly key s s := ⟨rfl, rfl, fun _ _ => rfl, rfl⟩

theorem setSession_probeOnly {session : GatewaySession}
    (hsession : session = { s.heap key with
      probe := session.probe
      outboundFlow := session.outboundFlow
      inboundFlow := session.inboundFlow }) : ProbeOnly key s (s.setSession key session) where
  sessions := rfl
  sessionCount := rfl
  others other hother := setSession_of_ne _ _ _ hother
  session := by
    rw [setSession_self]
    exact hsession

theorem handleProbeData_probeOnly {probe : Probe} {payload : List UInt8} :
    ProbeOnly key s (handleProbeData s socket bytes key probe payload) := by
  unfold handleProbeData
  dsimp only
  split
  · exact (ProbeOnly.refl key s).bookkeeping (fail_bookkeeping _ _ _)
  · split_ifs
    · exact ProbeOnly.bookkeeping (setSession_probeOnly rfl) (fail_bookkeeping _ _ _)
    · refine ProbeOnly.bookkeeping ?_ (await_bookkeeping _ _ _ _)
      exact ProbeOnly.bookkeeping (setSession_probeOnly rfl) (record_bookkeeping _ _)

theorem handleProbeFrame_probeOnly {frame : Frame}
    (hincomplete : ¬ CompletesProbe (s.heap key) frame) :
    ProbeOnly key s (handleProbeFrame ctx s socket bytes key moment frame) := by
  have hfail : ProbeOnly key s (s.fail socket bytes) :=
    (ProbeOnly.refl key s).bookkeeping (fail_bookkeeping _ _ _)
  unfold handleProbeFrame
  split
  · exact hfail
  · rename_i probe hprobe
    split
    · split_ifs
      · exact hfail
      · split
        · exact hfail
        · exact ProbeOnly.bookkeeping (setSession_probeOnly rfl) (finish_bookkeeping _ _ _)
    · split_ifs
      · exact hfail
      · exact handleProbeData_probeOnly
    · rename_i streamId
      split_ifs with hstream
      · exact hfail
      · unfold handleProbeEnd
        dsimp only
        split
        · exact hfail
        · rw [if_pos]
          · exact ProbeOnly.bookkeeping (setSession_probeOnly rfl) (rejectCarrier_bookkeeping _ _ _)
          · intro hecho
            exact hincomplete ⟨probe, hprobe, by rw [not_not.mp hstream], hecho⟩
    · exact hfail

/-- Before activation a stream frame touches nothing but the probe, unless it completes it. -/
theorem run_probeOnly {message : Message} {rest : List Message} {envelope : Envelope}
    (hstep : step ctx s (.run socket moment) = some s')
    (hqueue : (s.carriers socket).receiveQueue = message :: rest)
    (henvelope : message.envelope = some envelope)
    (hsession : (s.carriers socket).session = some key)
    (hinactive : isActive (s.heap key) = false) (hframe : isStreamFrame envelope.frame = true)
    (hincomplete : ¬ CompletesProbe (s.heap key) envelope.frame) : ProbeOnly key s s' := by
  obtain ⟨message', rest', -, hqueue', rfl⟩ := step_run hstep
  cases hqueue.symm.trans hqueue'
  have hdequeue := (ProbeOnly.refl key s).bookkeeping (dequeue_bookkeeping s socket rest)
  have hbook {final : State} (hfinal : Bookkeeping (s.dequeue socket rest) final) :
      ProbeOnly key s final := hdequeue.bookkeeping hfinal
  have hcarrier : (s.dequeue socket rest).carriers socket =
      { s.carriers socket with receiveQueue := rest } := setCarrier_self _ _ _
  unfold runHandler
  dsimp only
  split
  · exact hbook (finish_bookkeeping _ _ _)
  · simp only [henvelope, hcarrier, hsession]
    unfold handleFrame
    dsimp only
    split
    · exact hbook (fail_bookkeeping _ _ _)
    · split
      · exact hbook (finish_bookkeeping _ _ _)
      · split
        · exact hbook (finish_bookkeeping _ _ _)
        · exact hbook (await_bookkeeping _ _ _ _)
        · rw [if_neg (by simpa [dequeue] using hinactive)]
          split
          · exact hbook (fail_bookkeeping _ _ _)
          · rename_i happlied
            rw [happlied] at hframe
            cases hframe
          · have hprobe : ProbeOnly key (s.dequeue socket rest) (handleProbeFrame ctx
                (s.dequeue socket rest) socket message.byteLength key moment envelope.frame) :=
              handleProbeFrame_probeOnly hincomplete
            exact ⟨hprobe.sessions, hprobe.sessionCount, hprobe.others, hprobe.session⟩

end Application

section Scenario

def frameOf (generation : ℕ) (frame : Frame) : Message := ⟨100, some ⟨generation, frame⟩⟩

/-- A create and its whole handshake on socket 0. -/
def activation : List Label :=
  [.message 0 helloCreate, .run 0 noon, .sendSettles 0 true, .sendSettles 0 true,
    .message 0 (frameOf 1 (.configApplied (some ⟨1, 1, true, true, some 1⟩))), .run 0 noon,
    .sendSettles 0 true, .sendSettles 0 true, .sendSettles 0 true,
    .message 0 (frameOf 1 (.data 1 (List.replicate 32 7))), .run 0 noon, .sendSettles 0 true,
    .message 0 (frameOf 1 (.endStream 1)), .run 0 noon, .sendSettles 0 true]

/-- A CONFIG_APPLIED for the next generation is still queued on the lost socket when the session
resumes on socket 1, which then only echoes the probe. -/
def staleAcknowledgement : List Label :=
  activation ++
  [.message 0 (frameOf 2 (.configApplied (some ⟨2, 2, true, true, none⟩))), .cleanup 0 0,
    .message 1 ⟨200, some ⟨0, .hello (some ⟨.resume 0, 5, 6, .localView⟩)⟩⟩, .run 1 noon,
    .sendSettles 1 true, .run 0 noon,
    .message 1 (frameOf 2 (.data 1 (List.replicate 32 7))), .run 1 noon, .sendSettles 1 true,
    .message 1 (frameOf 2 (.endStream 1)), .run 1 noon]

def appliedOn (socket : ℕ) : Event → Bool
  | .configApplied socket' _ _ _ _ => socket' = socket
  | _ => false

def activatedOn (socket : ℕ) : Event → Bool
  | .activated socket' _ _ _ _ _ => socket' = socket
  | _ => false

theorem AllJustified.appliedOn {ctx : Context} {log : List Event} {socket : ℕ}
    (h : AllJustified ctx log) (hactivated : log.any (activatedOn socket) = true) :
    log.any (appliedOn socket) = true := by
  obtain ⟨event, hmem, hevent⟩ := List.any_eq_true.mp hactivated
  obtain ⟨before, after, hlog⟩ := List.append_of_mem hmem
  cases event with
  | activated socket' key generation current isReady canActivate =>
    obtain rfl : socket' = socket := by simpa [activatedOn] using hevent
    obtain ⟨-, -, -, greeting, config, applied, nonce, received, -, -, -, -, hsublist⟩ :=
      h before _ after hlog
    have happlied : .configApplied socket' key config applied nonce ∈ before := by
      apply hsublist.subset
      simp [handshake]
    rw [List.any_eq_true, hlog]
    exact ⟨_, List.mem_append_left _ happlied, by simp [ActivationGate.appliedOn]⟩
  | _ => simp [activatedOn] at hevent

end Scenario

end Lotur.Gateway.ActivationGate
