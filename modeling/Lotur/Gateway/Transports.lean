import Lotur.Gateway.SessionEffects

/-! Which socket a session uses: a step of the carriers leaves every session on its transport, or
attaches one session to a socket that had none. -/
namespace Lotur.Gateway

open State

/-- Whose the session is and where. -/
structure SamePlace (before after : GatewaySession) : Prop where
  tunnelId : after.tunnelId = before.tunnelId
  socket : after.socket = before.socket
  generation : after.generation = before.generation
  owner : after.owner = before.owner
  terminal : after.terminal = before.terminal

/-- No session changes its transport, none is registered and no frame is queued. -/
structure Stays (s s' : State) : Prop where
  sessionCount : s'.sessionCount = s.sessionCount
  session : ∀ socket, (s'.carriers socket).session = (s.carriers socket).session
  queue : ∀ socket, (s.carriers socket).receiveQueue = [] →
    (s'.carriers socket).receiveQueue = []
  transport : ∀ key, s'.captureGatewayTransport key = s.captureGatewayTransport key
  owner : ∀ key, (s'.heap key).owner = (s.heap key).owner
  registered : ∀ key, s'.isRegistered key = true →
    s.isRegistered key = true ∧ (s'.heap key).terminal = (s.heap key).terminal

/-- The socket, which had no session, takes over one that is new or that is reconnecting. -/
structure Attaches (key socket : ℕ) (s s' : State) : Prop where
  vacant : (s.carriers socket).session = none
  session : ∀ other, (s'.carriers other).session =
    if other = socket then some key else (s.carriers other).session
  queue : ∀ other, other ≠ socket → (s.carriers other).receiveQueue = [] →
    (s'.carriers other).receiveQueue = []
  socket : (s'.heap key).socket = socket
  transport : ∀ other, other ≠ key →
    s'.captureGatewayTransport other = s.captureGatewayTransport other
  owner : ∀ other, other ≠ s.sessionCount → (s'.heap other).owner = (s.heap other).owner
  registered : ∀ other, (other = s.sessionCount → s'.sessionCount = s.sessionCount) →
    s'.isRegistered other = true →
    s.isRegistered other = true ∧ (s'.heap other).terminal = (s.heap other).terminal
  taken : (s'.sessionCount = s.sessionCount ∧ key < s.sessionCount ∧
      ∃ state, (s.heap key).lifecycle = .RECONNECTING state) ∨
    (s'.sessionCount = s.sessionCount + 1 ∧ key = s.sessionCount ∧
      (s'.isRegistered key = true → (s'.heap key).terminal = false))

section Primitives

variable {s s' s'' : State} {socket bytes key : ℕ}

theorem Stays.refl (s : State) : Stays s s :=
  ⟨rfl, fun _ => rfl, fun _ => id, fun _ => rfl, fun _ => rfl, fun _ h => ⟨h, rfl⟩⟩

theorem Stays.trans (h : Stays s s') (h' : Stays s' s'') : Stays s s'' where
  sessionCount := h'.sessionCount.trans h.sessionCount
  session socket := (h'.session socket).trans (h.session socket)
  queue socket hqueue := h'.queue socket (h.queue socket hqueue)
  transport key := (h'.transport key).trans (h.transport key)
  owner key := (h'.owner key).trans (h.owner key)
  registered key hkey := by
    obtain ⟨hmiddle, hterminal⟩ := h'.registered key hkey
    obtain ⟨hbefore, hterminal'⟩ := h.registered key hmiddle
    exact ⟨hbefore, hterminal.trans hterminal'⟩

theorem setCarrier_stays {carrier : Carrier}
    (hsession : carrier.session = (s.carriers socket).session)
    (hqueue : (s.carriers socket).receiveQueue = [] → carrier.receiveQueue = []) :
    Stays s (s.setCarrier socket carrier) := by
  refine ⟨rfl, fun other => ?_, fun other => ?_, fun _ => rfl, fun _ => rfl,
    fun _ h => ⟨h, rfl⟩⟩
  · by_cases hother : other = socket
    · rw [hother, setCarrier_self, hsession]
    · rw [setCarrier_of_ne _ _ _ hother]
  · by_cases hother : other = socket
    · rw [hother, setCarrier_self]
      exact hqueue
    · rw [setCarrier_of_ne _ _ _ hother]
      exact id

theorem closeSocket_stays (s : State) (socket : ℕ) : Stays s (s.closeSocket socket) :=
  setCarrier_stays rfl id

theorem dequeue_stays {message : Message} {rest : List Message}
    (h : (s.carriers socket).receiveQueue = message :: rest) : Stays s (s.dequeue socket rest) := by
  refine setCarrier_stays rfl fun hempty => ?_
  rw [h] at hempty
  cases hempty

theorem await_stays (s : State) (socket bytes : ℕ) (point : Await) :
    Stays s (s.await socket bytes point) :=
  setCarrier_stays rfl id

theorem finish_stays (s : State) (socket bytes : ℕ) : Stays s (s.finish socket bytes) :=
  setCarrier_stays rfl id

theorem fail_stays (s : State) (socket bytes : ℕ) : Stays s (s.fail socket bytes) := by
  refine Stays.trans ?_ (finish_stays _ socket bytes)
  exact setCarrier_stays rfl id

theorem rejectCarrier_stays (s : State) (socket bytes : ℕ) :
    Stays s (s.rejectCarrier socket bytes) := by
  unfold rejectCarrier
  split_ifs
  · exact await_stays s socket bytes _
  · exact (closeSocket_stays s socket).trans (finish_stays _ socket bytes)

theorem record_stays (s : State) (event : Event) : Stays s (s.record event) :=
  ⟨rfl, fun _ => rfl, fun _ => id, fun _ => rfl, fun _ => rfl, fun _ h => ⟨h, rfl⟩⟩

theorem drawn_stays (s : State) (drawn : ℕ) : Stays s { s with drawn } :=
  ⟨rfl, fun _ => rfl, fun _ => id, fun _ => rfl, fun _ => rfl, fun _ h => ⟨h, rfl⟩⟩

theorem capture_setSession {session : GatewaySession}
    (hsocket : session.socket = (s.heap key).socket)
    (hgeneration : session.generation = (s.heap key).generation) (other : ℕ) :
    (s.setSession key session).captureGatewayTransport other = s.captureGatewayTransport other := by
  unfold captureGatewayTransport
  by_cases hother : other = key
  · rw [hother, setSession_self, hsocket, hgeneration]
  · rw [setSession_of_ne _ _ _ hother]

theorem owner_setSession {session : GatewaySession} (howner : session.owner = (s.heap key).owner)
    (other : ℕ) : ((s.setSession key session).heap other).owner = (s.heap other).owner := by
  by_cases hother : other = key
  · rw [hother, setSession_self, howner]
  · rw [setSession_of_ne _ _ _ hother]

theorem setSession_stays {session : GatewaySession} (h : SamePlace (s.heap key) session) :
    Stays s (s.setSession key session) := by
  refine ⟨rfl, fun _ => rfl, fun _ => id, capture_setSession h.socket h.generation,
    owner_setSession h.owner, fun other hregistered => ?_⟩
  by_cases hother : other = key
  · subst hother
    rw [setSession_self]
    refine ⟨?_, h.terminal⟩
    simpa [isRegistered, State.setSession, h.tunnelId] using hregistered
  · rw [setSession_of_ne _ _ _ hother]
    refine ⟨?_, rfl⟩
    simpa [isRegistered, State.setSession, hother] using hregistered

theorem disposeActivationCandidate_stays (s : State) (key : ℕ) :
    Stays s (s.disposeActivationCandidate key) :=
  setSession_stays ⟨rfl, rfl, rfl, rfl, rfl⟩

theorem remove_stays (s : State) (key : ℕ) : Stays s (s.remove key) := by
  unfold State.remove
  split_ifs
  · refine ⟨rfl, fun _ => rfl, fun _ => id, fun _ => rfl, fun _ => rfl, fun other hother => ?_⟩
    refine ⟨?_, rfl⟩
    simp only [State.isRegistered, decide_eq_true_eq] at hother ⊢
    by_cases htunnel : (s.heap other).tunnelId = (s.heap key).tunnelId
    · rw [htunnel, Function.update_self] at hother
      cases hother
    · rwa [Function.update_of_ne htunnel] at hother
  · exact .refl s

/-- The mark `terminal` is set on a session that leaves the registry. -/
theorem disposeGatewaySession_stays (s : State) (key : ℕ) :
    Stays s (s.disposeGatewaySession key) := by
  rcases disposeGatewaySession_cases s key with hdisposes | ⟨-, hsame⟩
  · have hregistered := hdisposes.registered
    refine ⟨hdisposes.sessionCount, ?_, ?_, ?_, ?_, ?_⟩
    · intro socket
      unfold State.disposeGatewaySession
      rw [if_pos hregistered, (closeSocket_stays _ _).session, (remove_stays _ _).session]
      rfl
    · intro socket hqueue
      unfold State.disposeGatewaySession
      rw [if_pos hregistered]
      exact (closeSocket_stays _ _).queue socket ((remove_stays _ _).queue socket hqueue)
    · intro other
      unfold State.disposeGatewaySession
      rw [if_pos hregistered, (closeSocket_stays _ _).transport, (remove_stays _ _).transport,
        (disposeActivationCandidate_stays _ _).transport]
      exact @capture_setSession s key _ (by rfl) (by rfl) other
    · intro other
      unfold State.disposeGatewaySession
      rw [if_pos hregistered, (closeSocket_stays _ _).owner, (remove_stays _ _).owner,
        (disposeActivationCandidate_stays _ _).owner]
      exact @owner_setSession s key _ (by rfl) other
    · intro other hother
      by_cases hself : other = key
      · rw [hself, hdisposes.isRegistered_self] at hother
        cases hother
      · rw [hdisposes.isRegistered_of_ne hself] at hother
        exact ⟨hother, (hdisposes.others other hself).terminal⟩
  · rw [hsame]
    exact .refl s

theorem applySessionTransition_stays (s : State) (key : ℕ) (next : SessionState) :
    Stays s (s.applySessionTransition key next).1 := by
  have happlied : Stays s (s.setSession key { s.heap key with lifecycle := next }) :=
    setSession_stays ⟨rfl, rfl, rfl, rfl, rfl⟩
  cases next with
  | EXPIRED => exact happlied.trans (disposeGatewaySession_stays _ key)
  | _ => exact happlied

/-- What follows on the same socket does not undo that it was taken. -/
theorem Attaches.stays (h : Attaches key socket s s') (hstays : Stays s' s'') :
    Attaches key socket s s'' where
  vacant := h.vacant
  session other := (hstays.session other).trans (h.session other)
  queue other hother hqueue := hstays.queue other (h.queue other hother hqueue)
  socket := (congrArg GatewayTransportEpoch.socket (hstays.transport key)).trans h.socket
  transport other hother := (hstays.transport other).trans (h.transport other hother)
  owner other hother := (hstays.owner other).trans (h.owner other hother)
  registered other hother hafter := by
    rw [hstays.sessionCount] at hother
    obtain ⟨hmiddle, hterminal⟩ := hstays.registered other hafter
    obtain ⟨hbefore, hterminal'⟩ := h.registered other hother hmiddle
    exact ⟨hbefore, hterminal.trans hterminal'⟩
  taken := by
    rw [hstays.sessionCount]
    rcases h.taken with hold | ⟨hcount, hkey, hterminal⟩
    · exact Or.inl hold
    · refine Or.inr ⟨hcount, hkey, fun hafter => ?_⟩
      obtain ⟨hmiddle, hsame⟩ := hstays.registered key hafter
      rw [hsame, hterminal hmiddle]

/-- What comes before leaves the socket and the session as they are. -/
theorem Stays.attaches (hstays : Stays s s') (h : Attaches key socket s' s'')
    (hreconnecting : (∃ state, (s'.heap key).lifecycle = .RECONNECTING state) →
      ∃ state, (s.heap key).lifecycle = .RECONNECTING state) : Attaches key socket s s'' where
  vacant := (hstays.session socket).symm.trans h.vacant
  session other := by rw [h.session, hstays.session]
  queue other hother hqueue := h.queue other hother (hstays.queue other hqueue)
  socket := h.socket
  transport other hother := (h.transport other hother).trans (hstays.transport other)
  owner other hother := by
    rw [← hstays.sessionCount] at hother
    exact (h.owner other hother).trans (hstays.owner other)
  registered other hother hafter := by
    rw [← hstays.sessionCount] at hother
    obtain ⟨hmiddle, hterminal⟩ := h.registered other hother hafter
    obtain ⟨hbefore, hterminal'⟩ := hstays.registered other hmiddle
    exact ⟨hbefore, hterminal.trans hterminal'⟩
  taken := by
    rw [← hstays.sessionCount]
    rcases h.taken with ⟨hcount, hkey, hstate⟩ | hnew
    · exact Or.inl ⟨hcount, hkey, hreconnecting hstate⟩
    · exact Or.inr hnew

end Primitives

section Handlers

variable {ctx : Context} {moment : Moment} {s s' s'' : State} {socket bytes key : ℕ}

theorem openProbe_stays {applied : ConfigAppliedMetadata} :
    Stays s (openProbe s socket bytes key moment applied) := by
  have hdrawn (event : Event) : Stays s (({ s with drawn := s.drawn + 1 }).record event) :=
    (drawn_stays s _).trans (record_stays _ event)
  unfold openProbe
  dsimp only
  split
  · refine (setSession_stays ?_).trans (finish_stays _ socket bytes)
    exact ⟨rfl, rfl, rfl, rfl, rfl⟩
  · split
    · refine (setSession_stays ?_).trans (fail_stays _ socket bytes)
      exact ⟨rfl, rfl, rfl, rfl, rfl⟩
    · split
      · refine ((hdrawn _).trans (setSession_stays ?_)).trans (fail_stays _ socket bytes)
        exact ⟨rfl, rfl, rfl, rfl, rfl⟩
      · split
        · refine ((hdrawn _).trans (setSession_stays ?_)).trans (fail_stays _ socket bytes)
          exact ⟨rfl, rfl, rfl, rfl, rfl⟩
        · refine ((hdrawn _).trans (setSession_stays ?_)).trans (await_stays _ socket bytes _)
          exact ⟨rfl, rfl, rfl, rfl, rfl⟩

theorem handleConfigApplied_stays {applied : ConfigAppliedMetadata} :
    Stays s (handleConfigApplied s socket bytes key moment applied) := by
  have hreject := rejectCarrier_stays s socket bytes
  unfold handleConfigApplied
  dsimp only
  split
  · split_ifs
    · exact finish_stays s socket bytes
    · exact hreject
  · split_ifs
    · exact hreject
    · exact hreject
    · exact hreject
    · exact hreject
    · exact openProbe_stays

theorem handleProbeData_stays {probe : Probe} {payload : List UInt8} :
    Stays s (handleProbeData s socket bytes key probe payload) := by
  unfold handleProbeData
  dsimp only
  split
  · exact fail_stays s socket bytes
  · split_ifs
    · refine (setSession_stays ?_).trans (fail_stays _ socket bytes)
      exact ⟨rfl, rfl, rfl, rfl, rfl⟩
    · refine ((setSession_stays ?_).trans (record_stays _ _)).trans (await_stays _ socket bytes _)
      exact ⟨rfl, rfl, rfl, rfl, rfl⟩

theorem activate_stays {canActivate : Bool} :
    Stays s (activate ctx s socket bytes key moment canActivate) := by
  have hcommitted {next : State} {event : Event} {generation other : ℕ} (hnext : Stays s next) :
      Stays s (if generation ≠ other then (next.record event).fail socket bytes
        else (next.record event).await socket bytes .activating) := by
    have hrecorded := hnext.trans (record_stays next event)
    split_ifs
    · exact hrecorded.trans (fail_stays _ socket bytes)
    · exact hrecorded.trans (await_stays _ socket bytes _)
  unfold activate
  dsimp only
  split
  · split
    · exact hcommitted (setSession_stays ⟨rfl, rfl, rfl, rfl, rfl⟩)
    · refine (setSession_stays ?_).trans (fail_stays _ socket bytes)
      exact ⟨rfl, rfl, rfl, rfl, rfl⟩
    · exact fail_stays s socket bytes
  · split
    · exact fail_stays s socket bytes
    · split
      · exact fail_stays s socket bytes
      · rename_i next _
        have happlied := applySessionTransition_stays s key next
        split
        · rename_i expired hexpired
          rw [hexpired] at happlied
          exact happlied.trans (finish_stays _ socket bytes)
        · rename_i applied hmoved
          rw [hmoved] at happlied
          split
          · exact hcommitted happlied
          · exact happlied.trans (fail_stays _ socket bytes)

theorem handleProbeEnd_stays {probe : Probe} :
    Stays s (handleProbeEnd ctx s socket bytes key moment probe) := by
  have hended : Stays s (s.setSession key { s.heap key with
      probe := some { probe with clientEnded := true } }) :=
    setSession_stays ⟨rfl, rfl, rfl, rfl, rfl⟩
  unfold handleProbeEnd
  dsimp only
  split_ifs
  · exact fail_stays s socket bytes
  · exact hended.trans (rejectCarrier_stays _ socket bytes)
  · exact hended.trans (rejectCarrier_stays _ socket bytes)
  · exact hended.trans (rejectCarrier_stays _ socket bytes)
  · split
    · refine (hended.trans (setSession_stays ?_)).trans (fail_stays _ socket bytes)
      rw [setSession_self]
      exact ⟨rfl, rfl, rfl, rfl, rfl⟩
    · refine (hended.trans (setSession_stays ?_)).trans activate_stays
      rw [setSession_self]
      exact ⟨rfl, rfl, rfl, rfl, rfl⟩

theorem handleProbeFrame_stays {frame : Frame} :
    Stays s (handleProbeFrame ctx s socket bytes key moment frame) := by
  have hfail := fail_stays s socket bytes
  unfold handleProbeFrame
  split
  · exact hfail
  · split
    · split_ifs
      · exact hfail
      · split
        · exact hfail
        · refine (setSession_stays ?_).trans (finish_stays _ socket bytes)
          exact ⟨rfl, rfl, rfl, rfl, rfl⟩
    · split_ifs
      · exact hfail
      · exact handleProbeData_stays
    · split_ifs
      · exact hfail
      · exact handleProbeEnd_stays
    · exact hfail

theorem handleActive_stays {frame : Frame} : Stays s (handleActive s socket bytes key frame) := by
  unfold handleActive
  split
  · refine (Stays.trans ?_ (disposeGatewaySession_stays _ key)).trans (finish_stays _ socket bytes)
    exact setCarrier_stays rfl id
  · exact fail_stays s socket bytes
  · split_ifs
    · exact finish_stays s socket bytes
    · exact rejectCarrier_stays s socket bytes
  · exact (record_stays s _).trans (await_stays _ socket bytes _)

theorem handleFrame_stays {envelope : Envelope} :
    Stays s (handleFrame ctx s socket bytes key moment envelope) := by
  unfold handleFrame
  dsimp only
  split_ifs
  · exact fail_stays s socket bytes
  · exact finish_stays s socket bytes
  · split
    · exact finish_stays s socket bytes
    · exact await_stays s socket bytes _
    · exact handleActive_stays
  · split
    · exact finish_stays s socket bytes
    · exact await_stays s socket bytes _
    · split
      · exact fail_stays s socket bytes
      · exact handleConfigApplied_stays
      · exact handleProbeFrame_stays

theorem resumeHandler_stays {point : Await} : Stays s (resumeHandler s socket bytes point) := by
  have hfinish := finish_stays s socket bytes
  unfold resumeHandler
  split
  · exact (closeSocket_stays s socket).trans (finish_stays _ socket bytes)
  · split_ifs
    · exact hfinish
    · exact await_stays s socket bytes _
  · exact (record_stays s _).trans (finish_stays _ socket bytes)
  · split_ifs
    · exact hfinish
    · split
      · exact fail_stays s socket bytes
      · refine (setSession_stays ?_).trans (await_stays _ socket bytes _)
        exact ⟨rfl, rfl, rfl, rfl, rfl⟩
  · split_ifs
    · exact hfinish
    · exact await_stays s socket bytes _
  · split_ifs
    · exact hfinish
    · split
      · exact fail_stays s socket bytes
      · refine (setSession_stays ?_).trans (finish_stays _ socket bytes)
        exact ⟨rfl, rfl, rfl, rfl, rfl⟩
  all_goals exact hfinish

theorem cleanup_stays (s : State) (socket now : ℕ) : Stays s (cleanup ctx s socket now) := by
  have hcleaned : Stays s (s.setCarrier socket
      { s.carriers socket with cleanedUp := true, isOpen := false }) := setCarrier_stays rfl id
  unfold cleanup
  dsimp only
  split
  · exact hcleaned
  · rename_i key _
    have hdisposed := hcleaned.trans (disposeActivationCandidate_stays _ key)
    split_ifs
    · exact hcleaned
    · exact hdisposed.trans (remove_stays _ key)
    · split
      · exact hdisposed.trans (remove_stays _ key)
      · split
        · exact hdisposed.trans (applySessionTransition_stays _ key _)
        · exact hdisposed
      · split_ifs
        · split
          · exact hdisposed.trans (applySessionTransition_stays _ key _)
          · exact hdisposed
        · exact hdisposed
      · exact hdisposed

theorem createSession_attaches {hello : HelloMetadata}
    (hvacant : (s.carriers socket).session = none) :
    Attaches s.sessionCount socket s (createSession ctx s socket bytes hello) := by
  refine Attaches.stays ?_ ((record_stays _ _).trans (await_stays _ socket bytes _))
  refine ⟨hvacant, fun other => ?_, fun other hother => ?_, by simp [setCarrier],
    fun other hother => ?_, fun other hother => ?_, fun other hother => ?_,
    Or.inr ⟨rfl, rfl, ?_⟩⟩
  · by_cases hother : other = socket
    · simp [hother]
    · simp [setCarrier_of_ne _ _ _ hother, hother]
  · rw [setCarrier_of_ne _ _ _ hother]
    exact id
  · simp [captureGatewayTransport, setCarrier, Function.update_of_ne hother]
  · simp [setCarrier, Function.update_of_ne hother]
  · have hne : other ≠ s.sessionCount := by
      intro hkey
      have hcount := hother hkey
      simp [setCarrier] at hcount
    simp only [isRegistered, setCarrier, Function.update_of_ne hne, decide_eq_true_eq]
    intro hafter
    refine ⟨?_, trivial⟩
    by_cases htunnel : (s.heap other).tunnelId = hello.tunnelId
    · rw [htunnel, Function.update_self] at hafter
      exact absurd (Option.some.inj hafter).symm hne
    · rwa [Function.update_of_ne htunnel] at hafter
  · simp [setCarrier]

theorem setSession_attaches {session : GatewaySession} {carrier : Carrier}
    (hvacant : (s.carriers socket).session = none) (hkey : key < s.sessionCount)
    (hlifecycle : ∃ state, (s.heap key).lifecycle = .RECONNECTING state)
    (htunnel : session.tunnelId = (s.heap key).tunnelId)
    (howner : session.owner = (s.heap key).owner)
    (hterminal : session.terminal = (s.heap key).terminal) (hsocket : session.socket = socket)
    (hsession : carrier.session = some key) :
    Attaches key socket s ((s.setSession key session).setCarrier socket carrier) := by
  refine ⟨hvacant, fun other => ?_, fun other hother => ?_, by simp [hsocket],
    fun other hother => ?_, fun other _ => owner_setSession howner other,
    fun other _ hafter => ?_, Or.inl ⟨rfl, hkey, hlifecycle⟩⟩
  · by_cases hother : other = socket
    · simp [hother, hsession]
    · simp [setCarrier_of_ne _ _ _ hother, hother, State.setSession]
  · rw [setCarrier_of_ne _ _ _ hother]
    exact id
  · simp [captureGatewayTransport, setSession_of_ne _ _ _ hother]
  · by_cases hother : other = key
    · subst hother
      refine ⟨?_, by simpa using hterminal⟩
      simpa [isRegistered, setCarrier, State.setSession, htunnel] using hafter
    · refine ⟨?_, by simp [setSession_of_ne _ _ _ hother]⟩
      simpa [isRegistered, setCarrier, State.setSession, hother] using hafter

theorem resumeSession_attaches {hello : HelloMetadata} {existing : GatewaySession}
    {attemptId generation now : ℕ} (hvacant : (s.carriers socket).session = none)
    (hkey : key < s.sessionCount)
    (hlifecycle : ∃ state, (s.heap key).lifecycle = .RECONNECTING state) :
    Attaches key socket s
      (resumeSession ctx s socket bytes key attemptId generation now hello existing) := by
  have hsame : ((s.disposeActivationCandidate key).heap key).lifecycle =
      (s.heap key).lifecycle := by
    simp [disposeActivationCandidate]
  refine (disposeActivationCandidate_stays s key).attaches ?_ (fun _ => hlifecycle)
  refine Attaches.stays ?_ ((record_stays _ _).trans (await_stays _ socket bytes _))
  refine setSession_attaches hvacant hkey ?_ rfl rfl rfl rfl rfl
  rwa [hsame]

/-- A frame leaves every session where it is, or attaches one to the socket that sent it. -/
def Follows (socket : ℕ) (s s' : State) : Prop :=
  Stays s s' ∨ ∃ key, Attaches key socket s s'

theorem handleResume_follows {hello : HelloMetadata} {resumeSecret : Token} (hregistry : Registry s)
    (hvacant : (s.carriers socket).session = none) :
    Follows socket s (handleResume ctx s socket bytes moment hello resumeSecret) := by
  have hdrawn := drawn_stays s (s.drawn + 1)
  unfold handleResume
  cases hkey : s.sessions hello.tunnelId with
  | none => exact Or.inl (rejectCarrier_stays s socket bytes)
  | some key =>
    dsimp only
    split_ifs with hadmitted
    · exact Or.inl (rejectCarrier_stays s socket bytes)
    · cases htransition : (s.heap key).lifecycle.transitionSession ctx.sessionPolicy
          (.START_RESUME moment.now s.drawn) with
      | error error =>
        cases error with
        | RESUME_IN_PROGRESS => exact Or.inl (hdrawn.trans (rejectCarrier_stays _ socket bytes))
        | _ => exact Or.inl (hdrawn.trans (fail_stays _ socket bytes))
      | ok next =>
        have happlied := hdrawn.trans (applySessionTransition_stays _ key next)
        rcases SessionState.transitionSession_startResume htransition with
          ⟨reason, rfl⟩ | ⟨state, hstate, -, rfl⟩
        · exact Or.inl (happlied.trans (rejectCarrier_stays _ socket bytes))
        · refine Or.inr ⟨key, happlied.attaches ?_ fun _ => ⟨state, hstate⟩⟩
          exact resumeSession_attaches hvacant (hregistry _ _ hkey).1
            ⟨_, congrArg GatewaySession.lifecycle (setSession_self _ key _)⟩

theorem handleHello_follows {envelope : Envelope} (hregistry : Registry s)
    (hvacant : (s.carriers socket).session = none) :
    Follows socket s (handleHello ctx s socket bytes moment envelope) := by
  unfold handleHello
  split
  · split
    · exact Or.inl ((closeSocket_stays s socket).trans (finish_stays _ socket bytes))
    · split
      · split_ifs
        · exact Or.inl (rejectCarrier_stays s socket bytes)
        · exact Or.inl (rejectCarrier_stays s socket bytes)
        · exact Or.inr ⟨_, createSession_attaches hvacant⟩
      · exact handleResume_follows hregistry hvacant
  · exact Or.inl (fail_stays s socket bytes)

theorem runHandler_follows {message : Message} (hregistry : Registry s) :
    Follows socket s (runHandler ctx s socket message moment) := by
  unfold runHandler
  dsimp only
  split_ifs
  · exact Or.inl (finish_stays s socket _)
  · split
    · exact Or.inl (fail_stays s socket _)
    · split
      · rename_i hvacant
        exact handleHello_follows hregistry hvacant
      · exact Or.inl handleFrame_stays

/-- What the next handler of a socket does to the sessions. -/
theorem step_run_follows (hregistry : Registry s)
    (h : step ctx s (.run socket moment) = some s') :
    (s.carriers socket).receiveQueue ≠ [] ∧ Follows socket s s' := by
  obtain ⟨message, rest, -, hqueue, rfl⟩ := step_run h
  have hdequeued := dequeue_stays hqueue
  refine ⟨by simp [hqueue], ?_⟩
  have hfollows := @runHandler_follows ctx moment (s.dequeue socket rest) socket message hregistry
  rcases hfollows with hstays | ⟨key, hattaches⟩
  · exact Or.inl (hdequeued.trans hstays)
  · exact Or.inr ⟨key, hdequeued.attaches hattaches id⟩

theorem step_sendSettles_stays {succeeded : Bool}
    (h : step ctx s (.sendSettles socket succeeded) = some s') : Stays s s' := by
  obtain ⟨point, bytes, -, rfl | rfl⟩ := step_sendSettles h
  · exact resumeHandler_stays
  · exact fail_stays s socket bytes

end Handlers

/-- What a session has left behind stays behind. -/
structure Later (s s' : State) : Prop where
  sessionCount : s.sessionCount ≤ s'.sessionCount
  session : ∀ socket, (s'.carriers socket).session = none → (s.carriers socket).session = none
  transport : ∀ key < s.sessionCount,
    s'.captureGatewayTransport key = s.captureGatewayTransport key ∨
    (s.carriers (s'.heap key).socket).session = none
  owner : ∀ key < s.sessionCount, (s'.heap key).owner = (s.heap key).owner
  registered : ∀ key < s.sessionCount, s'.isRegistered key = true → s.isRegistered key = true

/-- The socket of the transport has served, and the session is elsewhere. -/
structure Left (s : State) (key : ℕ) (transport : GatewayTransportEpoch) : Prop where
  key_lt : key < s.sessionCount
  served : (s.carriers transport.socket).session ≠ none
  elsewhere : s.captureGatewayTransport key ≠ transport

section Later

variable {s s' s'' : State} {key socket : ℕ}

theorem Later.refl (s : State) : Later s s :=
  ⟨le_rfl, fun _ => id, fun _ _ => Or.inl rfl, fun _ _ => rfl, fun _ _ => id⟩

theorem Later.trans (h : Later s s') (h' : Later s' s'') : Later s s'' where
  sessionCount := h.sessionCount.trans h'.sessionCount
  session socket hnone := h.session socket (h'.session socket hnone)
  transport key hkey := by
    rcases h'.transport key (hkey.trans_le h.sessionCount) with hsame | hvacant
    · have hsocket : (s''.heap key).socket = (s'.heap key).socket :=
        congrArg GatewayTransportEpoch.socket hsame
      rw [hsame, hsocket]
      exact h.transport key hkey
    · exact Or.inr (h.session _ hvacant)
  owner key hkey := (h'.owner key (hkey.trans_le h.sessionCount)).trans (h.owner key hkey)
  registered key hkey hafter :=
    h.registered key hkey (h'.registered key (hkey.trans_le h.sessionCount) hafter)

theorem Stays.later (h : Stays s s') : Later s s' where
  sessionCount := h.sessionCount.ge
  session socket hnone := (h.session socket).symm.trans hnone
  transport key _ := Or.inl (h.transport key)
  owner key _ := h.owner key
  registered key _ hafter := (h.registered key hafter).1

theorem Attaches.later (h : Attaches key socket s s') : Later s s' where
  sessionCount := by
    rcases h.taken with ⟨hcount, -⟩ | ⟨hcount, -⟩
    · omega
    · omega
  session other hnone := by
    rw [h.session] at hnone
    split_ifs at hnone with hother
    exact hnone
  transport other _ := by
    by_cases hother : other = key
    · rw [hother, h.socket]
      exact Or.inr h.vacant
    · exact Or.inl (h.transport other hother)
  owner other hother := h.owner other hother.ne
  registered other hother hafter :=
    (h.registered other (fun hkey => absurd hkey hother.ne) hafter).1

/-- A transport that was left is never taken up again. -/
theorem Left.later {transport : GatewayTransportEpoch} (h : Left s key transport)
    (hlater : Later s s') : Left s' key transport where
  key_lt := h.key_lt.trans_le hlater.sessionCount
  served hnone := h.served (hlater.session _ hnone)
  elsewhere hback := by
    rcases hlater.transport key h.key_lt with hsame | hvacant
    · exact h.elsewhere (hsame.symm.trans hback)
    · have hsocket : (s'.heap key).socket = transport.socket :=
        congrArg GatewayTransportEpoch.socket hback
      rw [hsocket] at hvacant
      exact h.served hvacant

end Later

end Lotur.Gateway
