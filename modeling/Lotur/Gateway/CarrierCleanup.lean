import Lotur.Library.Execution
import Lotur.Gateway.Carrier

/-! Sessions and the sockets that hold them: a socket that has been cleaned up holds no session
that is still being created and no resume candidate. -/
namespace Lotur.Gateway.CarrierCleanup

open State SessionState

/-- A session that a dead socket still occupies. -/
def Orphan (s : State) (socket key : ℕ) : Prop :=
  s.isRegistered key = true ∧
    (((s.heap key).lifecycle = .CREATING ∧ (s.heap key).socket = socket) ∨
      ∃ state attemptId, (s.heap key).lifecycle = .RECONNECTING state ∧
        state.candidateAttemptId = some attemptId ∧
        (s.carriers socket).resumeAttemptId = some attemptId)

/-- `cleanup` has run and every queued handler has finished. -/
def Finished (s : State) (socket : ℕ) : Prop :=
  (s.carriers socket).cleanedUp = true ∧ (s.carriers socket).receiveQueue = [] ∧
    (s.carriers socket).running = none

/-- The HELLO at the head of the queue passes every check of `handleHello`, so it registers a
session or starts a resume. -/
def acceptsHello (ctx : Context) (s : State) (socket : ℕ) (message : Message)
    (moment : Moment) : Bool :=
  let carrier := s.carriers socket
  match message.envelope with
  | some ⟨0, .hello (some hello)⟩ =>
    !carrier.receiveFailed && carrier.session.isNone &&
      !(ctx.requireAuthorization && !authorizationMatches carrier hello) &&
      match hello.mode with
      | .create => (s.sessions hello.tunnelId).isNone && s.canAdmitNewTunnel ctx moment
          (carrier.developerAuthorization.map fun a => a.owner.accountId)
      | .resume resumeSecret =>
        match s.sessions hello.tunnelId with
        | none => false
        | some key => resumeAdmitted ctx s carrier key moment.now hello resumeSecret &&
            match (s.heap key).lifecycle.transitionSession ctx.sessionPolicy
              (.START_RESUME moment.now s.drawn) with
            | .ok (.RECONNECTING _) => true
            | _ => false
  | _ => false

/-- The condition under which no session is orphaned: a socket that has been cleaned up accepts
no HELLO that is still in its queue. -/
def GreetsBeforeCleanup (ctx : Context) (s : State) : Label → Prop
  | .run socket moment =>
    match (s.carriers socket).receiveQueue with
    | [] => True
    | message :: _ => (s.carriers socket).cleanedUp = true →
        acceptsHello ctx s socket message moment = false
  | _ => True

instance (ctx : Context) (s : State) (label : Label) :
    Decidable (GreetsBeforeCleanup ctx s label) :=
  match label with
  | .run socket moment =>
    match h : (s.carriers socket).receiveQueue with
    | [] => isTrue (by simp [GreetsBeforeCleanup, h])
    | message :: _ => decidable_of_iff ((s.carriers socket).cleanedUp = true →
        acceptsHello ctx s socket message moment = false) (by simp [GreetsBeforeCleanup, h])
  | .message _ _ | .controlFrame _ | .sendSettles _ _ | .socketCloses _ | .cleanup _ _
  | .lifecycle _ _ | .terminate _ => isTrue trivial

/-- Nobody is waiting for this session to become active. -/
def Settled : SessionState → Prop
  | .CREATING => False
  | .RECONNECTING state => state.candidateAttemptId = none
  | _ => True

structure Inv (s : State) : Prop where
  registry : ∀ tunnelId key, s.sessions tunnelId = some key →
    key < s.sessionCount ∧ (s.heap key).tunnelId = tunnelId
  creating : ∀ key, s.isRegistered key = true → (s.heap key).lifecycle = .CREATING →
    (s.carriers (s.heap key).socket).session = some key ∧
      (s.carriers (s.heap key).socket).cleanedUp = false
  candidate : ∀ key state attemptId, s.isRegistered key = true →
    (s.heap key).lifecycle = .RECONNECTING state → state.candidateAttemptId = some attemptId →
    (s.carriers (s.heap key).socket).session = some key ∧
      (s.carriers (s.heap key).socket).resumeAttemptId = some attemptId ∧
      (s.carriers (s.heap key).socket).cleanedUp = false
  drawn : ∀ socket attemptId, (s.carriers socket).resumeAttemptId = some attemptId →
    attemptId < s.drawn
  distinct : ∀ socket other attemptId, (s.carriers socket).resumeAttemptId = some attemptId →
    (s.carriers other).resumeAttemptId = some attemptId → socket = other

theorem Inv.not_orphan {s : State} (h : Inv s) {socket key : ℕ}
    (hcleaned : (s.carriers socket).cleanedUp = true) : ¬ Orphan s socket key := by
  rintro ⟨hregistered, ⟨hcreating, hsocket⟩ | ⟨state, attemptId, hstate, hcandidate, hattempt⟩⟩
  · have hlive := (h.creating key hregistered hcreating).2
    rw [hsocket, hcleaned] at hlive
    cases hlive
  · obtain ⟨-, hown, hlive⟩ := h.candidate key state attemptId hregistered hstate hcandidate
    rw [h.distinct _ _ _ hown hattempt, hcleaned] at hlive
    cases hlive

theorem start_inv (authorizations : ℕ → Option DeveloperAuthorization) :
    Inv (start authorizations) where
  registry := by simp [start]
  creating := by simp [start, isRegistered]
  candidate := by simp [start, isRegistered]
  drawn := by simp [start, Carrier.new]
  distinct := by simp [start, Carrier.new]

section Steps

variable {s s' : State} {socket bytes key : ℕ}

/-- The session is still held by the same socket in the same way, or nobody waits for it. -/
def Undisturbed (s s' : State) (key : ℕ) : Prop :=
  ((s'.heap key).lifecycle = (s.heap key).lifecycle ∧
    (s'.heap key).socket = (s.heap key).socket ∧
    SameClosure (s.carriers (s.heap key).socket) (s'.carriers (s.heap key).socket)) ∨
  Settled (s'.heap key).lifecycle

/-- Steps that register nothing and disturb no registered session. -/
structure Quiets (s s' : State) : Prop where
  sessions : ∀ tunnelId key, s'.sessions tunnelId = some key → s.sessions tunnelId = some key
  tunnelId : ∀ key, (s'.heap key).tunnelId = (s.heap key).tunnelId
  sessionCount : s'.sessionCount = s.sessionCount
  drawn : s.drawn ≤ s'.drawn
  attempts : ∀ socket,
    (s'.carriers socket).resumeAttemptId = (s.carriers socket).resumeAttemptId
  undisturbed : ∀ key, s'.isRegistered key = true → Undisturbed s s' key

theorem Quiets.isRegistered (h : Quiets s s') (hkey : s'.isRegistered key = true) :
    s.isRegistered key = true := by
  simp only [State.isRegistered, h.tunnelId, decide_eq_true_eq] at hkey ⊢
  exact h.sessions _ _ hkey

theorem Quiets.trans {s'' : State} (h : Quiets s s') (h' : Quiets s' s'') : Quiets s s'' where
  sessions tunnelId key hkey := h.sessions tunnelId key (h'.sessions tunnelId key hkey)
  tunnelId key := (h'.tunnelId key).trans (h.tunnelId key)
  sessionCount := h'.sessionCount.trans h.sessionCount
  drawn := h.drawn.trans h'.drawn
  attempts socket := (h'.attempts socket).trans (h.attempts socket)
  undisturbed key hkey := by
    rcases h'.undisturbed key hkey with ⟨hlifecycle, hsocket, hclosure⟩ | hsettled
    · rcases h.undisturbed key (h'.isRegistered hkey) with
        ⟨hlifecycle', hsocket', hclosure'⟩ | hsettled
      · rw [hsocket'] at hclosure
        exact Or.inl ⟨hlifecycle.trans hlifecycle', hsocket.trans hsocket',
          hclosure'.trans hclosure⟩
      · exact Or.inr (hlifecycle ▸ hsettled)
    · exact Or.inr hsettled

theorem Inv.quiets (h : Inv s) (hquiet : Quiets s s') : Inv s' where
  registry tunnelId key hkey := by
    rw [hquiet.sessionCount, hquiet.tunnelId key]
    exact h.registry tunnelId key (hquiet.sessions tunnelId key hkey)
  creating key hregistered hcreating := by
    rcases hquiet.undisturbed key hregistered with ⟨hlifecycle, hsocket, hclosure⟩ | hsettled
    · rw [hsocket, hclosure.session, hclosure.cleanedUp]
      exact h.creating key (hquiet.isRegistered hregistered) (hlifecycle ▸ hcreating)
    · rw [hcreating] at hsettled
      exact hsettled.elim
  candidate key state attemptId hregistered hstate hcandidate := by
    rcases hquiet.undisturbed key hregistered with ⟨hlifecycle, hsocket, hclosure⟩ | hsettled
    · rw [hsocket, hclosure.session, hclosure.resumeAttemptId, hclosure.cleanedUp]
      exact h.candidate key state attemptId (hquiet.isRegistered hregistered)
        (hlifecycle ▸ hstate) hcandidate
    · rw [hstate] at hsettled
      exact absurd (hsettled.symm.trans hcandidate) (by simp)
  drawn socket attemptId hattempt := by
    rw [hquiet.attempts] at hattempt
    exact (h.drawn socket attemptId hattempt).trans_le hquiet.drawn
  distinct socket other attemptId hsocket hother := by
    rw [hquiet.attempts] at hsocket hother
    exact h.distinct socket other attemptId hsocket hother

theorem bookkeeping_quiets (hbook : Bookkeeping s s') : Quiets s s' where
  sessions tunnelId key hkey := hbook.sessions ▸ hkey
  tunnelId key := by rw [hbook.heap]
  sessionCount := hbook.sessionCount
  drawn := hbook.drawn.ge
  attempts socket := (hbook.closure socket).resumeAttemptId
  undisturbed key _ := Or.inl ⟨by rw [hbook.heap], by rw [hbook.heap], hbook.closure _⟩

theorem Inv.bookkeeping (h : Inv s) (hbook : Bookkeeping s s') : Inv s' :=
  h.quiets (bookkeeping_quiets hbook)

theorem finish_inv (h : Inv s) : Inv (s.finish socket bytes) :=
  h.bookkeeping (finish_bookkeeping s socket bytes)

theorem fail_inv (h : Inv s) : Inv (s.fail socket bytes) :=
  h.bookkeeping (fail_bookkeeping s socket bytes)

theorem rejectCarrier_inv (h : Inv s) : Inv (s.rejectCarrier socket bytes) :=
  h.bookkeeping (rejectCarrier_bookkeeping s socket bytes)

theorem await_inv {point : Await} (h : Inv s) : Inv (s.await socket bytes point) :=
  h.bookkeeping (await_bookkeeping s socket bytes point)

theorem record_inv {event : Event} (h : Inv s) : Inv (s.record event) :=
  h.bookkeeping (record_bookkeeping s event)

theorem closeSocket_inv (h : Inv s) : Inv (s.closeSocket socket) :=
  h.bookkeeping (closeSocket_bookkeeping s socket)

theorem drawn_inv (h : Inv s) (n : ℕ) : Inv { s with drawn := s.drawn + n } :=
  h.quiets ⟨fun _ _ => id, fun _ => rfl, rfl, Nat.le_add_right _ _, fun _ => rfl,
    fun _ _ => Or.inl ⟨rfl, rfl, .refl _⟩⟩

/-- A session may change, except where it stands and where it is, or it may settle. -/
theorem setSession_quiets {session : GatewaySession}
    (htunnel : session.tunnelId = (s.heap key).tunnelId)
    (hsession : (session.lifecycle = (s.heap key).lifecycle ∧
      session.socket = (s.heap key).socket) ∨ Settled session.lifecycle) :
    Quiets s (s.setSession key session) := by
  refine ⟨fun _ _ => id, ?_, rfl, Nat.le_refl _, fun _ => rfl, ?_⟩
  · intro other
    by_cases hother : other = key
    · subst hother
      simpa using htunnel
    · rw [setSession_of_ne _ _ _ hother]
  · intro other _
    by_cases hother : other = key
    · subst hother
      rcases hsession with ⟨hlifecycle, hsocket⟩ | hsettled
      · exact Or.inl ⟨by simpa using hlifecycle, by simpa using hsocket, .refl _⟩
      · exact Or.inr (by simpa using hsettled)
    · refine Or.inl ⟨?_, ?_, .refl _⟩
      · rw [setSession_of_ne _ _ _ hother]
      · rw [setSession_of_ne _ _ _ hother]

theorem setSession_inv {session : GatewaySession} (h : Inv s)
    (htunnel : session.tunnelId = (s.heap key).tunnelId)
    (hsession : (session.lifecycle = (s.heap key).lifecycle ∧
      session.socket = (s.heap key).socket) ∨ Settled session.lifecycle) :
    Inv (s.setSession key session) :=
  h.quiets (setSession_quiets htunnel hsession)

theorem Quiets.refl (s : State) : Quiets s s :=
  bookkeeping_quiets ⟨rfl, rfl, rfl, rfl, fun _ => .refl _⟩

theorem remove_quiets (s : State) (key : ℕ) : Quiets s (s.remove key) := by
  unfold State.remove
  split_ifs
  · refine ⟨?_, fun _ => rfl, rfl, Nat.le_refl _, fun _ => rfl,
      fun _ _ => Or.inl ⟨rfl, rfl, .refl _⟩⟩
    intro tunnelId other hother
    by_cases htunnel : tunnelId = (s.heap key).tunnelId
    · simp [htunnel] at hother
    · simpa [htunnel] using hother
  · exact .refl s

theorem disposeActivationCandidate_quiets (s : State) (key : ℕ) :
    Quiets s (s.disposeActivationCandidate key) :=
  setSession_quiets rfl (Or.inl ⟨rfl, rfl⟩)

theorem disposeGatewaySession_quiets (s : State) (key : ℕ) :
    Quiets s (s.disposeGatewaySession key) := by
  unfold State.disposeGatewaySession
  split_ifs
  · have hterminal : Quiets s (s.setSession key { s.heap key with terminal := true }) :=
      setSession_quiets rfl (Or.inl ⟨rfl, rfl⟩)
    exact ((hterminal.trans (disposeActivationCandidate_quiets _ key)).trans
      (remove_quiets _ key)).trans (bookkeeping_quiets (closeSocket_bookkeeping _ _))
  · exact .refl s

theorem applySessionTransition_quiets {next : SessionState} (s : State) (key : ℕ)
    (hsettled : Settled next) : Quiets s (s.applySessionTransition key next).1 := by
  have happlied : Quiets s (s.setSession key { s.heap key with lifecycle := next }) :=
    setSession_quiets rfl (Or.inr hsettled)
  cases next with
  | EXPIRED => exact happlied.trans (disposeGatewaySession_quiets _ key)
  | _ => exact happlied

theorem expired_inv (h : Inv s) (reason : CloseReason) (now : ℕ) :
    Inv (s.applySessionTransition key (.EXPIRED reason now)).1 :=
  h.quiets (applySessionTransition_quiets s key trivial)

theorem createSession_inv {ctx : Context} {hello : HelloMetadata} (h : Inv s)
    (hsession : (s.carriers socket).session = none)
    (hlive : (s.carriers socket).cleanedUp = false) :
    Inv (createSession ctx s socket bytes hello) := by
  apply await_inv
  apply record_inv
  -- A session registered before keeps its key, its place on the heap and its socket's closure.
  have hold {other : ℕ} {tunnelId : Token} (hother : other ≠ s.sessionCount)
      (hregistered : Function.update s.sessions hello.tunnelId (some s.sessionCount) tunnelId =
        some other) : s.sessions tunnelId = some other := by
    by_cases htunnel : tunnelId = hello.tunnelId
    · rw [htunnel, Function.update_self] at hregistered
      exact absurd (Option.some.inj hregistered).symm hother
    · rwa [Function.update_of_ne htunnel] at hregistered
  have hclosure {other key : ℕ} (hkey : (s.carriers other).session = some key) :
      other ≠ socket := by
    rintro rfl
    rw [hsession] at hkey
    cases hkey
  refine ⟨?_, ?_, ?_, ?_, ?_⟩
  · intro tunnelId key hkey
    by_cases hnew : key = s.sessionCount
    · subst hnew
      refine ⟨Nat.lt_succ_self _, ?_⟩
      by_contra htunnel
      have hne : tunnelId ≠ hello.tunnelId := by
        rintro rfl
        exact htunnel (by simp [setCarrier])
      have hregistered : s.sessions tunnelId = some s.sessionCount := by
        simpa [setCarrier, hne] using hkey
      exact absurd (h.registry tunnelId _ hregistered).1 (Nat.lt_irrefl _)
    · obtain ⟨hlt, htunnel⟩ := h.registry tunnelId key (hold hnew hkey)
      exact ⟨Nat.lt_succ_of_lt hlt, by simpa [setCarrier, hnew] using htunnel⟩
  · intro key hregistered hcreating
    by_cases hnew : key = s.sessionCount
    · subst hnew
      simpa [setCarrier] using hlive
    · simp only [isRegistered, setCarrier, Function.update_of_ne hnew, decide_eq_true_eq]
        at hregistered hcreating ⊢
      have hbefore := h.creating key (by simpa [isRegistered] using hold hnew hregistered) hcreating
      rwa [Function.update_of_ne (hclosure hbefore.1)]
  · intro key state attemptId hregistered hstate hcandidate
    by_cases hnew : key = s.sessionCount
    · subst hnew
      simp [setCarrier] at hstate
    · simp only [isRegistered, setCarrier, Function.update_of_ne hnew, decide_eq_true_eq]
        at hregistered hstate ⊢
      have hbefore := h.candidate key state attemptId
        (by simpa [isRegistered] using hold hnew hregistered) hstate hcandidate
      rwa [Function.update_of_ne (hclosure hbefore.1)]
  · intro other attemptId hattempt
    have hbefore : (s.carriers other).resumeAttemptId = some attemptId := by
      by_cases hother : other = socket
      · subst hother
        simpa [setCarrier] using hattempt
      · simpa [setCarrier, hother] using hattempt
    exact (h.drawn other attemptId hbefore).trans_le (Nat.le_add_right _ 2)
  · intro first second attemptId hfirst hsecond
    have hbefore {other : ℕ} (hattempt : (Function.update s.carriers socket
        { s.carriers socket with
          session := some s.sessionCount
          connectionMode := some hello.mode } other).resumeAttemptId = some attemptId) :
        (s.carriers other).resumeAttemptId = some attemptId := by
      by_cases hother : other = socket
      · subst hother
        simpa using hattempt
      · simpa [hother] using hattempt
    exact h.distinct first second attemptId (hbefore hfirst) (hbefore hsecond)

/-- The session as the resumed socket holds it, without the queue. -/
theorem resumeSession_inv {ctx : Context} {hello : HelloMetadata} {next : ReconnectingState}
    {existing : GatewaySession} {generation now : ℕ} (h : Inv s)
    (hsession : (s.carriers socket).session = none)
    (hlive : (s.carriers socket).cleanedUp = false)
    (hcandidate : next.candidateAttemptId = some s.drawn) :
    Inv (resumeSession ctx (({ s with drawn := s.drawn + 1 }).setSession key
      { s.heap key with lifecycle := .RECONNECTING next }) socket bytes key s.drawn generation now
        hello existing) := by
  apply await_inv
  apply record_inv
  have hclosure {other key : ℕ} (hkey : (s.carriers other).session = some key) :
      other ≠ socket := by
    rintro rfl
    rw [hsession] at hkey
    cases hkey
  refine ⟨?_, ?_, ?_, ?_, ?_⟩
  · intro tunnelId other hother
    have hbefore := h.registry tunnelId other hother
    by_cases hkey : other = key
    · subst hkey
      simpa [setCarrier, setSession, disposeActivationCandidate, resumedSession] using hbefore
    · simpa [setCarrier, setSession, disposeActivationCandidate, hkey] using hbefore
  · intro other hregistered hcreating
    by_cases hkey : other = key
    · subst hkey
      simp [setCarrier, setSession, disposeActivationCandidate, resumedSession] at hcreating
    · simp only [isRegistered, setCarrier, setSession, disposeActivationCandidate,
        Function.update_of_ne hkey] at hregistered hcreating ⊢
      have hbefore := h.creating other hregistered hcreating
      rwa [Function.update_of_ne (hclosure hbefore.1)]
  · intro other state attemptId hregistered hstate hattempt
    by_cases hkey : other = key
    · subst hkey
      simp only [setCarrier, setSession, disposeActivationCandidate, resumedSession,
        Function.update_self] at hstate ⊢
      cases hstate
      exact ⟨trivial, hcandidate.symm.trans hattempt, hlive⟩
    · simp only [isRegistered, setCarrier, setSession, disposeActivationCandidate,
        Function.update_of_ne hkey] at hregistered hstate ⊢
      have hbefore := h.candidate other state attemptId hregistered hstate hattempt
      rwa [Function.update_of_ne (hclosure hbefore.1)]
  · intro other attemptId hattempt
    by_cases hother : other = socket
    · subst hother
      simp only [setCarrier, Function.update_self, Option.some.injEq] at hattempt
      exact hattempt ▸ Nat.lt_succ_self _
    · rw [setCarrier_of_ne _ _ _ hother] at hattempt
      exact (h.drawn other attemptId hattempt).trans_le (Nat.le_succ _)
  · intro first second attemptId hfirst hsecond
    by_cases hf : first = socket
    · by_cases hs : second = socket
      · rw [hf, hs]
      · -- The fresh attempt id belongs to no other socket.
        subst hf
        rw [setCarrier_of_ne _ _ _ hs] at hsecond
        simp only [setCarrier, Function.update_self, Option.some.injEq] at hfirst
        exact absurd (h.drawn second attemptId hsecond) (by omega)
    · rw [setCarrier_of_ne _ _ _ hf] at hfirst
      by_cases hs : second = socket
      · subst hs
        simp only [setCarrier, Function.update_self, Option.some.injEq] at hsecond
        exact absurd (h.drawn first attemptId hfirst) (by omega)
      · rw [setCarrier_of_ne _ _ _ hs] at hsecond
        exact h.distinct first second attemptId hfirst hsecond

theorem handleResume_inv {ctx : Context} {moment : Moment} {hello : HelloMetadata}
    {resumeSecret : Token} (h : Inv s) (hsession : (s.carriers socket).session = none)
    (hlive : ∀ key next, s.sessions hello.tunnelId = some key →
      resumeAdmitted ctx s (s.carriers socket) key moment.now hello resumeSecret = true →
      (s.heap key).lifecycle.transitionSession ctx.sessionPolicy
        (.START_RESUME moment.now s.drawn) = .ok (.RECONNECTING next) →
      (s.carriers socket).cleanedUp = false) :
    Inv (handleResume ctx s socket bytes moment hello resumeSecret) := by
  unfold handleResume
  cases hkey : s.sessions hello.tunnelId with
  | none => exact rejectCarrier_inv h
  | some key =>
    dsimp only
    split_ifs with hadmitted
    · exact rejectCarrier_inv h
    · have hdrawn := drawn_inv h 1
      cases htransition : (s.heap key).lifecycle.transitionSession ctx.sessionPolicy
          (.START_RESUME moment.now s.drawn) with
      | error error =>
        cases error with
        | RESUME_IN_PROGRESS => exact rejectCarrier_inv hdrawn
        | _ => exact fail_inv hdrawn
      | ok next =>
        rcases transitionSession_startResume htransition with
          ⟨reason, rfl⟩ | ⟨state, -, -, rfl⟩
        · exact rejectCarrier_inv (expired_inv hdrawn reason moment.now)
        · have hopen := hlive key _ hkey (by simpa using hadmitted) htransition
          exact resumeSession_inv h hsession hopen rfl

/-- A HELLO that is accepted comes before the socket's cleanup. -/
theorem handleHello_inv {ctx : Context} {moment : Moment} {message : Message}
    {envelope : Envelope} (h : Inv s) (hmessage : message.envelope = some envelope)
    (hreceive : (s.carriers socket).receiveFailed = false)
    (hsession : (s.carriers socket).session = none)
    (hguard : (s.carriers socket).cleanedUp = true →
      acceptsHello ctx s socket message moment = false) :
    Inv (handleHello ctx s socket bytes moment envelope) := by
  unfold handleHello
  split
  · rename_i hello hgeneration hframe
    have henvelope : message.envelope = some ⟨0, .hello (some hello)⟩ := by
      rw [hmessage, ← hgeneration, ← hframe]
    by_cases hauthorized :
        (ctx.requireAuthorization && !authorizationMatches (s.carriers socket) hello) = true
    · rw [if_pos hauthorized]
      exact finish_inv (closeSocket_inv h)
    · rw [if_neg hauthorized]
      rw [Bool.not_eq_true] at hauthorized
      split
      · rename_i hmode
        split_ifs with hregistered hadmitted
        · exact rejectCarrier_inv h
        · exact rejectCarrier_inv h
        · apply createSession_inv h hsession
          by_contra hcleaned
          have hrefused := hguard (by simpa using hcleaned)
          simp only [Bool.not_eq_true, Option.isSome_eq_false_iff] at hregistered
          simp only [Bool.not_eq_true', Bool.not_eq_false] at hadmitted
          simp [acceptsHello, henvelope, hreceive, hsession, hauthorized, hmode, hregistered,
            hadmitted] at hrefused
      · rename_i resumeSecret hmode
        apply handleResume_inv h hsession
        intro key next hkey hadmitted htransition
        by_contra hcleaned
        have hrefused := hguard (by simpa using hcleaned)
        simp [acceptsHello, henvelope, hreceive, hsession, hauthorized, hmode, hkey, hadmitted,
          htransition] at hrefused
  · exact fail_inv h

/-- The fields of a session that decide whether a socket holds it. -/
def SamePlace (before after : GatewaySession) : Prop :=
  after.tunnelId = before.tunnelId ∧ after.lifecycle = before.lifecycle ∧
    after.socket = before.socket

theorem quiet_inv {session : GatewaySession} (h : Inv s)
    (hsame : SamePlace (s.heap key) session) : Inv (s.setSession key session) :=
  setSession_inv h hsame.1 (Or.inl hsame.2)

theorem openProbe_inv {moment : Moment} {applied : ConfigAppliedMetadata} (h : Inv s) :
    Inv (openProbe s socket bytes key moment applied) := by
  unfold openProbe
  dsimp only
  split
  · exact finish_inv (quiet_inv h ⟨rfl, rfl, rfl⟩)
  · split
    · exact fail_inv (quiet_inv h ⟨rfl, rfl, rfl⟩)
    · have hdrawn (event : Event) : Inv (({ s with drawn := s.drawn + 1 }).record event) :=
        record_inv (drawn_inv h 1)
      split
      · exact fail_inv (quiet_inv (hdrawn _) ⟨rfl, rfl, rfl⟩)
      · split
        · exact fail_inv (quiet_inv (hdrawn _) ⟨rfl, rfl, rfl⟩)
        · exact await_inv (quiet_inv (hdrawn _) ⟨rfl, rfl, rfl⟩)

theorem handleConfigApplied_inv {moment : Moment} {applied : ConfigAppliedMetadata}
    (h : Inv s) : Inv (handleConfigApplied s socket bytes key moment applied) := by
  unfold handleConfigApplied
  dsimp only
  have hreject : Inv (s.rejectCarrier socket bytes) := rejectCarrier_inv h
  split
  · split_ifs
    · exact finish_inv h
    · exact hreject
  · split_ifs
    · exact hreject
    · exact hreject
    · exact hreject
    · exact hreject
    · exact openProbe_inv h

theorem handleProbeData_inv {probe : Probe} {payload : List UInt8} (h : Inv s) :
    Inv (handleProbeData s socket bytes key probe payload) := by
  unfold handleProbeData
  dsimp only
  split
  · exact fail_inv h
  · split_ifs
    · exact fail_inv (quiet_inv h ⟨rfl, rfl, rfl⟩)
    · exact await_inv (record_inv (quiet_inv h ⟨rfl, rfl, rfl⟩))

theorem activate_inv {ctx : Context} {moment : Moment} {canActivate : Bool} (h : Inv s) :
    Inv (activate ctx s socket bytes key moment canActivate) := by
  have hcommitted {next : State} {event : Event} {generation other : ℕ} (hnext : Inv next) :
      Inv (if generation ≠ other then (next.record event).fail socket bytes
        else (next.record event).await socket bytes .activating) := by
    split_ifs
    · exact fail_inv (record_inv hnext)
    · exact await_inv (record_inv hnext)
  have hfail : Inv (s.fail socket bytes) := fail_inv h
  unfold activate
  dsimp only
  split
  · rename_i hcreating
    rw [hcreating]
    exact hcommitted (setSession_inv h rfl (Or.inr trivial))
  · split
    · exact hfail
    · rename_i attemptId hattempt
      cases htransition : (s.heap key).lifecycle.transitionSession ctx.sessionPolicy
          (.RESUME_COMMITTED moment.now attemptId) with
      | error error => exact hfail
      | ok next =>
        rcases transitionSession_resumeCommitted htransition with
          ⟨reason, rfl⟩ | ⟨state, -, -, rfl⟩
        · exact finish_inv (expired_inv h reason moment.now)
        · exact hcommitted (setSession_inv h rfl (Or.inr trivial))

theorem handleProbeEnd_inv {ctx : Context} {moment : Moment} {probe : Probe} (h : Inv s) :
    Inv (handleProbeEnd ctx s socket bytes key moment probe) := by
  unfold handleProbeEnd
  dsimp only
  have hended : Inv (s.setSession key
      { s.heap key with probe := some { probe with clientEnded := true } }) :=
    quiet_inv h ⟨rfl, rfl, rfl⟩
  have hreject := hended.bookkeeping (rejectCarrier_bookkeeping _ socket bytes)
  split_ifs
  · exact fail_inv h
  · exact hreject
  · exact hreject
  · exact hreject
  · split
    · refine fail_inv (quiet_inv hended ?_)
      simp [SamePlace]
    · refine activate_inv (quiet_inv hended ?_)
      simp [SamePlace]

theorem handleProbeFrame_inv {ctx : Context} {moment : Moment} {frame : Frame} (h : Inv s) :
    Inv (handleProbeFrame ctx s socket bytes key moment frame) := by
  have hfail : Inv (s.fail socket bytes) := fail_inv h
  unfold handleProbeFrame
  split
  · exact hfail
  · split
    · split_ifs
      · exact hfail
      · split
        · exact hfail
        · exact finish_inv (quiet_inv h ⟨rfl, rfl, rfl⟩)
    · split_ifs
      · exact hfail
      · exact handleProbeData_inv h
    · split_ifs
      · exact hfail
      · exact handleProbeEnd_inv h
    · exact hfail

theorem handleActive_inv {frame : Frame} (h : Inv s) :
    Inv (handleActive s socket bytes key frame) := by
  unfold handleActive
  split
  · refine finish_inv (h.quiets (Quiets.trans ?_ (disposeGatewaySession_quiets _ key)))
    exact bookkeeping_quiets (setCarrier_bookkeeping s socket ⟨rfl, rfl, rfl, rfl⟩)
  · exact fail_inv h
  · split_ifs
    · exact finish_inv h
    · exact rejectCarrier_inv h
  · exact await_inv (record_inv h)

theorem handleFrame_inv {ctx : Context} {moment : Moment} {envelope : Envelope} (h : Inv s) :
    Inv (handleFrame ctx s socket bytes key moment envelope) := by
  unfold handleFrame
  dsimp only
  split
  · exact fail_inv h
  · split
    · exact finish_inv h
    · split
      · exact finish_inv h
      · exact await_inv h
      · split
        · exact handleActive_inv h
        · split
          · exact fail_inv h
          · exact handleConfigApplied_inv h
          · exact handleProbeFrame_inv h

theorem runHandler_inv {ctx : Context} {message : Message} {moment : Moment} (h : Inv s)
    (hguard : (s.carriers socket).cleanedUp = true →
      acceptsHello ctx s socket message moment = false) :
    Inv (runHandler ctx s socket message moment) := by
  unfold runHandler
  dsimp only
  split
  · exact finish_inv h
  · rename_i hreceive
    split
    · exact fail_inv h
    · rename_i envelope hmessage
      split
      · rename_i hsession
        exact handleHello_inv h hmessage (by simpa using hreceive) hsession hguard
      · exact handleFrame_inv h

theorem resumeHandler_inv {point : Await} (h : Inv s) :
    Inv (resumeHandler s socket bytes point) := by
  have hfinish : Inv (s.finish socket bytes) := finish_inv h
  cases point with
  | rejecting => exact finish_inv (closeSocket_inv h)
  | provisioning key =>
    simp only [resumeHandler]
    split_ifs
    · exact hfinish
    · exact await_inv h
  | configuring key transport config => exact finish_inv (record_inv h)
  | probeOpening key transport probe =>
    simp only [resumeHandler]
    split_ifs
    · exact hfinish
    · split
      · exact fail_inv h
      · exact await_inv (quiet_inv h ⟨rfl, rfl, rfl⟩)
  | probeSending key transport probe =>
    simp only [resumeHandler]
    split_ifs
    · exact hfinish
    · exact await_inv h
  | probeCrediting key transport probeId streamId credit =>
    simp only [resumeHandler]
    split_ifs
    · exact hfinish
    · split
      · exact fail_inv h
      · exact finish_inv (quiet_inv h ⟨rfl, rfl, rfl⟩)
  | ponging => exact hfinish
  | probeEnding => exact hfinish
  | activating => exact hfinish
  | application => exact hfinish

/-- A socket may be cleaned up once the session it holds is gone or settled. -/
theorem cleaned_inv {final : State} (h : Inv s)
    (hfinal : Quiets (s.setCarrier socket
      { s.carriers socket with cleanedUp := true, isOpen := false }) final)
    (hheld : ∀ key, (s.carriers socket).session = some key → final.isRegistered key = true →
      (s.heap key).socket = socket → Settled (final.heap key).lifecycle) : Inv final := by
  refine h.quiets ⟨hfinal.sessions, hfinal.tunnelId, hfinal.sessionCount, hfinal.drawn, ?_, ?_⟩
  · intro other
    rw [hfinal.attempts]
    by_cases hother : other = socket
    · subst hother
      simp
    · rw [setCarrier_of_ne _ _ _ hother]
  · intro key hregistered
    have hbefore : s.isRegistered key = true := hfinal.isRegistered hregistered
    rcases hfinal.undisturbed key hregistered with ⟨hlifecycle, hsocket, hclosure⟩ | hsettled
    · by_cases hown : (s.heap key).socket = socket
      · -- Whoever still waits on this socket is the session in its closure.
        right
        by_cases hkey : (s.carriers socket).session = some key
        · exact hheld key hkey hregistered hown
        · rw [hlifecycle]
          change Settled (s.heap key).lifecycle
          cases hstate : (s.heap key).lifecycle with
          | CREATING =>
            have hheldBy := (h.creating key hbefore hstate).1
            rw [hown] at hheldBy
            exact hkey hheldBy
          | RECONNECTING state =>
            by_contra hcandidate
            obtain ⟨attemptId, hattempt⟩ := Option.ne_none_iff_exists'.mp hcandidate
            have hheldBy := (h.candidate key state attemptId hbefore hstate hattempt).1
            rw [hown] at hheldBy
            exact hkey hheldBy
          | _ => trivial
      · refine Or.inl ⟨hlifecycle, hsocket, ?_⟩
        rw [setCarrier_heap, setCarrier_of_ne _ _ _ hown] at hclosure
        exact hclosure
    · exact Or.inr hsettled

theorem not_isRegistered_remove (s : State) (key : ℕ) : (s.remove key).isRegistered key ≠ true := by
  unfold State.remove
  split_ifs with hregistered
  · simp [State.isRegistered]
  · exact hregistered

theorem applySessionTransition_lifecycle (s : State) (key : ℕ) (next : SessionState) :
    ((s.applySessionTransition key next).1.heap key).lifecycle = next := by
  cases next with
  | EXPIRED reason closedAt =>
    simp only [State.applySessionTransition, State.disposeGatewaySession]
    split_ifs
    · simp only [closeSocket, setCarrier_heap, State.remove]
      split_ifs
      · simp [disposeActivationCandidate]
      · simp [disposeActivationCandidate]
    · simp
  | _ => simp [State.applySessionTransition]

theorem settled_carrierLost {policy : SessionPolicy} {state : ActiveState} {next : SessionState}
    {now : ℕ} (h : (SessionState.ACTIVE state).transitionSession policy (.CARRIER_LOST now) =
      .ok next) : Settled next := by
  rcases transitionSession_ok h with hstate | ⟨reason, rfl⟩ | ⟨active, -, hnext⟩ | ⟨_, hstate, -⟩
  · cases hstate
  · trivial
  · cases hnext
    rfl
  · cases hstate

/-- The candidate's own attempt can always be given up. -/
theorem settled_resumeFailed {state : ReconnectingState} {attemptId : ℕ}
    (policy : SessionPolicy) (now : ℕ) (hattempt : state.candidateAttemptId = some attemptId) :
    ∃ next, (SessionState.RECONNECTING state).transitionSession policy
      (.RESUME_FAILED now attemptId) = .ok next ∧ Settled next := by
  simp only [transitionSession]
  cases hexpire : expireReconnectIfNeeded state now policy with
  | some expired =>
    obtain ⟨reason, rfl⟩ := expireReconnectIfNeeded_some hexpire
    refine ⟨.EXPIRED reason now, ?_, trivial⟩
    simp only [SessionEvent.now, hexpire]
  | none =>
    refine ⟨.RECONNECTING (withoutCandidate state), ?_, rfl⟩
    simp [SessionEvent.now, hexpire, transitionReconnecting, hattempt]

theorem cleanup_inv {ctx : Context} {now : ℕ} (h : Inv s) : Inv (cleanup ctx s socket now) := by
  unfold cleanup
  dsimp only
  split
  · rename_i hsession
    refine cleaned_inv h (.refl _) fun key hkey => ?_
    rw [hsession] at hkey
    cases hkey
  · rename_i key hsession
    split_ifs with hstale hterminal
    · refine cleaned_inv h (.refl _) fun other hother hregistered hown => ?_
      cases hsession.symm.trans hother
      rcases hstale with hgone | hmoved
      · change s.isRegistered key = true at hregistered
        simp [hregistered] at hgone
      · exact absurd hown hmoved
    · refine cleaned_inv h ((disposeActivationCandidate_quiets _ key).trans
        (remove_quiets _ key)) fun other hother hregistered => ?_
      cases hsession.symm.trans hother
      exact absurd hregistered (not_isRegistered_remove _ key)
    · simp only [not_or, Bool.not_eq_true', Bool.not_eq_false, not_not] at hstale
      have hdispose := disposeActivationCandidate_quiets (s.setCarrier socket
        { s.carriers socket with cleanedUp := true, isOpen := false }) key
      have hlifecycle : (((s.setCarrier socket { s.carriers socket with
          cleanedUp := true, isOpen := false }).disposeActivationCandidate key).heap
            key).lifecycle = (s.heap key).lifecycle := by
        simp [disposeActivationCandidate]
      rw [hlifecycle]
      cases hstate : (s.heap key).lifecycle with
      | CREATING =>
        refine cleaned_inv h (hdispose.trans (remove_quiets _ key))
          fun other hother hregistered => ?_
        cases hsession.symm.trans hother
        exact absurd hregistered (not_isRegistered_remove _ key)
      | ACTIVE state =>
        dsimp only
        cases htransition : (SessionState.ACTIVE state).transitionSession ctx.sessionPolicy
            (.CARRIER_LOST now) with
        | ok next =>
          have hsettled := settled_carrierLost htransition
          refine cleaned_inv h (hdispose.trans (applySessionTransition_quiets _ key hsettled))
            fun other hother _ _ => ?_
          cases hsession.symm.trans hother
          rw [applySessionTransition_lifecycle]
          exact hsettled
        | error =>
          refine cleaned_inv h hdispose fun other hother _ _ => ?_
          cases hsession.symm.trans hother
          rw [hlifecycle, hstate]
          trivial
      | RECONNECTING state =>
        dsimp only
        split_ifs with hown
        · obtain ⟨attemptId, hattempt⟩ := Option.isSome_iff_exists.mp hown.1
          obtain ⟨next, htransition, hsettled⟩ :=
            settled_resumeFailed ctx.sessionPolicy now (hown.2.trans hattempt)
          rw [show (s.carriers socket).resumeAttemptId.getD 0 = attemptId by
            rw [hattempt]; rfl, htransition]
          refine cleaned_inv h (hdispose.trans
            (applySessionTransition_quiets _ key hsettled)) fun other hother _ _ => ?_
          cases hsession.symm.trans hother
          rw [applySessionTransition_lifecycle]
          exact hsettled
        · refine cleaned_inv h hdispose fun other hother hregistered _ => ?_
          cases hsession.symm.trans hother
          rw [hlifecycle, hstate]
          by_contra hcandidate
          obtain ⟨attemptId, hattempt⟩ := Option.ne_none_iff_exists'.mp hcandidate
          have hheld := (h.candidate key state attemptId hstale.1 hstate hattempt).2.1
          rw [hstale.2] at hheld
          exact hown ⟨by rw [hheld]; rfl, hattempt.trans hheld.symm⟩
      | _ =>
        refine cleaned_inv h hdispose fun other hother _ _ => ?_
        cases hsession.symm.trans hother
        rw [hlifecycle, hstate]
        trivial

theorem settled_stream_or_tick {policy : SessionPolicy} {state next : SessionState}
    {event : SessionEvent} (hevent : isStreamOrTick event = true)
    (h : state.transitionSession policy event = .ok next) : next = state ∨ Settled next := by
  rcases transitionSession_ok h with rfl | ⟨reason, rfl⟩ | ⟨active, rfl, hnext⟩ |
    ⟨reconnecting, rfl, hnext⟩
  · cases event <;> simp [isStreamOrTick, transitionSession] at hevent h
  · exact Or.inr trivial
  · cases event with
    | STREAM_OPEN => cases hnext; exact Or.inr trivial
    | TICK => cases hnext; exact Or.inl rfl
    | STREAM_CLOSED =>
      simp only [transitionActive] at hnext
      split at hnext
      · cases hnext
      · cases hnext
        exact Or.inr trivial
    | _ => simp [isStreamOrTick] at hevent
  · cases event with
    | TICK => cases hnext; exact Or.inl rfl
    | STREAM_OPEN => cases hnext
    | STREAM_CLOSED => cases hnext
    | _ => simp [isStreamOrTick] at hevent

theorem lifecycle_inv {ctx : Context} {event : SessionEvent} {next : SessionState} (h : Inv s)
    (hevent : isStreamOrTick event = true)
    (htransition : (s.heap key).lifecycle.transitionSession ctx.sessionPolicy event = .ok next) :
    Inv (s.applySessionTransition key next).1 := by
  rcases settled_stream_or_tick hevent htransition with rfl | hsettled
  · have hsame : Inv (s.setSession key { s.heap key with lifecycle := (s.heap key).lifecycle }) :=
      quiet_inv h ⟨rfl, rfl, rfl⟩
    cases hstate : (s.heap key).lifecycle with
    | EXPIRED =>
      rw [← hstate]
      exact h.quiets (applySessionTransition_quiets s key (by rw [hstate]; trivial))
    | _ => simpa [State.applySessionTransition, hstate] using hsame
  · exact h.quiets (applySessionTransition_quiets s key hsettled)

theorem receiveMessage_inv {ctx : Context} {message : Message} (h : Inv s) :
    Inv (receiveMessage ctx s socket message) := by
  unfold receiveMessage
  dsimp only
  split_ifs
  · exact h
  · exact h.bookkeeping (setCarrier_bookkeeping s socket ⟨rfl, rfl, rfl, rfl⟩)
  · exact h.bookkeeping (setCarrier_bookkeeping s socket ⟨rfl, rfl, rfl, rfl⟩)

/-- Taking the message off the queue changes nothing that `acceptsHello` reads. -/
theorem acceptsHello_dequeue (ctx : Context) (s : State) (socket : ℕ) (rest : List Message)
    (message : Message) (moment : Moment) :
    acceptsHello ctx (s.dequeue socket rest) socket message moment =
      acceptsHello ctx s socket message moment := by
  have hcarrier : (s.dequeue socket rest).carriers socket =
      { s.carriers socket with receiveQueue := rest } := setCarrier_self _ _ _
  simp only [acceptsHello, hcarrier]
  rfl

theorem step_inv {ctx : Context} {label : Label} (h : Inv s)
    (hguard : GreetsBeforeCleanup ctx s label) (hstep : step ctx s label = some s') : Inv s' := by
  cases label with
  | message socket message =>
    cases hstep
    exact receiveMessage_inv h
  | controlFrame socket =>
    simp only [step] at hstep
    split_ifs at hstep
    cases hstep
    exact h.bookkeeping (setCarrier_bookkeeping s socket ⟨rfl, rfl, rfl, rfl⟩)
  | run socket moment =>
    obtain ⟨message, rest, -, hqueue, rfl⟩ := step_run hstep
    simp only [GreetsBeforeCleanup, hqueue] at hguard
    apply runHandler_inv (h.bookkeeping (dequeue_bookkeeping s socket rest))
    intro hcleaned
    have haccepts := hguard (by simpa [dequeue] using hcleaned)
    rwa [acceptsHello_dequeue]
  | sendSettles socket succeeded =>
    obtain ⟨point, bytes, -, rfl | rfl⟩ := step_sendSettles hstep
    · exact resumeHandler_inv h
    · exact fail_inv h
  | socketCloses socket =>
    cases hstep
    exact closeSocket_inv h
  | cleanup socket now =>
    simp only [step] at hstep
    split_ifs at hstep
    cases hstep
    exact cleanup_inv h
  | lifecycle key event =>
    simp only [step] at hstep
    split_ifs at hstep with hevent
    simp only [not_or, Bool.not_eq_true', Bool.not_eq_false] at hevent
    cases htransition : (s.heap key).lifecycle.transitionSession ctx.sessionPolicy event with
    | error => simp [htransition] at hstep
    | ok next =>
      simp only [htransition, Option.some.injEq] at hstep
      rw [← hstep]
      exact lifecycle_inv h hevent.1 htransition
  | terminate key =>
    cases hstep
    exact h.quiets (disposeGatewaySession_quiets s key)

end Steps

/-- In every run in which no cleaned-up socket accepts a queued HELLO, a socket that has been
cleaned up and whose handlers have finished holds no session that is being created and no
resume candidate. -/
theorem no_orphaned_session (ctx : Context)
    (authorizations : ℕ → Option DeveloperAuthorization) (schedule : List Label) (s : State)
    (hguard : Execution.Guarded (step ctx) (GreetsBeforeCleanup ctx) (start authorizations)
      schedule)
    (hrun : Execution.run (step ctx) (start authorizations) schedule = some s)
    (socket : ℕ) (hfinished : Finished s socket) (key : ℕ) : ¬ Orphan s socket key :=
  (Execution.invariant_of_guarded (fun _ _ _ h hguard hstep => step_inv h hguard hstep)
    (start_inv authorizations) hguard hrun).not_orphan hfinished.1

-- The carrier is lost while the new session's configuration is being sent.
theorem no_orphaned_session_lost_carrier :
    ∃ s, Execution.run (step openGateway) (start fun _ => none)
        [.message 0 helloCreate, .run 0 noon, .sendSettles 0 true, .cleanup 0 10,
          .sendSettles 0 false] = some s ∧
      Finished s 0 ∧ ¬ Orphan s 0 0 := by
  refine ⟨_, rfl, ⟨rfl, rfl, rfl⟩, ?_⟩
  exact no_orphaned_session openGateway (fun _ => none)
    [.message 0 helloCreate, .run 0 noon, .sendSettles 0 true, .cleanup 0 10,
      .sendSettles 0 false] _ (by decide) rfl 0 ⟨rfl, rfl, rfl⟩ 0

/-- The socket's `error` event overtakes the handler of its HELLO: `cleanup` sees no session,
the handler then registers one, and nothing removes it. -/
theorem orphaned_session :
    ∃ s, Execution.run (step openGateway) (start fun _ => none)
        [.message 0 helloCreate, .cleanup 0 10, .run 0 noon, .sendSettles 0 false] = some s ∧
      Finished s 0 ∧ Orphan s 0 0 :=
  ⟨_, rfl, ⟨rfl, rfl, rfl⟩, rfl, Or.inl ⟨rfl, rfl⟩⟩

end Lotur.Gateway.CarrierCleanup
