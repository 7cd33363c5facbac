import Mathlib.Data.Nat.Basic
import Mathlib.Tactic

/-! The session life cycle: `session-policy.ts` and `transitionSession` of `session-state.ts`.
Times are milliseconds, and attempt ids are random strings that are only compared. -/
namespace Lotur

structure SessionPolicy where
  maxTtlMs : ℕ
  idleTimeoutMs : ℕ
  reconnectGraceMs : ℕ
  deriving DecidableEq, Repr

def DEFAULT_SESSION_POLICY : SessionPolicy :=
  { maxTtlMs := 8 * 60 * 60000, idleTimeoutMs := 30 * 60000, reconnectGraceMs := 2 * 60000 }

def getSessionDeadline (activatedAt lastStreamClosedAt activeStreamCount : ℕ)
    (policy : SessionPolicy) : ℕ :=
  let maxDeadline := activatedAt + policy.maxTtlMs
  if activeStreamCount > 0 then maxDeadline
  else min maxDeadline (lastStreamClosedAt + policy.idleTimeoutMs)

def isResumeAllowed (now disconnectedAt : ℕ) (policy : SessionPolicy) : Bool :=
  disconnectedAt ≤ now && now ≤ disconnectedAt + policy.reconnectGraceMs

inductive CloseReason
  | USER_REQUEST
  | MAX_TTL
  | IDLE_TIMEOUT
  | RECONNECT_TIMEOUT
  deriving DecidableEq, Repr

structure ActiveState where
  activatedAt : ℕ
  generation : ℕ
  activeStreamCount : ℕ
  lastStreamClosedAt : ℕ
  deriving DecidableEq, Repr

structure ReconnectingState where
  activatedAt : ℕ
  generation : ℕ
  disconnectedAt : ℕ
  lastStreamClosedAt : ℕ
  candidateAttemptId : Option ℕ
  candidateGeneration : Option ℕ
  lastIssuedGeneration : Option ℕ
  deriving DecidableEq, Repr

inductive SessionState
  | CREATING
  | ACTIVE (state : ActiveState)
  | RECONNECTING (state : ReconnectingState)
  | EXPIRED (reason : CloseReason) (closedAt : ℕ)
  | CLOSED (reason : CloseReason) (closedAt : ℕ)
  deriving DecidableEq, Repr

inductive SessionEvent
  | ACTIVATE (now : ℕ)
  | STREAM_OPEN (now : ℕ)
  | STREAM_CLOSED (now : ℕ)
  | CARRIER_LOST (now : ℕ)
  | START_RESUME (now attemptId : ℕ)
  | RESUME_FAILED (now attemptId : ℕ)
  | RESUME_COMMITTED (now attemptId : ℕ)
  | TICK (now : ℕ)
  | CLOSE (now : ℕ)
  deriving DecidableEq, Repr

def SessionEvent.now : SessionEvent → ℕ
  | .ACTIVATE now | .STREAM_OPEN now | .STREAM_CLOSED now | .CARRIER_LOST now
  | .START_RESUME now _ | .RESUME_FAILED now _ | .RESUME_COMMITTED now _ | .TICK now
  | .CLOSE now => now

def SessionEvent.type : SessionEvent → String
  | .ACTIVATE _ => "ACTIVATE"
  | .STREAM_OPEN _ => "STREAM_OPEN"
  | .STREAM_CLOSED _ => "STREAM_CLOSED"
  | .CARRIER_LOST _ => "CARRIER_LOST"
  | .START_RESUME _ _ => "START_RESUME"
  | .RESUME_FAILED _ _ => "RESUME_FAILED"
  | .RESUME_COMMITTED _ _ => "RESUME_COMMITTED"
  | .TICK _ => "TICK"
  | .CLOSE _ => "CLOSE"

def SessionState.status : SessionState → String
  | .CREATING => "CREATING"
  | .ACTIVE _ => "ACTIVE"
  | .RECONNECTING _ => "RECONNECTING"
  | .EXPIRED _ _ => "EXPIRED"
  | .CLOSED _ _ => "CLOSED"

inductive SessionTransitionError
  | INVALID_TRANSITION (message : String)
  | RESUME_IN_PROGRESS (message : String)
  | STALE_RESUME_ATTEMPT (message : String)
  deriving DecidableEq, Repr

namespace SessionState

def invalid (state : SessionState) (event : SessionEvent) : SessionTransitionError :=
  .INVALID_TRANSITION (event.type ++ " is invalid from " ++ state.status)

/-- `expireReconnectIfNeeded`, with `none` for a state that has not expired. -/
def expireReconnectIfNeeded (state : ReconnectingState) (now : ℕ) (policy : SessionPolicy) :
    Option SessionState :=
  if now ≥ state.activatedAt + policy.maxTtlMs then some (.EXPIRED .MAX_TTL now)
  else if isResumeAllowed now state.disconnectedAt policy then none
  else some (.EXPIRED .RECONNECT_TIMEOUT now)

def expireActiveIfNeeded (state : ActiveState) (now : ℕ) (policy : SessionPolicy) :
    Option SessionState :=
  if now ≥ state.activatedAt + policy.maxTtlMs then some (.EXPIRED .MAX_TTL now)
  else if now ≥ getSessionDeadline state.activatedAt state.lastStreamClosedAt
      state.activeStreamCount policy then some (.EXPIRED .IDLE_TIMEOUT now)
  else none

def transitionActive (state : ActiveState) : SessionEvent →
    Except SessionTransitionError SessionState
  | .CLOSE now => .ok (.CLOSED .USER_REQUEST now)
  | .STREAM_OPEN _ =>
    .ok (.ACTIVE { state with activeStreamCount := state.activeStreamCount + 1 })
  | .STREAM_CLOSED now =>
    if state.activeStreamCount = 0 then .error (invalid (.ACTIVE state) (.STREAM_CLOSED now))
    else .ok (.ACTIVE { state with
      activeStreamCount := state.activeStreamCount - 1
      lastStreamClosedAt := if state.activeStreamCount = 1 then now
        else state.lastStreamClosedAt })
  | .CARRIER_LOST now => .ok (.RECONNECTING
      { activatedAt := state.activatedAt
        generation := state.generation
        disconnectedAt := now
        lastStreamClosedAt := now
        candidateAttemptId := none
        candidateGeneration := none
        lastIssuedGeneration := none })
  | .TICK _ => .ok (.ACTIVE state)
  | event => .error (invalid (.ACTIVE state) event)

def withoutCandidate (state : ReconnectingState) : ReconnectingState :=
  { state with candidateAttemptId := none, candidateGeneration := none }

def transitionReconnecting (state : ReconnectingState) : SessionEvent →
    Except SessionTransitionError SessionState
  | .CLOSE now => .ok (.CLOSED .USER_REQUEST now)
  | .START_RESUME _ attemptId =>
    if state.candidateAttemptId.isSome then
      .error (.RESUME_IN_PROGRESS "another resume candidate already exists")
    else
      let candidateGeneration := state.lastIssuedGeneration.getD state.generation + 1
      .ok (.RECONNECTING { state with
        candidateAttemptId := some attemptId
        candidateGeneration := some candidateGeneration
        lastIssuedGeneration := some candidateGeneration })
  | .RESUME_FAILED _ attemptId =>
    if state.candidateAttemptId ≠ some attemptId then
      .error (.STALE_RESUME_ATTEMPT "resume failure does not match current candidate")
    else .ok (.RECONNECTING (withoutCandidate state))
  | .RESUME_COMMITTED _ attemptId =>
    if state.candidateAttemptId ≠ some attemptId then
      .error (.STALE_RESUME_ATTEMPT "resume commit does not match current candidate")
    else .ok (.ACTIVE
      { activatedAt := state.activatedAt
        generation := state.candidateGeneration.getD (state.generation + 1)
        activeStreamCount := 0
        lastStreamClosedAt := state.lastStreamClosedAt })
  | .TICK _ => .ok (.RECONNECTING state)
  | event => .error (invalid (.RECONNECTING state) event)

/-- `transitionSession`: a session that is over refuses every event, a live one expires before
it looks at the event. -/
def transitionSession (policy : SessionPolicy) (state : SessionState) (event : SessionEvent) :
    Except SessionTransitionError SessionState :=
  match state with
  | .EXPIRED _ _ | .CLOSED _ _ => .error (invalid state event)
  | .CREATING =>
    match event with
    | .CLOSE now => .ok (.CLOSED .USER_REQUEST now)
    | .ACTIVATE now => .ok (.ACTIVE
        { activatedAt := now, generation := 1, activeStreamCount := 0, lastStreamClosedAt := now })
    | _ => .error (invalid state event)
  | .ACTIVE active =>
    match expireActiveIfNeeded active event.now policy with
    | some expired => .ok expired
    | none => transitionActive active event
  | .RECONNECTING reconnecting =>
    match expireReconnectIfNeeded reconnecting event.now policy with
    | some expired => .ok expired
    | none => transitionReconnecting reconnecting event

theorem expireActiveIfNeeded_some {state : ActiveState} {now : ℕ} {policy : SessionPolicy}
    {next : SessionState} (h : expireActiveIfNeeded state now policy = some next) :
    ∃ reason, next = .EXPIRED reason now := by
  unfold expireActiveIfNeeded at h
  split_ifs at h
  · exact ⟨_, (Option.some.inj h).symm⟩
  · exact ⟨_, (Option.some.inj h).symm⟩

theorem expireReconnectIfNeeded_some {state : ReconnectingState} {now : ℕ}
    {policy : SessionPolicy} {next : SessionState}
    (h : expireReconnectIfNeeded state now policy = some next) :
    ∃ reason, next = .EXPIRED reason now := by
  unfold expireReconnectIfNeeded at h
  split_ifs at h
  · exact ⟨_, (Option.some.inj h).symm⟩
  · exact ⟨_, (Option.some.inj h).symm⟩

/-- What an accepted event can do to a session that was activated before. -/
theorem transitionSession_ok {policy : SessionPolicy} {state next : SessionState}
    {event : SessionEvent} (h : transitionSession policy state event = .ok next) :
    state = .CREATING ∨ (∃ reason, next = .EXPIRED reason event.now) ∨
    (∃ active, state = .ACTIVE active ∧ transitionActive active event = .ok next) ∨
    ∃ reconnecting, state = .RECONNECTING reconnecting ∧
      transitionReconnecting reconnecting event = .ok next := by
  cases state with
  | CREATING => exact Or.inl rfl
  | EXPIRED => cases h
  | CLOSED => cases h
  | ACTIVE active =>
    simp only [transitionSession] at h
    cases hexpire : expireActiveIfNeeded active event.now policy with
    | none =>
      rw [hexpire] at h
      exact Or.inr (Or.inr (Or.inl ⟨active, rfl, h⟩))
    | some expired =>
      rw [hexpire] at h
      cases h
      exact Or.inr (Or.inl (expireActiveIfNeeded_some hexpire))
  | RECONNECTING reconnecting =>
    simp only [transitionSession] at h
    cases hexpire : expireReconnectIfNeeded reconnecting event.now policy with
    | none =>
      rw [hexpire] at h
      exact Or.inr (Or.inr (Or.inr ⟨reconnecting, rfl, h⟩))
    | some expired =>
      rw [hexpire] at h
      cases h
      exact Or.inr (Or.inl (expireReconnectIfNeeded_some hexpire))

/-- A resume starts only without a candidate, and makes the attempt the candidate. -/
theorem transitionSession_startResume {policy : SessionPolicy} {state next : SessionState}
    {now attemptId : ℕ}
    (h : transitionSession policy state (.START_RESUME now attemptId) = .ok next) :
    (∃ reason, next = .EXPIRED reason now) ∨
    ∃ reconnecting, state = .RECONNECTING reconnecting ∧
      reconnecting.candidateAttemptId = none ∧
      next = .RECONNECTING { reconnecting with
        candidateAttemptId := some attemptId
        candidateGeneration :=
          some (reconnecting.lastIssuedGeneration.getD reconnecting.generation + 1)
        lastIssuedGeneration :=
          some (reconnecting.lastIssuedGeneration.getD reconnecting.generation + 1) } := by
  rcases transitionSession_ok h with rfl | hexpired | ⟨active, -, hactive⟩ | ⟨state, hstate, hnext⟩
  · cases h
  · exact Or.inl hexpired
  · cases hactive
  · simp only [transitionReconnecting] at hnext
    split_ifs at hnext with hcandidate
    cases hnext
    exact Or.inr ⟨state, hstate, by simpa using hcandidate, rfl⟩

/-- Only the candidate's own attempt can be committed. -/
theorem transitionSession_resumeCommitted {policy : SessionPolicy} {state next : SessionState}
    {now attemptId : ℕ}
    (h : transitionSession policy state (.RESUME_COMMITTED now attemptId) = .ok next) :
    (∃ reason, next = .EXPIRED reason now) ∨
    ∃ reconnecting, state = .RECONNECTING reconnecting ∧
      reconnecting.candidateAttemptId = some attemptId ∧
      next = .ACTIVE
        { activatedAt := reconnecting.activatedAt
          generation := reconnecting.candidateGeneration.getD (reconnecting.generation + 1)
          activeStreamCount := 0
          lastStreamClosedAt := reconnecting.lastStreamClosedAt } := by
  rcases transitionSession_ok h with rfl | hexpired | ⟨active, -, hactive⟩ | ⟨state, hstate, hnext⟩
  · cases h
  · exact Or.inl hexpired
  · cases hactive
  · simp only [transitionReconnecting] at hnext
    split_ifs at hnext with hcandidate
    cases hnext
    exact Or.inr ⟨state, hstate, not_not.mp hcandidate, rfl⟩

end SessionState

end Lotur
