import Lotur.Protocol.SessionState

/-! Whole runs of `transitionSession`: a history holds the events that were accepted and the state
each of them returned, the newest first. An event that throws leaves the state as it is. -/
namespace Lotur

namespace SessionState

def INITIAL_SESSION_STATE : SessionState := .CREATING

/-- Every accepted event; a live session answers any event with its expiry when it is due. -/
inductive Accepted (policy : SessionPolicy) : SessionState → SessionEvent → SessionState → Prop
  | activate (now : ℕ) : Accepted policy .CREATING (.ACTIVATE now) (.ACTIVE
      { activatedAt := now, generation := 1, activeStreamCount := 0, lastStreamClosedAt := now })
  | ended (state : SessionState) (event : SessionEvent) (next : SessionState)
    (hover : (∃ reason, next = .EXPIRED reason event.now) ∨
      next = .CLOSED .USER_REQUEST event.now) : Accepted policy state event next
  | streamOpen (active : ActiveState) (now : ℕ)
    (hlive : now < active.activatedAt + policy.maxTtlMs) :
    Accepted policy (.ACTIVE active) (.STREAM_OPEN now)
      (.ACTIVE { active with activeStreamCount := active.activeStreamCount + 1 })
  | streamClosed (active : ActiveState) (now lastStreamClosedAt : ℕ)
    (hlive : now < active.activatedAt + policy.maxTtlMs) (hopen : 0 < active.activeStreamCount) :
    Accepted policy (.ACTIVE active) (.STREAM_CLOSED now) (.ACTIVE { active with
      activeStreamCount := active.activeStreamCount - 1
      lastStreamClosedAt := lastStreamClosedAt })
  | carrierLost (active : ActiveState) (now : ℕ)
    (hlive : now < active.activatedAt + policy.maxTtlMs) :
    Accepted policy (.ACTIVE active) (.CARRIER_LOST now) (.RECONNECTING
      { activatedAt := active.activatedAt
        generation := active.generation
        disconnectedAt := now
        lastStreamClosedAt := now
        candidateAttemptId := none
        candidateGeneration := none
        lastIssuedGeneration := none })
  | tickActive (active : ActiveState) (now : ℕ)
    (hlive : now < active.activatedAt + policy.maxTtlMs) :
    Accepted policy (.ACTIVE active) (.TICK now) (.ACTIVE active)
  | startResume (state : ReconnectingState) (now attemptId : ℕ)
    (hlive : now < state.activatedAt + policy.maxTtlMs)
    (hcandidate : state.candidateAttemptId = none) :
    Accepted policy (.RECONNECTING state) (.START_RESUME now attemptId) (.RECONNECTING { state with
      candidateAttemptId := some attemptId
      candidateGeneration := some (state.lastIssuedGeneration.getD state.generation + 1)
      lastIssuedGeneration := some (state.lastIssuedGeneration.getD state.generation + 1) })
  | resumeFailed (state : ReconnectingState) (now attemptId : ℕ)
    (hlive : now < state.activatedAt + policy.maxTtlMs)
    (hcandidate : state.candidateAttemptId = some attemptId) :
    Accepted policy (.RECONNECTING state) (.RESUME_FAILED now attemptId)
      (.RECONNECTING (withoutCandidate state))
  | resumeCommitted (state : ReconnectingState) (now attemptId : ℕ)
    (hlive : now < state.activatedAt + policy.maxTtlMs)
    (hcandidate : state.candidateAttemptId = some attemptId) :
    Accepted policy (.RECONNECTING state) (.RESUME_COMMITTED now attemptId) (.ACTIVE
      { activatedAt := state.activatedAt
        generation := state.candidateGeneration.getD (state.generation + 1)
        activeStreamCount := 0
        lastStreamClosedAt := state.lastStreamClosedAt })
  | tickReconnecting (state : ReconnectingState) (now : ℕ)
    (hlive : now < state.activatedAt + policy.maxTtlMs) :
    Accepted policy (.RECONNECTING state) (.TICK now) (.RECONNECTING state)

variable {policy : SessionPolicy} {state next : SessionState} {event : SessionEvent}

theorem live_of_expireActive {active : ActiveState} {now : ℕ}
    (h : expireActiveIfNeeded active now policy = none) :
    now < active.activatedAt + policy.maxTtlMs := by
  unfold expireActiveIfNeeded at h
  split_ifs at h
  omega

theorem live_of_expireReconnect {reconnecting : ReconnectingState} {now : ℕ}
    (h : expireReconnectIfNeeded reconnecting now policy = none) :
    now < reconnecting.activatedAt + policy.maxTtlMs := by
  unfold expireReconnectIfNeeded at h
  split_ifs at h
  omega

theorem accepted_active {active : ActiveState}
    (h : transitionSession policy (.ACTIVE active) event = .ok next) :
    Accepted policy (.ACTIVE active) event next := by
  simp only [transitionSession] at h
  cases hexpire : expireActiveIfNeeded active event.now policy with
  | some expired =>
    rw [hexpire] at h
    cases h
    exact .ended _ _ _ (Or.inl (expireActiveIfNeeded_some hexpire))
  | none =>
    rw [hexpire] at h
    have hlive := live_of_expireActive hexpire
    cases event with
    | CLOSE now =>
      cases h
      exact .ended _ _ _ (Or.inr rfl)
    | STREAM_OPEN now =>
      cases h
      exact .streamOpen active now hlive
    | STREAM_CLOSED now =>
      simp only [transitionActive] at h
      split_ifs at h with hcount
      · cases h
        exact .streamClosed active now _ hlive (by omega)
      · cases h
        exact .streamClosed active now _ hlive (by omega)
    | CARRIER_LOST now =>
      cases h
      exact .carrierLost active now hlive
    | TICK now =>
      cases h
      exact .tickActive active now hlive
    | ACTIVATE now => cases h
    | START_RESUME now attemptId => cases h
    | RESUME_FAILED now attemptId => cases h
    | RESUME_COMMITTED now attemptId => cases h

theorem accepted_reconnecting {reconnecting : ReconnectingState}
    (h : transitionSession policy (.RECONNECTING reconnecting) event = .ok next) :
    Accepted policy (.RECONNECTING reconnecting) event next := by
  simp only [transitionSession] at h
  cases hexpire : expireReconnectIfNeeded reconnecting event.now policy with
  | some expired =>
    rw [hexpire] at h
    cases h
    exact .ended _ _ _ (Or.inl (expireReconnectIfNeeded_some hexpire))
  | none =>
    rw [hexpire] at h
    have hlive := live_of_expireReconnect hexpire
    cases event with
    | CLOSE now =>
      cases h
      exact .ended _ _ _ (Or.inr rfl)
    | START_RESUME now attemptId =>
      simp only [transitionReconnecting] at h
      split_ifs at h with hcandidate
      cases h
      exact .startResume reconnecting now attemptId hlive (by simpa using hcandidate)
    | RESUME_FAILED now attemptId =>
      simp only [transitionReconnecting] at h
      split_ifs at h with hcandidate
      cases h
      exact .resumeFailed reconnecting now attemptId hlive (not_not.mp hcandidate)
    | RESUME_COMMITTED now attemptId =>
      simp only [transitionReconnecting] at h
      split_ifs at h with hcandidate
      cases h
      exact .resumeCommitted reconnecting now attemptId hlive (not_not.mp hcandidate)
    | TICK now =>
      cases h
      exact .tickReconnecting reconnecting now hlive
    | ACTIVATE now => cases h
    | STREAM_OPEN now => cases h
    | STREAM_CLOSED now => cases h
    | CARRIER_LOST now => cases h

theorem accepted_of_ok (h : transitionSession policy state event = .ok next) :
    Accepted policy state event next := by
  cases state with
  | CREATING =>
    simp only [transitionSession] at h
    split at h
    · cases h
      exact .ended _ _ _ (Or.inr rfl)
    · cases h
      exact .activate _
    · cases h
  | ACTIVE active => exact accepted_active h
  | RECONNECTING reconnecting => exact accepted_reconnecting h
  | EXPIRED reason closedAt => cases h
  | CLOSED reason closedAt => cases h

/-- When the session that the state belongs to was activated. -/
def activatedAt? : SessionState → Option ℕ
  | .ACTIVE active => some active.activatedAt
  | .RECONNECTING reconnecting => some reconnecting.activatedAt
  | _ => none

def isOver : SessionState → Bool
  | .EXPIRED _ _ => true
  | .CLOSED _ _ => true
  | _ => false

end SessionState

abbrev SessionHistory := List (SessionEvent × SessionState)

namespace SessionHistory

open SessionState

def state : SessionHistory → SessionState
  | [] => INITIAL_SESSION_STATE
  | (_, next) :: _ => next

def record (policy : SessionPolicy) (history : SessionHistory) (event : SessionEvent) :
    SessionHistory :=
  match transitionSession policy history.state event with
  | .error _ => history
  | .ok next => (event, next) :: history

def run (policy : SessionPolicy) (events : List SessionEvent) : SessionHistory :=
  events.foldl (record policy) []

/-- The attempt of the last START_RESUME, unless it has failed or was committed. -/
def pendingAttempt : SessionHistory → Option ℕ
  | [] => none
  | (.START_RESUME _ attemptId, .RECONNECTING _) :: _ => some attemptId
  | (.RESUME_FAILED _ _, _) :: _ => none
  | (.RESUME_COMMITTED _ _, _) :: _ => none
  | _ :: history => pendingAttempt history

/-- The generations that START_RESUME handed out. -/
def candidateGenerations : SessionHistory → List ℕ
  | [] => []
  | (.START_RESUME _ _, .RECONNECTING reconnecting) :: history =>
    reconnecting.candidateGeneration.toList ++ candidateGenerations history
  | _ :: history => candidateGenerations history

/-- The generations under which a carrier became active. -/
def activeGenerations : SessionHistory → List ℕ
  | [] => []
  | (.ACTIVATE _, .ACTIVE active) :: history => active.generation :: activeGenerations history
  | (.RESUME_COMMITTED _ _, .ACTIVE active) :: history =>
    active.generation :: activeGenerations history
  | _ :: history => activeGenerations history

/-- The time of the accepted ACTIVATE. -/
def activationTime : SessionHistory → Option ℕ
  | [] => none
  | (.ACTIVATE now, .ACTIVE _) :: _ => some now
  | _ :: history => activationTime history

/-- The accepted STREAM_OPEN since the last activation or resume. -/
def streamsOpened : SessionHistory → ℕ
  | [] => 0
  | (.ACTIVATE _, _) :: _ => 0
  | (.RESUME_COMMITTED _ _, _) :: _ => 0
  | (.STREAM_OPEN _, .ACTIVE _) :: history => streamsOpened history + 1
  | _ :: history => streamsOpened history

/-- The accepted STREAM_CLOSED since then. -/
def streamsClosed : SessionHistory → ℕ
  | [] => 0
  | (.ACTIVATE _, _) :: _ => 0
  | (.RESUME_COMMITTED _ _, _) :: _ => 0
  | (.STREAM_CLOSED _, .ACTIVE _) :: history => streamsClosed history + 1
  | _ :: history => streamsClosed history

/-- What the history says about a state that it ends in. -/
def Describes (history : SessionHistory) : SessionState → Prop
  | .CREATING => history = []
  | .ACTIVE active =>
    history.activationTime = some active.activatedAt ∧ history.pendingAttempt = none ∧
      (∀ generation ∈ history.candidateGenerations, generation ≤ active.generation) ∧
      (∃ earlier, history.activeGenerations = active.generation :: earlier) ∧
      active.activeStreamCount + history.streamsClosed = history.streamsOpened
  | .RECONNECTING reconnecting =>
    history.activationTime = some reconnecting.activatedAt ∧
      history.pendingAttempt = reconnecting.candidateAttemptId ∧
      (∀ generation ∈ history.candidateGenerations,
        generation ≤ reconnecting.lastIssuedGeneration.getD reconnecting.generation) ∧
      (∃ earlier, history.activeGenerations = reconnecting.generation :: earlier) ∧
      reconnecting.generation ≤ reconnecting.lastIssuedGeneration.getD reconnecting.generation ∧
      (reconnecting.candidateAttemptId.isSome = true → ∃ generation,
        reconnecting.candidateGeneration = some generation ∧
        reconnecting.lastIssuedGeneration = some generation ∧
        reconnecting.generation < generation)
  | _ => True

structure Inv (policy : SessionPolicy) (history : SessionHistory) : Prop where
  describes : history.Describes history.state
  candidates : history.candidateGenerations.Pairwise (· > ·)
  actives : history.activeGenerations.Pairwise (· > ·)
  activated : ∀ entry ∈ history, ∀ time, entry.2.activatedAt? = some time →
    history.activationTime = some time ∧ entry.1.now < time + policy.maxTtlMs

variable {policy : SessionPolicy} {history : SessionHistory} {event : SessionEvent}
  {next : SessionState}

/-- The activation time stays, and the new state was returned before the session's end. -/
theorem Inv.activated_cons (h : Inv policy history)
    (hkept : activationTime ((event, next) :: history) = history.activationTime)
    (hnext : ∀ time, next.activatedAt? = some time →
      history.activationTime = some time ∧ event.now < time + policy.maxTtlMs) :
    ∀ entry ∈ (event, next) :: history, ∀ time, entry.2.activatedAt? = some time →
      activationTime ((event, next) :: history) = some time ∧
        entry.1.now < time + policy.maxTtlMs := by
  intro entry hentry time htime
  rw [hkept]
  rcases List.mem_cons.mp hentry with rfl | hmem
  · exact hnext time htime
  · exact h.activated entry hmem time htime

theorem inv_over (h : Inv policy history) (hover : (∃ reason, next = .EXPIRED reason event.now) ∨
    next = .CLOSED .USER_REQUEST event.now) : Inv policy ((event, next) :: history) := by
  obtain ⟨closedAt, reason, rfl⟩ | ⟨closedAt, reason, rfl⟩ :
      (∃ closedAt reason, next = .EXPIRED reason closedAt) ∨
        ∃ closedAt reason, next = .CLOSED reason closedAt := by
    rcases hover with ⟨reason, rfl⟩ | rfl
    · exact Or.inl ⟨_, _, rfl⟩
    · exact Or.inr ⟨_, _, rfl⟩
  all_goals
    refine ⟨trivial, ?_, ?_, h.activated_cons ?_ nofun⟩
    · cases event <;> exact h.candidates
    · cases event <;> exact h.actives
    · cases event <;> rfl

theorem inv_active {active active' : ActiveState} (h : Inv policy history)
    (hstate : history.state = .ACTIVE active)
    (hlive : event.now < active.activatedAt + policy.maxTtlMs)
    (hevent : (event = .TICK event.now ∧ active' = active) ∨
      (event = .STREAM_OPEN event.now ∧
        active' = { active with activeStreamCount := active.activeStreamCount + 1 }) ∨
      (event = .STREAM_CLOSED event.now ∧ 0 < active.activeStreamCount ∧
        ∃ lastStreamClosedAt, active' = { active with
          activeStreamCount := active.activeStreamCount - 1
          lastStreamClosedAt := lastStreamClosedAt })) :
    Inv policy ((event, .ACTIVE active') :: history) := by
  have hdescribes := h.describes
  rw [hstate] at hdescribes
  obtain ⟨htime, hpending, hbound, hactives, hcount⟩ := hdescribes
  have hactivated : ∀ time, (SessionState.ACTIVE active).activatedAt? = some time →
      history.activationTime = some time ∧ event.now < time + policy.maxTtlMs := by
    intro time hsome
    cases hsome
    exact ⟨htime, hlive⟩
  obtain ⟨hevent, rfl⟩ | ⟨hevent, rfl⟩ | ⟨hevent, hopen, lastStreamClosedAt, rfl⟩ := hevent
  · rw [hevent]
    exact ⟨⟨htime, hpending, hbound, hactives, hcount⟩, h.candidates, h.actives,
      h.activated_cons rfl (hevent ▸ hactivated)⟩
  · rw [hevent]
    refine ⟨⟨htime, hpending, hbound, hactives, ?_⟩, h.candidates, h.actives,
      h.activated_cons rfl (hevent ▸ hactivated)⟩
    show active.activeStreamCount + 1 + history.streamsClosed = history.streamsOpened + 1
    omega
  · rw [hevent]
    refine ⟨⟨htime, hpending, hbound, hactives, ?_⟩, h.candidates, h.actives,
      h.activated_cons rfl (hevent ▸ hactivated)⟩
    show active.activeStreamCount - 1 + (history.streamsClosed + 1) = history.streamsOpened
    omega

theorem inv_carrierLost {active : ActiveState} {now : ℕ} (h : Inv policy history)
    (hstate : history.state = .ACTIVE active)
    (hlive : now < active.activatedAt + policy.maxTtlMs) :
    Inv policy ((.CARRIER_LOST now, .RECONNECTING
      { activatedAt := active.activatedAt
        generation := active.generation
        disconnectedAt := now
        lastStreamClosedAt := now
        candidateAttemptId := none
        candidateGeneration := none
        lastIssuedGeneration := none }) :: history) := by
  have hdescribes := h.describes
  rw [hstate] at hdescribes
  obtain ⟨htime, hpending, hbound, hactives, -⟩ := hdescribes
  refine ⟨⟨htime, hpending, hbound, hactives, le_rfl, nofun⟩, h.candidates, h.actives,
    h.activated_cons rfl ?_⟩
  intro time hsome
  cases hsome
  exact ⟨htime, hlive⟩

theorem inv_startResume {reconnecting : ReconnectingState} {now attemptId : ℕ}
    (h : Inv policy history) (hstate : history.state = .RECONNECTING reconnecting)
    (hlive : now < reconnecting.activatedAt + policy.maxTtlMs) :
    Inv policy ((.START_RESUME now attemptId, .RECONNECTING { reconnecting with
      candidateAttemptId := some attemptId
      candidateGeneration :=
        some (reconnecting.lastIssuedGeneration.getD reconnecting.generation + 1)
      lastIssuedGeneration :=
        some (reconnecting.lastIssuedGeneration.getD reconnecting.generation + 1) }) ::
          history) := by
  have hdescribes := h.describes
  rw [hstate] at hdescribes
  obtain ⟨htime, -, hbound, hactives, hissued, -⟩ := hdescribes
  refine ⟨⟨htime, rfl, ?_, hactives, ?_, ?_⟩, ?_, h.actives, h.activated_cons rfl ?_⟩
  · intro generation hgeneration
    show generation ≤ reconnecting.lastIssuedGeneration.getD reconnecting.generation + 1
    rcases List.mem_cons.mp hgeneration with rfl | hmem
    · exact le_rfl
    · exact (hbound generation hmem).trans (Nat.le_succ _)
  · exact hissued.trans (Nat.le_succ _)
  · exact fun _ => ⟨_, rfl, rfl, Nat.lt_succ_of_le hissued⟩
  · refine List.Pairwise.cons ?_ h.candidates
    intro generation hgeneration
    exact Nat.lt_succ_of_le (hbound generation hgeneration)
  · intro time hsome
    cases hsome
    exact ⟨htime, hlive⟩

theorem inv_resumeFailed {reconnecting : ReconnectingState} {now attemptId : ℕ}
    (h : Inv policy history) (hstate : history.state = .RECONNECTING reconnecting)
    (hlive : now < reconnecting.activatedAt + policy.maxTtlMs) :
    Inv policy ((.RESUME_FAILED now attemptId,
      .RECONNECTING (withoutCandidate reconnecting)) :: history) := by
  have hdescribes := h.describes
  rw [hstate] at hdescribes
  obtain ⟨htime, -, hbound, hactives, hissued, -⟩ := hdescribes
  refine ⟨⟨htime, rfl, hbound, hactives, hissued, nofun⟩, h.candidates, h.actives,
    h.activated_cons rfl ?_⟩
  intro time hsome
  cases hsome
  exact ⟨htime, hlive⟩

theorem inv_tickReconnecting {reconnecting : ReconnectingState} {now : ℕ}
    (h : Inv policy history) (hstate : history.state = .RECONNECTING reconnecting)
    (hlive : now < reconnecting.activatedAt + policy.maxTtlMs) :
    Inv policy ((.TICK now, .RECONNECTING reconnecting) :: history) := by
  have hdescribes := h.describes
  rw [hstate] at hdescribes
  refine ⟨hdescribes, h.candidates, h.actives, h.activated_cons rfl ?_⟩
  intro time hsome
  cases hsome
  exact ⟨hdescribes.1, hlive⟩

/-- The committed generation is the one handed out last, above every generation before. -/
theorem inv_resumeCommitted {reconnecting : ReconnectingState} {now attemptId : ℕ}
    (h : Inv policy history) (hstate : history.state = .RECONNECTING reconnecting)
    (hlive : now < reconnecting.activatedAt + policy.maxTtlMs)
    (hcandidate : reconnecting.candidateAttemptId = some attemptId) :
    Inv policy ((.RESUME_COMMITTED now attemptId, .ACTIVE
      { activatedAt := reconnecting.activatedAt
        generation := reconnecting.candidateGeneration.getD (reconnecting.generation + 1)
        activeStreamCount := 0
        lastStreamClosedAt := reconnecting.lastStreamClosedAt }) :: history) := by
  have hdescribes := h.describes
  rw [hstate] at hdescribes
  obtain ⟨htime, -, hbound, ⟨earlier, hactives⟩, -, hgeneration⟩ := hdescribes
  obtain ⟨generation, hcandidateGeneration, hissued, hgreater⟩ :=
    hgeneration (by rw [hcandidate]; rfl)
  rw [hissued] at hbound
  have hactives' := h.actives
  rw [hactives] at hactives'
  rw [hcandidateGeneration]
  refine ⟨⟨htime, rfl, hbound, ⟨_, rfl⟩, rfl⟩, h.candidates, ?_, h.activated_cons rfl ?_⟩
  · refine List.Pairwise.cons ?_ h.actives
    intro other hother
    rw [hactives] at hother
    show generation > other
    rcases List.mem_cons.mp hother with rfl | hmem
    · exact hgreater
    · exact lt_trans (List.rel_of_pairwise_cons hactives' hmem) hgreater
  · intro time hsome
    cases hsome
    exact ⟨htime, hlive⟩

theorem inv_activate {now : ℕ} (hpolicy : 0 < policy.maxTtlMs) (h : Inv policy history)
    (hstate : history.state = .CREATING) :
    Inv policy ((.ACTIVATE now, .ACTIVE
      { activatedAt := now, generation := 1, activeStreamCount := 0,
        lastStreamClosedAt := now }) :: history) := by
  have hempty := h.describes
  rw [hstate] at hempty
  have hnil : history = [] := hempty
  subst hnil
  refine ⟨⟨rfl, rfl, nofun, ⟨[], rfl⟩, rfl⟩, List.Pairwise.nil, ?_, ?_⟩
  · exact List.Pairwise.cons nofun List.Pairwise.nil
  · intro entry hentry time hsome
    rw [List.mem_singleton.mp hentry] at hsome ⊢
    cases hsome
    exact ⟨rfl, Nat.lt_add_of_pos_right hpolicy⟩

theorem inv_accepted (hpolicy : 0 < policy.maxTtlMs) (h : Inv policy history)
    {state : SessionState} (hstate : history.state = state)
    (haccepted : Accepted policy state event next) : Inv policy ((event, next) :: history) := by
  cases haccepted with
  | activate now => exact inv_activate hpolicy h hstate
  | ended state event next hover => exact inv_over h hover
  | streamOpen active now hlive =>
    exact inv_active h hstate hlive (Or.inr (Or.inl ⟨rfl, rfl⟩))
  | streamClosed active now lastStreamClosedAt hlive hopen =>
    exact inv_active h hstate hlive (Or.inr (Or.inr ⟨rfl, hopen, _, rfl⟩))
  | carrierLost active now hlive => exact inv_carrierLost h hstate hlive
  | tickActive active now hlive => exact inv_active h hstate hlive (Or.inl ⟨rfl, rfl⟩)
  | startResume reconnecting now attemptId hlive hcandidate =>
    exact inv_startResume h hstate hlive
  | resumeFailed reconnecting now attemptId hlive hcandidate =>
    exact inv_resumeFailed h hstate hlive
  | resumeCommitted reconnecting now attemptId hlive hcandidate =>
    exact inv_resumeCommitted h hstate hlive hcandidate
  | tickReconnecting reconnecting now hlive => exact inv_tickReconnecting h hstate hlive

theorem record_inv (hpolicy : 0 < policy.maxTtlMs) (h : Inv policy history)
    (event : SessionEvent) : Inv policy (history.record policy event) := by
  unfold record
  split
  · exact h
  · rename_i next hok
    exact inv_accepted hpolicy h rfl (accepted_of_ok hok)

theorem foldl_inv (hpolicy : 0 < policy.maxTtlMs) (events : List SessionEvent)
    (h : Inv policy history) : Inv policy (events.foldl (record policy) history) := by
  induction events generalizing history with
  | nil => exact h
  | cons event events ih => exact ih (record_inv hpolicy h event)

theorem nil_inv : Inv policy [] :=
  ⟨rfl, List.Pairwise.nil, List.Pairwise.nil, nofun⟩

/-- The life cycle as a history shows it, the newest entry first. -/
structure Lifecycle (policy : SessionPolicy) (history : SessionHistory) : Prop where
  final : history.state.isOver = true → ∀ event,
    ∃ error, transitionSession policy history.state event = .error error
  oneCandidate : ∀ now attemptId reconnecting,
    transitionSession policy history.state (.START_RESUME now attemptId) =
      .ok (.RECONNECTING reconnecting) → history.pendingAttempt = none
  committed : ∀ now attemptId active,
    transitionSession policy history.state (.RESUME_COMMITTED now attemptId) =
      .ok (.ACTIVE active) → history.pendingAttempt = some attemptId
  failed : ∀ now attemptId reconnecting,
    transitionSession policy history.state (.RESUME_FAILED now attemptId) =
      .ok (.RECONNECTING reconnecting) → history.pendingAttempt = some attemptId
  candidates : history.candidateGenerations.Pairwise (· > ·)
  actives : history.activeGenerations.Pairwise (· > ·)
  generation : ∀ active, history.state = .ACTIVE active →
    history.activeGenerations.head? = some active.generation
  activated : ∀ entry ∈ history, ∀ time, entry.2.activatedAt? = some time →
    history.activationTime = some time ∧ entry.1.now < time + policy.maxTtlMs
  streams : ∀ active, history.state = .ACTIVE active →
    active.activeStreamCount + history.streamsClosed = history.streamsOpened

theorem final_of_over {state : SessionState} (h : state.isOver = true) (event : SessionEvent) :
    ∃ error, transitionSession policy state event = .error error := by
  cases state with
  | EXPIRED reason closedAt => exact ⟨_, rfl⟩
  | CLOSED reason closedAt => exact ⟨_, rfl⟩
  | CREATING => cases h
  | ACTIVE active => cases h
  | RECONNECTING reconnecting => cases h

/-- The history knows the candidate of a session that is reconnecting. -/
theorem Inv.pending {reconnecting : ReconnectingState} (h : Inv policy history)
    (hstate : history.state = .RECONNECTING reconnecting) :
    history.pendingAttempt = reconnecting.candidateAttemptId := by
  have hdescribes := h.describes
  rw [hstate] at hdescribes
  exact hdescribes.2.1

theorem Inv.lifecycle (h : Inv policy history) : Lifecycle policy history where
  final := final_of_over
  oneCandidate := by
    intro now attemptId reconnecting hok
    rcases transitionSession_startResume hok with ⟨reason, hexpired⟩ | ⟨state, hstate, hnone, -⟩
    · cases hexpired
    · rw [h.pending hstate, hnone]
  committed := by
    intro now attemptId active hok
    rcases transitionSession_resumeCommitted hok with ⟨reason, hexpired⟩ | ⟨state, hstate, hsome, -⟩
    · cases hexpired
    · rw [h.pending hstate, hsome]
  failed := by
    intro now attemptId reconnecting hok
    generalize hstate : history.state = state at hok
    cases accepted_of_ok hok with
    | ended _ _ _ hover => rcases hover with ⟨reason, hexpired⟩ | hclosed <;> contradiction
    | resumeFailed state now attemptId hlive hcandidate => rw [h.pending hstate, hcandidate]
  candidates := h.candidates
  actives := h.actives
  generation := by
    intro active hstate
    have hdescribes := h.describes
    rw [hstate] at hdescribes
    obtain ⟨-, -, -, ⟨earlier, hactives⟩, -⟩ := hdescribes
    rw [hactives]
    rfl
  activated := h.activated
  streams := by
    intro active hstate
    have hdescribes := h.describes
    rw [hstate] at hdescribes
    exact hdescribes.2.2.2.2

/-- Every sequence of events, whatever their times, from the initial state. -/
theorem session_lifecycle (policy : SessionPolicy) (hpolicy : 0 < policy.maxTtlMs)
    (events : List SessionEvent) : Lifecycle policy (run policy events) :=
  (foldl_inv hpolicy events nil_inv).lifecycle

/-- A carrier is lost, a first candidate fails and a second one is committed. -/
def resumedTwice : List SessionEvent :=
  [.ACTIVATE 10, .STREAM_OPEN 11, .CARRIER_LOST 12, .START_RESUME 13 1, .START_RESUME 13 2,
    .RESUME_FAILED 14 1, .START_RESUME 15 3, .RESUME_COMMITTED 16 1, .RESUME_COMMITTED 16 3,
    .STREAM_OPEN 17]

theorem session_lifecycle_resumed :
    (run DEFAULT_SESSION_POLICY resumedTwice).candidateGenerations = [3, 2] ∧
      (run DEFAULT_SESSION_POLICY resumedTwice).activeGenerations = [3, 1] ∧
      Lifecycle DEFAULT_SESSION_POLICY (run DEFAULT_SESSION_POLICY resumedTwice) :=
  ⟨by decide, by decide, session_lifecycle DEFAULT_SESSION_POLICY (by decide) resumedTwice⟩

end SessionHistory

end Lotur
