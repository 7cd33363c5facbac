import Lotur.Protocol.SessionRuns

/-! When a session that an event leaves active is over already: the durations that
`assertSessionConfigSnapshot` accepts, and the deadlines of whole runs with a clock that does not
go back. -/
namespace Lotur

namespace SessionPolicy

/-- The checks of `assertSessionConfigSnapshot` on the three durations. -/
structure Valid (policy : SessionPolicy) : Prop where
  maxTtlMs : 0 < policy.maxTtlMs ∧ policy.maxTtlMs ≤ 7 * 24 * 60 * 60000
  idleTimeoutMs : 0 < policy.idleTimeoutMs ∧ policy.idleTimeoutMs ≤ policy.maxTtlMs
  reconnectGraceMs : 0 < policy.reconnectGraceMs ∧ policy.reconnectGraceMs ≤ policy.maxTtlMs

end SessionPolicy

namespace SessionState

variable {policy : SessionPolicy} {state next : SessionState} {event : SessionEvent}
  {active : ActiveState} {reconnecting : ReconnectingState} {now : ℕ}

/-- A state that a TICK at this time would leave as it is, if it is active. -/
def Fresh (policy : SessionPolicy) (now : ℕ) (state : SessionState) : Prop :=
  ∀ active, state = .ACTIVE active →
    transitionSession policy (.ACTIVE active) (.TICK now) = .ok (.ACTIVE active)

theorem expireActiveIfNeeded_none_iff : expireActiveIfNeeded active now policy = none ↔
    now < active.activatedAt + policy.maxTtlMs ∧
      (active.activeStreamCount = 0 → now < active.lastStreamClosedAt + policy.idleTimeoutMs) := by
  unfold expireActiveIfNeeded getSessionDeadline
  dsimp only
  split_ifs <;> simp <;> omega

theorem fresh_active_iff : Fresh policy now (.ACTIVE active) ↔
    now < active.activatedAt + policy.maxTtlMs ∧
      (active.activeStreamCount = 0 → now < active.lastStreamClosedAt + policy.idleTimeoutMs) := by
  rw [← expireActiveIfNeeded_none_iff]
  constructor
  · intro h
    have htick := h active rfl
    simp only [transitionSession, SessionEvent.now] at htick
    cases hexpire : expireActiveIfNeeded active now policy with
    | none => rfl
    | some expired =>
      rw [hexpire] at htick
      obtain ⟨reason, rfl⟩ := expireActiveIfNeeded_some hexpire
      cases htick
  · rintro h _ ⟨⟩
    simp only [transitionSession, SessionEvent.now, h, transitionActive]

theorem fresh_of_inactive (h : ∀ active, state ≠ .ACTIVE active) : Fresh policy now state :=
  fun active hactive => absurd hactive (h active)

/-- An event that an active session accepts starts its idle time anew when no stream is left. -/
theorem fresh_of_active (hidle : 0 < policy.idleTimeoutMs)
    (h : transitionSession policy (.ACTIVE active) event = .ok next) :
    Fresh policy event.now next := by
  simp only [transitionSession] at h
  cases hexpire : expireActiveIfNeeded active event.now policy with
  | some expired =>
    rw [hexpire] at h
    cases h
    obtain ⟨reason, rfl⟩ := expireActiveIfNeeded_some hexpire
    exact fresh_of_inactive (by rintro _ ⟨⟩)
  | none =>
    rw [hexpire] at h
    obtain ⟨hlive, hdeadline⟩ := expireActiveIfNeeded_none_iff.mp hexpire
    cases event with
    | CLOSE now =>
      cases h
      exact fresh_of_inactive (by rintro _ ⟨⟩)
    | STREAM_OPEN now =>
      cases h
      exact fresh_active_iff.mpr ⟨hlive, fun hnone => by cases hnone⟩
    | STREAM_CLOSED now =>
      simp only [transitionActive] at h
      split_ifs at h with hcount hlast
      · cases h
        exact fresh_active_iff.mpr ⟨hlive, fun _ => Nat.lt_add_of_pos_right hidle⟩
      · cases h
        refine fresh_active_iff.mpr ⟨hlive, fun hnone => ?_⟩
        dsimp only at hnone
        omega
    | CARRIER_LOST now =>
      cases h
      exact fresh_of_inactive (by rintro _ ⟨⟩)
    | TICK now =>
      cases h
      exact fresh_active_iff.mpr ⟨hlive, hdeadline⟩
    | ACTIVATE now => cases h
    | START_RESUME now attemptId => cases h
    | RESUME_FAILED now attemptId => cases h
    | RESUME_COMMITTED now attemptId => cases h

theorem expireReconnectIfNeeded_none_iff : expireReconnectIfNeeded reconnecting now policy = none ↔
    now < reconnecting.activatedAt + policy.maxTtlMs ∧ reconnecting.disconnectedAt ≤ now ∧
      now ≤ reconnecting.disconnectedAt + policy.reconnectGraceMs := by
  unfold expireReconnectIfNeeded isResumeAllowed
  split_ifs with hover hallowed
  · simp only [false_iff]
    omega
  · simp only [Bool.and_eq_true, decide_eq_true_eq] at hallowed
    simp only [true_iff]
    exact ⟨by omega, hallowed⟩
  · simp only [Bool.and_eq_true, decide_eq_true_eq] at hallowed
    simp only [false_iff]
    exact fun h => hallowed h.2

/-- A resume is refused once the grace is over, and what it returns is fresh when its idle time,
which runs from the loss of the carrier, is not over either. -/
theorem fresh_of_reconnecting
    (hdeadline : event.now < reconnecting.activatedAt + policy.maxTtlMs →
      reconnecting.disconnectedAt ≤ event.now →
      event.now ≤ reconnecting.disconnectedAt + policy.reconnectGraceMs →
      event.now < reconnecting.lastStreamClosedAt + policy.idleTimeoutMs)
    (h : transitionSession policy (.RECONNECTING reconnecting) event = .ok next) :
    Fresh policy event.now next := by
  simp only [transitionSession] at h
  cases hexpire : expireReconnectIfNeeded reconnecting event.now policy with
  | some expired =>
    rw [hexpire] at h
    cases h
    obtain ⟨reason, rfl⟩ := expireReconnectIfNeeded_some hexpire
    exact fresh_of_inactive (by rintro _ ⟨⟩)
  | none =>
    rw [hexpire] at h
    obtain ⟨hlive, hlost, hgrace⟩ := expireReconnectIfNeeded_none_iff.mp hexpire
    cases event with
    | CLOSE now =>
      cases h
      exact fresh_of_inactive (by rintro _ ⟨⟩)
    | START_RESUME now attemptId =>
      simp only [transitionReconnecting] at h
      split_ifs at h
      cases h
      exact fresh_of_inactive (by rintro _ ⟨⟩)
    | RESUME_FAILED now attemptId =>
      simp only [transitionReconnecting] at h
      split_ifs at h
      cases h
      exact fresh_of_inactive (by rintro _ ⟨⟩)
    | RESUME_COMMITTED now attemptId =>
      simp only [transitionReconnecting] at h
      split_ifs at h
      cases h
      exact fresh_active_iff.mpr ⟨hlive, fun _ => hdeadline hlive hlost hgrace⟩
    | TICK now =>
      cases h
      exact fresh_of_inactive (by rintro _ ⟨⟩)
    | ACTIVATE now => cases h
    | STREAM_OPEN now => cases h
    | STREAM_CLOSED now => cases h
    | CARRIER_LOST now => cases h

end SessionState

namespace SessionHistory

open SessionState

variable {policy : SessionPolicy}

/-- The clock of a history that may go on at `now`: a session was not activated later, nor lost
before it was activated, and its idle time runs from the loss. -/
def Timed (now : ℕ) : SessionState → Prop
  | .ACTIVE active => active.activatedAt ≤ now
  | .RECONNECTING reconnecting => reconnecting.activatedAt ≤ reconnecting.disconnectedAt ∧
      reconnecting.disconnectedAt ≤ now ∧
      reconnecting.lastStreamClosedAt = reconnecting.disconnectedAt
  | _ => True

theorem timed_mono {now later : ℕ} {state : SessionState} (h : Timed now state)
    (hlater : now ≤ later) : Timed later state := by
  cases state with
  | ACTIVE active => exact le_trans h hlater
  | RECONNECTING reconnecting => exact ⟨h.1, h.2.1.trans hlater, h.2.2⟩
  | CREATING => trivial
  | EXPIRED reason closedAt => trivial
  | CLOSED reason closedAt => trivial

theorem timed_accepted {state next : SessionState} {event : SessionEvent}
    (h : Timed event.now state) (haccepted : Accepted policy state event next) :
    Timed event.now next := by
  cases haccepted with
  | activate now => exact le_rfl
  | ended _ _ _ hover =>
    rcases hover with ⟨reason, rfl⟩ | rfl
    · trivial
    · trivial
  | streamOpen active now _ => exact h
  | streamClosed active now _ _ _ => exact h
  | carrierLost active now _ => exact ⟨h, le_rfl, rfl⟩
  | tickActive active now _ => exact h
  | startResume reconnecting now attemptId _ _ => exact h
  | resumeFailed reconnecting now attemptId _ _ => exact h
  | resumeCommitted reconnecting now attemptId _ _ => exact h.1.trans h.2.1
  | tickReconnecting reconnecting now _ => exact h

/-- Either duration rules out a resume after the idle time: the grace is shorter, or the session's
whole life is over first. -/
def ResumesInTime (policy : SessionPolicy) : Prop :=
  policy.reconnectGraceMs < policy.idleTimeoutMs ∨ policy.idleTimeoutMs = policy.maxTtlMs

instance (policy : SessionPolicy) : Decidable (ResumesInTime policy) :=
  inferInstanceAs (Decidable (_ ∨ _))

theorem fresh_of_timed {state next : SessionState} {event : SessionEvent} (hvalid : policy.Valid)
    (hresumes : ResumesInTime policy) (h : Timed event.now state)
    (hok : transitionSession policy state event = .ok next) : Fresh policy event.now next := by
  cases state with
  | CREATING =>
    have haccepted := accepted_of_ok hok
    cases haccepted with
    | activate now =>
      exact fresh_active_iff.mpr ⟨Nat.lt_add_of_pos_right hvalid.maxTtlMs.1,
        fun _ => Nat.lt_add_of_pos_right hvalid.idleTimeoutMs.1⟩
    | ended _ _ _ hover =>
      refine fresh_of_inactive ?_
      rcases hover with ⟨reason, rfl⟩ | rfl
      · nofun
      · nofun
  | ACTIVE active => exact fresh_of_active hvalid.idleTimeoutMs.1 hok
  | RECONNECTING reconnecting =>
    refine fresh_of_reconnecting ?_ hok
    obtain ⟨hactivated, -, hidle⟩ := h
    intro hlive hlost hgrace
    rw [hidle]
    rcases hresumes with hshorter | hwhole
    · omega
    · omega
  | EXPIRED reason closedAt => cases hok
  | CLOSED reason closedAt => cases hok

/-- Every recorded state was fresh when it was returned, and the clock has not passed it. -/
structure Punctual (policy : SessionPolicy) (now : ℕ) (history : SessionHistory) : Prop where
  fresh : ∀ entry ∈ history, Fresh policy entry.1.now entry.2
  timed : Timed now history.state

theorem record_punctual {history : SessionHistory} {event : SessionEvent} (hvalid : policy.Valid)
    (hresumes : ResumesInTime policy) (h : Punctual policy event.now history) :
    Punctual policy event.now (history.record policy event) := by
  unfold record
  split
  · exact h
  · rename_i next hok
    refine ⟨?_, timed_accepted h.timed (accepted_of_ok hok)⟩
    intro entry hentry
    rcases List.mem_cons.mp hentry with rfl | hearlier
    · exact fresh_of_timed hvalid hresumes h.timed hok
    · exact h.fresh entry hearlier

theorem foldl_fresh {now : ℕ} {history : SessionHistory} {events : List SessionEvent}
    (hvalid : policy.Valid) (hresumes : ResumesInTime policy) (h : Punctual policy now history)
    (hlater : ∀ event ∈ events, now ≤ event.now)
    (hclock : events.Pairwise fun earlier later => earlier.now ≤ later.now) :
    ∀ entry ∈ events.foldl (record policy) history, Fresh policy entry.1.now entry.2 := by
  induction events generalizing now history with
  | nil => exact h.fresh
  | cons event events ih =>
    rw [List.pairwise_cons] at hclock
    have hnow : Punctual policy event.now history :=
      ⟨h.fresh, timed_mono h.timed (hlater event List.mem_cons_self)⟩
    exact ih (record_punctual hvalid hresumes hnow) hclock.1 hclock.2

/-- The carrier is lost at once and resumed when the session has been idle for too long. -/
def lateResume (policy : SessionPolicy) : List SessionEvent :=
  [.ACTIVATE 0, .CARRIER_LOST 0, .START_RESUME policy.idleTimeoutMs 1,
    .RESUME_COMMITTED policy.idleTimeoutMs 1]

def resumedLate (policy : SessionPolicy) : SessionEvent × SessionState :=
  (.RESUME_COMMITTED policy.idleTimeoutMs 1, .ACTIVE
    { activatedAt := 0, generation := 2, activeStreamCount := 0, lastStreamClosedAt := 0 })

theorem mem_lateResume (hvalid : policy.Valid) (hlate : ¬ResumesInTime policy) :
    resumedLate policy ∈ run policy (lateResume policy) := by
  obtain ⟨hgrace, hwhole⟩ := not_or.mp hlate
  have hidle := hvalid.idleTimeoutMs
  have hlive : expireActiveIfNeeded ⟨0, 1, 0, 0⟩ 0 policy = none := by
    rw [expireActiveIfNeeded_none_iff]
    dsimp only
    omega
  have hresumable (reconnecting : ReconnectingState) (hactivated : reconnecting.activatedAt = 0)
      (hlost : reconnecting.disconnectedAt = 0) :
      expireReconnectIfNeeded reconnecting policy.idleTimeoutMs policy = none := by
    rw [expireReconnectIfNeeded_none_iff]
    omega
  simp [run, lateResume, record, state, INITIAL_SESSION_STATE, transitionSession, transitionActive,
    transitionReconnecting, SessionEvent.now, hlive, hresumable, resumedLate]

theorem not_fresh_resumedLate :
    ¬Fresh policy (resumedLate policy).1.now (resumedLate policy).2 := by
  intro hfresh
  have hdeadline := (fresh_active_iff.mp hfresh).2 rfl
  simp [resumedLate, SessionEvent.now] at hdeadline

/-- A policy lets no run return an active session that is over already, if and only if its resumes
come in time. -/
theorem resume_fresh_iff (policy : SessionPolicy) (hvalid : policy.Valid) :
    (∀ events : List SessionEvent,
      events.Pairwise (fun earlier later => earlier.now ≤ later.now) →
      ∀ entry ∈ run policy events, Fresh policy entry.1.now entry.2) ↔ ResumesInTime policy := by
  constructor
  · intro h
    by_contra hlate
    refine not_fresh_resumedLate (h (lateResume policy) ?_ _ (mem_lateResume hvalid hlate))
    simp [lateResume, SessionEvent.now]
  · intro hresumes events hclock
    exact foldl_fresh hvalid hresumes ⟨nofun, trivial⟩ (fun event _ => Nat.zero_le _) hclock

theorem resume_fresh_default : run DEFAULT_SESSION_POLICY resumedTwice ≠ [] ∧
    ∀ entry ∈ run DEFAULT_SESSION_POLICY resumedTwice,
      Fresh DEFAULT_SESSION_POLICY entry.1.now entry.2 :=
  ⟨by decide, (resume_fresh_iff DEFAULT_SESSION_POLICY ⟨by decide, by decide, by decide⟩).mpr
    (by decide) resumedTwice (by decide)⟩

/-- An idle timeout of one minute with the default grace of two. -/
def hasty : SessionPolicy := { DEFAULT_SESSION_POLICY with idleTimeoutMs := 60000 }

theorem resume_stale_hasty : hasty.Valid ∧
    (lateResume hasty).Pairwise (fun earlier later => earlier.now ≤ later.now) ∧
    ∃ active, (run hasty (lateResume hasty)).head? = some (.RESUME_COMMITTED 60000 1, .ACTIVE active) ∧
      transitionSession hasty (.ACTIVE active) (.TICK 60000) = .ok (.EXPIRED .IDLE_TIMEOUT 60000) :=
  ⟨⟨by decide, by decide, by decide⟩, by decide, ⟨0, 2, 0, 0⟩, by decide, by decide⟩

end SessionHistory

end Lotur
