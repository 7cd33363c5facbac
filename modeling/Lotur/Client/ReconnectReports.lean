import Lotur.Client.Supervision

/-! What the resilient client tells its caller: the statuses in their order, the connections that it
makes between them, and what may still come after it was closed. -/
namespace Lotur.Client.Resilient
open State JsString

section Steps

def Wait.initial : Wait → Bool
  | .initialDelay _ => true
  | _ => false

def Leaves (reconnect : Reconnect) (phase : Phase) : Prop :=
  ∃ error, phase = if reconnect.establishing then .fails error else .givesUp error

/-- `reconnect` throws, or goes on with its attempt and for its caller. -/
def Within (reconnect : Reconnect) (phase : Phase) : Prop :=
  Leaves reconnect phase ∨ ∃ next wait, phase = .reconnecting next wait ∧
    next.attempt = reconnect.attempt ∧ next.establishing = reconnect.establishing ∧
    wait.initial = false

/-- At most one connection is made, from the given context. -/
structure Kept (context : Context) (s s' : State) : Prop where
  activation : s'.activation = s.activation
  stopped : s'.stopped = s.stopped
  closure : s'.closure = s.closure
  initialActiveReported : s'.initialActiveReported = s.initialActiveReported
  connections : (s'.connections.length = s.connections.length ∧ s'.current = s.current) ∨
    (s.stopped = false ∧ s'.current = s.connections.length ∧
      ∃ credential, s'.connections = s.connections ++ [Connection.new (some context) credential])

/-- A step of `reconnect` that does not return. -/
structure Goes (reconnect : Reconnect) (wait : Wait) (s s' : State) : Prop extends
    Kept reconnect.context s s' where
  reports : (s'.statuses = s.statuses ∧ Within reconnect s'.phase ∧
      (wait.initial = true → Leaves reconnect s'.phase)) ∨
    (s.stopped = false ∧
      s'.statuses = s.statuses ++ [.reconnecting (reconnect.attempt + 1) reconnect.lastError] ∧
      Within { reconnect with attempt := reconnect.attempt + 1 } s'.phase)

variable {s s' : State} {reconnect : Reconnect} {wait : Wait} {error : ClientError}

theorem Quiet.kept {context : Context} (h : Quiet s s') : Kept context s s' where
  activation := h.activation
  stopped := h.stopped
  closure := h.closure
  initialActiveReported := h.initialActiveReported
  connections := Or.inl ⟨h.length, h.current⟩

theorem Quiet.goes (h : Quiet s s') (hwait : wait.initial = false)
    (hwithin : Within reconnect s'.phase) : Goes reconnect wait s s' where
  toKept := h.kept
  reports := Or.inl ⟨h.statuses, hwithin, fun hinitial => by simp [hwait] at hinitial⟩

theorem leave_goes : Goes reconnect wait s (s.leave reconnect error) where
  toKept := leave_quiet.kept
  reports := Or.inl ⟨rfl, Or.inl ⟨error, rfl⟩, fun _ => ⟨error, rfl⟩⟩

theorem reject_initial : (wait.reject error).initial = wait.initial := by
  cases wait with
  | _ => rfl

theorem await_within (hwait : wait.initial = false) :
    Within reconnect (s.await reconnect wait).phase := by
  refine Or.inr ⟨reconnect, _, rfl, rfl, rfl, ?_⟩
  split_ifs
  · rwa [reject_initial]
  · exact hwait

theorem afterFailure_within : Within reconnect (s.afterFailure reconnect).phase := by
  unfold State.afterFailure
  split_ifs
  · exact Or.inl ⟨_, rfl⟩
  · exact await_within rfl

theorem caught_within {candidate : Option ℕ} :
    Within reconnect (s.caught reconnect error candidate).phase := by
  unfold State.caught
  cases candidate with
  | none => exact @afterFailure_within s { reconnect with lastError := error }
  | some connection =>
    exact @await_within _ { reconnect with lastError := error } (.shutdown connection false) rfl

theorem connect_within {credential : Option JsString} {thrown : Option ClientError} :
    Within reconnect (s.connect reconnect credential thrown).phase := by
  unfold State.connect
  cases thrown with
  | none => exact await_within rfl
  | some error => exact caught_within

theorem connect_statuses {credential : Option JsString} {thrown : Option ClientError} :
    (s.connect reconnect credential thrown).statuses = s.statuses := by
  unfold State.connect
  cases thrown with
  | none => rfl
  | some error => exact caught_quiet.statuses

theorem connect_kept {credential : Option JsString} {thrown : Option ClientError}
    (hstopped : s.stopped = false) :
    Kept reconnect.context s (s.connect reconnect credential thrown) := by
  unfold State.connect
  cases thrown with
  | none => exact ⟨rfl, rfl, rfl, rfl, Or.inr ⟨hstopped, rfl, credential, rfl⟩⟩
  | some error => exact caught_quiet.kept

theorem attempt_goes {issuesCredentials : Bool} {thrown : Option ClientError} :
    Goes reconnect wait s (s.attempt issuesCredentials reconnect thrown) := by
  unfold State.attempt
  split_ifs with hends hissues
  · exact leave_goes
  · have hstopped : s.stopped = false := by simpa using (not_or.1 hends).1
    exact ⟨⟨rfl, rfl, rfl, rfl, Or.inl ⟨rfl, rfl⟩⟩, Or.inr ⟨hstopped, rfl, await_within rfl⟩⟩
  · have hstopped : s.stopped = false := by simpa using (not_or.1 hends).1
    have hkept := @connect_kept
      (s.report (.reconnecting (reconnect.attempt + 1) reconnect.lastError))
      { reconnect with attempt := reconnect.attempt + 1 } none thrown hstopped
    exact ⟨⟨hkept.activation, hkept.stopped, hkept.closure, hkept.initialActiveReported,
      hkept.connections⟩, Or.inr ⟨hstopped, connect_statuses, connect_within⟩⟩

/-- Every step of `reconnect`. -/
theorem resumeReconnect_cases {issuesCredentials : Bool} {thrown : Option ClientError}
    (hstep : s.resumeReconnect issuesCredentials reconnect wait thrown = some s') :
    Goes reconnect wait s s' ∨
      wait.initial = false ∧ ∃ value, s' = s.established reconnect value := by
  unfold State.resumeReconnect at hstep
  split at hstep
  · cases hstep
    exact Or.inl attempt_goes
  · cases hstep
    exact Or.inl attempt_goes
  · cases hstep
    exact Or.inl leave_goes
  · cases hstep
    exact Or.inl leave_goes
  · split_ifs at hstep with hstopped
    · cases hstep
      exact Or.inl (caught_quiet.goes rfl caught_within)
    · cases hstep
      exact Or.inl ⟨connect_kept (by simpa using hstopped),
        Or.inl ⟨connect_statuses, connect_within, fun hinitial => by cases hinitial⟩⟩
  · cases hstep
    exact Or.inl (caught_quiet.goes rfl caught_within)
  · rename_i value
    cases hstep
    exact Or.inr ⟨rfl, value, rfl⟩
  · cases hstep
    exact Or.inl (caught_quiet.goes rfl caught_within)
  · cases hstep
    exact Or.inl (afterFailure_quiet.goes rfl afterFailure_within)
  · cases hstep

/-- A step of the promises and timers, or of the caller: the functions stay where they are. -/
structure Rests (s s' : State) : Prop where
  length : s'.connections.length = s.connections.length
  current : s'.current = s.current
  activation : s'.activation = s.activation
  initialActiveReported : s'.initialActiveReported = s.initialActiveReported
  statuses : s'.statuses = s.statuses
  stopped : s.stopped = true → s'.stopped = true
  closure : ∀ closure, s.closure = some closure → s'.closure = some closure
  phase : s'.phase = s.phase ∨ ∃ reconnect wait wait', wait'.initial = wait.initial ∧
    s.phase = .reconnecting reconnect wait ∧ s'.phase = .reconnecting reconnect wait'

theorem Quiet.rests (h : Quiet s s') (hphase : s'.phase = s.phase) : Rests s s' where
  length := h.length
  current := h.current
  activation := h.activation
  initialActiveReported := h.initialActiveReported
  statuses := h.statuses
  stopped hstopped := h.stopped.trans hstopped
  closure _ hclosure := h.closure.trans hclosure
  phase := Or.inl hphase

theorem settleClosure_rests (value : TunnelClientClosure) : Rests s (s.settleClosure value) := by
  unfold State.settleClosure
  split_ifs with hsettled
  · exact (Quiet.refl s).rests rfl
  · refine ⟨rfl, rfl, rfl, rfl, rfl, id, fun closure hclosure => ?_, Or.inl rfl⟩
    simp [hclosure] at hsettled

theorem settleWait_rests {f : Wait → Option Wait}
    (hf : ∀ wait wait', f wait = some wait' → wait'.initial = wait.initial)
    (hstep : s.settleWait f = some s') : Rests s s' := by
  obtain ⟨reconnect, wait, wait', hphase, hwait', rfl⟩ := settleWait_eq hstep
  exact ⟨rfl, rfl, rfl, rfl, rfl, id, fun _ => id,
    Or.inr ⟨reconnect, wait, wait', hf wait wait' hwait', hphase, rfl⟩⟩

theorem close_rests : Rests s s.close := by
  unfold State.close
  split_ifs
  · exact settleClosure_rests _
  · refine ⟨List.length_modify _ _ _, rfl, rfl, rfl, rfl, fun _ => rfl, fun _ => id, ?_⟩
    dsimp only [State.update]
    cases hphase : s.phase with
    | reconnecting reconnect wait => exact Or.inr ⟨reconnect, wait, _, reject_initial, rfl, rfl⟩
    | _ => exact Or.inl rfl

theorem step_rests {issuesCredentials : Bool} {label : Label}
    (hlabel : ∀ thrown, label ≠ .continues thrown)
    (hstep : step issuesCredentials s label = some s') : Rests s s' := by
  cases label with
  | readySettles connection result | candidateSettles connection result
  | closedSettles connection result =>
    unfold step at hstep
    dsimp only at hstep
    split at hstep
    · cases hstep
      exact ⟨List.length_modify _ _ _, rfl, rfl, rfl, rfl, id, fun _ => id, Or.inl rfl⟩
    · cases hstep
  | credentialSettles result | delayElapses =>
    apply settleWait_rests _ hstep
    intro wait wait' hwait'
    split at hwait'
    all_goals cases hwait'
    all_goals rfl
  | waitSettles =>
    apply settleWait_rests _ hstep
    intro wait wait' hwait'
    unfold State.settles at hwait'
    split at hwait'
    · obtain ⟨_, _, rfl⟩ := Option.map_eq_some_iff.1 hwait'
      rfl
    · obtain ⟨_, _, rfl⟩ := Option.map_eq_some_iff.1 hwait'
      rfl
    · cases hwait'
  | waitExpires byTimer =>
    apply settleWait_rests _ hstep
    intro wait wait' hwait'
    cases hwait'
    exact reject_initial
  | deadlinePasses =>
    cases hstep
    exact ⟨rfl, rfl, rfl, rfl, rfl, id, fun _ => id, Or.inl rfl⟩
  | «continues» thrown => exact absurd rfl (hlabel thrown)
  | close =>
    cases hstep
    exact close_rests
  | closeSettles succeeded =>
    unfold step at hstep
    dsimp only at hstep
    split_ifs at hstep with hpending hsucceeded
    all_goals cases hstep
    · have hrests := @settleClosure_rests s ⟨.closed, none⟩
      exact ⟨hrests.length, hrests.current, hrests.activation, hrests.initialActiveReported,
        hrests.statuses, hrests.stopped, hrests.closure, hrests.phase⟩
    · have hrests := @settleClosure_rests (s.disconnectAt s.current) ⟨.closed, none⟩
      exact ⟨hrests.length.trans (disconnectAt_quiet s s.current).length, hrests.current,
        hrests.activation, hrests.initialActiveReported, hrests.statuses, hrests.stopped,
        hrests.closure, hrests.phase⟩
  | disconnect =>
    cases hstep
    exact (disconnectAt_quiet s s.current).rests rfl

end Steps

section Order

/-- What may be reported after `before`, the last report. -/
def Follows : Option Status → Status → Prop
  | none, .reconnecting attempt _ | some (.active _), .reconnecting attempt _ => attempt = 1
  | some (.reconnecting before _), .reconnecting attempt _ => attempt = before + 1
  | none, .active attempt => attempt = none
  | some (.reconnecting before _), .active attempt => attempt = some before
  | some (.active _), .active _ => False
  | some (.failed _), _ => False
  | _, .failed _ => True

def Ordered (statuses : List Status) : Prop :=
  ∀ (i : ℕ) (status : Status), statuses[i]? = some status →
    Follows (statuses.take i).getLast? status

theorem Ordered.append {statuses : List Status} {status : Status} (h : Ordered statuses)
    (hfollows : Follows statuses.getLast? status) : Ordered (statuses ++ [status]) := by
  intro i next hnext
  have hlt := (List.getElem?_eq_some_iff.1 hnext).1
  rw [List.length_append, List.length_singleton] at hlt
  rw [List.take_append_of_le_length (by omega)]
  rcases Nat.lt_or_ge i statuses.length with hold | hnew
  · rw [List.getElem?_append_left hold] at hnext
    exact h i next hnext
  · obtain rfl : i = statuses.length := by omega
    rw [List.getElem?_concat_length] at hnext
    cases hnext
    rwa [List.take_length]

variable {s s' : State}

def LastActive (s : State) : Prop := ∃ attempt, s.statuses.getLast? = some (.active attempt)

/-- What has been reported last. -/
def Before (s : State) : Phase → Prop
  | .awaitsReady | .awaitsCandidate _ | .awaitsClosed _ _ =>
    s.statuses = [] ∧ s.initialActiveReported = false
  | .reconnecting reconnect wait =>
    if wait.initial = true then
      reconnect.attempt = 0 ∧
        if reconnect.establishing = true then s.statuses = [] else LastActive s
    else ∃ error, s.statuses.getLast? = some (.reconnecting reconnect.attempt error)
  | .establishes _ => if s.initialActiveReported = true then LastActive s else s.statuses = []
  | .supervises _ | .resumes _ => LastActive s
  | _ => True

structure Reported (s : State) : Prop where
  ordered : Ordered s.statuses
  phase : Before s s.phase

theorem start_reported (carrierCredential : Option JsString) :
    Reported (start carrierCredential) where
  ordered i status hstatus := by simp [start] at hstatus
  phase := ⟨rfl, rfl⟩

theorem Rests.before {phase : Phase} (h : Rests s s') (hbefore : Before s phase) :
    Before s' phase := by
  unfold Before LastActive at hbefore ⊢
  rwa [h.statuses, h.initialActiveReported]

theorem Rests.reported (h : Rests s s') (hreported : Reported s) : Reported s' where
  ordered := by
    rw [h.statuses]
    exact hreported.ordered
  phase := by
    have hbefore := h.before hreported.phase
    rcases h.phase with hsame | ⟨reconnect, wait, wait', hinitial, hphase, hphase'⟩
    · rwa [hsame]
    · rw [hphase] at hbefore
      rw [hphase']
      unfold Before at hbefore ⊢
      dsimp only at hbefore ⊢
      rwa [hinitial]

theorem Leaves.before {reconnect : Reconnect} {phase : Phase} (h : Leaves reconnect phase) :
    Before s phase := by
  obtain ⟨error, rfl⟩ := h
  split_ifs
  · trivial
  · trivial

theorem Within.before {reconnect : Reconnect} {phase : Phase} (h : Within reconnect phase)
    {error : ClientError}
    (hlast : s.statuses.getLast? = some (.reconnecting reconnect.attempt error)) :
    Before s phase := by
  rcases h with hleaves | ⟨next, wait, rfl, hattempt, -, hinitial⟩
  · exact hleaves.before
  · unfold Before
    dsimp only
    rw [hinitial, hattempt]
    exact ⟨error, hlast⟩

/-- The next attempt follows the last one, or is the first after the client was active. -/
theorem attempt_follows {reconnect : Reconnect} {wait : Wait} {error : ClientError}
    (hbefore : Before s (.reconnecting reconnect wait)) :
    Follows s.statuses.getLast? (.reconnecting (reconnect.attempt + 1) error) := by
  unfold Before at hbefore
  dsimp only at hbefore
  split_ifs at hbefore with hinitial hestablishing
  · obtain ⟨hattempt, hempty⟩ := hbefore
    rw [hempty, hattempt]
    rfl
  · obtain ⟨hattempt, attempt, hlast⟩ := hbefore
    rw [hlast, hattempt]
    rfl
  · obtain ⟨error, hlast⟩ := hbefore
    rw [hlast]
    rfl

theorem failed_follows {error : ClientError} (h : ∀ failure, .failed failure ∉ s.statuses) :
    Follows s.statuses.getLast? (.failed error) := by
  cases hlast : s.statuses.getLast? with
  | none => trivial
  | some status =>
    cases status with
    | failed failure => exact absurd (List.mem_of_getLast? hlast) (h failure)
    | _ => trivial

theorem fail_reported {error : ClientError} (h : Ordered s.statuses)
    (hunfailed : ∀ failure, .failed failure ∉ s.statuses) : Reported (s.fail error) where
  ordered := by
    unfold State.fail
    obtain ⟨-, -, -, -, -, hstatuses, -⟩ := @settleClosure_same
      (({ s with stopped := true } : State).report (.failed error)) ⟨.failed, some error⟩
    dsimp only
    rw [hstatuses]
    exact h.append (failed_follows hunfailed)
  phase := trivial

theorem finish_reported (h : Ordered s.statuses) :
    Reported { s.settleClosure ⟨.closed, none⟩ with phase := .ended } where
  ordered := by
    obtain ⟨-, -, -, -, -, hstatuses, -⟩ := @settleClosure_same s ⟨.closed, none⟩
    dsimp only
    rwa [hstatuses]
  phase := trivial

theorem await_initial {reconnect : Reconnect} {outcome : Option (Except ClientError Unit)} :
    ∃ outcome', (s.await reconnect (.initialDelay outcome)).phase =
      .reconnecting reconnect (.initialDelay outcome') := by
  unfold State.await
  split_ifs
  · exact ⟨_, rfl⟩
  · exact ⟨_, rfl⟩

theorem beginReconnect_reported {establishing : Bool} {context : Context} {error : ClientError}
    (h : Ordered s.statuses)
    (hbefore : if establishing = true then s.statuses = [] else LastActive s) :
    Reported (s.beginReconnect establishing context error) where
  ordered := h
  phase := by
    unfold State.beginReconnect
    obtain ⟨outcome, hphase⟩ := @await_initial { s with deadlinePassed := false }
      ⟨establishing, context, 0, error⟩ none
    rw [hphase]
    exact ⟨rfl, hbefore⟩

theorem resumeReconnect_reported {issuesCredentials : Bool} {thrown : Option ClientError}
    {reconnect : Reconnect} {wait : Wait} (h : Ordered s.statuses)
    (hbefore : Before s (.reconnecting reconnect wait))
    (hstep : s.resumeReconnect issuesCredentials reconnect wait thrown = some s') :
    Reported s' := by
  rcases resumeReconnect_cases hstep with hgoes | ⟨hinitial, value, rfl⟩
  · rcases hgoes.reports with ⟨hstatuses, hwithin, hleaves⟩ | ⟨-, hstatuses, hwithin⟩
    · refine ⟨by rwa [hstatuses], ?_⟩
      unfold Before at hbefore
      dsimp only at hbefore
      split_ifs at hbefore with hinitial
      · exact (hleaves hinitial).before
      · exact (hleaves hinitial).before
      · obtain ⟨error, hlast⟩ := hbefore
        rw [← hstatuses] at hlast
        exact hwithin.before hlast
    · constructor
      · rw [hstatuses]
        exact h.append (attempt_follows hbefore)
      · apply hwithin.before
        rw [hstatuses, List.getLast?_concat]
  · unfold Before at hbefore
    dsimp only at hbefore
    rw [if_neg (by simp [hinitial])] at hbefore
    obtain ⟨error, hlast⟩ := hbefore
    have hordered : Ordered (s.statuses ++ [.active (some reconnect.attempt)]) := by
      apply h.append
      rw [hlast]
      rfl
    have hactive : (s.statuses ++ [Status.active (some reconnect.attempt)]).getLast? =
        some (.active (some reconnect.attempt)) := List.getLast?_concat
    unfold State.established
    dsimp only
    split_ifs
    · exact ⟨hordered, ⟨_, hactive⟩⟩
    · exact ⟨hordered, ⟨_, hactive⟩⟩

theorem continues_reported {issuesCredentials : Bool} {thrown : Option ClientError} (h : Inv s)
    (hreported : Reported s) (hstep : s.continues issuesCredentials thrown = some s') :
    Reported s' := by
  have hordered := hreported.ordered
  have hbefore := hreported.phase
  unfold State.continues at hstep
  cases hphase : s.phase with
  | ended =>
    rw [hphase] at hstep
    cases hstep
  | awaitsReady =>
    rw [hphase] at hbefore hstep
    dsimp only at hstep
    split at hstep
    · cases hstep
    · cases hstep
      refine ⟨hordered, ?_⟩
      unfold Before
      dsimp only
      rw [if_neg (by simp [hbefore.2])]
      exact hbefore.1
    · cases hstep
      exact ⟨hordered, hbefore⟩
  | awaitsCandidate failure =>
    rw [hphase] at hbefore hstep
    obtain ⟨context, -, rfl⟩ := Option.map_eq_some_iff.1 hstep
    exact ⟨hordered, hbefore⟩
  | awaitsClosed failure context =>
    rw [hphase] at hbefore hstep
    obtain ⟨outcome, -, rfl⟩ := Option.map_eq_some_iff.1 hstep
    cases context with
    | none => exact ⟨hordered, trivial⟩
    | some context =>
      dsimp only
      split_ifs
      · exact beginReconnect_reported hordered hbefore.1
      · exact ⟨hordered, trivial⟩
  | reconnecting reconnect wait =>
    rw [hphase] at hbefore hstep
    exact resumeReconnect_reported hordered hbefore hstep
  | establishes value =>
    rw [hphase] at hbefore hstep
    unfold Before at hbefore
    dsimp only at hbefore
    cases hstep
    split_ifs at hbefore ⊢ with hactive
    · exact ⟨hordered, hbefore⟩
    · refine ⟨hordered.append ?_, ⟨none, List.getLast?_concat⟩⟩
      rw [hbefore]
      rfl
  | fails failure =>
    have hgoing := h.going (by simp [hphase])
    rw [hphase] at hstep
    cases hstep
    have hfail := @fail_reported s failure hordered hgoing.unfailed
    exact ⟨hfail.ordered, hfail.phase⟩
  | supervises client =>
    rw [hphase] at hbefore hstep
    obtain ⟨outcome, -, rfl⟩ := Option.map_eq_some_iff.1 hstep
    have hsound := h.phase
    rw [hphase] at hsound
    obtain ⟨rfl, hactivation⟩ := hsound
    unfold State.superviseClosed
    rw [if_neg (not_not.2 rfl)]
    split_ifs
    · exact finish_reported hordered
    · split
      · contradiction
      · exact beginReconnect_reported hordered hbefore
  | resumes value =>
    rw [hphase] at hbefore hstep
    cases hstep
    exact ⟨hordered, hbefore⟩
  | givesUp failure =>
    have hgoing := h.going (by simp [hphase])
    rw [hphase] at hstep
    dsimp only at hstep
    split_ifs at hstep
    · cases hstep
      exact finish_reported hordered
    · cases hstep
      exact fail_reported hordered hgoing.unfailed

theorem step_reported {issuesCredentials : Bool} {label : Label} (h : Inv s)
    (hreported : Reported s) (hstep : step issuesCredentials s label = some s') : Reported s' := by
  by_cases hcontinues : ∃ thrown, label = .continues thrown
  · obtain ⟨thrown, rfl⟩ := hcontinues
    exact continues_reported h hreported hstep
  · exact (step_rests (not_exists.1 hcontinues) hstep).reported hreported

theorem run_reported {issuesCredentials : Bool} {carrierCredential : Option JsString}
    {labels : List Label}
    (hrun : Execution.run (step issuesCredentials) (start carrierCredential) labels = some s) :
    Inv s ∧ Reported s :=
  @Execution.invariant_of_run _ _ _ (fun s => Inv s ∧ Reported s)
    (fun _ _ _ h hstep => ⟨step_inv h.1 hstep, step_reported h.1 h.2 hstep⟩) _ _ _
    ⟨start_inv carrierCredential, start_reported carrierCredential⟩ hrun

/-- The statuses are reported in this order: attempts are counted from 1 after each time the client
was active, it is active by the last attempt that was reported, and nothing follows a failure. -/
theorem run_reports {issuesCredentials : Bool} {carrierCredential : Option JsString}
    {labels : List Label}
    (hrun : Execution.run (step issuesCredentials) (start carrierCredential) labels = some s)
    {i : ℕ} {status : Status} (hstatus : s.statuses[i]? = some status) :
    Follows (s.statuses.take i).getLast? status :=
  (run_reported hrun).2.ordered i status hstatus

theorem run_reports_secondAttempt :
    ∃ s status, Execution.run (step false) (start none) secondAttempt = some s ∧
      s.statuses[2]? = some status ∧ Follows (s.statuses.take 2).getLast? status := by
  have hobserved : (Execution.run (step false) (start none) secondAttempt).map
      (fun s => s.statuses.length) = some 3 := by
    decide +kernel
  obtain ⟨s, hrun, hlength⟩ := Option.map_eq_some_iff.1 hobserved
  have hstatus := List.getElem?_eq_getElem (show 2 < s.statuses.length by omega)
  exact ⟨s, _, hrun, hstatus, run_reports hrun hstatus⟩

end Order

section Reconnections

variable {issuesCredentials : Bool} {s s' : State} {reconnect : Reconnect} {wait : Wait}

/-- While an activation is awaited no other connection is made. -/
theorem ready_length {connection : ℕ} {outcome : Option (Except ClientError Activation)}
    {thrown : Option ClientError}
    (hstep : s.resumeReconnect issuesCredentials reconnect (.ready connection outcome) thrown =
      some s') : s'.connections.length = s.connections.length ∧ s'.current = s.current := by
  unfold State.resumeReconnect at hstep
  cases outcome with
  | none => cases hstep
  | some outcome =>
    cases outcome with
    | error error =>
      cases hstep
      exact ⟨caught_quiet.length, caught_quiet.current⟩
    | ok value =>
      cases hstep
      unfold State.established
      dsimp only
      split_ifs
      · exact ⟨rfl, rfl⟩
      · exact ⟨rfl, rfl⟩

theorem settleClosure_connections {value : TunnelClientClosure} :
    (s.settleClosure value).connections.length = s.connections.length ∧
      (s.settleClosure value).current = s.current :=
  ⟨(settleClosure_rests value).length, (settleClosure_rests value).current⟩

theorem superviseClosed_connections {client : ℕ} {outcome : TunnelClientClosure} :
    (s.superviseClosed client outcome).connections.length = s.connections.length ∧
      (s.superviseClosed client outcome).current = s.current := by
  unfold State.superviseClosed
  split_ifs
  · exact ⟨rfl, rfl⟩
  · exact settleClosure_connections
  · split
    · exact settleClosure_connections
    · exact ⟨beginReconnect_quiet.length, beginReconnect_quiet.current⟩

/-- Nothing but `reconnect` makes a connection. -/
theorem continues_connections {thrown : Option ClientError}
    (hphase : ∀ reconnect wait, s.phase ≠ .reconnecting reconnect wait)
    (hstep : s.continues issuesCredentials thrown = some s') :
    s'.connections.length = s.connections.length ∧ s'.current = s.current := by
  unfold State.continues at hstep
  split at hstep
  · split at hstep
    all_goals cases hstep
    · exact ⟨rfl, rfl⟩
    · exact ⟨rfl, rfl⟩
  · obtain ⟨context, -, rfl⟩ := Option.map_eq_some_iff.1 hstep
    exact ⟨rfl, rfl⟩
  · obtain ⟨outcome, -, rfl⟩ := Option.map_eq_some_iff.1 hstep
    split
    · exact ⟨rfl, rfl⟩
    · split_ifs
      · exact ⟨beginReconnect_quiet.length, beginReconnect_quiet.current⟩
      · exact ⟨rfl, rfl⟩
  · rename_i reconnect wait hreconnecting
    exact absurd hreconnecting (hphase reconnect wait)
  · cases hstep
    dsimp only
    split_ifs
    · exact ⟨rfl, rfl⟩
    · exact ⟨rfl, rfl⟩
  · cases hstep
    exact settleClosure_connections
  · obtain ⟨outcome, -, rfl⟩ := Option.map_eq_some_iff.1 hstep
    exact superviseClosed_connections
  · cases hstep
    exact ⟨rfl, rfl⟩
  · split_ifs at hstep
    all_goals cases hstep
    · exact settleClosure_connections
    · exact settleClosure_connections
  · cases hstep

theorem resumeReconnect_connections {thrown : Option ClientError} (h : Inv s)
    (hphase : s.phase = .reconnecting reconnect wait)
    (hstep : s.resumeReconnect issuesCredentials reconnect wait thrown = some s') :
    (s'.connections.length = s.connections.length ∧ s'.current = s.current) ∨
      (s.stopped = false ∧ (∀ client ∈ s.connections, Superseded client) ∧
        s'.current = s.connections.length ∧ ∃ credential, s'.connections =
          s.connections ++ [Connection.new (some reconnect.context) credential]) := by
  have hgoing := h.going (by simp [hphase])
  have hsound := h.phase
  rw [hphase] at hsound
  rcases resumeReconnect_cases hstep with hgoes | ⟨-, value, rfl⟩
  · rcases hgoes.connections with hsame | ⟨hstopped, hcurrent, hmade⟩
    · exact Or.inl hsame
    · cases wait with
      | ready connection outcome => exact Or.inl (ready_length hstep)
      | shutdown connection settled =>
        exact Or.inr ⟨hstopped, hgoing.all_superseded hsound.2.2, hcurrent, hmade⟩
      | _ => exact Or.inr ⟨hstopped, hgoing.all_superseded hsound.2, hcurrent, hmade⟩
  · left
    unfold State.established
    dsimp only
    split_ifs
    · exact ⟨rfl, rfl⟩
    · exact ⟨rfl, rfl⟩

/-- A connection is made only as long as nobody has stopped the client and when all others have
closed or were told to disconnect; it resumes the last activation, or before there was one the
candidate of the first connection. -/
theorem run_reconnects {carrierCredential : Option JsString} {labels : List Label} {label : Label}
    (hrun : Execution.run (step issuesCredentials) (start carrierCredential) labels = some s)
    (hstep : step issuesCredentials s label = some s')
    (hmade : s'.connections.length ≠ s.connections.length ∨ s'.current ≠ s.current) :
    s.stopped = false ∧
      (∀ client ∈ s.connections, client.closed.isSome = true ∨ client.disconnecting = true) ∧
      s'.current = s.connections.length ∧
      ∃ context credential,
        s'.connections = s.connections ++ [Connection.new (some context) credential] ∧
        ((∃ activation, s.activation = some activation ∧ context = activation.toContext) ∨
          s.activation = none ∧
            s.connections[0]?.bind Connection.activationCandidate = some (some context)) := by
  have h := run_inv hrun
  by_cases hcontinues : ∃ thrown, label = .continues thrown
  · obtain ⟨thrown, rfl⟩ := hcontinues
    by_cases hreconnecting : ∃ reconnect wait, s.phase = .reconnecting reconnect wait
    · obtain ⟨reconnect, wait, hphase⟩ := hreconnecting
      have hsound := h.phase
      have hresumes : s.continues issuesCredentials thrown = some s' := hstep
      unfold State.continues at hresumes
      rw [hphase] at hsound hresumes
      rcases resumeReconnect_connections h hphase hresumes with
        ⟨hlength, hcurrent⟩ | ⟨hstopped, hsuperseded, hcurrent, credential, hconnections⟩
      · exact absurd hmade (by simp [hlength, hcurrent])
      · refine ⟨hstopped, hsuperseded, hcurrent, reconnect.context, credential, hconnections, ?_⟩
        have hfounded := hsound.1
        unfold Founded at hfounded
        split_ifs at hfounded
        · exact Or.inr hfounded
        · exact Or.inl hfounded
    · simp only [not_exists] at hreconnecting
      obtain ⟨hlength, hcurrent⟩ := continues_connections hreconnecting hstep
      exact absurd hmade (by simp [hlength, hcurrent])
  · have hrests := step_rests (not_exists.1 hcontinues) hstep
    exact absurd hmade (by simp [hrests.length, hrests.current])

theorem run_reconnects_secondAttempt :
    ∃ s s', Execution.run (step false) (start none) (secondAttempt.take 13) = some s ∧
      step false s (.continues none) = some s' ∧
      s'.connections.length ≠ s.connections.length ∧ s'.current = s.connections.length := by
  have hobserved : ((Execution.run (step false) (start none) (secondAttempt.take 13)).bind
      fun s => (step false s (.continues none)).map fun s' =>
        (s.connections.length, s'.connections.length)) = some (2, 3) := by
    decide +kernel
  obtain ⟨s, hrun, hrest⟩ := Option.bind_eq_some_iff.1 hobserved
  obtain ⟨s', hstep, hlengths⟩ := Option.map_eq_some_iff.1 hrest
  obtain ⟨hbefore, hafter⟩ := Prod.mk.inj hlengths
  have hmade : s'.connections.length ≠ s.connections.length := by omega
  exact ⟨s, s', hrun, hstep, hmade, (run_reconnects hrun hstep (Or.inl hmade)).2.2.1⟩

end Reconnections

section Ends

variable {issuesCredentials : Bool} {s s' s'' : State} {reconnect : Reconnect} {wait : Wait}

/-- Whether a stopped client may still report something. -/
def mayReport (s : State) : Bool :=
  match s.phase with
  | .supervises _ | .resumes _ | .givesUp _ | .ended => false
  | .establishes _ => !s.initialActiveReported
  | _ => true

/-- At most one report has come: that the client is active, or that it failed before it ever was. -/
structure Stops (s s' : State) : Prop where
  stopped : s'.stopped = true
  length : s'.connections.length = s.connections.length
  activation : s.activation ≠ none → s'.activation ≠ none
  reports : ∃ reported, s'.statuses = s.statuses ++ reported ∧
    reported.length + (mayReport s').toNat ≤ (mayReport s).toNat ∧
    ∀ status ∈ reported, (∃ attempt, status = .active attempt) ∨
      s.activation = none ∧ ∃ error, status = .failed error

theorem Stops.trans (h : Stops s s') (h' : Stops s' s'') : Stops s s'' where
  stopped := h'.stopped
  length := h'.length.trans h.length
  activation hactivation := h'.activation (h.activation hactivation)
  reports := by
    obtain ⟨reported, hstatuses, hlength, hreported⟩ := h.reports
    obtain ⟨reported', hstatuses', hlength', hreported'⟩ := h'.reports
    refine ⟨reported ++ reported', by rw [hstatuses', hstatuses, List.append_assoc], ?_, ?_⟩
    · rw [List.length_append]
      omega
    · intro status hstatus
      rcases List.mem_append.1 hstatus with hfirst | hsecond
      · exact hreported status hfirst
      · rcases hreported' status hsecond with hactive | ⟨hnone, hfailed⟩
        · exact Or.inl hactive
        · refine Or.inr ⟨?_, hfailed⟩
          by_contra hactivation
          exact h.activation hactivation hnone

theorem stops_silent (hstopped : s'.stopped = true)
    (hlength : s'.connections.length = s.connections.length)
    (hactivation : s.activation ≠ none → s'.activation ≠ none)
    (hstatuses : s'.statuses = s.statuses) (hmay : mayReport s' = true → mayReport s = true) :
    Stops s s' where
  stopped := hstopped
  length := hlength
  activation := hactivation
  reports := ⟨[], by simp [hstatuses], by
    cases hafter : mayReport s' with
    | false => simp
    | true => simp [hmay hafter], by simp⟩

theorem Rests.stops (h : Rests s s') (hstopped : s.stopped = true) : Stops s s' := by
  apply stops_silent (h.stopped hstopped) h.length _ h.statuses
  · intro hmay
    unfold mayReport at hmay ⊢
    rcases h.phase with hsame | ⟨reconnect, wait, wait', -, hphase, hphase'⟩
    · rwa [hsame, h.initialActiveReported] at hmay
    · rw [hphase]
  · intro hactivation
    rwa [h.activation]

theorem finish_stops (hstopped : s.stopped = true) :
    Stops s { s.settleClosure ⟨.closed, none⟩ with phase := .ended } := by
  have hrests := @settleClosure_rests s ⟨.closed, none⟩
  refine stops_silent ?_ ?_ ?_ ?_ ?_
  · exact hrests.stopped hstopped
  · exact hrests.length
  · intro hactivation
    dsimp only
    rwa [hrests.activation]
  · exact hrests.statuses
  · intro hmay
    cases hmay

theorem resumeReconnect_stops {thrown : Option ClientError} (hstopped : s.stopped = true)
    (hphase : s.phase = .reconnecting reconnect wait)
    (hstep : s.resumeReconnect issuesCredentials reconnect wait thrown = some s') :
    Stops s s' := by
  have hmay : mayReport s = true := by
    unfold mayReport
    rw [hphase]
  rcases resumeReconnect_cases hstep with hgoes | ⟨-, value, rfl⟩
  · have hlength : s'.connections.length = s.connections.length := by
      rcases hgoes.connections with hsame | ⟨hgoing, -⟩
      · exact hsame.1
      · rw [hstopped] at hgoing
        cases hgoing
    rcases hgoes.reports with ⟨hstatuses, -⟩ | ⟨hgoing, -⟩
    · exact stops_silent (hgoes.stopped.trans hstopped) hlength
        (fun hactivation => by rwa [hgoes.activation]) hstatuses fun _ => hmay
    · rw [hstopped] at hgoing
      cases hgoing
  · have hreports : ∀ t : State, t.stopped = true → t.connections = s.connections →
        t.activation = s.activation →
        t.statuses = s.statuses ++ [.active (some reconnect.attempt)] → mayReport t = false →
        Stops s t := by
      intro t ht hconnections hactivation hstatuses hfalse
      refine ⟨ht, by rw [hconnections], by simp [hactivation], _, hstatuses, ?_, ?_⟩
      · simp [hmay, hfalse]
      · simp
    unfold State.established
    dsimp only
    split_ifs
    · exact hreports _ hstopped rfl rfl rfl rfl
    · exact hreports _ hstopped rfl rfl rfl rfl

theorem continues_stops {thrown : Option ClientError} (h : Inv s) (hstopped : s.stopped = true)
    (hstep : s.continues issuesCredentials thrown = some s') : Stops s s' := by
  have hsound := h.phase
  unfold State.continues at hstep
  cases hphase : s.phase with
  | ended =>
    rw [hphase] at hstep
    cases hstep
  | awaitsReady =>
    have hmay : mayReport s = true := by
      unfold mayReport
      rw [hphase]
    rw [hphase] at hstep
    dsimp only at hstep
    split at hstep
    all_goals cases hstep
    · exact stops_silent hstopped rfl id rfl fun _ => hmay
    · exact stops_silent hstopped rfl id rfl fun _ => hmay
  | awaitsCandidate failure =>
    have hmay : mayReport s = true := by
      unfold mayReport
      rw [hphase]
    rw [hphase] at hstep
    obtain ⟨context, -, rfl⟩ := Option.map_eq_some_iff.1 hstep
    exact stops_silent hstopped rfl id rfl fun _ => hmay
  | awaitsClosed failure context =>
    have hmay : mayReport s = true := by
      unfold mayReport
      rw [hphase]
    rw [hphase] at hstep
    obtain ⟨outcome, -, rfl⟩ := Option.map_eq_some_iff.1 hstep
    split
    · exact stops_silent hstopped rfl id rfl fun _ => hmay
    · split_ifs
      · exact stops_silent hstopped rfl id rfl fun _ => hmay
      · exact stops_silent hstopped rfl id rfl fun _ => hmay
  | reconnecting reconnect wait =>
    rw [hphase] at hstep
    exact resumeReconnect_stops hstopped hphase hstep
  | establishes value =>
    rw [hphase] at hstep
    cases hstep
    split_ifs with hreported
    · exact stops_silent hstopped rfl (fun _ => Option.some_ne_none value) rfl
        fun hmay => by cases hmay
    · refine ⟨hstopped, rfl, fun _ => Option.some_ne_none value, [.active none], rfl, ?_, ?_⟩
      · simp [mayReport, hphase, hreported]
      · simp
  | fails failure =>
    rw [hphase] at hsound hstep
    cases hstep
    have hrests := @settleClosure_rests
      (({ s with stopped := true } : State).report (.failed failure)) ⟨.failed, some failure⟩
    refine ⟨hrests.stopped rfl, hrests.length, fun hactivation => absurd hsound hactivation,
      [.failed failure], hrests.statuses, ?_, ?_⟩
    · simp [mayReport, hphase, State.fail]
    · intro status hstatus
      rw [List.mem_singleton.1 hstatus]
      exact Or.inr ⟨hsound, failure, rfl⟩
  | supervises client =>
    rw [hphase] at hsound hstep
    obtain ⟨outcome, -, rfl⟩ := Option.map_eq_some_iff.1 hstep
    unfold State.superviseClosed
    rw [if_neg (not_not.2 hsound.1.symm), if_pos (Or.inl hstopped)]
    exact finish_stops hstopped
  | resumes value =>
    rw [hphase] at hstep
    cases hstep
    exact stops_silent hstopped rfl (fun _ => Option.some_ne_none value) rfl
      fun hmay => by cases hmay
  | givesUp failure =>
    rw [hphase] at hstep
    dsimp only at hstep
    rw [if_pos hstopped] at hstep
    cases hstep
    exact finish_stops hstopped

theorem step_stops {label : Label} (h : Inv s) (hstopped : s.stopped = true)
    (hstep : step issuesCredentials s label = some s') : Stops s s' := by
  by_cases hcontinues : ∃ thrown, label = .continues thrown
  · obtain ⟨thrown, rfl⟩ := hcontinues
    exact continues_stops h hstopped hstep
  · exact (step_rests (not_exists.1 hcontinues) hstep).stops hstopped

/-- The client is closed during its second attempt, whose activation comes all the same. -/
def closedLate : List Label :=
  [.readySettles 2 (.ok resumable), .waitSettles, .close, .continues none, .continues none,
    .closedSettles 2 lost, .continues none, .closeSettles true]

/-- What has settled the closed promise stays. -/
theorem continues_closure {thrown : Option ClientError}
    (hstep : s.continues issuesCredentials thrown = some s') {closure : TunnelClientClosure}
    (hclosure : s.closure = some closure) : s'.closure = some closure := by
  have hsettle : ∀ value, (s.settleClosure value).closure = some closure :=
    fun value => (settleClosure_rests value).closure closure hclosure
  have hfail : ∀ failure, (s.fail failure).closure = some closure :=
    fun failure => (@settleClosure_rests (({ s with stopped := true } : State).report
      (.failed failure)) ⟨.failed, some failure⟩).closure closure hclosure
  unfold State.continues at hstep
  split at hstep
  · split at hstep
    all_goals cases hstep
    · exact hclosure
    · exact hclosure
  · obtain ⟨context, -, rfl⟩ := Option.map_eq_some_iff.1 hstep
    exact hclosure
  · obtain ⟨outcome, -, rfl⟩ := Option.map_eq_some_iff.1 hstep
    split
    · exact hclosure
    · split_ifs
      · exact hclosure
      · exact hclosure
  · rcases resumeReconnect_cases hstep with hgoes | ⟨-, value, rfl⟩
    · exact hgoes.closure.trans hclosure
    · unfold State.established
      dsimp only
      split_ifs
      · exact hclosure
      · exact hclosure
  · cases hstep
    dsimp only
    split_ifs
    · exact hclosure
    · exact hclosure
  · cases hstep
    exact hfail _
  · obtain ⟨outcome, -, rfl⟩ := Option.map_eq_some_iff.1 hstep
    unfold State.superviseClosed
    split_ifs
    · exact hclosure
    · exact hsettle _
    · split
      · exact hsettle _
      · exact hclosure
  · cases hstep
    exact hclosure
  · split_ifs at hstep
    all_goals cases hstep
    · exact hsettle _
    · exact hfail _
  · cases hstep

theorem step_closure {label : Label} (hstep : step issuesCredentials s label = some s')
    {closure : TunnelClientClosure} (hclosure : s.closure = some closure) :
    s'.closure = some closure := by
  by_cases hcontinues : ∃ thrown, label = .continues thrown
  · obtain ⟨thrown, rfl⟩ := hcontinues
    exact continues_closure hstep hclosure
  · exact (step_rests (not_exists.1 hcontinues) hstep).closure closure hclosure

/-- Nothing follows once the functions have come to an end. -/
theorem step_ended {label : Label} (hended : s.phase = .ended)
    (hstep : step issuesCredentials s label = some s') :
    s'.phase = .ended ∧ s'.statuses = s.statuses ∧
      s'.connections.length = s.connections.length := by
  by_cases hcontinues : ∃ thrown, label = .continues thrown
  · obtain ⟨thrown, rfl⟩ := hcontinues
    have hnone : s.continues issuesCredentials thrown = some s' := hstep
    unfold State.continues at hnone
    rw [hended] at hnone
    cases hnone
  · have hrests := step_rests (not_exists.1 hcontinues) hstep
    rcases hrests.phase with hsame | ⟨reconnect, wait, wait', -, hphase, -⟩
    · exact ⟨hsame.trans hended, hrests.statuses, hrests.length⟩
    · rw [hended] at hphase
      cases hphase

/-- The closed promise settles once, with a failure only if this failure was reported; after any
failure was reported it has settled, and nothing more is reported or connected. -/
theorem run_closure {carrierCredential : Option JsString} {before after : List Label}
    (hbefore : Execution.run (step issuesCredentials) (start carrierCredential) before = some s)
    (hafter : Execution.run (step issuesCredentials) s after = some s') :
    (∀ closure, s.closure = some closure → s'.closure = some closure ∧
      (closure.reason = .failed →
        ∃ error, closure.error = some error ∧ .failed error ∈ s.statuses)) ∧
    ∀ error, .failed error ∈ s.statuses → s.closure.isSome = true ∧ s'.statuses = s.statuses ∧
      s'.connections.length = s.connections.length := by
  have h := run_inv hbefore
  refine ⟨fun closure hclosure => ⟨?_, h.closure closure hclosure⟩, fun error herror => ?_⟩
  · exact @Execution.invariant_of_run _ _ _ (fun t => t.closure = some closure)
      (fun _ _ _ hsettled hstep => step_closure hstep hsettled) _ _ _ hclosure hafter
  · have hended := (h.failed error herror).1
    have hsound := h.phase
    rw [hended] at hsound
    obtain ⟨-, hstatuses, hlength⟩ := @Execution.invariant_of_run _ _ _
      (fun t => t.phase = .ended ∧ t.statuses = s.statuses ∧
        t.connections.length = s.connections.length)
      (fun _ _ _ hsame hstep => by
        obtain ⟨hphase, hstatuses, hlength⟩ := step_ended hsame.1 hstep
        exact ⟨hphase, hstatuses.trans hsame.2.1, hlength.trans hsame.2.2⟩) _ _ _
      ⟨hended, rfl, rfl⟩ hafter
    exact ⟨hsound, hstatuses, hlength⟩

/-- The connection is refused at once and was never active. -/
def refused : List Label :=
  [.readySettles 0 (.error (.gateway (ofAscii "UNAUTHORIZED") none)), .candidateSettles 0 none,
    .closedSettles 0 lost, .continues none, .continues none, .continues none, .continues none]

theorem run_closure_refused :
    ∃ s s', Execution.run (step false) (start none) refused = some s ∧
      Execution.run (step false) s [.close, .disconnect] = some s' ∧ s'.closure = s.closure ∧
      s'.statuses = s.statuses := by
  have hobserved : ((Execution.run (step false) (start none) refused).bind
      fun s => (Execution.run (step false) s [.close, .disconnect]).map fun _ =>
        (s.closure, s.statuses)) =
      some (some ⟨.failed, some (.gateway (ofAscii "UNAUTHORIZED") none)⟩,
        [.failed (.gateway (ofAscii "UNAUTHORIZED") none)]) := by
    decide +kernel
  obtain ⟨s, hbefore, hrest⟩ := Option.bind_eq_some_iff.1 hobserved
  obtain ⟨s', hafter, hpair⟩ := Option.map_eq_some_iff.1 hrest
  obtain ⟨hclosure, hstatuses⟩ := Prod.mk.inj hpair
  have hfinal := run_closure hbefore hafter
  refine ⟨s, s', hbefore, hafter, ?_, ?_⟩
  · rw [hclosure]
    exact (hfinal.1 _ hclosure).1
  · apply (hfinal.2 (.gateway (ofAscii "UNAUTHORIZED") none) _).2.1
    rw [hstatuses]
    exact List.mem_singleton_self _

end Ends

end Lotur.Client.Resilient
