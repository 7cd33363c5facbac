import Lotur.Client.ResilientClient
import Lotur.Library.Execution

/-! What the resilient client never does: it leaves no connection behind that was not told to go,
makes none after it was stopped, and reports its end once. -/
namespace Lotur.Client.Resilient
open State JsString

section Connections

/-- What is settled or was called stays so. -/
structure Extends (before after : Connection) : Prop where
  context : after.context = before.context
  activationCandidate : ∀ context, before.activationCandidate = some context →
    after.activationCandidate = some context
  closed : before.closed.isSome = true → after.closed.isSome = true
  disconnecting : before.disconnecting = true → after.disconnecting = true

theorem Extends.refl (connection : Connection) : Extends connection connection :=
  ⟨rfl, fun _ => id, id, id⟩

theorem Extends.trans {a b c : Connection} (h : Extends a b) (h' : Extends b c) : Extends a c :=
  ⟨h'.context.trans h.context,
    fun context hcontext => h'.activationCandidate context (h.activationCandidate context hcontext),
    fun hclosed => h'.closed (h.closed hclosed),
    fun hdisconnecting => h'.disconnecting (h.disconnecting hdisconnecting)⟩

/-- The connection has closed, or was told to disconnect. -/
def Superseded (connection : Connection) : Prop :=
  connection.closed.isSome = true ∨ connection.disconnecting = true

theorem Superseded.extends {before after : Connection} (h : Superseded before)
    (hextends : Extends before after) : Superseded after :=
  h.imp hextends.closed hextends.disconnecting

/-- No connection is made and nothing is reported. -/
structure Quiet (s s' : State) : Prop where
  length : s'.connections.length = s.connections.length
  connections : ∀ (i : ℕ) (after : Connection), s'.connections[i]? = some after →
    ∃ before, s.connections[i]? = some before ∧ Extends before after
  current : s'.current = s.current
  activation : s'.activation = s.activation
  stopped : s'.stopped = s.stopped
  closure : s'.closure = s.closure
  initialActiveReported : s'.initialActiveReported = s.initialActiveReported
  statuses : s'.statuses = s.statuses

variable {s s' s'' : State}

theorem Quiet.refl (s : State) : Quiet s s :=
  ⟨rfl, fun _ after hafter => ⟨after, hafter, .refl after⟩, rfl, rfl, rfl, rfl, rfl, rfl⟩

theorem Quiet.trans (h : Quiet s s') (h' : Quiet s' s'') : Quiet s s'' where
  length := h'.length.trans h.length
  connections i after hafter := by
    obtain ⟨between, hbetween, hextends⟩ := h'.connections i after hafter
    obtain ⟨before, hbefore, hextends'⟩ := h.connections i between hbetween
    exact ⟨before, hbefore, hextends'.trans hextends⟩
  current := h'.current.trans h.current
  activation := h'.activation.trans h.activation
  stopped := h'.stopped.trans h.stopped
  closure := h'.closure.trans h.closure
  initialActiveReported := h'.initialActiveReported.trans h.initialActiveReported
  statuses := h'.statuses.trans h.statuses

theorem quiet_of_same (hconnections : s'.connections = s.connections)
    (hcurrent : s'.current = s.current) (hactivation : s'.activation = s.activation)
    (hstopped : s'.stopped = s.stopped) (hclosure : s'.closure = s.closure)
    (hreported : s'.initialActiveReported = s.initialActiveReported)
    (hstatuses : s'.statuses = s.statuses) : Quiet s s' where
  length := by rw [hconnections]
  connections i after hafter := ⟨after, by rwa [hconnections] at hafter, .refl after⟩
  current := hcurrent
  activation := hactivation
  stopped := hstopped
  closure := hclosure
  initialActiveReported := hreported
  statuses := hstatuses

theorem update_quiet {connection : ℕ} {f : Connection → Connection}
    (h : ∀ client, s.connections[connection]? = some client → Extends client (f client)) :
    Quiet s (s.update connection f) where
  length := List.length_modify _ _ _
  connections i after hafter := by
    unfold State.update at hafter
    rw [List.getElem?_modify] at hafter
    cases hbefore : s.connections[i]? with
    | none =>
      rw [hbefore] at hafter
      cases hafter
    | some before =>
      rw [hbefore] at hafter
      split_ifs at hafter with hsame
      · cases hafter
        rw [hsame] at h
        exact ⟨before, rfl, h before hbefore⟩
      · cases hafter
        exact ⟨before, rfl, .refl before⟩
  current := rfl
  activation := rfl
  stopped := rfl
  closure := rfl
  initialActiveReported := rfl
  statuses := rfl

theorem disconnectAt_quiet (s : State) (connection : ℕ) : Quiet s (s.disconnectAt connection) :=
  update_quiet fun _ _ => ⟨rfl, fun _ => id, id, fun _ => rfl⟩

end Connections

section Reconnect

variable {s : State} {reconnect : Reconnect} {wait : Wait} {error : ClientError}

theorem await_quiet : Quiet s (s.await reconnect wait) :=
  quiet_of_same rfl rfl rfl rfl rfl rfl rfl

theorem leave_quiet : Quiet s (s.leave reconnect error) :=
  quiet_of_same rfl rfl rfl rfl rfl rfl rfl

theorem afterFailure_quiet : Quiet s (s.afterFailure reconnect) := by
  unfold State.afterFailure
  split_ifs
  · exact leave_quiet
  · exact await_quiet

theorem caught_quiet {candidate : Option ℕ} : Quiet s (s.caught reconnect error candidate) := by
  unfold State.caught
  cases candidate with
  | none => exact afterFailure_quiet
  | some connection => exact (disconnectAt_quiet s connection).trans await_quiet

theorem beginReconnect_quiet {establishing : Bool} {context : Context} :
    Quiet s (s.beginReconnect establishing context error) :=
  quiet_of_same rfl rfl rfl rfl rfl rfl rfl

end Reconnect

section Invariant

/-- The context comes from the last activation, or from the first connection before there is one. -/
def Founded (s : State) (reconnect : Reconnect) : Prop :=
  if reconnect.establishing = true then
    s.activation = none ∧
      s.connections[0]?.bind Connection.activationCandidate = some (some reconnect.context)
  else ∃ activation, s.activation = some activation ∧ reconnect.context = activation.toContext

def CurrentSuperseded (s : State) : Prop :=
  ∀ client, s.connections[s.current]? = some client → Superseded client

def WaitSound (s : State) : Wait → Prop
  | .ready connection _ => connection = s.current
  | .shutdown connection _ => connection = s.current ∧ CurrentSuperseded s
  | _ => CurrentSuperseded s

def PhaseSound (s : State) : Phase → Prop
  | .awaitsReady | .awaitsCandidate _ => s.activation = none ∧ s.current = 0
  | .awaitsClosed _ context => s.activation = none ∧ s.current = 0 ∧
      s.connections[0]?.bind Connection.activationCandidate = some context
  | .reconnecting reconnect wait => Founded s reconnect ∧ WaitSound s wait
  | .establishes _ | .fails _ => s.activation = none
  | .supervises client => client = s.current ∧ s.activation ≠ none
  | .resumes _ | .givesUp _ => s.activation ≠ none
  | .ended => s.closure.isSome = true

structure Inv (s : State) : Prop where
  current : s.current < s.connections.length
  superseded : ∀ (i : ℕ) (client : Connection), s.connections[i]? = some client →
    i ≠ s.current → Superseded client
  phase : PhaseSound s s.phase
  failed : ∀ error, .failed error ∈ s.statuses → s.phase = .ended ∧ s.stopped = true
  closure : ∀ closure, s.closure = some closure → closure.reason = .failed →
    ∃ error, closure.error = some error ∧ .failed error ∈ s.statuses

theorem start_inv (carrierCredential : Option JsString) : Inv (start carrierCredential) where
  current := Nat.zero_lt_one
  superseded i client hclient hother := by
    cases i with
    | zero => exact absurd rfl hother
    | succ i => simp [start] at hclient
  phase := ⟨rfl, rfl⟩
  failed error herror := by simp [start] at herror
  closure closure hclosure := by simp [start] at hclosure

variable {s s' : State}

theorem Quiet.candidate {context : Option Context} (h : Quiet s s')
    (hcandidate : s.connections[0]?.bind Connection.activationCandidate = some context) :
    s'.connections[0]?.bind Connection.activationCandidate = some context := by
  obtain ⟨before, hbefore, hcontext⟩ := Option.bind_eq_some_iff.1 hcandidate
  have hlt : 0 < s'.connections.length := by
    rw [h.length]
    exact (List.getElem?_eq_some_iff.1 hbefore).1
  obtain ⟨before', hbefore', hextends⟩ := h.connections 0 _ (List.getElem?_eq_getElem hlt)
  rw [hbefore] at hbefore'
  cases hbefore'
  rw [List.getElem?_eq_getElem hlt]
  exact hextends.activationCandidate context hcontext

theorem Quiet.founded {reconnect : Reconnect} (h : Quiet s s') (hfounded : Founded s reconnect) :
    Founded s' reconnect := by
  unfold Founded at hfounded ⊢
  rw [h.activation]
  split_ifs at hfounded ⊢ with hestablishing
  · exact ⟨hfounded.1, h.candidate hfounded.2⟩
  · exact hfounded

theorem Quiet.currentSuperseded (h : Quiet s s') (hcurrent : CurrentSuperseded s) :
    CurrentSuperseded s' := by
  intro client hclient
  rw [h.current] at hclient
  obtain ⟨before, hbefore, hextends⟩ := h.connections _ client hclient
  exact (hcurrent before hbefore).extends hextends

theorem Quiet.waitSound {wait : Wait} (h : Quiet s s') (hwait : WaitSound s wait) :
    WaitSound s' wait := by
  cases wait with
  | ready connection outcome => exact hwait.trans h.current.symm
  | shutdown connection settled =>
    exact ⟨hwait.1.trans h.current.symm, h.currentSuperseded hwait.2⟩
  | _ => exact h.currentSuperseded hwait

theorem Quiet.phaseSound {phase : Phase} (h : Quiet s s') (hphase : PhaseSound s phase) :
    PhaseSound s' phase := by
  cases phase with
  | awaitsReady | awaitsCandidate => exact ⟨h.activation.trans hphase.1, h.current.trans hphase.2⟩
  | awaitsClosed failure context =>
    exact ⟨h.activation.trans hphase.1, h.current.trans hphase.2.1, h.candidate hphase.2.2⟩
  | reconnecting reconnect wait => exact ⟨h.founded hphase.1, h.waitSound hphase.2⟩
  | establishes value | fails failure => exact h.activation.trans hphase
  | supervises client =>
    exact ⟨hphase.1.trans h.current.symm, fun hnone => hphase.2 (h.activation.symm.trans hnone)⟩
  | resumes value | givesUp failure => exact fun hnone => hphase (h.activation.symm.trans hnone)
  | ended =>
    unfold PhaseSound at hphase ⊢
    rwa [h.closure]

/-- What holds as long as the functions have not come to an end, wherever they are. -/
structure Going (s : State) : Prop where
  current : s.current < s.connections.length
  superseded : ∀ (i : ℕ) (client : Connection), s.connections[i]? = some client →
    i ≠ s.current → Superseded client
  unfailed : ∀ error, .failed error ∉ s.statuses
  closure : ∀ closure, s.closure = some closure → closure.reason ≠ .failed

theorem Inv.going (h : Inv s) (hphase : s.phase ≠ .ended) : Going s where
  current := h.current
  superseded := h.superseded
  unfailed error herror := hphase (h.failed error herror).1
  closure closure hclosure hreason := by
    obtain ⟨error, -, herror⟩ := h.closure closure hclosure hreason
    exact hphase (h.failed error herror).1

theorem Going.inv (h : Going s) (hphase : PhaseSound s s.phase) : Inv s where
  current := h.current
  superseded := h.superseded
  phase := hphase
  failed error herror := absurd herror (h.unfailed error)
  closure closure hclosure hreason := absurd hreason (h.closure closure hclosure)

theorem Going.quiet (h : Going s) (hquiet : Quiet s s') : Going s' where
  current := by
    rw [hquiet.current, hquiet.length]
    exact h.current
  superseded i client hclient hother := by
    rw [hquiet.current] at hother
    obtain ⟨before, hbefore, hextends⟩ := hquiet.connections i client hclient
    exact (h.superseded i before hbefore hother).extends hextends
  unfailed error herror := by
    rw [hquiet.statuses] at herror
    exact h.unfailed error herror
  closure closure hclosure := by
    rw [hquiet.closure] at hclosure
    exact h.closure closure hclosure

theorem Going.all_superseded (h : Going s) (hcurrent : CurrentSuperseded s) :
    ∀ client ∈ s.connections, Superseded client := by
  intro client hclient
  obtain ⟨i, hi⟩ := List.mem_iff_getElem?.1 hclient
  by_cases hsame : i = s.current
  · exact hcurrent client (hsame ▸ hi)
  · exact h.superseded i client hi hsame

end Invariant

section Functions

variable {s s' : State} {reconnect : Reconnect} {wait : Wait} {error : ClientError}

theorem reject_sound (h : WaitSound s wait) : WaitSound s (wait.reject error) := by
  cases wait with
  | _ => exact h

theorem await_inv (h : Going s) (hfounded : Founded s reconnect) (hwait : WaitSound s wait) :
    Inv (s.await reconnect wait) := by
  refine (h.quiet await_quiet).inv (await_quiet.phaseSound ⟨hfounded, ?_⟩)
  split_ifs
  · exact reject_sound hwait
  · exact hwait

theorem leave_inv (h : Going s) (hfounded : Founded s reconnect) :
    Inv (s.leave reconnect error) := by
  apply (h.quiet leave_quiet).inv
  apply leave_quiet.phaseSound
  unfold Founded at hfounded
  unfold State.leave
  dsimp only
  split_ifs at hfounded ⊢ with hestablishing
  · exact hfounded.1
  · obtain ⟨activation, hactivation, -⟩ := hfounded
    simp [PhaseSound, hactivation]

theorem afterFailure_inv (h : Going s) (hfounded : Founded s reconnect)
    (hcurrent : CurrentSuperseded s) : Inv (s.afterFailure reconnect) := by
  unfold State.afterFailure
  split_ifs
  · exact leave_inv h hfounded
  · exact await_inv h hfounded hcurrent

theorem caught_none_inv (h : Going s) (hfounded : Founded s reconnect)
    (hcurrent : CurrentSuperseded s) : Inv (s.caught reconnect error none) :=
  afterFailure_inv h hfounded hcurrent

/-- The candidate that has failed is told to disconnect. -/
theorem caught_some_inv (h : Going s) (hfounded : Founded s reconnect) :
    Inv (s.caught reconnect error (some s.current)) := by
  have hquiet := disconnectAt_quiet s s.current
  refine await_inv (h.quiet hquiet) (hquiet.founded hfounded) ⟨rfl, fun client hclient => ?_⟩
  unfold State.disconnectAt State.update at hclient
  rw [List.getElem?_modify_eq] at hclient
  obtain ⟨before, -, rfl⟩ := Option.map_eq_some_iff.1 hclient
  exact Or.inr rfl

theorem report_going (h : Going s) {status : Status} (hstatus : ∀ error, status ≠ .failed error) :
    Going (s.report status) where
  current := h.current
  superseded := h.superseded
  unfailed error herror := by
    rcases List.mem_append.1 herror with hbefore | hself
    · exact h.unfailed error hbefore
    · exact hstatus error (List.mem_singleton.1 hself).symm
  closure := h.closure

/-- A connection is made when all others have closed or were told to disconnect. -/
theorem connect_inv {credential : Option JsString} {thrown : Option ClientError} (h : Going s)
    (hfounded : Founded s reconnect) (hcurrent : CurrentSuperseded s) :
    Inv (s.connect reconnect credential thrown) := by
  cases thrown with
  | some error => exact caught_none_inv h hfounded hcurrent
  | none =>
    have hfirst : 0 < s.connections.length := Nat.zero_lt_of_lt h.current
    unfold State.connect
    dsimp only
    apply await_inv
    · refine ⟨by simp, fun i client hclient hother => ?_, h.unfailed, h.closure⟩
      dsimp only at hclient hother
      rw [List.getElem?_append] at hclient
      split_ifs at hclient with hold
      · exact h.all_superseded hcurrent client (List.mem_of_getElem? hclient)
      · have hlt := (List.getElem?_eq_some_iff.1 hclient).1
        rw [List.length_singleton] at hlt
        omega
    · unfold Founded at hfounded ⊢
      dsimp only
      rwa [List.getElem?_append_left hfirst]
    · exact rfl

theorem attempt_inv {issuesCredentials : Bool} {thrown : Option ClientError} (h : Going s)
    (hfounded : Founded s reconnect) (hcurrent : CurrentSuperseded s) :
    Inv (s.attempt issuesCredentials reconnect thrown) := by
  unfold State.attempt
  split_ifs
  · exact leave_inv h hfounded
  · exact await_inv (report_going h (by simp)) hfounded hcurrent
  · exact connect_inv (report_going h (by simp)) hfounded hcurrent

theorem beginReconnect_inv {establishing : Bool} {context : Context} (h : Going s)
    (hfounded : Founded s ⟨establishing, context, 0, error⟩) (hcurrent : CurrentSuperseded s) :
    Inv (s.beginReconnect establishing context error) :=
  await_inv (h.quiet (quiet_of_same rfl rfl rfl rfl rfl rfl rfl)) hfounded hcurrent

theorem established_inv {value : Activation} (h : Going s) (hfounded : Founded s reconnect) :
    Inv (s.established reconnect value) := by
  have hgoing := @report_going s h (.active (some reconnect.attempt)) (by simp)
  unfold Founded at hfounded
  unfold State.established
  dsimp only
  split_ifs at hfounded ⊢ with hestablishing
  · exact ⟨hgoing.current, hgoing.superseded, hfounded.1,
      fun error herror => absurd herror (hgoing.unfailed error),
      fun closure hclosure hreason => absurd hreason (hgoing.closure closure hclosure)⟩
  · obtain ⟨activation, hactivation, -⟩ := hfounded
    refine ⟨hgoing.current, hgoing.superseded, ?_,
      fun error herror => absurd herror (hgoing.unfailed error),
      fun closure hclosure hreason => absurd hreason (hgoing.closure closure hclosure)⟩
    simp [PhaseSound, State.report, hactivation]

theorem resumeReconnect_inv {issuesCredentials : Bool} {thrown : Option ClientError} (h : Going s)
    (hfounded : Founded s reconnect) (hwait : WaitSound s wait)
    (hstep : s.resumeReconnect issuesCredentials reconnect wait thrown = some s') : Inv s' := by
  unfold State.resumeReconnect at hstep
  split at hstep
  · cases hstep
    exact attempt_inv h hfounded hwait
  · cases hstep
    exact attempt_inv h hfounded hwait
  · cases hstep
    exact leave_inv h hfounded
  · cases hstep
    exact leave_inv h hfounded
  · split_ifs at hstep
    · cases hstep
      exact caught_none_inv h hfounded hwait
    · cases hstep
      exact connect_inv h hfounded hwait
  · cases hstep
    exact caught_none_inv h hfounded hwait
  · cases hstep
    exact established_inv h hfounded
  · cases hstep
    obtain rfl : _ = s.current := hwait
    exact caught_some_inv h hfounded
  · cases hstep
    exact afterFailure_inv h hfounded hwait.2
  · cases hstep

theorem settleClosure_eq {value closure : TunnelClientClosure}
    (h : (s.settleClosure value).closure = some closure) :
    s.closure = some closure ∨ closure = value := by
  unfold State.settleClosure at h
  split_ifs at h
  · exact Or.inl h
  · cases h
    exact Or.inr rfl

theorem settleClosure_isSome (value : TunnelClientClosure) :
    (s.settleClosure value).closure.isSome = true := by
  unfold State.settleClosure
  split_ifs with hsome
  · exact hsome
  · rfl

/-- Nothing else changes. -/
theorem settleClosure_same (value : TunnelClientClosure) :
    (s.settleClosure value).connections = s.connections ∧
      (s.settleClosure value).current = s.current ∧
      (s.settleClosure value).activation = s.activation ∧
      (s.settleClosure value).stopped = s.stopped ∧
      (s.settleClosure value).initialActiveReported = s.initialActiveReported ∧
      (s.settleClosure value).statuses = s.statuses ∧
      (s.settleClosure value).phase = s.phase := by
  unfold State.settleClosure
  split_ifs
  · exact ⟨rfl, rfl, rfl, rfl, rfl, rfl, rfl⟩
  · exact ⟨rfl, rfl, rfl, rfl, rfl, rfl, rfl⟩

/-- The closed promise settles without a failure, and the functions end. -/
theorem finish_inv (h : Going s) :
    Inv { s.settleClosure ⟨.closed, none⟩ with phase := .ended } := by
  obtain ⟨hconnections, hcurrent, -, -, -, hstatuses, -⟩ := @settleClosure_same s ⟨.closed, none⟩
  apply Going.inv
  · refine ⟨?_, ?_, ?_, fun closure hclosure => ?_⟩
    · dsimp only
      rw [hconnections, hcurrent]
      exact h.current
    · dsimp only
      rw [hconnections, hcurrent]
      exact h.superseded
    · dsimp only
      rw [hstatuses]
      exact h.unfailed
    · rcases settleClosure_eq hclosure with hbefore | rfl
      · exact h.closure closure hbefore
      · simp
  · exact settleClosure_isSome _

/-- The failure is reported, and the closed promise settles with it. -/
theorem fail_inv (h : Going s) : Inv (s.fail error) := by
  unfold State.fail
  obtain ⟨hconnections, hcurrent, -, hstopped, -, hstatuses, -⟩ := @settleClosure_same
    (({ s with stopped := true } : State).report (.failed error)) ⟨.failed, some error⟩
  refine ⟨?_, ?_, settleClosure_isSome _, fun _ _ => ⟨rfl, hstopped⟩, ?_⟩
  · dsimp only
    rw [hconnections, hcurrent]
    exact h.current
  · dsimp only
    rw [hconnections, hcurrent]
    exact h.superseded
  · intro closure hclosure hreason
    dsimp only
    rw [hstatuses]
    rcases settleClosure_eq hclosure with hbefore | rfl
    · exact absurd hreason (h.closure closure hbefore)
    · exact ⟨error, rfl, List.mem_append_right _ List.mem_cons_self⟩

theorem closed_superseded {outcome : TunnelClientClosure}
    (hclosed : s.connections[s.current]?.bind Connection.closed = some outcome) :
    CurrentSuperseded s := by
  intro client hclient
  rw [hclient] at hclosed
  left
  rw [show client.closed = some outcome from hclosed]
  rfl

theorem superviseClosed_inv {client : ℕ} {outcome : TunnelClientClosure} (h : Going s)
    (hphase : PhaseSound s (.supervises client))
    (hclosed : s.connections[client]?.bind Connection.closed = some outcome) :
    Inv (s.superviseClosed client outcome) := by
  obtain ⟨rfl, hactivation⟩ := hphase
  unfold State.superviseClosed
  rw [if_neg (not_not.2 rfl)]
  split_ifs
  · exact finish_inv h
  · split
    · rename_i hnone
      exact absurd hnone hactivation
    · rename_i activation hsome
      apply beginReconnect_inv h
      · exact ⟨activation, hsome, rfl⟩
      · exact closed_superseded hclosed

theorem Going.phase (h : Going s) {phase : Phase} : Going { s with phase } :=
  h.quiet (quiet_of_same rfl rfl rfl rfl rfl rfl rfl)

theorem phase_inv {phase : Phase} (h : Going s) (hphase : PhaseSound s phase) :
    Inv { s with phase } :=
  h.phase.inv ((quiet_of_same rfl rfl rfl rfl rfl rfl rfl : Quiet s { s with phase }).phaseSound
    hphase)

theorem establishes_inv {value : Activation} (h : Going s) :
    Inv { (if s.initialActiveReported then s else s.report (.active none)) with
      activation := some value, ready := some (.ok value), phase := .supervises s.current } := by
  have hphase : ∀ t : State, t.current = s.current → Going t →
      Inv { t with
        activation := some value, ready := some (.ok value), phase := .supervises s.current } := by
    intro t hcurrent ht
    apply Going.inv
    · exact ⟨ht.current, ht.superseded, ht.unfailed, ht.closure⟩
    · exact ⟨hcurrent.symm, Option.some_ne_none value⟩
  split_ifs
  · exact hphase s rfl h
  · exact hphase (s.report (.active none)) rfl (report_going h (by simp))

theorem continues_inv {issuesCredentials : Bool} {thrown : Option ClientError} (h : Inv s)
    (hstep : s.continues issuesCredentials thrown = some s') : Inv s' := by
  have hsound := h.phase
  unfold State.continues at hstep
  cases hphase : s.phase with
  | ended =>
    rw [hphase] at hstep
    cases hstep
  | awaitsReady =>
    have hgoing := h.going (by simp [hphase])
    rw [hphase] at hsound hstep
    dsimp only at hstep
    split at hstep
    · cases hstep
    · cases hstep
      exact phase_inv hgoing hsound.1
    · cases hstep
      exact phase_inv hgoing hsound
  | awaitsCandidate failure =>
    have hgoing := h.going (by simp [hphase])
    rw [hphase] at hsound hstep
    obtain ⟨context, hcandidate, rfl⟩ := Option.map_eq_some_iff.1 hstep
    exact phase_inv hgoing ⟨hsound.1, hsound.2, hcandidate⟩
  | awaitsClosed failure context =>
    have hgoing := h.going (by simp [hphase])
    rw [hphase] at hsound hstep
    obtain ⟨hactivation, hcurrent, hcandidate⟩ := hsound
    obtain ⟨outcome, hclosed, rfl⟩ := Option.map_eq_some_iff.1 hstep
    cases context with
    | none => exact phase_inv hgoing hactivation
    | some context =>
      dsimp only
      split_ifs
      · apply beginReconnect_inv hgoing
        · exact ⟨hactivation, hcandidate⟩
        · rw [← hcurrent] at hclosed
          exact closed_superseded hclosed
      · exact phase_inv hgoing hactivation
  | reconnecting reconnect wait =>
    have hgoing := h.going (by simp [hphase])
    rw [hphase] at hsound hstep
    exact resumeReconnect_inv hgoing hsound.1 hsound.2 hstep
  | establishes value =>
    have hgoing := h.going (by simp [hphase])
    rw [hphase] at hstep
    cases hstep
    exact establishes_inv hgoing
  | fails failure =>
    have hgoing := h.going (by simp [hphase])
    rw [hphase] at hstep
    cases hstep
    have hfail := @fail_inv s failure hgoing
    exact ⟨hfail.current, hfail.superseded, hfail.phase, hfail.failed, hfail.closure⟩
  | supervises client =>
    have hgoing := h.going (by simp [hphase])
    rw [hphase] at hsound hstep
    obtain ⟨outcome, hclosed, rfl⟩ := Option.map_eq_some_iff.1 hstep
    exact superviseClosed_inv hgoing hsound hclosed
  | resumes value =>
    have hgoing := h.going (by simp [hphase])
    rw [hphase] at hstep
    cases hstep
    apply Going.inv
    · exact ⟨hgoing.current, hgoing.superseded, hgoing.unfailed, hgoing.closure⟩
    · exact ⟨rfl, Option.some_ne_none value⟩
  | givesUp failure =>
    have hgoing := h.going (by simp [hphase])
    rw [hphase] at hstep
    dsimp only at hstep
    split_ifs at hstep
    · cases hstep
      exact finish_inv hgoing
    · cases hstep
      exact fail_inv hgoing

end Functions

section Step

variable {issuesCredentials : Bool} {s s' : State} {label : Label}

theorem Inv.quiet (h : Inv s) (hquiet : Quiet s s') (hphase : PhaseSound s s'.phase)
    (hended : s.phase = .ended → s'.phase = .ended) : Inv s' where
  current := by
    rw [hquiet.current, hquiet.length]
    exact h.current
  superseded i client hclient hother := by
    rw [hquiet.current] at hother
    obtain ⟨before, hbefore, hextends⟩ := hquiet.connections i client hclient
    exact (h.superseded i before hbefore hother).extends hextends
  phase := hquiet.phaseSound hphase
  failed error herror := by
    rw [hquiet.statuses] at herror
    obtain ⟨hphase, hstopped⟩ := h.failed error herror
    exact ⟨hended hphase, hquiet.stopped.trans hstopped⟩
  closure closure hclosure hreason := by
    rw [hquiet.closure] at hclosure
    rw [hquiet.statuses]
    exact h.closure closure hclosure hreason

theorem settleWait_eq {f : Wait → Option Wait} (hstep : s.settleWait f = some s') :
    ∃ reconnect wait wait', s.phase = .reconnecting reconnect wait ∧ f wait = some wait' ∧
      s' = { s with phase := .reconnecting reconnect wait' } := by
  unfold State.settleWait at hstep
  split at hstep
  · obtain ⟨wait', hwait', rfl⟩ := Option.map_eq_some_iff.1 hstep
    rename_i reconnect wait hphase
    exact ⟨reconnect, wait, wait', hphase, hwait', rfl⟩
  · cases hstep

theorem settleWait_inv {f : Wait → Option Wait} (h : Inv s)
    (hf : ∀ wait wait', f wait = some wait' → WaitSound s wait → WaitSound s wait')
    (hstep : s.settleWait f = some s') : Inv s' := by
  obtain ⟨reconnect, wait, wait', hphase, hwait', rfl⟩ := settleWait_eq hstep
  have hsound := h.phase
  rw [hphase] at hsound
  exact phase_inv (h.going (by simp [hphase])) ⟨hsound.1, hf wait wait' hwait' hsound.2⟩

/-- What happens besides the functions themselves: nothing that they have done is undone. -/
theorem settles_sound {wait wait' : Wait} (hsettles : s.settles wait = some wait')
    (h : WaitSound s wait) : WaitSound s wait' := by
  unfold State.settles at hsettles
  split at hsettles
  · obtain ⟨result, -, rfl⟩ := Option.map_eq_some_iff.1 hsettles
    exact h
  · obtain ⟨closure, -, rfl⟩ := Option.map_eq_some_iff.1 hsettles
    exact h
  · cases hsettles

theorem settleClosure_inv (h : Inv s) : Inv (s.settleClosure ⟨.closed, none⟩) := by
  unfold State.settleClosure
  split_ifs with hsettled
  · exact h
  · refine ⟨h.current, h.superseded, ?_, h.failed, fun closure hclosure hreason => ?_⟩
    · have hsound := h.phase
      dsimp only
      cases hphase : s.phase with
      | ended => rfl
      | _ =>
        rw [hphase] at hsound
        exact hsound
    · cases hclosure
      cases hreason

theorem stopping_inv {phase : Phase} (h : Inv s) (hstopped : s.stopped ≠ true)
    (hsound : PhaseSound s phase) :
    Inv { s with stopped := true, closePending := true, phase } := by
  refine ⟨h.current, h.superseded, ?_,
    fun error herror => absurd (h.failed error herror).2 hstopped, h.closure⟩
  cases phase with
  | _ => exact hsound

theorem close_inv (h : Inv s) : Inv s.close := by
  unfold State.close
  split_ifs with hstopped
  · exact settleClosure_inv h
  · have hclosing : ∀ phase, PhaseSound s phase →
        Inv (({ s with stopped := true, closePending := true, phase } : State).update s.current
          fun client => { client with closing := true }) := by
      intro phase hsound
      have hinv := stopping_inv h hstopped hsound
      exact hinv.quiet (update_quiet fun client _ => ⟨rfl, fun _ => id, id, id⟩) hinv.phase id
    apply hclosing
    have hsound := h.phase
    cases hphase : s.phase with
    | reconnecting reconnect wait =>
      rw [hphase] at hsound
      exact ⟨hsound.1, reject_sound hsound.2⟩
    | _ =>
      rw [hphase] at hsound
      exact hsound

theorem step_inv (h : Inv s) (hstep : step issuesCredentials s label = some s') : Inv s' := by
  cases label with
  | readySettles connection result | candidateSettles connection result
  | closedSettles connection result =>
    unfold step at hstep
    dsimp only at hstep
    split at hstep
    · rename_i hclient
      cases hstep
      refine h.quiet (update_quiet fun client hsame => ?_) h.phase id
      rw [hclient] at hsame
      cases hsame
      exact ⟨rfl, by simp, by simp, id⟩
    · cases hstep
  | credentialSettles result =>
    apply settleWait_inv h _ hstep
    intro wait wait' hwait' hsound
    split at hwait'
    · cases hwait'
      exact hsound
    · cases hwait'
  | delayElapses =>
    apply settleWait_inv h _ hstep
    intro wait wait' hwait' hsound
    split at hwait'
    · cases hwait'
      exact hsound
    · cases hwait'
      exact hsound
    · cases hwait'
  | waitSettles => exact settleWait_inv h (fun _ _ => settles_sound) hstep
  | waitExpires byTimer =>
    apply settleWait_inv h _ hstep
    intro wait wait' hwait' hsound
    cases hwait'
    exact reject_sound hsound
  | deadlinePasses =>
    cases hstep
    exact h.quiet (quiet_of_same rfl rfl rfl rfl rfl rfl rfl) h.phase id
  | «continues» thrown => exact continues_inv h hstep
  | close =>
    cases hstep
    exact close_inv h
  | closeSettles succeeded =>
    unfold step at hstep
    dsimp only at hstep
    split_ifs at hstep with hpending hsucceeded
    all_goals cases hstep
    · have hsettled := settleClosure_inv h
      exact hsettled.quiet (quiet_of_same rfl rfl rfl rfl rfl rfl rfl) hsettled.phase id
    · have hsettled := settleClosure_inv (h.quiet (disconnectAt_quiet s s.current) h.phase id)
      exact hsettled.quiet (quiet_of_same rfl rfl rfl rfl rfl rfl rfl) hsettled.phase id
  | disconnect =>
    cases hstep
    exact h.quiet (disconnectAt_quiet s s.current) h.phase id

theorem run_inv {carrierCredential : Option JsString} {labels : List Label}
    (hrun : Execution.run (step issuesCredentials) (start carrierCredential) labels = some s) :
    Inv s :=
  Execution.invariant_of_run (fun _ _ _ => step_inv) (start_inv carrierCredential) hrun

/-- Only the connection that is used now may have been left as it is. -/
theorem run_superseded {carrierCredential : Option JsString} {labels : List Label}
    (hrun : Execution.run (step issuesCredentials) (start carrierCredential) labels = some s)
    {i : ℕ} {client : Connection} (hclient : s.connections[i]? = some client)
    (hother : i ≠ s.current) : client.closed.isSome = true ∨ client.disconnecting = true :=
  (run_inv hrun).superseded i client hclient hother

def resumable : Activation := ⟨⟨ofAscii "secret", ofAscii "127.0.0.1"⟩, 1⟩

def lost : TunnelClientClosure := ⟨.disconnected, none⟩

/-- Two attempts, of which the first is told to disconnect and closes late. -/
def secondAttempt : List Label :=
  [.readySettles 0 (.ok resumable), .continues none, .continues none, .closedSettles 0 lost,
    .continues none, .delayElapses, .continues none,
    .readySettles 1 (.error (.other (ofAscii "WebSocket code 1006"))), .waitSettles,
    .continues none, .waitExpires true, .continues none, .delayElapses, .continues none]

theorem run_superseded_secondAttempt :
    ∃ s client, Execution.run (step false) (start none) secondAttempt = some s ∧
      s.connections[1]? = some client ∧ client.closed = none ∧
      (client.closed.isSome = true ∨ client.disconnecting = true) := by
  have hobserved : (Execution.run (step false) (start none) secondAttempt).map
      (fun s => (s.current, s.connections[1]?.map Connection.closed)) = some (2, some none) := by
    decide +kernel
  obtain ⟨s, hrun, hpair⟩ := Option.map_eq_some_iff.1 hobserved
  obtain ⟨hcurrent, hclosed⟩ := Prod.mk.inj hpair
  obtain ⟨client, hclient, hopen⟩ := Option.map_eq_some_iff.1 hclosed
  exact ⟨s, client, hrun, hclient, hopen, run_superseded hrun hclient (by rw [hcurrent]; decide)⟩

end Step

end Lotur.Client.Resilient
