import Lotur.Library.Execution
import Mathlib.Logic.Function.Basic

/-! `createRefreshCoordinator` of `apps/gateway/src/review-ui/page-state.ts`: calls of the function it
returns, and the promise reactions between them. A step is one call or one reaction. -/
namespace Lotur.Review.RefreshCoordinator

inductive Outcome where
  | fulfilled
  | rejected
  deriving DecidableEq, Repr

/-- Where the loop behind a promise is. `ended` is settled with its `finally` callback still queued;
`passing` has run the callback, and `settled` is what the caller sees. -/
inductive Phase where
  | unborn
  | loading
  | loaded (outcome : Outcome)
  | ended (outcome : Outcome)
  | passing (outcome : Outcome)
  | settled (outcome : Outcome) (time : ℕ)
  deriving DecidableEq, Repr

/-- One run of `loadOnce`, from its call to the settlement of its promise. -/
structure Run where
  promise : ℕ
  started : ℕ
  finished : Option ℕ
  deriving DecidableEq, Repr

/-- A call, and the promise it returned. -/
structure Call where
  made : ℕ
  promise : ℕ
  deriving DecidableEq, Repr

/-- `running` and `dirty` are the source's variables; the rest is the history. -/
structure Coordinator where
  running : Option ℕ
  dirty : Bool
  phase : ℕ → Phase
  nextPromise : ℕ
  now : ℕ
  runs : List Run
  calls : List Call

def Coordinator.initial : Coordinator where
  running := none
  dirty := false
  phase _ := .unborn
  nextPromise := 0
  now := 0
  runs := []
  calls := []

/-- `call` is the function itself; `load` settles the promise of `loadOnce`; `resume` continues the
loop behind `await`; `reset` is the `finally` callback; `settle` is the returned promise. -/
inductive Action where
  | call
  | load (promise : ℕ) (outcome : Outcome)
  | resume (promise : ℕ)
  | reset (promise : ℕ)
  | settle (promise : ℕ)
  deriving DecidableEq, Repr

namespace Coordinator
variable (s : Coordinator)

/-- The body of the loop up to its `await`. -/
def startLoading (promise : ℕ) : Coordinator :=
  { s with
    dirty := false
    phase := Function.update s.phase promise .loading
    runs := ⟨promise, s.now, none⟩ :: s.runs
    now := s.now + 1 }

def moveTo (promise : ℕ) (phase : Phase) : Coordinator :=
  { s with phase := Function.update s.phase promise phase, now := s.now + 1 }

def finishRun (promise : ℕ) (run : Run) : Run :=
  if run.promise = promise ∧ run.finished = none then { run with finished := some s.now } else run

def requested : Coordinator :=
  match s.running with
  | some promise =>
    { s with dirty := true, calls := ⟨s.now, promise⟩ :: s.calls, now := s.now + 1 }
  | none =>
    { s.startLoading s.nextPromise with
      running := some s.nextPromise
      nextPromise := s.nextPromise + 1
      calls := ⟨s.now, s.nextPromise⟩ :: s.calls }

def step (s : Coordinator) : Action → Option Coordinator
  | .call => some s.requested
  | .load promise outcome =>
    if s.phase promise = .loading then
      some { s.moveTo promise (.loaded outcome) with runs := s.runs.map (s.finishRun promise) }
    else none
  | .resume promise =>
    match s.phase promise with
    | .loaded .fulfilled =>
      if s.dirty then some (s.startLoading promise) else some (s.moveTo promise (.ended .fulfilled))
    | .loaded .rejected => some (s.moveTo promise (.ended .rejected))
    | _ => none
  | .reset promise =>
    match s.phase promise with
    | .ended outcome => some { s.moveTo promise (.passing outcome) with running := none }
    | _ => none
  | .settle promise =>
    match s.phase promise with
    | .passing outcome => some (s.moveTo promise (.settled outcome s.now))
    | _ => none

def unfinished : List Run := s.runs.filter fun run => run.finished = none

end Coordinator

/-- `loadOnce` runs once at a time, and a fulfilled call was followed by a whole run of it. -/
structure NoRequestLost (s : Coordinator) : Prop where
  exclusive : s.unfinished.length ≤ 1
  covered : ∀ call ∈ s.calls, ∀ time, s.phase call.promise = .settled .fulfilled time →
    ∃ run ∈ s.runs, call.made ≤ run.started ∧ ∃ finished, run.finished = some finished ∧
      finished < time

/-- The loop has looked at `dirty` for the last time, and `running` is still set. -/
def Closing (s : Coordinator) : Prop := ∃ promise, s.phase promise = .ended .fulfilled

/-- No call comes between the end of the loop and the reset of `running`. -/
def CalledInTime (s : Coordinator) (action : Action) : Prop := action = .call → ¬ Closing s

def Phase.isAlive : Phase → Bool
  | .loading | .loaded _ | .ended _ => true
  | _ => false

/-- What a call has got from the loop in each of its phases. -/
def Served (s : Coordinator) (call : Call) : Phase → Prop
  | .unborn => False
  | .loading | .loaded .fulfilled => s.dirty = true ∨ ∃ run ∈ s.runs, call.made ≤ run.started
  | .ended .fulfilled | .passing .fulfilled =>
    ∃ run ∈ s.runs, call.made ≤ run.started ∧ run.finished.isSome
  | .settled .fulfilled time => ∃ run ∈ s.runs, call.made ≤ run.started ∧
    ∃ finished, run.finished = some finished ∧ finished < time
  | .loaded .rejected | .ended .rejected | .passing .rejected | .settled .rejected _ => True

structure Inv (s : Coordinator) : Prop where
  alive : ∀ promise, (s.phase promise).isAlive = true → s.running = some promise
  running : ∀ promise, s.running = some promise → (s.phase promise).isAlive = true
  unborn : ∀ promise, s.phase promise = .unborn ↔ s.nextPromise ≤ promise
  loading : ∀ run ∈ s.runs, run.finished = none → s.phase run.promise = .loading
  exclusive : s.unfinished.length ≤ 1
  past : ∀ run ∈ s.runs, ∀ finished, run.finished = some finished → finished < s.now
  made : ∀ call ∈ s.calls, call.made < s.now
  served : ∀ call ∈ s.calls, Served s call (s.phase call.promise)

theorem Inv.initial : Inv .initial :=
  ⟨nofun, nofun, fun _ => ⟨fun _ => Nat.zero_le _, fun _ => rfl⟩, nofun, Nat.zero_le 1, nofun, nofun,
    nofun⟩

section Steps
variable {s s' : Coordinator}

/-- While nothing is loading, every run is finished. -/
theorem Inv.finished (h : Inv s)
    (hphase : ∀ promise, s.running = some promise → s.phase promise ≠ .loading) :
    ∀ run ∈ s.runs, run.finished ≠ none := by
  intro run hrun hunfinished
  have hloading := h.loading run hrun hunfinished
  exact hphase _ (h.alive run.promise (by rw [hloading]; rfl)) hloading

theorem unfinished_eq_nil (h : ∀ run ∈ s.runs, run.finished ≠ none) : s.unfinished = [] := by
  unfold Coordinator.unfinished
  rw [List.filter_eq_nil_iff]
  intro run hrun
  simpa using h run hrun

/-- A call keeps what it has got as long as runs stay and a request is not forgotten. -/
theorem Served.mono {call : Call} {phase : Phase} (h : Served s call phase)
    (hdirty : phase.isAlive = true → s.dirty = true → s'.dirty = true)
    (hruns : ∀ run ∈ s.runs, ∃ run' ∈ s'.runs, run'.started = run.started ∧
      ∀ finished, run.finished = some finished → run'.finished = some finished) :
    Served s' call phase := by
  have hstarted : (∃ run ∈ s.runs, call.made ≤ run.started) →
      ∃ run ∈ s'.runs, call.made ≤ run.started := by
    rintro ⟨run, hrun, hmade⟩
    obtain ⟨run', hrun', heq, -⟩ := hruns run hrun
    exact ⟨run', hrun', by rwa [heq]⟩
  have hfinished : (∃ run ∈ s.runs, call.made ≤ run.started ∧ run.finished.isSome) →
      ∃ run ∈ s'.runs, call.made ≤ run.started ∧ run.finished.isSome := by
    rintro ⟨run, hrun, hmade, hsome⟩
    obtain ⟨run', hrun', heq, hkept⟩ := hruns run hrun
    obtain ⟨finished, hat⟩ := Option.isSome_iff_exists.1 hsome
    exact ⟨run', hrun', by rwa [heq], by rw [hkept finished hat]; rfl⟩
  cases phase with
  | unborn => exact h
  | loading => exact h.imp (hdirty rfl) hstarted
  | loaded outcome =>
    cases outcome with
    | fulfilled => exact h.imp (hdirty rfl) hstarted
    | rejected => trivial
  | ended outcome =>
    cases outcome with
    | fulfilled => exact hfinished h
    | rejected => trivial
  | passing outcome =>
    cases outcome with
    | fulfilled => exact hfinished h
    | rejected => trivial
  | settled outcome time =>
    cases outcome with
    | fulfilled =>
      obtain ⟨run, hrun, hmade, finished, hat, hlt⟩ := h
      obtain ⟨run', hrun', heq, hkept⟩ := hruns run hrun
      exact ⟨run', hrun', by rwa [heq], finished, hkept finished hat, hlt⟩
    | rejected => trivial

theorem runs_refl (runs : List Run) : ∀ run ∈ runs, ∃ run' ∈ runs, run'.started = run.started ∧
    ∀ finished, run.finished = some finished → run'.finished = some finished :=
  fun run hrun => ⟨run, hrun, rfl, fun _ h => h⟩

/-- A promise changes its phase and the runs stay. -/
theorem Inv.moveTo (h : Inv s) {promise : ℕ} {phase : Phase}
    (hborn : s.phase promise ≠ .unborn) (hphase : phase ≠ .unborn)
    (hloading : s.phase promise ≠ .loading) (halive : phase.isAlive = (s.phase promise).isAlive)
    (hserved : ∀ call ∈ s.calls, call.promise = promise → Served s call phase) :
    Inv (s.moveTo promise phase) := by
  have hother : ∀ other, other ≠ promise →
      (s.moveTo promise phase).phase other = s.phase other :=
    fun other hne => Function.update_of_ne hne _ _
  have hself : (s.moveTo promise phase).phase promise = phase := Function.update_self _ _ _
  have hliving : ∀ other, ((s.moveTo promise phase).phase other).isAlive =
      (s.phase other).isAlive := by
    intro other
    by_cases heq : other = promise
    · rw [heq, hself, halive]
    · rw [hother other heq]
  refine ⟨?_, ?_, ?_, ?_, h.exclusive, ?_, ?_, ?_⟩
  · intro other hlive
    rw [hliving] at hlive
    exact h.alive other hlive
  · intro other hrunning
    rw [hliving]
    exact h.running other hrunning
  · intro other
    by_cases heq : other = promise
    · have hlt := mt (h.unborn promise).2 hborn
      rw [heq, hself]
      exact ⟨fun hunborn => absurd hunborn hphase, fun hle => absurd hle hlt⟩
    · rw [hother other heq]
      exact h.unborn other
  · intro run hrun hunfinished
    have hrunning := h.loading run hrun hunfinished
    rw [hother run.promise (fun heq => hloading (heq ▸ hrunning)), hrunning]
  · intro run hrun finished hat
    exact (h.past run hrun finished hat).trans (Nat.lt_succ_self _)
  · intro call hcall
    exact (h.made call hcall).trans (Nat.lt_succ_self _)
  · intro call hcall
    by_cases heq : call.promise = promise
    · rw [heq, hself]
      exact (hserved call hcall heq).mono (fun _ hdirty => hdirty) (runs_refl s.runs)
    · rw [hother call.promise heq]
      exact (h.served call hcall).mono (fun _ hdirty => hdirty) (runs_refl s.runs)

/-- Only the promise in `running` has a loop. -/
theorem Inv.alone (h : Inv s) {promise : ℕ}
    (hrunning : ∀ other, s.running = some other → other = promise) :
    ∀ other, other ≠ promise → (s.phase other).isAlive = false := by
  intro other hne
  rw [Bool.eq_false_iff]
  intro hlive
  exact hne (hrunning other (h.alive other hlive))

theorem startLoading_unfinished (h : ∀ run ∈ s.runs, run.finished ≠ none) (promise : ℕ) :
    (s.startLoading promise).unfinished = [⟨promise, s.now, none⟩] := by
  have hnil := unfinished_eq_nil h
  unfold Coordinator.unfinished at hnil ⊢
  simp only [Coordinator.startLoading, List.filter_cons, hnil, decide_true, if_true]

/-- A run that starts serves every earlier call of its promise. -/
theorem Inv.startLoading_served (h : Inv s) {promise : ℕ}
    (halone : ∀ other, other ≠ promise → (s.phase other).isAlive = false) :
    ∀ call ∈ s.calls, Served (s.startLoading promise) call
      ((s.startLoading promise).phase call.promise) := by
  intro call hcall
  by_cases heq : call.promise = promise
  · have hphase : (s.startLoading promise).phase call.promise = .loading := by
      rw [heq]
      exact Function.update_self _ _ _
    rw [hphase]
    exact Or.inr ⟨⟨promise, s.now, none⟩, List.mem_cons_self, (h.made call hcall).le⟩
  · have hphase : (s.startLoading promise).phase call.promise = s.phase call.promise :=
      Function.update_of_ne heq _ _
    rw [hphase]
    refine (h.served call hcall).mono ?_ ?_
    · intro hlive
      rw [halone call.promise heq] at hlive
      cases hlive
    · exact fun run hrun => ⟨run, List.mem_cons_of_mem _ hrun, rfl, fun _ hat => hat⟩

theorem Inv.startLoading_past (h : Inv s) (promise : ℕ) : ∀ run ∈ (s.startLoading promise).runs,
    ∀ finished, run.finished = some finished → finished < (s.startLoading promise).now := by
  intro run hrun finished hat
  rcases List.mem_cons.1 hrun with rfl | hold
  · cases hat
  · exact (h.past run hold finished hat).trans (Nat.lt_succ_self _)

theorem Inv.startLoading_loading (hfinished : ∀ run ∈ s.runs, run.finished ≠ none) (promise : ℕ) :
    ∀ run ∈ (s.startLoading promise).runs, run.finished = none →
      (s.startLoading promise).phase run.promise = .loading := by
  intro run hrun hunfinished
  rcases List.mem_cons.1 hrun with rfl | hold
  · exact Function.update_self _ _ _
  · exact absurd hunfinished (hfinished run hold)

theorem Inv.startLoading_phase (s : Coordinator) {promise : ℕ} (other : ℕ) :
    (s.startLoading promise).phase other = if other = promise then .loading else s.phase other :=
  Function.update_apply _ _ _ _

/-- The loop goes round again. -/
theorem Inv.startLoading (h : Inv s) {promise : ℕ} (hphase : s.phase promise = .loaded .fulfilled) :
    Inv (s.startLoading promise) := by
  have hrunning : s.running = some promise := h.alive promise (by rw [hphase]; rfl)
  have honly : ∀ other, s.running = some other → other = promise := by
    intro other hother
    rw [hrunning] at hother
    exact (Option.some.inj hother).symm
  have hfinished := h.finished fun other hother => by
    rw [honly other hother, hphase]
    nofun
  refine ⟨?_, ?_, ?_, Inv.startLoading_loading hfinished promise, ?_, h.startLoading_past promise,
    ?_, h.startLoading_served (h.alone honly)⟩
  · intro other hlive
    rw [Inv.startLoading_phase] at hlive
    split_ifs at hlive with heq
    · rw [heq]
      exact hrunning
    · exact h.alive other hlive
  · intro other hother
    rw [Inv.startLoading_phase, if_pos (honly other hother)]
    rfl
  · intro other
    rw [Inv.startLoading_phase]
    split_ifs with heq
    · refine ⟨nofun, fun hle => ?_⟩
      have hunborn := (h.unborn other).2 hle
      rw [heq, hphase] at hunborn
      cases hunborn
    · exact h.unborn other
  · rw [startLoading_unfinished hfinished]
    rfl
  · exact fun call hcall => (h.made call hcall).trans (Nat.lt_succ_self _)

/-- A call while nothing runs starts a loop. -/
theorem Inv.started (h : Inv s) (hrunning : s.running = none) : Inv s.requested := by
  have hno : ∀ other, s.running = some other → other = s.nextPromise := by
    intro other hother
    rw [hrunning] at hother
    cases hother
  have hfinished := h.finished fun other hother => by
    rw [hrunning] at hother
    cases hother
  have hdead : ∀ other, (s.phase other).isAlive = false := by
    intro other
    rw [Bool.eq_false_iff]
    intro hlive
    have hsome := h.alive other hlive
    rw [hrunning] at hsome
    cases hsome
  have hrequested : s.requested = { s.startLoading s.nextPromise with
      running := some s.nextPromise
      nextPromise := s.nextPromise + 1
      calls := ⟨s.now, s.nextPromise⟩ :: s.calls } := by
    unfold Coordinator.requested
    rw [hrunning]
  rw [hrequested]
  refine ⟨?_, ?_, ?_, Inv.startLoading_loading hfinished s.nextPromise, ?_,
    h.startLoading_past s.nextPromise, ?_, ?_⟩
  · intro other hlive
    dsimp only at hlive ⊢
    rw [Inv.startLoading_phase] at hlive
    split_ifs at hlive with heq
    · rw [heq]
    · rw [hdead other] at hlive
      cases hlive
  · intro other hother
    obtain rfl := Option.some.inj hother
    dsimp only
    rw [Inv.startLoading_phase, if_pos rfl]
    rfl
  · intro other
    dsimp only
    rw [Inv.startLoading_phase]
    split_ifs with heq
    · exact ⟨nofun, fun hle => by omega⟩
    · rw [h.unborn other]
      omega
  · exact (congrArg List.length (startLoading_unfinished hfinished s.nextPromise)).le
  · intro call hcall
    rcases List.mem_cons.1 hcall with rfl | hold
    · exact Nat.lt_succ_self _
    · exact (h.made call hold).trans (Nat.lt_succ_self _)
  · intro call hcall
    rcases List.mem_cons.1 hcall with rfl | hold
    · have hphase : (s.startLoading s.nextPromise).phase s.nextPromise = .loading :=
        Function.update_self _ _ _
      dsimp only
      rw [hphase]
      exact Or.inr ⟨⟨s.nextPromise, s.now, none⟩, List.mem_cons_self, le_rfl⟩
    · exact (h.startLoading_served (h.alone hno) call hold).mono (fun _ hdirty => hdirty)
        (runs_refl _)

/-- A call while a loop runs leaves a request for it, unless the loop is closing. -/
theorem Inv.joined (h : Inv s) {promise : ℕ} (hrunning : s.running = some promise)
    (hopen : ¬ Closing s) : Inv s.requested := by
  have hrequested : s.requested =
      { s with dirty := true, calls := ⟨s.now, promise⟩ :: s.calls, now := s.now + 1 } := by
    unfold Coordinator.requested
    rw [hrunning]
  rw [hrequested]
  refine ⟨h.alive, h.running, h.unborn, h.loading, h.exclusive, ?_, ?_, ?_⟩
  · exact fun run hrun finished hat => (h.past run hrun finished hat).trans (Nat.lt_succ_self _)
  · intro call hcall
    rcases List.mem_cons.1 hcall with rfl | hold
    · exact Nat.lt_succ_self _
    · exact (h.made call hold).trans (Nat.lt_succ_self _)
  · intro call hcall
    rcases List.mem_cons.1 hcall with rfl | hold
    · have hlive := h.running promise hrunning
      have hnot : s.phase promise ≠ .ended .fulfilled := fun hended => hopen ⟨promise, hended⟩
      dsimp only
      match hphase : s.phase promise with
      | .loading => exact Or.inl rfl
      | .loaded .fulfilled => exact Or.inl rfl
      | .loaded .rejected => trivial
      | .ended .fulfilled => exact absurd hphase hnot
      | .ended .rejected => trivial
      | .unborn => rw [hphase] at hlive; cases hlive
      | .passing _ => rw [hphase] at hlive; cases hlive
      | .settled _ _ => rw [hphase] at hlive; cases hlive
    · exact (h.served call hold).mono (fun _ _ => rfl) (runs_refl s.runs)

theorem finishRun_started (s : Coordinator) (promise : ℕ) (run : Run) :
    (s.finishRun promise run).started = run.started ∧
      (s.finishRun promise run).promise = run.promise ∧
      ∀ finished, run.finished = some finished →
        (s.finishRun promise run).finished = some finished := by
  unfold Coordinator.finishRun
  split_ifs with hrun
  · refine ⟨rfl, rfl, fun finished hat => ?_⟩
    rw [hrun.2] at hat
    cases hat
  · exact ⟨rfl, rfl, fun _ hat => hat⟩

/-- Only one promise loads, so all runs are finished when it has loaded. -/
theorem Inv.finishRun_finished (h : Inv s) {promise : ℕ} (hphase : s.phase promise = .loading)
    {run : Run} (hrun : run ∈ s.runs) : (s.finishRun promise run).finished ≠ none := by
  unfold Coordinator.finishRun
  split_ifs with hmatch
  · nofun
  · intro hunfinished
    have hloading := h.loading run hrun hunfinished
    have hother := h.alive run.promise (by rw [hloading]; rfl)
    have hself := h.alive promise (by rw [hphase]; rfl)
    rw [hother] at hself
    exact hmatch ⟨Option.some.inj hself, hunfinished⟩

/-- The load of a promise is over. -/
theorem Inv.loaded (h : Inv s) {promise : ℕ} (hphase : s.phase promise = .loading)
    (outcome : Outcome) : Inv { s.moveTo promise (.loaded outcome) with
      runs := s.runs.map (s.finishRun promise) } := by
  have hrunning : s.running = some promise := h.alive promise (by rw [hphase]; rfl)
  have hfinished : ∀ run ∈ s.runs.map (s.finishRun promise), run.finished ≠ none := by
    intro run hrun
    obtain ⟨old, hold, rfl⟩ := List.mem_map.1 hrun
    exact h.finishRun_finished hphase hold
  have hruns : ∀ run ∈ s.runs, ∃ run' ∈ s.runs.map (s.finishRun promise),
      run'.started = run.started ∧
        ∀ finished, run.finished = some finished → run'.finished = some finished := by
    intro run hrun
    have hkept := finishRun_started s promise run
    exact ⟨_, List.mem_map_of_mem hrun, hkept.1, hkept.2.2⟩
  have hupdate : ∀ other, (s.moveTo promise (.loaded outcome)).phase other =
      if other = promise then .loaded outcome else s.phase other :=
    fun other => Function.update_apply _ _ _ _
  refine ⟨?_, ?_, ?_, ?_, ?_, ?_, ?_, ?_⟩
  · intro other hlive
    dsimp only at hlive ⊢
    rw [hupdate] at hlive
    split_ifs at hlive with heq
    · rw [heq]
      exact hrunning
    · exact h.alive other hlive
  · intro other hother
    dsimp only
    rw [hupdate]
    split_ifs with heq
    · rfl
    · exact h.running other hother
  · intro other
    dsimp only
    rw [hupdate]
    split_ifs with heq
    · refine ⟨nofun, fun hle => ?_⟩
      have hunborn := (h.unborn other).2 hle
      rw [heq, hphase] at hunborn
      cases hunborn
    · exact h.unborn other
  · intro run hrun hunfinished
    exact absurd hunfinished (hfinished run hrun)
  · rw [unfinished_eq_nil hfinished]
    exact Nat.zero_le 1
  · intro run hrun finished hat
    obtain ⟨old, hold, rfl⟩ := List.mem_map.1 hrun
    unfold Coordinator.finishRun at hat
    split_ifs at hat with hmatch
    · obtain rfl := Option.some.inj hat
      exact Nat.lt_succ_self _
    · exact (h.past old hold finished hat).trans (Nat.lt_succ_self _)
  · exact fun call hcall => (h.made call hcall).trans (Nat.lt_succ_self _)
  · intro call hcall
    have hserved := h.served call hcall
    dsimp only
    rw [hupdate]
    split_ifs with heq
    · rw [heq, hphase] at hserved
      have hloaded : Served s call (.loaded outcome) := by
        cases outcome with
        | fulfilled => exact hserved
        | rejected => trivial
      exact hloaded.mono (fun _ hdirty => hdirty) hruns
    · exact hserved.mono (fun _ hdirty => hdirty) hruns

/-- The last check of `dirty` found no request. -/
theorem Inv.closed (h : Inv s) {promise : ℕ} (hphase : s.phase promise = .loaded .fulfilled)
    (hclean : s.dirty = false) : Inv (s.moveTo promise (.ended .fulfilled)) := by
  refine h.moveTo ?_ nofun ?_ ?_ ?_
  · rw [hphase]; nofun
  · rw [hphase]; nofun
  · rw [hphase]; rfl
  · intro call hcall heq
    have hserved := h.served call hcall
    rw [heq, hphase] at hserved
    rcases hserved with hdirty | ⟨run, hrun, hmade⟩
    · rw [hclean] at hdirty
      cases hdirty
    · refine ⟨run, hrun, hmade, Option.isSome_iff_ne_none.2 (h.finished ?_ run hrun)⟩
      intro other hother
      have hlive := h.alive promise (by rw [hphase]; rfl)
      rw [hother] at hlive
      rw [Option.some.inj hlive, hphase]
      nofun

/-- A rejected load ends the loop. -/
theorem Inv.failed (h : Inv s) {promise : ℕ} (hphase : s.phase promise = .loaded .rejected) :
    Inv (s.moveTo promise (.ended .rejected)) := by
  refine h.moveTo ?_ nofun ?_ ?_ (fun _ _ _ => trivial)
  · rw [hphase]; nofun
  · rw [hphase]; nofun
  · rw [hphase]; rfl

/-- The callback of `finally` makes room for the next loop. -/
theorem Inv.reset (h : Inv s) {promise : ℕ} {outcome : Outcome}
    (hphase : s.phase promise = .ended outcome) :
    Inv { s.moveTo promise (.passing outcome) with running := none } := by
  have hrunning : s.running = some promise := h.alive promise (by rw [hphase]; rfl)
  have hupdate : ∀ other, (s.moveTo promise (.passing outcome)).phase other =
      if other = promise then .passing outcome else s.phase other :=
    fun other => Function.update_apply _ _ _ _
  have hdead : ∀ other, ((s.moveTo promise (.passing outcome)).phase other).isAlive = false := by
    intro other
    rw [hupdate]
    split_ifs with heq
    · rfl
    · refine h.alone (fun another hother => ?_) other heq
      rw [hrunning] at hother
      exact (Option.some.inj hother).symm
  refine ⟨?_, nofun, ?_, ?_, h.exclusive, ?_, ?_, ?_⟩
  · intro other hlive
    exact absurd (hlive.symm.trans (hdead other)) (by decide)
  · intro other
    dsimp only
    rw [hupdate]
    split_ifs with heq
    · refine ⟨nofun, fun hle => ?_⟩
      have hunborn := (h.unborn other).2 hle
      rw [heq, hphase] at hunborn
      cases hunborn
    · exact h.unborn other
  · intro run hrun hunfinished
    refine absurd hunfinished (h.finished (fun other hother => ?_) run hrun)
    rw [hrunning] at hother
    rw [← Option.some.inj hother, hphase]
    nofun
  · exact fun run hrun finished hat => (h.past run hrun finished hat).trans (Nat.lt_succ_self _)
  · exact fun call hcall => (h.made call hcall).trans (Nat.lt_succ_self _)
  · intro call hcall
    have hserved := h.served call hcall
    dsimp only
    rw [hupdate]
    split_ifs with heq
    · rw [heq, hphase] at hserved
      have hpassing : Served s call (.passing outcome) := by
        cases outcome with
        | fulfilled => exact hserved
        | rejected => trivial
      exact hpassing.mono (fun _ hdirty => hdirty) (runs_refl s.runs)
    · exact hserved.mono (fun _ hdirty => hdirty) (runs_refl s.runs)

/-- The returned promise settles after everything it waited for. -/
theorem Inv.settled (h : Inv s) {promise : ℕ} {outcome : Outcome}
    (hphase : s.phase promise = .passing outcome) :
    Inv (s.moveTo promise (.settled outcome s.now)) := by
  refine h.moveTo ?_ nofun ?_ ?_ ?_
  · rw [hphase]; nofun
  · rw [hphase]; nofun
  · rw [hphase]; rfl
  · intro call hcall heq
    have hserved := h.served call hcall
    rw [heq, hphase] at hserved
    cases outcome with
    | rejected => trivial
    | fulfilled =>
      obtain ⟨run, hrun, hmade, hsome⟩ := hserved
      obtain ⟨finished, hat⟩ := Option.isSome_iff_exists.1 hsome
      exact ⟨run, hrun, hmade, finished, hat, h.past run hrun finished hat⟩

theorem Inv.step (h : Inv s) {action : Action} (hintime : CalledInTime s action)
    (hstep : s.step action = some s') : Inv s' := by
  cases action with
  | call =>
    obtain rfl := Option.some.inj hstep
    cases hrunning : s.running with
    | none => exact h.started hrunning
    | some promise => exact h.joined hrunning (hintime rfl)
  | load promise outcome =>
    simp only [Coordinator.step] at hstep
    split_ifs at hstep with hphase
    obtain rfl := Option.some.inj hstep
    exact h.loaded hphase outcome
  | resume promise =>
    simp only [Coordinator.step] at hstep
    split at hstep
    · next hphase =>
      split_ifs at hstep with hdirty
      · obtain rfl := Option.some.inj hstep
        exact h.startLoading hphase
      · obtain rfl := Option.some.inj hstep
        exact h.closed hphase (Bool.eq_false_iff.2 hdirty)
    · next hphase =>
      obtain rfl := Option.some.inj hstep
      exact h.failed hphase
    · cases hstep
  | reset promise =>
    simp only [Coordinator.step] at hstep
    split at hstep
    · next outcome hphase =>
      obtain rfl := Option.some.inj hstep
      exact h.reset hphase
    · cases hstep
  | settle promise =>
    simp only [Coordinator.step] at hstep
    split at hstep
    · next outcome hphase =>
      obtain rfl := Option.some.inj hstep
      exact h.settled hphase
    · cases hstep

theorem Inv.noRequestLost (h : Inv s) : NoRequestLost s := by
  refine ⟨h.exclusive, ?_⟩
  intro call hcall time hsettled
  have hserved := h.served call hcall
  rw [hsettled] at hserved
  exact hserved

end Steps

theorem no_request_lost (actions : List Action) {s : Coordinator}
    (hguard : Execution.Guarded Coordinator.step CalledInTime .initial actions)
    (hrun : Execution.run Coordinator.step .initial actions = some s) : NoRequestLost s := by
  have hnext : ∀ s action s', Inv s → CalledInTime s action →
      Coordinator.step s action = some s' → Inv s' :=
    fun _ _ _ h hintime hstep => h.step hintime hstep
  exact (Execution.invariant_of_guarded hnext Inv.initial hguard hrun).noRequestLost

/-- The second call comes when the loop has ended and `running` is still set. -/
def lateCall : List Action :=
  [.call, .load 0 .fulfilled, .resume 0, .call, .reset 0, .settle 0]

def inTime : List Action :=
  [.call, .call, .load 0 .fulfilled, .resume 0, .load 0 .fulfilled, .resume 0, .reset 0, .settle 0]

theorem no_request_lost_inTime : ∃ s, Execution.run Coordinator.step .initial inTime = some s ∧
    NoRequestLost s := by
  have hguard : Execution.Guarded Coordinator.step CalledInTime .initial inTime := by
    refine ⟨fun _ => ?_, fun _ => ?_, nofun, nofun, nofun, nofun, nofun, nofun, trivial⟩
    · rintro ⟨promise, hended⟩
      cases hended
    · rintro ⟨promise, hended⟩
      by_cases heq : promise = 0
      · rw [heq] at hended
        exact absurd hended (by decide)
      · exact absurd ((Function.update_of_ne heq _ _).symm.trans hended) nofun
  exact ⟨_, rfl, no_request_lost inTime hguard rfl⟩

theorem late_call_lost : ¬ ∀ (actions : List Action) (s : Coordinator),
    Execution.run Coordinator.step .initial actions = some s → NoRequestLost s := by
  intro hall
  have hlost := hall lateCall _ rfl
  obtain ⟨run, hrun, hmade, -⟩ := hlost.covered ⟨3, 0⟩ (by decide) 5 (by decide)
  have hruns := List.mem_singleton.1 hrun
  rw [hruns] at hmade
  exact absurd hmade (by decide)

end Lotur.Review.RefreshCoordinator
