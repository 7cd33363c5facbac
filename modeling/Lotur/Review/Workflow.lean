import Lotur.Review.Journal

/-! The workflow of a thread: its history is a chain of moves, and of the commands that expect one
workflow version at most one succeeds. -/
namespace Lotur.Review

def history (thread : PageCommentThread) : List WorkflowEntry := thread.workflowHistory.getD []

/-- The history numbers and chains the moves that led from `OPEN` to the status of the thread. -/
structure WorkflowSound (thread : PageCommentThread) : Prop where
  versions : (history thread).map WorkflowEntry.version = List.range' 2 (history thread).length
  first : ∀ entry ∈ (history thread).head?, entry.fromStatus = .opened
  chained : (history thread).IsChain fun earlier later => later.fromStatus = earlier.toStatus
  moves : ∀ entry ∈ history thread, entry.fromStatus ≠ entry.toStatus
  status : thread.status = ((history thread).getLast?.map WorkflowEntry.toStatus).getD .opened
  version : thread.workflowVersion.getD 1 =
    ((history thread).getLast?.map WorkflowEntry.version).getD 1
  resolvedBy : thread.resolvedBy.isSome ↔ thread.status = .resolved
  resolvedAt : thread.resolvedAt.isSome ↔ thread.status = .resolved

/-- What the workflow of a thread is made of. -/
def workflowOf (thread : PageCommentThread) :
    ReviewThreadStatus × Option ℕ × Option (List WorkflowEntry) × Option ReviewIdentity × Option ℤ :=
  (thread.status, thread.workflowVersion, thread.workflowHistory, thread.resolvedBy,
    thread.resolvedAt)

theorem WorkflowSound.congr {thread thread' : PageCommentThread} (h : WorkflowSound thread)
    (hsame : workflowOf thread' = workflowOf thread) : WorkflowSound thread' := by
  simp only [workflowOf, Prod.mk.injEq] at hsame
  obtain ⟨hstatus, hversion, hhistory, hby, hat⟩ := hsame
  have hentries : history thread' = history thread := by
    unfold history
    rw [hhistory]
  constructor
  · rw [hentries]
    exact h.versions
  · rw [hentries]
    exact h.first
  · rw [hentries]
    exact h.chained
  · rw [hentries]
    exact h.moves
  · rw [hstatus, hentries]
    exact h.status
  · rw [hversion, hentries]
    exact h.version
  · rw [hby, hstatus]
    exact h.resolvedBy
  · rw [hat, hstatus]
    exact h.resolvedAt

theorem newThread_sound (content : NewContent) (revisionId routePath : JsString)
    (anchor : ReviewAnchor) (pinNumber : Option ℕ) :
    WorkflowSound { newThread content revisionId routePath anchor with pinNumber } := by
  constructor <;> simp [history, newThread]

/-- The version is one more than the number of moves. -/
theorem WorkflowSound.version_eq {thread : PageCommentThread} (h : WorkflowSound thread) :
    thread.workflowVersion.getD 1 = (history thread).length + 1 := by
  have hlast : ((history thread).map WorkflowEntry.version).getLast? =
      (history thread).getLast?.map WorkflowEntry.version := List.getLast?_map
  rw [h.version, ← hlast, h.versions]
  cases hlength : (history thread).length with
  | zero => rfl
  | succ n =>
    rw [List.range'_concat, List.getLast?_concat]
    simp only [Option.getD_some]
    omega

section Change
variable (thread : PageCommentThread) (input : ChangeStatusInput)

/-- The entry a change adds. -/
def newEntry : WorkflowEntry :=
  ⟨thread.workflowVersion.getD 1 + 1, thread.status, input.status, input.actor, input.changedAt⟩

@[simp] theorem history_changedThread : history (ReviewRepository.changedThread thread input) =
    history thread ++ [newEntry thread input] := by
  unfold ReviewRepository.changedThread
  dsimp only
  split_ifs <;> rfl

@[simp] theorem status_changedThread :
    (ReviewRepository.changedThread thread input).status = input.status := by
  unfold ReviewRepository.changedThread
  dsimp only
  split_ifs with h
  · exact h.symm
  · rfl

@[simp] theorem workflowVersion_changedThread :
    (ReviewRepository.changedThread thread input).workflowVersion =
      some (thread.workflowVersion.getD 1 + 1) := by
  unfold ReviewRepository.changedThread
  dsimp only
  split_ifs <;> rfl

@[simp] theorem id_changedThread :
    (ReviewRepository.changedThread thread input).id = thread.id := by
  unfold ReviewRepository.changedThread
  dsimp only
  split_ifs <;> rfl

theorem resolution_changedThread :
    ((ReviewRepository.changedThread thread input).resolvedBy.isSome ↔ input.status = .resolved) ∧
    ((ReviewRepository.changedThread thread input).resolvedAt.isSome ↔ input.status = .resolved) := by
  unfold ReviewRepository.changedThread
  dsimp only
  split_ifs with h
  · simp [h]
  · simp [h]

end Change

theorem WorkflowSound.changedThread {thread : PageCommentThread} {input : ChangeStatusInput}
    (h : WorkflowSound thread) (hmoves : thread.status ≠ input.status) :
    WorkflowSound (ReviewRepository.changedThread thread input) := by
  obtain ⟨hby, hat⟩ := resolution_changedThread thread input
  constructor
  · rw [history_changedThread, List.map_append, h.versions, List.length_append,
      List.length_singleton, List.range'_concat, List.map_singleton]
    have hversion := h.version_eq
    simp only [newEntry, List.append_cancel_left_eq, List.cons.injEq, and_true]
    omega
  · rw [history_changedThread]
    intro entry hentry
    cases hpast : history thread with
    | nil =>
      have hstatus := h.status
      rw [hpast] at hstatus hentry
      simp only [List.nil_append, List.head?_cons, Option.mem_def, Option.some.injEq] at hentry
      rw [← hentry]
      exact hstatus
    | cons earliest rest =>
      rw [hpast] at hentry
      refine h.first entry ?_
      rw [hpast]
      exact hentry
  · rw [history_changedThread, List.isChain_append]
    refine ⟨h.chained, List.isChain_singleton _, fun last hlast entry hentry => ?_⟩
    simp only [List.head?_cons, Option.mem_def, Option.some.injEq] at hentry hlast
    rw [← hentry]
    have hstatus := h.status
    rw [hlast] at hstatus
    exact hstatus
  · intro entry hentry
    rw [history_changedThread] at hentry
    rcases List.mem_append.1 hentry with hold | hnew
    · exact h.moves entry hold
    · rw [List.mem_singleton.1 hnew]
      exact hmoves
  · simp [newEntry]
  · simp [newEntry]
  · rw [status_changedThread]
    exact hby
  · rw [status_changedThread]
    exact hat

/-- Every command keeps the threads it writes sound. -/
theorem ThreadStep.workflowSound {r : ReviewRepository} {command : ReviewCommand}
    {result : ReviewResult} {thread : PageCommentThread} (hstep : ThreadStep r command result thread)
    (h : ∀ old ∈ r.threads, WorkflowSound old) : WorkflowSound thread := by
  have hold : ∀ {threadId : JsString} {old : PageCommentThread},
      r.findThread threadId = some old → WorkflowSound old :=
    fun hfound => h _ (Auth.Table.get_some hfound).1
  cases hstep with
  | created command pinNumber free => exact newThread_sound ..
  | replied command old found unresolved live => exact (hold found).congr rfl
  | statusChanged input old found may => exact (hold found).changedThread may.moves
  | commentUpdated input old found may => exact (hold found).congr rfl
  | commentDeleted input old found may => exact (hold found).congr rfl
  | replyUpdated replyId input old reply found foundReply may => exact (hold found).congr rfl
  | replyDeleted replyId input old reply found foundReply may => exact (hold found).congr rfl

/-- The version a change of the status has to expect. -/
def workflowVersion (r : ReviewRepository) (threadId : JsString) : Option ℕ :=
  (r.findThread threadId).map fun thread => thread.workflowVersion.getD 1

/-- The thread whose status a command changed, and the version it expected. -/
def statusChange : ReviewCommand × ReviewResult → List (JsString × ℕ)
  | (.changePageCommentStatus input, result) =>
    if result.isSuccess then [(input.threadId, input.expectedWorkflowVersion)] else []
  | _ => []

def statusChanges (done : List (ReviewCommand × ReviewResult)) : List (JsString × ℕ) :=
  done.flatMap statusChange

theorem statusChanges_append (done : List (ReviewCommand × ReviewResult))
    (entry : ReviewCommand × ReviewResult) :
    statusChanges (done ++ [entry]) = statusChanges done ++ statusChange entry := by
  simp [statusChanges]

theorem statusChange_failed (command : ReviewCommand) {result : ReviewResult}
    (h : result.isSuccess = false) : statusChange (command, result) = [] := by
  cases command with
  | changePageCommentStatus input => simp [statusChange, h]
  | _ => rfl

section Ledger
variable {r r' : ReviewRepository} {thread : PageCommentThread}

theorem Writes.workflowVersion (h : Writes thread r r') : workflowVersion r' =
    Function.update (workflowVersion r) thread.id (some (thread.workflowVersion.getD 1)) := by
  funext threadId
  unfold Review.workflowVersion
  rw [h.findThread]
  by_cases hid : threadId = thread.id
  · subst hid
    simp
  · rw [Function.update_of_ne hid, Function.update_of_ne hid]

/-- A thread rewritten with its workflow as it was keeps its version. -/
theorem Writes.workflowVersion_same (h : Writes thread r r') {old : PageCommentThread}
    (hfound : r.findThread thread.id = some old)
    (hsame : thread.workflowVersion = old.workflowVersion) :
    Review.workflowVersion r' = Review.workflowVersion r := by
  rw [h.workflowVersion, Function.update_eq_self_iff]
  unfold Review.workflowVersion
  rw [hfound, hsame]
  rfl

open OptimisticVersions in
/-- The log of changes stays the whole past of every thread. -/
theorem ThreadStep.workflowRecorded {command : ReviewCommand} {result : ReviewResult}
    {log : List (JsString × ℕ)} (hstep : ThreadStep r command result thread)
    (hwrites : Writes thread r r') (h : Recorded (workflowVersion r) log) :
    Recorded (workflowVersion r') (log ++ statusChange (command, result)) := by
  have hkept : ∀ {threadId : JsString} {old : PageCommentThread},
      r.findThread threadId = some old → thread.id = old.id →
      thread.workflowVersion = old.workflowVersion → Recorded (workflowVersion r') (log ++ []) := by
    intro threadId old hfound hid hsame
    rw [← findThread_id hfound, ← hid] at hfound
    rw [hwrites.workflowVersion_same hfound hsame, List.append_nil]
    exact h
  cases hstep with
  | created command pinNumber free =>
    rw [hwrites.workflowVersion]
    simp only [statusChange, List.append_nil]
    refine h.create ?_
    unfold Review.workflowVersion
    exact Option.map_eq_none_iff.2 free
  | replied command old found unresolved live => exact hkept found rfl rfl
  | statusChanged input old found may =>
    have hid := findThread_id found
    have hversion : workflowVersion r old.id = some input.expectedWorkflowVersion := by
      unfold Review.workflowVersion
      rw [hid, found, ← may.version_eq]
      rfl
    rw [hwrites.workflowVersion, id_changedThread, workflowVersion_changedThread, may.version_eq]
    simp only [statusChange, ReviewResult.isSuccess, if_true, ← hid]
    exact h.change hversion
  | commentUpdated input old found may => exact hkept found rfl rfl
  | commentDeleted input old found may => exact hkept found rfl rfl
  | replyUpdated replyId input old reply found foundReply may =>
    exact hkept found rfl rfl
  | replyDeleted replyId input old reply found foundReply may =>
    exact hkept found rfl rfl

end Ledger

/-- The workflow of a journal: sound threads, and a log that tells how they got there. -/
structure WorkflowKept (s : Journal) : Prop where
  sound : ∀ thread ∈ s.repository.threads, WorkflowSound thread
  recorded : OptimisticVersions.Recorded (workflowVersion s.repository) (statusChanges s.done)

theorem WorkflowKept.empty (accounts : List Auth.Account) : WorkflowKept (.empty accounts) :=
  ⟨fun _ h => absurd h List.not_mem_nil, OptimisticVersions.recorded_nil fun _ => rfl⟩

theorem WorkflowKept.effect {s : Journal} {command : ReviewCommand}
    {outcome : ReviewResult × ReviewRepository} (h : WorkflowKept s)
    (heffect : Effect s.repository command outcome) :
    WorkflowKept ⟨outcome.2, s.done ++ [(command, outcome.1)]⟩ := by
  cases heffect with
  | refused result r' failed unchanged =>
    refine ⟨by rw [unchanged.threads]; exact h.sound, ?_⟩
    rw [statusChanges_append, statusChange_failed command failed, List.append_nil]
    refine h.recorded.congr fun threadId => ?_
    unfold workflowVersion
    rw [unchanged.findThread]
  | wrote result r' thread step writes =>
    constructor
    · intro other hother
      rw [writes.threads] at hother
      rcases Auth.Table.mem_set hother with hold | rfl
      · exact h.sound other hold
      · exact step.workflowSound h.sound
    · rw [statusChanges_append]
      exact step.workflowRecorded writes h.recorded
  | read input notification r' asked threadId found announces =>
    subst asked
    refine ⟨by rw [announces.threads]; exact h.sound, ?_⟩
    rw [statusChanges_append]
    simp only [statusChange, List.append_nil]
    refine h.recorded.congr fun threadId => ?_
    unfold workflowVersion
    rw [announces.findThread]

/-- Who may change the status of the thread a command names. -/
def MayMove (r : ReviewRepository) (input : ChangeStatusInput) : Prop :=
  ∃ thread, r.findThread input.threadId = some thread ∧
    (input.actorCanManageProject = true ∨
      thread.author.accountId = input.actor.accountId ∧ thread.status = .needsReview)

theorem workflow_linearisable (backend : ReviewBackend) (accounts : List Auth.Account)
    (commands : List ReviewCommand) (s : Journal)
    (hrun : Execution.run (Journal.step backend) (.empty accounts) commands = some s) :
    (∀ thread ∈ s.repository.threads, WorkflowSound thread) ∧
    (statusChanges s.done).Nodup ∧
    ∀ input, let outcome := perform backend s.repository (.changePageCommentStatus input)
      (outcome.1.isSuccess = false → Unchanged s.repository outcome.2) ∧
      (outcome.1.isSuccess = true → MayMove s.repository input) := by
  have hinv : Keyed s.repository ∧ WorkflowKept s := by
    refine invariant_of_effects (WorkflowKept.empty accounts)
      (fun s command outcome _ h _ heffect => h.effect heffect)
      (Execution.Guarded.of_forall (fun _ _ => trivial) _ _) hrun
  refine ⟨hinv.2.sound, hinv.2.recorded.nodup, fun input => ?_⟩
  have heffect : Effect s.repository (.changePageCommentStatus input)
      (perform backend s.repository (.changePageCommentStatus input)) :=
    changePageCommentStatus_effect s.repository input
  revert heffect
  generalize perform backend s.repository (.changePageCommentStatus input) = outcome
  intro heffect
  cases heffect with
  | refused result r' failed unchanged =>
    refine ⟨fun _ => unchanged, fun hsuccess => ?_⟩
    rw [failed] at hsuccess
    cases hsuccess
  | wrote result r' thread step writes =>
    cases step with
    | statusChanged input old found may =>
      exact ⟨fun hfailed => (by cases hfailed), fun _ => ⟨old, found, may.managerOrAuthor⟩⟩
  | read _ notification r' asked threadId found announces => cases asked

theorem workflow_linearisable_review :
    ∃ s, Execution.run (Journal.step .inMemory) (.empty []) sampleCommands = some s ∧
      statusChanges s.done = [(JsString.ofAscii "thread", 1), (JsString.ofAscii "thread", 2)] ∧
      ∀ thread ∈ s.repository.threads, WorkflowSound thread := by
  have hchanges : (Execution.run (Journal.step .inMemory) (.empty []) sampleCommands).map
      (fun s => statusChanges s.done) =
      some [(JsString.ofAscii "thread", 1), (JsString.ofAscii "thread", 2)] := by
    decide +kernel
  obtain ⟨s, hrun, hdone⟩ := Option.map_eq_some_iff.1 hchanges
  exact ⟨s, hrun, hdone, (workflow_linearisable .inMemory [] sampleCommands s hrun).1⟩

end Lotur.Review
