import Lotur.Library.Execution
import Lotur.Library.OptimisticVersions
import Lotur.Review.Effects

/-! Runs of a review repository: the commands that were carried out, each with its result, oldest
first. -/
namespace Lotur.Review

structure Journal where
  repository : ReviewRepository
  done : List (ReviewCommand × ReviewResult)
  deriving DecidableEq

def Journal.empty (accounts : List Auth.Account) : Journal := ⟨.empty accounts, []⟩

def Journal.step (backend : ReviewBackend) (s : Journal) (command : ReviewCommand) :
    Option Journal :=
  let outcome := perform backend s.repository command
  some ⟨outcome.2, s.done ++ [(command, outcome.1)]⟩

section Frames
variable {r r' : ReviewRepository} {thread : PageCommentThread} {threadId : JsString}

theorem Unchanged.findThread (h : Unchanged r r') (threadId : JsString) :
    r'.findThread threadId = r.findThread threadId := by
  unfold ReviewRepository.findThread
  rw [h.threads]

theorem Announces.findThread (h : Announces threadId r r') (other : JsString) :
    r'.findThread other = r.findThread other := by
  unfold ReviewRepository.findThread
  rw [h.threads]

theorem Writes.findThread (h : Writes thread r r') :
    r'.findThread = Function.update r.findThread thread.id (some thread) := by
  funext threadId
  unfold ReviewRepository.findThread
  rw [h.threads]
  by_cases hid : threadId = thread.id
  · subst hid
    rw [Function.update_self]
    exact Auth.Table.get_set_self
  · rw [Function.update_of_ne hid]
    exact Auth.Table.get_set_ne hid

theorem Writes.isSome (h : Writes thread r r') (hsome : (r.findThread threadId).isSome) :
    (r'.findThread threadId).isSome := by
  rw [h.findThread]
  by_cases hid : threadId = thread.id
  · subst hid
    simp
  · rwa [Function.update_of_ne hid]

end Frames

/-- Threads have ids of their own, and notifications are about threads. -/
structure Keyed (r : ReviewRepository) : Prop where
  nodup : (r.threads.map PageCommentThread.id).Nodup
  notified : Notified r

theorem Keyed.empty (accounts : List Auth.Account) : Keyed (.empty accounts) :=
  ⟨List.nodup_nil, fun _ h => absurd h List.not_mem_nil⟩

theorem Keyed.findThread {r : ReviewRepository} (h : Keyed r) {thread : PageCommentThread}
    (hthread : thread ∈ r.threads) : r.findThread thread.id = some thread :=
  Auth.Table.get_of_mem h.nodup hthread

theorem Keyed.effect {r : ReviewRepository} {command : ReviewCommand}
    {outcome : ReviewResult × ReviewRepository} (h : Keyed r) (heffect : Effect r command outcome) :
    Keyed outcome.2 := by
  cases heffect with
  | refused result r' failed unchanged =>
    refine ⟨by rw [unchanged.threads]; exact h.nodup, fun notice hnotice => ?_⟩
    rw [unchanged.notifications] at hnotice
    rw [unchanged.findThread]
    exact h.notified notice hnotice
  | wrote result r' thread step writes =>
    refine ⟨by rw [writes.threads]; exact Auth.Table.nodup_set h.nodup, fun notice hnotice => ?_⟩
    rcases writes.notified notice hnotice with heq | ⟨old, hold, heq⟩
    · rw [heq, writes.findThread, Function.update_self]
      rfl
    · rw [← heq]
      exact writes.isSome (h.notified old hold)
  | read input notification r' asked threadId found announces =>
    refine ⟨by rw [announces.threads]; exact h.nodup, fun notice hnotice => ?_⟩
    rw [announces.findThread]
    rcases announces.notified notice hnotice with heq | ⟨old, hold, heq⟩
    · rw [heq]
      exact found
    · rw [← heq]
      exact h.notified old hold

/-- What every effect on a keyed repository preserves holds after every run. -/
theorem invariant_of_effects {backend : ReviewBackend} {accounts : List Auth.Account}
    {guard : Journal → ReviewCommand → Prop} {inv : Journal → Prop} (hinit : inv (.empty accounts))
    (hstep : ∀ s command outcome, Keyed s.repository → inv s → guard s command →
      Effect s.repository command outcome →
      inv ⟨outcome.2, s.done ++ [(command, outcome.1)]⟩)
    {commands : List ReviewCommand} {s : Journal}
    (hguard : Execution.Guarded (Journal.step backend) guard (.empty accounts) commands)
    (hrun : Execution.run (Journal.step backend) (.empty accounts) commands = some s) :
    Keyed s.repository ∧ inv s := by
  have hnext : ∀ s command s', Keyed s.repository ∧ inv s → guard s command →
      Journal.step backend s command = some s' → Keyed s'.repository ∧ inv s' := by
    intro s command s' ⟨hkeyed, hinv⟩ hguarded hnext
    have heffect : Effect s.repository command (perform backend s.repository command) :=
      perform_effect hkeyed.notified command
    cases hnext
    exact ⟨hkeyed.effect heffect, hstep s command _ hkeyed hinv hguarded heffect⟩
  exact @Execution.invariant_of_guarded _ _ _ guard (fun s => Keyed s.repository ∧ inv s) hnext
    (.empty accounts) s commands ⟨Keyed.empty accounts, hinit⟩ hguard hrun

section Sample
open JsString

def owner : ReviewIdentity := ⟨ofAscii "owner", ofAscii "Owner"⟩
def guest : ReviewIdentity := ⟨ofAscii "guest", ofAscii "Guest"⟩
def sampleAccess : ReviewAccess := ⟨some (ofAscii "tunnel"), some (ofAscii "session"), none⟩

def sampleChange (version : ℕ) (changedAt : ℤ) (actor : ReviewIdentity) : MutationInput where
  threadId := ofAscii "thread"
  revisionId := ofAscii "revision"
  routePath := ofAscii "/"
  access := sampleAccess
  expectedVersion := version
  actor := actor
  actorAuthorizationVersion := 1
  changedAt := changedAt

def sampleMove (version : ℕ) (changedAt : ℤ) (actor : ReviewIdentity) (canManageProject : Bool)
    (expectedStatus status : ReviewThreadStatus) : ChangeStatusInput where
  threadId := ofAscii "thread"
  revisionId := ofAscii "revision"
  routePath := ofAscii "/"
  access := sampleAccess
  expectedStatus := expectedStatus
  expectedWorkflowVersion := version
  status := status
  actor := actor
  actorCanManageProject := canManageProject
  actorAuthorizationVersion := 1
  changedAt := changedAt

/-- A guest comments and the owner replies; a review is asked for and given; the owner takes the
reply back. -/
def sampleCommands : List ReviewCommand := [
  .bindTunnel
    { project := ⟨ofAscii "project", owner.accountId, ofAscii "site", ofAscii "Site", 0⟩
      revision := ⟨ofAscii "revision", ofAscii "project", ofAscii "main", owner.accountId, 0⟩
      binding := ⟨ofAscii "tunnel", ofAscii "session", [], owner.accountId, 0, 1000⟩
      actorUsername := ofAscii "owner"
      actorAuthorizationVersion := 1 },
  .createPageComment
    { content := ⟨ofAscii "thread", ofAscii "text", guest, 1⟩
      revisionId := ofAscii "revision"
      routePath := ofAscii "/"
      anchor := .page
      access := sampleAccess
      actorUsername := ofAscii "guest"
      mentionUsernames := []
      actorAuthorizationVersion := 1 },
  .createReply
    { content := ⟨ofAscii "reply", ofAscii "text", owner, 2⟩
      threadId := ofAscii "thread"
      revisionId := ofAscii "revision"
      routePath := ofAscii "/"
      access := sampleAccess
      actorUsername := ofAscii "owner"
      mentionUsernames := []
      actorAuthorizationVersion := 1 },
  .updateComment
    { sampleChange 1 3 guest with
      body := ofAscii "other"
      actorUsername := ofAscii "guest"
      mentionUsernames := [] },
  .changePageCommentStatus (sampleMove 1 4 owner true .opened .needsReview),
  .changePageCommentStatus (sampleMove 2 5 guest false .needsReview .resolved),
  .changePageCommentStatus (sampleMove 2 6 owner true .needsReview .opened),
  .deleteReply (ofAscii "reply")
    { sampleChange 1 7 owner with
      actorCanManageProject := true }]

end Sample

end Lotur.Review
