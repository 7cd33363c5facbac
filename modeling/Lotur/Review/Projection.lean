import Lotur.Review.Content

/-! What `apps/gateway/src/review-contract.ts` shows of a thread to an actor, and what the commands
of the same actor do. Times stay milliseconds. -/
namespace Lotur.Review

structure ReviewCapabilities where
  canRead : Bool
  canComment : Bool
  canManageProject : Bool
  deriving DecidableEq, Repr

structure ReviewActor where
  accountId : JsString
  username : JsString
  authorizationVersion : ℕ
  displayName : JsString
  capabilities : ReviewCapabilities
  deriving DecidableEq, Repr

def canEditReviewContent (actor : ReviewActor) (authorAccountId : JsString) : Bool :=
  actor.capabilities.canComment && actor.accountId = authorAccountId

def canDeleteReviewContent (actor : ReviewActor) (authorAccountId : JsString) : Bool :=
  canEditReviewContent actor authorAccountId || actor.capabilities.canManageProject

structure PublicReply where
  id : JsString
  threadId : JsString
  body : Option JsString
  version : ℕ
  author : ReviewIdentity
  deletion : Option (ReviewIdentity × ℤ)
  canEdit : Bool
  canDelete : Bool
  createdAt : ℤ
  updatedAt : ℤ
  deriving DecidableEq, Repr

structure PublicComment where
  id : JsString
  routePath : JsString
  anchor : ReviewAnchor
  pinNumber : Option ℕ
  body : Option JsString
  version : ℕ
  status : ReviewThreadStatus
  workflowVersion : ℕ
  workflowHistory : Option (List WorkflowEntry)
  canVerify : Bool
  author : ReviewIdentity
  resolution : Option (ReviewIdentity × ℤ)
  deletion : Option (ReviewIdentity × ℤ)
  canEdit : Bool
  canDelete : Bool
  replies : List PublicReply
  createdAt : ℤ
  updatedAt : ℤ
  deriving DecidableEq, Repr

/-- A mark is shown when both its halves are there. -/
def shownMark (identity : Option ReviewIdentity) (time : Option ℤ) : Option (ReviewIdentity × ℤ) :=
  identity.bind fun identity => time.map fun time => (identity, time)

def publicReply (reply : ReviewReply) (actor : ReviewActor) (threadStatus : ReviewThreadStatus) :
    PublicReply where
  id := reply.id
  threadId := reply.threadId
  body := reply.body
  version := reply.version
  author := reply.author
  deletion := shownMark reply.deletedBy reply.deletedAt
  canEdit := reply.body.isSome && threadStatus ≠ .resolved &&
    canEditReviewContent actor reply.author.accountId
  canDelete := reply.body.isSome && canDeleteReviewContent actor reply.author.accountId
  createdAt := reply.createdAt
  updatedAt := reply.updatedAt

def publicComment (comment : PageCommentThread) (actor : ReviewActor) : PublicComment where
  id := comment.id
  routePath := comment.routePath
  anchor := comment.anchor
  pinNumber := comment.pinNumber
  body := comment.body
  version := comment.version
  status := comment.status
  workflowVersion := comment.workflowVersion.getD 1
  workflowHistory := comment.workflowHistory
  canVerify := actor.capabilities.canComment && actor.accountId = comment.author.accountId &&
    comment.status = .needsReview
  author := comment.author
  resolution := shownMark comment.resolvedBy comment.resolvedAt
  deletion := shownMark comment.deletedBy comment.deletedAt
  canEdit := comment.body.isSome && comment.status ≠ .resolved &&
    canEditReviewContent actor comment.author.accountId
  canDelete := comment.body.isSome && canDeleteReviewContent actor comment.author.accountId
  replies := comment.replies.map fun reply => publicReply reply actor comment.status
  createdAt := comment.createdAt
  updatedAt := comment.updatedAt

section Commands

/-- What a command carries besides its target and version. -/
structure ReviewAttempt where
  revisionId : JsString
  routePath : JsString
  access : ReviewAccess
  body : JsString
  mentionUsernames : List JsString
  changedAt : ℤ

variable (backend : ReviewBackend) (r : ReviewRepository) (actor : ReviewActor)
  (attempt : ReviewAttempt)

def ReviewActor.identity (actor : ReviewActor) : ReviewIdentity :=
  ⟨actor.accountId, actor.displayName⟩

def mutationInput (commentId : JsString) (expectedVersion : ℕ) : MutationInput where
  threadId := commentId
  revisionId := attempt.revisionId
  routePath := attempt.routePath
  access := attempt.access
  expectedVersion := expectedVersion
  actor := actor.identity
  actorAuthorizationVersion := actor.authorizationVersion
  changedAt := attempt.changedAt

def updateInput (commentId : JsString) (expectedVersion : ℕ) : UpdateInput where
  toMutationInput := mutationInput actor attempt commentId expectedVersion
  body := attempt.body
  actorUsername := actor.username
  mentionUsernames := attempt.mentionUsernames

def deleteInput (commentId : JsString) (expectedVersion : ℕ) : DeleteInput where
  toMutationInput := mutationInput actor attempt commentId expectedVersion
  actorCanManageProject := actor.capabilities.canManageProject

def changeStatusInput (commentId : JsString) (expectedStatus : ReviewThreadStatus)
    (expectedWorkflowVersion : ℕ) (status : ReviewThreadStatus) : ChangeStatusInput where
  threadId := commentId
  revisionId := attempt.revisionId
  routePath := attempt.routePath
  access := attempt.access
  expectedStatus := expectedStatus
  expectedWorkflowVersion := expectedWorkflowVersion
  status := status
  actor := actor.identity
  actorCanManageProject := actor.capabilities.canManageProject
  actorAuthorizationVersion := actor.authorizationVersion
  changedAt := attempt.changedAt

/-- A command that `ReviewService` passes on when the actor has the capability for it. -/
def serve (isAllowed : Bool) (command : ReviewCommand) : ReviewResult :=
  if isAllowed = false then .forbidden else (perform backend r command).1

def serveUpdateComment (commentId : JsString) (expectedVersion : ℕ) : ReviewResult :=
  serve backend r actor.capabilities.canComment
    (.updateComment (updateInput actor attempt commentId expectedVersion))

def serveDeleteComment (commentId : JsString) (expectedVersion : ℕ) : ReviewResult :=
  serve backend r (actor.capabilities.canComment || actor.capabilities.canManageProject)
    (.deleteComment (deleteInput actor attempt commentId expectedVersion))

def serveUpdateReply (commentId replyId : JsString) (expectedVersion : ℕ) : ReviewResult :=
  serve backend r actor.capabilities.canComment
    (.updateReply replyId (updateInput actor attempt commentId expectedVersion))

def serveDeleteReply (commentId replyId : JsString) (expectedVersion : ℕ) : ReviewResult :=
  serve backend r (actor.capabilities.canComment || actor.capabilities.canManageProject)
    (.deleteReply replyId (deleteInput actor attempt commentId expectedVersion))

def serveChangeStatus (commentId : JsString) (expectedStatus : ReviewThreadStatus)
    (expectedWorkflowVersion : ℕ) (status : ReviewThreadStatus) : ReviewResult :=
  serve backend r actor.capabilities.canComment (.changePageCommentStatus
    (changeStatusInput actor attempt commentId expectedStatus expectedWorkflowVersion status))

/-- The actor reads the thread where it is, as the account it is. -/
structure Admitted (thread : PageCommentThread) : Prop where
  revision : attempt.revisionId = thread.revisionId
  route : attempt.routePath = thread.routePath
  access : r.hasAccess attempt.access thread.revisionId = true
  current : r.isStale backend actor.accountId actor.authorizationVersion = false

/-- What is shown to the actor is what the actor can do. -/
structure FlagsAgree (thread : PageCommentThread) : Prop where
  canEdit : (publicComment thread actor).canEdit = true ↔
    (serveUpdateComment backend r actor attempt (publicComment thread actor).id
      (publicComment thread actor).version).isSuccess = true
  canDelete : (publicComment thread actor).canDelete = true ↔
    (serveDeleteComment backend r actor attempt (publicComment thread actor).id
      (publicComment thread actor).version).isSuccess = true
  replyCanEdit : ∀ reply ∈ (publicComment thread actor).replies, (reply.canEdit = true ↔
    (serveUpdateReply backend r actor attempt (publicComment thread actor).id reply.id
      reply.version).isSuccess = true)
  replyCanDelete : ∀ reply ∈ (publicComment thread actor).replies, (reply.canDelete = true ↔
    (serveDeleteReply backend r actor attempt (publicComment thread actor).id reply.id
      reply.version).isSuccess = true)
  canVerify : (publicComment thread actor).canVerify = true →
    ∀ status ∈ [ReviewThreadStatus.opened, .resolved],
      (serveChangeStatus backend r actor attempt (publicComment thread actor).id .needsReview
        (publicComment thread actor).workflowVersion status).isSuccess = true

end Commands

theorem checkContentMutation_allowed_iff (input : ContentMutationCheck) :
    checkContentMutation input = .allowed ↔
      (input.content.authorAccountId = input.actorAccountId ∨
        input.action = .delete ∧ input.canManageProject = true) ∧
      input.content.deleted = false ∧
      (input.action = .update → input.thread.status ≠ .resolved ∧ input.thread.deleted = false) ∧
      input.content.version = input.expectedVersion := by
  refine ⟨checkContentMutation_allowed, fun ⟨hactor, hlive, hthread, hversion⟩ => ?_⟩
  unfold checkContentMutation
  rw [if_neg, if_neg, if_neg (not_not.2 hversion)]
  · rintro (hdeleted | ⟨hupdate, hresolved | hdeleted⟩)
    · rw [hlive] at hdeleted
      cases hdeleted
    · exact (hthread hupdate).1 hresolved
    · rw [(hthread hupdate).2] at hdeleted
      cases hdeleted
  · rintro ⟨hauthor, haction⟩
    obtain ⟨hdelete, hmanage⟩ := hactor.resolve_left hauthor
    rw [hdelete, hmanage] at haction
    rcases haction with h | h
    · cases h
    · cases h

section Success
variable {backend : ReviewBackend} {r : ReviewRepository} {actor : ReviewActor}
  {attempt : ReviewAttempt} {thread : PageCommentThread}

/-- A checked change succeeds exactly when it is allowed. -/
theorem decided_isSuccess (decision : MutationDecision) (r : ReviewRepository)
    {done : ReviewResult × ReviewRepository} (hdone : done.1.isSuccess = true) :
    (match ReviewRepository.refusal decision with
      | some refused => (refused, r)
      | none => done).1.isSuccess = true ↔ decision = .allowed := by
  cases decision with
  | allowed => exact ⟨fun _ => rfl, fun _ => hdone⟩
  | forbidden => exact ⟨nofun, nofun⟩
  | stateConflict => exact ⟨nofun, nofun⟩
  | versionConflict => exact ⟨nofun, nofun⟩

theorem Admitted.findBoundThread (h : Admitted backend r actor attempt thread)
    (hfound : r.findThread thread.id = some thread) :
    r.findBoundThread attempt.access thread.id attempt.revisionId attempt.routePath =
      some thread := by
  unfold ReviewRepository.findBoundThread
  rw [h.revision, h.route, if_pos h.access, hfound]
  simp

theorem serve_allowed {isAllowed : Bool} (h : isAllowed = true) (command : ReviewCommand) :
    serve backend r isAllowed command = (perform backend r command).1 := by
  unfold serve
  rw [h]
  rfl

theorem serveUpdateComment_isSuccess (h : Admitted backend r actor attempt thread)
    (hfound : r.findThread thread.id = some thread) (hactor : actor.capabilities.canComment = true) :
    (serveUpdateComment backend r actor attempt thread.id thread.version).isSuccess = true ↔
      thread.author.accountId = actor.accountId ∧ thread.deletedAt = none ∧
        thread.status ≠ .resolved := by
  have hallowed := checkContentMutation_allowed_iff (ReviewRepository.commentCheck .update false
    thread (mutationInput actor attempt thread.id thread.version))
  have hbound := h.findBoundThread hfound
  have hcurrent := h.current
  rw [serveUpdateComment, serve_allowed hactor]
  simp only [perform, ReviewRepository.updateComment, updateInput, mutationInput,
    ReviewActor.identity, hcurrent, hbound, Bool.false_eq_true, if_false] at hallowed ⊢
  refine (decided_isSuccess _ _ rfl).trans (hallowed.trans ?_)
  simp only [ReviewRepository.commentCheck, reduceCtorEq, false_and, or_false,
    Option.isSome_eq_false_iff, Option.isNone_iff_eq_none, forall_const, and_true]
  tauto

theorem serveDeleteComment_isSuccess (h : Admitted backend r actor attempt thread)
    (hfound : r.findThread thread.id = some thread) (hactor : actor.capabilities.canComment = true) :
    (serveDeleteComment backend r actor attempt thread.id thread.version).isSuccess = true ↔
      (thread.author.accountId = actor.accountId ∨ actor.capabilities.canManageProject = true) ∧
        thread.deletedAt = none := by
  have hallowed := checkContentMutation_allowed_iff (ReviewRepository.commentCheck .delete
    actor.capabilities.canManageProject thread (mutationInput actor attempt thread.id thread.version))
  have hbound := h.findBoundThread hfound
  have hcurrent := h.current
  rw [serveDeleteComment, serve_allowed (by rw [hactor]; rfl)]
  simp only [perform, ReviewRepository.deleteComment, deleteInput, mutationInput,
    ReviewActor.identity, hcurrent, hbound, Bool.false_eq_true, if_false] at hallowed ⊢
  refine (decided_isSuccess _ _ rfl).trans (hallowed.trans ?_)
  simp only [ReviewRepository.commentCheck, reduceCtorEq, true_and,
    Option.isSome_eq_false_iff, Option.isNone_iff_eq_none, IsEmpty.forall_iff, and_true]

section Reply
variable {reply : ReviewReply}

theorem serveUpdateReply_isSuccess (h : Admitted backend r actor attempt thread)
    (hfound : r.findThread thread.id = some thread)
    (hreply : Auth.Table.get ReviewReply.id thread.replies reply.id = some reply)
    (hactor : actor.capabilities.canComment = true) :
    (serveUpdateReply backend r actor attempt thread.id reply.id reply.version).isSuccess = true ↔
      reply.author.accountId = actor.accountId ∧ reply.deletedAt = none ∧
        thread.status ≠ .resolved ∧ thread.deletedAt = none := by
  have hallowed := checkContentMutation_allowed_iff (ReviewRepository.replyCheck .update false
    thread reply (mutationInput actor attempt thread.id reply.version))
  have hbound := h.findBoundThread hfound
  have hcurrent := h.current
  rw [serveUpdateReply, serve_allowed hactor]
  simp only [perform, ReviewRepository.updateReply, updateInput, mutationInput,
    ReviewActor.identity, hcurrent, hbound, hreply, Bool.false_eq_true, if_false] at hallowed ⊢
  refine (decided_isSuccess _ _ rfl).trans (hallowed.trans ?_)
  simp only [ReviewRepository.replyCheck, reduceCtorEq, false_and, or_false,
    Option.isSome_eq_false_iff, Option.isNone_iff_eq_none, forall_const, and_true]

theorem serveDeleteReply_isSuccess (h : Admitted backend r actor attempt thread)
    (hfound : r.findThread thread.id = some thread)
    (hreply : Auth.Table.get ReviewReply.id thread.replies reply.id = some reply)
    (hactor : actor.capabilities.canComment = true) :
    (serveDeleteReply backend r actor attempt thread.id reply.id reply.version).isSuccess = true ↔
      (reply.author.accountId = actor.accountId ∨ actor.capabilities.canManageProject = true) ∧
        reply.deletedAt = none := by
  have hallowed := checkContentMutation_allowed_iff (ReviewRepository.replyCheck .delete
    actor.capabilities.canManageProject thread reply
    (mutationInput actor attempt thread.id reply.version))
  have hbound := h.findBoundThread hfound
  have hcurrent := h.current
  rw [serveDeleteReply, serve_allowed (by rw [hactor]; rfl)]
  simp only [perform, ReviewRepository.deleteReply, deleteInput, mutationInput,
    ReviewActor.identity, hcurrent, hbound, hreply, Bool.false_eq_true, if_false] at hallowed ⊢
  refine (decided_isSuccess _ _ rfl).trans (hallowed.trans ?_)
  simp only [ReviewRepository.replyCheck, reduceCtorEq, true_and,
    Option.isSome_eq_false_iff, Option.isNone_iff_eq_none, IsEmpty.forall_iff, and_true]

end Reply

/-- The author of a thread answers a request for a review unless the thread is deleted. -/
theorem changePageCommentStatus_isSuccess {input : ChangeStatusInput}
    (hcurrent : r.isStale backend input.actor.accountId input.actorAuthorizationVersion = false)
    (hbound : r.findBoundThread input.access input.threadId input.revisionId input.routePath =
      some thread)
    (hexpected : thread.status = input.expectedStatus)
    (hversion : thread.workflowVersion.getD 1 = input.expectedWorkflowVersion)
    (hauthor : thread.author.accountId = input.actor.accountId)
    (hstatus : thread.status = .needsReview) (hanswer : input.status ≠ .needsReview) :
    (r.changePageCommentStatus backend input).1.isSuccess = true ↔ thread.deletedAt = none := by
  have hreach : ¬ r.isUnavailable backend thread input = true := by
    unfold ReviewRepository.isUnavailable
    cases backend with
    | inMemory => exact Bool.false_ne_true
    | postgres database =>
      simp only [decide_eq_false hanswer, Bool.false_and, Bool.false_eq_true, not_false_eq_true]
  have hallowed : ¬ (input.actorCanManageProject = false ∧
      ¬ (thread.author.accountId = input.actor.accountId ∧ thread.status = .needsReview ∧
        input.status ≠ .needsReview)) := fun h => h.2 ⟨hauthor, hstatus, hanswer⟩
  unfold ReviewRepository.changePageCommentStatus
  rw [if_neg (by rw [hcurrent]; exact Bool.false_ne_true), hbound]
  dsimp only
  by_cases hlive : thread.deletedAt = none
  · rw [if_neg (by simp [hexpected, hversion, hlive]), if_neg hallowed, if_neg hreach]
    exact ⟨fun _ => hlive, fun _ => rfl⟩
  · rw [if_pos (.inr (.inr hlive))]
    exact ⟨nofun, fun h => absurd h hlive⟩

theorem serveChangeStatus_isSuccess (h : Admitted backend r actor attempt thread)
    (hfound : r.findThread thread.id = some thread) (hactor : actor.capabilities.canComment = true)
    (hauthor : thread.author.accountId = actor.accountId) (hstatus : thread.status = .needsReview)
    {status : ReviewThreadStatus} (hanswer : status ≠ .needsReview) :
    (serveChangeStatus backend r actor attempt thread.id .needsReview
      (thread.workflowVersion.getD 1) status).isSuccess = true ↔ thread.deletedAt = none := by
  have htransition : normalizeThreadStatusTransition .needsReview status =
      .ok (.needsReview, status) := if_neg hanswer.symm
  rw [serveChangeStatus, serve_allowed hactor]
  simp only [perform, htransition, changeStatusInput]
  exact changePageCommentStatus_isSuccess h.current (h.findBoundThread hfound) hstatus rfl hauthor
    hstatus hanswer

end Success

/-- Where the flags promise more than the commands do: on a deleted thread, to the author of a reply
that is still there, and to the author of the thread while a review is asked for. -/
def flagsHold (thread : PageCommentThread) (actor : ReviewActor) : Prop :=
  thread.deletedAt = none ∨
    (thread.status ≠ .resolved → ∀ reply ∈ thread.replies,
      reply.deletedAt = none → reply.author.accountId ≠ actor.accountId) ∧
    (thread.status = .needsReview → thread.author.accountId ≠ actor.accountId)

theorem ContentSound.body_isSome {content : Content} (h : ContentSound content) :
    content.body.isSome = true ↔ content.deletedAt = none := by
  have htombstone := h.tombstone
  rw [h.together, and_self] at htombstone
  rw [Option.isSome_iff_ne_none, ne_eq, htombstone, Option.not_isSome_iff_eq_none]

section Flags
variable {backend : ReviewBackend} {r : ReviewRepository} {actor : ReviewActor}
  {attempt : ReviewAttempt} {thread : PageCommentThread}

theorem canEditReviewContent_iff (hactor : actor.capabilities.canComment = true)
    (authorAccountId : JsString) :
    canEditReviewContent actor authorAccountId = true ↔ authorAccountId = actor.accountId := by
  simp only [canEditReviewContent, hactor, Bool.true_and, decide_eq_true_eq]
  exact eq_comm

theorem canDeleteReviewContent_iff (hactor : actor.capabilities.canComment = true)
    (authorAccountId : JsString) :
    canDeleteReviewContent actor authorAccountId = true ↔
      authorAccountId = actor.accountId ∨ actor.capabilities.canManageProject = true := by
  rw [canDeleteReviewContent, Bool.or_eq_true, canEditReviewContent_iff hactor]

/-- The flags of a stored thread agree with the commands exactly in those cases. -/
theorem flagsAgree_iff (h : Admitted backend r actor attempt thread)
    (hfound : r.findThread thread.id = some thread) (hactor : actor.capabilities.canComment = true)
    (hreplies : (thread.replies.map ReviewReply.id).Nodup)
    (hcontent : ContentSound thread.content)
    (hcontents : ∀ reply ∈ thread.replies, ContentSound reply.content) :
    FlagsAgree backend r actor attempt thread ↔ flagsHold thread actor := by
  have hbody : thread.body.isSome = true ↔ thread.deletedAt = none := hcontent.body_isSome
  have hreplyBody : ∀ reply ∈ thread.replies,
      (reply.body.isSome = true ↔ reply.deletedAt = none) :=
    fun reply hreply => (hcontents reply hreply).body_isSome
  have hreply : ∀ reply ∈ thread.replies,
      Auth.Table.get ReviewReply.id thread.replies reply.id = some reply :=
    fun reply hmem => Auth.Table.get_of_mem hreplies hmem
  have hshown : ∀ reply ∈ thread.replies,
      (publicReply reply actor thread.status).canEdit = true ↔
        reply.deletedAt = none ∧ thread.status ≠ .resolved ∧
          reply.author.accountId = actor.accountId := by
    intro reply hmem
    simp only [publicReply, Bool.and_eq_true, hreplyBody reply hmem, decide_eq_true_eq,
      canEditReviewContent_iff hactor, and_assoc]
  constructor
  · intro hagree
    by_cases hlive : thread.deletedAt = none
    · exact .inl hlive
    refine .inr ⟨fun hstatus reply hmem hreplyLive hauthor => hlive ?_, fun hstatus hauthor =>
      hlive ?_⟩
    · have hedit := (hagree.replyCanEdit _ (List.mem_map_of_mem hmem)).1
        ((hshown reply hmem).2 ⟨hreplyLive, hstatus, hauthor⟩)
      exact ((serveUpdateReply_isSuccess h hfound (hreply reply hmem) hactor).1 hedit).2.2.2
    · have hverify : (publicComment thread actor).canVerify = true := by
        simp only [publicComment, hactor, hauthor, hstatus, decide_true, Bool.and_self]
      have hopened : ReviewThreadStatus.opened ≠ .needsReview := by decide
      exact (serveChangeStatus_isSuccess h hfound hactor hauthor hstatus hopened).1
        (hagree.canVerify hverify .opened List.mem_cons_self)
  · intro hhold
    refine ⟨?_, ?_, ?_, ?_, ?_⟩
    · refine Iff.trans ?_ (serveUpdateComment_isSuccess h hfound hactor).symm
      simp only [publicComment, Bool.and_eq_true, hbody, decide_eq_true_eq,
        canEditReviewContent_iff hactor]
      tauto
    · refine Iff.trans ?_ (serveDeleteComment_isSuccess h hfound hactor).symm
      simp only [publicComment, Bool.and_eq_true, hbody, canDeleteReviewContent_iff hactor]
      exact and_comm
    · intro shown hlisted
      obtain ⟨reply, hmem, rfl⟩ := List.mem_map.1 hlisted
      refine (hshown reply hmem).trans ?_
      refine Iff.trans ?_ (serveUpdateReply_isSuccess h hfound (hreply reply hmem) hactor).symm
      constructor
      · rintro ⟨hreplyLive, hstatus, hauthor⟩
        refine ⟨hauthor, hreplyLive, hstatus, hhold.resolve_right fun hdeleted => ?_⟩
        exact hdeleted.1 hstatus reply hmem hreplyLive hauthor
      · rintro ⟨hauthor, hreplyLive, hstatus, -⟩
        exact ⟨hreplyLive, hstatus, hauthor⟩
    · intro shown hlisted
      obtain ⟨reply, hmem, rfl⟩ := List.mem_map.1 hlisted
      refine Iff.trans ?_ (serveDeleteReply_isSuccess h hfound (hreply reply hmem) hactor).symm
      simp only [publicReply, Bool.and_eq_true, hreplyBody reply hmem,
        canDeleteReviewContent_iff hactor]
      exact and_comm
    · intro hverify status hstatus
      simp only [publicComment, Bool.and_eq_true, decide_eq_true_eq] at hverify
      obtain ⟨⟨-, hauthor⟩, hneeds⟩ := hverify
      have hanswer : status ≠ .needsReview := by
        rintro rfl
        revert hstatus
        decide
      refine (serveChangeStatus_isSuccess h hfound hactor hauthor.symm hneeds hanswer).2 ?_
      exact hhold.resolve_right fun hdeleted => hdeleted.2 hneeds hauthor.symm

/-- In every state that commands lead to, the flags shown to an actor who may comment agree with
the commands, except on a deleted thread that leaves the actor something to do. -/
theorem capability_flags_agree (backend : ReviewBackend) (accounts : List Auth.Account)
    (commands : List ReviewCommand) (s : Journal)
    (hdistinct : Execution.Guarded (Journal.step backend) DistinctIds (.empty accounts) commands)
    (hrun : Execution.run (Journal.step backend) (.empty accounts) commands = some s)
    (thread : PageCommentThread) (hthread : thread ∈ s.repository.threads) (actor : ReviewActor)
    (hactor : actor.capabilities.canComment = true) (attempt : ReviewAttempt)
    (hadmitted : Admitted backend s.repository actor attempt thread) :
    FlagsAgree backend s.repository actor attempt thread ↔ flagsHold thread actor := by
  obtain ⟨hkeyed, hkept⟩ := contentKept_of_run hdistinct hrun
  obtain ⟨hcomment, hreplies⟩ := hkept.stored hkeyed hthread
  exact flagsAgree_iff hadmitted (hkeyed.findThread hthread) hactor
    (hkept.replyIds thread hthread) (hkept.sound _ _ hcomment)
    fun reply hreply => hkept.sound _ _ (hreplies reply hreply)

end Flags

section Sample
open JsString

/-- The guest may comment and the owner manages the project. -/
def sampleActor (identity : ReviewIdentity) (canManageProject : Bool) : ReviewActor where
  accountId := identity.accountId
  username := identity.accountId
  authorizationVersion := 1
  displayName := identity.displayName
  capabilities := ⟨true, true, canManageProject⟩

def sampleAttempt : ReviewAttempt where
  revisionId := ofAscii "revision"
  routePath := ofAscii "/"
  access := sampleAccess
  body := ofAscii "changed"
  mentionUsernames := []
  changedAt := 20

/-- The guest's thread, with a reply of the owner, is deleted by the guest. -/
def deletedThreadCommands : List ReviewCommand := sampleCommands.take 3 ++ [
  .deleteComment
    { sampleChange 1 3 guest with
      actorCanManageProject := false }]

theorem capability_flags_agree_sample :
    ∃ s thread, Execution.run (Journal.step .inMemory) (.empty []) (sampleCommands.take 4) = some s ∧
      thread ∈ s.repository.threads ∧
      FlagsAgree .inMemory s.repository (sampleActor owner true) sampleAttempt thread := by
  have hsome : ((Execution.run (Journal.step .inMemory) (.empty []) (sampleCommands.take 4)).bind
      fun s => s.repository.threads.head?.map fun thread => decide (
        thread.revisionId = ofAscii "revision" ∧ thread.routePath = ofAscii "/" ∧
        s.repository.hasAccess sampleAccess thread.revisionId = true ∧
        thread.deletedAt = none)) = some true := by decide +kernel
  obtain ⟨s, hrun, hs⟩ := Option.bind_eq_some_iff.1 hsome
  obtain ⟨thread, hhead, hthread⟩ := Option.map_eq_some_iff.1 hs
  obtain ⟨hrevision, hroute, haccess, hlive⟩ := of_decide_eq_true hthread
  have hmem : thread ∈ s.repository.threads := List.mem_of_mem_head? hhead
  have hdistinct : Execution.Guarded (Journal.step .inMemory) DistinctIds (.empty [])
      (sampleCommands.take 4) := by decide +kernel
  refine ⟨s, thread, hrun, hmem, (capability_flags_agree .inMemory [] _ s hdistinct hrun thread hmem
    (sampleActor owner true) rfl sampleAttempt ?_).2 (.inl hlive)⟩
  exact ⟨hrevision.symm, hroute.symm, haccess, rfl⟩

/-- The owner is offered to edit the reply below the deleted comment, and is refused. -/
theorem reply_of_deleted_thread_editable :
    ((Execution.run (Journal.step .inMemory) (.empty []) deletedThreadCommands).bind fun s =>
      s.repository.threads.head?.map fun thread =>
        ((publicComment thread (sampleActor owner true)).replies.map PublicReply.canEdit,
          serveUpdateReply .inMemory s.repository (sampleActor owner true) sampleAttempt thread.id
            (ofAscii "reply") 1)) = some ([true], .stateConflict) := by
  decide +kernel

end Sample

end Lotur.Review
