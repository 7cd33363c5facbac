import Lotur.Review.Repository

/-! The operations of the review repositories, and the commands `ReviewService` makes of them. -/
namespace Lotur.Review
open JsString
open Auth (Account)

structure BindTunnelInput where
  project : ReviewProject
  revision : ReviewRevision
  binding : ReviewTunnelBinding
  actorUsername : JsString
  actorAuthorizationVersion : ℕ
  deriving DecidableEq, Repr

structure CreatePageCommentInput where
  thread : PageCommentThread
  access : ReviewAccess
  actorUsername : JsString
  mentionUsernames : List JsString
  actorAuthorizationVersion : ℕ
  deriving DecidableEq, Repr

structure CreateReplyInput where
  reply : ReviewReply
  revisionId : JsString
  routePath : JsString
  access : ReviewAccess
  actorUsername : JsString
  mentionUsernames : List JsString
  actorAuthorizationVersion : ℕ
  deriving DecidableEq, Repr

structure ChangeStatusInput where
  threadId : JsString
  revisionId : JsString
  routePath : JsString
  access : ReviewAccess
  expectedStatus : ReviewThreadStatus
  expectedWorkflowVersion : ℕ
  status : ReviewThreadStatus
  actor : ReviewIdentity
  actorCanManageProject : Bool
  actorAuthorizationVersion : ℕ
  changedAt : ℤ
  deriving DecidableEq, Repr

structure MutationInput where
  threadId : JsString
  revisionId : JsString
  routePath : JsString
  access : ReviewAccess
  expectedVersion : ℕ
  actor : ReviewIdentity
  actorAuthorizationVersion : ℕ
  changedAt : ℤ
  deriving DecidableEq, Repr

structure UpdateInput extends MutationInput where
  body : JsString
  actorUsername : JsString
  mentionUsernames : List JsString
  deriving DecidableEq, Repr

structure DeleteInput extends MutationInput where
  actorCanManageProject : Bool
  deriving DecidableEq, Repr

structure SetNotificationReadInput where
  notificationId : ℕ
  revisionId : JsString
  routePath : JsString
  access : ReviewAccess
  read : Bool
  actor : ReviewIdentity
  actorAuthorizationVersion : ℕ
  changedAt : ℤ
  deriving DecidableEq, Repr

namespace ReviewRepository

variable (backend : ReviewBackend) (r : ReviewRepository)

section Bindings

/-- The in-memory `bindTunnel`. -/
def bindInMemory (input : BindTunnelInput) : ReviewResult × ReviewRepository :=
  let r := { r with bindings := r.bindings.filter fun binding =>
    input.binding.createdAt < binding.expiresAt }
  let r := r.setUsername .inMemory input.project.ownerAccountId input.actorUsername
  let project := (r.projects.find? fun candidate =>
    candidate.ownerAccountId = input.project.ownerAccountId ∧
      candidate.slug = input.project.slug).getD input.project
  let revision := (r.revisions.find? fun candidate =>
    candidate.projectId = project.id ∧ candidate.key = input.revision.key).getD
      { input.revision with projectId := project.id }
  match Auth.Table.get ReviewTunnelBinding.tunnelId r.bindings input.binding.tunnelId with
  | some existing =>
    if existing.sessionId ≠ input.binding.sessionId ∨
        existing.ownerAccountId ≠ input.binding.ownerAccountId ∨
        existing.revisionId ≠ revision.id then (.conflict, r)
    else (.bound, r)
  | none => (.bound, { r with
      projects := Auth.Table.set ReviewProject.id r.projects project
      revisions := Auth.Table.set ReviewRevision.id r.revisions revision
      bindings := r.bindings ++ [{ input.binding with revisionId := revision.id }] })

/-- Whether a binding found under either id is the one asked for. -/
def isSameBinding (input : BindTunnelInput) (existing : ReviewTunnelBinding) : Bool :=
  existing.tunnelId = input.binding.tunnelId && existing.sessionId = input.binding.sessionId &&
    existing.ownerAccountId = input.binding.ownerAccountId &&
    (Auth.Table.get ReviewRevision.id r.revisions existing.revisionId).any fun revision =>
      revision.key = input.revision.key &&
        (Auth.Table.get ReviewProject.id r.projects revision.projectId).any fun project =>
          project.ownerAccountId = input.project.ownerAccountId && project.slug = input.project.slug

/-- The `bindTunnel` of the database; a conflict rolls it back. -/
def bindPostgres (database : Database) (input : BindTunnelInput) :
    ReviewResult × ReviewRepository :=
  if r.isStale (.postgres database) input.project.ownerAccountId
      input.actorAuthorizationVersion then (.staleAuthorization, r)
  else
    let kept := { r with bindings := r.bindings.filter fun binding =>
      input.binding.createdAt < binding.expiresAt }
    match kept.bindings.find? fun binding => binding.tunnelId = input.binding.tunnelId ∨
        binding.sessionId = input.binding.sessionId with
    | some existing => if kept.isSameBinding input existing then (.bound, kept) else (.conflict, r)
    | none =>
      let project := (kept.projects.find? fun candidate =>
        candidate.ownerAccountId = input.project.ownerAccountId ∧
          candidate.slug = input.project.slug).getD input.project
      let revision := (kept.revisions.find? fun candidate =>
        candidate.projectId = project.id ∧ candidate.key = input.revision.key).getD
          { input.revision with projectId := project.id }
      (.bound, { kept with
        projects := Auth.Table.set ReviewProject.id kept.projects project
        revisions := Auth.Table.set ReviewRevision.id kept.revisions revision
        bindings := kept.bindings ++ [{ input.binding with revisionId := revision.id }] })

def bindTunnel (input : BindTunnelInput) : ReviewResult × ReviewRepository :=
  match backend with
  | .inMemory => r.bindInMemory input
  | .postgres database => r.bindPostgres database input

def removeTunnelBinding (tunnelId sessionId : JsString) : ReviewResult × ReviewRepository :=
  (.void, { r with bindings := r.bindings.filter fun binding =>
    ¬ (binding.tunnelId = tunnelId ∧ binding.sessionId = sessionId) })

end Bindings

section Creation

def nextPinNumber (revisionId routePath : JsString) : ℕ × ReviewRepository :=
  let isCounter := fun counter : PinCounter =>
    counter.revisionId = revisionId ∧ counter.routePath = routePath
  let next := ((r.pinCounters.find? fun counter => isCounter counter).map PinCounter.next).getD 1
  (next, { r with pinCounters := (r.pinCounters.filter fun counter => ¬ isCounter counter) ++
    [⟨revisionId, routePath, next + 1⟩] })

/-- The thread as it is stored: a region gets the next pin of its page. -/
def pinned (thread : PageCommentThread) : PageCommentThread × ReviewRepository :=
  match thread.anchor with
  | .page => (thread, r)
  | .regionV1 =>
    let next := r.nextPinNumber thread.revisionId thread.routePath
    ({ thread with pinNumber := some next.1 }, next.2)

def createPageComment (input : CreatePageCommentInput) : ReviewResult × ReviewRepository :=
  let thread := input.thread
  if r.isStale backend thread.author.accountId input.actorAuthorizationVersion then
    (.staleAuthorization, r)
  else if !r.hasAccess input.access thread.revisionId then (.bindingNotFound, r)
  else if (r.findThread thread.id).isSome then (.thrown "review comment id already exists", r)
  else
    let stored := ((r.setUsername backend thread.author.accountId input.actorUsername).pinned thread).1
    let r := ((r.setUsername backend thread.author.accountId input.actorUsername).pinned thread).2
    let r := r.setThread stored
    let r := r.recordEvent backend .commentCreated stored stored.author stored.createdAt none
    (.createdThread stored, r.syncMentions backend
      { thread := stored, contentType := .comment, contentId := stored.id, contentVersion := 1
        mentionUsernames := input.mentionUsernames, actor := stored.author
        occurredAt := stored.createdAt })

/-- The recipient has heard of the reply already. -/
def isNotified (reply : ReviewReply) (recipientAccountId : JsString) : Bool :=
  r.notifications.any fun item =>
    item.contentId = reply.id && item.recipientAccountId = recipientAccountId &&
      match backend with
      | .inMemory => true
      | .postgres _ => item.contentType = .reply

/-- The loop body that tells one participant of a new reply. -/
def notifyReply (thread : PageCommentThread) (reply : ReviewReply)
    (recipientAccountId : JsString) : ReviewRepository :=
  if recipientAccountId = reply.author.accountId ∨
      r.isNotified backend reply recipientAccountId = true then r
  else
    let inserted := r.insertNotification backend
      { id := 0, revisionId := thread.revisionId, routePath := thread.routePath
        threadId := thread.id, contentType := .reply, contentId := reply.id
        reason := some .reply, sourceKey := some (ofAscii "reply:" ++ reply.id)
        workflowVersion := none, recipientAccountId, actor := reply.author, readAt := none
        createdAt := reply.createdAt }
    if inserted.1 then inserted.2.recordEvent backend .notificationCreated thread reply.author
      reply.createdAt (some recipientAccountId)
    else inserted.2

/-- The ids of replies are a key of the database; the in-memory repository trusts `generateId`. -/
def isReplyIdTaken (replyId : JsString) : Bool :=
  match backend with
  | .inMemory => false
  | .postgres _ => r.threads.any fun thread => thread.replies.any fun reply => reply.id = replyId

/-- Who hears of a reply in the thread. -/
def replyRecipients (thread : PageCommentThread) : List JsString :=
  let authors := (thread.author.accountId :: thread.replies.map fun reply =>
    reply.author.accountId).eraseDups
  match backend with
  | .inMemory => authors
  | .postgres database => database.arranges <| authors.filter fun accountId =>
      (Auth.Table.get Account.id r.accounts accountId).any isReachable

def createReply (input : CreateReplyInput) : ReviewResult × ReviewRepository :=
  let reply := input.reply
  if r.isStale backend reply.author.accountId input.actorAuthorizationVersion then
    (.staleAuthorization, r)
  else match r.findBoundThread input.access reply.threadId input.revisionId input.routePath with
  | none => (.threadNotFound, r)
  | some thread =>
    if thread.status = .resolved ∨ thread.deletedAt ≠ none then (.stateConflict, r)
    else if r.isReplyIdTaken backend reply.id then
      (.thrown "duplicate key value violates unique constraint", r)
    else
      let r := r.setUsername backend reply.author.accountId input.actorUsername
      let changed :=
        { thread with replies := thread.replies ++ [reply], updatedAt := reply.createdAt }
      let r := r.setThread changed
      let r := r.recordEvent backend .replyCreated thread reply.author reply.createdAt none
      let r := r.syncMentions backend
        { thread := changed, contentType := .reply, contentId := reply.id, contentVersion := 1
          mentionUsernames := input.mentionUsernames, actor := reply.author
          occurredAt := reply.createdAt }
      (.createdReply reply, (r.replyRecipients backend thread).foldl (fun r recipient =>
        r.notifyReply backend thread reply recipient) r)

end Creation

section Workflow

/-- The latest request for a review. -/
def lastRequest (thread : PageCommentThread) : Option WorkflowEntry :=
  (thread.workflowHistory.getD []).reverse.find? fun entry => entry.toStatus = .needsReview

def changedThread (thread : PageCommentThread) (input : ChangeStatusInput) : PageCommentThread :=
  let workflowVersion := thread.workflowVersion.getD 1 + 1
  let workflowHistory := thread.workflowHistory.getD [] ++
    [⟨workflowVersion, thread.status, input.status, input.actor, input.changedAt⟩]
  let base := { thread with
    workflowVersion := some workflowVersion
    workflowHistory := some workflowHistory
    resolvedBy := none
    resolvedAt := none }
  if input.status = .resolved then
    { base with
      status := .resolved
      resolvedBy := some input.actor
      resolvedAt := some input.changedAt
      updatedAt := input.changedAt }
  else { base with status := input.status, updatedAt := input.changedAt }

/-- A request for a review has been seen by the one who answers it. -/
def markRequestRead (thread : PageCommentThread) (input : ChangeStatusInput) : ReviewRepository :=
  match lastRequest thread with
  | none => r
  | some request =>
    if thread.status = .needsReview then
      { r with
        notifications := r.notifications.map fun notice =>
          if notice.threadId = thread.id ∧ notice.recipientAccountId = input.actor.accountId ∧
              notice.reason = some .workflowRequest ∧
              notice.workflowVersion = some request.version then
            { notice with readAt := some (notice.readAt.getD input.changedAt) }
          else notice }
    else r

/-- Who hears of the change: the author of a thread that is to be reviewed, then the one who asked. -/
def workflowRecipient (thread : PageCommentThread) (input : ChangeStatusInput) : Option JsString :=
  if input.status = .needsReview then some thread.author.accountId
  else if thread.status = .needsReview then
    (lastRequest thread).map fun request => request.actor.accountId
  else none

/-- The database notifies no one who could not read the notification. -/
def isReached (accountId : JsString) : Bool :=
  match backend with
  | .inMemory => true
  | .postgres _ => (Auth.Table.get Account.id r.accounts accountId).any isReachable

def notifyWorkflow (thread : PageCommentThread) (input : ChangeStatusInput) : ReviewRepository :=
  let workflowVersion := thread.workflowVersion.getD 1 + 1
  match workflowRecipient thread input with
  | none => r
  | some recipientAccountId =>
    if recipientAccountId = input.actor.accountId ∨
        r.isReached backend recipientAccountId = false then r
    else
      let inserted := r.insertNotification backend
        { id := 0, revisionId := thread.revisionId, routePath := thread.routePath
          threadId := thread.id, contentType := .comment, contentId := thread.id
          reason := some (if input.status = .needsReview then .workflowRequest else .workflowResult)
          sourceKey := some (ofAscii "workflow:" ++ thread.id ++ ofAscii ":" ++
            ofNat workflowVersion)
          workflowVersion := some (if input.status = .needsReview then workflowVersion
            else ((lastRequest thread).map WorkflowEntry.version).getD workflowVersion)
          recipientAccountId, actor := input.actor, readAt := none, createdAt := input.changedAt }
      if inserted.1 then inserted.2.recordEvent backend .notificationCreated thread input.actor
        input.changedAt (some recipientAccountId)
      else inserted.2

/-- Only the database asks whether the author of the thread can still be reached. -/
def isUnavailable (thread : PageCommentThread) (input : ChangeStatusInput) : Bool :=
  match backend with
  | .inMemory => false
  | .postgres _ => input.status = .needsReview &&
      !(Auth.Table.get Account.id r.accounts thread.author.accountId).any isReachable

def changePageCommentStatus (input : ChangeStatusInput) : ReviewResult × ReviewRepository :=
  if r.isStale backend input.actor.accountId input.actorAuthorizationVersion then
    (.staleAuthorization, r)
  else match r.findBoundThread input.access input.threadId input.revisionId input.routePath with
  | none => (.threadNotFound, r)
  | some thread =>
    if thread.status ≠ input.expectedStatus ∨
        thread.workflowVersion.getD 1 ≠ input.expectedWorkflowVersion ∨
        thread.deletedAt ≠ none then (.stateConflict, r)
    else if input.actorCanManageProject = false ∧
        ¬ (thread.author.accountId = input.actor.accountId ∧ thread.status = .needsReview ∧
          input.status ≠ .needsReview) then (.staleAuthorization, r)
    else if r.isUnavailable backend thread input then (.reviewerUnavailable, r)
    else
      let changed := changedThread thread input
      let r := r.setThread changed
      let r := r.recordEvent backend .threadStatusChanged changed input.actor input.changedAt none
      (.updatedThread changed, (r.markRequestRead thread input).notifyWorkflow backend thread input)

end Workflow

section Mutation

/-- The status of a change that is not allowed. -/
def refusal : MutationDecision → Option ReviewResult
  | .allowed => none
  | .forbidden => some .forbidden
  | .stateConflict => some .stateConflict
  | .versionConflict => some .versionConflict

def commentCheck (action : MutationAction) (canManageProject : Bool) (thread : PageCommentThread)
    (input : MutationInput) : ContentMutationCheck where
  action := action
  actorAccountId := input.actor.accountId
  canManageProject := canManageProject
  content := ⟨thread.author.accountId, thread.version, thread.deletedAt.isSome⟩
  thread := ⟨thread.status, thread.deletedAt.isSome⟩
  expectedVersion := input.expectedVersion

def replyCheck (action : MutationAction) (canManageProject : Bool) (thread : PageCommentThread)
    (reply : ReviewReply) (input : MutationInput) : ContentMutationCheck where
  action := action
  actorAccountId := input.actor.accountId
  canManageProject := canManageProject
  content := ⟨reply.author.accountId, reply.version, reply.deletedAt.isSome⟩
  thread := ⟨thread.status, thread.deletedAt.isSome⟩
  expectedVersion := input.expectedVersion

def updateComment (input : UpdateInput) : ReviewResult × ReviewRepository :=
  if r.isStale backend input.actor.accountId input.actorAuthorizationVersion then
    (.staleAuthorization, r)
  else match r.findBoundThread input.access input.threadId input.revisionId input.routePath with
  | none => (.threadNotFound, r)
  | some thread =>
    match refusal (checkContentMutation
        (commentCheck .update false thread input.toMutationInput)) with
    | some refused => (refused, r)
    | none =>
      let changed := { thread with
        body := some input.body
        version := thread.version + 1
        updatedAt := input.changedAt }
      let r := r.setThread changed
      let r := r.setUsername backend input.actor.accountId input.actorUsername
      let r := r.recordEvent backend .commentUpdated changed input.actor input.changedAt none
      (.updatedThread changed, r.syncMentions backend
        { thread := changed, contentType := .comment, contentId := changed.id
          contentVersion := changed.version, mentionUsernames := input.mentionUsernames
          actor := input.actor, occurredAt := input.changedAt })

def deleteComment (input : DeleteInput) : ReviewResult × ReviewRepository :=
  if r.isStale backend input.actor.accountId input.actorAuthorizationVersion then
    (.staleAuthorization, r)
  else match r.findBoundThread input.access input.threadId input.revisionId input.routePath with
  | none => (.threadNotFound, r)
  | some thread =>
    match refusal (checkContentMutation
        (commentCheck .delete input.actorCanManageProject thread input.toMutationInput)) with
    | some refused => (refused, r)
    | none =>
      let changed := { thread with
        body := none
        version := thread.version + 1
        deletedBy := some input.actor
        deletedAt := some input.changedAt
        updatedAt := input.changedAt }
      let r := (r.setThread changed).deleteMentions .comment thread.id
      (.updatedThread changed,
        r.recordEvent backend .commentDeleted changed input.actor input.changedAt none)

def replaceReply (thread : PageCommentThread) (reply : ReviewReply) (changedAt : ℤ) :
    PageCommentThread :=
  { thread with
    replies := thread.replies.map fun candidate => if candidate.id = reply.id then reply else candidate
    updatedAt := changedAt }

/-- The database looks for both at once, so it misses the reply when it misses the thread. -/
def missingThread : ReviewResult :=
  match backend with
  | .inMemory => .threadNotFound
  | .postgres _ => .replyNotFound

def updateReply (replyId : JsString) (input : UpdateInput) : ReviewResult × ReviewRepository :=
  if r.isStale backend input.actor.accountId input.actorAuthorizationVersion then
    (.staleAuthorization, r)
  else match r.findBoundThread input.access input.threadId input.revisionId input.routePath with
  | none => (missingThread backend, r)
  | some thread =>
    match Auth.Table.get ReviewReply.id thread.replies replyId with
    | none => (.replyNotFound, r)
    | some reply =>
      match refusal (checkContentMutation
          (replyCheck .update false thread reply input.toMutationInput)) with
      | some refused => (refused, r)
      | none =>
        let changed := { reply with
          body := some input.body
          version := reply.version + 1
          updatedAt := input.changedAt }
        let changedThread := replaceReply thread changed input.changedAt
        let r := r.setThread changedThread
        let r := r.setUsername backend input.actor.accountId input.actorUsername
        let r := r.recordEvent backend .replyUpdated thread input.actor input.changedAt none
        (.updatedReply changed, r.syncMentions backend
          { thread := changedThread, contentType := .reply, contentId := changed.id
            contentVersion := changed.version, mentionUsernames := input.mentionUsernames
            actor := input.actor, occurredAt := input.changedAt })

def deleteReply (replyId : JsString) (input : DeleteInput) : ReviewResult × ReviewRepository :=
  if r.isStale backend input.actor.accountId input.actorAuthorizationVersion then
    (.staleAuthorization, r)
  else match r.findBoundThread input.access input.threadId input.revisionId input.routePath with
  | none => (missingThread backend, r)
  | some thread =>
    match Auth.Table.get ReviewReply.id thread.replies replyId with
    | none => (.replyNotFound, r)
    | some reply =>
      match refusal (checkContentMutation
          (replyCheck .delete input.actorCanManageProject thread reply input.toMutationInput)) with
      | some refused => (refused, r)
      | none =>
        let changed := { reply with
          body := none
          version := reply.version + 1
          deletedBy := some input.actor
          deletedAt := some input.changedAt
          updatedAt := input.changedAt }
        let r := (r.setThread (replaceReply thread changed input.changedAt)).deleteMentions .reply
          reply.id
        (.updatedReply changed,
          r.recordEvent backend .replyDeleted thread input.actor input.changedAt none)

end Mutation

/-- An exception leaves the in-memory repository changed and rolls the database back. -/
def afterThrow (changed : ReviewRepository) : ReviewRepository :=
  match backend with
  | .inMemory => changed
  | .postgres _ => r

def setNotificationRead (input : SetNotificationReadInput) : ReviewResult × ReviewRepository :=
  if r.isStale backend input.actor.accountId input.actorAuthorizationVersion then
    (.staleAuthorization, r)
  else if !r.hasAccess input.access input.revisionId then (.bindingNotFound, r)
  else
    let isMeant := fun notification : ReviewNotification =>
      notification.id = input.notificationId ∧ notification.revisionId = input.revisionId ∧
        notification.routePath = input.routePath ∧
        notification.recipientAccountId = input.actor.accountId
    match r.notifications.find? fun notification => isMeant notification with
    | none => (.notificationNotFound, r)
    | some current =>
      let readAt := if input.read then some (current.readAt.getD input.changedAt) else none
      let changed := { current with readAt := readAt }
      let changedAll := { r with
        notifications := r.notifications.map fun notification =>
          if notification.id = current.id then changed else notification }
      match r.findThread changed.threadId with
      | none => (.thrown "notification review thread disappeared", r.afterThrow backend changedAll)
      | some thread =>
        (.updatedNotification changed, changedAll.recordEvent backend .notificationReadChanged thread
          input.actor input.changedAt (some input.actor.accountId))

end ReviewRepository

section Service

/-- What `ReviewService` is asked to create, with the id `generateId` gives it. -/
structure NewContent where
  id : JsString
  body : JsString
  author : ReviewIdentity
  createdAt : ℤ
  deriving DecidableEq, Repr

/-- The thread of `createComment`. -/
def newThread (content : NewContent) (revisionId routePath : JsString) (anchor : ReviewAnchor) :
    PageCommentThread where
  id := content.id
  revisionId := revisionId
  routePath := routePath
  anchor := anchor
  pinNumber := none
  body := some content.body
  version := 1
  status := .opened
  workflowVersion := none
  workflowHistory := none
  author := content.author
  resolvedBy := none
  resolvedAt := none
  deletedBy := none
  deletedAt := none
  replies := []
  createdAt := content.createdAt
  updatedAt := content.createdAt

/-- The reply of `createReply`. -/
def newReply (content : NewContent) (threadId : JsString) : ReviewReply where
  id := content.id
  threadId := threadId
  body := some content.body
  version := 1
  author := content.author
  deletedBy := none
  deletedAt := none
  createdAt := content.createdAt
  updatedAt := content.createdAt

structure CommentCommand where
  content : NewContent
  revisionId : JsString
  routePath : JsString
  anchor : ReviewAnchor
  access : ReviewAccess
  actorUsername : JsString
  mentionUsernames : List JsString
  actorAuthorizationVersion : ℕ
  deriving DecidableEq, Repr

structure ReplyCommand where
  content : NewContent
  threadId : JsString
  revisionId : JsString
  routePath : JsString
  access : ReviewAccess
  actorUsername : JsString
  mentionUsernames : List JsString
  actorAuthorizationVersion : ℕ
  deriving DecidableEq, Repr

/-- What reaches a repository through `ReviewService`, once the caller's text and scope were found
well formed, and the changes of accounts beside it. -/
inductive ReviewCommand where
  | bindTunnel (input : BindTunnelInput)
  | removeTunnelBinding (tunnelId sessionId : JsString)
  | createPageComment (command : CommentCommand)
  | createReply (command : ReplyCommand)
  | changePageCommentStatus (input : ChangeStatusInput)
  | updateComment (input : UpdateInput)
  | deleteComment (input : DeleteInput)
  | updateReply (replyId : JsString) (input : UpdateInput)
  | deleteReply (replyId : JsString) (input : DeleteInput)
  | setNotificationRead (input : SetNotificationReadInput)
  | accountsChanged (accounts : List Account)
  deriving DecidableEq

def perform (backend : ReviewBackend) (r : ReviewRepository) :
    ReviewCommand → ReviewResult × ReviewRepository
  | .bindTunnel input => r.bindTunnel backend input
  | .removeTunnelBinding tunnelId sessionId => r.removeTunnelBinding tunnelId sessionId
  | .createPageComment command => r.createPageComment backend
      { thread := newThread command.content command.revisionId command.routePath command.anchor
        access := command.access
        actorUsername := command.actorUsername
        mentionUsernames := command.mentionUsernames
        actorAuthorizationVersion := command.actorAuthorizationVersion }
  | .createReply command => r.createReply backend
      { reply := newReply command.content command.threadId
        revisionId := command.revisionId
        routePath := command.routePath
        access := command.access
        actorUsername := command.actorUsername
        mentionUsernames := command.mentionUsernames
        actorAuthorizationVersion := command.actorAuthorizationVersion }
  | .changePageCommentStatus input =>
    match normalizeThreadStatusTransition input.expectedStatus input.status with
    | .error e => (.thrown e.message, r)
    | .ok (expectedStatus, status) => r.changePageCommentStatus backend
        { input with expectedStatus := expectedStatus, status := status }
  | .updateComment input => r.updateComment backend input
  | .deleteComment input => r.deleteComment backend input
  | .updateReply replyId input => r.updateReply backend replyId input
  | .deleteReply replyId input => r.deleteReply backend replyId input
  | .setNotificationRead input => r.setNotificationRead backend input
  | .accountsChanged accounts => (.void, { r with accounts := accounts })

end Service

end Lotur.Review
