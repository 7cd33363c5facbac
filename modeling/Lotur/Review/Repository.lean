import Lotur.Review.Model

/-! The two review repositories, the in-memory one and the one of the database. An operation is one
transaction. Replies and workflow history, which have tables of their own in the database, are kept
with their thread. -/
namespace Lotur.Review
open JsString
open Auth (Account canAccessSharedContent)

/-- The settings of the database, and the order in which it returns the rows of a query. -/
structure Database where
  maxEvents : ℕ
  maxEventAgeMs : ℤ
  arranges : List JsString → List JsString
  arranges_perm : ∀ ids, (arranges ids).Perm ids

inductive ReviewBackend where
  | inMemory
  | postgres (database : Database)

structure MentionSet where
  contentType : ReviewMentionContentType
  contentId : JsString
  recipients : List JsString
  deriving DecidableEq, Repr

structure PinCounter where
  revisionId : JsString
  routePath : JsString
  next : ℕ
  deriving DecidableEq, Repr

structure EventRetention where
  revisionId : JsString
  routePath : JsString
  trimmedThroughId : ℕ
  deriving DecidableEq, Repr

/-- `accountUsernames` belongs to the in-memory repository; `accounts` and `retention` belong to the
database. -/
structure ReviewRepository where
  projects : List ReviewProject
  revisions : List ReviewRevision
  bindings : List ReviewTunnelBinding
  threads : List PageCommentThread
  events : List ReviewEvent
  notifications : List ReviewNotification
  mentions : List MentionSet
  pinCounters : List PinCounter
  accountUsernames : List (JsString × JsString)
  accounts : List Account
  retention : List EventRetention
  nextEventId : ℕ
  nextNotificationId : ℕ
  deriving DecidableEq

/-- A repository is created empty; the accounts are others' to manage. -/
def ReviewRepository.empty (accounts : List Account) : ReviewRepository where
  projects := []
  revisions := []
  bindings := []
  threads := []
  events := []
  notifications := []
  mentions := []
  pinCounters := []
  accountUsernames := []
  accounts := accounts
  retention := []
  nextEventId := 1
  nextNotificationId := 1

structure ReviewAccess where
  tunnelId : Option JsString
  sessionId : Option JsString
  controlProjectId : Option JsString
  deriving DecidableEq, Repr

/-- The status of a result and the item it returns; an exception rolls the database back. -/
inductive ReviewResult where
  | createdThread (thread : PageCommentThread)
  | createdReply (reply : ReviewReply)
  | updatedThread (thread : PageCommentThread)
  | updatedReply (reply : ReviewReply)
  | updatedNotification (notification : ReviewNotification)
  | bound
  | conflict
  | void
  | staleAuthorization
  | bindingNotFound
  | threadNotFound
  | replyNotFound
  | notificationNotFound
  | stateConflict
  | versionConflict
  | forbidden
  | reviewerUnavailable
  | thrown (message : String)
  deriving DecidableEq, Repr

def ReviewResult.isSuccess : ReviewResult → Bool
  | .createdThread _ | .createdReply _ | .updatedThread _ | .updatedReply _
  | .updatedNotification _ => true
  | _ => false

namespace ReviewRepository

variable (backend : ReviewBackend) (r : ReviewRepository)

def findThread (id : JsString) : Option PageCommentThread :=
  Auth.Table.get PageCommentThread.id r.threads id

def setThread (thread : PageCommentThread) : ReviewRepository :=
  { r with threads := Auth.Table.set PageCommentThread.id r.threads thread }

def hasAccess (access : ReviewAccess) (revisionId : JsString) : Bool :=
  match access.controlProjectId with
  | some projectId =>
    access.tunnelId = none && access.sessionId = none &&
      ((Auth.Table.get ReviewRevision.id r.revisions revisionId).any fun revision =>
        revision.projectId = projectId)
  | none =>
    match access.tunnelId.bind (Auth.Table.get ReviewTunnelBinding.tunnelId r.bindings) with
    | none => false
    | some binding => access.sessionId = some binding.sessionId && binding.revisionId = revisionId

def findBoundThread (access : ReviewAccess) (threadId revisionId routePath : JsString) :
    Option PageCommentThread :=
  if r.hasAccess access revisionId then
    (r.findThread threadId).filter fun thread =>
      thread.revisionId = revisionId ∧ thread.routePath = routePath
  else none

/-- `lockCurrentAccount` of the database; the in-memory repository leaves it to its caller. -/
def isStale (accountId : JsString) (authorizationVersion : ℕ) : Bool :=
  match backend with
  | .inMemory => false
  | .postgres _ => !(Auth.Table.get Account.id r.accounts accountId).any fun account =>
      account.authVersion = authorizationVersion && account.enabled && !account.mustChangePassword

/-- Someone the database may notify. -/
def isReachable (account : Account) : Bool :=
  account.enabled && !account.mustChangePassword && canAccessSharedContent account.roles

def setUsername (accountId username : JsString) : ReviewRepository :=
  match backend with
  | .inMemory =>
    { r with
      accountUsernames := Auth.Table.set Prod.fst r.accountUsernames (accountId, username) }
  | .postgres _ => r

def usernameOf (accountId : JsString) : JsString :=
  ((Auth.Table.get Prod.fst r.accountUsernames accountId).map Prod.snd).getD []

section Events

def raiseRetention (retention : List EventRetention) (event : ReviewEvent) : List EventRetention :=
  if retention.any fun row => row.revisionId = event.revisionId ∧ row.routePath = event.routePath then
    retention.map fun row =>
      if row.revisionId = event.revisionId ∧ row.routePath = event.routePath then
        { row with trimmedThroughId := max row.trimmedThroughId event.id }
      else row
  else retention ++ [⟨event.revisionId, event.routePath, event.id⟩]

/-- Events that are too old go, and all but the last `maxEvents`. -/
def trimEvents (database : Database) (occurredAt : ℤ) : ReviewRepository :=
  let through := ((r.events.map ReviewEvent.id).reverse[database.maxEvents]?).getD 0
  let isRemoved := fun event : ReviewEvent =>
    event.occurredAt < occurredAt - database.maxEventAgeMs ∨ event.id ≤ through
  { r with
    events := r.events.filter fun event => ¬ isRemoved event
    retention := (r.events.filter fun event => isRemoved event).foldl raiseRetention r.retention }

def recordEvent (type : ReviewEventType) (thread : PageCommentThread) (actor : ReviewIdentity)
    (occurredAt : ℤ) (recipientAccountId : Option JsString) : ReviewRepository :=
  let recorded : ReviewRepository := { r with
    events := r.events ++ [
      { id := r.nextEventId, revisionId := thread.revisionId, routePath := thread.routePath
        threadId := thread.id, type, actor, occurredAt, recipientAccountId }]
    nextEventId := r.nextEventId + 1 }
  match backend with
  | .inMemory => recorded
  | .postgres database => recorded.trimEvents database occurredAt

end Events

section Notifications

/-- The database takes no second notification of one source for a recipient. -/
def insertNotification (notification : ReviewNotification) : Bool × ReviewRepository :=
  let isKnown := match backend with
    | .inMemory => false
    | .postgres _ => r.notifications.any fun known =>
        known.recipientAccountId = notification.recipientAccountId ∧
          known.sourceKey = notification.sourceKey
  if isKnown then (false, { r with nextNotificationId := r.nextNotificationId + 1 })
  else (true, { r with
    notifications := r.notifications ++ [{ notification with id := r.nextNotificationId }]
    nextNotificationId := r.nextNotificationId + 1 })

/-- The owner of the project and everyone who wrote into a thread of the revision. -/
def participants (revisionId : JsString) : List JsString :=
  let owner := ((Auth.Table.get ReviewRevision.id r.revisions revisionId).bind fun revision =>
    Auth.Table.get ReviewProject.id r.projects revision.projectId).map ReviewProject.ownerAccountId
  let authors := (r.threads.filter fun thread => thread.revisionId = revisionId).flatMap
    fun thread => thread.author.accountId :: thread.replies.map fun reply => reply.author.accountId
  (owner.toList ++ authors).eraseDups

def eligible (revisionId : JsString) (mentionUsernames : List JsString)
    (actorAccountId : JsString) : List JsString :=
  match backend with
  | .inMemory => (r.participants revisionId).filter fun accountId =>
      accountId ≠ actorAccountId ∧ r.usernameOf accountId ∈ mentionUsernames
  | .postgres database => database.arranges <| (r.participants revisionId).filter fun accountId =>
      accountId ≠ actorAccountId ∧
        ((Auth.Table.get Account.id r.accounts accountId).any fun account =>
          account.username ∈ mentionUsernames && isReachable account) = true

structure MentionSync where
  thread : PageCommentThread
  contentType : ReviewMentionContentType
  contentId : JsString
  contentVersion : ℕ
  mentionUsernames : List JsString
  actor : ReviewIdentity
  occurredAt : ℤ

def contentTypeText : ReviewMentionContentType → JsString
  | .comment => ofAscii "COMMENT"
  | .reply => ofAscii "REPLY"

def isMentionOf (contentType : ReviewMentionContentType) (contentId : JsString)
    (set : MentionSet) : Bool := set.contentType = contentType && set.contentId = contentId

def deleteMentions (contentType : ReviewMentionContentType) (contentId : JsString) :
    ReviewRepository :=
  { r with mentions := r.mentions.filter fun set => !isMentionOf contentType contentId set }

/-- The loop body of `syncMentions`. -/
def notifyMention (input : MentionSync) (previous : List JsString)
    (recipientAccountId : JsString) : ReviewRepository :=
  if recipientAccountId ∈ previous then r
  else
    let sourced := match backend with
      | .inMemory => (none, none)
      | .postgres _ => (some NotificationReason.mention, some (ofAscii "mention:" ++
          contentTypeText input.contentType ++ ofAscii ":" ++ input.contentId ++ ofAscii ":" ++
          ofNat input.contentVersion))
    (r.insertNotification backend
      { id := 0, revisionId := input.thread.revisionId, routePath := input.thread.routePath
        threadId := input.thread.id, contentType := input.contentType, contentId := input.contentId
        reason := sourced.1, sourceKey := sourced.2, workflowVersion := none, recipientAccountId
        actor := input.actor, readAt := none, createdAt := input.occurredAt }).2.recordEvent backend
      .notificationCreated input.thread input.actor input.occurredAt (some recipientAccountId)

def syncMentions (input : MentionSync) : ReviewRepository :=
  let recipients := r.eligible backend input.thread.revisionId input.mentionUsernames
    input.actor.accountId
  let previous := ((r.mentions.find? (isMentionOf input.contentType input.contentId)).map
    MentionSet.recipients).getD []
  let kept := r.mentions.filter fun set => !isMentionOf input.contentType input.contentId set
  recipients.foldl (fun r recipient => r.notifyMention backend input previous recipient)
    { r with mentions := kept ++ [⟨input.contentType, input.contentId, recipients⟩] }

end Notifications

end ReviewRepository

end Lotur.Review
