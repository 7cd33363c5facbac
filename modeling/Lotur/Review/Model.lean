import Lotur.Auth.Repository

/-! Review threads, their replies, and the checks on a change, from `packages/review/src/model.ts`
and `content-mutation-policy.ts`. Times are the milliseconds of `Date.getTime`. -/
namespace Lotur.Review

inductive ReviewErrorCode where
  | invalidInput
  | forbidden
  | notFound
  | conflict
  | stateConflict
  | versionConflict
  | cursorExpired
  | reviewerUnavailable
  deriving DecidableEq, Repr

structure ReviewError where
  code : ReviewErrorCode
  message : String
  deriving DecidableEq, Repr

structure ReviewProject where
  id : JsString
  ownerAccountId : JsString
  slug : JsString
  displayName : JsString
  createdAt : ℤ
  deriving DecidableEq, Repr

structure ReviewRevision where
  id : JsString
  projectId : JsString
  key : JsString
  createdByAccountId : JsString
  createdAt : ℤ
  deriving DecidableEq, Repr

structure ReviewTunnelBinding where
  tunnelId : JsString
  sessionId : JsString
  revisionId : JsString
  ownerAccountId : JsString
  createdAt : ℤ
  expiresAt : ℤ
  deriving DecidableEq, Repr

inductive ReviewThreadStatus where
  | opened
  | needsReview
  | resolved
  deriving DecidableEq, Repr

inductive ReviewEventType where
  | commentCreated
  | replyCreated
  | threadStatusChanged
  | commentUpdated
  | commentDeleted
  | replyUpdated
  | replyDeleted
  | notificationCreated
  | notificationReadChanged
  deriving DecidableEq, Repr

structure ReviewIdentity where
  accountId : JsString
  displayName : JsString
  deriving DecidableEq, Repr

/-- The id is the decimal text of the number in the source. -/
structure ReviewEvent where
  id : ℕ
  revisionId : JsString
  routePath : JsString
  threadId : JsString
  type : ReviewEventType
  actor : ReviewIdentity
  occurredAt : ℤ
  recipientAccountId : Option JsString
  deriving DecidableEq, Repr

inductive ReviewMentionContentType where
  | comment
  | reply
  deriving DecidableEq, Repr

inductive NotificationReason where
  | mention
  | reply
  | workflowRequest
  | workflowResult
  deriving DecidableEq, Repr

structure ReviewNotification where
  id : ℕ
  revisionId : JsString
  routePath : JsString
  threadId : JsString
  contentType : ReviewMentionContentType
  contentId : JsString
  reason : Option NotificationReason
  sourceKey : Option JsString
  workflowVersion : Option ℕ
  recipientAccountId : JsString
  actor : ReviewIdentity
  readAt : Option ℤ
  createdAt : ℤ
  deriving DecidableEq, Repr

structure ReviewReply where
  id : JsString
  threadId : JsString
  body : Option JsString
  version : ℕ
  author : ReviewIdentity
  deletedBy : Option ReviewIdentity
  deletedAt : Option ℤ
  createdAt : ℤ
  updatedAt : ℤ
  deriving DecidableEq, Repr

/-- Of a region nothing but its type is read once it is stored. -/
inductive ReviewAnchor where
  | page
  | regionV1
  deriving DecidableEq, Repr

structure WorkflowEntry where
  version : ℕ
  fromStatus : ReviewThreadStatus
  toStatus : ReviewThreadStatus
  actor : ReviewIdentity
  changedAt : ℤ
  deriving DecidableEq, Repr

structure PageCommentThread where
  id : JsString
  revisionId : JsString
  routePath : JsString
  anchor : ReviewAnchor
  pinNumber : Option ℕ
  body : Option JsString
  version : ℕ
  status : ReviewThreadStatus
  workflowVersion : Option ℕ
  workflowHistory : Option (List WorkflowEntry)
  author : ReviewIdentity
  resolvedBy : Option ReviewIdentity
  resolvedAt : Option ℤ
  deletedBy : Option ReviewIdentity
  deletedAt : Option ℤ
  replies : List ReviewReply
  createdAt : ℤ
  updatedAt : ℤ
  deriving DecidableEq, Repr

def normalizeThreadStatusTransition (expectedStatus status : ReviewThreadStatus) :
    Except ReviewError (ReviewThreadStatus × ReviewThreadStatus) :=
  if expectedStatus = status then
    .error ⟨.invalidInput, "review thread status transition is invalid"⟩
  else .ok (expectedStatus, status)

inductive MutationAction where
  | update
  | delete
  deriving DecidableEq, Repr

structure MutationContent where
  authorAccountId : JsString
  version : ℕ
  deleted : Bool
  deriving DecidableEq, Repr

structure MutationThread where
  status : ReviewThreadStatus
  deleted : Bool
  deriving DecidableEq, Repr

structure ContentMutationCheck where
  action : MutationAction
  actorAccountId : JsString
  canManageProject : Bool
  content : MutationContent
  thread : MutationThread
  expectedVersion : ℕ
  deriving DecidableEq, Repr

inductive MutationDecision where
  | allowed
  | forbidden
  | stateConflict
  | versionConflict
  deriving DecidableEq, Repr

def checkContentMutation (input : ContentMutationCheck) : MutationDecision :=
  if input.content.authorAccountId ≠ input.actorAccountId ∧
      (input.action = .update ∨ input.canManageProject = false) then .forbidden
  else if input.content.deleted = true ∨ (input.action = .update ∧
      (input.thread.status = .resolved ∨ input.thread.deleted = true)) then .stateConflict
  else if input.content.version ≠ input.expectedVersion then .versionConflict
  else .allowed

/-- What an allowed change implies. -/
theorem checkContentMutation_allowed {input : ContentMutationCheck}
    (h : checkContentMutation input = .allowed) :
    (input.content.authorAccountId = input.actorAccountId ∨
      input.action = .delete ∧ input.canManageProject = true) ∧
    input.content.deleted = false ∧
    (input.action = .update → input.thread.status ≠ .resolved ∧ input.thread.deleted = false) ∧
    input.content.version = input.expectedVersion := by
  unfold checkContentMutation at h
  split_ifs at h with hforbidden hconflict hversion
  simp only [not_and_or, not_or, not_not, Bool.not_eq_true, Bool.not_eq_false] at *
  cases haction : input.action with
  | update => grind
  | delete => grind

end Lotur.Review
