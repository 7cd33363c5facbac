import Lotur.Library.Execution
import Lotur.Review.NotificationHistory

/-! The history of a review repository, and the law its notifications obey: who is told of each
command, in terms of what was done before. -/
namespace Lotur.Review

/-- A command that was carried out, its result, and the repository after it. -/
structure Record where
  command : ReviewCommand
  result : ReviewResult
  after : ReviewRepository

namespace Record
variable (record : Record)

/-- The version of an item that the command wrote, with the names it mentions. -/
def write : Option MentionWrite :=
  match record.command, record.result with
  | .createPageComment command, .createdThread thread =>
    some ⟨.comment, thread.id, command.revisionId, command.mentionUsernames,
      command.content.author.accountId⟩
  | .createReply command, .createdReply reply =>
    some ⟨.reply, reply.id, command.revisionId, command.mentionUsernames,
      command.content.author.accountId⟩
  | .updateComment input, .updatedThread thread =>
    some ⟨.comment, thread.id, input.revisionId, input.mentionUsernames, input.actor.accountId⟩
  | .updateReply _ input, .updatedReply reply =>
    some ⟨.reply, reply.id, input.revisionId, input.mentionUsernames, input.actor.accountId⟩
  | _, _ => none

/-- The item that the command deleted. -/
def erased : Option (ReviewMentionContentType × JsString) :=
  match record.command, record.result with
  | .deleteComment _, .updatedThread thread => some (.comment, thread.id)
  | .deleteReply _ _, .updatedReply reply => some (.reply, reply.id)
  | _, _ => none

end Record

/-- The account was a mentioned recipient of the item after its last version; a deleted item has
none. -/
def MentionedLast (backend : ReviewBackend) :
    List Record → ReviewMentionContentType → JsString → JsString → Prop
  | [], _, _, _ => False
  | record :: past, contentType, contentId, accountId =>
    match record.write with
    | some write =>
      if write.contentType = contentType ∧ write.contentId = contentId then
        Mentions backend record.after write accountId
      else MentionedLast backend past contentType contentId accountId
    | none =>
      if record.erased = some (contentType, contentId) then False
      else MentionedLast backend past contentType contentId accountId

/-- The author of the thread when a review is asked for, and the last one who asked when it is
answered. -/
def HearsOfMove (thread : PageCommentThread) (input : ChangeStatusInput) (accountId : JsString) :
    Prop :=
  (input.status = .needsReview ∧ accountId = thread.author.accountId) ∨
  (input.status ≠ .needsReview ∧ thread.status = .needsReview ∧
    ∃ request, (history thread).getLast? = some request ∧ accountId = request.actor.accountId)

/-- The notification of the review that is asked for now. -/
def IsRequest (thread : PageCommentThread) (accountId : JsString) (notice : ReviewNotification) :
    Prop :=
  thread.status = .needsReview ∧ notice.threadId = thread.id ∧
    notice.recipientAccountId = accountId ∧ notice.reason = some .workflowRequest ∧
    notice.workflowVersion = some (thread.workflowVersion.getD 1)

instance (thread : PageCommentThread) (accountId : JsString) (notice : ReviewNotification) :
    Decidable (IsRequest thread accountId notice) := by
  unfold IsRequest
  infer_instance

/-- What a command does to the notifications that are there. -/
def Record.reads (record : Record) (before : ReviewRepository) (notice : ReviewNotification) :
    ReviewNotification :=
  match record.command, record.result with
  | .changePageCommentStatus input, .updatedThread _ =>
    if (before.findThread input.threadId).any fun thread =>
        IsRequest thread input.actor.accountId notice then
      { notice with readAt := some (notice.readAt.getD input.changedAt) }
    else notice
  | .setNotificationRead input, .updatedNotification _ =>
    if notice.id = input.notificationId then
      { notice with readAt := if input.read then some (notice.readAt.getD input.changedAt) else none }
    else notice
  | _, _ => notice

def Exactly (condition : Prop) (count : ℕ) : Prop :=
  (condition → count = 1) ∧ (¬ condition → count = 0)

def isMention (notice : ReviewNotification) : Bool :=
  notice.reason = none || notice.reason = some .mention

/-- How many of the notifications are for the account. -/
def told (created : List ReviewNotification) (accountId : JsString) : ℕ :=
  (created.map ReviewNotification.recipientAccountId).count accountId

/-- Who is told of the command, by its kind. -/
structure Recipients (backend : ReviewBackend) (past : List Record) (before : ReviewRepository)
    (record : Record) (created : List ReviewNotification) : Prop where
  mentioned : ∀ write, record.write = some write →
    (∀ notice ∈ created, notice.contentType = write.contentType ∧
      notice.contentId = write.contentId ∧ notice.actor.accountId = write.actorAccountId) ∧
    ∀ accountId, Exactly (Mentions backend record.after write accountId ∧
        ¬ MentionedLast backend past write.contentType write.contentId accountId)
      (told (created.filter fun notice => isMention notice) accountId)
  replied : ∀ command reply, record.command = .createReply command →
    record.result = .createdReply reply → ∃ thread write,
      before.findThread command.threadId = some thread ∧ record.write = some write ∧
      ∀ accountId, Exactly ((accountId ≠ reply.author.accountId ∧ TookPart thread accountId ∧
          IsReader backend before accountId) ∨ Mentions backend record.after write accountId)
        (told created accountId)
  edited : record.write.isSome → (∀ command, record.command ≠ .createReply command) →
    ∀ notice ∈ created, isMention notice = true
  moved : ∀ input changed, record.command = .changePageCommentStatus input →
    record.result = .updatedThread changed → ∃ thread,
      before.findThread input.threadId = some thread ∧
      (∀ notice ∈ created, notice.threadId = thread.id ∧ notice.actor = input.actor ∧
        isMention notice = false) ∧
      ∀ accountId, Exactly (accountId ≠ input.actor.accountId ∧ HearsOfMove thread input accountId ∧
          IsReader backend before accountId) (told created accountId)
  silent : record.write = none →
    (∀ input changed, record.command = .changePageCommentStatus input →
      record.result ≠ .updatedThread changed) → created = []

/-- What one command does to notifications and to the events that tell of them. -/
structure NotificationLaw (backend : ReviewBackend) (past : List Record) (before : ReviewRepository)
    (record : Record) (created : List ReviewNotification) (recorded : List ReviewEvent) : Prop where
  notifications : record.after.notifications =
    before.notifications.map (record.reads before) ++ created
  announced : Announced created recorded
  events : record.after.events.Sublist (before.events ++ recorded)
  untrimmed : backend = .inMemory → record.after.events = before.events ++ recorded
  eventIds : recorded.map ReviewEvent.id = List.range' before.nextEventId recorded.length
  nextEventId : record.after.nextEventId = before.nextEventId + recorded.length
  recipients : Recipients backend past before record created

/-- The repository before the next command. -/
def latest (accounts : List Auth.Account) : List Record → ReviewRepository
  | [] => .empty accounts
  | record :: _ => record.after

/-- Every command of the history obeys the law. -/
def Lawful (backend : ReviewBackend) (accounts : List Auth.Account) : List Record → Prop
  | [] => True
  | record :: past => (∃ created recorded,
      NotificationLaw backend past (latest accounts past) record created recorded) ∧
    Lawful backend accounts past

structure Chronicle where
  repository : ReviewRepository
  past : List Record

def Chronicle.empty (accounts : List Auth.Account) : Chronicle := ⟨.empty accounts, []⟩

def Chronicle.step (backend : ReviewBackend) (s : Chronicle) (command : ReviewCommand) :
    Option Chronicle :=
  let outcome := perform backend s.repository command
  some ⟨outcome.2, ⟨command, outcome.1, outcome.2⟩ :: s.past⟩

/-- `generateId` gives no reply the id of another item. -/
def FreshIds (s : Chronicle) (command : ReviewCommand) : Prop :=
  ∀ thread ∈ s.repository.threads, newReplyId command ≠ some thread.id ∧
    ∀ reply ∈ thread.replies, newReplyId command ≠ some reply.id

instance (s : Chronicle) (command : ReviewCommand) : Decidable (FreshIds s command) := by
  unfold FreshIds
  infer_instance

end Lotur.Review
