import Lotur.Auth.Tables
import Lotur.Review.Operations

/-! What one command can do to the threads of a review repository. Events, mentions and notifications
follow a thread that was written; they never change it. -/
namespace Lotur.Review
open JsString

/-- Events and notifications about one thread. -/
structure Announces (threadId : JsString) (r r' : ReviewRepository) : Prop where
  threads : r'.threads = r.threads
  notified : ∀ notice ∈ r'.notifications, notice.threadId = threadId ∨
    ∃ old ∈ r.notifications, old.threadId = notice.threadId

/-- One thread is written, with what there is to tell about it. -/
structure Writes (thread : PageCommentThread) (r r' : ReviewRepository) : Prop where
  threads : r'.threads = Auth.Table.set PageCommentThread.id r.threads thread
  notified : ∀ notice ∈ r'.notifications, notice.threadId = thread.id ∨
    ∃ old ∈ r.notifications, old.threadId = notice.threadId

/-- What a failed command leaves alone. -/
structure Unchanged (r r' : ReviewRepository) : Prop where
  threads : r'.threads = r.threads
  events : r'.events = r.events
  mentions : r'.mentions = r.mentions
  notifications : r'.notifications = r.notifications

theorem Unchanged.refl (r : ReviewRepository) : Unchanged r r := ⟨rfl, rfl, rfl, rfl⟩

section Announcing
variable {backend : ReviewBackend} {r r' r'' : ReviewRepository} {threadId : JsString}

theorem Announces.refl (threadId : JsString) (r : ReviewRepository) : Announces threadId r r :=
  ⟨rfl, fun notice hnotice => .inr ⟨notice, hnotice, rfl⟩⟩

theorem Announces.trans (h : Announces threadId r r') (h' : Announces threadId r' r'') :
    Announces threadId r r'' := by
  refine ⟨h'.threads.trans h.threads, fun notice hnotice => ?_⟩
  rcases h'.notified notice hnotice with heq | ⟨old, hold, heq⟩
  · exact .inl heq
  · rw [← heq]
    exact h.notified old hold

theorem Writes.trans {thread : PageCommentThread} (h : Writes thread r r')
    (h' : Announces thread.id r' r'') : Writes thread r r'' := by
  refine ⟨h'.threads.trans h.threads, fun notice hnotice => ?_⟩
  rcases h'.notified notice hnotice with heq | ⟨old, hold, heq⟩
  · exact .inl heq
  · rw [← heq]
    exact h.notified old hold

/-- What leaves threads and notifications alone announces nothing. -/
theorem Announces.of_eq (hthreads : r'.threads = r.threads)
    (hnotifications : r'.notifications = r.notifications) : Announces threadId r r' :=
  ⟨hthreads, fun notice hnotice => .inr ⟨notice, hnotifications ▸ hnotice, rfl⟩⟩

theorem setThread_writes (r : ReviewRepository) (thread : PageCommentThread) :
    Writes thread r (r.setThread thread) :=
  ⟨rfl, fun notice hnotice => .inr ⟨notice, hnotice, rfl⟩⟩

theorem recordEvent_announces (r : ReviewRepository) (type : ReviewEventType)
    (thread : PageCommentThread) (actor : ReviewIdentity) (occurredAt : ℤ)
    (recipient : Option JsString) :
    Announces threadId r (r.recordEvent backend type thread actor occurredAt recipient) := by
  cases backend
  all_goals exact .of_eq rfl rfl

theorem setUsername_announces (r : ReviewRepository) (accountId username : JsString) :
    Announces threadId r (r.setUsername backend accountId username) := by
  cases backend
  all_goals exact .of_eq rfl rfl

theorem insertNotification_announces (r : ReviewRepository) {notification : ReviewNotification}
    (h : notification.threadId = threadId) :
    Announces threadId r (r.insertNotification backend notification).2 := by
  unfold ReviewRepository.insertNotification
  dsimp only
  split_ifs
  · exact .of_eq rfl rfl
  · refine ⟨rfl, fun notice hnotice => ?_⟩
    rcases List.mem_append.1 hnotice with hold | hnew
    · exact .inr ⟨notice, hold, rfl⟩
    · rw [List.mem_singleton.1 hnew]
      exact .inl h

/-- A loop of announcements. -/
theorem foldl_announces {announce : ReviewRepository → JsString → ReviewRepository}
    (h : ∀ r recipient, Announces threadId r (announce r recipient)) (recipients : List JsString)
    (r : ReviewRepository) : Announces threadId r (recipients.foldl announce r) := by
  induction recipients generalizing r with
  | nil => exact .refl _ _
  | cons recipient recipients ih => exact (h r recipient).trans (ih _)

theorem notifyMention_announces (r : ReviewRepository) (input : ReviewRepository.MentionSync)
    (previous : List JsString) (recipient : JsString) :
    Announces input.thread.id r (r.notifyMention backend input previous recipient) := by
  unfold ReviewRepository.notifyMention
  dsimp only
  split_ifs
  · exact .refl _ _
  · refine .trans (insertNotification_announces r ?_) (recordEvent_announces ..)
    rfl

theorem syncMentions_announces (r : ReviewRepository) {input : ReviewRepository.MentionSync}
    (h : input.thread.id = threadId) : Announces threadId r (r.syncMentions backend input) := by
  unfold ReviewRepository.syncMentions
  dsimp only
  subst h
  refine .trans ?_ (foldl_announces (fun r recipient =>
    notifyMention_announces r input _ recipient) _ _)
  exact .of_eq rfl rfl

/-- A notification that was taken is an event. -/
theorem insertAndRecord_announces (r : ReviewRepository) {notification : ReviewNotification}
    (h : notification.threadId = threadId) (thread : PageCommentThread) (actor : ReviewIdentity)
    (occurredAt : ℤ) (recipient : Option JsString) :
    Announces threadId r
      (if (r.insertNotification backend notification).1 = true then
        (r.insertNotification backend notification).2.recordEvent backend .notificationCreated thread
          actor occurredAt recipient
      else (r.insertNotification backend notification).2) := by
  split_ifs
  · exact (insertNotification_announces r h).trans (recordEvent_announces ..)
  · exact insertNotification_announces r h

theorem notifyReply_announces (r : ReviewRepository) (thread : PageCommentThread)
    (reply : ReviewReply) (recipient : JsString) :
    Announces thread.id r (r.notifyReply backend thread reply recipient) := by
  unfold ReviewRepository.notifyReply
  dsimp only
  split
  · exact .refl _ _
  · apply insertAndRecord_announces
    rfl

theorem markRequestRead_announces (r : ReviewRepository) (thread : PageCommentThread)
    (input : ChangeStatusInput) : Announces threadId r (r.markRequestRead thread input) := by
  unfold ReviewRepository.markRequestRead
  split
  · exact .refl _ _
  · split_ifs
    · refine ⟨rfl, fun notice hnotice => ?_⟩
      obtain ⟨old, hold, rfl⟩ := List.mem_map.1 hnotice
      refine .inr ⟨old, hold, ?_⟩
      split_ifs <;> rfl
    · exact .refl _ _

theorem notifyWorkflow_announces (r : ReviewRepository) (thread : PageCommentThread)
    (input : ChangeStatusInput) : Announces thread.id r (r.notifyWorkflow backend thread input) := by
  unfold ReviewRepository.notifyWorkflow
  dsimp only
  split
  · exact .refl _ _
  · split
    · exact .refl _ _
    · apply insertAndRecord_announces
      rfl

theorem deleteMentions_announces (r : ReviewRepository) (contentType : ReviewMentionContentType)
    (contentId : JsString) : Announces threadId r (r.deleteMentions contentType contentId) :=
  .of_eq rfl rfl

/-- A username that is remembered first is announced like one that is remembered last. -/
theorem Announces.writes {thread : PageCommentThread} (h : Announces thread.id r r')
    (h' : Writes thread r' r'') : Writes thread r r'' := by
  refine ⟨by rw [h'.threads, h.threads], fun notice hnotice => ?_⟩
  rcases h'.notified notice hnotice with heq | ⟨old, hold, heq⟩
  · exact .inl heq
  · rw [← heq]
    exact h.notified old hold

theorem pinned_announces (r : ReviewRepository) (thread : PageCommentThread) :
    Announces threadId r (r.pinned thread).2 := by
  unfold ReviewRepository.pinned
  split
  · exact .refl _ _
  · exact .of_eq rfl rfl

/-- Storing a thread gives it at most a pin. -/
theorem pinned_eq (r : ReviewRepository) (thread : PageCommentThread)
    (h : thread.pinNumber = none) : ∃ pinNumber, (r.pinned thread).1 = { thread with pinNumber } := by
  unfold ReviewRepository.pinned
  split
  · exact ⟨none, by rw [← h]⟩
  · exact ⟨_, rfl⟩

end Announcing

def editedThread (thread : PageCommentThread) (input : UpdateInput) : PageCommentThread :=
  { thread with
    body := some input.body
    version := thread.version + 1
    updatedAt := input.changedAt }

def deletedThread (thread : PageCommentThread) (input : DeleteInput) : PageCommentThread :=
  { thread with
    body := none
    version := thread.version + 1
    deletedBy := some input.actor
    deletedAt := some input.changedAt
    updatedAt := input.changedAt }

def editedReply (reply : ReviewReply) (input : UpdateInput) : ReviewReply :=
  { reply with
    body := some input.body
    version := reply.version + 1
    updatedAt := input.changedAt }

def deletedReply (reply : ReviewReply) (input : DeleteInput) : ReviewReply :=
  { reply with
    body := none
    version := reply.version + 1
    deletedBy := some input.actor
    deletedAt := some input.changedAt
    updatedAt := input.changedAt }

def withReply (thread : PageCommentThread) (reply : ReviewReply) : PageCommentThread :=
  { thread with replies := thread.replies ++ [reply], updatedAt := reply.createdAt }

/-- When an author may edit what is theirs: it is not deleted, and the thread is open to changes. -/
structure MayEdit (thread : PageCommentThread) (authorAccountId : JsString) (version : ℕ)
    (deletedAt : Option ℤ) (input : UpdateInput) : Prop where
  author : authorAccountId = input.actor.accountId
  live : deletedAt = none
  version_eq : version = input.expectedVersion
  unresolved : thread.status ≠ .resolved
  threadLive : thread.deletedAt = none

structure MayDelete (authorAccountId : JsString) (version : ℕ) (deletedAt : Option ℤ)
    (input : DeleteInput) : Prop where
  authorOrManager : authorAccountId = input.actor.accountId ∨ input.actorCanManageProject = true
  live : deletedAt = none
  version_eq : version = input.expectedVersion

structure MayChangeStatus (thread : PageCommentThread) (input : ChangeStatusInput) : Prop where
  managerOrAuthor : input.actorCanManageProject = true ∨
    thread.author.accountId = input.actor.accountId ∧ thread.status = .needsReview
  moves : thread.status ≠ input.status
  version_eq : thread.workflowVersion.getD 1 = input.expectedWorkflowVersion
  live : thread.deletedAt = none

/-- The thread a successful command writes, with the checks it passed. -/
inductive ThreadStep (r : ReviewRepository) :
    ReviewCommand → ReviewResult → PageCommentThread → Prop
  | created (command : CommentCommand) (pinNumber : Option ℕ)
      (free : r.findThread command.content.id = none) :
      ThreadStep r (.createPageComment command)
        (.createdThread { newThread command.content command.revisionId command.routePath
          command.anchor with pinNumber })
        { newThread command.content command.revisionId command.routePath command.anchor with
          pinNumber }
  | replied (command : ReplyCommand) (thread : PageCommentThread)
      (found : r.findThread command.threadId = some thread) (unresolved : thread.status ≠ .resolved)
      (live : thread.deletedAt = none) :
      ThreadStep r (.createReply command) (.createdReply (newReply command.content command.threadId))
        (withReply thread (newReply command.content command.threadId))
  | statusChanged (input : ChangeStatusInput) (thread : PageCommentThread)
      (found : r.findThread input.threadId = some thread) (may : MayChangeStatus thread input) :
      ThreadStep r (.changePageCommentStatus input)
        (.updatedThread (ReviewRepository.changedThread thread input))
        (ReviewRepository.changedThread thread input)
  | commentUpdated (input : UpdateInput) (thread : PageCommentThread)
      (found : r.findThread input.threadId = some thread)
      (may : MayEdit thread thread.author.accountId thread.version thread.deletedAt input) :
      ThreadStep r (.updateComment input) (.updatedThread (editedThread thread input))
        (editedThread thread input)
  | commentDeleted (input : DeleteInput) (thread : PageCommentThread)
      (found : r.findThread input.threadId = some thread)
      (may : MayDelete thread.author.accountId thread.version thread.deletedAt input) :
      ThreadStep r (.deleteComment input) (.updatedThread (deletedThread thread input))
        (deletedThread thread input)
  | replyUpdated (replyId : JsString) (input : UpdateInput) (thread : PageCommentThread)
      (reply : ReviewReply) (found : r.findThread input.threadId = some thread)
      (foundReply : Auth.Table.get ReviewReply.id thread.replies replyId = some reply)
      (may : MayEdit thread reply.author.accountId reply.version reply.deletedAt input) :
      ThreadStep r (.updateReply replyId input) (.updatedReply (editedReply reply input))
        (ReviewRepository.replaceReply thread (editedReply reply input) input.changedAt)
  | replyDeleted (replyId : JsString) (input : DeleteInput) (thread : PageCommentThread)
      (reply : ReviewReply) (found : r.findThread input.threadId = some thread)
      (foundReply : Auth.Table.get ReviewReply.id thread.replies replyId = some reply)
      (may : MayDelete reply.author.accountId reply.version reply.deletedAt input) :
      ThreadStep r (.deleteReply replyId input) (.updatedReply (deletedReply reply input))
        (ReviewRepository.replaceReply thread (deletedReply reply input) input.changedAt)

/-- All that one command can do. -/
inductive Effect (r : ReviewRepository) (command : ReviewCommand) :
    ReviewResult × ReviewRepository → Prop
  | refused (result : ReviewResult) (r' : ReviewRepository) (failed : result.isSuccess = false)
      (unchanged : Unchanged r r') : Effect r command (result, r')
  | wrote (result : ReviewResult) (r' : ReviewRepository) (thread : PageCommentThread)
      (step : ThreadStep r command result thread) (writes : Writes thread r r') :
      Effect r command (result, r')
  | read (input : SetNotificationReadInput) (notification : ReviewNotification)
      (r' : ReviewRepository) (asked : command = .setNotificationRead input)
      (threadId : JsString) (found : (r.findThread threadId).isSome)
      (announces : Announces threadId r r') :
      Effect r command (.updatedNotification notification, r')

/-- Every notification is about a thread that exists. -/
def Notified (r : ReviewRepository) : Prop :=
  ∀ notice ∈ r.notifications, (r.findThread notice.threadId).isSome

section Operations
variable {backend : ReviewBackend} {r : ReviewRepository}

theorem findBoundThread_some {access : ReviewAccess} {threadId revisionId routePath : JsString}
    {thread : PageCommentThread}
    (h : r.findBoundThread access threadId revisionId routePath = some thread) :
    r.findThread threadId = some thread := by
  unfold ReviewRepository.findBoundThread at h
  split_ifs at h
  exact (Option.filter_eq_some_iff.1 h).1

theorem findThread_id {threadId : JsString} {thread : PageCommentThread}
    (h : r.findThread threadId = some thread) : thread.id = threadId :=
  (Auth.Table.get_some h).2

theorem findThread_self {threadId : JsString} {thread : PageCommentThread}
    (h : r.findThread threadId = some thread) : r.findThread thread.id = some thread := by
  rw [findThread_id h]
  exact h

theorem refusal_failed {decision : MutationDecision} {result : ReviewResult}
    (h : ReviewRepository.refusal decision = some result) : result.isSuccess = false := by
  cases decision <;> simp only [ReviewRepository.refusal, reduceCtorEq, Option.some.injEq] at h <;>
    rw [← h] <;> rfl

theorem refusal_none {decision : MutationDecision} (h : ReviewRepository.refusal decision = none) :
    decision = .allowed := by
  cases decision with
  | allowed => rfl
  | forbidden => cases h
  | stateConflict => cases h
  | versionConflict => cases h

theorem mayEdit_of_check {thread : PageCommentThread} {authorAccountId : JsString} {version : ℕ}
    {deletedAt : Option ℤ} {input : UpdateInput} {check : ContentMutationCheck}
    (hcheck : check = ⟨.update, input.actor.accountId, false,
      ⟨authorAccountId, version, deletedAt.isSome⟩, ⟨thread.status, thread.deletedAt.isSome⟩,
      input.expectedVersion⟩)
    (h : ReviewRepository.refusal (checkContentMutation check) = none) :
    MayEdit thread authorAccountId version deletedAt input := by
  obtain ⟨hactor, hlive, hthread, hversion⟩ := checkContentMutation_allowed (refusal_none h)
  subst hcheck
  simp only [reduceCtorEq, false_and, or_false, Option.isSome_eq_false_iff,
    Option.isNone_iff_eq_none, forall_const] at *
  exact ⟨hactor, hlive, hversion, hthread.1, hthread.2⟩

theorem mayDelete_of_check {thread : PageCommentThread} {authorAccountId : JsString} {version : ℕ}
    {deletedAt : Option ℤ} {input : DeleteInput} {check : ContentMutationCheck}
    (hcheck : check = ⟨.delete, input.actor.accountId, input.actorCanManageProject,
      ⟨authorAccountId, version, deletedAt.isSome⟩, ⟨thread.status, thread.deletedAt.isSome⟩,
      input.expectedVersion⟩)
    (h : ReviewRepository.refusal (checkContentMutation check) = none) :
    MayDelete authorAccountId version deletedAt input := by
  obtain ⟨hactor, hlive, -, hversion⟩ := checkContentMutation_allowed (refusal_none h)
  subst hcheck
  simp only [true_and, Option.isSome_eq_false_iff, Option.isNone_iff_eq_none] at *
  exact ⟨hactor, hlive, hversion⟩

theorem bindTunnel_effect (r : ReviewRepository) (input : BindTunnelInput) :
    Effect r (.bindTunnel input) (r.bindTunnel backend input) := by
  cases backend with
  | inMemory =>
    unfold ReviewRepository.bindTunnel ReviewRepository.bindInMemory
    dsimp only
    split
    · split_ifs
      · exact .refused _ _ rfl ⟨rfl, rfl, rfl, rfl⟩
      · exact .refused _ _ rfl ⟨rfl, rfl, rfl, rfl⟩
    · exact .refused _ _ rfl ⟨rfl, rfl, rfl, rfl⟩
  | postgres database =>
    unfold ReviewRepository.bindTunnel ReviewRepository.bindPostgres
    dsimp only
    split
    · exact .refused _ _ rfl (.refl r)
    · split
      · split_ifs
        · exact .refused _ _ rfl ⟨rfl, rfl, rfl, rfl⟩
        · exact .refused _ _ rfl (.refl r)
      · exact .refused _ _ rfl ⟨rfl, rfl, rfl, rfl⟩

theorem createPageComment_effect (r : ReviewRepository) (command : CommentCommand) :
    Effect r (.createPageComment command) (perform backend r (.createPageComment command)) := by
  unfold perform ReviewRepository.createPageComment
  dsimp only
  split
  · exact .refused _ _ rfl (.refl r)
  · split
    · exact .refused _ _ rfl (.refl r)
    · split
      · exact .refused _ _ rfl (.refl r)
      · rename_i hfree
        obtain ⟨pinNumber, hpinned⟩ := pinned_eq
          (r.setUsername backend command.content.author.accountId command.actorUsername)
          (newThread command.content command.revisionId command.routePath command.anchor) rfl
        have hthread : (newThread command.content command.revisionId command.routePath
          command.anchor).author.accountId = command.content.author.accountId := rfl
        rw [hthread, hpinned]
        refine .wrote _ _ _ (.created command pinNumber (Option.not_isSome_iff_eq_none.1 hfree)) ?_
        refine .trans ?_ (syncMentions_announces _ rfl)
        refine .trans ?_ (recordEvent_announces ..)
        refine Announces.writes ?_ (setThread_writes ..)
        exact (setUsername_announces ..).trans (pinned_announces ..)

theorem createReply_effect (r : ReviewRepository) (command : ReplyCommand) :
    Effect r (.createReply command) (perform backend r (.createReply command)) := by
  unfold perform ReviewRepository.createReply
  dsimp only
  split
  · exact .refused _ _ rfl (.refl r)
  · split
    · exact .refused _ _ rfl (.refl r)
    · rename_i thread hfound
      split
      · exact .refused _ _ rfl (.refl r)
      · rename_i hconflict
        split
        · exact .refused _ _ rfl (.refl r)
        · have hopen : thread.status ≠ .resolved ∧ thread.deletedAt = none := by
            simpa [not_or] using hconflict
          refine .wrote _ _ _ (.replied command thread (findBoundThread_some hfound) hopen.1 hopen.2) ?_
          refine .trans ?_ (foldl_announces (fun r recipient =>
            notifyReply_announces r thread _ recipient) _ _)
          refine .trans ?_ (syncMentions_announces _ rfl)
          refine .trans ?_ (recordEvent_announces ..)
          exact Announces.writes (setUsername_announces ..) (setThread_writes ..)

theorem changePageCommentStatus_effect (r : ReviewRepository) (input : ChangeStatusInput) :
    Effect r (.changePageCommentStatus input)
      (perform backend r (.changePageCommentStatus input)) := by
  unfold perform normalizeThreadStatusTransition
  dsimp only
  split
  · exact .refused _ _ rfl (.refl r)
  · rename_i hsame
    split at hsame
    · cases hsame
    · rename_i hmoves
      simp only [Except.ok.injEq, Prod.mk.injEq] at hsame
      obtain ⟨rfl, rfl⟩ := hsame
      unfold ReviewRepository.changePageCommentStatus
      dsimp only
      split
      · exact .refused _ _ rfl (.refl r)
      · split
        · exact .refused _ _ rfl (.refl r)
        · rename_i thread hfound
          split
          · exact .refused _ _ rfl (.refl r)
          · rename_i hcurrent
            split
            · exact .refused _ _ rfl (.refl r)
            · rename_i hactor
              split
              · exact .refused _ _ rfl (.refl r)
              · have hmay : MayChangeStatus thread input := by
                  simp only [not_or, not_not] at hcurrent
                  refine ⟨?_, hcurrent.1 ▸ hmoves, hcurrent.2.1, hcurrent.2.2⟩
                  by_cases hmanager : input.actorCanManageProject = true
                  · exact .inl hmanager
                  · simp only [hmanager, true_and, not_not] at hactor
                    exact .inr ⟨hactor.1, hactor.2.1⟩
                refine .wrote _ _ _ (.statusChanged input thread (findBoundThread_some hfound) hmay) ?_
                have hid : (ReviewRepository.changedThread thread input).id = thread.id := by
                  unfold ReviewRepository.changedThread
                  dsimp only
                  split_ifs <;> rfl
                refine .trans ?_ (hid ▸ notifyWorkflow_announces _ thread input)
                refine .trans ?_ (markRequestRead_announces ..)
                refine .trans ?_ (recordEvent_announces ..)
                exact setThread_writes ..

theorem updateComment_effect (r : ReviewRepository) (input : UpdateInput) :
    Effect r (.updateComment input) (r.updateComment backend input) := by
  unfold ReviewRepository.updateComment
  dsimp only
  split
  · exact .refused _ _ rfl (.refl r)
  · split
    · exact .refused _ _ rfl (.refl r)
    · rename_i thread hfound
      split
      · rename_i result hrefused
        exact .refused _ _ (refusal_failed hrefused) (.refl r)
      · rename_i hallowed
        have hmay := mayEdit_of_check rfl hallowed
        refine .wrote _ _ _ (.commentUpdated input thread (findBoundThread_some hfound) hmay) ?_
        refine .trans ?_ (syncMentions_announces _ rfl)
        refine .trans ?_ (recordEvent_announces ..)
        exact .trans (setThread_writes ..) (setUsername_announces ..)

theorem deleteComment_effect (r : ReviewRepository) (input : DeleteInput) :
    Effect r (.deleteComment input) (r.deleteComment backend input) := by
  unfold ReviewRepository.deleteComment
  dsimp only
  split
  · exact .refused _ _ rfl (.refl r)
  · split
    · exact .refused _ _ rfl (.refl r)
    · rename_i thread hfound
      split
      · rename_i result hrefused
        exact .refused _ _ (refusal_failed hrefused) (.refl r)
      · rename_i hallowed
        have hmay := mayDelete_of_check rfl hallowed
        refine .wrote _ _ _ (.commentDeleted input thread (findBoundThread_some hfound) hmay) ?_
        refine .trans ?_ (recordEvent_announces ..)
        exact .trans (setThread_writes ..) (deleteMentions_announces ..)

theorem missingThread_failed (backend : ReviewBackend) :
    (ReviewRepository.missingThread backend).isSuccess = false := by
  cases backend <;> rfl

theorem updateReply_effect (r : ReviewRepository) (replyId : JsString) (input : UpdateInput) :
    Effect r (.updateReply replyId input) (r.updateReply backend replyId input) := by
  unfold ReviewRepository.updateReply
  dsimp only
  split
  · exact .refused _ _ rfl (.refl r)
  · split
    · exact .refused _ _ (missingThread_failed backend) (.refl r)
    · rename_i thread hfound
      split
      · exact .refused _ _ rfl (.refl r)
      · rename_i reply hreply
        split
        · rename_i result hrefused
          exact .refused _ _ (refusal_failed hrefused) (.refl r)
        · rename_i hallowed
          have hmay := mayEdit_of_check rfl hallowed
          refine .wrote _ _ _
            (.replyUpdated replyId input thread reply (findBoundThread_some hfound) hreply hmay) ?_
          refine .trans ?_ (syncMentions_announces _ rfl)
          refine .trans ?_ (recordEvent_announces ..)
          exact .trans (setThread_writes ..) (setUsername_announces ..)

theorem deleteReply_effect (r : ReviewRepository) (replyId : JsString) (input : DeleteInput) :
    Effect r (.deleteReply replyId input) (r.deleteReply backend replyId input) := by
  unfold ReviewRepository.deleteReply
  dsimp only
  split
  · exact .refused _ _ rfl (.refl r)
  · split
    · exact .refused _ _ (missingThread_failed backend) (.refl r)
    · rename_i thread hfound
      split
      · exact .refused _ _ rfl (.refl r)
      · rename_i reply hreply
        split
        · rename_i result hrefused
          exact .refused _ _ (refusal_failed hrefused) (.refl r)
        · rename_i hallowed
          have hmay := mayDelete_of_check rfl hallowed
          refine .wrote _ _ _
            (.replyDeleted replyId input thread reply (findBoundThread_some hfound) hreply hmay) ?_
          refine .trans ?_ (recordEvent_announces ..)
          exact .trans (setThread_writes ..) (deleteMentions_announces ..)

/-- The thread of a notification is there, so its reading never fails half-way. -/
theorem setNotificationRead_effect (hnotified : Notified r) (input : SetNotificationReadInput) :
    Effect r (.setNotificationRead input) (r.setNotificationRead backend input) := by
  unfold ReviewRepository.setNotificationRead
  dsimp only
  split
  · exact .refused _ _ rfl (.refl r)
  · split
    · exact .refused _ _ rfl (.refl r)
    · split
      · exact .refused _ _ rfl (.refl r)
      · rename_i current hcurrent
        have hfound : (r.findThread current.threadId).isSome :=
          hnotified current (List.mem_of_find?_eq_some hcurrent)
        split
        · rename_i hmissing
          rw [hmissing] at hfound
          cases hfound
        · refine .read input _ _ rfl current.threadId hfound ?_
          refine .trans ?_ (recordEvent_announces ..)
          refine ⟨rfl, fun notice hnotice => ?_⟩
          obtain ⟨old, hold, rfl⟩ := List.mem_map.1 hnotice
          by_cases hread : old.id = current.id
          · rw [if_pos hread]
            exact .inl rfl
          · rw [if_neg hread]
            exact .inr ⟨old, hold, rfl⟩

theorem perform_effect (hnotified : Notified r) (command : ReviewCommand) :
    Effect r command (perform backend r command) := by
  cases command with
  | bindTunnel input => exact bindTunnel_effect r input
  | removeTunnelBinding tunnelId sessionId => exact .refused _ _ rfl ⟨rfl, rfl, rfl, rfl⟩
  | createPageComment command => exact createPageComment_effect r command
  | createReply command => exact createReply_effect r command
  | changePageCommentStatus input => exact changePageCommentStatus_effect r input
  | updateComment input => exact updateComment_effect r input
  | deleteComment input => exact deleteComment_effect r input
  | updateReply replyId input => exact updateReply_effect r replyId input
  | deleteReply replyId input => exact deleteReply_effect r replyId input
  | setNotificationRead input => exact setNotificationRead_effect hnotified input
  | accountsChanged accounts => exact .refused _ _ rfl ⟨rfl, rfl, rfl, rfl⟩

end Operations

end Lotur.Review
