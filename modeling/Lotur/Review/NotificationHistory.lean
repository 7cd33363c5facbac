import Lotur.Library.InsertionOrder
import Lotur.Review.Content
import Lotur.Review.Deliveries
import Lotur.Review.NotificationKeys
import Lotur.Review.Workflow

/-! Who is to be notified of what, told from the history of a review repository, and the
notifications each operation creates. -/
namespace Lotur.Review
open JsString

section Participants

/-- The owner of the project and the authors of the threads and replies of the revision. -/
def TakesPart (r : ReviewRepository) (revisionId accountId : JsString) : Prop :=
  (∃ revision project, Auth.Table.get ReviewRevision.id r.revisions revisionId = some revision ∧
    Auth.Table.get ReviewProject.id r.projects revision.projectId = some project ∧
    project.ownerAccountId = accountId) ∨
  ∃ thread ∈ r.threads, thread.revisionId = revisionId ∧
    (thread.author.accountId = accountId ∨
      ∃ reply ∈ thread.replies, reply.author.accountId = accountId)

/-- The database tells only those who may read what they are told of. -/
def IsReader (backend : ReviewBackend) (r : ReviewRepository) (accountId : JsString) : Prop :=
  ∀ database, backend = .postgres database →
    ∃ account, Auth.Table.get Auth.Account.id r.accounts accountId = some account ∧
      ReviewRepository.isReachable account = true

/-- The name the repository knows the account by. -/
def usernameOf (backend : ReviewBackend) (r : ReviewRepository) (accountId : JsString) : JsString :=
  match backend with
  | .inMemory => r.usernameOf accountId
  | .postgres _ =>
    ((Auth.Table.get Auth.Account.id r.accounts accountId).map Auth.Account.username).getD []

/-- A version of an item and the names its text mentions. -/
structure MentionWrite where
  contentType : ReviewMentionContentType
  contentId : JsString
  revisionId : JsString
  mentionUsernames : List JsString
  actorAccountId : JsString

/-- Someone else who takes part in the revision is mentioned. -/
structure Mentions (backend : ReviewBackend) (r : ReviewRepository) (write : MentionWrite)
    (accountId : JsString) : Prop where
  other : accountId ≠ write.actorAccountId
  takesPart : TakesPart r write.revisionId accountId
  named : usernameOf backend r accountId ∈ write.mentionUsernames
  reader : IsReader backend r accountId

theorem mem_participants {r : ReviewRepository} {revisionId accountId : JsString} :
    accountId ∈ r.participants revisionId ↔ TakesPart r revisionId accountId := by
  unfold ReviewRepository.participants TakesPart
  simp only [List.mem_eraseDups, List.mem_append, Option.mem_toList, Option.map_eq_some_iff,
    Option.bind_eq_some_iff, List.mem_flatMap, List.mem_filter, decide_eq_true_eq, List.mem_cons,
    List.mem_map]
  refine or_congr ⟨?_, ?_⟩ ⟨?_, ?_⟩
  · rintro ⟨project, ⟨revision, hrevision, hproject⟩, howner⟩
    exact ⟨revision, project, hrevision, hproject, howner⟩
  · rintro ⟨revision, project, hrevision, hproject, howner⟩
    exact ⟨project, ⟨revision, hrevision, hproject⟩, howner⟩
  · rintro ⟨thread, ⟨hthread, hrevision⟩, hauthor | hreply⟩
    · exact ⟨thread, hthread, hrevision, .inl hauthor.symm⟩
    · exact ⟨thread, hthread, hrevision, .inr hreply⟩
  · rintro ⟨thread, hthread, hrevision, hauthor | hreply⟩
    · exact ⟨thread, ⟨hthread, hrevision⟩, .inl hauthor.symm⟩
    · exact ⟨thread, ⟨hthread, hrevision⟩, .inr hreply⟩

variable {backend : ReviewBackend} {r r' : ReviewRepository}

theorem mem_eligible (write : MentionWrite) {accountId : JsString} :
    accountId ∈ r.eligible backend write.revisionId write.mentionUsernames write.actorAccountId ↔
      Mentions backend r write accountId := by
  cases backend with
  | inMemory =>
    simp only [ReviewRepository.eligible, List.mem_filter, mem_participants, decide_eq_true_eq]
    constructor
    · rintro ⟨htakes, hother, hnamed⟩
      exact ⟨hother, htakes, hnamed, nofun⟩
    · rintro ⟨hother, htakes, hnamed, -⟩
      exact ⟨htakes, hother, hnamed⟩
  | postgres database =>
    simp only [ReviewRepository.eligible, (database.arranges_perm _).mem_iff, List.mem_filter,
      mem_participants, decide_eq_true_eq, Option.any_eq_true, Bool.and_eq_true]
    constructor
    · rintro ⟨htakes, hother, account, haccount, hnamed, hreachable⟩
      refine ⟨hother, htakes, ?_, fun _ _ => ⟨account, haccount, hreachable⟩⟩
      simpa only [usernameOf, haccount, Option.map_some, Option.getD_some] using hnamed
    · rintro ⟨hother, htakes, hnamed, hreader⟩
      obtain ⟨account, haccount, hreachable⟩ := hreader database rfl
      refine ⟨htakes, hother, account, haccount, ?_, hreachable⟩
      simpa only [usernameOf, haccount, Option.map_some, Option.getD_some] using hnamed

theorem eligible_nodup (revisionId : JsString) (mentionUsernames : List JsString)
    (actorAccountId : JsString) :
    (r.eligible backend revisionId mentionUsernames actorAccountId).Nodup := by
  have hparticipants : (r.participants revisionId).Nodup := List.nodup_eraseDups _
  cases backend with
  | inMemory => exact hparticipants.filter _
  | postgres database => exact (database.arranges_perm _).nodup_iff.2 (hparticipants.filter _)

/-- Who is mentioned depends on the content and the names only. -/
theorem mentions_congr (r r' : ReviewRepository) (hthreads : r'.threads = r.threads)
    (hrevisions : r'.revisions = r.revisions) (hprojects : r'.projects = r.projects)
    (husernames : r'.accountUsernames = r.accountUsernames)
    (haccounts : r'.accounts = r.accounts) (write : MentionWrite) (accountId : JsString) :
    Mentions backend r' write accountId ↔ Mentions backend r write accountId := by
  have heligible : r'.eligible backend write.revisionId write.mentionUsernames
      write.actorAccountId = r.eligible backend write.revisionId write.mentionUsernames
        write.actorAccountId := by
    unfold ReviewRepository.eligible ReviewRepository.participants ReviewRepository.usernameOf
    rw [hthreads, hrevisions, hprojects, husernames, haccounts]
  rw [← mem_eligible, heligible, mem_eligible]

end Participants

section Mention
variable {backend : ReviewBackend} (r : ReviewRepository) (input : ReviewRepository.MentionSync)

def ReviewRepository.MentionSync.write : MentionWrite :=
  ⟨input.contentType, input.contentId, input.thread.revisionId, input.mentionUsernames,
    input.actor.accountId⟩

/-- The recipients of the item's last mentions. -/
def previousRecipients (contentType : ReviewMentionContentType) (contentId : JsString) :
    List JsString :=
  ((r.mentions.find? (ReviewRepository.isMentionOf contentType contentId)).map
    MentionSet.recipients).getD []

/-- What `syncMentions` tells a recipient. -/
def mentionNotice (backend : ReviewBackend) (recipientAccountId : JsString) :
    ReviewNotification where
  id := 0
  revisionId := input.thread.revisionId
  routePath := input.thread.routePath
  threadId := input.thread.id
  contentType := input.contentType
  contentId := input.contentId
  reason := match backend with
    | .inMemory => none
    | .postgres _ => some .mention
  sourceKey := match backend with
    | .inMemory => none
    | .postgres _ => some (mentionKey input.contentType input.contentId input.contentVersion)
  workflowVersion := none
  recipientAccountId := recipientAccountId
  actor := input.actor
  readAt := none
  createdAt := input.occurredAt

theorem notifyMention_eq (previous : List JsString) (recipient : JsString) :
    r.notifyMention backend input previous recipient = if recipient ∈ previous then r
      else insertAndRecord backend input.thread (mentionNotice input backend recipient) r := by
  cases backend <;> rfl

variable {r input}

/-- Everyone who is mentioned and was not mentioned before is told, once. -/
theorem syncMentions_delivered (hfree : ∀ recipient,
      IsFree backend r (mentionNotice input backend recipient).sourceKey recipient) :
    ∃ created recorded recipients, Delivered backend created recorded r
        (r.syncMentions backend input) ∧
      Announced created recorded ∧
      SameContent { r with mentions := (r.mentions.filter fun set =>
          !ReviewRepository.isMentionOf input.contentType input.contentId set) ++
        [⟨input.contentType, input.contentId, recipients⟩] } (r.syncMentions backend input) ∧
      recipients.Nodup ∧
      (∀ accountId, accountId ∈ recipients ↔ Mentions backend r input.write accountId) ∧
      created.map ReviewNotification.unnumbered = (recipients.filter fun recipient =>
        !decide (recipient ∈ previousRecipients r input.contentType input.contentId)).map
          (mentionNotice input backend) := by
  let recipients := r.eligible backend input.thread.revisionId input.mentionUsernames
    input.actor.accountId
  let previous := previousRecipients r input.contentType input.contentId
  let stored : ReviewRepository := { r with mentions := (r.mentions.filter fun set =>
      !ReviewRepository.isMentionOf input.contentType input.contentId set) ++
    [⟨input.contentType, input.contentId, recipients⟩] }
  have hnodup : recipients.Nodup := eligible_nodup ..
  obtain ⟨created, recorded, hdelivered, hannounced, hsame, hcreated⟩ :=
    foldl_delivered (fun r recipient => r.notifyMention backend input previous recipient)
      (fun recipient => decide (recipient ∈ previous)) (mentionNotice input backend)
      (fun r recipient =>
        IsFree backend r (mentionNotice input backend recipient).sourceKey recipient)
      (fun r recipient _ hskip => by
        rw [notifyMention_eq, if_pos (of_decide_eq_true hskip)])
      (fun r recipient hready hsend => by
        rw [notifyMention_eq, if_neg (of_decide_eq_false hsend)]
        exact insertAndRecord_delivered input.thread _ ⟨rfl, rfl, rfl⟩ hready)
      (fun r recipient other hne hready hother => by
        rw [notifyMention_eq]
        split_ifs
        · exact hother
        · obtain ⟨event, hdelivered, -, -⟩ :=
            insertAndRecord_delivered input.thread _ ⟨rfl, rfl, rfl⟩ hready
          refine hother.delivered hdelivered fun notification hnew heq => hne ?_
          rw [List.mem_singleton.1 hnew] at heq
          exact heq.1.symm)
      hnodup stored (fun recipient _ => hfree recipient)
  have hstored : Delivered backend [] [] r stored := .of_eq rfl rfl rfl rfl
  have hmentions : ∀ accountId, accountId ∈ recipients ↔ Mentions backend r input.write accountId :=
    fun _ => mem_eligible input.write
  exact ⟨created, recorded, recipients, hstored.trans hdelivered, hannounced, hsame, hnodup,
    hmentions, hcreated⟩

end Mention

section Reply
variable {backend : ReviewBackend} (r : ReviewRepository) (thread : PageCommentThread)
  (reply : ReviewReply)

/-- What `notifyReply` tells a participant of the thread. -/
def replyNotice (recipientAccountId : JsString) : ReviewNotification where
  id := 0
  revisionId := thread.revisionId
  routePath := thread.routePath
  threadId := thread.id
  contentType := .reply
  contentId := reply.id
  reason := some .reply
  sourceKey := some (replyKey reply.id)
  workflowVersion := none
  recipientAccountId := recipientAccountId
  actor := reply.author
  readAt := none
  createdAt := reply.createdAt

/-- The authors of the thread and of its replies. -/
def TookPart (thread : PageCommentThread) (accountId : JsString) : Prop :=
  thread.author.accountId = accountId ∨ ∃ reply ∈ thread.replies, reply.author.accountId = accountId

theorem mem_replyRecipients {accountId : JsString} :
    accountId ∈ r.replyRecipients backend thread ↔
      TookPart thread accountId ∧ IsReader backend r accountId := by
  unfold ReviewRepository.replyRecipients TookPart
  cases backend with
  | inMemory =>
    simp only [List.mem_eraseDups, List.mem_cons, List.mem_map]
    constructor
    · rintro (hauthor | hreply)
      · exact ⟨.inl hauthor.symm, nofun⟩
      · exact ⟨.inr hreply, nofun⟩
    · rintro ⟨hauthor | hreply, -⟩
      · exact .inl hauthor.symm
      · exact .inr hreply
  | postgres database =>
    simp only [(database.arranges_perm _).mem_iff, List.mem_filter, List.mem_eraseDups,
      List.mem_cons, List.mem_map, Option.any_eq_true]
    constructor
    · rintro ⟨hauthor | hreply, hreader⟩
      · exact ⟨.inl hauthor.symm, fun _ _ => hreader⟩
      · exact ⟨.inr hreply, fun _ _ => hreader⟩
    · rintro ⟨hauthor | hreply, hreader⟩
      · exact ⟨.inl hauthor.symm, hreader database rfl⟩
      · exact ⟨.inr hreply, hreader database rfl⟩

theorem replyRecipients_nodup : (r.replyRecipients backend thread).Nodup := by
  unfold ReviewRepository.replyRecipients
  cases backend with
  | inMemory => exact List.nodup_eraseDups _
  | postgres database =>
    exact (database.arranges_perm _).nodup_iff.2 ((List.nodup_eraseDups _).filter _)

variable {r thread reply}

theorem notifyReply_eq {recipient : JsString} (hfree : IsFree backend r (some (replyKey reply.id))
    recipient) : r.notifyReply backend thread reply recipient =
      if recipient = reply.author.accountId ∨ r.isNotified backend reply recipient = true then r
      else insertAndRecord backend thread (replyNotice thread reply recipient) r := by
  unfold ReviewRepository.notifyReply
  split_ifs
  · rfl
  · have hinserted := insertNotification_eq
      (show IsFree backend r (replyNotice thread reply recipient).sourceKey
        (replyNotice thread reply recipient).recipientAccountId from hfree)
    have hcond : (r.insertNotification backend (replyNotice thread reply recipient)).1 = true := by
      rw [hinserted]
    exact if_pos hcond

/-- A notification for one recipient tells no one else. -/
theorem isNotified_insertAndRecord {recipient other : JsString} (hne : other ≠ recipient)
    (hfree : IsFree backend r (some (replyKey reply.id)) recipient) :
    (insertAndRecord backend thread (replyNotice thread reply recipient) r).isNotified backend reply
      other = r.isNotified backend reply other := by
  obtain ⟨event, hdelivered, -, -⟩ :=
    insertAndRecord_delivered thread (replyNotice thread reply recipient) ⟨rfl, rfl, rfl⟩ hfree
  unfold ReviewRepository.isNotified
  rw [hdelivered.notifications, List.any_append]
  simp [replyNotice, hne.symm]

/-- Every author of the thread but the one who replies is told, unless a mention told them. -/
theorem notifyReplies_delivered (heard : JsString → Bool)
    (hheard : ∀ recipient, r.isNotified backend reply recipient = heard recipient)
    (hfree : ∀ recipient, IsFree backend r (some (replyKey reply.id)) recipient) :
    ∃ created recorded, Delivered backend created recorded r
        ((r.replyRecipients backend thread).foldl (fun r recipient =>
          r.notifyReply backend thread reply recipient) r) ∧
      Announced created recorded ∧
      SameContent r ((r.replyRecipients backend thread).foldl (fun r recipient =>
        r.notifyReply backend thread reply recipient) r) ∧
      created.map ReviewNotification.unnumbered = ((r.replyRecipients backend thread).filter
        fun recipient => !(decide (recipient = reply.author.accountId) || heard recipient)).map
          (replyNotice thread reply) := by
  refine foldl_delivered (fun r recipient => r.notifyReply backend thread reply recipient)
    (fun recipient => decide (recipient = reply.author.accountId) || heard recipient)
    (replyNotice thread reply)
    (fun r recipient => r.isNotified backend reply recipient = heard recipient ∧
      IsFree backend r (some (replyKey reply.id)) recipient)
    ?_ ?_ ?_ (replyRecipients_nodup r thread) r (fun recipient _ => ⟨hheard recipient, hfree recipient⟩)
  · rintro r recipient ⟨hnotified, hready⟩ hskip
    rw [notifyReply_eq hready, hnotified, if_pos]
    simpa using hskip
  · rintro r recipient ⟨hnotified, hready⟩ hsend
    rw [notifyReply_eq hready, hnotified, if_neg]
    · exact insertAndRecord_delivered thread _ ⟨rfl, rfl, rfl⟩ hready
    · simpa using hsend
  · rintro r recipient other hne ⟨-, hready⟩ ⟨hnotified, hother⟩
    rw [notifyReply_eq hready]
    split_ifs
    · exact ⟨hnotified, hother⟩
    · rw [isNotified_insertAndRecord hne hready]
      obtain ⟨event, hdelivered, -, -⟩ := insertAndRecord_delivered thread
        (replyNotice thread reply recipient) ⟨rfl, rfl, rfl⟩ hready
      refine ⟨hnotified, hother.delivered hdelivered fun notification hnew heq => hne ?_⟩
      rw [List.mem_singleton.1 hnew] at heq
      exact heq.1.symm

end Reply

section Move
variable {backend : ReviewBackend} {r : ReviewRepository}

/-- What `notifyWorkflow` tells the author of a thread, or the one who asked for its review. -/
def workflowNotice (thread : PageCommentThread) (input : ChangeStatusInput)
    (recipientAccountId : JsString) : ReviewNotification where
  id := 0
  revisionId := thread.revisionId
  routePath := thread.routePath
  threadId := thread.id
  contentType := .comment
  contentId := thread.id
  reason := some (if input.status = .needsReview then .workflowRequest else .workflowResult)
  sourceKey := some (workflowKey thread.id (thread.workflowVersion.getD 1 + 1))
  workflowVersion := some (if input.status = .needsReview then thread.workflowVersion.getD 1 + 1
    else ((ReviewRepository.lastRequest thread).map WorkflowEntry.version).getD
      (thread.workflowVersion.getD 1 + 1))
  recipientAccountId := recipientAccountId
  actor := input.actor
  readAt := none
  createdAt := input.changedAt

theorem isReached_iff {accountId : JsString} :
    r.isReached backend accountId = true ↔ IsReader backend r accountId := by
  cases backend with
  | inMemory => exact ⟨fun _ => nofun, fun _ => rfl⟩
  | postgres database =>
    simp only [ReviewRepository.isReached, Option.any_eq_true]
    exact ⟨fun hreader _ _ => hreader, fun hreader => hreader database rfl⟩

variable {thread : PageCommentThread} {input : ChangeStatusInput}

/-- Whether there is someone to tell of the change. -/
theorem notifyWorkflow_eq (hfree : ∀ recipient, IsFree backend r
      (some (workflowKey thread.id (thread.workflowVersion.getD 1 + 1))) recipient) :
    r.notifyWorkflow backend thread input =
      match (ReviewRepository.workflowRecipient thread input).filter fun recipient =>
        decide (recipient ≠ input.actor.accountId) && r.isReached backend recipient with
      | none => r
      | some recipient => insertAndRecord backend thread (workflowNotice thread input recipient) r := by
  unfold ReviewRepository.notifyWorkflow
  cases hrecipient : ReviewRepository.workflowRecipient thread input with
  | none => rfl
  | some recipient =>
    by_cases hskip : recipient = input.actor.accountId ∨ r.isReached backend recipient = false
    · have hnone : (some recipient).filter (fun recipient =>
          decide (recipient ≠ input.actor.accountId) && r.isReached backend recipient) = none := by
        rw [Option.filter_eq_none_iff]
        rintro other ⟨⟩
        rcases hskip with hself | hunreached
        · simp [hself]
        · simp [hunreached]
      rw [hnone]
      exact if_pos hskip
    · have hsome : (some recipient).filter (fun recipient =>
          decide (recipient ≠ input.actor.accountId) && r.isReached backend recipient) =
          some recipient := by
        rw [Option.filter_eq_some_iff]
        simpa [not_or] using hskip
      rw [hsome]
      have hinserted := insertNotification_eq
        (show IsFree backend r (workflowNotice thread input recipient).sourceKey
          (workflowNotice thread input recipient).recipientAccountId from hfree recipient)
      have hcond : (r.insertNotification backend (workflowNotice thread input recipient)).1 = true := by
        rw [hinserted]
      exact (if_neg hskip).trans (if_pos hcond)

theorem notifyWorkflow_delivered (hfree : ∀ recipient, IsFree backend r
      (some (workflowKey thread.id (thread.workflowVersion.getD 1 + 1))) recipient) :
    ∃ created recorded, Delivered backend created recorded r
        (r.notifyWorkflow backend thread input) ∧
      Announced created recorded ∧ SameContent r (r.notifyWorkflow backend thread input) ∧
      created.map ReviewNotification.unnumbered =
        ((ReviewRepository.workflowRecipient thread input).filter fun recipient =>
          decide (recipient ≠ input.actor.accountId) &&
            r.isReached backend recipient).toList.map (workflowNotice thread input) := by
  rw [notifyWorkflow_eq hfree]
  split
  · next hnone =>
    rw [hnone]
    exact ⟨[], [], .refl backend r, rfl, .refl r, rfl⟩
  · next recipient hsome =>
    rw [hsome]
    obtain ⟨event, hdelivered, hannounced, hsame⟩ := insertAndRecord_delivered thread
      (workflowNotice thread input recipient) ⟨rfl, rfl, rfl⟩ (hfree recipient)
    exact ⟨_, _, hdelivered, hannounced, hsame, rfl⟩

end Move

end Lotur.Review
