import Lotur.Review.NotificationInvariant

/-! What each command tells, and to whom. -/
namespace Lotur.Review
open JsString

section Commands
variable {backend : ReviewBackend} {s : Chronicle} (r : ReviewRepository)

/-- A command and what came of it. -/
def performed (backend : ReviewBackend) (r : ReviewRepository) (command : ReviewCommand) : Record :=
  ⟨command, (perform backend r command).1, (perform backend r command).2⟩

theorem setUsername_delivered (accountId username : JsString) :
    Delivered backend [] [] r (r.setUsername backend accountId username) := by
  cases backend <;> exact .of_eq rfl rfl rfl rfl

theorem setUsername_mentions (accountId username : JsString) :
    (r.setUsername backend accountId username).mentions = r.mentions := by
  cases backend <;> rfl

theorem setUsername_threads (accountId username : JsString) :
    (r.setUsername backend accountId username).threads = r.threads := by
  cases backend <;> rfl

theorem pinned_delivered (thread : PageCommentThread) :
    Delivered backend [] [] r (r.pinned thread).2 := by
  unfold ReviewRepository.pinned
  split
  · exact .refl backend r
  · exact .of_eq rfl rfl rfl rfl

theorem pinned_mentions (thread : PageCommentThread) : (r.pinned thread).2.mentions = r.mentions := by
  unfold ReviewRepository.pinned
  split <;> rfl

theorem setThread_delivered (thread : PageCommentThread) :
    Delivered backend [] [] r (r.setThread thread) := .of_eq rfl rfl rfl rfl

theorem recordEvent_mentions (type : ReviewEventType) (thread : PageCommentThread)
    (actor : ReviewIdentity) (occurredAt : ℤ) (recipient : Option JsString) :
    (r.recordEvent backend type thread actor occurredAt recipient).mentions = r.mentions :=
  (recordEvent_same r type thread actor occurredAt recipient).mentions

theorem recordEvent_threads (type : ReviewEventType) (thread : PageCommentThread)
    (actor : ReviewIdentity) (occurredAt : ℤ) (recipient : Option JsString) :
    (r.recordEvent backend type thread actor occurredAt recipient).threads = r.threads :=
  (recordEvent_same r type thread actor occurredAt recipient).threads

variable {r}

/-- The scope of a bound thread. -/
theorem findBoundThread_scope {access : ReviewAccess} {threadId revisionId routePath : JsString}
    {thread : PageCommentThread}
    (h : r.findBoundThread access threadId revisionId routePath = some thread) :
    thread.revisionId = revisionId ∧ thread.routePath = routePath := by
  unfold ReviewRepository.findBoundThread at h
  split_ifs at h
  exact of_decide_eq_true (Option.filter_eq_some_iff.1 h).2

theorem NotifyKept.createPageComment (h : NotifyKept backend s) (command : CommentCommand) :
    ∃ created recorded, Turn backend s.repository
        (performed backend s.repository (.createPageComment command)) created recorded ∧
      Recipients backend s.past s.repository
        (performed backend s.repository (.createPageComment command)) created := by
  unfold performed perform ReviewRepository.createPageComment
  dsimp only
  split
  · exact refused_turn s.past rfl (.refl ..) rfl
  · split
    · exact refused_turn s.past rfl (.refl ..) rfl
    · split
      · exact refused_turn s.past rfl (.refl ..) rfl
      · next hfree =>
        obtain ⟨pinNumber, hpinned⟩ := pinned_eq (s.repository.setUsername backend
          command.content.author.accountId command.actorUsername)
          (newThread command.content command.revisionId command.routePath command.anchor) rfl
        have hauthor : (newThread command.content command.revisionId command.routePath
          command.anchor).author.accountId = command.content.author.accountId := rfl
        rw [hauthor, hpinned]
        refine h.written_turn rfl rfl nofun nofun rfl ?_ ?_ ?_ ?_
        · exact ⟨_, (setUsername_delivered ..).trans ((pinned_delivered ..).trans
            ((setThread_delivered ..).trans (recordEvent_delivered ..))), rfl⟩
        · rw [recordEvent_mentions]
          exact (pinned_mentions ..).trans (setUsername_mentions ..)
        · rintro version ⟨thread, hthread, hid, -⟩
          exact absurd hid (Auth.Table.get_eq_none_iff.1 (Option.not_isSome_iff_eq_none.1 hfree)
            thread hthread)
        · refine ⟨{ newThread command.content command.revisionId command.routePath command.anchor
            with pinNumber }, ?_, rfl, le_rfl⟩
          rw [recordEvent_threads]
          exact Auth.Table.mem_set_self

theorem NotifyKept.updateComment (h : NotifyKept backend s) (input : UpdateInput) :
    ∃ created recorded, Turn backend s.repository
        (performed backend s.repository (.updateComment input)) created recorded ∧
      Recipients backend s.past s.repository
        (performed backend s.repository (.updateComment input)) created := by
  unfold performed perform ReviewRepository.updateComment
  dsimp only
  split
  · exact refused_turn s.past rfl (.refl ..) rfl
  · split
    · exact refused_turn s.past rfl (.refl ..) rfl
    · next thread hfound =>
      split
      · next result hrefused => exact refused_turn s.past (refusal_failed hrefused) (.refl ..) rfl
      · obtain ⟨hrevision, -⟩ := findBoundThread_scope hfound
        have hstored := findBoundThread_some hfound
        refine h.written_turn ?_ rfl nofun nofun rfl ?_ ?_ ?_ ?_
        · simp only [Record.write, ReviewRepository.MentionSync.write, hrevision]
        · exact ⟨_, (setThread_delivered ..).trans ((setUsername_delivered ..).trans
            (recordEvent_delivered ..)), rfl⟩
        · rw [recordEvent_mentions, setUsername_mentions]
          rfl
        · rintro version ⟨other, hother, hid, hversion⟩
          have hsame := h.keyed.findThread hother
          rw [hid, findThread_self hstored] at hsame
          rw [← Option.some.inj hsame] at hversion
          exact Nat.lt_succ_of_le hversion
        · refine ⟨editedThread thread input, ?_, rfl, le_rfl⟩
          rw [recordEvent_threads, setUsername_threads]
          exact Auth.Table.mem_set_self

/-- An id belongs to one reply of one thread. -/
theorem NotifyKept.reply_eq (h : NotifyKept backend s) {thread thread' : PageCommentThread}
    {reply reply' : ReviewReply} (hthread : thread ∈ s.repository.threads)
    (hreply : reply ∈ thread.replies) (hthread' : thread' ∈ s.repository.threads)
    (hreply' : reply' ∈ thread'.replies) (hid : reply'.id = reply.id) : reply' = reply := by
  have hthreadId := h.replies.across thread' hthread' reply' hreply' thread hthread reply hreply hid
  have hfound := h.keyed.findThread hthread'
  rw [hthreadId, h.keyed.findThread hthread] at hfound
  obtain rfl := Option.some.inj hfound
  have hown := Auth.Table.get_of_mem (h.replies.within thread hthread) hreply'
  rw [hid, Auth.Table.get_of_mem (h.replies.within thread hthread) hreply] at hown
  exact (Option.some.inj hown).symm

theorem mem_replaceReply {thread : PageCommentThread} {old reply : ReviewReply} (changedAt : ℤ)
    (hold : old ∈ thread.replies) (hid : old.id = reply.id) :
    reply ∈ (ReviewRepository.replaceReply thread reply changedAt).replies :=
  List.mem_map.2 ⟨old, hold, if_pos hid⟩

theorem NotifyKept.updateReply (h : NotifyKept backend s) (replyId : JsString) (input : UpdateInput) :
    ∃ created recorded, Turn backend s.repository
        (performed backend s.repository (.updateReply replyId input)) created recorded ∧
      Recipients backend s.past s.repository
        (performed backend s.repository (.updateReply replyId input)) created := by
  unfold performed perform ReviewRepository.updateReply
  dsimp only
  split
  · exact refused_turn s.past rfl (.refl ..) rfl
  · split
    · exact refused_turn s.past (missingThread_failed backend) (.refl ..) rfl
    · next thread hfound =>
      split
      · exact refused_turn s.past rfl (.refl ..) rfl
      · next reply hreply =>
        split
        · next result hrefused => exact refused_turn s.past (refusal_failed hrefused) (.refl ..) rfl
        · obtain ⟨hrevision, -⟩ := findBoundThread_scope hfound
          have hthread := (Auth.Table.get_some (findBoundThread_some hfound)).1
          have hmem := (Auth.Table.get_some hreply).1
          refine h.written_turn ?_ rfl nofun nofun rfl ?_ ?_ ?_ ?_
          · simp only [Record.write, ReviewRepository.MentionSync.write,
              ReviewRepository.replaceReply, hrevision]
          · exact ⟨_, (setThread_delivered ..).trans ((setUsername_delivered ..).trans
              (recordEvent_delivered ..)), rfl⟩
          · rw [recordEvent_mentions, setUsername_mentions]
            rfl
          · rintro version ⟨other, hother, reply', hreply', hid, hversion⟩
            rw [h.reply_eq hthread hmem hother hreply' hid] at hversion
            exact Nat.lt_succ_of_le hversion
          · refine ⟨ReviewRepository.replaceReply thread (editedReply reply input) input.changedAt,
              ?_, editedReply reply input, mem_replaceReply input.changedAt hmem rfl, rfl, le_rfl⟩
            rw [recordEvent_threads, setUsername_threads]
            exact Auth.Table.mem_set_self

/-- An item that is deleted takes its mentions with it. -/
theorem Turn.erased (contentType : ReviewMentionContentType) (contentId : JsString)
    {record : Record} {recorded : List ReviewEvent}
    (hwrite : record.write = none) (herased : record.erased = some (contentType, contentId))
    (hreads : record.reads s.repository = id)
    (hdelivered : Delivered backend [] recorded s.repository record.after)
    (hannounced : Announced [] recorded)
    (hmentions : record.after.mentions = s.repository.mentions.filter fun set =>
      !ReviewRepository.isMentionOf contentType contentId set) :
    Turn backend s.repository record [] recorded := by
  refine ⟨?_, hannounced, ?_, nofun⟩
  · rw [hreads, List.map_id]
    exact hdelivered
  · unfold MentionTable
    rw [hwrite]
    refine hmentions.trans (List.filter_congr fun set _ => ?_)
    rw [herased]
    unfold ReviewRepository.isMentionOf
    simp only [Option.some.injEq, Prod.mk.injEq, Bool.decide_and, eq_comm]

theorem deleteMentions_delivered (contentType : ReviewMentionContentType) (contentId : JsString) :
    Delivered backend [] [] r (r.deleteMentions contentType contentId) := .of_eq rfl rfl rfl rfl

theorem NotifyKept.deleteComment (input : DeleteInput) :
    ∃ created recorded, Turn backend s.repository
        (performed backend s.repository (.deleteComment input)) created recorded ∧
      Recipients backend s.past s.repository
        (performed backend s.repository (.deleteComment input)) created := by
  unfold performed perform ReviewRepository.deleteComment
  dsimp only
  split
  · exact refused_turn s.past rfl (.refl ..) rfl
  · split
    · exact refused_turn s.past rfl (.refl ..) rfl
    · next thread hfound =>
      split
      · next result hrefused => exact refused_turn s.past (refusal_failed hrefused) (.refl ..) rfl
      · refine ⟨[], _, .erased .comment thread.id rfl rfl rfl ((setThread_delivered ..).trans
          ((deleteMentions_delivered ..).trans (recordEvent_delivered ..))) rfl ?_,
          .silence rfl fun _ _ hmove => (by cases hmove)⟩
        exact recordEvent_mentions ..

theorem NotifyKept.deleteReply (replyId : JsString) (input : DeleteInput) :
    ∃ created recorded, Turn backend s.repository
        (performed backend s.repository (.deleteReply replyId input)) created recorded ∧
      Recipients backend s.past s.repository
        (performed backend s.repository (.deleteReply replyId input)) created := by
  unfold performed perform ReviewRepository.deleteReply
  dsimp only
  split
  · exact refused_turn s.past rfl (.refl ..) rfl
  · split
    · exact refused_turn s.past (missingThread_failed backend) (.refl ..) rfl
    · next thread hfound =>
      split
      · exact refused_turn s.past rfl (.refl ..) rfl
      · next reply hreply =>
        split
        · next result hrefused => exact refused_turn s.past (refusal_failed hrefused) (.refl ..) rfl
        · refine ⟨[], _, .erased .reply reply.id rfl rfl rfl ((setThread_delivered ..).trans
            ((deleteMentions_delivered ..).trans (recordEvent_delivered ..))) rfl ?_,
            .silence rfl fun _ _ hmove => (by cases hmove)⟩
          exact recordEvent_mentions ..

theorem NotifyKept.bindTunnel (input : BindTunnelInput) :
    ∃ created recorded, Turn backend s.repository
        (performed backend s.repository (.bindTunnel input)) created recorded ∧
      Recipients backend s.past s.repository
        (performed backend s.repository (.bindTunnel input)) created := by
  unfold performed perform ReviewRepository.bindTunnel
  cases backend with
  | inMemory =>
    unfold ReviewRepository.bindInMemory
    dsimp only
    split
    · split
      · exact refused_turn s.past rfl (.of_eq rfl rfl rfl rfl) rfl
      · exact refused_turn s.past rfl (.of_eq rfl rfl rfl rfl) rfl
    · exact refused_turn s.past rfl (.of_eq rfl rfl rfl rfl) rfl
  | postgres database =>
    unfold ReviewRepository.bindPostgres
    dsimp only
    split
    · exact refused_turn s.past rfl (.refl ..) rfl
    · split
      · split
        · exact refused_turn s.past rfl (.of_eq rfl rfl rfl rfl) rfl
        · exact refused_turn s.past rfl (.refl ..) rfl
      · exact refused_turn s.past rfl (.of_eq rfl rfl rfl rfl) rfl

end Commands

section Replies
variable {backend : ReviewBackend} {s : Chronicle} {thread : PageCommentThread}
  {reply : ReviewReply}

/-- No notification is about an item with the id of a new reply. -/
theorem NotifyKept.unheard (h : NotifyKept backend s) {replyId : JsString}
    (hcomment : ¬ Reaches s.repository .comment replyId 0)
    (hreply : ¬ Reaches s.repository .reply replyId 0) :
    ∀ notice ∈ s.repository.notifications, notice.contentId ≠ replyId := by
  rintro notice hnotice rfl
  have hstored := (h.sourced notice hnotice).stored
  cases htype : notice.contentType with
  | comment =>
    rw [htype] at hstored
    exact hcomment hstored
  | reply =>
    rw [htype] at hstored
    exact hreply hstored

/-- A new reply has mentioned no one. -/
theorem NotifyKept.unmentioned (h : NotifyKept backend s) {replyId : JsString}
    (hreply : ¬ Reaches s.repository .reply replyId 0) (accountId : JsString) :
    ¬ MentionedLast backend s.past .reply replyId accountId := by
  rw [← h.mentions]
  unfold previousRecipients
  cases hfound : s.repository.mentions.find? (ReviewRepository.isMentionOf .reply replyId) with
  | none => exact nofun
  | some set =>
    have hset := h.remembered set (List.mem_of_find?_eq_some hfound)
    have hitem : set.contentType = .reply ∧ set.contentId = replyId := by
      have hmatch := List.find?_some hfound
      unfold ReviewRepository.isMentionOf at hmatch
      simpa using hmatch
    rw [hitem.1, hitem.2] at hset
    exact absurd hset hreply

/-- A notification of a reply, without the reason it was sent for. -/
theorem isMention_replyNotice {notice : ReviewNotification} {recipient : JsString}
    (h : notice.unnumbered = replyNotice thread reply recipient) : isMention notice = false := by
  have hreason : notice.reason = some .reply := (congrArg ReviewNotification.reason h :)
  unfold isMention
  rw [hreason]
  rfl

theorem sourced_replyNotice {r : ReviewRepository} {notice : ReviewNotification}
    {recipient : JsString} (h : notice.unnumbered = replyNotice thread reply recipient)
    (hstored : Reaches r .reply reply.id 0) : Sourced backend r notice := by
  have htype : notice.contentType = .reply := (congrArg ReviewNotification.contentType h :)
  have hid : notice.contentId = reply.id := (congrArg ReviewNotification.contentId h :)
  have hkey : notice.sourceKey = some (replyKey notice.contentId) := by
    rw [hid]
    exact (congrArg ReviewNotification.sourceKey h :)
  constructor
  · rw [htype, hid]
    exact hstored
  · intro database _
    rw [hkey]
    exact .reply htype

/-- Everyone is told once, by the mention or by the reply. -/
theorem exactly_either {mentioned participant : Prop} {first second : ℕ}
    (hfirst : Exactly mentioned first) (hsecond : Exactly (participant ∧ ¬ mentioned) second) :
    Exactly (participant ∨ mentioned) (first + second) := by
  by_cases hmentioned : mentioned
  · have hone := hfirst.1 hmentioned
    have hzero := hsecond.2 fun hboth => hboth.2 hmentioned
    exact ⟨fun _ => by omega, fun hnot => absurd (.inr hmentioned) hnot⟩
  · have hzero := hfirst.2 hmentioned
    constructor
    · rintro (hparticipant | hmention)
      · have hone := hsecond.1 ⟨hparticipant, hmentioned⟩
        omega
      · exact absurd hmention hmentioned
    · intro hnot
      have hnone := hsecond.2 fun hboth => hnot (.inl hboth.1)
      omega

theorem isNotified_iff {r : ReviewRepository} {recipient : JsString} :
    r.isNotified backend reply recipient = true ↔ ∃ item ∈ r.notifications,
      item.contentId = reply.id ∧ item.recipientAccountId = recipient ∧
        ∀ database, backend = .postgres database → item.contentType = .reply := by
  unfold ReviewRepository.isNotified
  cases backend with
  | inMemory => simp
  | postgres database => simp [and_assoc]

/-- What the repository is when the participants of the thread are to be told of the reply. -/
structure Replied (backend : ReviewBackend) (s : Chronicle) (r : ReviewRepository)
    (input : ReviewRepository.MentionSync) (reply : ReviewReply) : Prop where
  item : input.contentType = .reply ∧ input.contentId = reply.id ∧ input.contentVersion = 1
  actor : input.actor = reply.author
  base : ∃ recorded, Delivered backend [] recorded s.repository r ∧ Announced [] recorded
  mentions : r.mentions = s.repository.mentions
  stored : Reaches r .reply reply.id 1
  accounts : r.accounts = s.repository.accounts

theorem isReader_congr {r r' : ReviewRepository} (h : r'.accounts = r.accounts)
    {accountId : JsString} : IsReader backend r' accountId ↔ IsReader backend r accountId := by
  unfold IsReader
  rw [h]

theorem NotifyKept.replied_turn (h : NotifyKept backend s) {r : ReviewRepository}
    {input : ReviewRepository.MentionSync} (hreplied : Replied backend s r input reply)
    (hcomment : ¬ Reaches s.repository .comment reply.id 0)
    (hreply : ¬ Reaches s.repository .reply reply.id 0) {record : Record} {command : ReplyCommand}
    (hcommand : record.command = .createReply command)
    (hresult : record.result = .createdReply reply) (hwrite : record.write = some input.write)
    (hfound : s.repository.findThread command.threadId = some thread)
    (hafter : record.after = ((r.syncMentions backend input).replyRecipients backend thread).foldl
      (fun r recipient => r.notifyReply backend thread reply recipient)
      (r.syncMentions backend input)) :
    ∃ created recorded, Turn backend s.repository record created recorded ∧
      Recipients backend s.past s.repository record created := by
  obtain ⟨⟨htype, hid, hversion⟩, hactor, ⟨early, hearly, hquiet⟩, hmentions, hstored, haccounts⟩ :=
    hreplied
  have hnotifications : r.notifications = s.repository.notifications := by
    rw [hearly.notifications, List.append_nil]
  have hnew : ∀ version, Reaches s.repository input.contentType input.contentId version →
      version < input.contentVersion := by
    rw [htype, hid]
    exact fun version hreached => absurd (reaches_zero hreached) hreply
  obtain ⟨mentions, events, recipients, hsynced⟩ := h.synced hmentions hnotifications hnew
  have hunmentioned : ∀ accountId,
      ¬ MentionedLast backend s.past input.contentType input.contentId accountId := by
    rw [htype, hid]
    exact h.unmentioned hreply
  -- Only the mentions are about the new reply, so they are what the loop finds.
  have hheard : ∀ recipient, (r.syncMentions backend input).isNotified backend reply recipient =
      decide (recipient ∈ recipients) := by
    intro recipient
    rw [Bool.eq_iff_iff, isNotified_iff, decide_eq_true_eq, hsynced.delivered.notifications,
      hnotifications]
    constructor
    · rintro ⟨item, hitem, hitemId, hrecipient, -⟩
      rcases List.mem_append.1 hitem with hold | hnotice
      · exact absurd hitemId (h.unheard hcomment hreply item hold)
      · exact ((hsynced.heard recipient).1 ⟨item, hnotice, hrecipient⟩).1
    · intro hmember
      obtain ⟨item, hnotice, hrecipient⟩ :=
        (hsynced.heard recipient).2 ⟨hmember, hunmentioned recipient⟩
      obtain ⟨other, heq⟩ := hsynced.notices item hnotice
      have hitemType : item.contentType = input.contentType :=
        (congrArg ReviewNotification.contentType heq :)
      have hitemId : item.contentId = input.contentId :=
        (congrArg ReviewNotification.contentId heq :)
      exact ⟨item, List.mem_append_right _ hnotice, hitemId.trans hid, hrecipient,
        fun _ _ => hitemType.trans htype⟩
  have hfree : ∀ recipient, IsFree backend (r.syncMentions backend input)
      (some (replyKey reply.id)) recipient := by
    intro recipient
    refine ((h.reply_free hreply recipient).of_eq hnotifications).delivered hsynced.delivered ?_
    rintro notice hnotice ⟨-, hkey⟩
    obtain ⟨other, heq⟩ := hsynced.notices notice hnotice
    have hmention : notice.sourceKey = (mentionNotice input backend other).sourceKey :=
      (congrArg ReviewNotification.sourceKey heq :)
    rw [hkey] at hmention
    cases backend with
    | inMemory => cases hmention
    | postgres database =>
      exact mentionKey_ne_replyKey _ _ _ _ (Option.some.inj hmention).symm
  obtain ⟨notices, later, hdelivered, hannounced, hcontent, hcreated⟩ :=
    notifyReplies_delivered (fun recipient => decide (recipient ∈ recipients)) hheard hfree
  rw [← hafter] at hdelivered hcontent
  have hmembers : ∀ accountId, accountId ∈ recipients ↔
      Mentions backend record.after input.write accountId := by
    intro accountId
    rw [hsynced.members]
    exact (mentions_congr _ _ hcontent.threads hcontent.revisions hcontent.projects
      hcontent.accountUsernames hcontent.accounts input.write accountId).symm
  have hafterStored : Reaches record.after .reply reply.id 1 :=
    (Grows.of_eq hcontent.threads).reaches ((Grows.of_eq hsynced.content.threads).reaches hstored)
  have hmentionNotices : ∀ notice ∈ mentions, isMention notice = true := by
    intro notice hnotice
    obtain ⟨recipient, heq⟩ := hsynced.notices notice hnotice
    exact isMention_mentionNotice heq
  have hreplyNotices : ∀ notice ∈ notices, isMention notice = false := by
    intro notice hnotice
    obtain ⟨recipient, -, heq⟩ := of_created hcreated hnotice
    exact isMention_replyNotice heq
  have hfilter : (mentions ++ notices).filter (fun notice => isMention notice) = mentions := by
    rw [List.filter_append, List.filter_eq_self.2 hmentionNotices,
      List.filter_eq_nil_iff.2 fun notice hnotice => by rw [hreplyNotices notice hnotice]; nofun,
      List.append_nil]
  have hreads : record.reads s.repository = id := by
    funext notice
    unfold Record.reads
    rw [hcommand, hresult]
    rfl
  refine ⟨mentions ++ notices, early ++ (events ++ later), ⟨?_, ?_, ?_, ?_⟩, ?_⟩
  · rw [hreads, List.map_id]
    exact hearly.trans (hsynced.delivered.trans hdelivered)
  · exact hquiet.append (hsynced.announced.append hannounced)
  · unfold MentionTable
    rw [hwrite]
    refine ⟨recipients, ?_, ?_, hmembers⟩
    · rw [hcontent.mentions, hsynced.content.mentions, hmentions]
      rfl
    · exact (htype ▸ hid ▸ reaches_zero hafterStored :)
  · intro notice hnotice
    rcases List.mem_append.1 hnotice with hmention | hnotice
    · obtain ⟨recipient, heq⟩ := hsynced.notices notice hmention
      refine sourced_mentionNotice heq ?_
      rw [htype, hid, hversion]
      exact hafterStored
    · obtain ⟨recipient, -, heq⟩ := of_created hcreated hnotice
      exact sourced_replyNotice heq (reaches_zero hafterStored)
  · have hmentioned : ∀ accountId, Exactly (Mentions backend record.after input.write accountId)
        (told mentions accountId) := by
      intro accountId
      have honce := hsynced.once accountId
      rwa [and_iff_left (hunmentioned accountId), hmembers] at honce
    have hparticipants : ∀ accountId, Exactly ((accountId ≠ reply.author.accountId ∧
        TookPart thread accountId ∧ IsReader backend s.repository accountId) ∧
        ¬ Mentions backend record.after input.write accountId) (told notices accountId) := by
      intro accountId
      rw [told_eq_count (fun _ => rfl) hcreated]
      refine exactly_count ((replyRecipients_nodup _ thread).filter _) ?_
      have haccountsSame : (r.syncMentions backend input).accounts = s.repository.accounts :=
        hsynced.content.accounts.trans haccounts
      rw [List.mem_filter, mem_replyRecipients, isReader_congr haccountsSame, ← hmembers]
      simp only [Bool.not_eq_true', Bool.or_eq_false_iff, decide_eq_false_iff_not]
      tauto
    refine ⟨?_, ?_, ?_, ?_, ?_⟩
    · intro write hsome
      rw [hwrite] at hsome
      obtain rfl := Option.some.inj hsome
      constructor
      · intro notice hnotice
        rcases List.mem_append.1 hnotice with hmention | hnotice
        · obtain ⟨recipient, heq⟩ := hsynced.notices notice hmention
          exact ⟨congrArg ReviewNotification.contentType heq,
            congrArg ReviewNotification.contentId heq,
            congrArg (fun notice => notice.actor.accountId) heq⟩
        · obtain ⟨recipient, -, heq⟩ := of_created hcreated hnotice
          have hself : notice.contentType = .reply ∧ notice.contentId = reply.id ∧
              notice.actor = reply.author :=
            ⟨congrArg ReviewNotification.contentType heq,
              congrArg ReviewNotification.contentId heq, congrArg ReviewNotification.actor heq⟩
          exact ⟨hself.1.trans htype.symm, hself.2.1.trans hid.symm,
            congrArg ReviewIdentity.accountId (hself.2.2.trans hactor.symm)⟩
      · intro accountId
        rw [hfilter, and_iff_left]
        · exact hmentioned accountId
        · exact hunmentioned accountId
    · intro other created hother hcreatedReply
      rw [hcommand] at hother
      rw [hresult] at hcreatedReply
      obtain rfl := ReviewCommand.createReply.inj hother
      obtain rfl := ReviewResult.createdReply.inj hcreatedReply
      refine ⟨thread, input.write, hfound, hwrite, fun accountId => ?_⟩
      rw [told_append]
      exact exactly_either (hmentioned accountId) (hparticipants accountId)
    · exact fun _ hnot => absurd hcommand (hnot command)
    · intro change changed hchange
      rw [hcommand] at hchange
      cases hchange
    · intro hnone
      rw [hwrite] at hnone
      cases hnone

/-- The reply of a command, as it is created. -/
theorem NotifyKept.createReply (h : NotifyKept backend s) (command : ReplyCommand)
    (hfresh : FreshIds s (.createReply command)) :
    ∃ created recorded, Turn backend s.repository
        (performed backend s.repository (.createReply command)) created recorded ∧
      Recipients backend s.past s.repository
        (performed backend s.repository (.createReply command)) created := by
  have hcomment : ¬ Reaches s.repository .comment command.content.id 0 := by
    rintro ⟨thread, hthread, hid, -⟩
    exact (hfresh thread hthread).1 (congrArg some hid.symm)
  have hreply : ¬ Reaches s.repository .reply command.content.id 0 := by
    rintro ⟨thread, hthread, reply, hreply, hid, -⟩
    exact (hfresh thread hthread).2 reply hreply (congrArg some hid.symm)
  unfold performed perform ReviewRepository.createReply
  dsimp only
  split
  · exact refused_turn s.past rfl (.refl ..) rfl
  · split
    · exact refused_turn s.past rfl (.refl ..) rfl
    · next thread hfound =>
      split
      · exact refused_turn s.past rfl (.refl ..) rfl
      · split
        · exact refused_turn s.past rfl (.refl ..) rfl
        · obtain ⟨hrevision, -⟩ := findBoundThread_scope hfound
          refine h.replied_turn ⟨⟨rfl, rfl, rfl⟩, rfl, ?_, ?_, ?_, ?_⟩ hcomment hreply rfl rfl ?_
            (findBoundThread_some hfound) rfl
          · exact ⟨_, (setUsername_delivered ..).trans ((setThread_delivered ..).trans
              (recordEvent_delivered ..)), rfl⟩
          · rw [recordEvent_mentions]
            exact setUsername_mentions ..
          · refine ⟨withReply thread (newReply command.content command.threadId), ?_,
              newReply command.content command.threadId, List.mem_append_right _
                (List.mem_singleton_self _), rfl, le_rfl⟩
            rw [recordEvent_threads]
            exact Auth.Table.mem_set_self
          · exact (recordEvent_same ..).accounts.trans (by cases backend <;> rfl)
          · simp only [Record.write, ReviewRepository.MentionSync.write, newReply, hrevision]

end Replies

section Moves
variable {backend : ReviewBackend} {s : Chronicle} {thread : PageCommentThread}
  {input : ChangeStatusInput}

/-- A thread that waits for a review was last asked for one. -/
theorem WorkflowSound.lastRequest (h : WorkflowSound thread) (hstatus : thread.status = .needsReview) :
    ∃ request, (history thread).getLast? = some request ∧
      ReviewRepository.lastRequest thread = some request ∧
      request.version = thread.workflowVersion.getD 1 := by
  cases hlast : (history thread).getLast? with
  | none =>
    have hopened := h.status
    rw [hlast, hstatus] at hopened
    cases hopened
  | some request =>
    have hasked := h.status
    have hversion := h.version
    rw [hlast, hstatus] at hasked
    rw [hlast] at hversion
    refine ⟨request, rfl, ?_, hversion.symm⟩
    obtain ⟨earlier, hsplit⟩ := List.getLast?_eq_some_iff.1 hlast
    have hhistory : thread.workflowHistory.getD [] = earlier ++ [request] := hsplit
    unfold ReviewRepository.lastRequest
    rw [hhistory, List.reverse_append, List.reverse_singleton, List.singleton_append,
      List.find?_cons_of_pos]
    exact decide_eq_true hasked.symm

theorem workflowRecipient_iff (h : WorkflowSound thread) {accountId : JsString} :
    ReviewRepository.workflowRecipient thread input = some accountId ↔
      HearsOfMove thread input accountId := by
  unfold ReviewRepository.workflowRecipient HearsOfMove
  by_cases hasked : input.status = .needsReview
  · rw [if_pos hasked, Option.some.injEq]
    simp only [hasked, true_and, not_true_eq_false, ne_eq, false_and, or_false, eq_comm]
  · rw [if_neg hasked]
    by_cases hanswered : thread.status = .needsReview
    · obtain ⟨request, hlast, hrequest, -⟩ := h.lastRequest hanswered
      rw [if_pos hanswered, hrequest, hlast]
      simp only [Option.map_some, Option.some.injEq, hasked, hanswered, false_and, ne_eq,
        not_false_eq_true, true_and, exists_eq_left', false_or, eq_comm]
    · rw [if_neg hanswered]
      simp only [reduceCtorEq, hasked, hanswered, false_and, and_false, or_false]

/-- Answering a request is reading the notification of it. -/
theorem markRequestRead_notifications (h : WorkflowSound thread) (input : ChangeStatusInput)
    (r : ReviewRepository) : (r.markRequestRead thread input).notifications =
      r.notifications.map fun notice =>
      if IsRequest thread input.actor.accountId notice then
        { notice with readAt := some (notice.readAt.getD input.changedAt) }
      else notice := by
  unfold ReviewRepository.markRequestRead
  by_cases hstatus : thread.status = .needsReview
  · obtain ⟨request, -, hrequest, hversion⟩ := h.lastRequest hstatus
    simp only [hrequest, hstatus, if_true, hversion, IsRequest, true_and]
  · have hnone : ∀ notice, ¬ IsRequest thread input.actor.accountId notice :=
      fun notice hasked => hstatus hasked.1
    have hsame : r.notifications.map (fun notice =>
        if IsRequest thread input.actor.accountId notice then
          { notice with readAt := some (notice.readAt.getD input.changedAt) }
        else notice) = r.notifications := by
      simp only [hnone, if_false, List.map_id']
    rw [hsame]
    split
    · rfl
    · rw [if_neg hstatus]

theorem markRequestRead_same (r : ReviewRepository) (thread : PageCommentThread)
    (input : ChangeStatusInput) : SameContent r (r.markRequestRead thread input) ∧
      (r.markRequestRead thread input).events = r.events ∧
      (r.markRequestRead thread input).nextEventId = r.nextEventId ∧
      (r.markRequestRead thread input).nextNotificationId = r.nextNotificationId := by
  unfold ReviewRepository.markRequestRead
  split
  · exact ⟨.refl r, rfl, rfl, rfl⟩
  · split
    · exact ⟨⟨rfl, rfl, rfl, rfl, rfl, rfl⟩, rfl, rfl, rfl⟩
    · exact ⟨.refl r, rfl, rfl, rfl⟩

theorem changedThread_fields (thread : PageCommentThread) (input : ChangeStatusInput) :
    (ReviewRepository.changedThread thread input).id = thread.id ∧
      (ReviewRepository.changedThread thread input).workflowVersion =
        some (thread.workflowVersion.getD 1 + 1) := by
  unfold ReviewRepository.changedThread
  dsimp only
  split_ifs <;> exact ⟨rfl, rfl⟩

/-- The move is told to the one who waits for it. -/
theorem NotifyKept.moved_turn (h : NotifyKept backend s)
    (hfound : s.repository.findThread input.threadId = some thread) {record : Record}
    {changed : PageCommentThread} (hchanged : changed = ReviewRepository.changedThread thread input)
    (hcommand : record.command = .changePageCommentStatus input)
    (hresult : record.result = .updatedThread changed) {r : ReviewRepository}
    (hbase : r = (s.repository.setThread changed).recordEvent backend .threadStatusChanged changed
      input.actor input.changedAt none)
    (hafter : record.after = (r.markRequestRead thread input).notifyWorkflow backend thread input) :
    ∃ created recorded, Turn backend s.repository record created recorded ∧
      Recipients backend s.past s.repository record created := by
  have hthread := (Auth.Table.get_some hfound).1
  have hsound := h.workflow thread hthread
  obtain ⟨hid, hworkflow⟩ := changedThread_fields thread input
  rw [← hchanged] at hid hworkflow
  have hwrite : record.write = none := by
    unfold Record.write
    rw [hcommand, hresult]
  have herased : record.erased = none := by
    unfold Record.erased
    rw [hcommand, hresult]
  have hreads : record.reads s.repository = fun notice =>
      if IsRequest thread input.actor.accountId notice then
        { notice with readAt := some (notice.readAt.getD input.changedAt) }
      else notice := by
    funext notice
    unfold Record.reads
    rw [hcommand, hresult]
    simp only [hfound, Option.any_some, decide_eq_true_eq]
  obtain ⟨hsame, hevents, hnextEvent, hnext⟩ :=
    markRequestRead_same r thread input
  have hmarked := markRequestRead_notifications hsound input r
  have hrecorded : Delivered backend [] [recordedEvent (s.repository.setThread changed)
      .threadStatusChanged changed input.actor input.changedAt none] s.repository r := by
    rw [hbase]
    exact (setThread_delivered ..).trans (recordEvent_delivered ..)
  have hnotifications : r.notifications = s.repository.notifications := by
    rw [hrecorded.notifications, List.append_nil]
  have hread : Delivered backend [] [recordedEvent (s.repository.setThread changed)
      .threadStatusChanged changed input.actor input.changedAt none]
      { s.repository with
        notifications := s.repository.notifications.map (record.reads s.repository) }
      (r.markRequestRead thread input) := by
    refine ⟨?_, rfl, hnext.trans hrecorded.nextNotificationId, ?_, fun hbackend => ?_,
      hrecorded.eventIds, hnextEvent.trans hrecorded.nextEventId⟩
    · rw [hmarked, hnotifications, hreads, List.append_nil]
    · rw [hevents]
      exact hrecorded.events
    · rw [hevents]
      exact hrecorded.untrimmed hbackend
  have hfree : ∀ recipient, IsFree backend (r.markRequestRead thread input)
      (some (workflowKey thread.id (thread.workflowVersion.getD 1 + 1))) recipient := by
    have hlater : ∀ version, MovedTo s.repository thread.id version →
        version < thread.workflowVersion.getD 1 + 1 := by
      rintro version ⟨other, hother, hotherId, hle⟩
      have hown := h.keyed.findThread hother
      rw [hotherId, h.keyed.findThread hthread] at hown
      rw [← Option.some.inj hown] at hle
      exact Nat.lt_succ_of_le hle
    intro recipient database hbackend known hknown
    rw [hread.notifications, List.append_nil] at hknown
    obtain ⟨old, hold, rfl⟩ := List.mem_map.1 hknown
    obtain ⟨readAt, heq⟩ := reads_unread record s.repository old
    rw [heq]
    exact h.workflow_free hlater recipient database hbackend old hold
  obtain ⟨created, recorded, hdelivered, hannounced, hcontent, hcreated⟩ :=
    notifyWorkflow_delivered hfree
  rw [← hafter] at hdelivered hcontent
  have hthreads : record.after.threads =
      Auth.Table.set PageCommentThread.id s.repository.threads changed := by
    rw [hcontent.threads, hsame.threads, hbase, recordEvent_threads]
    rfl
  have haccounts : (r.markRequestRead thread input).accounts = s.repository.accounts := by
    rw [hsame.accounts, hbase]
    exact (recordEvent_same ..).accounts
  have hstored : ∀ notice ∈ created, notice.threadId = thread.id ∧ notice.actor = input.actor ∧
      isMention notice = false ∧ Sourced backend record.after notice := by
    intro notice hnotice
    obtain ⟨recipient, -, heq⟩ := of_created hcreated hnotice
    have hfields : notice.threadId = thread.id ∧ notice.actor = input.actor ∧
        notice.contentType = .comment ∧ notice.contentId = thread.id :=
      ⟨congrArg ReviewNotification.threadId heq, congrArg ReviewNotification.actor heq,
        congrArg ReviewNotification.contentType heq, congrArg ReviewNotification.contentId heq⟩
    obtain ⟨hthreadId, hactor, htype, hcontentId⟩ := hfields
    have hreason : notice.reason = (workflowNotice thread input recipient).reason :=
      (congrArg ReviewNotification.reason heq :)
    have hkey : notice.sourceKey =
        some (workflowKey notice.contentId (thread.workflowVersion.getD 1 + 1)) := by
      rw [hcontentId]
      exact (congrArg ReviewNotification.sourceKey heq :)
    refine ⟨hthreadId, hactor, ?_, ?_, ?_⟩
    · unfold isMention workflowNotice at *
      rw [hreason]
      dsimp only
      split_ifs <;> rfl
    · rw [htype, hcontentId]
      refine ⟨changed, ?_, hid, Nat.zero_le _⟩
      rw [hthreads]
      exact Auth.Table.mem_set_self
    · intro database _
      rw [hkey]
      refine .workflow _ ⟨changed, ?_, hid.trans hcontentId.symm, ?_⟩
      · rw [hthreads]
        exact Auth.Table.mem_set_self
      · rw [hworkflow]
        exact le_rfl
  refine ⟨created, _, ⟨hread.trans hdelivered, ?_, ?_, fun notice hnotice =>
    (hstored notice hnotice).2.2.2⟩, ?_, ?_, ?_, ?_, ?_⟩
  · have hquiet : Announced [] [recordedEvent (s.repository.setThread changed)
        .threadStatusChanged changed input.actor input.changedAt none] := rfl
    exact hquiet.append hannounced
  · unfold MentionTable
    rw [hwrite]
    refine Eq.trans ?_ (filter_kept s.repository.mentions herased).symm
    rw [hcontent.mentions, hsame.mentions, hbase, recordEvent_mentions]
    rfl
  · intro write hsome
    rw [hwrite] at hsome
    cases hsome
  · intro command reply hother
    rw [hcommand] at hother
    cases hother
  · intro hsome
    rw [hwrite] at hsome
    cases hsome
  · intro other after hother _
    rw [hcommand] at hother
    obtain rfl := ReviewCommand.changePageCommentStatus.inj hother
    refine ⟨thread, hfound, fun notice hnotice => ?_, fun accountId => ?_⟩
    · obtain ⟨hthreadId, hactor, hreason, -⟩ := hstored notice hnotice
      exact ⟨hthreadId, hactor, hreason⟩
    · rw [told_eq_count (fun _ => rfl) hcreated]
      refine exactly_count ?_ ?_
      · cases (ReviewRepository.workflowRecipient thread input).filter _ with
        | none => exact List.nodup_nil
        | some recipient => exact List.nodup_singleton recipient
      · rw [Option.mem_toList, Option.filter_eq_some_iff, workflowRecipient_iff hsound,
          Bool.and_eq_true, decide_eq_true_eq, isReached_iff, isReader_congr haccounts]
        tauto
  · intro _ hnot
    exact absurd hresult (hnot input changed hcommand)

theorem NotifyKept.changePageCommentStatus (h : NotifyKept backend s) (input : ChangeStatusInput) :
    ∃ created recorded, Turn backend s.repository
        (performed backend s.repository (.changePageCommentStatus input)) created recorded ∧
      Recipients backend s.past s.repository
        (performed backend s.repository (.changePageCommentStatus input)) created := by
  unfold performed perform normalizeThreadStatusTransition
  dsimp only
  split
  · exact refused_turn s.past rfl (.refl ..) rfl
  · next expectedStatus status hmoves =>
    split_ifs at hmoves
    simp only [Except.ok.injEq, Prod.mk.injEq] at hmoves
    obtain ⟨rfl, rfl⟩ := hmoves
    unfold ReviewRepository.changePageCommentStatus
    dsimp only
    split
    · exact refused_turn s.past rfl (.refl ..) rfl
    · split
      · exact refused_turn s.past rfl (.refl ..) rfl
      · next thread hfound =>
        split
        · exact refused_turn s.past rfl (.refl ..) rfl
        · split
          · exact refused_turn s.past rfl (.refl ..) rfl
          · split
            · exact refused_turn s.past rfl (.refl ..) rfl
            · exact h.moved_turn (findBoundThread_some hfound) rfl rfl rfl rfl rfl

theorem NotifyKept.notification_eq (h : NotifyKept backend s) {notice other : ReviewNotification}
    (hnotice : notice ∈ s.repository.notifications) (hother : other ∈ s.repository.notifications)
    (hid : notice.id = other.id) : notice = other := by
  have hnodup : (s.repository.notifications.map ReviewNotification.id).Nodup := by
    rw [List.Nodup, List.pairwise_map]
    exact h.increasing.imp fun hlt => hlt.ne
  exact List.inj_on_of_nodup_map hnodup hnotice hother hid

/-- Reading a notification creates none. -/
theorem NotifyKept.setNotificationRead (h : NotifyKept backend s) (input : SetNotificationReadInput) :
    ∃ created recorded, Turn backend s.repository
        (performed backend s.repository (.setNotificationRead input)) created recorded ∧
      Recipients backend s.past s.repository
        (performed backend s.repository (.setNotificationRead input)) created := by
  unfold performed perform ReviewRepository.setNotificationRead
  dsimp only
  split
  · exact refused_turn s.past rfl (.refl ..) rfl
  · split
    · exact refused_turn s.past rfl (.refl ..) rfl
    · split
      · exact refused_turn s.past rfl (.refl ..) rfl
      · next current hcurrent =>
        have hmem := List.mem_of_find?_eq_some hcurrent
        have hmatch := List.find?_some hcurrent
        have hid : current.id = input.notificationId := (of_decide_eq_true hmatch).1
        split
        · next hmissing =>
          have hthere := h.keyed.notified current hmem
          rw [hmissing] at hthere
          cases hthere
        · next thread _ =>
          let readAt := fun notification : ReviewNotification =>
            if input.read then some (notification.readAt.getD input.changedAt) else none
          have hread : s.repository.notifications.map (fun notification =>
              if notification.id = current.id then { current with readAt := readAt current }
              else notification) = s.repository.notifications.map fun notification =>
              if notification.id = input.notificationId then
                { notification with readAt := readAt notification }
              else notification := by
            refine List.map_congr_left fun notification hnotification => ?_
            by_cases hsame : notification.id = input.notificationId
            · rw [if_pos (hsame.trans hid.symm), if_pos hsame,
                h.notification_eq hnotification hmem (hsame.trans hid.symm)]
            · rw [if_neg (hid ▸ hsame), if_neg hsame]
          have hchanged : Delivered backend [] []
              { s.repository with
                notifications := s.repository.notifications.map fun notification =>
                  if notification.id = input.notificationId then
                    { notification with readAt := readAt notification }
                  else notification }
              { s.repository with
                notifications := s.repository.notifications.map fun notification =>
                  if notification.id = current.id then { current with readAt := readAt current }
                  else notification } :=
            .of_eq hread rfl rfl rfl
          refine ⟨[], _, ⟨hchanged.trans (recordEvent_delivered ..), rfl, ?_, nofun⟩,
            .silence rfl fun _ _ hmove => (by cases hmove)⟩
          refine Eq.trans ?_ (filter_kept s.repository.mentions rfl).symm
          exact recordEvent_mentions ..

end Moves

end Lotur.Review
