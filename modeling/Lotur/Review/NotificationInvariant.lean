import Lotur.Review.NotificationLaw

/-! What a review repository remembers of its history. A source key names an item and a version the
item has reached, so the key of a new version is free. -/
namespace Lotur.Review
open JsString

section Growth
variable {backend : ReviewBackend} {r r' : ReviewRepository}

/-- The item is stored and has come to the version. -/
def Reaches (r : ReviewRepository) (contentType : ReviewMentionContentType) (contentId : JsString)
    (version : ℕ) : Prop :=
  match contentType with
  | .comment => ∃ thread ∈ r.threads, thread.id = contentId ∧ version ≤ thread.version
  | .reply => ∃ thread ∈ r.threads, ∃ reply ∈ thread.replies,
      reply.id = contentId ∧ version ≤ reply.version

/-- The workflow of the thread has come to the version. -/
def MovedTo (r : ReviewRepository) (threadId : JsString) (version : ℕ) : Prop :=
  ∃ thread ∈ r.threads, thread.id = threadId ∧ version ≤ thread.workflowVersion.getD 1

/-- A source key is of the item and of a version it has reached. -/
inductive KeyOf (r : ReviewRepository) (notice : ReviewNotification) : Option JsString → Prop
  | mention (version : ℕ) (reached : Reaches r notice.contentType notice.contentId version) :
      KeyOf r notice (some (mentionKey notice.contentType notice.contentId version))
  | reply (isReply : notice.contentType = .reply) :
      KeyOf r notice (some (replyKey notice.contentId))
  | workflow (version : ℕ) (moved : MovedTo r notice.contentId version) :
      KeyOf r notice (some (workflowKey notice.contentId version))

structure Sourced (backend : ReviewBackend) (r : ReviewRepository) (notice : ReviewNotification) :
    Prop where
  stored : Reaches r notice.contentType notice.contentId 0
  key : ∀ database, backend = .postgres database → KeyOf r notice notice.sourceKey

/-- Threads and replies stay, and their versions do not go back. -/
def Grows (r r' : ReviewRepository) : Prop :=
  ∀ thread ∈ r.threads, ∃ thread' ∈ r'.threads, thread'.id = thread.id ∧
    thread.version ≤ thread'.version ∧
    thread.workflowVersion.getD 1 ≤ thread'.workflowVersion.getD 1 ∧
    ∀ reply ∈ thread.replies, ∃ reply' ∈ thread'.replies,
      reply'.id = reply.id ∧ reply.version ≤ reply'.version

theorem Grows.of_eq (h : r'.threads = r.threads) : Grows r r' := by
  intro thread hthread
  refine ⟨thread, by rwa [h], rfl, le_rfl, le_rfl, fun reply hreply => ?_⟩
  exact ⟨reply, hreply, rfl, le_rfl⟩

theorem Grows.reaches (h : Grows r r') {contentType : ReviewMentionContentType}
    {contentId : JsString} {version : ℕ} (hreaches : Reaches r contentType contentId version) :
    Reaches r' contentType contentId version := by
  cases contentType with
  | comment =>
    obtain ⟨thread, hthread, hid, hversion⟩ := hreaches
    obtain ⟨thread', hthread', hid', hversion', -, -⟩ := h thread hthread
    exact ⟨thread', hthread', hid'.trans hid, hversion.trans hversion'⟩
  | reply =>
    obtain ⟨thread, hthread, reply, hreply, hid, hversion⟩ := hreaches
    obtain ⟨thread', hthread', -, -, -, hreplies⟩ := h thread hthread
    obtain ⟨reply', hreply', hid', hversion'⟩ := hreplies reply hreply
    exact ⟨thread', hthread', reply', hreply', hid'.trans hid, hversion.trans hversion'⟩

theorem Grows.movedTo (h : Grows r r') {threadId : JsString} {version : ℕ}
    (hmoved : MovedTo r threadId version) : MovedTo r' threadId version := by
  obtain ⟨thread, hthread, hid, hversion⟩ := hmoved
  obtain ⟨thread', hthread', hid', -, hversion', -⟩ := h thread hthread
  exact ⟨thread', hthread', hid'.trans hid, hversion.trans hversion'⟩

theorem Grows.sourced (h : Grows r r') {notice : ReviewNotification}
    (hsourced : Sourced backend r notice) : Sourced backend r' notice := by
  refine ⟨h.reaches hsourced.stored, fun database hbackend => ?_⟩
  have hkey := hsourced.key database hbackend
  revert hkey
  generalize notice.sourceKey = key
  rintro (⟨version, hreached⟩ | hreply | ⟨version, hmoved⟩)
  · exact .mention version (h.reaches hreached)
  · exact .reply hreply
  · exact .workflow version (h.movedTo hmoved)

/-- One thread is replaced by a later version of itself. -/
theorem Grows.of_set (hkeyed : Keyed r) {old thread : PageCommentThread}
    (hold : old ∈ r.threads)
    (hthreads : r'.threads = Auth.Table.set PageCommentThread.id r.threads thread)
    (hid : thread.id = old.id) (hversion : old.version ≤ thread.version)
    (hmoved : old.workflowVersion.getD 1 ≤ thread.workflowVersion.getD 1)
    (hreplies : ∀ reply ∈ old.replies, ∃ reply' ∈ thread.replies,
      reply'.id = reply.id ∧ reply.version ≤ reply'.version) : Grows r r' := by
  intro other hother
  by_cases hsame : other.id = thread.id
  · have heq : other = old := by
      have hfound := hkeyed.findThread hother
      rw [hsame, hid, hkeyed.findThread hold] at hfound
      exact (Option.some.inj hfound).symm
    rw [heq]
    refine ⟨thread, ?_, hid, hversion, hmoved, hreplies⟩
    rw [hthreads]
    exact Auth.Table.mem_set_self
  · refine ⟨other, ?_, rfl, le_rfl, le_rfl, fun reply hreply => ⟨reply, hreply, rfl, le_rfl⟩⟩
    rw [hthreads]
    exact Auth.Table.mem_set_of_ne hother hsame

/-- A new thread beside the others. -/
theorem Grows.of_new {thread : PageCommentThread} (hfree : r.findThread thread.id = none)
    (hthreads : r'.threads = Auth.Table.set PageCommentThread.id r.threads thread) :
    Grows r r' := by
  intro other hother
  have hne : other.id ≠ thread.id := Auth.Table.get_eq_none_iff.1 hfree other hother
  refine ⟨other, ?_, rfl, le_rfl, le_rfl, fun reply hreply => ⟨reply, hreply, rfl, le_rfl⟩⟩
  rw [hthreads]
  exact Auth.Table.mem_set_of_ne hother hne

theorem replaceReply_grows (thread : PageCommentThread) {old reply : ReviewReply} (changedAt : ℤ)
    (hold : Auth.Table.get ReviewReply.id thread.replies reply.id = some old)
    (hnodup : (thread.replies.map ReviewReply.id).Nodup) (hversion : old.version ≤ reply.version) :
    ∀ other ∈ thread.replies,
      ∃ other' ∈ (ReviewRepository.replaceReply thread reply changedAt).replies,
        other'.id = other.id ∧ other.version ≤ other'.version := by
  intro other hother
  refine ⟨_, List.mem_map_of_mem hother, ?_, ?_⟩
  · exact Auth.Table.key_replace ReviewReply.id reply other
  · split_ifs with hsame
    · have hfound := Auth.Table.get_of_mem hnodup hother
      rw [hsame, hold] at hfound
      rw [← Option.some.inj hfound]
      exact hversion
    · exact le_rfl

theorem ThreadStep.grows {command : ReviewCommand} {result : ReviewResult}
    {thread : PageCommentThread} (hstep : ThreadStep r command result thread) (hkeyed : Keyed r)
    (hreplyIds : ∀ old ∈ r.threads, (old.replies.map ReviewReply.id).Nodup)
    (hthreads : r'.threads = Auth.Table.set PageCommentThread.id r.threads thread) :
    Grows r r' := by
  have hkept : ∀ replies : List ReviewReply, ∀ reply ∈ replies, ∃ reply' ∈ replies,
      reply'.id = reply.id ∧ reply.version ≤ reply'.version :=
    fun replies reply hreply => ⟨reply, hreply, rfl, le_rfl⟩
  cases hstep with
  | created command pinNumber free => exact .of_new free hthreads
  | replied command old found unresolved live =>
    refine .of_set hkeyed (Auth.Table.get_some found).1 hthreads rfl le_rfl le_rfl ?_
    intro reply hreply
    exact ⟨reply, List.mem_append_left _ hreply, rfl, le_rfl⟩
  | statusChanged input old found may =>
    have hfields : (ReviewRepository.changedThread old input).id = old.id ∧
        (ReviewRepository.changedThread old input).version = old.version ∧
        (ReviewRepository.changedThread old input).workflowVersion =
          some (old.workflowVersion.getD 1 + 1) ∧
        (ReviewRepository.changedThread old input).replies = old.replies := by
      unfold ReviewRepository.changedThread
      dsimp only
      split_ifs <;> exact ⟨rfl, rfl, rfl, rfl⟩
    refine .of_set hkeyed (Auth.Table.get_some found).1 hthreads hfields.1 hfields.2.1.ge ?_ ?_
    · rw [hfields.2.2.1]
      exact Nat.le_succ _
    · rw [hfields.2.2.2]
      exact hkept old.replies
  | commentUpdated input old found may =>
    exact .of_set hkeyed (Auth.Table.get_some found).1 hthreads rfl (Nat.le_succ _) le_rfl
      (hkept old.replies)
  | commentDeleted input old found may =>
    exact .of_set hkeyed (Auth.Table.get_some found).1 hthreads rfl (Nat.le_succ _) le_rfl
      (hkept old.replies)
  | replyUpdated replyId input old reply found foundReply may =>
    have hold := (Auth.Table.get_some found).1
    have hid : Auth.Table.get ReviewReply.id old.replies (editedReply reply input).id = some reply := by
      rw [show (editedReply reply input).id = replyId from (Auth.Table.get_some foundReply).2]
      exact foundReply
    exact .of_set hkeyed hold hthreads rfl le_rfl le_rfl
      (replaceReply_grows old input.changedAt hid (hreplyIds old hold) (Nat.le_succ _))
  | replyDeleted replyId input old reply found foundReply may =>
    have hold := (Auth.Table.get_some found).1
    have hid : Auth.Table.get ReviewReply.id old.replies (deletedReply reply input).id = some reply := by
      rw [show (deletedReply reply input).id = replyId from (Auth.Table.get_some foundReply).2]
      exact foundReply
    exact .of_set hkeyed hold hthreads rfl le_rfl le_rfl
      (replaceReply_grows old input.changedAt hid (hreplyIds old hold) (Nat.le_succ _))

end Growth

section Counting
variable {created : List ReviewNotification} {recipients : List JsString}
  {template : JsString → ReviewNotification}

theorem told_eq_count (htemplate : ∀ recipient, (template recipient).recipientAccountId = recipient)
    (hcreated : created.map ReviewNotification.unnumbered = recipients.map template)
    (accountId : JsString) : told created accountId = recipients.count accountId := by
  have hrecipients : created.map ReviewNotification.recipientAccountId = recipients := by
    calc created.map ReviewNotification.recipientAccountId
        = (created.map ReviewNotification.unnumbered).map ReviewNotification.recipientAccountId := by
          rw [List.map_map]
          rfl
      _ = recipients.map fun recipient => (template recipient).recipientAccountId := by
          rw [hcreated, List.map_map]
          rfl
      _ = recipients := by
          simp only [htemplate, List.map_id']
  unfold told
  rw [hrecipients]

theorem exactly_count {condition : Prop} {accountId : JsString} (hnodup : recipients.Nodup)
    (hiff : accountId ∈ recipients ↔ condition) : Exactly condition (recipients.count accountId) :=
  ⟨fun hcondition => List.count_eq_one_of_mem hnodup (hiff.2 hcondition),
    fun hnot => List.count_eq_zero_of_not_mem (mt hiff.1 hnot)⟩

theorem of_created (hcreated : created.map ReviewNotification.unnumbered = recipients.map template)
    {notice : ReviewNotification} (hnotice : notice ∈ created) :
    ∃ recipient ∈ recipients, notice.unnumbered = template recipient := by
  have hmem := List.mem_map_of_mem (f := ReviewNotification.unnumbered) hnotice
  rw [hcreated] at hmem
  obtain ⟨recipient, hrecipient, heq⟩ := List.mem_map.1 hmem
  exact ⟨recipient, hrecipient, heq.symm⟩

theorem told_append (first second : List ReviewNotification) (accountId : JsString) :
    told (first ++ second) accountId = told first accountId + told second accountId := by
  unfold told
  rw [List.map_append, List.count_append]

end Counting

section Invariant

/-- No two replies share an id. -/
structure DistinctReplies (r : ReviewRepository) : Prop where
  within : ∀ thread ∈ r.threads, (thread.replies.map ReviewReply.id).Nodup
  across : ∀ thread ∈ r.threads, ∀ reply ∈ thread.replies,
    ∀ thread' ∈ r.threads, ∀ reply' ∈ thread'.replies, reply.id = reply'.id → thread.id = thread'.id

/-- What the repository remembers of its history. -/
structure NotifyKept (backend : ReviewBackend) (s : Chronicle) : Prop where
  keyed : Keyed s.repository
  workflow : ∀ thread ∈ s.repository.threads, WorkflowSound thread
  replies : DistinctReplies s.repository
  mentions : ∀ contentType contentId accountId,
    accountId ∈ previousRecipients s.repository contentType contentId ↔
      MentionedLast backend s.past contentType contentId accountId
  remembered : ∀ set ∈ s.repository.mentions, Reaches s.repository set.contentType set.contentId 0
  increasing : s.repository.notifications.Pairwise fun earlier later => earlier.id < later.id
  drawn : ∀ notice ∈ s.repository.notifications, notice.id < s.repository.nextNotificationId
  sourced : ∀ notice ∈ s.repository.notifications, Sourced backend s.repository notice

/-- The mentions of an item are those of its last version. -/
def MentionTable (backend : ReviewBackend) (r : ReviewRepository) (record : Record) : Prop :=
  match record.write with
  | some write => ∃ recipients,
      record.after.mentions = (r.mentions.filter fun set =>
        !ReviewRepository.isMentionOf write.contentType write.contentId set) ++
          [⟨write.contentType, write.contentId, recipients⟩] ∧
      Reaches record.after write.contentType write.contentId 0 ∧
      ∀ accountId, accountId ∈ recipients ↔ Mentions backend record.after write accountId
  | none => record.after.mentions = r.mentions.filter fun set =>
      !decide (record.erased = some (set.contentType, set.contentId))

/-- What one command adds, whether it succeeds or not. -/
structure Turn (backend : ReviewBackend) (r : ReviewRepository) (record : Record)
    (created : List ReviewNotification) (recorded : List ReviewEvent) : Prop where
  delivered : Delivered backend created recorded
    { r with notifications := r.notifications.map (record.reads r) } record.after
  announced : Announced created recorded
  table : MentionTable backend r record
  sourced : ∀ notice ∈ created, Sourced backend record.after notice

variable {backend : ReviewBackend} {s : Chronicle} {record : Record}

theorem reads_unread (record : Record) (r : ReviewRepository) (notice : ReviewNotification) :
    ∃ readAt, record.reads r notice = { notice with readAt := readAt } := by
  unfold Record.reads
  split
  · split
    · exact ⟨_, rfl⟩
    · exact ⟨notice.readAt, rfl⟩
  · split
    · exact ⟨_, rfl⟩
    · exact ⟨notice.readAt, rfl⟩
  · exact ⟨notice.readAt, rfl⟩

/-- A command that fails reads, writes and deletes nothing. -/
theorem failed_record (hfailed : record.result.isSuccess = false) (r : ReviewRepository) :
    record.write = none ∧ record.erased = none ∧ record.reads r = id := by
  obtain ⟨command, result, after⟩ := record
  cases result with
  | createdThread | createdReply | updatedThread | updatedReply | updatedNotification => cases hfailed
  | _ => cases command <;> exact ⟨rfl, rfl, rfl⟩

theorem filter_kept (mentions : List MentionSet) (herased : record.erased = none) :
    (mentions.filter fun set => !decide (record.erased = some (set.contentType, set.contentId))) =
      mentions := by
  rw [herased]
  exact List.filter_eq_self.2 fun _ _ => rfl

/-- A command that does nothing for notifications and mentions. -/
theorem Turn.quiet {r : ReviewRepository} {recorded : List ReviewEvent}
    (hwrite : record.write = none) (herased : record.erased = none) (hreads : record.reads r = id)
    (hdelivered : Delivered backend [] recorded r record.after) (hannounced : Announced [] recorded)
    (hmentions : record.after.mentions = r.mentions) :
    Turn backend r record [] recorded := by
  refine ⟨?_, hannounced, ?_, nofun⟩
  · rw [hreads, List.map_id]
    exact hdelivered
  · unfold MentionTable
    rw [hwrite]
    exact hmentions.trans (filter_kept r.mentions herased).symm

/-- No one is told when nothing is written and no thread moves. -/
theorem Recipients.silence {past : List Record} {r : ReviewRepository} (hwrite : record.write = none)
    (hmove : ∀ input changed, record.command = .changePageCommentStatus input →
      record.result ≠ .updatedThread changed) : Recipients backend past r record [] := by
  refine ⟨?_, ?_, ?_, ?_, ?_⟩
  · intro write hsome
    rw [hwrite] at hsome
    cases hsome
  · intro command reply hcommand hresult
    have hsome : record.write.isSome := by
      unfold Record.write
      rw [hcommand, hresult]
      rfl
    rw [hwrite] at hsome
    cases hsome
  · exact fun _ _ _ hnotice => nomatch hnotice
  · exact fun input changed hcommand hresult => absurd hresult (hmove input changed hcommand)
  · exact fun _ _ => rfl

theorem refused_turn {r : ReviewRepository} (past : List Record)
    (hfailed : record.result.isSuccess = false) (hdelivered : Delivered backend [] [] r record.after)
    (hmentions : record.after.mentions = r.mentions) :
    ∃ created recorded, Turn backend r record created recorded ∧
      Recipients backend past r record created := by
  obtain ⟨hwrite, herased, hreads⟩ := failed_record hfailed r
  refine ⟨[], [], .quiet hwrite herased hreads hdelivered rfl hmentions, .silence hwrite ?_⟩
  intro input changed _ hresult
  rw [hresult] at hfailed
  cases hfailed

end Invariant

section Free
variable {backend : ReviewBackend} {s : Chronicle}

theorem reaches_zero {r : ReviewRepository} {contentType : ReviewMentionContentType}
    {contentId : JsString} {version : ℕ} (h : Reaches r contentType contentId version) :
    Reaches r contentType contentId 0 := by
  cases contentType with
  | comment =>
    obtain ⟨thread, hthread, hid, -⟩ := h
    exact ⟨thread, hthread, hid, Nat.zero_le _⟩
  | reply =>
    obtain ⟨thread, hthread, reply, hreply, hid, -⟩ := h
    exact ⟨thread, hthread, reply, hreply, hid, Nat.zero_le _⟩

/-- No notification of a version that is still to come has been stored. -/
theorem NotifyKept.mention_free (h : NotifyKept backend s) (input : ReviewRepository.MentionSync)
    (hnew : ∀ version, Reaches s.repository input.contentType input.contentId version →
      version < input.contentVersion) (recipient : JsString) :
    IsFree backend s.repository (mentionNotice input backend recipient).sourceKey recipient := by
  rintro database hbackend known hknown ⟨-, hkey⟩
  have hsource := (h.sourced known hknown).key database hbackend
  subst hbackend
  rw [hkey] at hsource
  generalize hsought : (mentionNotice input (.postgres database) recipient).sourceKey = sought
    at hsource
  have hmention : sought = some (mentionKey input.contentType input.contentId
      input.contentVersion) := hsought.symm
  cases hsource with
  | mention version hreached =>
    obtain ⟨htype, hid, hversion⟩ := mentionKey_inj (Option.some.inj hmention)
    rw [htype, hid] at hreached
    exact absurd (hnew version hreached) (by omega)
  | reply hreply => exact mentionKey_ne_replyKey _ _ _ _ (Option.some.inj hmention).symm
  | workflow version hmoved => exact mentionKey_ne_workflowKey _ _ _ _ _ (Option.some.inj hmention).symm

/-- No notification of a reply that is still to come has been stored. -/
theorem NotifyKept.reply_free (h : NotifyKept backend s) {replyId : JsString}
    (hnew : ¬ Reaches s.repository .reply replyId 0) (recipient : JsString) :
    IsFree backend s.repository (some (replyKey replyId)) recipient := by
  rintro database hbackend known hknown ⟨-, hkey⟩
  have hsourced := h.sourced known hknown
  have hsource := hsourced.key database hbackend
  rw [hkey] at hsource
  generalize hsought : some (replyKey replyId) = sought at hsource
  cases hsource with
  | mention version hreached => exact mentionKey_ne_replyKey _ _ _ _ (Option.some.inj hsought).symm
  | reply hreply =>
    have hstored := hsourced.stored
    rw [hreply, ← replyKey_inj (Option.some.inj hsought)] at hstored
    exact hnew hstored
  | workflow version hmoved => exact replyKey_ne_workflowKey _ _ _ (Option.some.inj hsought)

/-- No notification of a move that is still to come has been stored. -/
theorem NotifyKept.workflow_free (h : NotifyKept backend s) {threadId : JsString} {next : ℕ}
    (hnew : ∀ version, MovedTo s.repository threadId version → version < next)
    (recipient : JsString) :
    IsFree backend s.repository (some (workflowKey threadId next)) recipient := by
  rintro database hbackend known hknown ⟨-, hkey⟩
  have hsource := (h.sourced known hknown).key database hbackend
  rw [hkey] at hsource
  generalize hsought : some (workflowKey threadId next) = sought at hsource
  cases hsource with
  | mention version hreached =>
    exact mentionKey_ne_workflowKey _ _ _ _ _ (Option.some.inj hsought).symm
  | reply hreply => exact replyKey_ne_workflowKey _ _ _ (Option.some.inj hsought).symm
  | workflow version hmoved =>
    obtain ⟨hid, hversion⟩ := workflowKey_inj (Option.some.inj hsought)
    rw [← hid] at hmoved
    exact absurd (hnew version hmoved) (by omega)

/-- Notifications that are not touched leave a source free. -/
theorem IsFree.of_eq {r r' : ReviewRepository} {sourceKey : Option JsString} {recipient : JsString}
    (h : IsFree backend r sourceKey recipient) (heq : r'.notifications = r.notifications) :
    IsFree backend r' sourceKey recipient := by
  unfold IsFree
  rw [heq]
  exact h

end Free

section Written
variable {backend : ReviewBackend} {s : Chronicle} {r : ReviewRepository}
  {input : ReviewRepository.MentionSync}

theorem isMention_mentionNotice {notice : ReviewNotification} {recipient : JsString}
    (h : notice.unnumbered = mentionNotice input backend recipient) : isMention notice = true := by
  have hreason : notice.reason = (mentionNotice input backend recipient).reason :=
    (congrArg ReviewNotification.reason h :)
  unfold isMention
  rw [hreason]
  cases backend <;> rfl

/-- A mention is sourced by the item and the version it is from. -/
theorem sourced_mentionNotice {notice : ReviewNotification} {recipient : JsString}
    (h : notice.unnumbered = mentionNotice input backend recipient)
    (hreached : Reaches r input.contentType input.contentId input.contentVersion) :
    Sourced backend r notice := by
  have htype : notice.contentType = input.contentType :=
    congrArg ReviewNotification.contentType h
  have hid : notice.contentId = input.contentId := congrArg ReviewNotification.contentId h
  have hkey : notice.sourceKey = (mentionNotice input backend recipient).sourceKey :=
    (congrArg ReviewNotification.sourceKey h :)
  constructor
  · rw [htype, hid]
    exact reaches_zero hreached
  · rintro database rfl
    have hmention : notice.sourceKey =
        some (mentionKey notice.contentType notice.contentId input.contentVersion) := by
      rw [hkey, htype, hid]
      rfl
    rw [hmention]
    refine .mention input.contentVersion ?_
    rw [htype, hid]
    exact hreached

/-- What `syncMentions` adds after the thread was written, told in terms of the history. -/
structure Synced (backend : ReviewBackend) (s : Chronicle) (r : ReviewRepository)
    (input : ReviewRepository.MentionSync) (created : List ReviewNotification)
    (recorded : List ReviewEvent) (recipients : List JsString) : Prop where
  delivered : Delivered backend created recorded r (r.syncMentions backend input)
  announced : Announced created recorded
  content : SameContent { r with mentions := (r.mentions.filter fun set =>
      !ReviewRepository.isMentionOf input.contentType input.contentId set) ++
    [⟨input.contentType, input.contentId, recipients⟩] } (r.syncMentions backend input)
  members : ∀ accountId, accountId ∈ recipients ↔
    Mentions backend (r.syncMentions backend input) input.write accountId
  notices : ∀ notice ∈ created, ∃ recipient,
    notice.unnumbered = mentionNotice input backend recipient
  once : ∀ accountId, Exactly (accountId ∈ recipients ∧
      ¬ MentionedLast backend s.past input.contentType input.contentId accountId)
    (told created accountId)
  heard : ∀ accountId, (∃ notice ∈ created, notice.recipientAccountId = accountId) ↔
    accountId ∈ recipients ∧
      ¬ MentionedLast backend s.past input.contentType input.contentId accountId

theorem NotifyKept.synced (h : NotifyKept backend s) (hmentions : r.mentions = s.repository.mentions)
    (hnotifications : r.notifications = s.repository.notifications)
    (hnew : ∀ version, Reaches s.repository input.contentType input.contentId version →
      version < input.contentVersion) :
    ∃ created recorded recipients, Synced backend s r input created recorded recipients := by
  obtain ⟨created, recorded, recipients, hdelivered, hannounced, hsame, hnodup, hmem, hcreated⟩ :=
    syncMentions_delivered fun recipient =>
      (h.mention_free input hnew recipient).of_eq hnotifications
  have hprevious : previousRecipients r input.contentType input.contentId =
      previousRecipients s.repository input.contentType input.contentId := by
    unfold previousRecipients
    rw [hmentions]
  have hlast : ∀ accountId, accountId ∈ recipients.filter (fun recipient =>
        !decide (recipient ∈ previousRecipients r input.contentType input.contentId)) ↔
      accountId ∈ recipients ∧
        ¬ MentionedLast backend s.past input.contentType input.contentId accountId := by
    intro accountId
    rw [List.mem_filter, hprevious, ← h.mentions]
    simp
  refine ⟨created, recorded, recipients, hdelivered, hannounced, hsame, fun accountId => ?_, ?_, ?_,
    ?_⟩
  · have hafter : Mentions backend (r.syncMentions backend input) input.write accountId ↔
        Mentions backend r input.write accountId :=
      mentions_congr r _ hsame.threads hsame.revisions hsame.projects hsame.accountUsernames
        hsame.accounts input.write accountId
    rw [hmem, hafter]
  · intro notice hnotice
    obtain ⟨recipient, -, heq⟩ := of_created hcreated hnotice
    exact ⟨recipient, heq⟩
  · intro accountId
    rw [told_eq_count (fun _ => rfl) hcreated]
    exact exactly_count (hnodup.filter _) (hlast accountId)
  · intro accountId
    rw [← hlast]
    constructor
    · rintro ⟨notice, hnotice, rfl⟩
      obtain ⟨recipient, hrecipient, heq⟩ := of_created hcreated hnotice
      have hself : notice.recipientAccountId = recipient :=
        congrArg ReviewNotification.recipientAccountId heq
      rwa [hself]
    · intro hrecipient
      have hmapped := List.mem_map_of_mem (f := mentionNotice input backend) hrecipient
      rw [← hcreated] at hmapped
      obtain ⟨notice, hnotice, heq⟩ := List.mem_map.1 hmapped
      exact ⟨notice, hnotice, congrArg ReviewNotification.recipientAccountId heq⟩

/-- A comment or a version of an item is written; only mentions are told of. -/
theorem NotifyKept.written_turn (h : NotifyKept backend s) {record : Record}
    (hwrite : record.write = some input.write)
    (hreads : record.reads s.repository = id)
    (hcommand : ∀ command, record.command ≠ .createReply command)
    (hstatus : ∀ input, record.command ≠ .changePageCommentStatus input)
    (hafter : record.after = r.syncMentions backend input)
    (hbase : ∃ recorded, Delivered backend [] recorded s.repository r ∧ Announced [] recorded)
    (hmentions : r.mentions = s.repository.mentions)
    (hnew : ∀ version, Reaches s.repository input.contentType input.contentId version →
      version < input.contentVersion)
    (hreached : Reaches r input.contentType input.contentId input.contentVersion) :
    ∃ created recorded, Turn backend s.repository record created recorded ∧
      Recipients backend s.past s.repository record created := by
  obtain ⟨recorded, hdelivered, hquiet⟩ := hbase
  have hnotifications : r.notifications = s.repository.notifications := by
    rw [hdelivered.notifications, List.append_nil]
  obtain ⟨created, more, recipients, hsynced⟩ := h.synced hmentions hnotifications hnew
  have hstored : Reaches record.after input.contentType input.contentId input.contentVersion := by
    rw [hafter]
    exact (Grows.of_eq hsynced.content.threads).reaches hreached
  have hall : created.filter (fun notice => isMention notice) = created := by
    rw [List.filter_eq_self]
    intro notice hnotice
    obtain ⟨recipient, heq⟩ := hsynced.notices notice hnotice
    exact isMention_mentionNotice heq
  refine ⟨created, recorded ++ more, ⟨?_, hquiet.append hsynced.announced, ?_, ?_⟩, ?_, ?_, ?_, ?_,
    ?_⟩
  · rw [hreads, List.map_id, hafter]
    exact hdelivered.trans hsynced.delivered
  · unfold MentionTable
    rw [hwrite, hafter]
    refine ⟨recipients, ?_, reaches_zero (hafter ▸ hstored), hsynced.members⟩
    rw [hsynced.content.mentions, hmentions]
    rfl
  · intro notice hnotice
    obtain ⟨recipient, heq⟩ := hsynced.notices notice hnotice
    exact sourced_mentionNotice heq hstored
  · intro write hsome
    rw [hwrite] at hsome
    obtain rfl := Option.some.inj hsome
    constructor
    · intro notice hnotice
      obtain ⟨recipient, heq⟩ := hsynced.notices notice hnotice
      exact ⟨congrArg ReviewNotification.contentType heq,
        congrArg ReviewNotification.contentId heq,
        congrArg (fun notice => notice.actor.accountId) heq⟩
    · intro accountId
      have htold := hsynced.once accountId
      rw [hsynced.members, ← hafter] at htold
      rw [hall]
      exact htold
  · exact fun command _ hcreate => absurd hcreate (hcommand command)
  · intro _ _ notice hnotice
    obtain ⟨recipient, heq⟩ := hsynced.notices notice hnotice
    exact isMention_mentionNotice heq
  · exact fun input _ hchange => absurd hchange (hstatus input)
  · intro hnone
    rw [hwrite] at hnone
    cases hnone

end Written

end Lotur.Review
