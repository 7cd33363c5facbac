import Lotur.Review.Journal
import Lotur.Review.NotificationCommands

/-! Runs of a review repository and the notifications they create. -/
namespace Lotur.Review
open JsString

section Steps
variable {backend : ReviewBackend} {s : Chronicle} {r r' : ReviewRepository}
  {command : ReviewCommand} {result : ReviewResult} {thread : PageCommentThread}

/-- A reply of the written thread was there, or is the one the command creates. -/
theorem ThreadStep.reply_origin (hstep : ThreadStep r command result thread) :
    ∀ reply ∈ thread.replies,
      (∃ old ∈ r.threads, old.id = thread.id ∧ ∃ former ∈ old.replies, former.id = reply.id) ∨
        newReplyId command = some reply.id := by
  have hreplaced : ∀ {old : PageCommentThread} {changed : ReviewReply} {changedAt : ℤ},
      old ∈ r.threads → ∀ reply ∈ (ReviewRepository.replaceReply old changed changedAt).replies,
      ∃ old' ∈ r.threads, old'.id = old.id ∧ ∃ former ∈ old'.replies, former.id = reply.id := by
    intro old changed changedAt hold reply hreply
    obtain ⟨former, hformer, rfl⟩ := List.mem_map.1 hreply
    exact ⟨old, hold, rfl, former, hformer, (Auth.Table.key_replace ReviewReply.id changed former).symm⟩
  cases hstep with
  | created command pinNumber free => exact fun _ hreply => nomatch hreply
  | replied command old found unresolved live =>
    intro reply hreply
    rcases List.mem_append.1 hreply with hformer | hnew
    · exact .inl ⟨old, (Auth.Table.get_some found).1, rfl, reply, hformer, rfl⟩
    · rw [List.mem_singleton.1 hnew]
      exact .inr rfl
  | statusChanged input old found may =>
    intro reply hreply
    have hfields : (ReviewRepository.changedThread old input).id = old.id ∧
        (ReviewRepository.changedThread old input).replies = old.replies := by
      unfold ReviewRepository.changedThread
      dsimp only
      split_ifs <;> exact ⟨rfl, rfl⟩
    rw [hfields.2] at hreply
    exact .inl ⟨old, (Auth.Table.get_some found).1, hfields.1.symm, reply, hreply, rfl⟩
  | commentUpdated input old found may =>
    exact fun reply hreply => .inl ⟨old, (Auth.Table.get_some found).1, rfl, reply, hreply, rfl⟩
  | commentDeleted input old found may =>
    exact fun reply hreply => .inl ⟨old, (Auth.Table.get_some found).1, rfl, reply, hreply, rfl⟩
  | replyUpdated replyId input old reply found foundReply may =>
    exact fun other hother => .inl (hreplaced (Auth.Table.get_some found).1 other hother)
  | replyDeleted replyId input old reply found foundReply may =>
    exact fun other hother => .inl (hreplaced (Auth.Table.get_some found).1 other hother)

theorem DistinctReplies.of_eq (h : DistinctReplies r) (heq : r'.threads = r.threads) :
    DistinctReplies r' := by
  constructor
  · rw [heq]
    exact h.within
  · rw [heq]
    exact h.across

theorem DistinctReplies.step (h : DistinctReplies r) (hstep : ThreadStep r command result thread)
    (hfresh : ∀ thread ∈ r.threads, ∀ reply ∈ thread.replies, newReplyId command ≠ some reply.id)
    (hthreads : r'.threads = Auth.Table.set PageCommentThread.id r.threads thread) :
    DistinctReplies r' := by
  constructor
  · intro other hother
    rw [hthreads] at hother
    rcases Auth.Table.mem_set hother with hold | rfl
    · exact h.within other hold
    · refine hstep.replyIds (fun reply hcommand => ?_) h.within
      subst hcommand
      unfold findReply
      cases hfound : r.findThread reply.threadId with
      | none => rfl
      | some old =>
        refine Auth.Table.get_eq_none_iff.2 fun former hformer hid => ?_
        exact hfresh old (Auth.Table.get_some hfound).1 former hformer (congrArg some hid.symm)
  · have horigin : ∀ other ∈ r'.threads, ∀ reply ∈ other.replies,
        (∃ old ∈ r.threads, old.id = other.id ∧ ∃ former ∈ old.replies, former.id = reply.id) ∨
          other = thread ∧ newReplyId command = some reply.id := by
      intro other hother reply hreply
      rw [hthreads] at hother
      rcases Auth.Table.mem_set hother with hold | rfl
      · exact .inl ⟨other, hold, rfl, reply, hreply, rfl⟩
      · exact (hstep.reply_origin reply hreply).imp_right fun hnew => ⟨rfl, hnew⟩
    intro first hfirst reply hreply second hsecond reply' hreply' hid
    rcases horigin first hfirst reply hreply with
      ⟨old, hold, holdId, former, hformer, hformerId⟩ | ⟨heq, hnew⟩
    · rcases horigin second hsecond reply' hreply' with
        ⟨old', hold', holdId', former', hformer', hformerId'⟩ | ⟨-, hnew'⟩
      · rw [← holdId, ← holdId']
        exact h.across old hold former hformer old' hold' former' hformer'
          (hformerId.trans (hid.trans hformerId'.symm))
      · exact absurd (hnew'.trans (congrArg some (hid.symm.trans hformerId.symm)))
          (hfresh old hold former hformer)
    · rcases horigin second hsecond reply' hreply' with
        ⟨old', hold', holdId', former', hformer', hformerId'⟩ | ⟨heq', -⟩
      · exact absurd (hnew.trans (congrArg some (hid.trans hformerId'.symm)))
          (hfresh old' hold' former' hformer')
      · rw [heq, heq']

/-- Taking other sets away does not change the mentions of an item. -/
theorem find?_filter_kept {kept sought : MentionSet → Bool} (mentions : List MentionSet)
    (h : ∀ set, sought set = true → kept set = true) :
    (mentions.filter kept).find? sought = mentions.find? sought := by
  rw [List.find?_filter]
  congr 1
  funext set
  cases hsought : sought set with
  | true => simp [h set hsought]
  | false => simp

theorem isMentionOf_iff {contentType : ReviewMentionContentType} {contentId : JsString}
    {set : MentionSet} : ReviewRepository.isMentionOf contentType contentId set = true ↔
      set.contentType = contentType ∧ set.contentId = contentId := by
  unfold ReviewRepository.isMentionOf
  simp

/-- The table of mentions follows the history. -/
theorem MentionTable.mentionedLast {record : Record} (h : NotifyKept backend s)
    (htable : MentionTable backend s.repository record)
    (contentType : ReviewMentionContentType) (contentId accountId : JsString) :
    accountId ∈ previousRecipients record.after contentType contentId ↔
      MentionedLast backend (record :: s.past) contentType contentId accountId := by
  have hbefore := h.mentions contentType contentId accountId
  unfold previousRecipients at hbefore ⊢
  unfold MentionTable at htable
  unfold MentionedLast
  cases hwrite : record.write with
  | some write =>
    rw [hwrite] at htable
    obtain ⟨recipients, hmentions, -, hmembers⟩ := htable
    rw [hmentions, List.find?_append]
    dsimp only
    split_ifs with hitem
    · obtain ⟨rfl, rfl⟩ := hitem
      have hnone : (s.repository.mentions.filter fun set =>
          !ReviewRepository.isMentionOf write.contentType write.contentId set).find?
            (ReviewRepository.isMentionOf write.contentType write.contentId) = none := by
        rw [List.find?_eq_none]
        intro set hset
        simpa using (List.mem_filter.1 hset).2
      have hfound : ([⟨write.contentType, write.contentId, recipients⟩] : List MentionSet).find?
          (ReviewRepository.isMentionOf write.contentType write.contentId) =
            some ⟨write.contentType, write.contentId, recipients⟩ :=
        List.find?_cons_of_pos (isMentionOf_iff.2 ⟨rfl, rfl⟩)
      rw [hnone, hfound]
      exact hmembers accountId
    · have hother : ([⟨write.contentType, write.contentId, recipients⟩] : List MentionSet).find?
          (ReviewRepository.isMentionOf contentType contentId) = none := by
        rw [List.find?_eq_none]
        intro set hset
        rw [List.mem_singleton.1 hset, isMentionOf_iff]
        exact hitem
      rw [hother, Option.or_none, find?_filter_kept, hbefore]
      intro set hset
      rw [Bool.not_eq_true', Bool.eq_false_iff, ne_eq, isMentionOf_iff]
      rw [isMentionOf_iff] at hset
      rw [hset.1, hset.2]
      exact fun hsame => hitem ⟨hsame.1.symm, hsame.2.symm⟩
  | none =>
    rw [hwrite] at htable
    rw [htable]
    dsimp only
    split_ifs with herased
    · have hnone : (s.repository.mentions.filter fun set =>
          !decide (record.erased = some (set.contentType, set.contentId))).find?
            (ReviewRepository.isMentionOf contentType contentId) = none := by
        rw [List.find?_eq_none]
        intro set hset hmatch
        obtain ⟨htype, hid⟩ := isMentionOf_iff.1 hmatch
        have hkept := (List.mem_filter.1 hset).2
        rw [htype, hid] at hkept
        simp [herased] at hkept
      rw [hnone]
      simp
    · rw [find?_filter_kept, hbefore]
      intro set hset
      obtain ⟨htype, hid⟩ := isMentionOf_iff.1 hset
      rw [htype, hid]
      simp [herased]

end Steps

section Runs
variable {backend : ReviewBackend} {s : Chronicle}

theorem NotifyKept.turn (h : NotifyKept backend s) (command : ReviewCommand)
    (hfresh : FreshIds s command) :
    ∃ created recorded, Turn backend s.repository (performed backend s.repository command) created
        recorded ∧
      Recipients backend s.past s.repository (performed backend s.repository command) created := by
  cases command with
  | bindTunnel input => exact NotifyKept.bindTunnel input
  | removeTunnelBinding tunnelId sessionId =>
    exact refused_turn s.past rfl (.of_eq rfl rfl rfl rfl) rfl
  | createPageComment command => exact h.createPageComment command
  | createReply command => exact h.createReply command hfresh
  | changePageCommentStatus input => exact h.changePageCommentStatus input
  | updateComment input => exact h.updateComment input
  | deleteComment input => exact NotifyKept.deleteComment input
  | updateReply replyId input => exact h.updateReply replyId input
  | deleteReply replyId input => exact NotifyKept.deleteReply replyId input
  | setNotificationRead input => exact h.setNotificationRead input
  | accountsChanged accounts => exact refused_turn s.past rfl (.of_eq rfl rfl rfl rfl) rfl

theorem NotifyKept.empty (backend : ReviewBackend) (accounts : List Auth.Account) :
    NotifyKept backend (.empty accounts) where
  keyed := .empty accounts
  workflow _ hthread := absurd hthread List.not_mem_nil
  replies := ⟨fun _ hthread => absurd hthread List.not_mem_nil,
    fun _ hthread => absurd hthread List.not_mem_nil⟩
  mentions _ _ _ := ⟨fun hmember => absurd hmember List.not_mem_nil, False.elim⟩
  remembered _ hset := absurd hset List.not_mem_nil
  increasing := List.Pairwise.nil
  drawn _ hnotice := absurd hnotice List.not_mem_nil
  sourced _ hnotice := absurd hnotice List.not_mem_nil

/-- The threads after a command: grown, sound and with replies of their own. -/
theorem NotifyKept.threads (h : NotifyKept backend s) {command : ReviewCommand}
    (hfresh : FreshIds s command) {outcome : ReviewResult × ReviewRepository}
    (heffect : Effect s.repository command outcome) :
    Grows s.repository outcome.2 ∧ (∀ thread ∈ outcome.2.threads, WorkflowSound thread) ∧
      DistinctReplies outcome.2 := by
  cases heffect with
  | refused result r' failed unchanged =>
    refine ⟨.of_eq unchanged.threads, ?_, h.replies.of_eq unchanged.threads⟩
    rw [unchanged.threads]
    exact h.workflow
  | wrote result r' thread step writes =>
    refine ⟨step.grows h.keyed h.replies.within writes.threads, ?_,
      h.replies.step step (fun old hold => (hfresh old hold).2) writes.threads⟩
    intro other hother
    rw [writes.threads] at hother
    rcases Auth.Table.mem_set hother with hold | rfl
    · exact h.workflow other hold
    · exact step.workflowSound h.workflow
  | read input notification r' asked threadId found announces =>
    refine ⟨.of_eq announces.threads, ?_, h.replies.of_eq announces.threads⟩
    rw [announces.threads]
    exact h.workflow

/-- The sets of mentions are of items that are stored. -/
theorem MentionTable.remembered {record : Record} (h : NotifyKept backend s)
    (hgrows : Grows s.repository record.after) (htable : MentionTable backend s.repository record) :
    ∀ set ∈ record.after.mentions, Reaches record.after set.contentType set.contentId 0 := by
  unfold MentionTable at htable
  intro set hset
  cases hwrite : record.write with
  | some write =>
    rw [hwrite] at htable
    obtain ⟨recipients, hmentions, hreached, -⟩ := htable
    rw [hmentions] at hset
    rcases List.mem_append.1 hset with hold | hnew
    · exact hgrows.reaches (h.remembered set (List.mem_of_mem_filter hold))
    · rw [List.mem_singleton.1 hnew]
      exact hreached
  | none =>
    rw [hwrite] at htable
    rw [htable] at hset
    exact hgrows.reaches (h.remembered set (List.mem_of_mem_filter hset))

theorem NotifyKept.step (h : NotifyKept backend s) {command : ReviewCommand}
    (hfresh : FreshIds s command) :
    (∃ created recorded, NotificationLaw backend s.past s.repository
      (performed backend s.repository command) created recorded) ∧
    NotifyKept backend ⟨(performed backend s.repository command).after,
      performed backend s.repository command :: s.past⟩ := by
  obtain ⟨created, recorded, hturn, hrecipients⟩ := h.turn command hfresh
  have heffect : Effect s.repository command (perform backend s.repository command) :=
    perform_effect h.keyed.notified command
  obtain ⟨hgrows, hworkflow, hreplies⟩ := h.threads hfresh heffect
  have hdelivered := hturn.delivered
  constructor
  · exact ⟨created, recorded, hdelivered.notifications, hturn.announced, hdelivered.events,
      hdelivered.untrimmed, hdelivered.eventIds, hdelivered.nextEventId, hrecipients⟩
  have hids : ∀ notice ∈ created, s.repository.nextNotificationId ≤ notice.id ∧
      notice.id < (performed backend s.repository command).after.nextNotificationId := by
    intro notice hnotice
    have hmem := List.mem_map_of_mem (f := ReviewNotification.id) hnotice
    rw [hdelivered.ids, List.mem_range'_1] at hmem
    rw [hdelivered.nextNotificationId]
    exact hmem
  refine ⟨h.keyed.effect heffect, hworkflow, hreplies,
    fun contentType contentId accountId => hturn.table.mentionedLast h contentType contentId accountId,
    hturn.table.remembered h hgrows, ?_, ?_, ?_⟩
  · rw [hdelivered.notifications, List.pairwise_append]
    refine ⟨?_, ?_, ?_⟩
    · rw [List.pairwise_map]
      refine h.increasing.imp fun {earlier later} hlt => ?_
      obtain ⟨_, hearlier⟩ := reads_unread (performed backend s.repository command) s.repository earlier
      obtain ⟨_, hlater⟩ := reads_unread (performed backend s.repository command) s.repository later
      rw [hearlier, hlater]
      exact hlt
    · have hordered : (created.map ReviewNotification.id).Pairwise (· < ·) := by
        rw [hdelivered.ids]
        exact List.pairwise_lt_range'
      exact List.pairwise_map.1 hordered
    · intro old hold notice hnotice
      obtain ⟨former, hformer, rfl⟩ := List.mem_map.1 hold
      obtain ⟨_, heq⟩ := reads_unread (performed backend s.repository command) s.repository former
      rw [heq]
      exact (h.drawn former hformer).trans_le (hids notice hnotice).1
  · intro notice hnotice
    rw [hdelivered.notifications] at hnotice
    rcases List.mem_append.1 hnotice with hold | hnew
    · obtain ⟨former, hformer, rfl⟩ := List.mem_map.1 hold
      obtain ⟨_, heq⟩ := reads_unread (performed backend s.repository command) s.repository former
      rw [heq, hdelivered.nextNotificationId]
      exact (h.drawn former hformer).trans_le (Nat.le_add_right _ _)
    · exact (hids notice hnew).2
  · intro notice hnotice
    rw [hdelivered.notifications] at hnotice
    rcases List.mem_append.1 hnotice with hold | hnew
    · obtain ⟨former, hformer, rfl⟩ := List.mem_map.1 hold
      obtain ⟨readAt, heq⟩ := reads_unread (performed backend s.repository command) s.repository former
      rw [heq]
      have hformerSourced := hgrows.sourced (h.sourced former hformer)
      refine ⟨hformerSourced.stored, fun database hbackend => ?_⟩
      have hkey := hformerSourced.key database hbackend
      dsimp only
      revert hkey
      generalize former.sourceKey = key
      rintro (⟨version, hreached⟩ | hreply | ⟨version, hmoved⟩)
      · exact .mention version hreached
      · exact .reply hreply
      · exact .workflow version hmoved
    · exact hturn.sourced notice hnew

end Runs

/-- Every command of every run tells exactly those it is to tell, once each. -/
theorem notifications_exact (backend : ReviewBackend) (accounts : List Auth.Account)
    (commands : List ReviewCommand) (s : Chronicle)
    (hfresh : Execution.Guarded (Chronicle.step backend) FreshIds (.empty accounts) commands)
    (hrun : Execution.run (Chronicle.step backend) (.empty accounts) commands = some s) :
    Lawful backend accounts s.past ∧
      s.repository.notifications.Pairwise fun earlier later => earlier.id < later.id := by
  have hnext : ∀ s command s',
      NotifyKept backend s ∧ latest accounts s.past = s.repository ∧ Lawful backend accounts s.past →
      FreshIds s command → Chronicle.step backend s command = some s' →
      NotifyKept backend s' ∧ latest accounts s'.past = s'.repository ∧
        Lawful backend accounts s'.past := by
    rintro s command s' ⟨hkept, hlatest, hlawful⟩ hfresh hstep
    obtain ⟨hlaw, hkept'⟩ := hkept.step hfresh
    obtain rfl := Option.some.inj hstep
    have hlawful' : ∃ created recorded, NotificationLaw backend s.past (latest accounts s.past)
        (performed backend s.repository command) created recorded := by
      rw [hlatest]
      exact hlaw
    exact ⟨hkept', rfl, hlawful', hlawful⟩
  have hinit : NotifyKept backend (.empty accounts) ∧
      latest accounts (Chronicle.empty accounts).past = (Chronicle.empty accounts).repository ∧
      Lawful backend accounts (Chronicle.empty accounts).past :=
    ⟨.empty backend accounts, rfl, trivial⟩
  obtain ⟨hkept, -, hlawful⟩ := @Execution.invariant_of_guarded _ _ _ FreshIds
    (fun s => NotifyKept backend s ∧ latest accounts s.past = s.repository ∧
      Lawful backend accounts s.past) hnext (.empty accounts) s commands hinit hfresh hrun
  exact ⟨hlawful, hkept.increasing⟩

theorem notifications_exact_answered :
    ∃ s, Execution.run (Chronicle.step .inMemory) (.empty []) sampleCommands = some s ∧
      s.repository.notifications.map (fun notice =>
        (notice.recipientAccountId, notice.readAt)) = [(guest.accountId, none),
          (guest.accountId, some 5), (owner.accountId, none)] ∧
      Lawful .inMemory [] s.past := by
  have hnotifications : (Execution.run (Chronicle.step .inMemory) (.empty []) sampleCommands).map
      (fun s => s.repository.notifications.map fun notice =>
        (notice.recipientAccountId, notice.readAt)) = some [(guest.accountId, none),
          (guest.accountId, some 5), (owner.accountId, none)] := by
    decide +kernel
  have hfresh : Execution.Guarded (Chronicle.step .inMemory) FreshIds (.empty [])
      sampleCommands := by
    decide +kernel
  obtain ⟨s, hrun, hstored⟩ := Option.map_eq_some_iff.1 hnotifications
  exact ⟨s, hrun, hstored, (notifications_exact .inMemory [] sampleCommands s hfresh hrun).1⟩

end Lotur.Review
