import Lotur.Review.PageReads

/-! Pages of a review repository that is written to while they are read. -/
namespace Lotur.Review
open JsString OpenHttp

def ReviewCommand.isCreation : ReviewCommand → Bool
  | .createPageComment _ | .createReply _ => true
  | _ => false

/-- The second repository is the first after some items were created. -/
def Created (backend : ReviewBackend) (r r' : ReviewRepository) : Prop :=
  ∃ commands : List ReviewCommand, (∀ command ∈ commands, command.isCreation = true) ∧
    commands.foldl (fun r command => (perform backend r command).2) r = r'

/-- Repositories whose items have distinct valid ids, which the comparison orders. -/
structure Listable (collate : JsString → JsString → ℤ) (snapshots : List ReviewRepository) :
    Prop where
  threads : ∀ r ∈ snapshots, (r.threads.map PageCommentThread.id).Nodup
  replies : ∀ r ∈ snapshots, ∀ thread ∈ r.threads, (thread.replies.map ReviewReply.id).Nodup
  valid : ∀ r ∈ snapshots, ValidPositions r
  threadOrder : KeysetPages.TotalOn collate fun id =>
    ∃ r ∈ snapshots, ∃ thread ∈ r.threads, thread.id = id
  replyOrder : KeysetPages.TotalOn collate fun id =>
    ∃ r ∈ snapshots, ∃ thread ∈ r.threads, ∃ reply ∈ thread.replies, reply.id = id

/-- The pages, from the last to the first, are the items in ascending order. -/
structure Enumerates {α : Type} (limit : ℕ) (items : List α) (pages : List (List α)) : Prop where
  bounded : ∀ page ∈ pages, page.length ≤ limit
  concatenation : pages.reverse.flatten = items
  count : pages.length = max 1 ((items.length + limit - 1) / limit)

/-- No position is shown twice, and each of the older ones is shown. -/
structure ShowsOnce {α : Type} (collate : JsString → JsString → ℤ)
    (position : α → ReviewPosition) (limit : ℕ) (older : List ReviewPosition)
    (pages : List (List α)) : Prop where
  bounded : ∀ page ∈ pages, page.length ≤ limit
  ascending : (pages.reverse.flatten.map position).Pairwise fun left right =>
    compareReviewPosition collate left right < 0
  once : ∀ place ∈ older, (pages.reverse.flatten.map position).count place = 1

section Lists
variable {α σ : Type} {collate : JsString → JsString → ℤ} {position : α → ReviewPosition}
  {limit : ℕ} (scope : Option JsString)
  (read : σ → Option JsString → Except ReviewError (SelectedPage α)) (listed : σ → List α)
  {keys : ReviewPosition → Prop}

/-- A store at rest is enumerated. -/
theorem followPages_enumerates
    (h : KeysetPages.TotalOn (compareReviewPosition collate) keys) (hpos : 0 < limit) {s : σ}
    (hkeys : ∀ value ∈ listed s, keys (position value) ∧ (position value).Valid)
    (hnodup : ((listed s).map position).Nodup)
    (hread : ∀ before : Option ReviewPosition, (∀ b, before = some b → b.Valid) →
      read s (before.map (cursorText scope)) =
        .ok (pageOf collate position scope (listed s) before limit))
    (reads : ℕ) (hreads : (listed s).length ≤ limit * (reads + 1)) :
    ∃ pages, followPages read (List.replicate (reads + 1) s) none = .ok (some pages) ∧
      Enumerates limit (KeysetPages.sorted position (compareReviewPosition collate) (listed s))
        pages := by
  have hall := KeysetPages.remaining_none h (fun value hvalue => (hkeys value hvalue).1) hnodup
  have hlength : (KeysetPages.remaining (compareReviewPosition collate) position (listed s)
      none).length = (listed s).length := by
    rw [← List.length_reverse, hall]
    exact (KeysetPages.sorted_perm _).length_eq
  obtain ⟨pages, hwalk, hpages⟩ := KeysetPages.walk_replicate h
    (fun value hvalue => (hkeys value hvalue).1) hnodup hpos reads none (by rintro _ ⟨⟩)
    (by rw [hlength]; exact hreads)
  refine ⟨pages, ?_, hpages.bounded, hpages.concatenation.trans hall, ?_⟩
  · have hfollow := @followPages_eq _ _ collate position scope limit read listed
      (List.replicate (reads + 1) s)
      (fun other hother => by
        rw [List.eq_of_mem_replicate hother]
        exact fun value hvalue => (hkeys value hvalue).2)
      (fun other hother => by
        rw [List.eq_of_mem_replicate hother]
        exact hread)
      none (by rintro _ ⟨⟩)
    rw [List.map_replicate, hwalk] at hfollow
    exact hfollow
  · rw [hpages.count, hlength, (KeysetPages.sorted_perm _).length_eq]

/-- A store that changes is shown without repetition, and what stays in it is shown. -/
theorem followPages_shows
    (h : KeysetPages.TotalOn (compareReviewPosition collate) keys) (hpos : 0 < limit)
    {snapshots : List σ}
    (hkeys : ∀ s ∈ snapshots, ∀ value ∈ listed s,
      keys (position value) ∧ (position value).Valid)
    (hnodup : ∀ s ∈ snapshots, ((listed s).map position).Nodup)
    (hread : ∀ s ∈ snapshots, ∀ before : Option ReviewPosition,
      (∀ b, before = some b → b.Valid) → read s (before.map (cursorText scope)) =
        .ok (pageOf collate position scope (listed s) before limit))
    {older : List ReviewPosition}
    (holder : ∀ place ∈ older, ∀ s ∈ snapshots, ∃ value ∈ listed s, position value = place) :
    ∃ result, followPages read snapshots none = .ok result ∧
      ∀ pages, result = some pages → ShowsOnce collate position limit older pages := by
  have hfollow := @followPages_eq _ _ collate position scope limit read listed snapshots
    (fun s hs value hvalue => (hkeys s hs value hvalue).2) hread none (by rintro _ ⟨⟩)
  refine ⟨_, hfollow, fun pages hpages => ?_⟩
  have hvalues : ∀ values ∈ snapshots.map listed, ∀ value ∈ values, keys (position value) := by
    rintro values hvalues value hvalue
    obtain ⟨s, hs, rfl⟩ := List.mem_map.1 hvalues
    exact (hkeys s hs value hvalue).1
  have hdistinct : ∀ values ∈ snapshots.map listed, (values.map position).Nodup := by
    rintro values hvalues
    obtain ⟨s, hs, rfl⟩ := List.mem_map.1 hvalues
    exact hnodup s hs
  have hshows := KeysetPages.walk_shows h hpos hvalues hdistinct (by rintro _ ⟨⟩) hpages
  have hshown : ∀ place ∈ pages.reverse.flatten.map position, keys place := by
    intro place hplace
    obtain ⟨value, hvalue, rfl⟩ := List.mem_map.1 hplace
    obtain ⟨page, hpage, hvalue⟩ := List.mem_flatten.1 hvalue
    obtain ⟨values, hmem, hvalue⟩ := hshows.stored page (List.mem_reverse.1 hpage) value hvalue
    exact hvalues values hmem value hvalue
  have hascending : (pages.reverse.flatten.map position).Pairwise fun left right =>
      compareReviewPosition collate left right < 0 := List.pairwise_map.2 hshows.ascending
  have hunique : (pages.reverse.flatten.map position).Nodup := by
    refine hascending.imp_of_mem ?_
    rintro left right hleft - hlt rfl
    exact h.irrefl (hshown left hleft) hlt
  refine ⟨hshows.bounded, hascending, fun place hplace => ?_⟩
  obtain ⟨value, hvalue, rfl⟩ := hshows.complete place (by rintro _ ⟨⟩) fun values hvalues => by
    obtain ⟨s, hs, rfl⟩ := List.mem_map.1 hvalues
    exact holder place hplace s hs
  exact List.count_eq_one_of_mem hunique (List.mem_map_of_mem hvalue)

end Lists

section Creations
variable {backend : ReviewBackend} {r r' : ReviewRepository}

/-- What no creation changes of a thread. -/
structure Keeps (thread thread' : PageCommentThread) : Prop where
  position : thread'.position = thread.position
  revisionId : thread'.revisionId = thread.revisionId
  routePath : thread'.routePath = thread.routePath
  status : thread'.status = thread.status
  author : thread'.author = thread.author
  replies : ∀ reply ∈ thread.replies, reply ∈ thread'.replies

theorem Keeps.refl (thread : PageCommentThread) : Keeps thread thread :=
  ⟨rfl, rfl, rfl, rfl, rfl, fun _ hreply => hreply⟩

theorem Keeps.trans {first second third : PageCommentThread} (h : Keeps first second)
    (h' : Keeps second third) : Keeps first third :=
  ⟨h'.position.trans h.position, h'.revisionId.trans h.revisionId, h'.routePath.trans h.routePath,
    h'.status.trans h.status, h'.author.trans h.author,
    fun reply hreply => h'.replies reply (h.replies reply hreply)⟩

/-- The threads of one repository are kept in the other. -/
def KeepsThreads (r r' : ReviewRepository) : Prop :=
  ∀ thread ∈ r.threads, ∃ thread' ∈ r'.threads, Keeps thread thread'

theorem KeepsThreads.of_eq (h : r'.threads = r.threads) : KeepsThreads r r' :=
  fun thread hthread => ⟨thread, by rwa [h], .refl thread⟩

theorem keepsThreads_creation (hkeyed : Keyed r) {command : ReviewCommand}
    (hcreation : command.isCreation = true) : KeepsThreads r (perform backend r command).2 := by
  have heffect : Effect r command (perform backend r command) :=
    perform_effect hkeyed.notified command
  revert heffect
  generalize perform backend r command = outcome
  intro heffect
  cases heffect with
  | refused result r' failed unchanged => exact .of_eq unchanged.threads
  | read input notification r' asked threadId found announces => exact .of_eq announces.threads
  | wrote result r' thread step writes =>
    intro other hother
    rw [writes.threads]
    cases step with
    | created command pinNumber free =>
      have hne : other.id ≠ command.content.id := Auth.Table.get_eq_none_iff.1 free other hother
      exact ⟨other, Auth.Table.mem_set_of_ne hother hne, .refl other⟩
    | replied command old found unresolved live =>
      by_cases hsame : other.id = old.id
      · have heq : other = old := by
          have hfound := hkeyed.findThread hother
          rw [hsame, hkeyed.findThread (Auth.Table.get_some found).1] at hfound
          exact (Option.some.inj hfound).symm
        rw [heq]
        exact ⟨_, Auth.Table.mem_set_self, rfl, rfl, rfl, rfl, rfl,
          fun reply hreply => List.mem_append_left _ hreply⟩
      · exact ⟨other, Auth.Table.mem_set_of_ne hother hsame, .refl other⟩
    | statusChanged | commentUpdated | commentDeleted | replyUpdated | replyDeleted =>
      cases hcreation

theorem Created.keeps (hkeyed : Keyed r) (h : Created backend r r') :
    Keyed r' ∧ KeepsThreads r r' := by
  obtain ⟨commands, hcreations, rfl⟩ := h
  induction commands generalizing r with
  | nil => exact ⟨hkeyed, .of_eq rfl⟩
  | cons command commands ih =>
    rw [List.forall_mem_cons] at hcreations
    have hfirst : KeepsThreads r (perform backend r command).2 :=
      keepsThreads_creation hkeyed hcreations.1
    have hnext : Keyed (perform backend r command).2 :=
      hkeyed.effect (perform_effect hkeyed.notified command)
    obtain ⟨hlast, hlater⟩ := ih hnext hcreations.2
    refine ⟨hlast, fun thread hthread => ?_⟩
    obtain ⟨thread', hthread', hkeeps⟩ := hfirst thread hthread
    obtain ⟨thread'', hthread'', hkeeps'⟩ := hlater thread' hthread'
    exact ⟨thread'', hthread'', hkeeps.trans hkeeps'⟩

theorem keyed_of_run {accounts : List Auth.Account} {commands : List ReviewCommand} {s : Journal}
    (hrun : Execution.run (Journal.step backend) (.empty accounts) commands = some s) :
    Keyed s.repository := by
  have hnext : ∀ s command s', Keyed s.repository → Journal.step backend s command = some s' →
      Keyed s'.repository := by
    intro s command s' hkeyed hstep
    obtain rfl := Option.some.inj hstep
    exact hkeyed.effect (perform_effect hkeyed.notified command)
  exact @Execution.invariant_of_run _ _ _ (fun s : Journal => Keyed s.repository) hnext
    (.empty accounts) s commands (Keyed.empty accounts) hrun

theorem keepsThreads_chain {snapshots : List ReviewRepository} (hkeyed : Keyed r)
    (hchain : (r :: snapshots).IsChain (Created backend)) :
    ∀ r' ∈ r :: snapshots, KeepsThreads r r' := by
  induction snapshots generalizing r with
  | nil =>
    intro r' hr'
    rw [List.mem_singleton.1 hr']
    exact .of_eq rfl
  | cons next snapshots ih =>
    rw [List.isChain_cons_cons] at hchain
    obtain ⟨hnext, hfirst⟩ := hchain.1.keeps hkeyed
    rw [List.forall_mem_cons]
    refine ⟨.of_eq rfl, fun r' hr' thread hthread => ?_⟩
    obtain ⟨thread', hthread', hkeeps⟩ := hfirst thread hthread
    obtain ⟨thread'', hthread'', hkeeps'⟩ := ih hnext hchain.2 r' hr' thread' hthread'
    exact ⟨thread'', hthread'', hkeeps.trans hkeeps'⟩

end Creations

section Service
variable {service : PageService} {snapshots : List ReviewRepository} {r : ReviewRepository}

theorem PageService.nodup_shown (query : CommentQuery)
    (h : (r.threads.map PageCommentThread.id).Nodup) :
    (((service.matching query r).map (service.shownItem query)).map
      fun item => item.thread.position).Nodup := by
  have hshown : ((service.matching query r).map (service.shownItem query)).map
      (fun item => item.thread.position) =
        (service.matching query r).map PageCommentThread.position := by
    rw [List.map_map]
    exact List.map_congr_left fun thread _ => service.shownItem_position query thread
  have hids : (((service.matching query r).map PageCommentThread.position).map
      ReviewPosition.id).Nodup := by
    rw [List.map_map]
    exact h.sublist ((List.filter_sublist.trans List.filter_sublist).map PageCommentThread.id)
  rw [hshown]
  exact hids.of_map

theorem Listable.commentKeys (h : Listable service.collate snapshots) (query : CommentQuery)
    (hr : r ∈ snapshots) :
    ∀ item ∈ (service.matching query r).map (service.shownItem query),
      (∃ r ∈ snapshots, ∃ thread ∈ r.threads, thread.id = item.thread.position.id) ∧
        item.thread.position.Valid := by
  intro item hitem
  obtain ⟨thread, hthread, rfl⟩ := List.mem_map.1 hitem
  rw [service.shownItem_position query thread]
  have hmem := PageService.mem_matching hthread
  exact ⟨⟨r, hr, thread, hmem, rfl⟩, (h.valid r hr thread hmem).1⟩

/-- A thread that is kept is still what a query asks for. -/
theorem Keeps.matching {query : CommentQuery} {r' : ReviewRepository}
    {thread thread' : PageCommentThread} (h : Keeps thread thread')
    (hthread : thread ∈ service.matching query r) (hthread' : thread' ∈ r'.threads) :
    thread' ∈ service.matching query r' := by
  unfold PageService.matching CommentPageInput.filtered CommentPageInput.threadsInScope at *
  rw [List.mem_filter, List.mem_filter] at *
  unfold CommentPageInput.isScoped CommentPageInput.isSelected at *
  rw [h.revisionId, h.routePath, h.status, h.author]
  exact ⟨⟨hthread', hthread.1.2⟩, hthread.2⟩

theorem Keeps.replyThread {query : ReplyQuery} {r' : ReviewRepository}
    {thread thread' : PageCommentThread} (h : Keeps thread thread')
    (hnodup : (r'.threads.map PageCommentThread.id).Nodup)
    (hthread : query.thread r = some thread) (hthread' : thread' ∈ r'.threads) :
    query.thread r' = some thread' := by
  unfold ReplyQuery.thread at *
  obtain ⟨hfound, hscope⟩ := Option.filter_eq_some_iff.1 hthread
  have hid : thread'.id = query.commentId :=
    (congrArg ReviewPosition.id h.position).trans (findThread_id hfound)
  have hfound' : r'.findThread query.commentId = some thread' := by
    rw [← hid]
    exact Auth.Table.get_of_mem hnodup hthread'
  rw [hfound', Option.filter_eq_some_iff, h.revisionId, h.routePath]
  exact ⟨rfl, hscope⟩

theorem ReplyQuery.thread_mem (query : ReplyQuery) {thread : PageCommentThread}
    (h : query.thread r = some thread) : thread ∈ r.threads ∧ query.replies r = thread.replies := by
  refine ⟨(Auth.Table.get_some (Option.filter_eq_some_iff.1 h).1).1, ?_⟩
  unfold ReplyQuery.replies
  rw [h]
  rfl

theorem Listable.isOpaque (h : Listable service.collate snapshots) (hr : r ∈ snapshots)
    {query : ReplyQuery} {thread : PageCommentThread} (hthread : query.thread r = some thread) :
    isOpaqueReviewId query.commentId = true := by
  have hvalid := (h.valid r hr thread (query.thread_mem hthread).1).1.id
  rw [show thread.position.id = query.commentId from
    findThread_id (Option.filter_eq_some_iff.1 hthread).1] at hvalid
  exact hvalid

theorem Listable.replyKeys (h : Listable service.collate snapshots) (hr : r ∈ snapshots)
    {query : ReplyQuery} {thread : PageCommentThread} (hthread : query.thread r = some thread) :
    ∀ reply ∈ query.replies r, (∃ r ∈ snapshots, ∃ thread ∈ r.threads, ∃ reply' ∈ thread.replies,
      reply'.id = reply.position.id) ∧ reply.position.Valid := by
  obtain ⟨hmem, hreplies⟩ := query.thread_mem hthread
  intro reply hreply
  rw [hreplies] at hreply
  exact ⟨⟨r, hr, thread, hmem, reply, hreply, rfl⟩, (h.valid r hr thread hmem).2 reply hreply⟩

theorem Listable.nodup_replies (h : Listable service.collate snapshots) (hr : r ∈ snapshots)
    {query : ReplyQuery} {thread : PageCommentThread} (hthread : query.thread r = some thread) :
    ((query.replies r).map ReviewReply.position).Nodup := by
  obtain ⟨hmem, hreplies⟩ := query.thread_mem hthread
  have hids : ((thread.replies.map ReviewReply.position).map ReviewPosition.id).Nodup := by
    rw [List.map_map]
    exact h.replies r hr thread hmem
  rw [hreplies]
  exact hids.of_map

/-- The comments of a repository at rest are enumerated. -/
theorem comments_enumerated (hpaged : service.Paged) (h : Listable service.collate [r])
    (query : CommentQuery) (reads : ℕ)
    (hreads : (service.matching query r).length ≤ service.pageCommentLimit * (reads + 1)) :
    ∃ pages, followPages (fun r => service.commentPage r query) (List.replicate (reads + 1) r)
        none = .ok (some pages) ∧
      Enumerates service.pageCommentLimit ((KeysetPages.sorted PageCommentThread.position
        (compareReviewPosition service.collate) (service.matching query r)).map
          (service.shownItem query)) pages := by
  have hr : r ∈ [r] := List.mem_singleton_self r
  have hkeys := h.commentKeys query hr
  have hshown : (fun item : PageCommentPageItem => item.thread.position) ∘
      service.shownItem query = PageCommentThread.position :=
    funext (service.shownItem_position query)
  obtain ⟨pages, hfollow, henumerates⟩ := followPages_enumerates
    (some (service.scope query)) (fun r => service.commentPage r query)
    (fun r => (service.matching query r).map (service.shownItem query))
    (compareReviewPosition_total h.threadOrder) hpaged.comments hkeys
    (service.nodup_shown query (h.threads r hr))
    (fun before hbefore => commentPage_eq hpaged (h.valid r hr) query before hbefore) reads
    (by rw [List.length_map]; exact hreads)
  rw [KeysetPages.sorted_map, hshown] at henumerates
  exact ⟨pages, hfollow, henumerates⟩

/-- The replies of a thread at rest are enumerated. -/
theorem replies_enumerated (hpaged : service.Paged) (h : Listable service.collate [r])
    {query : ReplyQuery} {thread : PageCommentThread} (hthread : query.thread r = some thread)
    (reads : ℕ) (hreads : thread.replies.length ≤ service.replyLimit * (reads + 1)) :
    ∃ pages, followPages (fun r => service.replyPage r query) (List.replicate (reads + 1) r)
        none = .ok (some pages) ∧
      Enumerates service.replyLimit (KeysetPages.sorted ReviewReply.position
        (compareReviewPosition service.collate) thread.replies) pages := by
  have hr : r ∈ [r] := List.mem_singleton_self r
  obtain ⟨hmem, hreplies⟩ := query.thread_mem hthread
  have hkeys := h.replyKeys hr hthread
  have hid : isOpaqueReviewId query.commentId = true := h.isOpaque hr hthread
  obtain ⟨pages, hfollow, henumerates⟩ := followPages_enumerates none
    (fun r => service.replyPage r query) query.replies
    (compareReviewPosition_total h.replyOrder) hpaged.replies hkeys (h.nodup_replies hr hthread)
    (fun before hbefore => replyPage_eq hpaged hid (by rw [hthread]; rfl)
      (fun reply hreply => (hkeys reply hreply).2) before hbefore) reads
    (by rw [hreplies]; exact hreads)
  rw [hreplies] at henumerates
  exact ⟨pages, hfollow, henumerates⟩

/-- Comments created while comments are read hide none of those before, and show none twice. -/
theorem comments_shown (hpaged : service.Paged) (hkeyed : Keyed r) {later : List ReviewRepository}
    (hchain : (r :: later).IsChain (Created service.backend))
    (h : Listable service.collate (r :: later)) (query : CommentQuery) :
    ∃ result, followPages (fun r => service.commentPage r query) (r :: later) none = .ok result ∧
      ∀ pages, result = some pages → ShowsOnce service.collate (fun item => item.thread.position)
        service.pageCommentLimit ((service.matching query r).map PageCommentThread.position)
          pages := by
  refine followPages_shows (some (service.scope query)) (fun r => service.commentPage r query)
    (fun r => (service.matching query r).map (service.shownItem query))
    (compareReviewPosition_total h.threadOrder) hpaged.comments
    (fun r' hr' => h.commentKeys query hr') (fun r' hr' => service.nodup_shown query (h.threads r' hr'))
    (fun r' hr' before hbefore => commentPage_eq hpaged (h.valid r' hr') query before hbefore) ?_
  intro place hplace r' hr'
  obtain ⟨thread, hthread, rfl⟩ := List.mem_map.1 hplace
  obtain ⟨thread', hthread', hkeeps⟩ :=
    keepsThreads_chain hkeyed hchain r' hr' thread (PageService.mem_matching hthread)
  refine ⟨_, List.mem_map_of_mem (hkeeps.matching hthread hthread'), ?_⟩
  rw [service.shownItem_position query thread', hkeeps.position]

/-- Replies created while replies are read hide none of those before, and show none twice. -/
theorem replies_shown (hpaged : service.Paged) (hkeyed : Keyed r) {later : List ReviewRepository}
    (hchain : (r :: later).IsChain (Created service.backend))
    (h : Listable service.collate (r :: later)) {query : ReplyQuery} {thread : PageCommentThread}
    (hthread : query.thread r = some thread) :
    ∃ result, followPages (fun r => service.replyPage r query) (r :: later) none = .ok result ∧
      ∀ pages, result = some pages → ShowsOnce service.collate ReviewReply.position
        service.replyLimit (thread.replies.map ReviewReply.position) pages := by
  have hkept : ∀ r' ∈ r :: later, ∃ thread', query.thread r' = some thread' ∧
      Keeps thread thread' := by
    intro r' hr'
    obtain ⟨thread', hthread', hkeeps⟩ :=
      keepsThreads_chain hkeyed hchain r' hr' thread (query.thread_mem hthread).1
    exact ⟨thread', hkeeps.replyThread (h.threads r' hr') hthread hthread', hkeeps⟩
  have hid : isOpaqueReviewId query.commentId = true := h.isOpaque List.mem_cons_self hthread
  refine followPages_shows none (fun r => service.replyPage r query) query.replies
    (compareReviewPosition_total h.replyOrder) hpaged.replies ?_ ?_ ?_ ?_
  · intro r' hr'
    obtain ⟨thread', hthread', -⟩ := hkept r' hr'
    exact h.replyKeys hr' hthread'
  · intro r' hr'
    obtain ⟨thread', hthread', -⟩ := hkept r' hr'
    exact h.nodup_replies hr' hthread'
  · intro r' hr' before hbefore
    obtain ⟨thread', hthread', -⟩ := hkept r' hr'
    exact replyPage_eq hpaged hid (by rw [hthread']; rfl)
      (fun reply hreply => (h.replyKeys hr' hthread' reply hreply).2) before hbefore
  · intro place hplace r' hr'
    obtain ⟨reply, hreply, rfl⟩ := List.mem_map.1 hplace
    obtain ⟨thread', hthread', hkeeps⟩ := hkept r' hr'
    refine ⟨reply, ?_, rfl⟩
    rw [(query.thread_mem hthread').2]
    exact hkeeps.replies reply hreply

end Service

/-- Following the pages shows everything once, and cursors come back as they were. -/
theorem pagination_exact (service : PageService) (hpaged : service.Paged) :
    (∀ cursor : ReviewPageCursor, cursor.Valid → ∃ text, encodeReviewPageCursor cursor = .ok text ∧
      normalizeReviewPageCursor (some text) = .ok (some cursor)) ∧
    (∀ r, Listable service.collate [r] → ∀ query reads,
      (service.matching query r).length ≤ service.pageCommentLimit * (reads + 1) →
      ∃ pages, followPages (fun r => service.commentPage r query) (List.replicate (reads + 1) r)
          none = .ok (some pages) ∧
        Enumerates service.pageCommentLimit ((KeysetPages.sorted PageCommentThread.position
          (compareReviewPosition service.collate) (service.matching query r)).map
            (service.shownItem query)) pages) ∧
    (∀ r, Listable service.collate [r] → ∀ (query : ReplyQuery) thread reads,
      query.thread r = some thread → thread.replies.length ≤ service.replyLimit * (reads + 1) →
      ∃ pages, followPages (fun r => service.replyPage r query) (List.replicate (reads + 1) r)
          none = .ok (some pages) ∧
        Enumerates service.replyLimit (KeysetPages.sorted ReviewReply.position
          (compareReviewPosition service.collate) thread.replies) pages) ∧
    ∀ accounts earlier s later,
      Execution.run (Journal.step service.backend) (.empty accounts) earlier = some s →
      (s.repository :: later).IsChain (Created service.backend) →
      Listable service.collate (s.repository :: later) →
      (∀ query, ∃ result, followPages (fun r => service.commentPage r query)
          (s.repository :: later) none = .ok result ∧ ∀ pages, result = some pages →
        ShowsOnce service.collate (fun item => item.thread.position) service.pageCommentLimit
          ((service.matching query s.repository).map PageCommentThread.position) pages) ∧
      ∀ (query : ReplyQuery) thread, query.thread s.repository = some thread →
        ∃ result, followPages (fun r => service.replyPage r query) (s.repository :: later) none =
          .ok result ∧ ∀ pages, result = some pages →
        ShowsOnce service.collate ReviewReply.position service.replyLimit
          (thread.replies.map ReviewReply.position) pages := by
  refine ⟨fun cursor hvalid => ?_, fun r h query reads hreads => ?_,
    fun r h query thread reads hthread hreads => ?_,
    fun accounts earlier s later hrun hchain h => ?_⟩
  · have hencode := encodeReviewPageCursor_eq_ok.2 ⟨hvalid, rfl⟩
    exact ⟨_, hencode, normalize_encodeReviewPageCursor hencode⟩
  · exact comments_enumerated hpaged h query reads hreads
  · exact replies_enumerated hpaged h hthread reads hreads
  · have hkeyed := keyed_of_run hrun
    exact ⟨fun query => comments_shown hpaged hkeyed hchain h query,
      fun query thread hthread => replies_shown hpaged hkeyed hchain h hthread⟩

section Sample

/-- Strings compared by their code units. -/
def compareUnits (a b : JsString) : ℤ := KeysetPages.compareBy (List.map UInt16.toNat) a b

theorem compareUnits_total (ids : JsString → Prop) : KeysetPages.TotalOn compareUnits ids :=
  KeysetPages.totalOn_compareBy (List.map_injective_iff.2 fun _ _ h => UInt16.toNat_inj.1 h) ids

/-- The digest of the scope of `sampleQuery`. -/
def sampleDigest : JsString :=
  ofAscii "cb7174be3ee4ec865f6d804cd8430bc81a1f52e84192c7436b4291102d018f07"

def sampleService : PageService where
  backend := .inMemory
  collate := compareUnits
  sha256Hex _ := sampleDigest
  sha256Hex_isScope _ := by decide +kernel
  pageCommentLimit := 2
  replyLimit := 2

def sampleComment (id : String) (createdAt : ℤ) : ReviewCommand := .createPageComment
  { content := ⟨ofAscii id, ofAscii "text", guest, createdAt⟩
    revisionId := ofAscii "revision"
    routePath := ofAscii "/"
    anchor := .page
    access := sampleAccess
    actorUsername := ofAscii "guest"
    mentionUsernames := []
    actorAuthorizationVersion := 1 }

/-- Three comments, two of them of the same time. -/
def sampleStore : ReviewRepository :=
  (sampleCommands.take 1 ++ [sampleComment "b" 5, sampleComment "a" 5, sampleComment "c" 4]).foldl
    (fun r command => (perform .inMemory r command).2) (.empty [])

def sampleQuery : CommentQuery := ⟨ofAscii "revision", some (ofAscii "/"), none, none, false⟩

theorem pagination_exact_ties :
    ∃ pages, followPages (fun r => sampleService.commentPage r sampleQuery)
        (List.replicate 2 sampleStore) none = .ok (some pages) ∧
      Enumerates 2 ((KeysetPages.sorted PageCommentThread.position
        (compareReviewPosition compareUnits) (sampleService.matching sampleQuery sampleStore)).map
          (sampleService.shownItem sampleQuery)) pages := by
  have hvalid : ∀ thread ∈ sampleStore.threads, (isOpaqueReviewId thread.id = true ∧
      isTimeValue thread.createdAt = true) ∧ thread.replies = [] := by
    decide +kernel
  have hlistable : Listable sampleService.collate [sampleStore] := by
    refine ⟨?_, ?_, ?_, compareUnits_total _, compareUnits_total _⟩
    · decide +kernel
    · decide +kernel
    · intro r hr thread hthread
      rw [List.mem_singleton.1 hr] at hthread
      obtain ⟨⟨hid, htime⟩, hreplies⟩ := hvalid thread hthread
      rw [hreplies]
      exact ⟨⟨hid, htime⟩, fun _ hreply => absurd hreply List.not_mem_nil⟩
  exact (pagination_exact sampleService ⟨by decide, by decide⟩).2.1 sampleStore hlistable
    sampleQuery 1 (by decide +kernel)

end Sample

end Lotur.Review
