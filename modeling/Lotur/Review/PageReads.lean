import Lotur.Review.Journal
import Lotur.Review.Pagination

/-! What a reader sees who follows the pages of a review repository. -/
namespace Lotur.Review
open JsString OpenHttp

section Order
variable {collate : JsString → JsString → ℤ} {ids : JsString → Prop}

/-- Positions are ordered as their ids are where the times are the same. -/
theorem compareReviewPosition_total (h : KeysetPages.TotalOn collate ids) :
    KeysetPages.TotalOn (compareReviewPosition collate) fun position => ids position.id where
  refl a ha := by
    unfold compareReviewPosition
    dsimp only
    rw [if_pos (sub_self a.createdAt)]
    exact h.refl a.id ha
  eq_of a b ha hb heq := by
    unfold compareReviewPosition at heq
    dsimp only at heq
    split_ifs at heq with htime
    · have hid := h.eq_of a.id b.id ha hb heq
      obtain ⟨createdAt, id⟩ := a
      obtain ⟨createdAt', id'⟩ := b
      rw [ReviewPosition.mk.injEq]
      exact ⟨sub_eq_zero.1 htime, hid⟩
    · exact absurd heq htime
  swap a b ha hb := by
    unfold compareReviewPosition
    dsimp only
    split_ifs with htime htime' htime'
    · exact h.swap a.id b.id ha hb
    · omega
    · omega
    · omega
  trans a b c ha hb hc hab hbc := by
    unfold compareReviewPosition at *
    dsimp only at *
    split_ifs at * with h1 h2 h3 h3 h2 h3 h3
    · exact h.trans a.id b.id c.id ha hb hc hab hbc
    all_goals omega

theorem isRowBefore_eq (left right : ReviewPosition) : isRowBefore collate left right =
    decide (compareReviewPosition collate left right < 0) := by
  unfold isRowBefore compareReviewPosition
  dsimp only
  rw [Bool.eq_iff_iff, Bool.or_eq_true, Bool.and_eq_true, decide_eq_true_eq, decide_eq_true_eq,
    decide_eq_true_eq, decide_eq_true_eq]
  split_ifs with htime <;> omega

theorem rowsDescending_eq (left right : ReviewPosition) : rowsDescending collate left right =
    decide (compareReviewPosition collate right left ≤ 0) := by
  unfold rowsDescending compareReviewPosition
  dsimp only
  rw [Bool.eq_iff_iff, Bool.or_eq_true, Bool.and_eq_true, decide_eq_true_eq, decide_eq_true_eq,
    decide_eq_true_eq, decide_eq_true_eq]
  split_ifs with htime <;> omega

end Order

structure ReviewPosition.Valid (position : ReviewPosition) : Prop where
  id : isOpaqueReviewId position.id = true
  time : isTimeValue position.createdAt = true

/-- The text of the cursor at a position. -/
def cursorText (scope : Option JsString) (position : ReviewPosition) : JsString :=
  Base64Url.encode (ReviewPageCursor.bytes ⟨position.createdAt, position.id, scope⟩)

section Texts
variable {scope : Option JsString} {position : ReviewPosition}

theorem encode_cursorText (h : position.Valid) (hscope : ∀ text, scope = some text → isScope text = true) :
    encodeReviewPageCursor ⟨position.createdAt, position.id, scope⟩ =
      .ok (cursorText scope position) :=
  encodeReviewPageCursor_eq_ok.2 ⟨⟨h.id, h.time, hscope⟩, rfl⟩

theorem normalize_cursorText (h : position.Valid)
    (hscope : ∀ text, scope = some text → isScope text = true) :
    normalizeReviewPageCursor (some (cursorText scope position)) =
      .ok (some ⟨position.createdAt, position.id, scope⟩) :=
  normalize_encodeReviewPageCursor (encode_cursorText h hscope)

end Texts

section Reads
variable {α : Type} {collate : JsString → JsString → ℤ} {position : α → ReviewPosition}
  {values : List α}

/-- A page of the abstract collection, with the text of its cursor. -/
def pageOf (collate : JsString → JsString → ℤ) (position : α → ReviewPosition)
    (scope : Option JsString) (values : List α) (before : Option ReviewPosition) (limit : ℕ) :
    SelectedPage α :=
  let page := KeysetPages.page (compareReviewPosition collate) position values before limit
  ⟨page.items, ⟨page.next.isSome, page.next.map (cursorText scope)⟩⟩

theorem mem_pageOf {scope : Option JsString} {before : Option ReviewPosition} {limit : ℕ} {value : α}
    (h : value ∈ (pageOf collate position scope values before limit).items) : value ∈ values := by
  unfold pageOf KeysetPages.page at h
  exact (KeysetPages.mem_remaining.1 (List.mem_of_mem_take (List.mem_reverse.1 h))).1

theorem page_next {before : Option ReviewPosition} {limit : ℕ} {next : ReviewPosition}
    (h : (KeysetPages.page (compareReviewPosition collate) position values before limit).next =
      some next) : ∃ value ∈ values, position value = next := by
  unfold KeysetPages.page at h
  dsimp only at h
  split_ifs at h
  obtain ⟨value, hvalue, rfl⟩ := Option.map_eq_some_iff.1 h
  exact ⟨value, (KeysetPages.mem_remaining.1
    (List.mem_of_mem_take (List.mem_of_getLast? hvalue))).1, rfl⟩

section Page
variable {before : Option ReviewPosition} {limit : ℕ} {scope : Option JsString}

theorem pageOf_full (hpos : 0 < limit) (hmore : limit < (KeysetPages.remaining
      (compareReviewPosition collate) position values before).length) :
    ∃ oldest ∈ values, ((KeysetPages.remaining (compareReviewPosition collate) position values
        before).take limit).getLast? = some oldest ∧
      pageOf collate position scope values before limit =
        ⟨((KeysetPages.remaining (compareReviewPosition collate) position values before).take
          limit).reverse, ⟨true, some (cursorText scope (position oldest))⟩⟩ := by
  have hne : (KeysetPages.remaining (compareReviewPosition collate) position values before).take
      limit ≠ [] := by
    rw [← List.length_pos_iff, List.length_take]
    omega
  obtain ⟨oldest, holdest⟩ := Option.isSome_iff_exists.1 (List.getLast?_isSome.2 hne)
  refine ⟨oldest, (KeysetPages.mem_remaining.1
    (List.mem_of_mem_take (List.mem_of_getLast? holdest))).1, holdest, ?_⟩
  unfold pageOf KeysetPages.page
  dsimp only
  rw [if_pos hmore, holdest]
  rfl

theorem pageOf_last (hlast : ¬ limit < (KeysetPages.remaining
      (compareReviewPosition collate) position values before).length) :
    pageOf collate position scope values before limit =
      ⟨((KeysetPages.remaining (compareReviewPosition collate) position values before).take
        limit).reverse, ⟨false, none⟩⟩ := by
  unfold pageOf KeysetPages.page
  dsimp only
  rw [if_neg hlast]
  rfl

end Page

theorem descending_eq (values : List α) (before : Option ReviewPageCursor) :
    ((values.filter fun value => before.all fun cursor =>
      decide (compareReviewPosition collate (position value) cursor.position < 0)).mergeSort
        fun left right =>
          decide (compareReviewPosition collate (position right) (position left) ≤ 0)) =
    KeysetPages.remaining (compareReviewPosition collate) position values
      (before.map ReviewPageCursor.position) := by
  cases before with
  | none => rfl
  | some cursor => rfl

theorem selectReviewPage_eq {limit : ℕ} (hpos : 0 < limit)
    (hvalid : ∀ value ∈ values, (position value).Valid) (before : Option ReviewPageCursor) :
    selectReviewPage collate position values before limit =
      .ok (pageOf collate position none values (before.map ReviewPageCursor.position) limit) := by
  unfold selectReviewPage
  dsimp only
  rw [descending_eq]
  by_cases hmore : limit < (KeysetPages.remaining (compareReviewPosition collate) position values
      (before.map ReviewPageCursor.position)).length
  · obtain ⟨oldest, hmem, holdest, hpage⟩ := @pageOf_full _ _ _ _ _ _ none hpos hmore
    rw [holdest, hpage]
    dsimp only
    rw [if_pos (decide_eq_true hmore), encode_cursorText (hvalid oldest hmem) (by rintro _ ⟨⟩)]
    rfl
  · rw [pageOf_last hmore, decide_eq_false hmore]
    cases ((KeysetPages.remaining (compareReviewPosition collate) position values
      (before.map ReviewPageCursor.position)).take limit).getLast? with
    | none => rfl
    | some oldest => rfl

theorem readRows_eq {limit : ℕ} (hpos : 0 < limit)
    (hvalid : ∀ value ∈ values, (position value).Valid) (before : Option ReviewPageCursor) :
    readRows collate position values before limit =
      .ok (pageOf collate position none values (before.map ReviewPageCursor.position) limit) := by
  unfold readRows
  simp only [isRowBefore_eq, rowsDescending_eq]
  rw [descending_eq]
  generalize hread : KeysetPages.remaining (compareReviewPosition collate) position values
    (before.map ReviewPageCursor.position) = rows
  have htake : (rows.take (limit + 1)).take limit = rows.take limit := by
    rw [List.take_take, min_eq_left (Nat.le_succ limit)]
  have hlength : limit < (rows.take (limit + 1)).length ↔ limit < rows.length := by
    rw [List.length_take]
    omega
  rw [htake, decide_eq_decide.2 hlength]
  subst hread
  by_cases hmore : limit < (KeysetPages.remaining (compareReviewPosition collate) position values
      (before.map ReviewPageCursor.position)).length
  · obtain ⟨oldest, hmem, holdest, hpage⟩ := @pageOf_full _ _ _ _ _ _ none hpos hmore
    rw [holdest, hpage, Option.map_some]
    unfold reviewPageInfo
    dsimp only
    rw [if_pos (decide_eq_true hmore), encode_cursorText (hvalid oldest hmem) (by rintro _ ⟨⟩)]
    rfl
  · rw [pageOf_last hmore, decide_eq_false hmore]
    unfold reviewPageInfo
    cases ((KeysetPages.remaining (compareReviewPosition collate) position values
      (before.map ReviewPageCursor.position)).take limit).getLast? with
    | none => rfl
    | some oldest => rfl

/-- Both repositories read a page of the abstract collection. -/
theorem readReviewPage_eq (backend : ReviewBackend) {limit : ℕ} (hpos : 0 < limit)
    (hvalid : ∀ value ∈ values, (position value).Valid) (before : Option ReviewPageCursor) :
    readReviewPage collate position backend values before limit =
      .ok (pageOf collate position none values (before.map ReviewPageCursor.position) limit) := by
  cases backend with
  | inMemory => exact selectReviewPage_eq hpos hvalid before
  | postgres database => exact readRows_eq hpos hvalid before

end Reads

section Follow
variable {σ α : Type} {collate : JsString → JsString → ℤ} {position : α → ReviewPosition}
  {scope : Option JsString} {limit : ℕ}

/-- Following the cursors is walking through the abstract pages. -/
theorem followPages_eq {read : σ → Option JsString → Except ReviewError (SelectedPage α)}
    {listed : σ → List α} {snapshots : List σ}
    (hvalid : ∀ s ∈ snapshots, ∀ value ∈ listed s, (position value).Valid)
    (hread : ∀ s ∈ snapshots, ∀ before : Option ReviewPosition, (∀ b, before = some b → b.Valid) →
      read s (before.map (cursorText scope)) =
        .ok (pageOf collate position scope (listed s) before limit))
    (before : Option ReviewPosition) (hbefore : ∀ b, before = some b → b.Valid) :
    followPages read snapshots (before.map (cursorText scope)) =
      .ok (KeysetPages.walk (compareReviewPosition collate) position limit
        (snapshots.map listed) before) := by
  induction snapshots generalizing before with
  | nil => rfl
  | cons s later ih =>
    rw [List.forall_mem_cons] at hvalid hread
    rw [followPages, hread.1 before hbefore, List.map_cons, KeysetPages.walk]
    cases hnext : (KeysetPages.page (compareReviewPosition collate) position (listed s) before
        limit).next with
    | none =>
      have hpage : (pageOf collate position scope (listed s) before limit).pageInfo =
          ⟨false, none⟩ := by
        unfold pageOf
        dsimp only
        rw [hnext]
        rfl
      change (if (pageOf collate position scope (listed s) before limit).pageInfo.hasMore
        then _ else _) = _
      rw [hpage]
      rfl
    | some next =>
      obtain ⟨value, hvalue, rfl⟩ := page_next hnext
      have hpage : (pageOf collate position scope (listed s) before limit).pageInfo =
          ⟨true, (some (position value)).map (cursorText scope)⟩ := by
        unfold pageOf
        dsimp only
        rw [hnext]
        rfl
      have hlater := ih hvalid.2 hread.2 (some (position value))
        (fun b hb => Option.some.inj hb ▸ hvalid.1 value hvalue)
      change (if (pageOf collate position scope (listed s) before limit).pageInfo.hasMore
        then _ else _) = _
      rw [hpage, if_pos rfl, hlater]
      rfl

end Follow

section Service
variable {service : PageService} {r : ReviewRepository}

/-- The threads and the replies have positions a cursor can tell. -/
def ValidPositions (r : ReviewRepository) : Prop :=
  ∀ thread ∈ r.threads, thread.position.Valid ∧ ∀ reply ∈ thread.replies, reply.position.Valid

/-- The service has pages to read. -/
structure PageService.Paged (service : PageService) : Prop where
  comments : 0 < service.pageCommentLimit
  replies : 0 < service.replyLimit

namespace PageService

/-- The threads that the query asks for. -/
def matching (service : PageService) (query : CommentQuery) (r : ReviewRepository) :
    List PageCommentThread := (service.input query none).filtered r

/-- A thread as it stands in a page, with the first page of its replies. -/
def shownItem (service : PageService) (query : CommentQuery) (thread : PageCommentThread) :
    PageCommentPageItem :=
  if query.isControl then ⟨shownThread service.backend thread [], ⟨false, none⟩⟩
  else
    let page := pageOf service.collate ReviewReply.position none thread.replies none
      service.replyLimit
    ⟨shownThread service.backend thread page.items, page.pageInfo⟩

theorem mem_matching {query : CommentQuery} {thread : PageCommentThread}
    (h : thread ∈ service.matching query r) : thread ∈ r.threads :=
  List.mem_of_mem_filter (List.mem_of_mem_filter h)

theorem shownItem_position (query : CommentQuery) (thread : PageCommentThread) :
    (service.shownItem query thread).thread.position = thread.position := by
  have hthread : ∀ replies, (shownThread service.backend thread replies).position =
      thread.position := by
    intro replies
    unfold shownThread
    cases service.backend <;> rfl
  unfold shownItem
  split
  · exact hthread _
  · exact hthread _

end PageService

theorem mapM_eq_ok {α β : Type} {f : α → Except ReviewError β} {g : α → β} {values : List α}
    (h : ∀ value ∈ values, f value = .ok (g value)) : values.mapM f = .ok (values.map g) := by
  induction values with
  | nil => rfl
  | cons value values ih =>
    rw [List.forall_mem_cons] at h
    rw [List.mapM_cons, h.1, ih h.2]
    rfl

theorem normalize_before {scope : Option JsString} {before : Option ReviewPosition}
    (hbefore : ∀ b, before = some b → b.Valid)
    (hscope : ∀ text, scope = some text → isScope text = true) :
    normalizeReviewPageCursor (before.map (cursorText scope)) =
      .ok (before.map fun position => ⟨position.createdAt, position.id, scope⟩) := by
  cases before with
  | none => rfl
  | some position => exact normalize_cursorText (hbefore position rfl) hscope

theorem shownComment_eq (hpaged : service.Paged) (query : CommentQuery)
    (before : Option ReviewPageCursor) {thread : PageCommentThread}
    (hvalid : ∀ reply ∈ thread.replies, reply.position.Valid) :
    shownComment service.backend service.collate (service.input query before) thread =
      .ok (service.shownItem query thread) := by
  unfold shownComment PageService.shownItem
  change (if query.isControl = true then _ else _) = _
  split
  · rfl
  · change (readReviewPage service.collate ReviewReply.position service.backend thread.replies none
      service.replyLimit >>= fun page => _) = _
    rw [readReviewPage_eq service.backend hpaged.replies hvalid none]
    rfl

theorem listPageCommentPage_eq (hpaged : service.Paged) (hvalid : ValidPositions r)
    (query : CommentQuery) (before : Option ReviewPageCursor) :
    ∃ page, Review.listPageCommentPage service.backend service.collate r
        (service.input query before) = .ok page ∧
      page.comments = (pageOf service.collate PageCommentThread.position none
        (service.matching query r) (before.map ReviewPageCursor.position)
          service.pageCommentLimit).items.map (service.shownItem query) ∧
      page.pageInfo = (pageOf service.collate PageCommentThread.position none
        (service.matching query r) (before.map ReviewPageCursor.position)
          service.pageCommentLimit).pageInfo := by
  have hread := @readReviewPage_eq _ service.collate PageCommentThread.position
    (service.matching query r) service.backend _ hpaged.comments
    (fun thread hthread => (hvalid thread (PageService.mem_matching hthread)).1) before
  generalize hpage : pageOf service.collate PageCommentThread.position none
    (service.matching query r) (before.map ReviewPageCursor.position) service.pageCommentLimit =
      page at hread ⊢
  have hshown : ∀ thread ∈ page.items, shownComment service.backend service.collate
      (service.input query before) thread = .ok (service.shownItem query thread) := by
    intro thread hthread
    subst hpage
    exact shownComment_eq hpaged query before
      (hvalid thread (PageService.mem_matching (mem_pageOf hthread))).2
  unfold Review.listPageCommentPage
  change ∃ result, (readReviewPage service.collate PageCommentThread.position service.backend
    (service.matching query r) before service.pageCommentLimit >>= fun selected => _) = _ ∧ _
  rw [hread]
  change ∃ result, (page.items.mapM (shownComment service.backend service.collate
    (service.input query before)) >>= fun comments => _) = _ ∧ _
  rw [mapM_eq_ok hshown]
  exact ⟨_, rfl, rfl, rfl⟩

/-- A query reads a page of the threads it asks for. -/
theorem commentPage_eq (hpaged : service.Paged) (hvalid : ValidPositions r) (query : CommentQuery)
    (before : Option ReviewPosition) (hbefore : ∀ b, before = some b → b.Valid) :
    service.commentPage r query (before.map (cursorText (some (service.scope query)))) =
      .ok (pageOf service.collate (fun item => item.thread.position) (some (service.scope query))
        ((service.matching query r).map (service.shownItem query)) before
          service.pageCommentLimit) := by
  have hscope : ∀ text, some (service.scope query) = some text → isScope text = true := by
    rintro _ ⟨⟩
    exact service.sha256Hex_isScope _
  have hshown : (fun item : PageCommentPageItem => item.thread.position) ∘
      service.shownItem query = PageCommentThread.position :=
    funext (service.shownItem_position query)
  have hforeign : (before.map fun position : ReviewPosition =>
      (⟨position.createdAt, position.id, some (service.scope query)⟩ : ReviewPageCursor)).any
        (service.isForeign query) = false := by
    cases before with
    | none => rfl
    | some position =>
      rw [Option.map_some, Option.any_some]
      unfold PageService.isForeign
      rw [decide_eq_false (not_not.2 rfl), Bool.false_and]
  have hposition : (before.map fun position : ReviewPosition =>
      (⟨position.createdAt, position.id, some (service.scope query)⟩ : ReviewPageCursor)).map
        ReviewPageCursor.position = before := by
    cases before <;> rfl
  obtain ⟨page, hpage, hcomments, hinfo⟩ := listPageCommentPage_eq hpaged hvalid query
    (before.map fun position => ⟨position.createdAt, position.id, some (service.scope query)⟩)
  rw [hposition] at hcomments hinfo
  have hmap := KeysetPages.page_map (compareReviewPosition service.collate)
    (service.shownItem query) (fun item => item.thread.position) (service.matching query r) before
    service.pageCommentLimit
  rw [hshown] at hmap
  unfold PageService.commentPage PageService.listPageCommentPage
  rw [normalize_before hbefore hscope]
  change (Except.map _ (if (before.map fun position : ReviewPosition => _).any _ = true then _
    else _)) = _
  rw [if_neg (by rw [hforeign]; decide)]
  rw [hpage]
  change Except.map _ (normalizeReviewPageCursor page.pageInfo.nextCursor >>= fun next => _) = _
  unfold pageOf at hcomments hinfo ⊢
  rw [hmap]
  cases hnext : (KeysetPages.page (compareReviewPosition service.collate)
      PageCommentThread.position (service.matching query r) before service.pageCommentLimit).next with
  | none =>
    dsimp only at hcomments hinfo
    rw [hnext] at hinfo
    have hinfo' : page.pageInfo = ⟨false, none⟩ := hinfo
    rw [hinfo']
    change Except.ok (⟨page.comments, page.pageInfo⟩ : SelectedPage PageCommentPageItem) = _
    rw [hcomments, hinfo']
    rfl
  | some next =>
    dsimp only at hcomments hinfo
    rw [hnext] at hinfo
    have hinfo' : page.pageInfo = ⟨true, some (cursorText none next)⟩ := hinfo
    obtain ⟨thread, hthread, rfl⟩ := page_next hnext
    have hnextValid := (hvalid thread (PageService.mem_matching hthread)).1
    rw [hinfo', normalize_cursorText hnextValid (by rintro _ ⟨⟩)]
    change Except.map _ (encodeReviewPageCursor ⟨_, _, some (service.scope query)⟩ >>=
      fun nextCursor => _) = _
    rw [encode_cursorText hnextValid hscope]
    change Except.ok (⟨page.comments, ⟨true, some _⟩⟩ : SelectedPage PageCommentPageItem) = _
    rw [hcomments]
    rfl

/-- The thread whose replies the query asks for. -/
def ReplyQuery.thread (query : ReplyQuery) (r : ReviewRepository) : Option PageCommentThread :=
  (r.findThread query.commentId).filter fun thread =>
    decide (thread.revisionId = query.revisionId ∧ thread.routePath = query.routePath)

def ReplyQuery.replies (query : ReplyQuery) (r : ReviewRepository) : List ReviewReply :=
  ((query.thread r).map PageCommentThread.replies).getD []

theorem replyPage_eq (hpaged : service.Paged) {query : ReplyQuery}
    (hid : isOpaqueReviewId query.commentId = true) (hfound : (query.thread r).isSome)
    (hvalid : ∀ reply ∈ query.replies r, reply.position.Valid) (before : Option ReviewPosition)
    (hbefore : ∀ b, before = some b → b.Valid) :
    service.replyPage r query (before.map (cursorText none)) =
      .ok (pageOf service.collate ReviewReply.position none (query.replies r) before
        service.replyLimit) := by
  obtain ⟨thread, hthread⟩ := Option.isSome_iff_exists.1 hfound
  have hreplies : query.replies r = thread.replies := by
    unfold ReplyQuery.replies
    rw [hthread]
    rfl
  rw [hreplies] at hvalid ⊢
  have hposition : (before.map fun position : ReviewPosition =>
      (⟨position.createdAt, position.id, none⟩ : ReviewPageCursor)).map
        ReviewPageCursor.position = before := by
    cases before <;> rfl
  have hread := @readReviewPage_eq _ service.collate ReviewReply.position thread.replies
    service.backend _ hpaged.replies hvalid
    (before.map fun position => ⟨position.createdAt, position.id, none⟩)
  rw [hposition] at hread
  have hpage : Review.listReplyPage service.backend service.collate r query.revisionId
      query.routePath query.commentId
      (before.map fun position => ⟨position.createdAt, position.id, none⟩) service.replyLimit =
        .ok (some ⟨(pageOf service.collate ReviewReply.position none thread.replies before
          service.replyLimit).items, thread.status, (pageOf service.collate ReviewReply.position none
            thread.replies before service.replyLimit).pageInfo⟩) := by
    unfold Review.listReplyPage
    unfold ReplyQuery.thread at hthread
    rw [hthread]
    dsimp only
    rw [hread]
    rfl
  have hcomment : normalizeOpaqueReviewId query.commentId "comment id" = .ok query.commentId :=
    if_pos hid
  unfold PageService.replyPage PageService.listReplyPage
  rw [hcomment, normalize_before hbefore (by rintro _ ⟨⟩)]
  change Except.map _ (Review.listReplyPage service.backend service.collate r query.revisionId
    query.routePath query.commentId _ service.replyLimit >>= fun page => _) = _
  rw [hpage]
  rfl

end Service

end Lotur.Review
