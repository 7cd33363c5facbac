import Lotur.Library.KeysetPages
import Lotur.Review.Operations
import Lotur.Review.PageCursor

/-! Pages of comments and of replies in the two repositories and in `ReviewService`. -/
namespace Lotur.Review
open JsString OpenHttp

structure ReviewPosition where
  createdAt : ℤ
  id : JsString
  deriving DecidableEq, Repr

structure ReviewPageInfo where
  hasMore : Bool
  nextCursor : Option JsString
  deriving DecidableEq, Repr

structure SelectedPage (α : Type) where
  items : List α
  pageInfo : ReviewPageInfo

def PageCommentThread.position (thread : PageCommentThread) : ReviewPosition :=
  ⟨thread.createdAt, thread.id⟩

def ReviewReply.position (reply : ReviewReply) : ReviewPosition := ⟨reply.createdAt, reply.id⟩

def ReviewPageCursor.position (cursor : ReviewPageCursor) : ReviewPosition :=
  ⟨cursor.createdAt, cursor.id⟩

section Pages
variable {α : Type} (collate : JsString → JsString → ℤ) (position : α → ReviewPosition)

/-- `collate` is `localeCompare` in memory and the collation of the database there. -/
def compareReviewPosition (left right : ReviewPosition) : ℤ :=
  let time := left.createdAt - right.createdAt
  if time = 0 then collate left.id right.id else time

def selectReviewPage (values : List α) (before : Option ReviewPageCursor) (limit : ℕ) :
    Except ReviewError (SelectedPage α) :=
  let descending := (values.filter fun value => before.all fun cursor =>
    decide (compareReviewPosition collate (position value) cursor.position < 0)).mergeSort
      fun left right =>
        decide (compareReviewPosition collate (position right) (position left) ≤ 0)
  let hasMore := decide (limit < descending.length)
  let selectedDescending := descending.take limit
  match selectedDescending.getLast? with
  | none => .ok ⟨selectedDescending.reverse, ⟨hasMore, none⟩⟩
  | some oldest =>
    if hasMore then do
      let nextCursor ← encodeReviewPageCursor ⟨(position oldest).createdAt, (position oldest).id, none⟩
      return ⟨selectedDescending.reverse, ⟨true, some nextCursor⟩⟩
    else .ok ⟨selectedDescending.reverse, ⟨false, none⟩⟩

/-- `(created_at, id) < ($1, $2)`. -/
def isRowBefore (left right : ReviewPosition) : Bool :=
  left.createdAt < right.createdAt ||
    left.createdAt = right.createdAt && collate left.id right.id < 0

/-- `ORDER BY created_at DESC, id DESC`. -/
def rowsDescending (left right : ReviewPosition) : Bool :=
  right.createdAt < left.createdAt ||
    left.createdAt = right.createdAt && collate right.id left.id ≤ 0

def reviewPageInfo (hasMore : Bool) (oldest : Option ReviewPosition) :
    Except ReviewError ReviewPageInfo :=
  match oldest with
  | none => .ok ⟨false, none⟩
  | some oldest =>
    if hasMore then do
      return ⟨true, some (← encodeReviewPageCursor ⟨oldest.createdAt, oldest.id, none⟩)⟩
    else .ok ⟨false, none⟩

/-- The query of one page asks for a row more than the page holds. -/
def readRows (values : List α) (before : Option ReviewPageCursor) (limit : ℕ) :
    Except ReviewError (SelectedPage α) := do
  let rows := ((values.filter fun value => before.all fun cursor =>
    isRowBefore collate (position value) cursor.position).mergeSort fun left right =>
      rowsDescending collate (position left) (position right)).take (limit + 1)
  let selected := rows.take limit
  let pageInfo ← reviewPageInfo (decide (limit < rows.length)) (selected.getLast?.map position)
  return ⟨selected.reverse, pageInfo⟩

def readReviewPage (backend : ReviewBackend) (values : List α) (before : Option ReviewPageCursor)
    (limit : ℕ) : Except ReviewError (SelectedPage α) :=
  match backend with
  | .inMemory => selectReviewPage collate position values before limit
  | .postgres _ => readRows collate position values before limit

end Pages

/-- The status filter of a repository; without one, every status is listed. -/
inductive StatusFilter where
  | opened
  | resolved
  deriving DecidableEq, Repr

structure CommentPageInput where
  revisionId : JsString
  routePath : Option JsString
  before : Option ReviewPageCursor
  limit : ℕ
  replyLimit : ℕ
  summaryOnly : Bool
  status : Option StatusFilter
  authorAccountId : Option JsString

structure PageCommentPageItem where
  thread : PageCommentThread
  replyPageInfo : ReviewPageInfo

structure PageCommentPage where
  comments : List PageCommentPageItem
  openCount : ℕ
  filteredCount : ℕ
  eventCursor : ℕ
  pageInfo : ReviewPageInfo

structure ReviewReplyPage where
  replies : List ReviewReply
  threadStatus : ReviewThreadStatus
  pageInfo : ReviewPageInfo

def isOpenReviewThread (thread : PageCommentThread) : Bool :=
  thread.status ≠ .resolved && thread.deletedAt = none

namespace CommentPageInput
variable (input : CommentPageInput)

def isScoped (revisionId routePath : JsString) : Bool :=
  revisionId = input.revisionId && input.routePath.all fun path => decide (routePath = path)

/-- The filters of status and author. -/
def isSelected (thread : PageCommentThread) : Bool :=
  (match input.status with
    | none => true
    | some .opened => thread.status ≠ .resolved
    | some .resolved => thread.status = .resolved) &&
  input.authorAccountId.all fun accountId => decide (thread.author.accountId = accountId)

def threadsInScope (r : ReviewRepository) : List PageCommentThread :=
  r.threads.filter fun thread => input.isScoped thread.revisionId thread.routePath

def filtered (r : ReviewRepository) : List PageCommentThread :=
  (input.threadsInScope r).filter input.isSelected

def eventCursor (backend : ReviewBackend) (r : ReviewRepository) : ℕ :=
  let ids := (r.events.filter fun event => input.isScoped event.revisionId event.routePath).map
    ReviewEvent.id
  match backend with
  | .inMemory => ids.getLast?.getD 0
  | .postgres _ => max (ids.foldl max 0) (((r.retention.filter fun row =>
      input.isScoped row.revisionId row.routePath).map EventRetention.trimmedThroughId).foldl max 0)

end CommentPageInput

section Repository
variable (backend : ReviewBackend) (collate : JsString → JsString → ℤ)

/-- A thread in a page; the database does not read its workflow history there. -/
def shownThread (thread : PageCommentThread) (replies : List ReviewReply) : PageCommentThread :=
  match backend with
  | .inMemory => { thread with replies := replies }
  | .postgres _ =>
    { thread with
      replies := replies
      workflowHistory := none
      workflowVersion := some (thread.workflowVersion.getD 1) }

def shownComment (input : CommentPageInput) (thread : PageCommentThread) :
    Except ReviewError PageCommentPageItem :=
  if input.summaryOnly then .ok ⟨shownThread backend thread [], ⟨false, none⟩⟩
  else do
    let page ← readReviewPage collate ReviewReply.position backend thread.replies none
      input.replyLimit
    return ⟨shownThread backend thread page.items, page.pageInfo⟩

def listPageCommentPage (r : ReviewRepository) (input : CommentPageInput) :
    Except ReviewError PageCommentPage := do
  let selected ← readReviewPage collate PageCommentThread.position backend (input.filtered r)
    input.before input.limit
  let comments ← selected.items.mapM (shownComment backend collate input)
  return {
    comments
    openCount := ((input.threadsInScope r).filter isOpenReviewThread).length
    filteredCount := (input.filtered r).length
    eventCursor := input.eventCursor backend r
    pageInfo := selected.pageInfo }

def listReplyPage (r : ReviewRepository) (revisionId routePath threadId : JsString)
    (before : Option ReviewPageCursor) (limit : ℕ) : Except ReviewError (Option ReviewReplyPage) :=
  match (r.findThread threadId).filter fun thread =>
      decide (thread.revisionId = revisionId ∧ thread.routePath = routePath) with
  | none => .ok none
  | some thread => do
    let page ← readReviewPage collate ReviewReply.position backend thread.replies before limit
    return some ⟨page.items, thread.status, page.pageInfo⟩

end Repository

/-- `DEFAULT_PAGE_COMMENT_LIMIT` and `DEFAULT_REPLY_LIMIT_PER_THREAD` are the limits. `sha256Hex` is
the digest of the text, in lower case hexadecimal digits. -/
structure PageService where
  backend : ReviewBackend
  collate : JsString → JsString → ℤ
  sha256Hex : JsString → JsString
  sha256Hex_isScope : ∀ text, isScope (sha256Hex text) = true
  pageCommentLimit : ℕ
  replyLimit : ℕ

/-- The query of a page once its binding and its filters were found valid; `revisionId` is the
revision of the binding. -/
structure CommentQuery where
  revisionId : JsString
  routePath : Option JsString
  status : Option StatusFilter
  authorAccountId : Option JsString
  isControl : Bool

structure ReplyQuery where
  revisionId : JsString
  routePath : JsString
  commentId : JsString

namespace PageService
variable (service : PageService) (r : ReviewRepository)

def statusText : Option StatusFilter → JsString
  | none => ofAscii "ALL"
  | some .opened => ofAscii "OPEN"
  | some .resolved => ofAscii "RESOLVED"

/-- `JSON.stringify` of a text or of what is missing in an array. -/
def textOrNull (text : Option JsString) : JsString := (text.map quoteJsonString).getD (ofAscii "null")

def scope (query : CommentQuery) : JsString :=
  service.sha256Hex (jsonArray [quoteJsonString query.revisionId, textOrNull query.routePath,
    quoteJsonString (statusText query.status), textOrNull query.authorAccountId])

def input (query : CommentQuery) (before : Option ReviewPageCursor) : CommentPageInput where
  revisionId := query.revisionId
  routePath := query.routePath
  before := before
  limit := service.pageCommentLimit
  replyLimit := service.replyLimit
  summaryOnly := query.isControl
  status := query.status
  authorAccountId := query.authorAccountId

/-- A cursor of other filters; one without a scope is taken where nothing is filtered. -/
def isForeign (query : CommentQuery) (cursor : ReviewPageCursor) : Bool :=
  cursor.scope ≠ some (service.scope query) &&
    (cursor.scope.isSome || query.status.isSome || query.authorAccountId.isSome)

def listPageCommentPage (query : CommentQuery) (before : Option JsString) :
    Except ReviewError PageCommentPage := do
  let before ← normalizeReviewPageCursor before
  if before.any (service.isForeign query) = true then
    .error ⟨.invalidInput, "review cursor does not match its filters"⟩
  else
    let page ← Review.listPageCommentPage service.backend service.collate r
      (service.input query before)
    match ← normalizeReviewPageCursor page.pageInfo.nextCursor with
    | none => return page
    | some next =>
      let nextCursor ← encodeReviewPageCursor { next with scope := some (service.scope query) }
      return { page with pageInfo := { page.pageInfo with nextCursor := some nextCursor } }

def listReplyPage (query : ReplyQuery) (before : Option JsString) :
    Except ReviewError ReviewReplyPage := do
  let threadId ← normalizeOpaqueReviewId query.commentId "comment id"
  let before ← normalizeReviewPageCursor before
  match ← Review.listReplyPage service.backend service.collate r query.revisionId query.routePath
      threadId before service.replyLimit with
  | none => .error ⟨.notFound, "review thread was not found"⟩
  | some page => return page

def commentPage (query : CommentQuery) (before : Option JsString) :
    Except ReviewError (SelectedPage PageCommentPageItem) :=
  (service.listPageCommentPage r query before).map fun page => ⟨page.comments, page.pageInfo⟩

def replyPage (query : ReplyQuery) (before : Option JsString) :
    Except ReviewError (SelectedPage ReviewReply) :=
  (service.listReplyPage r query before).map fun page => ⟨page.replies, page.pageInfo⟩

end PageService

/-- A reader who starts without a cursor and follows `nextCursor` until `hasMore` is false; each read
meets the store as it is then. Nothing comes back when the reads end before. -/
def followPages {σ α : Type} (read : σ → Option JsString → Except ReviewError (SelectedPage α)) :
    List σ → Option JsString → Except ReviewError (Option (List (List α)))
  | [], _ => .ok none
  | s :: later, before => do
    let page ← read s before
    if page.pageInfo.hasMore then
      return (← followPages read later page.pageInfo.nextCursor).map (page.items :: ·)
    else return some [page.items]

end Lotur.Review
