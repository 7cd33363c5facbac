import Lotur.Library.OlderPages
import Lotur.Library.WhileLoop
import Lotur.Review.Pagination

/-! The comments and replies a panel has loaded, and how it reads them again. -/
namespace Lotur.Review.PageState
open JsString

/-- A reply with its other fields. -/
structure PublicReply (β : Type) where
  id : JsString
  createdAt : JsString
  content : β
  deriving DecidableEq

/-- A comment with its other fields. -/
structure PublicComment (γ β : Type) where
  id : JsString
  createdAt : JsString
  replies : List (PublicReply β)
  replyPageInfo : Option ReviewPageInfo
  content : γ
  deriving DecidableEq

structure CommentPage (γ β : Type) where
  comments : List (PublicComment γ β)
  openCount : ℕ
  eventCursor : JsString
  pageInfo : ReviewPageInfo

structure ReplyPage (β : Type) where
  replies : List (PublicReply β)
  pageInfo : ReviewPageInfo

structure ReviewApi (ε γ β : Type) where
  page : JsString → Option JsString → Except ε (CommentPage γ β)
  replies : JsString → JsString → Option JsString → Except ε (ReplyPage β)

/-- Strings are ordered by their code units. -/
def units (text : JsString) : List ℕ := text.map UInt16.toNat

theorem units_injective : Function.Injective units :=
  List.map_injective_iff.2 fun _ _ h => UInt16.toNat_inj.1 h

section Refresh
variable {ε β γ α : Type}

def mergeOlder (id : α → JsString) (older latest : List α) : List α :=
  older ++ latest.filter fun item => decide (id item ∉ older.map id)

def PublicComment.atOrBefore (item oldest : PublicComment γ β) : Bool :=
  units item.createdAt < units oldest.createdAt ||
    item.createdAt = oldest.createdAt && units item.id ≤ units oldest.id

variable (api : ReviewApi ε γ β) (path : JsString)

def wantsOlder (oldest : Option (PublicComment γ β)) (latest : CommentPage γ β) : Bool :=
  oldest.any fun oldest =>
    !latest.comments.any (fun item => item.atOrBefore oldest) && latest.pageInfo.hasMore

def readOlder (latest : CommentPage γ β) : Except ε (CommentPage γ β) := do
  let older ← api.page path latest.pageInfo.nextCursor
  return { latest with
    comments := mergeOlder PublicComment.id older.comments latest.comments
    pageInfo := older.pageInfo }

/-- The last of the comments with an id stays in the map. -/
def previous (current : CommentPage γ β) (id : JsString) : Option (PublicComment γ β) :=
  current.comments.reverse.find? fun comment => decide (comment.id = id)

def oldestReply (current : CommentPage γ β) (id : JsString) : Option JsString :=
  (previous current id).bind fun comment => comment.replies.head?.map PublicReply.id

def wantsOlderReplies (oldestReply : Option JsString) (updated : PublicComment γ β) : Bool :=
  oldestReply.any fun oldestReply =>
    !updated.replies.any (fun reply => decide (reply.id = oldestReply)) &&
      updated.replyPageInfo.any ReviewPageInfo.hasMore

def readOlderReplies (id : JsString) (updated : PublicComment γ β) :
    Except ε (PublicComment γ β) := do
  let older ← api.replies id path (updated.replyPageInfo.bind ReviewPageInfo.nextCursor)
  return { updated with
    replies := mergeOlder PublicReply.id older.replies updated.replies
    replyPageInfo := some older.pageInfo }

def refreshReplies (current : CommentPage γ β) (rounds : ℕ) (comment : PublicComment γ β) :
    Except ε (Option (PublicComment γ β)) :=
  WhileLoop.run (wantsOlderReplies (oldestReply current comment.id))
    (readOlderReplies api path comment.id) rounds comment

def refreshComments (current : CommentPage γ β) (rounds : ℕ) :
    List (PublicComment γ β) → Except ε (Option (List (PublicComment γ β)))
  | [] => .ok (some [])
  | comment :: later => do
    match ← refreshReplies api path current rounds comment with
    | none => return none
    | some updated => return (← refreshComments current rounds later).map (updated :: ·)

/-- `none` when the rounds do not suffice for a loop. -/
def refreshLoadedPage (current : CommentPage γ β) (rounds : ℕ) :
    Except ε (Option (CommentPage γ β)) := do
  let first ← api.page path none
  match ← WhileLoop.run (wantsOlder current.comments.head?) (readOlder api path) rounds first with
  | none => return none
  | some latest =>
    return (← refreshComments api path current rounds latest.comments).map fun comments =>
      { latest with comments }

end Refresh

section Server
variable {ε β γ α : Type}

/-- Where something lies in the order of creation. -/
abbrev Position := List ℕ ×ₗ List ℕ

def PublicReply.position (reply : PublicReply β) : Position :=
  toLex (units reply.createdAt, units reply.id)

def PublicComment.position (comment : PublicComment γ β) : Position :=
  toLex (units comment.createdAt, units comment.id)

/-- What the server holds, each comment with the newest page of its replies, and how far its
cursors reach. -/
structure ReviewServer (γ β : Type) where
  comments : List (PublicComment γ β)
  replies : JsString → List (PublicReply β)
  continues : JsString → Position → Prop
  continuesReplies : JsString → JsString → Position → Prop

/-- With more to come, the cursor continues before the oldest of the items. -/
def Continued (position : α → Position) (continues : JsString → Position → Prop)
    (items : List α) (pageInfo : ReviewPageInfo) : Prop :=
  pageInfo.hasMore = true → ∀ oldest, items.head? = some oldest →
    ∃ cursor, pageInfo.nextCursor = some cursor ∧ continues cursor (position oldest)

/-- A page of the newest values before a bound. -/
structure IsServed (position : α → Position) (continues : JsString → Position → Prop)
    (values : List α) (bound : Option Position) (items : List α) (pageInfo : ReviewPageInfo) :
    Prop where
  page : OlderPages.IsPage position values bound items pageInfo.hasMore
  continued : Continued position continues items pageInfo

/-- Ascending values with ids of their own. -/
structure Ordered (position : α → Position) (id : α → JsString) (values : List α) : Prop where
  ascending : values.Pairwise fun left right => position left < position right
  distinct : (values.map id).Nodup

structure ReviewServer.Serves (server : ReviewServer γ β) (api : ReviewApi ε γ β)
    (path : JsString) : Prop where
  comments : Ordered PublicComment.position PublicComment.id server.comments
  replies : ∀ comment ∈ server.comments,
    Ordered PublicReply.position PublicReply.id (server.replies comment.id)
  latest : ∃ page, api.page path none = .ok page ∧
    IsServed PublicComment.position server.continues server.comments none page.comments
      page.pageInfo
  older : ∀ cursor bound, server.continues cursor bound →
    ∃ page, api.page path (some cursor) = .ok page ∧
      IsServed PublicComment.position server.continues server.comments (some bound) page.comments
        page.pageInfo
  latestReplies : ∀ comment ∈ server.comments, ∃ pageInfo,
    comment.replyPageInfo = some pageInfo ∧
      IsServed PublicReply.position (server.continuesReplies comment.id)
        (server.replies comment.id) none comment.replies pageInfo
  olderReplies : ∀ comment ∈ server.comments, ∀ cursor bound,
    server.continuesReplies comment.id cursor bound →
      ∃ page, api.replies comment.id path (some cursor) = .ok page ∧
        IsServed PublicReply.position (server.continuesReplies comment.id)
          (server.replies comment.id) (some bound) page.replies page.pageInfo

/-- A panel read again. -/
structure Refreshed (server : ReviewServer γ β) (current refreshed : CommentPage γ β) : Prop where
  ordered : Ordered PublicComment.position PublicComment.id refreshed.comments
  stored : ∀ shown ∈ refreshed.comments, ∃ stored ∈ server.comments,
    { shown with replies := stored.replies, replyPageInfo := stored.replyPageInfo } = stored
  complete : ∀ loaded ∈ current.comments, ∀ stored ∈ server.comments,
    loaded.position ≤ stored.position → ∃ shown ∈ refreshed.comments,
      { shown with replies := stored.replies, replyPageInfo := stored.replyPageInfo } = stored
  repliesOrdered : ∀ shown ∈ refreshed.comments,
    Ordered PublicReply.position PublicReply.id shown.replies ∧
      ∀ reply ∈ shown.replies, reply ∈ server.replies shown.id
  repliesComplete : ∀ shown ∈ refreshed.comments, ∀ loaded ∈ current.comments,
    loaded.id = shown.id → (∀ other ∈ current.comments, other.id = loaded.id → other = loaded) →
      ∀ oldest ∈ loaded.replies,
        (∀ other ∈ loaded.replies, oldest.position ≤ other.position) →
          ∀ kept ∈ server.replies shown.id, kept.id = oldest.id →
            ∀ reply ∈ server.replies shown.id, kept.position ≤ reply.position →
              reply ∈ shown.replies

end Server

section Positions
variable {β γ α : Type}

theorem position_injective {createdAt id createdAt' id' : JsString}
    (h : (toLex (units createdAt, units id) : Position) = toLex (units createdAt', units id')) :
    id = id' :=
  units_injective (Prod.mk.inj (toLex_inj.1 h)).2

theorem PublicComment.atOrBefore_iff {item oldest : PublicComment γ β} :
    item.atOrBefore oldest = true ↔ item.position ≤ oldest.position := by
  unfold atOrBefore position
  rw [Prod.Lex.toLex_le_toLex, Bool.or_eq_true, Bool.and_eq_true, decide_eq_true_eq,
    decide_eq_true_eq, decide_eq_true_eq, units_injective.eq_iff]

theorem mergeOlder_eq {id : α → JsString} {older latest : List α}
    (h : ((older ++ latest).map id).Nodup) : mergeOlder id older latest = older ++ latest := by
  unfold mergeOlder
  rw [List.filter_eq_self.2]
  intro item hitem
  rw [List.map_append, List.nodup_append] at h
  exact decide_eq_true fun hmem => h.2.2 _ hmem _ (List.mem_map_of_mem hitem) rfl

end Positions

section Reading
variable {α : Type} {position : α → Position} {id : α → JsString}
  {continues : JsString → Position → Prop} {values items : List α} {pageInfo : ReviewPageInfo}

theorem Ordered.sublist (h : Ordered position id values) (hitems : items.Sublist values) :
    Ordered position id items where
  ascending := h.ascending.sublist hitems
  distinct := h.distinct.sublist (hitems.map id)

/-- Some of the newest values are loaded, with a cursor for the others. -/
structure Loaded (position : α → Position) (continues : JsString → Position → Prop)
    (values items : List α) (pageInfo : ReviewPageInfo) : Prop where
  read : OlderPages.ReadTo values items pageInfo.hasMore
  continued : Continued position continues items pageInfo

theorem IsServed.loaded (h : IsServed position continues values none items pageInfo) :
    Loaded position continues values items pageInfo :=
  ⟨.start h.page, h.continued⟩

theorem head?_append {older newer : List α} {oldest first : α}
    (h : (older ++ oldest :: newer).head? = some first) :
    older.head? = some first ∨ older = [] ∧ first = oldest := by
  cases older with
  | nil => exact .inr ⟨rfl, (Option.some.inj h).symm⟩
  | cons a rest => exact .inl h

/-- Where there is more, the next page is read with the cursor and put before the others. -/
theorem Loaded.next (h : Loaded position continues values items pageInfo)
    (hordered : Ordered position id values) (hmore : pageInfo.hasMore = true) :
    ∃ cursor bound, pageInfo.nextCursor = some cursor ∧ continues cursor bound ∧
      ∀ older olderInfo, IsServed position continues values (some bound) older olderInfo →
        Loaded position continues values (mergeOlder id older items) olderInfo ∧
          OlderPages.unread values (mergeOlder id older items) olderInfo.hasMore <
            OlderPages.unread values items pageInfo.hasMore := by
  obtain ⟨oldest, newer, rfl⟩ := List.exists_cons_of_ne_nil (h.read.nonempty hmore)
  obtain ⟨cursor, hcursor, hcontinues⟩ := h.continued hmore oldest rfl
  refine ⟨cursor, position oldest, hcursor, hcontinues, fun older olderInfo hserved => ?_⟩
  have hread : OlderPages.ReadTo values (older ++ oldest :: newer) olderInfo.hasMore :=
    h.read.page hordered.ascending hserved.page
  have hmerge : mergeOlder id older (oldest :: newer) = older ++ oldest :: newer :=
    mergeOlder_eq (hordered.sublist hread.sublist).distinct
  rw [hmerge]
  refine ⟨⟨hread, fun hmore' first hfirst => ?_⟩, ?_⟩
  · rcases head?_append hfirst with holder | ⟨hnil, -⟩
    · exact hserved.continued hmore' first holder
    · exact absurd hnil (hserved.page.nonempty hmore')
  · have hread' := h.read
    rw [hmore] at hread' ⊢
    exact hserved.page.unread_lt hread' hordered.ascending

end Reading

section Conditions
variable {β γ : Type}

theorem wantsOlder_hasMore {oldest : Option (PublicComment γ β)} {latest : CommentPage γ β}
    (h : wantsOlder oldest latest = true) : latest.pageInfo.hasMore = true := by
  cases oldest with
  | none => cases h
  | some oldest => exact (Bool.and_eq_true_iff.1 h).2

theorem wantsOlder_exit {oldest : PublicComment γ β} {latest : CommentPage γ β}
    (h : wantsOlder (some oldest) latest = false) :
    (∃ item ∈ latest.comments, item.position ≤ oldest.position) ∨
      latest.pageInfo.hasMore = false := by
  rcases Bool.and_eq_false_iff.1 h with hreached | hend
  · rw [Bool.not_eq_false', List.any_eq_true] at hreached
    obtain ⟨item, hitem, hle⟩ := hreached
    exact .inl ⟨item, hitem, PublicComment.atOrBefore_iff.1 hle⟩
  · exact .inr hend

theorem wantsOlderReplies_hasMore {oldestReply : Option JsString} {updated : PublicComment γ β}
    {pageInfo : ReviewPageInfo} (hpageInfo : updated.replyPageInfo = some pageInfo)
    (h : wantsOlderReplies oldestReply updated = true) : pageInfo.hasMore = true := by
  cases oldestReply with
  | none => cases h
  | some id =>
    have hmore := (Bool.and_eq_true_iff.1 h).2
    rwa [hpageInfo] at hmore

theorem wantsOlderReplies_exit {id : JsString} {updated : PublicComment γ β}
    {pageInfo : ReviewPageInfo} (hpageInfo : updated.replyPageInfo = some pageInfo)
    (h : wantsOlderReplies (some id) updated = false) :
    (∃ reply ∈ updated.replies, reply.id = id) ∨ pageInfo.hasMore = false := by
  rcases Bool.and_eq_false_iff.1 h with hreached | hend
  · rw [Bool.not_eq_false', List.any_eq_true] at hreached
    obtain ⟨reply, hreply, heq⟩ := hreached
    exact .inl ⟨reply, hreply, of_decide_eq_true heq⟩
  · rw [hpageInfo] at hend
    exact .inr hend

end Conditions

section Loops
variable {ε β γ : Type} {server : ReviewServer γ β} {api : ReviewApi ε γ β} {path : JsString}

def LoadedComments (server : ReviewServer γ β) (page : CommentPage γ β) : Prop :=
  Loaded PublicComment.position server.continues server.comments page.comments page.pageInfo

theorem readOlder_round (h : server.Serves api path) {latest : CommentPage γ β}
    (hlatest : LoadedComments server latest) (hmore : latest.pageInfo.hasMore = true) :
    ∃ next, readOlder api path latest = .ok next ∧ LoadedComments server next ∧
      OlderPages.unread server.comments next.comments next.pageInfo.hasMore <
        OlderPages.unread server.comments latest.comments latest.pageInfo.hasMore := by
  obtain ⟨cursor, bound, hcursor, hcontinues, hnext⟩ := Loaded.next hlatest h.comments hmore
  obtain ⟨older, holder, hserved⟩ := h.older cursor bound hcontinues
  obtain ⟨hloaded, hless⟩ := hnext older.comments older.pageInfo hserved
  refine ⟨{ latest with
    comments := mergeOlder PublicComment.id older.comments latest.comments
    pageInfo := older.pageInfo }, ?_, hloaded, hless⟩
  unfold readOlder
  rw [hcursor, holder]
  rfl

/-- The comments are read until a position is reached, or to the end. -/
theorem readOlder_ends (h : server.Serves api path) (oldest : Option (PublicComment γ β)) :
    ∃ first latest enough, api.page path none = .ok first ∧ LoadedComments server latest ∧
      wantsOlder oldest latest = false ∧ ∀ rounds, enough < rounds →
        WhileLoop.run (wantsOlder oldest) (readOlder api path) rounds first =
          .ok (some latest) := by
  obtain ⟨first, hfirst, hserved⟩ := h.latest
  have hstart : LoadedComments server first := hserved.loaded
  obtain ⟨latest, hlatest, hexit, hruns⟩ := WhileLoop.run_ends
    (fun page hpage hwants => readOlder_round h hpage (wantsOlder_hasMore hwants)) hstart
  exact ⟨first, latest, _, hfirst, hlatest, hexit, hruns⟩

/-- The comment of the server, with some of its newest replies. -/
structure LoadedReplies (server : ReviewServer γ β) (comment updated : PublicComment γ β) :
    Prop where
  same : { updated with replies := comment.replies, replyPageInfo := comment.replyPageInfo } =
    comment
  replies : ∃ pageInfo, updated.replyPageInfo = some pageInfo ∧
    Loaded PublicReply.position (server.continuesReplies comment.id) (server.replies comment.id)
      updated.replies pageInfo

def unreadReplies (server : ReviewServer γ β) (comment updated : PublicComment γ β) : ℕ :=
  OlderPages.unread (server.replies comment.id) updated.replies
    (updated.replyPageInfo.any ReviewPageInfo.hasMore)

theorem readOlderReplies_round (h : server.Serves api path) {comment updated : PublicComment γ β}
    (hcomment : comment ∈ server.comments) (hupdated : LoadedReplies server comment updated)
    {oldestReply : Option JsString} (hwants : wantsOlderReplies oldestReply updated = true) :
    ∃ next, readOlderReplies api path comment.id updated = .ok next ∧
      LoadedReplies server comment next ∧
        unreadReplies server comment next < unreadReplies server comment updated := by
  obtain ⟨pageInfo, hpageInfo, hloaded⟩ := hupdated.replies
  have hmore : pageInfo.hasMore = true := wantsOlderReplies_hasMore hpageInfo hwants
  obtain ⟨cursor, bound, hcursor, hcontinues, hnext⟩ :=
    hloaded.next (h.replies comment hcomment) hmore
  obtain ⟨older, holder, hserved⟩ := h.olderReplies comment hcomment cursor bound hcontinues
  obtain ⟨hloaded, hless⟩ := hnext older.replies older.pageInfo hserved
  refine ⟨{ updated with
    replies := mergeOlder PublicReply.id older.replies updated.replies
    replyPageInfo := some older.pageInfo }, ?_, ⟨hupdated.same, _, rfl, hloaded⟩, ?_⟩
  · unfold readOlderReplies
    rw [hpageInfo, Option.bind_some, hcursor, holder]
    rfl
  · unfold unreadReplies
    rw [hpageInfo]
    exact hless

/-- The replies of a comment are read until one of them is reached, or to the end. -/
theorem refreshReplies_ends (h : server.Serves api path) (current : CommentPage γ β)
    {comment : PublicComment γ β} (hcomment : comment ∈ server.comments) :
    ∃ updated enough, LoadedReplies server comment updated ∧
      wantsOlderReplies (oldestReply current comment.id) updated = false ∧
        ∀ rounds, enough < rounds →
          refreshReplies api path current rounds comment = .ok (some updated) := by
  obtain ⟨pageInfo, hpageInfo, hserved⟩ := h.latestReplies comment hcomment
  have hstart : LoadedReplies server comment comment := ⟨rfl, pageInfo, hpageInfo, hserved.loaded⟩
  obtain ⟨updated, hupdated, hexit, hruns⟩ := WhileLoop.run_ends
    (fun state hstate hwants => readOlderReplies_round h hcomment hstate hwants) hstart
  exact ⟨updated, _, hupdated, hexit, hruns⟩

/-- What the second loop makes of a comment. -/
def Updated (server : ReviewServer γ β) (current : CommentPage γ β)
    (comment updated : PublicComment γ β) : Prop :=
  LoadedReplies server comment updated ∧
    wantsOlderReplies (oldestReply current comment.id) updated = false

theorem refreshComments_ends (h : server.Serves api path) (current : CommentPage γ β)
    {comments : List (PublicComment γ β)} (hcomments : ∀ comment ∈ comments,
      comment ∈ server.comments) :
    ∃ refreshed enough, List.Forall₂ (Updated server current) comments refreshed ∧
      ∀ rounds, enough < rounds →
        refreshComments api path current rounds comments = .ok (some refreshed) := by
  induction comments with
  | nil => exact ⟨[], 0, .nil, fun _ _ => rfl⟩
  | cons comment later ih =>
    rw [List.forall_mem_cons] at hcomments
    obtain ⟨updated, enough, hupdated, hexit, hruns⟩ :=
      refreshReplies_ends h current hcomments.1
    obtain ⟨refreshed, enough', hrefreshed, hruns'⟩ := ih hcomments.2
    refine ⟨updated :: refreshed, max enough enough', .cons ⟨hupdated, hexit⟩ hrefreshed, ?_⟩
    intro rounds hrounds
    rw [max_lt_iff] at hrounds
    rw [refreshComments, hruns rounds hrounds.1]
    change (refreshComments api path current rounds later >>= fun others => _) = _
    rw [hruns' rounds hrounds.2]
    rfl

theorem refreshLoadedPage_ends (h : server.Serves api path) (current : CommentPage γ β) :
    ∃ latest comments enough, LoadedComments server latest ∧
      wantsOlder current.comments.head? latest = false ∧
      List.Forall₂ (Updated server current) latest.comments comments ∧
      ∀ rounds, enough < rounds → refreshLoadedPage api path current rounds =
        .ok (some { latest with comments }) := by
  obtain ⟨first, latest, enough, hfirst, hlatest, hexit, hruns⟩ :=
    readOlder_ends h current.comments.head?
  obtain ⟨comments, enough', hcomments, hruns'⟩ := refreshComments_ends h current
    fun comment hcomment => hlatest.read.sublist.subset hcomment
  refine ⟨latest, comments, max enough enough', hlatest, hexit, hcomments, ?_⟩
  intro rounds hrounds
  rw [max_lt_iff] at hrounds
  unfold refreshLoadedPage
  rw [hfirst]
  change (WhileLoop.run _ _ rounds first >>= fun latest => _) = _
  rw [hruns rounds hrounds.1]
  change (refreshComments api path current rounds latest.comments >>= fun comments => _) = _
  rw [hruns' rounds hrounds.2]
  rfl

end Loops

section Complete
variable {ε β γ : Type} {server : ReviewServer γ β} {api : ReviewApi ε γ β} {path : JsString}
  {current : CommentPage γ β} {comments refreshed : List (PublicComment γ β)}

theorem LoadedReplies.id_eq {comment updated : PublicComment γ β}
    (h : LoadedReplies server comment updated) : updated.id = comment.id := by
  rw [← h.same]

theorem LoadedReplies.position_eq {comment updated : PublicComment γ β}
    (h : LoadedReplies server comment updated) : updated.position = comment.position := by
  rw [← h.same]
  rfl

theorem updated_map {κ : Type} (f : PublicComment γ β → κ)
    (hf : ∀ comment updated, LoadedReplies server comment updated → f updated = f comment)
    (h : List.Forall₂ (Updated server current) comments refreshed) :
    refreshed.map f = comments.map f := by
  induction h with
  | nil => rfl
  | cons hupdated _ ih => rw [List.map_cons, List.map_cons, hf _ _ hupdated.1, ih]

theorem updated_ordered (h : List.Forall₂ (Updated server current) comments refreshed)
    (hordered : Ordered PublicComment.position PublicComment.id comments) :
    Ordered PublicComment.position PublicComment.id refreshed where
  ascending := by
    have hascending := List.pairwise_map.2 hordered.ascending
    rw [← updated_map PublicComment.position (fun _ _ => LoadedReplies.position_eq) h]
      at hascending
    exact List.pairwise_map.1 hascending
  distinct := by
    rw [updated_map PublicComment.id (fun _ _ => LoadedReplies.id_eq) h]
    exact hordered.distinct

theorem updated_of_mem (h : List.Forall₂ (Updated server current) comments refreshed)
    {shown : PublicComment γ β} (hshown : shown ∈ refreshed) :
    ∃ comment ∈ comments, Updated server current comment shown := by
  induction h with
  | nil => exact absurd hshown List.not_mem_nil
  | cons hupdated _ ih =>
    rcases List.mem_cons.1 hshown with rfl | hshown
    · exact ⟨_, List.mem_cons_self, hupdated⟩
    · obtain ⟨comment, hcomment, hupdated⟩ := ih hshown
      exact ⟨comment, List.mem_cons_of_mem _ hcomment, hupdated⟩

theorem exists_updated (h : List.Forall₂ (Updated server current) comments refreshed)
    {comment : PublicComment γ β} (hcomment : comment ∈ comments) :
    ∃ shown ∈ refreshed, Updated server current comment shown := by
  induction h with
  | nil => exact absurd hcomment List.not_mem_nil
  | cons hupdated _ ih =>
    rcases List.mem_cons.1 hcomment with rfl | hcomment
    · exact ⟨_, List.mem_cons_self, hupdated⟩
    · obtain ⟨shown, hshown, hupdated⟩ := ih hcomment
      exact ⟨shown, List.mem_cons_of_mem _ hshown, hupdated⟩

/-- Every comment from a loaded one on is read. -/
theorem loaded_of_le (h : server.Serves api path) {latest : CommentPage γ β}
    (hlatest : LoadedComments server latest)
    (hexit : wantsOlder current.comments.head? latest = false)
    (hascending : current.comments.Pairwise fun left right => left.position ≤ right.position)
    {loaded stored : PublicComment γ β} (hloaded : loaded ∈ current.comments)
    (hstored : stored ∈ server.comments) (hle : loaded.position ≤ stored.position) :
    stored ∈ latest.comments := by
  obtain ⟨first, rest, hcurrent⟩ := List.exists_cons_of_ne_nil (List.ne_nil_of_mem hloaded)
  rw [hcurrent] at hascending hexit hloaded
  have hfirst : first.position ≤ loaded.position := by
    rcases List.mem_cons.1 hloaded with rfl | hrest
    · exact le_rfl
    · exact (List.pairwise_cons.1 hascending).1 loaded hrest
  exact hlatest.read.mem_of_le h.comments.ascending (wantsOlder_exit hexit) hstored
    (hfirst.trans hle)

/-- The map has a comment that is loaded once. -/
theorem previous_of_once {loaded : PublicComment γ β} (hloaded : loaded ∈ current.comments)
    (honce : ∀ other ∈ current.comments, other.id = loaded.id → other = loaded) :
    previous current loaded.id = some loaded := by
  unfold previous
  obtain ⟨found, hfound⟩ : ∃ found, current.comments.reverse.find?
      (fun comment => decide (comment.id = loaded.id)) = some found := by
    refine Option.isSome_iff_exists.1 (List.find?_isSome.2 ⟨loaded, ?_, decide_eq_true rfl⟩)
    exact List.mem_reverse.2 hloaded
  have hid := List.find?_some hfound
  rw [decide_eq_true_eq] at hid
  rw [hfound, honce found (List.mem_reverse.1 (List.mem_of_find?_eq_some hfound)) hid]

/-- Every reply from the oldest loaded one on is read, where the server still has that one. -/
theorem loadedReplies_of_le (h : server.Serves api path)
    (hascending : ∀ comment ∈ current.comments,
      comment.replies.Pairwise fun left right => left.position ≤ right.position)
    {comment updated loaded : PublicComment γ β} (hcomment : comment ∈ server.comments)
    (hupdated : Updated server current comment updated)
    (hloaded : previous current comment.id = some loaded) {oldest kept reply : PublicReply β}
    (holdest : oldest ∈ loaded.replies)
    (hleast : ∀ other ∈ loaded.replies, oldest.position ≤ other.position)
    (hkept : kept ∈ server.replies comment.id) (hid : kept.id = oldest.id)
    (hreply : reply ∈ server.replies comment.id) (hle : kept.position ≤ reply.position) :
    reply ∈ updated.replies := by
  obtain ⟨pageInfo, hpageInfo, hread⟩ := hupdated.1.replies
  obtain ⟨first, rest, hreplies⟩ := List.exists_cons_of_ne_nil (List.ne_nil_of_mem holdest)
  have hexit := hupdated.2
  unfold oldestReply at hexit
  rw [hloaded, Option.bind_some, hreplies] at hexit
  have hmem : loaded ∈ current.comments :=
    List.mem_reverse.1 (List.mem_of_find?_eq_some hloaded)
  have hordered := hascending loaded hmem
  rw [hreplies] at hordered holdest hleast
  have hfirst : first.position ≤ oldest.position := by
    rcases List.mem_cons.1 holdest with rfl | hrest
    · exact le_rfl
    · exact (List.pairwise_cons.1 hordered).1 oldest hrest
  have hsame : first.id = oldest.id :=
    position_injective (hfirst.antisymm (hleast first List.mem_cons_self))
  refine hread.read.mem_of_le (h.replies comment hcomment).ascending ?_ hreply hle
  refine (wantsOlderReplies_exit hpageInfo hexit).imp_left ?_
  rintro ⟨reached, hreached, heq⟩
  have hdistinct := (h.replies comment hcomment).distinct
  have hkept' : reached = kept := List.inj_on_of_nodup_map hdistinct
    (hread.read.sublist.subset hreached) hkept (heq.trans (hsame.trans hid.symm))
  exact ⟨reached, hreached, hkept' ▸ le_rfl⟩

/-- A refresh ends, with the loaded range complete. -/
theorem refresh_complete (server : ReviewServer γ β) (api : ReviewApi ε γ β) (path : JsString)
    (h : server.Serves api path) (current : CommentPage γ β)
    (hcomments : current.comments.Pairwise fun left right => left.position ≤ right.position)
    (hreplies : ∀ comment ∈ current.comments,
      comment.replies.Pairwise fun left right => left.position ≤ right.position) :
    ∃ refreshed enough, (∀ rounds, enough < rounds →
      refreshLoadedPage api path current rounds = .ok (some refreshed)) ∧
        Refreshed server current refreshed := by
  obtain ⟨latest, comments, enough, hlatest, hexit, hupdated, hruns⟩ :=
    refreshLoadedPage_ends h current
  have hsublist : latest.comments.Sublist server.comments := hlatest.read.sublist
  refine ⟨{ latest with comments }, enough, hruns, ?_, ?_, ?_, ?_, ?_⟩
  · exact updated_ordered hupdated (h.comments.sublist hsublist)
  · intro shown hshown
    obtain ⟨comment, hcomment, hshows⟩ := updated_of_mem hupdated hshown
    exact ⟨comment, hsublist.subset hcomment, hshows.1.same⟩
  · intro loaded hloaded stored hstored hle
    obtain ⟨shown, hshown, hshows⟩ := exists_updated hupdated
      (loaded_of_le h hlatest hexit hcomments hloaded hstored hle)
    exact ⟨shown, hshown, hshows.1.same⟩
  · intro shown hshown
    obtain ⟨comment, hcomment, hshows⟩ := updated_of_mem hupdated hshown
    obtain ⟨pageInfo, -, hread⟩ := hshows.1.replies
    rw [hshows.1.id_eq]
    exact ⟨(h.replies comment (hsublist.subset hcomment)).sublist hread.read.sublist,
      hread.read.sublist.subset⟩
  · intro shown hshown loaded hloaded hsame honce oldest holdest hleast kept hkept hid reply hreply
      hle
    obtain ⟨comment, hcomment, hshows⟩ := updated_of_mem hupdated hshown
    have hprevious := previous_of_once hloaded honce
    rw [hshows.1.id_eq] at hsame hkept hreply
    rw [hsame] at hprevious
    exact loadedReplies_of_le h hreplies (hsublist.subset hcomment) hshows hprevious holdest hleast
      hkept hid hreply hle

end Complete

section Sample

def sampleReply (id : String) : PublicReply Unit := ⟨ofAscii id, ofAscii "1", ()⟩

/-- Two replies to one comment, read one at a time. -/
def sampleComment : PublicComment Unit Unit :=
  ⟨ofAscii "a", ofAscii "1", [sampleReply "s"], some ⟨true, some (ofAscii "before s")⟩, ()⟩

def laterComment : PublicComment Unit Unit :=
  ⟨ofAscii "b", ofAscii "1", [], some ⟨false, none⟩, ()⟩

def sampleServer : ReviewServer Unit Unit where
  comments := [sampleComment, laterComment]
  replies id := if id = sampleComment.id then [sampleReply "r", sampleReply "s"] else []
  continues cursor bound := cursor = ofAscii "before b" ∧ bound = laterComment.position
  continuesReplies id cursor bound := id = sampleComment.id ∧ cursor = ofAscii "before s" ∧
    bound = (sampleReply "s").position

def sampleApi : ReviewApi Unit Unit Unit where
  page _ before := .ok (match before with
    | none => ⟨[laterComment], 2, ofAscii "0", ⟨true, some (ofAscii "before b")⟩⟩
    | some _ => ⟨[sampleComment], 2, ofAscii "0", ⟨false, none⟩⟩)
  replies _ _ _ := .ok ⟨[sampleReply "r"], ⟨false, none⟩⟩

theorem sample_serves : sampleServer.Serves sampleApi (ofAscii "/") where
  comments := ⟨by decide +kernel, by decide +kernel⟩
  replies comment hcomment := by
    rcases List.mem_cons.1 hcomment with rfl | hcomment
    · exact ⟨by decide +kernel, by decide +kernel⟩
    · rw [List.mem_singleton.1 hcomment]
      exact ⟨by decide +kernel, by decide +kernel⟩
  latest := by
    refine ⟨_, rfl, ⟨⟨[sampleComment], rfl, nofun⟩, fun _ => List.cons_ne_nil _ _⟩, ?_⟩
    rintro - oldest ⟨⟩
    exact ⟨_, rfl, rfl, rfl⟩
  older := by
    rintro cursor bound ⟨rfl, rfl⟩
    exact ⟨_, rfl, ⟨⟨[], by decide +kernel, fun _ => rfl⟩, nofun⟩, nofun⟩
  latestReplies comment hcomment := by
    rcases List.mem_cons.1 hcomment with rfl | hcomment
    · refine ⟨_, rfl, ⟨⟨[sampleReply "r"], by decide +kernel, nofun⟩,
        fun _ => List.cons_ne_nil _ _⟩, ?_⟩
      rintro - oldest ⟨⟩
      exact ⟨_, rfl, rfl, rfl, rfl⟩
    · rw [List.mem_singleton.1 hcomment]
      exact ⟨_, rfl, ⟨⟨[], by decide +kernel, fun _ => rfl⟩, nofun⟩, nofun⟩
  olderReplies comment hcomment := by
    rintro cursor bound ⟨hid, rfl, rfl⟩
    rw [hid]
    exact ⟨_, rfl, ⟨⟨[], by decide +kernel, fun _ => rfl⟩, nofun⟩, nofun⟩

/-- The panel had the first comment with both its replies. -/
def sampleLoaded : CommentPage Unit Unit :=
  ⟨[{ sampleComment with replies := [sampleReply "r", sampleReply "s"] }], 1, ofAscii "0",
    ⟨false, none⟩⟩

theorem refresh_complete_sample : ∃ refreshed enough, (∀ rounds, enough < rounds →
    refreshLoadedPage sampleApi (ofAscii "/") sampleLoaded rounds = .ok (some refreshed)) ∧
      Refreshed sampleServer sampleLoaded refreshed :=
  refresh_complete sampleServer sampleApi (ofAscii "/") sample_serves sampleLoaded
    (by decide +kernel) (by decide +kernel)

end Sample

end Lotur.Review.PageState
