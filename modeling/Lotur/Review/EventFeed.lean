import Lotur.Library.CursorFeed
import Lotur.Library.Execution
import Lotur.Review.Repository

/-! The event feeds of the database under concurrent transactions: writers that hold the lock of their
feed, the trimming of old events, page snapshots, and the event streams of the gateway. Every
statement sees what was committed when it began, and what its own transaction wrote. -/
namespace Lotur.Review

structure Feed where
  revisionId : JsString
  routePath : JsString
  deriving DecidableEq, Repr

def ReviewEvent.feed (event : ReviewEvent) : Feed := ⟨event.revisionId, event.routePath⟩

/-- A row of a thread or of its replies was written. -/
structure PageWrite where
  feed : Feed
  threadId : JsString
  deriving DecidableEq, Repr

/-- Where a transaction is with the trimming that follows an event it recorded. -/
inductive TrimStatement where
  | idle
  | due (occurredAt : ℤ)
  | running (candidates : List ℕ)
  deriving DecidableEq, Repr

structure Transaction where
  feed : Feed
  written : List PageWrite
  inserted : List ReviewEvent
  trim : TrimStatement
  deriving DecidableEq, Repr

structure EventSubscription where
  accountId : JsString
  feed : Feed
  afterId : Option ℕ
  isOpening : Bool
  cursor : ℕ
  polling : Option (List ReviewEvent)
  closed : Bool
  cursorExpired : Bool
  emitted : List ReviewEvent
  deriving DecidableEq, Repr

structure PageSnapshot where
  feed : Feed
  seen : List PageWrite
  eventCursor : ℕ
  deriving DecidableEq, Repr

/-- `locks` is the table of advisory locks; `deleters` names the open transaction that deleted a row.
The events ever committed and the snapshots taken are kept beside the database. -/
structure FeedServer (κ : Type) where
  nextEventId : ℕ
  events : List ReviewEvent
  retention : List EventRetention
  pages : List PageWrite
  locks : κ → Option ℕ
  transactions : ℕ → Option Transaction
  deleters : ℕ → Option ℕ
  subscriptions : ℕ → Option EventSubscription
  history : List ReviewEvent
  snapshots : List PageSnapshot

def FeedServer.empty (κ : Type) : FeedServer κ where
  nextEventId := 1
  events := []
  retention := []
  pages := []
  locks := fun _ => none
  transactions := fun _ => none
  deleters := fun _ => none
  subscriptions := fun _ => none
  history := []
  snapshots := []

def trimmedThrough (retention : List EventRetention) (feed : Feed) : ℕ :=
  ((retention.find? fun row => row.revisionId = feed.revisionId ∧ row.routePath = feed.routePath).map
    EventRetention.trimmedThroughId).getD 0

def isVisible (accountId : JsString) (feed : Feed) (event : ReviewEvent) : Bool :=
  event.feed = feed && (event.recipientAccountId = none || event.recipientAccountId = some accountId)

/-- `DEFAULT_REVIEW_EVENT_LIMIT`. -/
def defaultReviewEventLimit : ℕ := 100

structure EventRecord where
  threadId : JsString
  type : ReviewEventType
  actor : ReviewIdentity
  occurredAt : ℤ
  deriving DecidableEq, Repr

namespace FeedServer

variable {κ : Type} [DecidableEq κ] (lockOf : Feed → κ) (database : Database) (s : FeedServer κ)

section Writers

/-- `withReviewEventTransaction` waits for the lock of the feed before anything else. -/
def beginTransaction (tx : ℕ) (feed : Feed) : Option (FeedServer κ) :=
  if s.transactions tx = none ∧ s.locks (lockOf feed) = none then
    some { s with
      locks := Function.update s.locks (lockOf feed) (some tx)
      transactions := Function.update s.transactions tx (some ⟨feed, [], [], .idle⟩) }
  else none

/-- The insertion of `recordReviewEvent`, which draws the id, after the write it is about. -/
def insertEvent (tx : ℕ) (written : List JsString) (record : EventRecord)
    (recipientAccountId : Option JsString) : Option (FeedServer κ) :=
  (s.transactions tx).bind fun transaction =>
    if transaction.trim = .idle then
      some { s with
        nextEventId := s.nextEventId + 1
        transactions := Function.update s.transactions tx (some { transaction with
          written := transaction.written ++ written.map fun threadId => ⟨transaction.feed, threadId⟩
          inserted := transaction.inserted ++ [
            { id := s.nextEventId, revisionId := transaction.feed.revisionId
              routePath := transaction.feed.routePath, threadId := record.threadId
              type := record.type, actor := record.actor, occurredAt := record.occurredAt
              recipientAccountId := recipientAccountId }]
          trim := .due record.occurredAt }) }
    else none

/-- The rows a statement of the transaction sees. -/
def rowsOf (tx : ℕ) (transaction : Transaction) : List ReviewEvent :=
  (s.events ++ transaction.inserted).filter fun event => s.deleters event.id ≠ some tx

/-- The rows to trim: those that are too old, and all but the last `maxEvents`. -/
def trimCandidates (rows : List ReviewEvent) (occurredAt : ℤ) : List ReviewEvent :=
  let through := ((rows.map ReviewEvent.id).insertionSort (· ≥ ·))[database.maxEvents]?.getD 0
  rows.filter fun event =>
    event.occurredAt < occurredAt - database.maxEventAgeMs ∨ event.id ≤ through

def beginTrim (tx : ℕ) : Option (FeedServer κ) :=
  (s.transactions tx).bind fun transaction =>
    match transaction.trim with
    | .due occurredAt =>
      let candidates := trimCandidates database (s.rowsOf tx transaction) occurredAt
      some { s with
        transactions := Function.update s.transactions tx
          (some { transaction with trim := .running (candidates.map ReviewEvent.id) }) }
    | _ => none

/-- The deletion waits for rows another transaction is deleting, and skips those that are gone. -/
def endTrim (tx : ℕ) : Option (FeedServer κ) :=
  (s.transactions tx).bind fun transaction =>
    match transaction.trim with
    | .running candidates =>
      if ∀ id ∈ candidates, s.deleters id = none ∨ s.deleters id = some tx then
        some { s with
          deleters := fun id => if id ∈ candidates then some tx else s.deleters id
          transactions := Function.update s.transactions tx
            (some { transaction with trim := .idle }) }
      else none
    | _ => none

/-- What the end of a transaction releases. -/
def release (tx : ℕ) (transaction : Transaction) : FeedServer κ :=
  { s with
    locks := Function.update s.locks (lockOf transaction.feed) none
    transactions := Function.update s.transactions tx none
    deleters := fun id => if s.deleters id = some tx then none else s.deleters id }

def commit (tx : ℕ) : Option (FeedServer κ) :=
  (s.transactions tx).bind fun transaction =>
    if transaction.trim = .idle then
      let rows := s.events ++ transaction.inserted
      some { s.release lockOf tx transaction with
        events := rows.filter fun event => s.deleters event.id ≠ some tx
        retention := (rows.filter fun event => s.deleters event.id = some tx).foldl
          ReviewRepository.raiseRetention s.retention
        pages := s.pages ++ transaction.written
        history := s.history ++ transaction.inserted }
    else none

def rollback (tx : ℕ) : Option (FeedServer κ) :=
  (s.transactions tx).map fun transaction => s.release lockOf tx transaction

end Writers

section Readers

/-- `readPageCommentSnapshot`: the cursor and the page come from one snapshot. -/
def readPage (feed : Feed) : FeedServer κ :=
  let ids := (s.events.filter fun event => event.feed = feed).map ReviewEvent.id
  { s with
    snapshots := s.snapshots ++ [
      { feed
        seen := s.pages.filter fun write => write.feed = feed
        eventCursor := max (ids.foldl max 0) (trimmedThrough s.retention feed) }] }

/-- The one statement of `listReviewEvents`; nothing stands for `CURSOR_EXPIRED`. -/
def listReviewEvents (accountId : JsString) (feed : Feed) (afterId limit : ℕ)
    (requireContinuity : Bool) : Option (List ReviewEvent) :=
  if requireContinuity = true ∧ afterId < trimmedThrough s.retention feed then none
  else some (CursorFeed.query ReviewEvent.id (s.events.filter fun event =>
    isVisible accountId feed event) afterId limit)

def setSubscription (id : ℕ) (subscription : EventSubscription) : FeedServer κ :=
  { s with subscriptions := Function.update s.subscriptions id (some subscription) }

def openEventStream (id : ℕ) (accountId : JsString) (feed : Feed) (afterId : Option ℕ) :
    Option (FeedServer κ) :=
  if s.subscriptions id = none then
    some <| s.setSubscription id
      { accountId, feed, afterId
        isOpening := true
        cursor := afterId.getD 0
        polling := none
        closed := false
        cursorExpired := false
        emitted := [] }
  else none

/-- The stream asks for more events, the first time with the cursor it was given, if any. -/
def poll (id : ℕ) : Option (FeedServer κ) :=
  (s.subscriptions id).bind fun subscription =>
    if subscription.closed = false ∧ subscription.polling = none then
      let requireContinuity := !subscription.isOpening || subscription.afterId.isSome
      match s.listReviewEvents subscription.accountId subscription.feed subscription.cursor
          defaultReviewEventLimit requireContinuity with
      | none => some <| s.setSubscription id
          { subscription with closed := true, cursorExpired := true }
      | some events => some <| s.setSubscription id { subscription with polling := some events }
    else none

/-- `writeEvents`; a write that fails closes the stream. -/
def writeEvents (id written : ℕ) : Option (FeedServer κ) :=
  (s.subscriptions id).bind fun subscription =>
    subscription.polling.map fun events =>
      let taken := if subscription.closed then [] else events.take written
      s.setSubscription id { subscription with
        isOpening := false
        polling := none
        closed := subscription.closed || written < events.length
        cursor := CursorFeed.lastId ReviewEvent.id taken subscription.cursor
        emitted := subscription.emitted ++ taken }

/-- The client leaves, or may no longer read. -/
def closeEventSubscription (id : ℕ) : Option (FeedServer κ) :=
  (s.subscriptions id).map fun subscription =>
    s.setSubscription id { subscription with closed := true }

end Readers

inductive Action where
  | beginTransaction (tx : ℕ) (feed : Feed)
  | change (tx : ℕ) (record : EventRecord)
  | notify (tx : ℕ) (record : EventRecord) (recipientAccountId : JsString)
  | beginTrim (tx : ℕ)
  | endTrim (tx : ℕ)
  | commit (tx : ℕ)
  | rollback (tx : ℕ)
  | readPage (feed : Feed)
  | openEventStream (id : ℕ) (accountId : JsString) (feed : Feed) (afterId : Option ℕ)
  | poll (id : ℕ)
  | writeEvents (id written : ℕ)
  | closeEventSubscription (id : ℕ)
  deriving DecidableEq, Repr

def step : Action → Option (FeedServer κ)
  | .beginTransaction tx feed => s.beginTransaction lockOf tx feed
  | .change tx record => s.insertEvent tx [record.threadId] record none
  | .notify tx record recipient => s.insertEvent tx [] record (some recipient)
  | .beginTrim tx => s.beginTrim database tx
  | .endTrim tx => s.endTrim tx
  | .commit tx => s.commit lockOf tx
  | .rollback tx => s.rollback lockOf tx
  | .readPage feed => some (s.readPage feed)
  | .openEventStream id accountId feed afterId => s.openEventStream id accountId feed afterId
  | .poll id => s.poll id
  | .writeEvents id written => s.writeEvents id written
  | .closeEventSubscription id => s.closeEventSubscription id

end FeedServer

end Lotur.Review
