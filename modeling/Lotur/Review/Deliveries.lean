import Lotur.Review.Effects

/-! The notifications an operation creates and the events it records, in both repositories. A loop
over recipients delivers to each of them once. -/
namespace Lotur.Review
open JsString

/-- What notifications and events leave alone. -/
structure SameContent (r r' : ReviewRepository) : Prop where
  threads : r'.threads = r.threads
  revisions : r'.revisions = r.revisions
  projects : r'.projects = r.projects
  accountUsernames : r'.accountUsernames = r.accountUsernames
  accounts : r'.accounts = r.accounts
  mentions : r'.mentions = r.mentions

/-- What an event says of a notification, and what the notification says itself. -/
structure Notice where
  revisionId : JsString
  routePath : JsString
  threadId : JsString
  actor : ReviewIdentity
  occurredAt : ℤ
  recipientAccountId : Option JsString
  deriving DecidableEq

def ReviewEvent.notice (event : ReviewEvent) : Notice :=
  ⟨event.revisionId, event.routePath, event.threadId, event.actor, event.occurredAt,
    event.recipientAccountId⟩

def ReviewNotification.notice (notification : ReviewNotification) : Notice :=
  ⟨notification.revisionId, notification.routePath, notification.threadId, notification.actor,
    notification.createdAt, some notification.recipientAccountId⟩

/-- Notifications `created` and events `recorded` were added, under the next ids. The database may
have trimmed its events. -/
structure Delivered (backend : ReviewBackend) (created : List ReviewNotification)
    (recorded : List ReviewEvent) (r r' : ReviewRepository) : Prop where
  notifications : r'.notifications = r.notifications ++ created
  ids : created.map ReviewNotification.id = List.range' r.nextNotificationId created.length
  nextNotificationId : r'.nextNotificationId = r.nextNotificationId + created.length
  events : r'.events.Sublist (r.events ++ recorded)
  untrimmed : backend = .inMemory → r'.events = r.events ++ recorded
  eventIds : recorded.map ReviewEvent.id = List.range' r.nextEventId recorded.length
  nextEventId : r'.nextEventId = r.nextEventId + recorded.length

/-- Each notification has one event, addressed to its recipient. -/
def Announced (created : List ReviewNotification) (recorded : List ReviewEvent) : Prop :=
  (recorded.filter fun event => event.type = .notificationCreated).map ReviewEvent.notice =
    created.map ReviewNotification.notice

/-- A notification before it has an id. -/
def ReviewNotification.unnumbered (notification : ReviewNotification) : ReviewNotification :=
  { notification with id := 0 }

section Algebra
variable {backend : ReviewBackend} {created created' : List ReviewNotification}
  {recorded recorded' : List ReviewEvent} {r r' r'' : ReviewRepository}

theorem SameContent.refl (r : ReviewRepository) : SameContent r r := ⟨rfl, rfl, rfl, rfl, rfl, rfl⟩

theorem SameContent.trans (h : SameContent r r') (h' : SameContent r' r'') : SameContent r r'' :=
  ⟨h'.threads.trans h.threads, h'.revisions.trans h.revisions, h'.projects.trans h.projects,
    h'.accountUsernames.trans h.accountUsernames, h'.accounts.trans h.accounts,
    h'.mentions.trans h.mentions⟩

theorem Delivered.refl (backend : ReviewBackend) (r : ReviewRepository) :
    Delivered backend [] [] r r := by
  refine ⟨?_, rfl, rfl, ?_, fun _ => ?_, rfl, rfl⟩
  · rw [List.append_nil]
  · rw [List.append_nil]
  · rw [List.append_nil]

theorem Delivered.trans (h : Delivered backend created recorded r r')
    (h' : Delivered backend created' recorded' r' r'') :
    Delivered backend (created ++ created') (recorded ++ recorded') r r'' := by
  refine ⟨?_, ?_, ?_, ?_, fun hbackend => ?_, ?_, ?_⟩
  · rw [h'.notifications, h.notifications, List.append_assoc]
  · rw [List.map_append, h.ids, h'.ids, h.nextNotificationId, List.length_append,
      List.range'_append_1]
  · rw [h'.nextNotificationId, h.nextNotificationId, List.length_append, Nat.add_assoc]
  · have hboth := h'.events.trans (h.events.append_right recorded')
    rwa [List.append_assoc] at hboth
  · rw [h'.untrimmed hbackend, h.untrimmed hbackend, List.append_assoc]
  · rw [List.map_append, h.eventIds, h'.eventIds, h.nextEventId, List.length_append,
      List.range'_append_1]
  · rw [h'.nextEventId, h.nextEventId, List.length_append, Nat.add_assoc]

theorem Announced.append (h : Announced created recorded) (h' : Announced created' recorded') :
    Announced (created ++ created') (recorded ++ recorded') := by
  unfold Announced at *
  rw [List.filter_append, List.map_append, List.map_append, h, h']

/-- What leaves notifications and events alone. -/
theorem Delivered.of_eq (hnotifications : r'.notifications = r.notifications)
    (hnext : r'.nextNotificationId = r.nextNotificationId) (hevents : r'.events = r.events)
    (hnextEvent : r'.nextEventId = r.nextEventId) : Delivered backend [] [] r r' := by
  refine ⟨?_, rfl, hnext, ?_, fun _ => ?_, rfl, hnextEvent⟩
  · rw [hnotifications, List.append_nil]
  · rw [hevents, List.append_nil]
  · rw [hevents, List.append_nil]

end Algebra

section Primitives
variable {backend : ReviewBackend} (r : ReviewRepository)

/-- The event `recordEvent` records. -/
def recordedEvent (type : ReviewEventType) (thread : PageCommentThread) (actor : ReviewIdentity)
    (occurredAt : ℤ) (recipientAccountId : Option JsString) : ReviewEvent where
  id := r.nextEventId
  revisionId := thread.revisionId
  routePath := thread.routePath
  threadId := thread.id
  type := type
  actor := actor
  occurredAt := occurredAt
  recipientAccountId := recipientAccountId

theorem recordEvent_delivered (type : ReviewEventType) (thread : PageCommentThread)
    (actor : ReviewIdentity) (occurredAt : ℤ) (recipient : Option JsString) :
    Delivered backend [] [recordedEvent r type thread actor occurredAt recipient] r
      (r.recordEvent backend type thread actor occurredAt recipient) := by
  cases backend with
  | inMemory =>
    exact ⟨(List.append_nil _).symm, rfl, rfl, List.Sublist.refl _, fun _ => rfl, rfl, rfl⟩
  | postgres database =>
    exact ⟨(List.append_nil _).symm, rfl, rfl, List.filter_sublist, nofun, rfl, rfl⟩

theorem recordEvent_same (type : ReviewEventType) (thread : PageCommentThread)
    (actor : ReviewIdentity) (occurredAt : ℤ) (recipient : Option JsString) :
    SameContent r (r.recordEvent backend type thread actor occurredAt recipient) := by
  cases backend <;> exact ⟨rfl, rfl, rfl, rfl, rfl, rfl⟩

/-- The database has no notification of this source for the recipient. -/
def IsFree (backend : ReviewBackend) (r : ReviewRepository) (sourceKey : Option JsString)
    (recipientAccountId : JsString) : Prop :=
  ∀ database, backend = .postgres database → ∀ known ∈ r.notifications,
    ¬ (known.recipientAccountId = recipientAccountId ∧ known.sourceKey = sourceKey)

variable {r}

theorem insertNotification_eq {notification : ReviewNotification}
    (hfree : IsFree backend r notification.sourceKey notification.recipientAccountId) :
    r.insertNotification backend notification = (true, { r with
      notifications := r.notifications ++ [{ notification with id := r.nextNotificationId }]
      nextNotificationId := r.nextNotificationId + 1 }) := by
  cases backend with
  | inMemory => rfl
  | postgres database =>
    unfold ReviewRepository.insertNotification
    dsimp only
    rw [if_neg]
    rw [List.any_eq_true]
    rintro ⟨known, hknown, hsame⟩
    exact hfree database rfl known hknown (of_decide_eq_true hsame)

/-- A notification that is stored and told to its recipient. -/
def insertAndRecord (backend : ReviewBackend) (thread : PageCommentThread)
    (notification : ReviewNotification) (r : ReviewRepository) : ReviewRepository :=
  (r.insertNotification backend notification).2.recordEvent backend .notificationCreated thread
    notification.actor notification.createdAt (some notification.recipientAccountId)

theorem insertAndRecord_delivered (thread : PageCommentThread) (notification : ReviewNotification)
    (hthread : notification.revisionId = thread.revisionId ∧
      notification.routePath = thread.routePath ∧ notification.threadId = thread.id)
    (hfree : IsFree backend r notification.sourceKey notification.recipientAccountId) :
    ∃ event, Delivered backend [{ notification with id := r.nextNotificationId }] [event] r
        (insertAndRecord backend thread notification r) ∧
      Announced [{ notification with id := r.nextNotificationId }] [event] ∧
      SameContent r (insertAndRecord backend thread notification r) := by
  unfold insertAndRecord
  rw [insertNotification_eq hfree]
  have hinserted : Delivered backend [{ notification with id := r.nextNotificationId }] [] r
      { r with
        notifications := r.notifications ++ [{ notification with id := r.nextNotificationId }]
        nextNotificationId := r.nextNotificationId + 1 } := by
    refine ⟨rfl, rfl, rfl, ?_, fun _ => ?_, rfl, rfl⟩
    · rw [List.append_nil]
    · rw [List.append_nil]
  refine ⟨_, hinserted.trans (recordEvent_delivered ..), ?_,
    SameContent.trans ?_ (recordEvent_same ..)⟩
  · obtain ⟨hrevision, hroute, hid⟩ := hthread
    simp only [Announced, recordedEvent, List.filter_cons, decide_true, if_true, List.filter_nil,
      List.map_cons, List.map_nil, ReviewEvent.notice, ReviewNotification.notice, hrevision, hroute,
      hid]
  · exact ⟨rfl, rfl, rfl, rfl, rfl, rfl⟩

/-- An inserted notification leaves the source free for everyone else. -/
theorem IsFree.delivered {created : List ReviewNotification} {recorded : List ReviewEvent}
    {r' : ReviewRepository} {sourceKey : Option JsString} {recipient : JsString}
    (h : IsFree backend r sourceKey recipient) (hdelivered : Delivered backend created recorded r r')
    (hother : ∀ notification ∈ created, ¬ (notification.recipientAccountId = recipient ∧
      notification.sourceKey = sourceKey)) : IsFree backend r' sourceKey recipient := by
  intro database hbackend known hknown
  rw [hdelivered.notifications] at hknown
  rcases List.mem_append.1 hknown with hold | hnew
  · exact h database hbackend known hold
  · exact hother known hnew

end Primitives

section Loops
variable {backend : ReviewBackend}

/-- A loop that skips some of its recipients and tells each of the others once. -/
theorem foldl_delivered (body : ReviewRepository → JsString → ReviewRepository)
    (skip : JsString → Bool) (template : JsString → ReviewNotification)
    (ready : ReviewRepository → JsString → Prop)
    (hskip : ∀ r recipient, ready r recipient → skip recipient = true → body r recipient = r)
    (hsend : ∀ r recipient, ready r recipient → skip recipient = false → ∃ event,
      Delivered backend [{ template recipient with id := r.nextNotificationId }] [event] r
        (body r recipient) ∧
      Announced [{ template recipient with id := r.nextNotificationId }] [event] ∧
      SameContent r (body r recipient))
    (hready : ∀ r recipient other, other ≠ recipient → ready r recipient → ready r other →
      ready (body r recipient) other)
    {recipients : List JsString} (hnodup : recipients.Nodup) (r : ReviewRepository)
    (hall : ∀ recipient ∈ recipients, ready r recipient) :
    ∃ created recorded, Delivered backend created recorded r (recipients.foldl body r) ∧
      Announced created recorded ∧ SameContent r (recipients.foldl body r) ∧
      created.map ReviewNotification.unnumbered =
        (recipients.filter fun recipient => !skip recipient).map fun recipient =>
          (template recipient).unnumbered := by
  induction recipients generalizing r with
  | nil => exact ⟨[], [], .refl backend r, rfl, .refl r, rfl⟩
  | cons recipient recipients ih =>
    obtain ⟨hnew, hrest⟩ := List.nodup_cons.1 hnodup
    have hfirst := hall recipient List.mem_cons_self
    have hlater : ∀ other ∈ recipients, ready (body r recipient) other := by
      intro other hother
      refine hready r recipient other ?_ hfirst (hall other (List.mem_cons_of_mem _ hother))
      rintro rfl
      exact hnew hother
    obtain ⟨created, recorded, hdelivered, hannounced, hsame, hcreated⟩ := ih hrest _ hlater
    cases hskipped : skip recipient with
    | true =>
      rw [hskip r recipient hfirst hskipped] at hdelivered hsame
      refine ⟨created, recorded, ?_, hannounced, ?_, ?_⟩
      · rwa [List.foldl_cons, hskip r recipient hfirst hskipped]
      · rwa [List.foldl_cons, hskip r recipient hfirst hskipped]
      · rw [hcreated]
        simp only [List.filter_cons, hskipped, Bool.not_true, Bool.false_eq_true, if_false]
    | false =>
      obtain ⟨event, hsent, htold, hkept⟩ := hsend r recipient hfirst hskipped
      refine ⟨_, _, hsent.trans hdelivered, htold.append hannounced, hkept.trans hsame, ?_⟩
      simp only [hcreated, List.filter_cons, hskipped, Bool.not_false, if_true, List.map_cons,
        List.singleton_append, ReviewNotification.unnumbered]

end Loops

end Lotur.Review
