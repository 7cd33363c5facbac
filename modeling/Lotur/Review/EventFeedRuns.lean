import Lotur.Review.EventFeed

/-! Runs of the event feeds. Within a feed ids are drawn in the order of commits, so a cursor that
was reached is never overtaken. -/
namespace Lotur.Review

section Retention

def EventRetention.feed (row : EventRetention) : Feed := ⟨row.revisionId, row.routePath⟩

def EventRetention.raise (event : ReviewEvent) (row : EventRetention) : EventRetention :=
  if row.feed = event.feed then
    { row with trimmedThroughId := max row.trimmedThroughId event.id }
  else row

theorem trimmedThrough_eq (retention : List EventRetention) (feed : Feed) :
    trimmedThrough retention feed = ((retention.find? fun row => row.feed = feed).map
      EventRetention.trimmedThroughId).getD 0 := by
  cases feed
  simp only [trimmedThrough, EventRetention.feed, Feed.mk.injEq]

theorem raiseRetention_eq (retention : List EventRetention) (event : ReviewEvent) :
    ReviewRepository.raiseRetention retention event =
      if retention.any fun row => row.feed = event.feed then retention.map (.raise event)
      else retention ++ [⟨event.revisionId, event.routePath, event.id⟩] := by
  simp only [ReviewRepository.raiseRetention, EventRetention.feed, ReviewEvent.feed, Feed.mk.injEq]
  congr 1
  refine List.map_congr_left fun row _ => ?_
  simp only [EventRetention.raise, EventRetention.feed, ReviewEvent.feed, Feed.mk.injEq]

theorem feed_raise (event : ReviewEvent) (row : EventRetention) : (row.raise event).feed = row.feed := by
  unfold EventRetention.raise
  split_ifs <;> rfl

theorem trimmedThrough_raise (retention : List EventRetention) (event : ReviewEvent) (feed : Feed) :
    trimmedThrough (ReviewRepository.raiseRetention retention event) feed =
      if event.feed = feed then max (trimmedThrough retention feed) event.id
      else trimmedThrough retention feed := by
  rw [raiseRetention_eq, trimmedThrough_eq, trimmedThrough_eq]
  split_ifs with hany hevent hevent
  · subst hevent
    simp only [List.find?_map, Function.comp_def, feed_raise]
    cases hrow : retention.find? fun row => row.feed = event.feed with
    | none =>
      obtain ⟨row, hmem, hkey⟩ := List.any_eq_true.1 hany
      exact absurd hkey (List.find?_eq_none.1 hrow row hmem)
    | some row =>
      have hkey : row.feed = event.feed := by simpa using List.find?_some hrow
      simp [EventRetention.raise, hkey]
  · simp only [List.find?_map, Function.comp_def, feed_raise]
    cases hrow : retention.find? fun row => row.feed = feed with
    | none => rfl
    | some row =>
      have hkey : row.feed = feed := by simpa using List.find?_some hrow
      have hother : row.feed ≠ event.feed := fun heq => hevent (heq.symm.trans hkey)
      simp [EventRetention.raise, hother]
  · subst hevent
    have hnone : (retention.find? fun row => row.feed = event.feed) = none := by
      simpa using hany
    rw [List.find?_append, hnone]
    simp [EventRetention.feed, ReviewEvent.feed]
  · have hnew : ([⟨event.revisionId, event.routePath, event.id⟩] : List EventRetention).find?
        (fun row => row.feed = feed) = none := by
      have hkey : ¬ (⟨event.revisionId, event.routePath⟩ : Feed) = feed := hevent
      simp [EventRetention.feed, hkey]
    rw [List.find?_append, hnew, Option.or_none]

theorem trimmedThrough_foldl_le (retention : List EventRetention) (removed : List ReviewEvent)
    (feed : Feed) : trimmedThrough retention feed ≤
      trimmedThrough (removed.foldl ReviewRepository.raiseRetention retention) feed := by
  induction removed generalizing retention with
  | nil => exact Nat.le_refl _
  | cons event removed ih =>
    refine Nat.le_trans ?_ (ih _)
    rw [trimmedThrough_raise]
    split_ifs
    · exact Nat.le_max_left _ _
    · exact Nat.le_refl _

/-- What is removed is at or below the mark of its feed. -/
theorem le_trimmedThrough_foldl (retention : List EventRetention) {removed : List ReviewEvent}
    {event : ReviewEvent} (h : event ∈ removed) : event.id ≤
      trimmedThrough (removed.foldl ReviewRepository.raiseRetention retention) event.feed := by
  induction removed generalizing retention with
  | nil => cases h
  | cons first removed ih =>
    rcases List.mem_cons.1 h with rfl | hrest
    · refine Nat.le_trans ?_ (trimmedThrough_foldl_le _ removed _)
      rw [trimmedThrough_raise, if_pos rfl]
      exact Nat.le_max_right _ _
    · exact ih _ hrest

/-- A mark that moves moves to a removed event. -/
theorem trimmedThrough_foldl_eq (retention : List EventRetention) (removed : List ReviewEvent)
    (feed : Feed) :
    trimmedThrough (removed.foldl ReviewRepository.raiseRetention retention) feed =
        trimmedThrough retention feed ∨
      ∃ event ∈ removed, event.feed = feed ∧
        event.id = trimmedThrough (removed.foldl ReviewRepository.raiseRetention retention) feed := by
  induction removed generalizing retention with
  | nil => exact .inl rfl
  | cons first removed ih =>
    rcases ih (ReviewRepository.raiseRetention retention first) with hsame | ⟨event, hmem, hevent⟩
    · rw [List.foldl_cons, hsame, trimmedThrough_raise]
      split_ifs with hfeed
      · rcases Nat.le_total first.id (trimmedThrough retention feed) with hle | hle
        · exact .inl (Nat.max_eq_left hle)
        · exact .inr ⟨first, List.mem_cons_self, hfeed, (Nat.max_eq_right hle).symm⟩
      · exact .inl rfl
    · exact .inr ⟨event, List.mem_cons_of_mem _ hmem, hevent⟩

end Retention

section Writers
variable {κ : Type} {lockOf : Feed → κ} {database : Database} {s s' : FeedServer κ}

/-- An open transaction holds the lock of its feed; what it inserted is all of its feed, newer than
whatever was committed there, and tells of every write. -/
structure TransactionKept (lockOf : Feed → κ) (locks : κ → Option ℕ) (nextEventId : ℕ)
    (history : List ReviewEvent) (tx : ℕ) (transaction : Transaction) : Prop where
  locked : locks (lockOf transaction.feed) = some tx
  own : ∀ event ∈ transaction.inserted, event.feed = transaction.feed
  drawn : ∀ event ∈ transaction.inserted, 0 < event.id ∧ event.id < nextEventId
  increasing : transaction.inserted.Pairwise fun earlier later => earlier.id < later.id
  newer : ∀ old ∈ history, old.feed = transaction.feed →
    ∀ event ∈ transaction.inserted, old.id < event.id
  told : ∀ write ∈ transaction.written, write.feed = transaction.feed ∧
    ∃ event ∈ transaction.inserted, event.recipientAccountId = none ∧
      event.threadId = write.threadId

/-- The table holds the events ever committed, less some at or below the marks. -/
structure HistoryKept (nextEventId : ℕ) (history events : List ReviewEvent)
    (retention : List EventRetention) : Prop where
  drawn : ∀ event ∈ history, 0 < event.id ∧ event.id < nextEventId
  increasing : history.Pairwise fun earlier later =>
    earlier.feed = later.feed → earlier.id < later.id
  present : events.Sublist history
  kept : ∀ event ∈ history, event ∈ events ∨ event.id ≤ trimmedThrough retention event.feed
  marked : ∀ feed, trimmedThrough retention feed = 0 ∨
    ∃ event ∈ history, event.feed = feed ∧ event.id = trimmedThrough retention feed

structure WritersKept (lockOf : Feed → κ) (s : FeedServer κ) : Prop where
  started : 0 < s.nextEventId
  transactions : ∀ tx transaction, s.transactions tx = some transaction →
    TransactionKept lockOf s.locks s.nextEventId s.history tx transaction
  history : HistoryKept s.nextEventId s.history s.events s.retention

theorem WritersKept.empty : WritersKept lockOf (FeedServer.empty κ) := by
  refine ⟨Nat.one_pos, fun _ _ h => (by cases h), ?_⟩
  exact ⟨fun _ h => absurd h List.not_mem_nil, List.Pairwise.nil, List.Sublist.slnil,
    fun _ h => absurd h List.not_mem_nil, fun _ => .inl rfl⟩

theorem WritersKept.insertEvent (h : WritersKept lockOf s) {tx : ℕ} {written : List JsString}
    {record : EventRecord} {recipient : Option JsString}
    (htold : ∀ threadId ∈ written, recipient = none ∧ record.threadId = threadId)
    (hstep : s.insertEvent tx written record recipient = some s') : WritersKept lockOf s' := by
  unfold FeedServer.insertEvent at hstep
  obtain ⟨transaction, htx, hstep⟩ := Option.bind_eq_some_iff.1 hstep
  split_ifs at hstep
  cases hstep
  have hkept := h.transactions tx transaction htx
  refine ⟨Nat.succ_pos _, fun other current hother => ?_, ?_⟩
  · dsimp only at hother
    by_cases hsame : other = tx
    · subst hsame
      rw [Function.update_self, Option.some.injEq] at hother
      subst hother
      refine ⟨hkept.locked, ?_, ?_, ?_, ?_, ?_⟩
      · intro event hevent
        rcases List.mem_append.1 hevent with hold | hnew
        · exact hkept.own event hold
        · rw [List.mem_singleton.1 hnew]
          rfl
      · intro event hevent
        rcases List.mem_append.1 hevent with hold | hnew
        · have := hkept.drawn event hold
          dsimp only
          omega
        · rw [List.mem_singleton.1 hnew]
          exact ⟨h.started, Nat.lt_succ_self _⟩
      · refine List.pairwise_append.2 ⟨hkept.increasing, List.pairwise_singleton _ _, ?_⟩
        intro earlier hearlier later hlater
        rw [List.mem_singleton.1 hlater]
        exact (hkept.drawn earlier hearlier).2
      · intro old hold hfeed event hevent
        rcases List.mem_append.1 hevent with hprior | hnew
        · exact hkept.newer old hold hfeed event hprior
        · rw [List.mem_singleton.1 hnew]
          exact (h.history.drawn old hold).2
      · intro write hwrite
        rcases List.mem_append.1 hwrite with hold | hnew
        · obtain ⟨hfeed, event, hevent, htells⟩ := hkept.told write hold
          exact ⟨hfeed, event, List.mem_append_left _ hevent, htells⟩
        · obtain ⟨threadId, hthread, rfl⟩ := List.mem_map.1 hnew
          obtain ⟨hpublic, hsameThread⟩ := htold threadId hthread
          exact ⟨rfl, _, List.mem_append_right _ (List.mem_singleton_self _), hpublic, hsameThread⟩
    · rw [Function.update_of_ne hsame] at hother
      have hprior := h.transactions other current hother
      refine ⟨hprior.locked, hprior.own, fun event hevent => ?_, hprior.increasing, hprior.newer,
        hprior.told⟩
      have := hprior.drawn event hevent
      dsimp only
      omega
  · refine ⟨fun event hevent => ?_, h.history.increasing, h.history.present, h.history.kept,
      h.history.marked⟩
    have := h.history.drawn event hevent
    dsimp only
    omega

/-- Where a transaction is with its trimming matters to no one else. -/
theorem WritersKept.setTrim (h : WritersKept lockOf s) {tx : ℕ} {transaction : Transaction}
    (htx : s.transactions tx = some transaction) (trim : TrimStatement) :
    ∀ other current,
      Function.update s.transactions tx (some { transaction with trim }) other = some current →
      TransactionKept lockOf s.locks s.nextEventId s.history other current := by
  intro other current hother
  by_cases hsame : other = tx
  · subst hsame
    rw [Function.update_self, Option.some.injEq] at hother
    subst hother
    have hkept := h.transactions other transaction htx
    exact ⟨hkept.locked, hkept.own, hkept.drawn, hkept.increasing, hkept.newer, hkept.told⟩
  · rw [Function.update_of_ne hsame] at hother
    exact h.transactions other current hother

theorem WritersKept.beginTrim (h : WritersKept lockOf s) {tx : ℕ}
    (hstep : s.beginTrim database tx = some s') : WritersKept lockOf s' := by
  unfold FeedServer.beginTrim at hstep
  obtain ⟨transaction, htx, hstep⟩ := Option.bind_eq_some_iff.1 hstep
  split at hstep
  · cases hstep
    exact ⟨h.started, h.setTrim htx _, h.history⟩
  · cases hstep

theorem WritersKept.endTrim (h : WritersKept lockOf s) {tx : ℕ}
    (hstep : s.endTrim tx = some s') : WritersKept lockOf s' := by
  unfold FeedServer.endTrim at hstep
  obtain ⟨transaction, htx, hstep⟩ := Option.bind_eq_some_iff.1 hstep
  split at hstep
  · split_ifs at hstep
    cases hstep
    exact ⟨h.started, h.setTrim htx _, h.history⟩
  · cases hstep

/-- What a transaction commits comes after all that its feed had. -/
theorem TransactionKept.after {locks : κ → Option ℕ} {nextEventId : ℕ} {history : List ReviewEvent}
    {tx : ℕ} {transaction : Transaction}
    (h : TransactionKept lockOf locks nextEventId history tx transaction) :
    ∀ old ∈ history, ∀ event ∈ transaction.inserted, old.feed = event.feed → old.id < event.id :=
  fun old hold event hevent hfeed => h.newer old hold (hfeed.trans (h.own event hevent)) event hevent

theorem HistoryKept.commit {nextEventId : ℕ} {history events inserted : List ReviewEvent}
    {retention : List EventRetention} (h : HistoryKept nextEventId history events retention)
    (hdrawn : ∀ event ∈ inserted, 0 < event.id ∧ event.id < nextEventId)
    (hincreasing : inserted.Pairwise fun earlier later => earlier.id < later.id)
    (hafter : ∀ old ∈ history, ∀ event ∈ inserted, old.feed = event.feed → old.id < event.id)
    (isRemoved : ReviewEvent → Bool) :
    HistoryKept nextEventId (history ++ inserted)
      ((events ++ inserted).filter fun event => !isRemoved event)
      (((events ++ inserted).filter isRemoved).foldl ReviewRepository.raiseRetention retention) := by
  have hpresent : (events ++ inserted).Sublist (history ++ inserted) :=
    h.present.append (List.Sublist.refl _)
  refine ⟨?_, ?_, (List.filter_sublist).trans hpresent, ?_, ?_⟩
  · intro event hevent
    rcases List.mem_append.1 hevent with hold | hnew
    · exact h.drawn event hold
    · exact hdrawn event hnew
  · have hordered : inserted.Pairwise fun earlier later =>
        earlier.feed = later.feed → earlier.id < later.id := by
      refine hincreasing.imp ?_
      intro earlier later hlt _
      exact hlt
    exact List.pairwise_append.2 ⟨h.increasing, hordered, hafter⟩
  · intro event hevent
    have hrow : event ∈ events ++ inserted ∨ event.id ≤ trimmedThrough retention event.feed := by
      rcases List.mem_append.1 hevent with hold | hnew
      · rcases h.kept event hold with hrow | hle
        · exact .inl (List.mem_append_left _ hrow)
        · exact .inr hle
      · exact .inl (List.mem_append_right _ hnew)
    rcases hrow with hrow | hle
    · by_cases hremoved : isRemoved event = true
      · exact .inr (le_trimmedThrough_foldl _ (List.mem_filter.2 ⟨hrow, hremoved⟩))
      · exact .inl (List.mem_filter.2 ⟨hrow, by simpa using hremoved⟩)
    · exact .inr (hle.trans (trimmedThrough_foldl_le _ _ _))
  · intro feed
    rcases trimmedThrough_foldl_eq retention ((events ++ inserted).filter isRemoved) feed with
      hsame | ⟨event, hevent, hmark⟩
    · rw [hsame]
      rcases h.marked feed with hzero | ⟨event, hevent, hmark⟩
      · exact .inl hzero
      · exact .inr ⟨event, List.mem_append_left _ hevent, hmark⟩
    · exact .inr ⟨event, hpresent.subset (List.mem_of_mem_filter hevent), hmark⟩

variable [DecidableEq κ]

theorem WritersKept.beginTransaction (h : WritersKept lockOf s) {tx : ℕ} {feed : Feed}
    (hstep : s.beginTransaction lockOf tx feed = some s') : WritersKept lockOf s' := by
  unfold FeedServer.beginTransaction at hstep
  split_ifs at hstep with hfree
  cases hstep
  refine ⟨h.started, fun other transaction hother => ?_, h.history⟩
  dsimp only at hother
  by_cases hsame : other = tx
  · subst hsame
    rw [Function.update_self, Option.some.injEq] at hother
    subst hother
    exact ⟨Function.update_self .., fun _ h => absurd h List.not_mem_nil,
      fun _ h => absurd h List.not_mem_nil, List.Pairwise.nil,
      fun _ _ _ _ h => absurd h List.not_mem_nil, fun _ h => absurd h List.not_mem_nil⟩
  · rw [Function.update_of_ne hsame] at hother
    have hkept := h.transactions other transaction hother
    refine ⟨?_, hkept.own, hkept.drawn, hkept.increasing, hkept.newer, hkept.told⟩
    have hlock : lockOf transaction.feed ≠ lockOf feed := by
      intro heq
      have hheld := hkept.locked
      rw [heq, hfree.2] at hheld
      cases hheld
    dsimp only
    rw [Function.update_of_ne hlock]
    exact hkept.locked

/-- The transactions that stay open keep their locks when another ends. -/
theorem WritersKept.released (h : WritersKept lockOf s) {tx : ℕ} {transaction : Transaction}
    (htx : s.transactions tx = some transaction) {other : ℕ} {current : Transaction}
    (hother : (s.release lockOf tx transaction).transactions other = some current) :
    s.transactions other = some current ∧
      (s.release lockOf tx transaction).locks (lockOf current.feed) = some other := by
  dsimp only [FeedServer.release] at hother ⊢
  have hne : other ≠ tx := by
    rintro rfl
    rw [Function.update_self] at hother
    cases hother
  rw [Function.update_of_ne hne] at hother
  have hheld := (h.transactions other current hother).locked
  refine ⟨hother, ?_⟩
  have hlock : lockOf current.feed ≠ lockOf transaction.feed := by
    intro heq
    rw [heq, (h.transactions tx transaction htx).locked, Option.some.injEq] at hheld
    exact hne hheld.symm
  rw [Function.update_of_ne hlock]
  exact hheld

theorem WritersKept.rollback (h : WritersKept lockOf s) {tx : ℕ}
    (hstep : s.rollback lockOf tx = some s') : WritersKept lockOf s' := by
  unfold FeedServer.rollback at hstep
  obtain ⟨transaction, htx, rfl⟩ := Option.map_eq_some_iff.1 hstep
  refine ⟨h.started, fun other current hother => ?_, h.history⟩
  obtain ⟨hopen, hlock⟩ := h.released htx hother
  have hkept := h.transactions other current hopen
  exact ⟨hlock, hkept.own, hkept.drawn, hkept.increasing, hkept.newer, hkept.told⟩

theorem WritersKept.commit (h : WritersKept lockOf s) {tx : ℕ}
    (hstep : s.commit lockOf tx = some s') : WritersKept lockOf s' := by
  unfold FeedServer.commit at hstep
  obtain ⟨transaction, htx, hstep⟩ := Option.bind_eq_some_iff.1 hstep
  split_ifs at hstep
  cases hstep
  have hended := h.transactions tx transaction htx
  refine ⟨h.started, fun other current hother => ?_, ?_⟩
  · obtain ⟨hopen, hlock⟩ := h.released htx hother
    have hkept := h.transactions other current hopen
    refine ⟨hlock, hkept.own, hkept.drawn, hkept.increasing, ?_, hkept.told⟩
    intro old hold hfeed event hevent
    rcases List.mem_append.1 hold with hprior | hnew
    · exact hkept.newer old hprior hfeed event hevent
    · -- one lock cannot be held by two transactions
      have hsame : other = tx := by
        have hheld := hkept.locked
        rw [← hfeed, hended.own old hnew, hended.locked, Option.some.injEq] at hheld
        exact hheld.symm
      subst hsame
      have hgone : (s.release lockOf other transaction).transactions other = none :=
        Function.update_self ..
      rw [hgone] at hother
      cases hother
  · have hhistory := h.history.commit hended.drawn hended.increasing hended.after
      fun event => s.deleters event.id = some tx
    have hfilter : (fun event : ReviewEvent => !decide (s.deleters event.id = some tx)) =
        fun event => decide (s.deleters event.id ≠ some tx) := by
      funext event
      simp
    rw [hfilter] at hhistory
    exact hhistory

end Writers

section Readers
open CursorFeed

/-- What one stream may be shown of the events ever committed. -/
def visibleTo (history : List ReviewEvent) (subscription : EventSubscription) : List ReviewEvent :=
  history.filter fun event => isVisible subscription.accountId subscription.feed event

theorem feed_of_isVisible {accountId : JsString} {feed : Feed} {event : ReviewEvent}
    (h : isVisible accountId feed event = true) : event.feed = feed := by
  unfold isVisible at h
  rw [Bool.and_eq_true, decide_eq_true_eq] at h
  exact h.1

/-- Where a stream that was given a cursor starts. -/
def EventSubscription.start (subscription : EventSubscription) : ℕ := subscription.afterId.getD 0

/-- A stream has emitted what it was shown up to its cursor, and has read what comes next; it has
missed nothing when it started from a cursor. -/
structure SubscriptionKept (history : List ReviewEvent) (subscription : EventSubscription) : Prop where
  started : subscription.start ≤ subscription.cursor
  reached : subscription.cursor = subscription.start ∨
    ∃ event ∈ visibleTo history subscription, event.id = subscription.cursor
  emitted : Excerpt ReviewEvent.id (visibleTo history subscription) subscription.start
    subscription.cursor subscription.emitted
  complete : subscription.afterId.isSome →
    Complete ReviewEvent.id (visibleTo history subscription) subscription.start
      subscription.cursor subscription.emitted
  read : ∀ batch, subscription.polling = some batch →
    Excerpt ReviewEvent.id (visibleTo history subscription) subscription.cursor
      (lastId ReviewEvent.id batch subscription.cursor) batch
  readComplete : ∀ batch, subscription.polling = some batch → subscription.afterId.isSome →
    Complete ReviewEvent.id (visibleTo history subscription) subscription.cursor
      (lastId ReviewEvent.id batch subscription.cursor) batch

variable {history new : List ReviewEvent} {subscription : EventSubscription}

theorem visibleTo_append (history new : List ReviewEvent) (subscription : EventSubscription) :
    visibleTo (history ++ new) subscription =
      visibleTo history subscription ++ visibleTo new subscription :=
  List.filter_append ..

/-- Events that come after all their feed had do not touch what a stream has emitted or read. -/
theorem SubscriptionKept.grow (h : SubscriptionKept history subscription)
    (hafter : ∀ old ∈ history, ∀ event ∈ new, old.feed = event.feed → old.id < event.id) :
    SubscriptionKept (history ++ new) subscription := by
  have hlater : ∀ old ∈ visibleTo history subscription, ∀ event ∈ visibleTo new subscription,
      old.id < event.id := by
    intro old hold event hevent
    obtain ⟨hold, hsees⟩ := List.mem_filter.1 hold
    obtain ⟨hevent, hsees'⟩ := List.mem_filter.1 hevent
    exact hafter old hold event hevent
      ((feed_of_isVisible hsees).trans (feed_of_isVisible hsees').symm)
  have hcursor : ∀ event ∈ visibleTo new subscription, subscription.start < event.id →
      subscription.cursor < event.id := by
    intro event hevent hstart
    rcases h.reached with heq | ⟨old, hold, heq⟩
    · rwa [heq]
    · rw [← heq]
      exact hlater old hold event hevent
  have hknown : ∀ event ∈ visibleTo history subscription,
      event ∈ visibleTo (history ++ new) subscription := by
    intro event hevent
    rw [visibleTo_append]
    exact List.mem_append_left _ hevent
  refine ⟨h.started, ?_, h.emitted.mono hknown, fun hsome => ?_, fun batch hbatch =>
    (h.read batch hbatch).mono hknown, fun batch hbatch hsome => ?_⟩
  · rcases h.reached with heq | ⟨old, hold, heq⟩
    · exact .inl heq
    · exact .inr ⟨old, hknown old hold, heq⟩
  · rw [visibleTo_append]
    exact (h.complete hsome).grow hcursor
  · rw [visibleTo_append]
    refine (h.readComplete batch hbatch hsome).grow fun event hevent hnext => ?_
    rcases lastId_eq ReviewEvent.id batch subscription.cursor with heq | ⟨old, hold, heq⟩
    · rwa [heq]
    · rw [← heq]
      exact hlater old ((h.read batch hbatch).known old hold) event hevent

theorem SubscriptionKept.opened (history : List ReviewEvent) (accountId : JsString) (feed : Feed)
    (afterId : Option ℕ) : SubscriptionKept history
      { accountId, feed, afterId
        isOpening := true
        cursor := afterId.getD 0
        polling := none
        closed := false
        cursorExpired := false
        emitted := [] } :=
  ⟨Nat.le_refl _, .inl rfl, .nil _ _, fun _ => .nil _, fun _ h => (by cases h),
    fun _ h => (by cases h)⟩

theorem SubscriptionKept.closed (h : SubscriptionKept history subscription) (cursorExpired : Bool) :
    SubscriptionKept history { subscription with closed := true, cursorExpired } :=
  ⟨h.started, h.reached, h.emitted, h.complete, h.read, h.readComplete⟩

/-- A poll reads the next events of the table, or finds that some are gone. -/
theorem SubscriptionKept.polled (h : SubscriptionKept history subscription) {nextEventId : ℕ}
    {events batch : List ReviewEvent} {retention : List EventRetention}
    (hhistory : HistoryKept nextEventId history events retention)
    (hmark : subscription.afterId.isSome →
      trimmedThrough retention subscription.feed ≤ subscription.cursor)
    (hbatch : batch = query ReviewEvent.id (visibleTo events subscription) subscription.cursor
      defaultReviewEventLimit) :
    SubscriptionKept history { subscription with polling := some batch } := by
  have hids : (visibleTo events subscription).Pairwise fun a b => a.id ≠ b.id := by
    have hordered := (hhistory.increasing.sublist hhistory.present).filter
      fun event => isVisible subscription.accountId subscription.feed event
    refine hordered.imp_of_mem ?_
    intro a b ha hb hlt
    have hfeed : a.feed = b.feed :=
      (feed_of_isVisible (List.mem_filter.1 ha).2).trans
        (feed_of_isVisible (List.mem_filter.1 hb).2).symm
    exact (hlt hfeed).ne
  have hknown : ∀ event ∈ visibleTo events subscription,
      event ∈ visibleTo history subscription := by
    intro event hevent
    obtain ⟨hrow, hsees⟩ := List.mem_filter.1 hevent
    exact List.mem_filter.2 ⟨hhistory.present.subset hrow, hsees⟩
  refine ⟨h.started, h.reached, h.emitted, h.complete, fun _ hread => ?_, fun _ hread hsome => ?_⟩
  · cases hread
    subst hbatch
    exact query_excerpt hids hknown
  · cases hread
    subst hbatch
    refine query_complete hids hknown (fun event hevent => ?_) (hmark hsome)
    obtain ⟨hevent, hsees⟩ := List.mem_filter.1 hevent
    rcases hhistory.kept event hevent with hrow | hle
    · exact .inl (List.mem_filter.2 ⟨hrow, hsees⟩)
    · rw [feed_of_isVisible hsees] at hle
      exact .inr hle

/-- Writing a part of what was read. -/
theorem SubscriptionKept.wrote (h : SubscriptionKept history subscription)
    {batch : List ReviewEvent} (hbatch : subscription.polling = some batch) (count : ℕ)
    (closed : Bool) : SubscriptionKept history { subscription with
      isOpening := false
      polling := none
      closed := closed
      cursor := lastId ReviewEvent.id (batch.take count) subscription.cursor
      emitted := subscription.emitted ++ batch.take count } := by
  have htaken := (h.read batch hbatch).take count
  have hle := htaken.after_le_lastId
  refine ⟨h.started.trans hle, ?_, h.emitted.append htaken hle h.started, fun hsome => ?_,
    fun _ hread => (by cases hread), fun _ hread => (by cases hread)⟩
  · rcases lastId_eq ReviewEvent.id (batch.take count) subscription.cursor with
      heq | ⟨event, hevent, heq⟩
    · dsimp only
      rw [heq]
      exact h.reached
    · exact .inr ⟨event, htaken.known event hevent, heq⟩
  · exact (h.complete hsome).append ((h.readComplete batch hbatch hsome).take
      (h.read batch hbatch) count)

/-- The writes of one page. -/
def writesOf (pages : List PageWrite) (feed : Feed) : List PageWrite :=
  pages.filter fun write => write.feed = feed

/-- An event tells of a write, to everyone, after a cursor. -/
def Tells (history : List ReviewEvent) (feed : Feed) (eventCursor : ℕ) (write : PageWrite) : Prop :=
  ∃ event ∈ history, event.feed = feed ∧ event.recipientAccountId = none ∧
    event.threadId = write.threadId ∧ eventCursor < event.id

/-- A page has changed since a snapshot only in ways that events after its cursor tell of. -/
structure SnapshotKept (history : List ReviewEvent) (pages : List PageWrite)
    (snapshot : PageSnapshot) : Prop where
  reached : snapshot.eventCursor = 0 ∨
    ∃ event ∈ history, event.feed = snapshot.feed ∧ event.id = snapshot.eventCursor
  covered : ∃ later, writesOf pages snapshot.feed = snapshot.seen ++ later ∧
    ∀ write ∈ later, Tells history snapshot.feed snapshot.eventCursor write

theorem SnapshotKept.grow {pages written : List PageWrite} {snapshot : PageSnapshot}
    (h : SnapshotKept history pages snapshot)
    (hafter : ∀ old ∈ history, ∀ event ∈ new, old.feed = event.feed → old.id < event.id)
    (hpositive : ∀ event ∈ new, 0 < event.id)
    (htold : ∀ write ∈ written, ∃ event ∈ new, event.feed = write.feed ∧
      event.recipientAccountId = none ∧ event.threadId = write.threadId) :
    SnapshotKept (history ++ new) (pages ++ written) snapshot := by
  obtain ⟨later, hseen, hcovered⟩ := h.covered
  refine ⟨?_, later ++ writesOf written snapshot.feed, ?_, fun write hwrite => ?_⟩
  · rcases h.reached with hzero | ⟨event, hevent, hcursor⟩
    · exact .inl hzero
    · exact .inr ⟨event, List.mem_append_left _ hevent, hcursor⟩
  · unfold writesOf at hseen ⊢
    rw [List.filter_append, hseen, List.append_assoc]
  · rcases List.mem_append.1 hwrite with hold | hnew
    · obtain ⟨event, hevent, htells⟩ := hcovered write hold
      exact ⟨event, List.mem_append_left _ hevent, htells⟩
    · obtain ⟨hmem, hpage⟩ := List.mem_filter.1 hnew
      rw [decide_eq_true_eq] at hpage
      obtain ⟨event, hevent, hfeed, hpublic, hthread⟩ := htold write hmem
      refine ⟨event, List.mem_append_right _ hevent, hfeed.trans hpage, hpublic, hthread, ?_⟩
      rcases h.reached with hzero | ⟨old, hold, holdFeed, hcursor⟩
      · rw [hzero]
        exact hpositive event hevent
      · rw [← hcursor]
        exact hafter old hold event hevent (holdFeed.trans (hfeed.trans hpage).symm)

theorem foldl_max_eq (ids : List ℕ) (bound : ℕ) :
    ids.foldl max bound = bound ∨ ids.foldl max bound ∈ ids := by
  induction ids generalizing bound with
  | nil => exact .inl rfl
  | cons id ids ih =>
    rcases ih (max bound id) with heq | hmem
    · rw [List.foldl_cons, heq]
      rcases Nat.le_total id bound with hle | hle
      · exact .inl (Nat.max_eq_left hle)
      · rw [Nat.max_eq_right hle]
        exact .inr List.mem_cons_self
    · exact .inr (List.mem_cons_of_mem _ hmem)

/-- A snapshot starts with the page it has seen, at a cursor the feed has reached. -/
theorem SnapshotKept.taken {nextEventId : ℕ} {events : List ReviewEvent}
    {retention : List EventRetention} (hhistory : HistoryKept nextEventId history events retention)
    (pages : List PageWrite) (feed : Feed) : SnapshotKept history pages
      { feed
        seen := writesOf pages feed
        eventCursor := max (((events.filter fun event => event.feed = feed).map
          ReviewEvent.id).foldl max 0) (trimmedThrough retention feed) } := by
  refine ⟨?_, [], by simp, fun _ h => absurd h List.not_mem_nil⟩
  have hids := foldl_max_eq ((events.filter fun event => event.feed = feed).map ReviewEvent.id) 0
  have hreached : ∀ id, id = 0 ∨ (∃ event ∈ history, event.feed = feed ∧ event.id = id) →
      ∀ other, other = 0 ∨ (∃ event ∈ history, event.feed = feed ∧ event.id = other) →
      max id other = 0 ∨ ∃ event ∈ history, event.feed = feed ∧ event.id = max id other := by
    intro id hid other hother
    rcases Nat.le_total id other with hle | hle
    · rwa [Nat.max_eq_right hle]
    · rwa [Nat.max_eq_left hle]
  refine hreached _ ?_ _ (hhistory.marked feed)
  rcases hids with hzero | hmem
  · exact .inl hzero
  · obtain ⟨event, hevent, hid⟩ := List.mem_map.1 hmem
    obtain ⟨hrow, hfeed⟩ := List.mem_filter.1 hevent
    exact .inr ⟨event, hhistory.present.subset hrow, by simpa using hfeed, hid⟩

end Readers

section Runs
variable {κ : Type} {lockOf : Feed → κ} {database : Database} {s s' : FeedServer κ}

structure FeedKept (lockOf : Feed → κ) (s : FeedServer κ) : Prop where
  writers : WritersKept lockOf s
  subscriptions : ∀ id subscription, s.subscriptions id = some subscription →
    SubscriptionKept s.history subscription
  snapshots : ∀ snapshot ∈ s.snapshots, SnapshotKept s.history s.pages snapshot

theorem FeedKept.empty : FeedKept lockOf (FeedServer.empty κ) :=
  ⟨.empty, fun _ _ h => (by cases h), fun _ h => absurd h List.not_mem_nil⟩

/-- A subscription that is written is sound, and the others are as they were. -/
theorem FeedKept.setSubscription (h : FeedKept lockOf s) {id : ℕ}
    {subscription : EventSubscription} (hkept : SubscriptionKept s.history subscription) :
    FeedKept lockOf (s.setSubscription id subscription) := by
  refine ⟨⟨h.writers.started, h.writers.transactions, h.writers.history⟩,
    fun other current hother => ?_, h.snapshots⟩
  unfold FeedServer.setSubscription at hother
  dsimp only at hother
  by_cases hsame : other = id
  · subst hsame
    rw [Function.update_self, Option.some.injEq] at hother
    exact hother ▸ hkept
  · rw [Function.update_of_ne hsame] at hother
    exact h.subscriptions other current hother

theorem FeedKept.poll (h : FeedKept lockOf s) {id : ℕ} (hstep : s.poll id = some s') :
    FeedKept lockOf s' := by
  unfold FeedServer.poll at hstep
  obtain ⟨subscription, hid, hstep⟩ := Option.bind_eq_some_iff.1 hstep
  split_ifs at hstep
  have hkept := h.subscriptions id subscription hid
  unfold FeedServer.listReviewEvents at hstep
  dsimp only at hstep
  split at hstep
  · cases hstep
    exact h.setSubscription (hkept.closed true)
  · rename_i batch hread
    cases hstep
    split_ifs at hread with hexpired
    cases hread
    refine h.setSubscription (hkept.polled h.writers.history (fun hsome => ?_) rfl)
    simp only [hsome, Bool.or_true, true_and, not_lt] at hexpired
    exact hexpired

theorem FeedKept.writeEvents (h : FeedKept lockOf s) {id written : ℕ}
    (hstep : s.writeEvents id written = some s') : FeedKept lockOf s' := by
  unfold FeedServer.writeEvents at hstep
  obtain ⟨subscription, hid, hstep⟩ := Option.bind_eq_some_iff.1 hstep
  obtain ⟨batch, hbatch, rfl⟩ := Option.map_eq_some_iff.1 hstep
  have hkept := h.subscriptions id subscription hid
  refine h.setSubscription ?_
  cases hclosed : subscription.closed with
  | false => exact hkept.wrote hbatch written _
  | true => exact hkept.wrote hbatch 0 _

/-- What only a commit, a snapshot or a stream touches. -/
structure SameReaders (s s' : FeedServer κ) : Prop where
  subscriptions : s'.subscriptions = s.subscriptions
  history : s'.history = s.history
  pages : s'.pages = s.pages
  snapshots : s'.snapshots = s.snapshots

theorem FeedKept.same (h : FeedKept lockOf s) (hsame : SameReaders s s')
    (hwriters : WritersKept lockOf s') : FeedKept lockOf s' := by
  refine ⟨hwriters, ?_, ?_⟩
  · rw [hsame.subscriptions, hsame.history]
    exact h.subscriptions
  · rw [hsame.snapshots, hsame.history, hsame.pages]
    exact h.snapshots

theorem insertEvent_same {tx : ℕ} {written : List JsString} {record : EventRecord}
    {recipient : Option JsString} (hstep : s.insertEvent tx written record recipient = some s') :
    SameReaders s s' := by
  unfold FeedServer.insertEvent at hstep
  obtain ⟨transaction, -, hstep⟩ := Option.bind_eq_some_iff.1 hstep
  split_ifs at hstep
  cases hstep
  exact ⟨rfl, rfl, rfl, rfl⟩

theorem beginTrim_same {tx : ℕ} (hstep : s.beginTrim database tx = some s') : SameReaders s s' := by
  unfold FeedServer.beginTrim at hstep
  obtain ⟨transaction, -, hstep⟩ := Option.bind_eq_some_iff.1 hstep
  split at hstep
  · cases hstep
    exact ⟨rfl, rfl, rfl, rfl⟩
  · cases hstep

theorem endTrim_same {tx : ℕ} (hstep : s.endTrim tx = some s') : SameReaders s s' := by
  unfold FeedServer.endTrim at hstep
  obtain ⟨transaction, -, hstep⟩ := Option.bind_eq_some_iff.1 hstep
  split at hstep
  · split_ifs at hstep
    cases hstep
    exact ⟨rfl, rfl, rfl, rfl⟩
  · cases hstep

theorem FeedKept.readPage (h : FeedKept lockOf s) (feed : Feed) :
    FeedKept lockOf (s.readPage feed) := by
  refine ⟨⟨h.writers.started, h.writers.transactions, h.writers.history⟩, h.subscriptions,
    fun snapshot hsnapshot => ?_⟩
  rcases List.mem_append.1 hsnapshot with hold | hnew
  · exact h.snapshots snapshot hold
  · rw [List.mem_singleton.1 hnew]
    exact .taken h.writers.history s.pages feed

theorem FeedKept.openEventStream (h : FeedKept lockOf s) {id : ℕ} {accountId : JsString}
    {feed : Feed} {afterId : Option ℕ}
    (hstep : s.openEventStream id accountId feed afterId = some s') : FeedKept lockOf s' := by
  unfold FeedServer.openEventStream at hstep
  split_ifs at hstep
  cases hstep
  exact h.setSubscription (.opened s.history accountId feed afterId)

theorem FeedKept.closeEventSubscription (h : FeedKept lockOf s) {id : ℕ}
    (hstep : s.closeEventSubscription id = some s') : FeedKept lockOf s' := by
  unfold FeedServer.closeEventSubscription at hstep
  obtain ⟨subscription, hid, rfl⟩ := Option.map_eq_some_iff.1 hstep
  exact h.setSubscription ((h.subscriptions id subscription hid).closed _)

theorem openEventStream_history {id : ℕ} {accountId : JsString} {feed : Feed} {afterId : Option ℕ}
    (hstep : s.openEventStream id accountId feed afterId = some s') : s'.history = s.history := by
  unfold FeedServer.openEventStream at hstep
  split_ifs at hstep
  cases hstep
  rfl

theorem poll_history {id : ℕ} (hstep : s.poll id = some s') : s'.history = s.history := by
  unfold FeedServer.poll at hstep
  obtain ⟨subscription, -, hstep⟩ := Option.bind_eq_some_iff.1 hstep
  split_ifs at hstep
  dsimp only at hstep
  split at hstep
  all_goals
    cases hstep
    rfl

theorem writeEvents_history {id written : ℕ} (hstep : s.writeEvents id written = some s') :
    s'.history = s.history := by
  unfold FeedServer.writeEvents at hstep
  obtain ⟨subscription, -, hstep⟩ := Option.bind_eq_some_iff.1 hstep
  obtain ⟨batch, -, rfl⟩ := Option.map_eq_some_iff.1 hstep
  rfl

theorem closeEventSubscription_history {id : ℕ}
    (hstep : s.closeEventSubscription id = some s') : s'.history = s.history := by
  unfold FeedServer.closeEventSubscription at hstep
  obtain ⟨subscription, -, rfl⟩ := Option.map_eq_some_iff.1 hstep
  rfl

variable [DecidableEq κ]

theorem beginTransaction_same {tx : ℕ} {feed : Feed}
    (hstep : s.beginTransaction lockOf tx feed = some s') : SameReaders s s' := by
  unfold FeedServer.beginTransaction at hstep
  split_ifs at hstep
  cases hstep
  exact ⟨rfl, rfl, rfl, rfl⟩

theorem rollback_same {tx : ℕ} (hstep : s.rollback lockOf tx = some s') : SameReaders s s' := by
  unfold FeedServer.rollback at hstep
  obtain ⟨transaction, -, rfl⟩ := Option.map_eq_some_iff.1 hstep
  exact ⟨rfl, rfl, rfl, rfl⟩

theorem FeedKept.commit (h : FeedKept lockOf s) {tx : ℕ}
    (hstep : s.commit lockOf tx = some s') : FeedKept lockOf s' := by
  have hwriters := h.writers.commit hstep
  unfold FeedServer.commit at hstep
  obtain ⟨transaction, htx, hstep⟩ := Option.bind_eq_some_iff.1 hstep
  split_ifs at hstep
  cases hstep
  have hended := h.writers.transactions tx transaction htx
  refine ⟨hwriters, fun id subscription hid => (h.subscriptions id subscription hid).grow
    hended.after, fun snapshot hsnapshot => (h.snapshots snapshot hsnapshot).grow hended.after
      (fun event hevent => (hended.drawn event hevent).1) fun write hwrite => ?_⟩
  obtain ⟨hfeed, event, hevent, htells⟩ := hended.told write hwrite
  exact ⟨event, hevent, (hended.own event hevent).trans hfeed.symm, htells⟩

theorem FeedKept.step (h : FeedKept lockOf s) {action : FeedServer.Action}
    (hstep : FeedServer.step lockOf database s action = some s') : FeedKept lockOf s' := by
  cases action with
  | beginTransaction tx feed =>
    exact h.same (beginTransaction_same hstep) (h.writers.beginTransaction hstep)
  | change tx record => exact h.same (insertEvent_same hstep) (h.writers.insertEvent (by simp) hstep)
  | notify tx record recipient =>
    exact h.same (insertEvent_same hstep) (h.writers.insertEvent (by simp) hstep)
  | beginTrim tx => exact h.same (beginTrim_same hstep) (h.writers.beginTrim hstep)
  | endTrim tx => exact h.same (endTrim_same hstep) (h.writers.endTrim hstep)
  | commit tx => exact h.commit hstep
  | rollback tx => exact h.same (rollback_same hstep) (h.writers.rollback hstep)
  | readPage feed =>
    cases hstep
    exact h.readPage feed
  | openEventStream id accountId feed afterId => exact h.openEventStream hstep
  | poll id => exact h.poll hstep
  | writeEvents id written => exact h.writeEvents hstep
  | closeEventSubscription id => exact h.closeEventSubscription hstep

theorem commit_history {tx : ℕ} (hstep : s.commit lockOf tx = some s') :
    ∃ new, s'.history = s.history ++ new := by
  unfold FeedServer.commit at hstep
  obtain ⟨transaction, -, hstep⟩ := Option.bind_eq_some_iff.1 hstep
  split_ifs at hstep
  cases hstep
  exact ⟨transaction.inserted, rfl⟩

/-- What was committed stays committed. -/
theorem step_history {action : FeedServer.Action}
    (hstep : FeedServer.step lockOf database s action = some s') : s.history <+: s'.history := by
  have hsame : s'.history = s.history → s.history <+: s'.history := by
    intro heq
    rw [heq]
  cases action with
  | beginTransaction tx feed => exact hsame (beginTransaction_same hstep).history
  | change tx record => exact hsame (insertEvent_same hstep).history
  | notify tx record recipient => exact hsame (insertEvent_same hstep).history
  | beginTrim tx => exact hsame (beginTrim_same hstep).history
  | endTrim tx => exact hsame (endTrim_same hstep).history
  | commit tx =>
    obtain ⟨new, hnew⟩ := commit_history hstep
    exact ⟨new, hnew.symm⟩
  | rollback tx => exact hsame (rollback_same hstep).history
  | readPage feed =>
    cases hstep
    exact hsame rfl
  | openEventStream id accountId feed afterId => exact hsame (openEventStream_history hstep)
  | poll id => exact hsame (poll_history hstep)
  | writeEvents id written => exact hsame (writeEvents_history hstep)
  | closeEventSubscription id => exact hsame (closeEventSubscription_history hstep)

theorem run_history {actions : List FeedServer.Action}
    (hrun : Execution.run (FeedServer.step lockOf database) s actions = some s') :
    s.history <+: s'.history := by
  have hnext : ∀ current action next, s.history <+: current.history →
      FeedServer.step lockOf database current action = some next → s.history <+: next.history :=
    fun current action next h hstep => h.trans (step_history hstep)
  exact @Execution.invariant_of_run _ _ _ (fun current => s.history <+: current.history) hnext
    s s' actions (List.prefix_refl _) hrun

theorem feedKept_of_run {actions : List FeedServer.Action} (h : FeedKept lockOf s)
    (hrun : Execution.run (FeedServer.step lockOf database) s actions = some s') :
    FeedKept lockOf s' := by
  have hnext : ∀ current action next, FeedKept lockOf current →
      FeedServer.step lockOf database current action = some next → FeedKept lockOf next :=
    fun current action next h hstep => h.step hstep
  exact Execution.invariant_of_run hnext h hrun

/-- Of what is emitted nothing was missed, and nothing that is committed later comes before it. -/
theorem eventFeed_complete (lockOf : Feed → κ) (database : Database)
    (actions : List FeedServer.Action) (s : FeedServer κ)
    (hrun : Execution.run (FeedServer.step lockOf database) (.empty κ) actions = some s) :
    (∀ event ∈ s.events, event ∈ s.history) ∧
    (∀ id subscription, s.subscriptions id = some subscription →
      (subscription.emitted.Pairwise fun earlier later => earlier.id < later.id) ∧
      (∀ event ∈ subscription.emitted, event ∈ s.history ∧
        isVisible subscription.accountId subscription.feed event = true) ∧
      ∀ cursor, subscription.afterId = some cursor → ∀ last ∈ subscription.emitted,
        ∀ event ∈ s.history, isVisible subscription.accountId subscription.feed event = true →
          cursor < event.id → event.id ≤ last.id → event ∈ subscription.emitted) ∧
    (∀ later s', Execution.run (FeedServer.step lockOf database) s later = some s' →
      ∃ new, s'.history = s.history ++ new ∧
        ∀ event ∈ new, ∀ id subscription, s.subscriptions id = some subscription →
          event.feed = subscription.feed → ∀ last ∈ subscription.emitted, last.id < event.id) ∧
    ∀ snapshot ∈ s.snapshots, ∃ later,
      writesOf s.pages snapshot.feed = snapshot.seen ++ later ∧
        ∀ write ∈ later, Tells s.history snapshot.feed snapshot.eventCursor write := by
  have hkept : FeedKept lockOf s := feedKept_of_run .empty hrun
  refine ⟨fun event hevent => hkept.writers.history.present.subset hevent,
    fun id subscription hid => ?_, fun later s' hlater => ?_, fun snapshot hsnapshot =>
      (hkept.snapshots snapshot hsnapshot).covered⟩
  · have hsubscription := hkept.subscriptions id subscription hid
    refine ⟨hsubscription.emitted.increasing, fun event hevent => ?_,
      fun cursor hcursor last hlast event hevent hsees hlower hupper => ?_⟩
    · have hmem := hsubscription.emitted.known event hevent
      simpa [visibleTo] using hmem
    · have hstart : subscription.start = cursor := by
        unfold EventSubscription.start
        rw [hcursor]
        rfl
      refine hsubscription.complete (by rw [hcursor]; rfl) event
        (List.mem_filter.2 ⟨hevent, hsees⟩) (hstart ▸ hlower) ?_
      exact hupper.trans (hsubscription.emitted.upper last hlast)
  · obtain ⟨new, hnew⟩ := run_history hlater
    refine ⟨new, hnew.symm, fun event hevent id subscription hid hfeed last hlast => ?_⟩
    have hkept' : FeedKept lockOf s' := feedKept_of_run hkept hlater
    have hincreasing := hkept'.writers.history.increasing
    rw [← hnew] at hincreasing
    have hknown := (hkept.subscriptions id subscription hid).emitted.known last hlast
    obtain ⟨hold, hsees⟩ := List.mem_filter.1 hknown
    exact (List.pairwise_append.1 hincreasing).2.2 last hold event hevent
      ((feed_of_isVisible hsees).trans hfeed.symm)

end Runs

section Sample
open JsString

def sampleFeed : Feed := ⟨ofAscii "revision", ofAscii "/"⟩

def sampleDatabase : Database where
  maxEvents := 10
  maxEventAgeMs := 1000
  arranges := fun ids => ids
  arranges_perm := fun _ => List.Perm.refl _

/-- A change is committed after a page was read; the stream opened at the cursor of the page shows it. -/
def sampleActions : List FeedServer.Action := [
  .beginTransaction 1 sampleFeed,
  .change 1 ⟨ofAscii "thread", .commentCreated, ⟨ofAscii "guest", ofAscii "Guest"⟩, 5⟩,
  .beginTrim 1,
  .endTrim 1,
  .readPage sampleFeed,
  .openEventStream 1 (ofAscii "owner") sampleFeed (some 0),
  .poll 1,
  .writeEvents 1 100,
  .commit 1,
  .poll 1,
  .writeEvents 1 100]

theorem eventFeed_complete_change :
    ∃ s, Execution.run (FeedServer.step (fun feed => feed) sampleDatabase) (.empty Feed)
        sampleActions = some s ∧
      (s.subscriptions 1).map (fun subscription => subscription.emitted.map ReviewEvent.id) =
        some [1] ∧
      ∀ snapshot ∈ s.snapshots, ∃ later,
        writesOf s.pages snapshot.feed = snapshot.seen ++ later ∧
          ∀ write ∈ later, Tells s.history snapshot.feed snapshot.eventCursor write := by
  have hshown : (Execution.run (FeedServer.step (fun feed => feed) sampleDatabase) (.empty Feed)
      sampleActions).map (fun s => (s.subscriptions 1).map fun subscription =>
        subscription.emitted.map ReviewEvent.id) = some (some [1]) := by
    decide +kernel
  obtain ⟨s, hrun, hemitted⟩ := Option.map_eq_some_iff.1 hshown
  exact ⟨s, hrun, hemitted,
    (eventFeed_complete (fun feed => feed) sampleDatabase sampleActions s hrun).2.2.2⟩

end Sample

end Lotur.Review
