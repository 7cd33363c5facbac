import Lotur.Relay.FlowPromises

/-! What every sequence of calls keeps of the outbound window: no credit is made or lost, and every
`take` is granted in its turn or rejected, once. -/
namespace Lotur.FlowPromises

variable {w : FlowPromises} {rest : List TakeCall} {i : ℕ}

def outstandingBytes (w : FlowPromises) : ℤ := AList.total CreditAccount.outstanding w.streams

/-- A call that the stream or the connection has no credit for. -/
def IsStarved (w : FlowPromises) (call : TakeCall) : Prop :=
  ∃ credit, w.streams.lookup call.streamId = some credit ∧
    (credit.available = 0 ∨ w.connectionAvailable = 0)

/-- The credit of the window adds up. -/
structure Balanced (w : FlowPromises) : Prop where
  connection : w.closed = false →
    w.connectionAvailable + w.outstandingBytes = w.initialConnectionBytes
  connectionNonneg : 0 ≤ w.connectionAvailable
  stream : ∀ i credit, w.streams.lookup i = some credit →
    credit.available + credit.outstanding = w.initialStreamBytes i ∧
      0 ≤ credit.available ∧ 0 ≤ credit.outstanding

/-- The promises while `rest` is still to be looked at: every call waits or was settled once, and
those of a stream that wait came after those that were granted. -/
structure Queued (w : FlowPromises) (rest : List TakeCall) : Prop where
  starved : ∀ call ∈ w.waiters, w.IsStarved call
  opened : ∀ call ∈ rest, call.streamId ∈ w.streams
  positive : ∀ call ∈ w.waiters ++ rest, 0 < call.maximumBytes
  inOrder : ((w.waiters ++ rest).map TakeCall.ticket).Pairwise (· < ·)
  known : ∀ call ∈ w.waiters ++ rest, call.ticket < w.takeCalls
  settledKnown : ∀ entry ∈ w.settled, entry.1.ticket < w.takeCalls
  once : (w.settled.map fun entry => entry.1.ticket).Nodup
  apart : ∀ entry ∈ w.settled, ∀ call ∈ w.waiters ++ rest, entry.1.ticket ≠ call.ticket
  complete : ∀ ticket < w.takeCalls, (∃ entry ∈ w.settled, entry.1.ticket = ticket) ∨
    ∃ call ∈ w.waiters ++ rest, call.ticket = ticket
  granted : ∀ i, (w.grantedTo i).Pairwise (· < ·)
  before : ∀ i, ∀ ticket ∈ w.grantedTo i, ∀ call ∈ w.waiters ++ rest, call.streamId = i →
    ticket < call.ticket
  bounded : ∀ entry ∈ w.settled, ∀ bytes, entry.2 = .granted bytes →
    1 ≤ bytes ∧ bytes ≤ entry.1.maximumBytes

/-- A call that is looked at and passed over waits on. -/
theorem Queued.passed {call : TakeCall} (h : Queued w (call :: rest)) (hstarved : w.IsStarved call) :
    Queued { w with waiters := w.waiters ++ [call] } rest := by
  have hsame : (w.waiters ++ [call]) ++ rest = w.waiters ++ call :: rest := by simp
  refine ⟨?_, fun other hother => h.opened other (List.mem_cons_of_mem _ hother), ?_, ?_, ?_,
    h.settledKnown, h.once, ?_, ?_, h.granted, ?_, h.bounded⟩
  · intro other hother
    rcases List.mem_append.1 hother with hold | hnew
    · exact h.starved other hold
    · rw [List.mem_singleton.1 hnew]
      exact hstarved
  all_goals dsimp only; rw [hsame]
  · exact h.positive
  · exact h.inOrder
  · exact h.known
  · exact h.apart
  · exact h.complete
  · exact h.before

theorem grantedTo_append (w : FlowPromises) (entries : List (TakeCall × TakeOutcome)) (i : ℕ) :
    grantedTo { w with settled := w.settled ++ entries } i = w.grantedTo i ++
      (entries.filter fun entry => entry.1.streamId = i && entry.2.isGranted).map
        fun entry => entry.1.ticket := by
  simp [grantedTo]

/-- What the loop may grant is no more than either credit, and nothing only if one is used up. -/
theorem Balanced.grantable_bounds (h : w.Balanced) {call : TakeCall} {credit : CreditAccount}
    (hlookup : w.streams.lookup call.streamId = some credit) (hpositive : 0 < call.maximumBytes) :
    0 ≤ w.grantable call credit ∧ w.grantable call credit ≤ call.maximumBytes ∧
      w.grantable call credit ≤ credit.available ∧
      w.grantable call credit ≤ w.connectionAvailable ∧
      (w.grantable call credit = 0 ↔ credit.available = 0 ∨ w.connectionAvailable = 0) := by
  obtain ⟨-, havailable, -⟩ := h.stream call.streamId credit hlookup
  have hconnection := h.connectionNonneg
  unfold grantable
  refine ⟨?_, ?_, ?_, ?_, ?_⟩ <;> omega

theorem Balanced.grant (h : w.Balanced) {call : TakeCall} {credit : CreditAccount}
    (hlookup : w.streams.lookup call.streamId = some credit) (hpositive : 0 < call.maximumBytes) :
    (w.grant call credit).Balanced := by
  obtain ⟨hnonneg, -, havailable, hconnection, -⟩ := h.grantable_bounds hlookup hpositive
  refine ⟨?_, ?_, ?_⟩
  · intro hopen
    have hsum := h.connection hopen
    show w.connectionAvailable - w.grantable call credit +
      AList.total CreditAccount.outstanding (w.streams.insert call.streamId _) = _
    rw [AList.total_replace _ hlookup]
    show _ + (w.outstandingBytes + _) = w.initialConnectionBytes
    dsimp only
    omega
  · show 0 ≤ w.connectionAvailable - w.grantable call credit
    omega
  · intro i other hother
    by_cases hi : i = call.streamId
    · subst hi
      have heq : other = ⟨credit.available - w.grantable call credit,
          credit.outstanding + w.grantable call credit⟩ := by
        simpa [FlowPromises.grant] using hother.symm
      obtain ⟨hsum, -, houtstanding⟩ := h.stream call.streamId credit hlookup
      rw [heq]
      dsimp only
      refine ⟨?_, by omega, by omega⟩
      show _ = w.initialStreamBytes call.streamId
      omega
    · refine h.stream i other ?_
      simpa [FlowPromises.grant, AList.lookup_insert_ne hi] using hother

/-- Credit only goes while waiters are served, so who was passed over stays starved. -/
theorem Balanced.starved_grant (h : w.Balanced) {call other : TakeCall} {credit : CreditAccount}
    (hlookup : w.streams.lookup call.streamId = some credit) (hpositive : 0 < call.maximumBytes)
    (hgrants : w.grantable call credit ≠ 0) (hstarved : w.IsStarved other) :
    (w.grant call credit).IsStarved other ∧ other.streamId ≠ call.streamId := by
  obtain ⟨own, hown, hzero⟩ := hstarved
  have hiff := (h.grantable_bounds hlookup hpositive).2.2.2.2
  have hne : other.streamId ≠ call.streamId := by
    intro hsame
    rw [hsame, hlookup] at hown
    obtain rfl := Option.some.inj hown
    exact hgrants (hiff.2 hzero)
  have hconnection : w.connectionAvailable ≠ 0 := fun hempty => hgrants (hiff.2 (Or.inr hempty))
  refine ⟨⟨own, ?_, Or.inl (hzero.resolve_right hconnection)⟩, hne⟩
  exact (AList.lookup_insert_ne hne).trans hown

/-- A call that is granted credit: all of its stream that were granted came before it, and all that
wait come after it. -/
theorem Queued.grant {call : TakeCall} (h : Queued w (call :: rest)) (hbalanced : w.Balanced)
    {credit : CreditAccount} (hlookup : w.streams.lookup call.streamId = some credit)
    (hgrants : w.grantable call credit ≠ 0) : Queued (w.grant call credit) rest := by
  have hmem : call ∈ w.waiters ++ call :: rest := by simp
  have hpositive := h.positive call hmem
  have hkeep : ∀ other ∈ w.waiters ++ rest, other ∈ w.waiters ++ call :: rest := by
    intro other hother
    rcases List.mem_append.1 hother with hold | hnew
    · exact List.mem_append_left _ hold
    · exact List.mem_append_right _ (List.mem_cons_of_mem _ hnew)
  have hsplit : ((w.waiters ++ call :: rest).map TakeCall.ticket).Pairwise (· < ·) := h.inOrder
  have hlater : ∀ other ∈ rest, call.ticket < other.ticket := by
    intro other hother
    rw [List.map_append, List.map_cons] at hsplit
    have htail := (List.pairwise_append.1 hsplit).2.1
    exact (List.pairwise_cons.1 htail).1 _ (List.mem_map_of_mem hother)
  have hapart : ∀ other ∈ w.waiters ++ rest, call.ticket ≠ other.ticket := by
    intro other hother
    rw [List.map_append, List.map_cons] at hsplit
    rcases List.mem_append.1 hother with hold | hnew
    · have hlt := (List.pairwise_append.1 hsplit).2.2 _ (List.mem_map_of_mem hold) call.ticket
        List.mem_cons_self
      omega
    · have hlt := hlater other hnew
      omega
  have hgrantedTo : ∀ i, (w.grant call credit).grantedTo i =
      if call.streamId = i then w.grantedTo i ++ [call.ticket] else w.grantedTo i := by
    intro i
    have happend := grantedTo_append w [(call, .granted (w.grantable call credit))] i
    rw [show (w.grant call credit).grantedTo i = grantedTo
      { w with settled := w.settled ++ [(call, .granted (w.grantable call credit))] } i from rfl,
      happend]
    split_ifs with hi <;> simp [hi, TakeOutcome.isGranted]
  refine ⟨?_, ?_, fun other hother => h.positive other (hkeep other hother), ?_,
    fun other hother => h.known other (hkeep other hother), ?_, ?_, ?_, ?_, ?_, ?_, ?_⟩
  · intro other hold
    exact (hbalanced.starved_grant hlookup hpositive hgrants (h.starved other hold)).1
  · intro other hnew
    exact AList.mem_insert _ |>.2 (Or.inr (h.opened other (List.mem_cons_of_mem _ hnew)))
  · refine hsplit.sublist (List.Sublist.map _ ?_)
    exact (List.Sublist.refl _).append (List.sublist_cons_self _ _)
  · intro entry hentry
    rcases List.mem_append.1 hentry with hold | hnew
    · exact h.settledKnown entry hold
    · rw [List.mem_singleton.1 hnew]
      exact h.known call hmem
  · show ((w.settled ++ [(call, _)]).map fun entry : TakeCall × _ => entry.1.ticket).Nodup
    rw [List.map_append, List.nodup_append]
    refine ⟨h.once, by simp, ?_⟩
    intro ticket hticket other hother heq
    obtain ⟨entry, hentry, rfl⟩ := List.mem_map.1 hticket
    obtain rfl : other = call.ticket := by simpa using hother
    exact h.apart entry hentry call hmem heq
  · intro entry hentry other hother
    rcases List.mem_append.1 hentry with hold | hnew
    · exact h.apart entry hold other (hkeep other hother)
    · rw [List.mem_singleton.1 hnew]
      exact hapart other hother
  · intro ticket hticket
    rcases h.complete ticket hticket with ⟨entry, hentry, heq⟩ | ⟨other, hother, heq⟩
    · exact Or.inl ⟨entry, List.mem_append_left _ hentry, heq⟩
    · by_cases hsame : other = call
      · subst hsame
        exact Or.inl ⟨_, List.mem_append_right _ (List.mem_singleton_self _), heq⟩
      · refine Or.inr ⟨other, ?_, heq⟩
        show other ∈ w.waiters ++ rest
        simpa [hsame] using hother
  · intro i
    rw [hgrantedTo]
    split_ifs with hi
    · refine List.pairwise_append.2 ⟨h.granted i, List.pairwise_singleton _ _, ?_⟩
      intro ticket hticket other hother
      rw [List.mem_singleton.1 hother]
      exact h.before i ticket hticket call hmem hi
    · exact h.granted i
  · intro i ticket hticket other hother hid
    rw [hgrantedTo] at hticket
    split_ifs at hticket with hi
    · rcases List.mem_append.1 hticket with hold | hnew
      · exact h.before i ticket hold other (hkeep other hother) hid
      · rw [List.mem_singleton.1 hnew]
        rcases List.mem_append.1 hother with hwaits | hlast
        · have hstarved := h.starved other hwaits
          have hne := (hbalanced.starved_grant hlookup hpositive hgrants hstarved).2
          exact absurd (hid.trans hi.symm) hne
        · exact hlater other hlast
    · exact h.before i ticket hticket other (hkeep other hother) hid
  · intro entry hentry bytes hbytes
    rcases List.mem_append.1 hentry with hold | hnew
    · exact h.bounded entry hold bytes hbytes
    · rw [List.mem_singleton.1 hnew] at hbytes ⊢
      obtain rfl : w.grantable call credit = bytes := by simpa using hbytes
      have hbounds := hbalanced.grantable_bounds hlookup hpositive
      refine ⟨?_, hbounds.2.1⟩
      omega

/-- One pass over the waiters. -/
theorem drainFrom_sound (hbalanced : w.Balanced) (h : Queued w rest) :
    (w.drainFrom rest).Balanced ∧ Queued (w.drainFrom rest) [] := by
  induction rest generalizing w with
  | nil => exact ⟨hbalanced, h⟩
  | cons call rest ih =>
    have hpositive := h.positive call (by simp)
    obtain ⟨credit, hlookup⟩ := Option.isSome_iff_exists.1
      (AList.lookup_isSome.2 (h.opened call List.mem_cons_self))
    have hiff := (hbalanced.grantable_bounds hlookup hpositive).2.2.2.2
    simp only [drainFrom, hlookup]
    split_ifs with hzero
    · have hkept : Balanced { w with waiters := w.waiters ++ [call] } :=
        ⟨hbalanced.connection, hbalanced.connectionNonneg, hbalanced.stream⟩
      exact ih hkept (h.passed ⟨credit, hlookup, hiff.1 hzero⟩)
    · exact ih (hbalanced.grant hlookup hpositive) (h.grant hbalanced hlookup hzero)

/-- Between two calls. -/
structure Sound (w : FlowPromises) : Prop where
  balanced : w.Balanced
  queued : Queued w []
  emptied : w.closed = true → ∀ i, i ∉ w.streams

theorem Sound.waiting_opened (h : w.Sound) {call : TakeCall} (hcall : call ∈ w.waiters) :
    call.streamId ∈ w.streams := by
  obtain ⟨credit, hlookup, -⟩ := h.queued.starved call hcall
  exact AList.lookup_isSome.1 (Option.isSome_iff_exists.2 ⟨credit, hlookup⟩)

/-- Another pass may start when the streams of all waiters are open. -/
theorem Queued.restart {w' : FlowPromises} (h : Queued w []) (hwaiters : w'.waiters = w.waiters)
    (hsettled : w'.settled = w.settled) (htickets : w'.takeCalls = w.takeCalls)
    (hopened : ∀ call ∈ w.waiters, call.streamId ∈ w'.streams) :
    Queued { w' with waiters := [] } w'.waiters := by
  obtain ⟨-, -, hpositive, hinOrder, hknown, hsettledKnown, honce, hapart, hcomplete, hgranted,
    hbefore, hbounded⟩ := h
  rw [List.append_nil] at hpositive hinOrder hknown hapart hcomplete hbefore
  refine ⟨fun _ hmem => absurd hmem List.not_mem_nil, ?_, ?_, ?_, ?_, ?_, ?_, ?_, ?_, ?_, ?_, ?_⟩
  all_goals simp only [List.nil_append, hwaiters, hsettled, htickets]
  · exact hopened
  · exact hpositive
  · exact hinOrder
  · exact hknown
  · exact hsettledKnown
  · exact honce
  · exact hapart
  · exact hcomplete
  · exact hgranted
  · exact hbefore
  · exact hbounded

/-- A pass over the waiters changes neither the sizes nor whether the window is closed, and it only
adds to what was settled. -/
theorem drainFrom_frame (w : FlowPromises) (rest : List TakeCall) :
    (w.drainFrom rest).closed = w.closed ∧
      (w.drainFrom rest).initialConnectionBytes = w.initialConnectionBytes ∧
      w.settled ⊆ (w.drainFrom rest).settled := by
  induction rest generalizing w with
  | nil => exact ⟨rfl, rfl, List.Subset.refl _⟩
  | cons call rest ih =>
    rw [drainFrom]
    split
    · obtain ⟨hclosed, hinitial, hsettled⟩ := ih (w.settle call (.rejected noStream))
      exact ⟨hclosed, hinitial, fun entry hentry => hsettled (List.mem_append_left _ hentry)⟩
    · rename_i credit hlookup
      split_ifs
      · exact ih { w with waiters := w.waiters ++ [call] }
      · obtain ⟨hclosed, hinitial, hsettled⟩ := ih (w.grant call credit)
        exact ⟨hclosed, hinitial, fun entry hentry => hsettled (List.mem_append_left _ hentry)⟩

theorem drainWaiters_sound (hopen : w.closed = false) (hbalanced : w.Balanced)
    (hqueued : Queued { w with waiters := [] } w.waiters) : w.drainWaiters.Sound := by
  have hunwaited : Balanced { w with waiters := [] } :=
    ⟨hbalanced.connection, hbalanced.connectionNonneg, hbalanced.stream⟩
  obtain ⟨hafter, hserved⟩ := drainFrom_sound hunwaited hqueued
  refine ⟨hafter, hserved, ?_⟩
  intro hclosed
  rw [drainWaiters, (drainFrom_frame _ _).1] at hclosed
  rw [show w.closed = true from hclosed] at hopen
  cases hopen

theorem openStream_sound (h : w.Sound) (i : ℕ) (bytes : ℤ) : (w.openStream i bytes).1.Sound := by
  unfold openStream
  split_ifs with hid hbytes hclosed hmem
  · exact h
  · exact h
  · exact h
  · exact h
  · refine drainWaiters_sound (by simpa using hclosed) ⟨?_, h.balanced.connectionNonneg, ?_⟩
      (h.queued.restart rfl rfl rfl ?_)
    · intro hopen
      show w.connectionAvailable + AList.total CreditAccount.outstanding _ = _
      rw [AList.total_new _ hmem, add_zero]
      exact h.balanced.connection hopen
    · intro j credit hlookup
      by_cases hj : j = i
      · subst hj
        obtain rfl : (⟨bytes, 0⟩ : CreditAccount) = credit := by simpa using hlookup
        simp only [Function.update_self]
        omega
      · have hold := h.balanced.stream j credit (by simpa [AList.lookup_insert_ne hj] using hlookup)
        simpa only [Function.update_of_ne hj] using hold
    · intro call hcall
      exact (AList.mem_insert _).2 (Or.inr (h.waiting_opened hcall))

/-- A new call comes after all others. -/
theorem Queued.called (h : Queued w []) {call : TakeCall} (hticket : call.ticket = w.takeCalls)
    (hpositive : 0 < call.maximumBytes) (hopened : ∀ other ∈ w.waiters ++ [call],
      other.streamId ∈ w.streams) :
    Queued { w with waiters := [], takeCalls := w.takeCalls + 1 } (w.waiters ++ [call]) := by
  obtain ⟨-, -, hpos, hinOrder, hknown, hsettledKnown, honce, hapart, hcomplete, hgranted,
    hbefore, hbounded⟩ := h
  rw [List.append_nil] at hpos hinOrder hknown hapart hcomplete hbefore
  refine ⟨fun _ hmem => absurd hmem List.not_mem_nil, hopened, ?_, ?_, ?_, ?_, honce, ?_, ?_,
    hgranted, ?_, hbounded⟩
  all_goals dsimp only; try rw [List.nil_append]
  · intro other hother
    rcases List.mem_append.1 hother with hold | hnew
    · exact hpos other hold
    · rw [List.mem_singleton.1 hnew]
      exact hpositive
  · rw [List.map_append, List.pairwise_append]
    refine ⟨hinOrder, List.pairwise_singleton _ _, ?_⟩
    intro ticket hmem other hother
    obtain ⟨waiter, hwaiter, rfl⟩ := List.mem_map.1 hmem
    obtain rfl : other = call.ticket := by simpa using hother
    rw [hticket]
    exact hknown waiter hwaiter
  · intro other hother
    rcases List.mem_append.1 hother with hold | hnew
    · exact (hknown other hold).trans (Nat.lt_succ_self _)
    · rw [List.mem_singleton.1 hnew, hticket]
      exact Nat.lt_succ_self _
  · intro entry hentry
    exact (hsettledKnown entry hentry).trans (Nat.lt_succ_self _)
  · intro entry hentry other hother
    rcases List.mem_append.1 hother with hold | hnew
    · exact hapart entry hentry other hold
    · rw [List.mem_singleton.1 hnew, hticket]
      exact (hsettledKnown entry hentry).ne
  · intro ticket hlt
    rcases Nat.lt_succ_iff_lt_or_eq.1 hlt with hold | rfl
    · rcases hcomplete ticket hold with hsettled | ⟨other, hother, heq⟩
      · exact Or.inl hsettled
      · exact Or.inr ⟨other, List.mem_append_left _ hother, heq⟩
    · exact Or.inr ⟨call, by simp, hticket⟩
  · intro i ticket hmem other hother hid
    rcases List.mem_append.1 hother with hold | hnew
    · exact hbefore i ticket hmem other hold hid
    · obtain ⟨entry, hentry, rfl⟩ := List.mem_map.1 hmem
      rw [List.mem_singleton.1 hnew, hticket]
      exact hsettledKnown entry (List.mem_filter.1 hentry).1

theorem settledOnce {entries : List (TakeCall × TakeOutcome)}
    (honce : (w.settled.map fun entry => entry.1.ticket).Nodup)
    (hentries : (entries.map fun entry => entry.1.ticket).Nodup)
    (hapart : ∀ entry ∈ w.settled, ∀ other ∈ entries, entry.1.ticket ≠ other.1.ticket) :
    ((w.settled ++ entries).map fun entry => entry.1.ticket).Nodup := by
  rw [List.map_append, List.nodup_append]
  refine ⟨honce, hentries, ?_⟩
  intro ticket hticket other hother
  obtain ⟨entry, hentry, rfl⟩ := List.mem_map.1 hticket
  obtain ⟨last, hlast, rfl⟩ := List.mem_map.1 hother
  exact hapart entry hentry last hlast

/-- A call that throws is rejected on the spot. -/
theorem Queued.thrown (h : Queued w []) {call : TakeCall} (hticket : call.ticket = w.takeCalls)
    (error : JsError) :
    Queued (settle { w with takeCalls := w.takeCalls + 1 } call (.rejected error)) [] := by
  have hgrantedTo : ∀ i, (settle { w with takeCalls := w.takeCalls + 1 } call
      (.rejected error)).grantedTo i = w.grantedTo i := by
    intro i
    show grantedTo { w with settled := w.settled ++ [(call, .rejected error)] } i = _
    rw [grantedTo_append]
    simp [TakeOutcome.isGranted]
  refine ⟨h.starved, h.opened, h.positive, h.inOrder, ?_, ?_, ?_, ?_, ?_, ?_, ?_, ?_⟩
  · intro other hother
    exact (h.known other hother).trans (Nat.lt_succ_self _)
  · intro entry hentry
    rcases List.mem_append.1 hentry with hold | hnew
    · exact (h.settledKnown entry hold).trans (Nat.lt_succ_self _)
    · rw [List.mem_singleton.1 hnew, hticket]
      exact Nat.lt_succ_self _
  · refine settledOnce h.once (by simp) ?_
    intro entry hentry other hother
    rw [List.mem_singleton.1 hother, hticket]
    exact (h.settledKnown entry hentry).ne
  · intro entry hentry other hother
    rcases List.mem_append.1 hentry with hold | hnew
    · exact h.apart entry hold other hother
    · rw [List.mem_singleton.1 hnew, hticket]
      exact (h.known other hother).ne'
  · intro ticket hlt
    rcases Nat.lt_succ_iff_lt_or_eq.1 hlt with hold | rfl
    · rcases h.complete ticket hold with ⟨entry, hentry, heq⟩ | hwaits
      · exact Or.inl ⟨entry, List.mem_append_left _ hentry, heq⟩
      · exact Or.inr hwaits
    · exact Or.inl ⟨_, List.mem_append_right _ (List.mem_singleton_self _), hticket⟩
  · intro i
    rw [hgrantedTo]
    exact h.granted i
  · intro i
    rw [hgrantedTo]
    exact h.before i
  · intro entry hentry bytes hbytes
    rcases List.mem_append.1 hentry with hold | hnew
    · exact h.bounded entry hold bytes hbytes
    · rw [List.mem_singleton.1 hnew] at hbytes
      cases hbytes

theorem take_sound (h : w.Sound) (i : ℕ) (bytes : ℤ) : (w.take i bytes).1.Sound := by
  have hthrown : ∀ error, Sound (settle { w with takeCalls := w.takeCalls + 1 }
      ⟨w.takeCalls, i, bytes⟩ (.rejected error)) := fun error =>
    ⟨⟨h.balanced.connection, h.balanced.connectionNonneg, h.balanced.stream⟩,
      h.queued.thrown rfl error, h.emptied⟩
  unfold take
  dsimp only
  split_ifs with hbytes hclosed hmem
  · exact hthrown _
  · exact hthrown _
  · refine drainWaiters_sound (by simpa using hclosed)
      ⟨h.balanced.connection, h.balanced.connectionNonneg, h.balanced.stream⟩
      (h.queued.called rfl (by simpa using hbytes) ?_)
    intro call hcall
    rcases List.mem_append.1 hcall with hold | hnew
    · exact h.waiting_opened hold
    · rw [List.mem_singleton.1 hnew]
      exact hmem
  · exact hthrown _

theorem Sound.open_of_lookup (h : w.Sound) {credit : CreditAccount}
    (hlookup : w.streams.lookup i = some credit) : w.closed = false := by
  by_contra hclosed
  have hgone := h.emptied (by simpa using hclosed) i
  exact hgone (AList.lookup_isSome.1 (Option.isSome_iff_exists.2 ⟨credit, hlookup⟩))

/-- What a stream has outstanding is missing from the connection. -/
theorem Sound.outstanding_le (h : w.Sound) {credit : CreditAccount}
    (hlookup : w.streams.lookup i = some credit) :
    w.connectionAvailable + credit.outstanding ≤ w.initialConnectionBytes := by
  have hle : credit.outstanding ≤ w.outstandingBytes :=
    AList.le_total _ (fun j other hother => (h.balanced.stream j other hother).2.2) hlookup
  have hsum := h.balanced.connection (h.open_of_lookup hlookup)
  omega

/-- An update that is not accepted changes nothing, and the check of the connection's maximum never
fails. -/
theorem update_rejected (h : w.Sound) {i : ℕ} {bytes : ℤ} {error : JsError}
    (herror : (w.update i bytes).2 = some error) :
    (w.update i bytes).1 = w ∧ error ≠ exceedsMaximum := by
  unfold update at herror ⊢
  split_ifs at herror ⊢ with hbytes
  · cases herror
    exact ⟨rfl, by decide⟩
  · split at herror
    · rename_i hlookup
      cases herror
      exact ⟨rfl, by decide⟩
    · rename_i credit hlookup
      have hle := h.outstanding_le hlookup
      dsimp only at herror
      split_ifs at herror with htoomuch hmaximum
      · cases herror
        simp only [htoomuch, if_true]
        exact ⟨trivial, by decide⟩
      · exact absurd hmaximum (by omega)

theorem update_sound (h : w.Sound) (i : ℕ) (bytes : ℤ) : (w.update i bytes).1.Sound := by
  cases herror : (w.update i bytes).2 with
  | some error =>
    rw [(update_rejected h herror).1]
    exact h
  | none =>
    unfold update at herror ⊢
    split_ifs at herror ⊢ with hbytes
    split at herror
    · cases herror
    · rename_i credit hlookup
      have hle := h.outstanding_le hlookup
      dsimp only at herror
      split_ifs at herror with htoomuch hmaximum
      have hmem : i ∈ w.streams :=
        AList.lookup_isSome.1 (Option.isSome_iff_exists.2 ⟨credit, hlookup⟩)
      simp only [htoomuch, hmaximum, if_false]
      refine drainWaiters_sound (h.open_of_lookup hlookup) ⟨?_, ?_, ?_⟩
        (h.queued.restart rfl rfl rfl ?_)
      · intro hopen
        have hsum := h.balanced.connection hopen
        show w.connectionAvailable + bytes + AList.total CreditAccount.outstanding _ = _
        rw [AList.total_replace _ hlookup]
        show _ + (w.outstandingBytes + _) = w.initialConnectionBytes
        dsimp only
        omega
      · have hnonneg := h.balanced.connectionNonneg
        show 0 ≤ w.connectionAvailable + bytes
        omega
      · intro j other hother
        by_cases hj : j = i
        · subst hj
          obtain rfl : (⟨credit.available + bytes, credit.outstanding - bytes⟩ : CreditAccount) =
            other := by simpa using hother
          have hcredit := h.balanced.stream j credit hlookup
          dsimp only
          omega
        · exact h.balanced.stream j other (by simpa [AList.lookup_insert_ne hj] using hother)
      · intro call hcall
        exact (AList.mem_insert _).2 (Or.inr (h.waiting_opened hcall))

/-- Some of the waiters are rejected together, and the others wait on. -/
theorem Queued.rejected (h : Queued w []) {w' : FlowPromises} {calls : List TakeCall}
    {error : JsError} (hsettled : w'.settled = w.settled ++ rejectAll calls error)
    (htickets : w'.takeCalls = w.takeCalls) (hwaiters : w'.waiters.Sublist w.waiters)
    (hcalls : ∀ call, call ∈ calls ↔ call ∈ w.waiters ∧ call ∉ w'.waiters)
    (hnodup : calls.Nodup) (hopened : ∀ call ∈ w'.waiters, call.streamId ∈ w'.streams) :
    Queued { w' with waiters := [] } w'.waiters := by
  have hgrantedTo : ∀ i, grantedTo { w' with waiters := [] } i = w.grantedTo i := by
    intro i
    have hnone : (rejectAll calls error).filter (fun entry => entry.1.streamId = i &&
        entry.2.isGranted) = [] := by
      simp [rejectAll, TakeOutcome.isGranted]
    simp only [grantedTo, hsettled, List.filter_append, hnone, List.append_nil]
  have hentry : ∀ entry ∈ rejectAll calls error, entry.1 ∈ w.waiters ∧ entry.1 ∉ w'.waiters := by
    intro entry hmem
    obtain ⟨call, hcall, rfl⟩ := List.mem_map.1 hmem
    exact (hcalls call).1 hcall
  have hinjective : ∀ call ∈ w.waiters, ∀ other ∈ w.waiters, call.ticket = other.ticket →
      call = other := by
    intro call hcall other hother heq
    have hinOrder := h.inOrder
    rw [List.append_nil] at hinOrder
    exact List.inj_on_of_nodup_map (hinOrder.imp fun hlt => hlt.ne) hcall hother heq
  obtain ⟨-, -, hpositive, hinOrder, hknown, hsettledKnown, honce, hapart, hcomplete, hgranted,
    hbefore, hbounded⟩ := h
  rw [List.append_nil] at hpositive hinOrder hknown hapart hcomplete hbefore
  refine ⟨fun _ hmem => absurd hmem List.not_mem_nil, ?_, ?_, ?_, ?_, ?_, ?_, ?_, ?_, ?_, ?_, ?_⟩
  all_goals try simp only [hgrantedTo]
  all_goals try simp only [List.nil_append, hsettled, htickets]
  · exact hopened
  · exact fun call hcall => hpositive call (hwaiters.subset hcall)
  · exact hinOrder.sublist (hwaiters.map _)
  · exact fun call hcall => hknown call (hwaiters.subset hcall)
  · intro entry hmem
    rcases List.mem_append.1 hmem with hold | hnew
    · exact hsettledKnown entry hold
    · exact hknown _ (hentry entry hnew).1
  · refine settledOnce honce ?_ fun entry hold other hnew =>
      hapart entry hold _ (hentry other hnew).1
    rw [rejectAll, List.map_map]
    refine hnodup.map_on fun call hcall other hother heq => ?_
    exact hinjective call ((hcalls call).1 hcall).1 other ((hcalls other).1 hother).1 heq
  · intro entry hmem call hcall
    rcases List.mem_append.1 hmem with hold | hnew
    · exact hapart entry hold call (hwaiters.subset hcall)
    · intro heq
      have hsame := hinjective _ (hentry entry hnew).1 call (hwaiters.subset hcall) heq
      exact (hentry entry hnew).2 (hsame ▸ hcall)
  · intro ticket hlt
    rcases hcomplete ticket hlt with ⟨entry, hold, heq⟩ | ⟨call, hcall, heq⟩
    · exact Or.inl ⟨entry, List.mem_append_left _ hold, heq⟩
    · by_cases hwaits : call ∈ w'.waiters
      · exact Or.inr ⟨call, hwaits, heq⟩
      · refine Or.inl ⟨(call, .rejected error), List.mem_append_right _ ?_, heq⟩
        exact List.mem_map_of_mem ((hcalls call).2 ⟨hcall, hwaits⟩)
  · exact hgranted
  · exact fun i ticket hticket call hcall => hbefore i ticket hticket call (hwaiters.subset hcall)
  · intro entry hmem bytes hbytes
    rcases List.mem_append.1 hmem with hold | hnew
    · exact hbounded entry hold bytes hbytes
    · obtain ⟨call, -, rfl⟩ := List.mem_map.1 hnew
      cases hbytes

theorem Sound.nodup (h : w.Sound) : w.waiters.Nodup := by
  have hinOrder := h.queued.inOrder
  rw [List.append_nil] at hinOrder
  have hnodup : (w.waiters.map TakeCall.ticket).Nodup := hinOrder.imp fun hlt => hlt.ne
  exact hnodup.of_map

theorem closeStream_sound (h : w.Sound) (i : ℕ) : (w.closeStream i).Sound := by
  unfold closeStream
  split
  · exact h
  · rename_i credit hlookup
    have hopen := h.open_of_lookup hlookup
    refine drainWaiters_sound hopen ⟨?_, ?_, ?_⟩
      (h.queued.rejected rfl rfl List.filter_sublist ?_ ?_ ?_)
    · intro _
      have hsum := h.balanced.connection hopen
      have herased : AList.total CreditAccount.outstanding (w.streams.erase i) +
          credit.outstanding = w.outstandingBytes := AList.total_erase _ hlookup
      show w.connectionAvailable + credit.outstanding +
        AList.total CreditAccount.outstanding (w.streams.erase i) = w.initialConnectionBytes
      omega
    · have hnonneg := h.balanced.connectionNonneg
      have hcredit := h.balanced.stream i credit hlookup
      show 0 ≤ w.connectionAvailable + credit.outstanding
      omega
    · intro j other hother
      by_cases hj : j = i
      · subst hj
        simp at hother
      · exact h.balanced.stream j other (by simpa [AList.lookup_erase_ne hj] using hother)
    · intro call
      simp only [List.mem_reverse, List.mem_filter, decide_eq_true_eq]
      constructor
      · rintro ⟨hmem, hid⟩
        exact ⟨hmem, fun hkept => hkept.2 hid⟩
      · rintro ⟨hmem, hgone⟩
        refine ⟨hmem, ?_⟩
        by_contra hid
        exact hgone ⟨hmem, hid⟩
    · exact List.nodup_reverse.2 (h.nodup.filter _)
    · intro call hcall
      obtain ⟨hmem, hid⟩ := List.mem_filter.1 hcall
      exact AList.mem_erase.2 ⟨by simpa using hid, h.waiting_opened hmem⟩

theorem close_sound (h : w.Sound) : w.close.Sound := by
  have hqueued : Queued { w.close with waiters := [] } w.close.waiters := by
    refine h.queued.rejected rfl rfl (List.nil_sublist _) ?_ h.nodup ?_
    · intro call
      simp [close]
    · exact fun _ hmem => absurd hmem List.not_mem_nil
  refine ⟨⟨fun hopen => ?_, h.balanced.connectionNonneg, fun i credit hlookup => ?_⟩, hqueued, ?_⟩
  · cases hopen
  · cases hlookup
  · exact fun _ i hmem => absurd hmem (AList.notMem_empty i)

theorem call_sound (h : w.Sound) (next : Call) : (w.call next).1.Sound := by
  cases next with
  | openStream i bytes => exact openStream_sound h i bytes
  | take i bytes => exact take_sound h i bytes
  | update i bytes => exact update_sound h i bytes
  | closeStream i => exact closeStream_sound h i
  | close => exact close_sound h

theorem new_sound {initialConnectionBytes : ℤ} (h : 0 < initialConnectionBytes) :
    (new initialConnectionBytes).Sound := by
  refine ⟨⟨fun _ => add_zero _, h.le, fun i credit hlookup => ?_⟩, ?_, fun hclosed => ?_⟩
  · cases hlookup
  · exact ⟨nofun, nofun, nofun, List.Pairwise.nil, nofun, nofun, List.nodup_nil, nofun, nofun,
      fun _ => List.Pairwise.nil, nofun, nofun⟩
  · cases hclosed

theorem run_sound {initialConnectionBytes : ℤ} (hinitial : 0 < initialConnectionBytes)
    (calls : List Call) : ((new initialConnectionBytes).run calls).Sound := by
  have hstart := new_sound hinitial
  generalize new initialConnectionBytes = w at hstart
  induction calls generalizing w with
  | nil => exact hstart
  | cons next calls ih => exact ih _ (call_sound hstart next)

theorem drainWaiters_initial (w : FlowPromises) :
    w.drainWaiters.initialConnectionBytes = w.initialConnectionBytes := (drainFrom_frame _ _).2.1

theorem call_initial (w : FlowPromises) (next : Call) :
    (w.call next).1.initialConnectionBytes = w.initialConnectionBytes := by
  cases next with
  | openStream i bytes =>
    simp only [call, openStream]
    split_ifs <;> first | rfl | exact drainWaiters_initial _
  | take i bytes =>
    simp only [call, take]
    split_ifs <;> first | rfl | exact drainWaiters_initial _
  | update i bytes =>
    simp only [call, update]
    split
    · rfl
    · split
      · rfl
      · split_ifs <;> first | rfl | exact drainWaiters_initial _
  | closeStream i =>
    simp only [call, closeStream]
    split
    · rfl
    · exact drainWaiters_initial _
  | close => rfl

theorem run_initial (w : FlowPromises) (calls : List Call) :
    (w.run calls).initialConnectionBytes = w.initialConnectionBytes := by
  induction calls generalizing w with
  | nil => rfl
  | cons next calls ih => exact (ih _).trans (call_initial w next)

theorem filter_ticket {settled : List (TakeCall × TakeOutcome)}
    (hnodup : (settled.map fun entry => entry.1.ticket).Nodup) (ticket : ℕ) :
    (settled.filter fun entry => entry.1.ticket = ticket).length ≤ 1 := by
  induction settled with
  | nil => exact Nat.zero_le 1
  | cons entry settled ih =>
    obtain ⟨hnew, hrest⟩ := List.nodup_cons.1 hnodup
    by_cases hticket : entry.1.ticket = ticket
    · have hnone : settled.filter (fun other => other.1.ticket = ticket) = [] := by
        refine List.filter_eq_nil_iff.2 fun other hother hsame => ?_
        have heq : other.1.ticket = ticket := by simpa using hsame
        exact hnew (List.mem_map.2 ⟨other, hother, heq.trans hticket.symm⟩)
      simp [hticket, hnone]
    · simpa [hticket] using ih hrest

theorem Sound.outcomes_length (h : w.Sound) (ticket : ℕ) : (w.outcomes ticket).length ≤ 1 := by
  rw [outcomes, List.length_map]
  exact filter_ticket h.queued.once ticket

/-- A call has the outcome it was settled with, and no other. -/
theorem Sound.outcomes_of_settled (h : w.Sound) {call : TakeCall} {outcome : TakeOutcome}
    (hsettled : (call, outcome) ∈ w.settled) : w.outcomes call.ticket = [outcome] := by
  have hmem : outcome ∈ w.outcomes call.ticket :=
    List.mem_map.2 ⟨(call, outcome), List.mem_filter.2 ⟨hsettled, by simp⟩, rfl⟩
  have hlength := h.outcomes_length call.ticket
  match houtcomes : w.outcomes call.ticket with
  | [] => simp [houtcomes] at hmem
  | [only] =>
    rw [houtcomes, List.mem_singleton] at hmem
    rw [hmem]
  | first :: second :: rest => simp [houtcomes] at hlength

theorem closeStream_outcome (h : w.Sound) {call : TakeCall} (hcall : call ∈ w.waiters) :
    (w.closeStream call.streamId).outcomes call.ticket = [.rejected noStream] := by
  refine (closeStream_sound h call.streamId).outcomes_of_settled ?_
  obtain ⟨credit, hlookup⟩ := Option.isSome_iff_exists.1
    (AList.lookup_isSome.2 (h.waiting_opened hcall))
  simp only [closeStream, hlookup]
  refine (drainFrom_frame _ _).2.2 (List.mem_append_right _ ?_)
  refine List.mem_map_of_mem (List.mem_reverse.2 (List.mem_filter.2 ⟨hcall, ?_⟩))
  simp

theorem close_outcome (h : w.Sound) {call : TakeCall} (hcall : call ∈ w.waiters) :
    w.close.outcomes call.ticket = [.rejected noConnection] :=
  (close_sound h).outcomes_of_settled (List.mem_append_right _ (List.mem_map_of_mem hcall))

/-- What the window keeps under any calls. -/
structure Conserves (initialConnectionBytes : ℤ) (w : FlowPromises) : Prop where
  connection : w.closed = false →
    w.connectionAvailable + w.outstandingBytes = initialConnectionBytes
  stream : ∀ i credit, w.streams.lookup i = some credit →
    credit.available + credit.outstanding = w.initialStreamBytes i
  nonneg : 0 ≤ w.connectionAvailable ∧ ∀ i credit, w.streams.lookup i = some credit →
    0 ≤ credit.available ∧ 0 ≤ credit.outstanding
  served : ∀ call ∈ w.waiters, ∃ credit, w.streams.lookup call.streamId = some credit ∧
    ¬ (0 < credit.available ∧ 0 < w.connectionAvailable)
  inOrder : ∀ i, (w.grantedTo i).Pairwise (· < ·)
  bounded : ∀ entry ∈ w.settled, ∀ bytes, entry.2 = .granted bytes →
    1 ≤ bytes ∧ bytes ≤ entry.1.maximumBytes
  once : ∀ ticket, (w.outcomes ticket).length ≤ 1
  settles : ∀ ticket < w.takeCalls, w.outcomes ticket ≠ [] ∨
    ∃ call ∈ w.waiters, call.ticket = ticket

theorem Sound.conserves (h : w.Sound) : w.Conserves w.initialConnectionBytes := by
  refine ⟨h.balanced.connection, fun i credit hlookup => (h.balanced.stream i credit hlookup).1,
    ⟨h.balanced.connectionNonneg, fun i credit hlookup =>
      (h.balanced.stream i credit hlookup).2⟩, ?_, h.queued.granted, h.queued.bounded,
    h.outcomes_length, ?_⟩
  · intro call hcall
    obtain ⟨credit, hlookup, hzero⟩ := h.queued.starved call hcall
    exact ⟨credit, hlookup, by omega⟩
  · intro ticket hlt
    have hcomplete := h.queued.complete ticket hlt
    rw [List.append_nil] at hcomplete
    rcases hcomplete with ⟨⟨call, outcome⟩, hsettled, rfl⟩ | hwaits
    · left
      rw [h.outcomes_of_settled hsettled]
      simp
    · exact Or.inr hwaits

/-- No sequence of calls, throwing ones included, makes or loses credit, grants out of order or
settles a `take` twice. -/
theorem credit_conserved (initialConnectionBytes : ℤ) (hinitial : 0 < initialConnectionBytes)
    (calls : List Call) :
    Conserves initialConnectionBytes ((new initialConnectionBytes).run calls) ∧
      (∀ i bytes error, (((new initialConnectionBytes).run calls).update i bytes).2 = some error →
        (((new initialConnectionBytes).run calls).update i bytes).1 =
            (new initialConnectionBytes).run calls ∧ error ≠ exceedsMaximum) ∧
      ∀ call ∈ ((new initialConnectionBytes).run calls).waiters,
        (((new initialConnectionBytes).run calls).closeStream call.streamId).outcomes call.ticket =
            [.rejected noStream] ∧
          ((new initialConnectionBytes).run calls).close.outcomes call.ticket =
            [.rejected noConnection] := by
  have hsound := run_sound hinitial calls
  refine ⟨?_, fun i bytes error => update_rejected hsound, fun call hcall =>
    ⟨closeStream_outcome hsound hcall, close_outcome hsound hcall⟩⟩
  have hconserves := hsound.conserves
  rwa [run_initial] at hconserves

/-- Two streams share the connection: one is closed while it waits, which serves the other. -/
theorem credit_conserved_shared :
    ((new 4).run [.openStream 1 4, .openStream 3 4, .take 1 4, .take 1 1, .take 3 4,
        .closeStream 1]).settled.map (fun entry => (entry.1.ticket, entry.2)) =
        [(0, .granted 4), (1, .rejected noStream), (2, .granted 4)] ∧
      Conserves 4 ((new 4).run [.openStream 1 4, .openStream 3 4, .take 1 4, .take 1 1, .take 3 4,
        .closeStream 1]) :=
  ⟨by decide +kernel, (credit_conserved 4 (by decide) _).1⟩

end Lotur.FlowPromises
