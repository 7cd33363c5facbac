import Lotur.Relay.FlowConservation

/-! The window with promises and the window over natural numbers that the endpoints use are one:
call for call they throw the same errors and hold the same credit. -/
namespace Lotur.FlowPromises

def account (credit : StreamCredit) : CreditAccount := ⟨credit.available, credit.outstanding⟩

def SameWaiter (call : TakeCall) (waiter : CreditWaiter) : Prop :=
  call.streamId = waiter.streamId ∧ call.maximumBytes = waiter.maximumBytes

/-- The two windows in corresponding states. -/
structure Shows (window : OutboundFlowWindow) (w : FlowPromises) : Prop where
  initial : w.initialConnectionBytes = window.initialConnectionBytes
  connection : w.connectionAvailable = window.connectionAvailable
  streams : ∀ i, w.streams.lookup i = (window.streams.lookup i).map account
  waiters : List.Forall₂ SameWaiter w.waiters window.waiters
  closed : w.closed = window.closed

variable {window : OutboundFlowWindow} {w : FlowPromises}

theorem Shows.mem_iff (h : Shows window w) (i : ℕ) : i ∈ w.streams ↔ i ∈ window.streams := by
  rw [← AList.lookup_isSome, ← AList.lookup_isSome, h.streams, Option.isSome_map]

theorem Shows.grantable (h : Shows window w) {call : TakeCall} {waiter : CreditWaiter}
    (hsame : SameWaiter call waiter) (credit : StreamCredit) :
    w.grantable call (account credit) = window.grantable waiter credit := by
  unfold FlowPromises.grantable OutboundFlowWindow.grantable account
  rw [hsame.2, h.connection]
  push_cast
  rfl

theorem Shows.grant (h : Shows window w) {call : TakeCall} {waiter : CreditWaiter}
    (hsame : SameWaiter call waiter) {credit : StreamCredit} :
    Shows (window.grant waiter.streamId (window.grantable waiter credit) credit)
      (w.grant call (account credit)) := by
  have hgrantable := h.grantable hsame credit
  have hbounds : window.grantable waiter credit ≤ credit.available ∧
      window.grantable waiter credit ≤ window.connectionAvailable := by
    unfold OutboundFlowWindow.grantable
    omega
  refine ⟨h.initial, ?_, ?_, h.waiters, h.closed⟩
  · show w.connectionAvailable - w.grantable call (account credit) =
      ((window.connectionAvailable - window.grantable waiter credit : ℕ) : ℤ)
    rw [hgrantable, h.connection, Nat.cast_sub hbounds.2]
  · intro i
    by_cases hi : i = call.streamId
    · subst hi
      have hleft : (w.grant call (account credit)).streams.lookup call.streamId =
          some ⟨credit.available - w.grantable call (account credit),
            credit.outstanding + w.grantable call (account credit)⟩ := AList.lookup_insert _
      have hright : (window.grant waiter.streamId (window.grantable waiter credit)
          credit).streams.lookup call.streamId =
            some ⟨credit.available - window.grantable waiter credit,
              credit.outstanding + window.grantable waiter credit⟩ := by
        rw [hsame.1]
        exact AList.lookup_insert _
      rw [hleft, hright, hgrantable]
      simp only [Option.map_some, account, Nat.cast_add, Nat.cast_sub hbounds.1]
    · have hleft : (w.grant call (account credit)).streams.lookup i = w.streams.lookup i :=
        AList.lookup_insert_ne hi
      have hright : (window.grant waiter.streamId (window.grantable waiter credit)
          credit).streams.lookup i = window.streams.lookup i :=
        AList.lookup_insert_ne (hsame.1 ▸ hi)
      rw [hleft, hright]
      exact h.streams i

theorem drainFrom_shows (h : Shows window w) {rest : List TakeCall} {waiters : List CreditWaiter}
    (hrest : List.Forall₂ SameWaiter rest waiters) :
    Shows (window.drainFrom waiters).1 (w.drainFrom rest) := by
  induction hrest generalizing window w with
  | nil => exact h
  | @cons call waiter rest waiters hsame hrest ih =>
    have hlookup : w.streams.lookup call.streamId =
        (window.streams.lookup waiter.streamId).map account := by
      rw [hsame.1]
      exact h.streams waiter.streamId
    cases hcredit : window.streams.lookup waiter.streamId with
    | none =>
      rw [hcredit, Option.map_none] at hlookup
      simp only [FlowPromises.drainFrom, OutboundFlowWindow.drainFrom, hlookup, hcredit]
      exact ih ⟨h.initial, h.connection, h.streams, h.waiters, h.closed⟩
    | some credit =>
      rw [hcredit, Option.map_some] at hlookup
      have hgrantable := h.grantable hsame credit
      simp only [FlowPromises.drainFrom, OutboundFlowWindow.drainFrom, hlookup, hcredit]
      by_cases hzero : window.grantable waiter credit = 0
      · rw [if_pos hzero, if_pos (by rw [hgrantable, hzero]; rfl)]
        exact ih ⟨h.initial, h.connection, h.streams,
          List.rel_append h.waiters (List.Forall₂.cons hsame List.Forall₂.nil), h.closed⟩
      · rw [if_neg hzero, if_neg (by rw [hgrantable]; exact_mod_cast hzero)]
        exact ih (h.grant hsame)

theorem drainWaiters_shows (h : Shows window w) : Shows window.drainWaiters.1 w.drainWaiters := by
  have hunwaited : Shows { window with waiters := [] } { w with waiters := [] } :=
    ⟨h.initial, h.connection, h.streams, List.Forall₂.nil, h.closed⟩
  exact drainFrom_shows hunwaited h.waiters

/-- What the two windows make of the same call. -/
def Agrees (window : OutboundFlowWindow) :
    Except JsError (OutboundFlowWindow × List Settlement) → FlowPromises × Option JsError → Prop
  | .ok (after, _), (w, error) => Shows after w ∧ error = none
  | .error thrown, (w, error) => Shows window w ∧ error = some thrown

theorem Shows.closed_iff (h : Shows window w) : w.closed = true ↔ window.closed = true := by
  rw [h.closed]

theorem openStream_agrees (h : Shows window w) (i bytes : ℕ) :
    Agrees window (window.openStream i bytes) (w.openStream i bytes) := by
  have hpositive : (bytes : ℤ) ≤ 0 ↔ bytes = 0 := by omega
  unfold OutboundFlowWindow.openStream FlowPromises.openStream
  by_cases hid : i = 0
  · simp only [if_pos hid]
    exact ⟨h, rfl⟩
  by_cases hbytes : bytes = 0
  · simp only [if_neg hid, if_pos hbytes, if_pos (hpositive.2 hbytes)]
    exact ⟨h, rfl⟩
  by_cases hclosed : window.closed = true
  · simp only [if_neg hid, if_neg hbytes, if_neg (mt hpositive.1 hbytes), if_pos hclosed,
      if_pos (h.closed_iff.2 hclosed)]
    exact ⟨h, rfl⟩
  by_cases hmem : i ∈ window.streams
  · simp only [if_neg hid, if_neg hbytes, if_neg (mt hpositive.1 hbytes), if_neg hclosed,
      if_neg (mt h.closed_iff.1 hclosed), if_pos hmem, if_pos ((h.mem_iff i).2 hmem)]
    exact ⟨h, rfl⟩
  simp only [if_neg hid, if_neg hbytes, if_neg (mt hpositive.1 hbytes), if_neg hclosed,
    if_neg (mt h.closed_iff.1 hclosed), if_neg hmem, if_neg (mt (h.mem_iff i).1 hmem)]
  refine ⟨drainWaiters_shows ⟨h.initial, h.connection, ?_, h.waiters, h.closed⟩, rfl⟩
  intro j
  by_cases hj : j = i
  · subst hj
    simp [account]
  · simpa only [AList.lookup_insert_ne hj] using h.streams j

theorem take_agrees (h : Shows window w) (i bytes : ℕ) :
    Agrees window (window.take i bytes) (w.take i bytes) := by
  have hpositive : (bytes : ℤ) ≤ 0 ↔ bytes = 0 := by omega
  have hthrown : ∀ error, Shows window (settle { w with takeCalls := w.takeCalls + 1 }
      ⟨w.takeCalls, i, bytes⟩ (.rejected error)) := fun _ =>
    ⟨h.initial, h.connection, h.streams, h.waiters, h.closed⟩
  unfold OutboundFlowWindow.take FlowPromises.take
  dsimp only
  by_cases hbytes : bytes = 0
  · simp only [if_pos hbytes, if_pos (hpositive.2 hbytes)]
    exact ⟨hthrown _, rfl⟩
  by_cases hclosed : window.closed = true
  · simp only [if_neg hbytes, if_neg (mt hpositive.1 hbytes), if_pos hclosed,
      if_pos (h.closed_iff.2 hclosed)]
    exact ⟨hthrown _, rfl⟩
  by_cases hmem : i ∈ window.streams
  · simp only [if_neg hbytes, if_neg (mt hpositive.1 hbytes), if_neg hclosed,
      if_neg (mt h.closed_iff.1 hclosed), if_neg (not_not.2 hmem),
      if_neg (not_not.2 ((h.mem_iff i).2 hmem))]
    refine ⟨drainWaiters_shows ⟨h.initial, h.connection, h.streams, ?_, h.closed⟩, rfl⟩
    exact List.rel_append h.waiters (List.Forall₂.cons ⟨rfl, rfl⟩ List.Forall₂.nil)
  · simp only [if_neg hbytes, if_neg (mt hpositive.1 hbytes), if_neg hclosed,
      if_neg (mt h.closed_iff.1 hclosed), if_pos hmem, if_pos (mt (h.mem_iff i).1 hmem)]
    exact ⟨hthrown _, rfl⟩

theorem update_agrees (h : Shows window w) (hsound : w.Sound) (i bytes : ℕ) :
    Agrees window (window.update i bytes) (w.update i bytes) := by
  have hpositive : (bytes : ℤ) ≤ 0 ↔ bytes = 0 := by omega
  have hlookup := h.streams i
  unfold OutboundFlowWindow.update FlowPromises.update
  by_cases hbytes : bytes = 0
  · simp only [if_pos hbytes, if_pos (hpositive.2 hbytes)]
    exact ⟨h, rfl⟩
  simp only [if_neg hbytes, if_neg (mt hpositive.1 hbytes)]
  cases hcredit : window.streams.lookup i with
  | none =>
    rw [hcredit, Option.map_none] at hlookup
    simp only [hlookup]
    exact ⟨h, rfl⟩
  | some credit =>
    rw [hcredit, Option.map_some] at hlookup
    simp only [hlookup]
    have htoomuch : (bytes : ℤ) > (account credit).outstanding ↔ bytes > credit.outstanding :=
      Nat.cast_lt
    by_cases houtstanding : bytes > credit.outstanding
    · simp only [if_pos houtstanding, if_pos (htoomuch.2 houtstanding)]
      exact ⟨h, rfl⟩
    -- what comes back was outstanding, so neither window exceeds its maximum
    have hle := hsound.outstanding_le hlookup
    have hmaximum : ¬ w.connectionAvailable + bytes > w.initialConnectionBytes := by
      have := mt htoomuch.1 houtstanding
      omega
    have hmaximum' : ¬ window.connectionAvailable + bytes > window.initialConnectionBytes := by
      rw [h.initial, h.connection] at hmaximum
      omega
    simp only [if_neg houtstanding, if_neg (mt htoomuch.1 houtstanding), if_neg hmaximum,
      if_neg hmaximum']
    refine ⟨drainWaiters_shows ⟨h.initial, ?_, ?_, h.waiters, h.closed⟩, rfl⟩
    · show w.connectionAvailable + bytes = ((window.connectionAvailable + bytes : ℕ) : ℤ)
      rw [h.connection, Nat.cast_add]
    · intro j
      by_cases hj : j = i
      · subst hj
        simp only [AList.lookup_insert, Option.map_some, account, Nat.cast_add,
          Nat.cast_sub (not_lt.1 houtstanding)]
      · simpa only [AList.lookup_insert_ne hj] using h.streams j

theorem closeStream_shows (h : Shows window w) (i : ℕ) :
    Shows (window.closeStream i).1 (w.closeStream i) := by
  have hlookup := h.streams i
  unfold OutboundFlowWindow.closeStream FlowPromises.closeStream
  cases hcredit : window.streams.lookup i with
  | none =>
    rw [hcredit, Option.map_none] at hlookup
    simp only [hlookup]
    exact h
  | some credit =>
    rw [hcredit, Option.map_some] at hlookup
    simp only [hlookup]
    refine drainWaiters_shows ⟨h.initial, ?_, ?_, ?_, h.closed⟩
    · show w.connectionAvailable + credit.outstanding =
        ((window.connectionAvailable + credit.outstanding : ℕ) : ℤ)
      rw [h.connection, Nat.cast_add]
    · intro j
      by_cases hj : j = i
      · subst hj
        simp
      · simpa only [AList.lookup_erase_ne hj] using h.streams j
    · refine List.rel_filter ?_ h.waiters
      intro call waiter hsame
      simp [hsame.1]

theorem close_shows (h : Shows window w) : Shows window.close.1 w.close :=
  ⟨h.initial, h.connection, fun _ => rfl, List.Forall₂.nil, rfl⟩

theorem new_shows (initialConnectionBytes : ℕ) :
    Shows (.new initialConnectionBytes) (new initialConnectionBytes) :=
  ⟨rfl, rfl, fun _ => rfl, List.Forall₂.nil, rfl⟩

end Lotur.FlowPromises
