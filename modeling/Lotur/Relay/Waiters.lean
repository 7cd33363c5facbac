import Lotur.Relay.Frames

/-! Who waits for credit after an operation of the outbound window: only those who could be granted
nothing, so a `take` that finds credit is granted at once. -/
namespace Lotur.OutboundFlowWindow

variable {window after : OutboundFlowWindow} {settled : List Settlement} {i bytes : ℕ}

/-- A waiter of an open stream that could be granted nothing. -/
def IsStarved (window : OutboundFlowWindow) (waiter : CreditWaiter) : Prop :=
  ∃ credit, window.streams.lookup waiter.streamId = some credit ∧
    window.grantable waiter credit = 0

def Starved (window : OutboundFlowWindow) : Prop :=
  ∀ waiter ∈ window.waiters, window.IsStarved waiter

/-- Credit only goes while waiters are served. -/
theorem IsStarved.grant {waiter : CreditWaiter} (h : window.IsStarved waiter)
    {credit : StreamCredit} (hlookup : window.streams.lookup i = some credit) :
    (window.grant i bytes credit).IsStarved waiter := by
  obtain ⟨own, hown, hzero⟩ := h
  unfold grantable at hzero
  by_cases hsame : waiter.streamId = i
  · have heq : own = credit := by
      rw [hsame, hlookup] at hown
      exact (Option.some.inj hown).symm
    subst heq
    refine ⟨⟨own.available - bytes, own.outstanding + bytes⟩, ?_, ?_⟩
    · rw [hsame]
      exact AList.lookup_insert _
    · unfold grantable OutboundFlowWindow.grant
      dsimp only
      omega
  · refine ⟨own, ?_, ?_⟩
    · exact (AList.lookup_insert_ne hsame).trans hown
    · unfold grantable OutboundFlowWindow.grant
      dsimp only
      omega

theorem isWaiting_iff :
    window.isWaiting i = true ↔ ∃ waiter ∈ window.waiters, waiter.streamId = i := by
  simp [isWaiting]

theorem not_isWaiting_iff :
    window.isWaiting i = false ↔ ∀ waiter ∈ window.waiters, waiter.streamId ≠ i := by
  simp [isWaiting]

/-- What serving waiters leaves. -/
structure Served (before : OutboundFlowWindow) (rest : List CreditWaiter)
    (after : OutboundFlowWindow) : Prop where
  starved : after.Starved
  waiters : after.waiters.Sublist (before.waiters ++ rest)
  credit : ∀ i, (∀ waiter ∈ rest, waiter.streamId ≠ i) →
    after.streams.lookup i = before.streams.lookup i

theorem drainFrom_served (h : window.Starved) (rest : List CreditWaiter) :
    Served window rest (window.drainFrom rest).1 := by
  induction rest generalizing window with
  | nil => exact ⟨h, by simp [drainFrom], fun _ _ => rfl⟩
  | cons waiter rest ih =>
    have hskip : (window.waiters ++ rest).Sublist (window.waiters ++ waiter :: rest) :=
      (List.Sublist.refl _).append (List.sublist_cons_self _ _)
    cases hlookup : window.streams.lookup waiter.streamId with
    | none =>
      have hrest := ih h
      simp only [drainFrom, hlookup]
      refine ⟨hrest.starved, hrest.waiters.trans hskip, ?_⟩
      intro i hi
      exact hrest.credit i fun other hother => hi other (List.mem_cons_of_mem _ hother)
    | some credit =>
      simp only [drainFrom, hlookup]
      split_ifs with hzero
      · have hkept : OutboundFlowWindow.Starved
            { window with waiters := window.waiters ++ [waiter] } := by
          intro other hother
          rcases List.mem_append.1 hother with hold | hnew
          · exact h other hold
          · rw [List.mem_singleton.1 hnew]
            exact ⟨credit, hlookup, hzero⟩
        have hrest := ih hkept
        refine ⟨hrest.starved, by simpa using hrest.waiters, ?_⟩
        intro i hi
        exact hrest.credit i fun other hother => hi other (List.mem_cons_of_mem _ hother)
      · have hgranted : (window.grant waiter.streamId (window.grantable waiter credit)
            credit).Starved := fun other hother => (h other hother).grant hlookup
        have hrest := ih hgranted
        refine ⟨hrest.starved, hrest.waiters.trans hskip, ?_⟩
        intro i hi
        rw [hrest.credit i fun other hother => hi other (List.mem_cons_of_mem _ hother)]
        exact AList.lookup_insert_ne (hi waiter List.mem_cons_self).symm

theorem drainWaiters_served (window : OutboundFlowWindow) :
    Served { window with waiters := [] } window.waiters window.drainWaiters.1 := by
  have hempty : OutboundFlowWindow.Starved { window with waiters := [] } :=
    fun _ h => absurd h List.not_mem_nil
  exact drainFrom_served hempty window.waiters

/-- The same for a window that is named together with what it settled. -/
theorem served_of_drain {before : OutboundFlowWindow}
    (hafter : (.ok before.drainWaiters : Except JsError _) = .ok (after, settled)) :
    Served { before with waiters := [] } before.waiters after := by
  have hserved := drainWaiters_served before
  rwa [Except.ok.inj hafter] at hserved

/-- What an operation leaves to those who did not ask for credit in it: nobody starts to wait, and
who does not wait keeps its credit unless its stream is closed. -/
structure Relieves (askers : Set ℕ) (window after : OutboundFlowWindow) : Prop where
  starved : window.Starved → after.Starved
  waiting : ∀ i ∉ askers, after.isWaiting i = true → window.isWaiting i = true
  credit : ∀ i ∉ askers, ∀ credit', window.isWaiting i = false →
    after.streams.lookup i = some credit' →
      ∃ credit, window.streams.lookup i = some credit ∧ credit.available ≤ credit'.available

variable {askers : Set ℕ}

theorem Relieves.refl (window : OutboundFlowWindow) : Relieves askers window window :=
  ⟨id, fun _ _ => id, fun _ _ credit' _ hlookup => ⟨credit', hlookup, le_rfl⟩⟩

theorem Relieves.idle (h : Relieves askers window after) (hi : i ∉ askers)
    (hidle : window.isWaiting i = false) : after.isWaiting i = false := by
  by_contra hwaiting
  rw [h.waiting i hi (by simpa using hwaiting)] at hidle
  cases hidle

theorem Relieves.trans {last : OutboundFlowWindow} (h : Relieves askers window after)
    (h' : Relieves askers after last) : Relieves askers window last := by
  refine ⟨fun hstarved => h'.starved (h.starved hstarved),
    fun i hi hwaiting => h.waiting i hi (h'.waiting i hi hwaiting), ?_⟩
  intro i hi credit'' hidle hlast
  obtain ⟨credit', hafter, hle'⟩ := h'.credit i hi credit'' (h.idle hi hidle) hlast
  obtain ⟨credit, hwindow, hle⟩ := h.credit i hi credit' hidle hafter
  exact ⟨credit, hwindow, hle.trans hle'⟩

theorem Served.waiting {before : OutboundFlowWindow}
    (h : Served { before with waiters := [] } before.waiters after)
    (hsublist : before.waiters.Sublist window.waiters) (i : ℕ)
    (hwaiting : after.isWaiting i = true) : window.isWaiting i = true := by
  obtain ⟨waiter, hwaiter, hid⟩ := isWaiting_iff.1 hwaiting
  exact isWaiting_iff.2 ⟨waiter, hsublist.subset (h.waiters.subset hwaiter), hid⟩

theorem update_relieves (hupdate : window.update i bytes = .ok (after, settled)) :
    Relieves ∅ window after := by
  unfold update at hupdate
  split at hupdate
  · cases hupdate
  · split at hupdate
    · cases hupdate
    · rename_i credit hlookup
      split_ifs at hupdate
      have hserved := served_of_drain hupdate
      refine ⟨fun _ => hserved.starved,
        fun j _ => hserved.waiting (List.Sublist.refl _) j, ?_⟩
      intro j _ credit' hidle hafter
      have hcredit := hserved.credit j (not_isWaiting_iff.1 hidle)
      rw [hcredit] at hafter
      by_cases hj : j = i
      · subst hj
        have heq : (⟨credit.available + bytes, credit.outstanding - bytes⟩ : StreamCredit) =
            credit' := by simpa using hafter
        exact ⟨credit, hlookup, by rw [← heq]; exact Nat.le_add_right _ _⟩
      · refine ⟨credit', ?_, le_rfl⟩
        simpa [AList.lookup_insert_ne hj] using hafter

theorem closeStream_relieves (window : OutboundFlowWindow) (i : ℕ) :
    Relieves ∅ window (window.closeStream i).1 := by
  unfold closeStream
  split
  · exact .refl window
  · rename_i credit hlookup
    have hserved := drainWaiters_served { window with
      streams := window.streams.erase i
      connectionAvailable := window.connectionAvailable + credit.outstanding
      waiters := window.waiters.filter fun waiter => waiter.streamId ≠ i }
    refine ⟨fun _ => hserved.starved, fun j _ => hserved.waiting List.filter_sublist j, ?_⟩
    intro j _ credit' hidle hafter
    have hcredit := hserved.credit j fun waiter hwaiter =>
      not_isWaiting_iff.1 hidle waiter (List.mem_filter.1 hwaiter).1
    rw [hcredit] at hafter
    by_cases hj : j = i
    · subst hj
      simp at hafter
    · refine ⟨credit', ?_, le_rfl⟩
      simpa [AList.lookup_erase_ne hj] using hafter

theorem openStream_relieves {initialStreamBytes : ℕ}
    (hopen : window.openStream i initialStreamBytes = .ok (after, settled)) :
    Relieves {i} window after := by
  unfold openStream at hopen
  split_ifs at hopen
  have hserved := served_of_drain hopen
  refine ⟨fun _ => hserved.starved, fun j _ => hserved.waiting (List.Sublist.refl _) j, ?_⟩
  intro j hj credit' hidle hafter
  have hcredit := hserved.credit j (not_isWaiting_iff.1 hidle)
  rw [hcredit] at hafter
  exact ⟨credit', by simpa [AList.lookup_insert_ne hj] using hafter, le_rfl⟩

/-- A new stream starts with its whole window, and nobody waits on it. -/
theorem openStream_fresh (h : window.Starved) {initialStreamBytes : ℕ}
    (hopen : window.openStream i initialStreamBytes = .ok (after, settled)) :
    after.isWaiting i = false ∧ after.streams.lookup i = some ⟨initialStreamBytes, 0⟩ := by
  unfold openStream at hopen
  split_ifs at hopen with hid hbytes hclosed hmem
  have hserved := served_of_drain hopen
  have hidle : window.isWaiting i = false := by
    refine not_isWaiting_iff.2 ?_
    rintro waiter hwaiter rfl
    obtain ⟨credit, hlookup, -⟩ := h waiter hwaiter
    exact hmem (AList.lookup_isSome.1 (Option.isSome_iff_exists.2 ⟨credit, hlookup⟩))
  refine ⟨?_, ?_⟩
  · by_contra hwaiting
    have hbefore := hserved.waiting (List.Sublist.refl window.waiters) i (by simpa using hwaiting)
    rw [hbefore] at hidle
    cases hidle
  · rw [hserved.credit i (not_isWaiting_iff.1 hidle)]
    exact AList.lookup_insert _

/-- The first stream of a window. -/
theorem openStream_new {initialConnectionBytes initialStreamBytes : ℕ}
    (hopen : (OutboundFlowWindow.new initialConnectionBytes).openStream i initialStreamBytes =
      .ok (after, settled)) :
    after.connectionAvailable = initialConnectionBytes ∧ after.waiters = [] ∧
      after.streams.lookup i = some ⟨initialStreamBytes, 0⟩ := by
  unfold openStream at hopen
  split_ifs at hopen
  cases hopen
  exact ⟨rfl, rfl, AList.lookup_insert _⟩

theorem take_lookup (htake : window.take i bytes = .ok (after, settled)) :
    ∃ credit, window.streams.lookup i = some credit := by
  unfold take at htake
  split_ifs at htake with hbytes hclosed hmem
  exact Option.isSome_iff_exists.1 (AList.lookup_isSome.2 hmem)

theorem take_relieves (htake : window.take i bytes = .ok (after, settled)) :
    Relieves {i} window after := by
  unfold take at htake
  split_ifs at htake
  have hserved := served_of_drain htake
  refine ⟨fun _ => hserved.starved, ?_, ?_⟩
  · intro j hj hwaiting
    obtain ⟨waiter, hwaiter, hid⟩ := isWaiting_iff.1 hwaiting
    rcases List.mem_append.1 (hserved.waiters.subset hwaiter) with hempty | hmem
    · cases hempty
    · rcases List.mem_append.1 hmem with hold | hnew
      · exact isWaiting_iff.2 ⟨waiter, hold, hid⟩
      · rw [List.mem_singleton.1 hnew] at hid
        exact absurd hid.symm hj
  · intro j hj credit' hidle hafter
    have hcredit := hserved.credit j (by
      intro waiter hwaiter
      rcases List.mem_append.1 hwaiter with hold | hnew
      · exact not_isWaiting_iff.1 hidle waiter hold
      · rw [List.mem_singleton.1 hnew]
        exact fun heq => hj heq.symm)
    rw [hcredit] at hafter
    exact ⟨credit', hafter, le_rfl⟩

/-- Waiters that starve are passed over. -/
theorem drainFrom_starved {first : List CreditWaiter}
    (h : ∀ waiter ∈ first, window.IsStarved waiter) (rest : List CreditWaiter) :
    window.drainFrom (first ++ rest) =
      OutboundFlowWindow.drainFrom { window with waiters := window.waiters ++ first } rest := by
  induction first generalizing window with
  | nil => simp
  | cons waiter first ih =>
    obtain ⟨credit, hlookup, hzero⟩ := h waiter List.mem_cons_self
    have hfirst : ∀ other ∈ first, OutboundFlowWindow.IsStarved
        { window with waiters := window.waiters ++ [waiter] } other :=
      fun other hother => h other (List.mem_cons_of_mem _ hother)
    simp only [List.cons_append, drainFrom, hlookup, hzero, if_true]
    rw [ih hfirst]
    simp

/-- A `take` that finds credit is granted at once, and nobody else is. -/
theorem take_granted (h : window.Starved) {credit : StreamCredit}
    (hlookup : window.streams.lookup i = some credit) (hconnection : 0 < window.connectionAvailable)
    (hstream : 0 < credit.available) (htake : window.take i bytes = .ok (after, settled)) :
    after = window.grant i (window.grantable ⟨i, bytes⟩ credit) credit ∧
      settled = [.resolved i (window.grantable ⟨i, bytes⟩ credit)] := by
  unfold take at htake
  split_ifs at htake with hbytes hclosed hmem
  have hpositive : window.grantable ⟨i, bytes⟩ credit ≠ 0 := by
    unfold grantable
    dsimp only
    omega
  have hdrain : OutboundFlowWindow.drainFrom { window with waiters := [] }
      (window.waiters ++ [⟨i, bytes⟩]) = (after, settled) := Except.ok.inj htake
  have hstarved : ∀ waiter ∈ window.waiters, OutboundFlowWindow.IsStarved
      { window with waiters := [] } waiter := h
  rw [drainFrom_starved hstarved] at hdrain
  simp only [List.nil_append, drainFrom, hlookup, hpositive, if_false] at hdrain
  exact ⟨(Prod.mk.inj hdrain).1.symm, (Prod.mk.inj hdrain).2.symm⟩

end Lotur.OutboundFlowWindow
