import Lotur.Relay.FlowConservation

/-! The `take` calls of a window over its calls: each keeps its number, its request and, once it is
settled, its outcome. -/
namespace Lotur.FlowPromises

/-- All `take` calls whose promise waits or was settled. -/
def calls (w : FlowPromises) : List TakeCall := w.waiters ++ w.settled.map Prod.fst

theorem drainFrom_calls (w : FlowPromises) (rest : List TakeCall) {call : TakeCall}
    (hcall : call ∈ (w.drainFrom rest).calls) : call ∈ w.calls ∨ call ∈ rest := by
  induction rest generalizing w with
  | nil => exact Or.inl hcall
  | cons next rest ih =>
    have hadded : ∀ w' : FlowPromises, (∀ other ∈ w'.calls, other ∈ w.calls ∨ other = next) →
        call ∈ (w'.drainFrom rest).calls → call ∈ w.calls ∨ call ∈ next :: rest := by
      intro w' hstep hlast
      rcases ih w' hlast with hmid | hrest
      · rcases hstep call hmid with hold | rfl
        · exact Or.inl hold
        · exact Or.inr List.mem_cons_self
      · exact Or.inr (List.mem_cons_of_mem _ hrest)
    have hsettled : ∀ outcome other, other ∈ w.waiters ++ (w.settled ++
        [(next, outcome)]).map Prod.fst → other ∈ w.calls ∨ other = next := by
      intro outcome other hother
      rw [List.map_append, ← List.append_assoc] at hother
      rcases List.mem_append.1 hother with hold | hnew
      · exact Or.inl hold
      · exact Or.inr (List.mem_singleton.1 hnew)
    rw [drainFrom] at hcall
    split at hcall
    · refine hadded _ ?_ hcall
      exact hsettled _
    · split_ifs at hcall
      · refine hadded _ ?_ hcall
        intro other hother
        rcases List.mem_append.1 hother with hwaits | hold
        · rcases List.mem_append.1 hwaits with hold | hnew
          · exact Or.inl (List.mem_append_left _ hold)
          · exact Or.inr (List.mem_singleton.1 hnew)
        · exact Or.inl (List.mem_append_right _ hold)
      · refine hadded _ ?_ hcall
        exact hsettled _

theorem drainWaiters_calls (w : FlowPromises) {call : TakeCall}
    (hcall : call ∈ w.drainWaiters.calls) : call ∈ w.calls := by
  rcases drainFrom_calls _ _ hcall with hold | hwaiter
  · exact List.mem_append_right _ (by simpa [calls] using hold)
  · exact List.mem_append_left _ hwaiter

theorem drainFrom_takeCalls (w : FlowPromises) (rest : List TakeCall) :
    (w.drainFrom rest).takeCalls = w.takeCalls := by
  induction rest generalizing w with
  | nil => rfl
  | cons call rest ih =>
    rw [drainFrom]
    split
    · exact ih _
    · split_ifs
      · exact ih _
      · exact ih _

/-- What a call of the window does to the `take` calls before it: nothing is forgotten, and no call
gets a number that was given. -/
structure Extends (w w' : FlowPromises) : Prop where
  settled : w.settled ⊆ w'.settled
  takeCalls : w.takeCalls ≤ w'.takeCalls
  calls : ∀ call ∈ w'.calls, call.ticket < w.takeCalls → call ∈ w.calls

theorem Extends.refl (w : FlowPromises) : Extends w w :=
  ⟨List.Subset.refl _, le_rfl, fun _ hcall _ => hcall⟩

theorem Extends.drain {w' : FlowPromises} (h : Extends w w') : Extends w w'.drainWaiters := by
  refine ⟨fun entry hentry => (drainFrom_frame _ _).2.2 (h.settled hentry), ?_, ?_⟩
  · rw [drainWaiters, drainFrom_takeCalls]
    exact h.takeCalls
  · intro call hcall hlt
    exact h.calls call (drainWaiters_calls w' hcall) hlt

theorem openStream_extends (w : FlowPromises) (i : ℕ) (bytes : ℤ) :
    Extends w (w.openStream i bytes).1 := by
  unfold openStream
  split_ifs
  · exact .refl w
  · exact .refl w
  · exact .refl w
  · exact .refl w
  · exact Extends.drain ⟨List.Subset.refl _, le_rfl, fun _ hcall _ => hcall⟩

theorem take_extends (w : FlowPromises) (i : ℕ) (bytes : ℤ) : Extends w (w.take i bytes).1 := by
  have hthrown : ∀ error, Extends w (settle { w with takeCalls := w.takeCalls + 1 }
      ⟨w.takeCalls, i, bytes⟩ (.rejected error)) := by
    intro error
    refine ⟨List.subset_append_left _ _, Nat.le_succ _, ?_⟩
    intro call hcall hlt
    rcases List.mem_append.1 hcall with hwaits | hsettled
    · exact List.mem_append_left _ hwaits
    · obtain ⟨entry, hentry, rfl⟩ := List.mem_map.1 hsettled
      rcases List.mem_append.1 hentry with hold | hnew
      · exact List.mem_append_right _ (List.mem_map_of_mem hold)
      · rw [List.mem_singleton.1 hnew] at hlt
        exact absurd hlt (lt_irrefl _)
  unfold take
  dsimp only
  split_ifs
  · exact hthrown _
  · exact hthrown _
  · refine Extends.drain ⟨List.Subset.refl _, Nat.le_succ _, ?_⟩
    intro call hcall hlt
    rcases List.mem_append.1 hcall with hwaits | hsettled
    · rcases List.mem_append.1 hwaits with hold | hnew
      · exact List.mem_append_left _ hold
      · rw [List.mem_singleton.1 hnew] at hlt
        exact absurd hlt (lt_irrefl _)
    · exact List.mem_append_right _ hsettled
  · exact hthrown _

theorem update_extends (w : FlowPromises) (i : ℕ) (bytes : ℤ) :
    Extends w (w.update i bytes).1 := by
  unfold update
  split
  · exact .refl w
  · split
    · exact .refl w
    · dsimp only
      split_ifs
      · exact .refl w
      · exact ⟨List.Subset.refl _, le_rfl, fun _ hcall _ => hcall⟩
      · exact Extends.drain ⟨List.Subset.refl _, le_rfl, fun _ hcall _ => hcall⟩

theorem rejectAll_calls {calls : List TakeCall} {error : JsError} :
    (rejectAll calls error).map Prod.fst = calls := by
  simp [rejectAll, Function.comp_def]

theorem closeStream_extends (w : FlowPromises) (i : ℕ) : Extends w (w.closeStream i) := by
  unfold closeStream
  split
  · exact .refl w
  · refine Extends.drain ⟨List.subset_append_left _ _, le_rfl, ?_⟩
    intro call hcall _
    rcases List.mem_append.1 hcall with hwaits | hsettled
    · exact List.mem_append_left _ (List.mem_filter.1 hwaits).1
    · dsimp only at hsettled
      rw [List.map_append, rejectAll_calls] at hsettled
      rcases List.mem_append.1 hsettled with hold | hnew
      · exact List.mem_append_right _ hold
      · exact List.mem_append_left _ (List.mem_filter.1 (List.mem_reverse.1 hnew)).1

theorem close_extends (w : FlowPromises) : Extends w w.close := by
  refine ⟨List.subset_append_left _ _, le_rfl, ?_⟩
  intro call hcall _
  have hsettled : call ∈ (w.settled ++ rejectAll w.waiters noConnection).map Prod.fst := hcall
  rw [List.map_append, rejectAll_calls] at hsettled
  rcases List.mem_append.1 hsettled with hold | hnew
  · exact List.mem_append_right _ hold
  · exact List.mem_append_left _ hnew

theorem call_extends (w : FlowPromises) (next : Call) : Extends w (w.call next).1 := by
  cases next with
  | openStream i bytes => exact openStream_extends w i bytes
  | take i bytes => exact take_extends w i bytes
  | update i bytes => exact update_extends w i bytes
  | closeStream i => exact closeStream_extends w i
  | close => exact close_extends w

theorem Sound.ticket_lt {w : FlowPromises} (h : w.Sound) {call : TakeCall} (hcall : call ∈ w.calls) :
    call.ticket < w.takeCalls := by
  rcases List.mem_append.1 hcall with hwaits | hsettled
  · exact h.queued.known call (by simpa using hwaits)
  · obtain ⟨entry, hentry, rfl⟩ := List.mem_map.1 hsettled
    exact h.queued.settledKnown entry hentry

/-- The next number goes to the call that is made. -/
theorem take_calls {w : FlowPromises} (h : w.Sound) {i : ℕ} {bytes : ℤ} {call : TakeCall}
    (hcall : call ∈ (w.take i bytes).1.calls) (hticket : call.ticket = w.takeCalls) :
    call = ⟨w.takeCalls, i, bytes⟩ := by
  have hnew : call ∉ w.calls := by
    intro hold
    have hlt := h.ticket_lt hold
    omega
  have hthrown : ∀ error, call ∈ (settle { w with takeCalls := w.takeCalls + 1 }
      ⟨w.takeCalls, i, bytes⟩ (.rejected error)).calls → call = ⟨w.takeCalls, i, bytes⟩ := by
    intro error hmem
    have hsplit : call ∈ w.waiters ++ (w.settled.map Prod.fst ++ [⟨w.takeCalls, i, bytes⟩]) := by
      simpa [calls, settle] using hmem
    rw [← List.append_assoc] at hsplit
    rcases List.mem_append.1 hsplit with hold | hlast
    · exact absurd hold hnew
    · exact List.mem_singleton.1 hlast
  unfold take at hcall
  dsimp only at hcall
  split_ifs at hcall
  · exact hthrown _ hcall
  · exact hthrown _ hcall
  · rcases List.mem_append.1 (drainWaiters_calls _ hcall) with hwaits | hsettled
    · rcases List.mem_append.1 hwaits with hold | hlast
      · exact absurd (List.mem_append_left _ hold) hnew
      · exact List.mem_singleton.1 hlast
    · exact absurd (List.mem_append_right _ hsettled) hnew
  · exact hthrown _ hcall

theorem take_takeCalls (w : FlowPromises) (i : ℕ) (bytes : ℤ) :
    (w.take i bytes).1.takeCalls = w.takeCalls + 1 := by
  unfold take
  dsimp only
  split_ifs
  · rfl
  · rfl
  · exact drainFrom_takeCalls _ _
  · rfl

/-- An outcome is for good. -/
theorem Extends.outcomes {w w' : FlowPromises} (h : Extends w w') (hsound : w'.Sound)
    {ticket : ℕ} {outcome : TakeOutcome} (houtcome : w.outcomes ticket = [outcome]) :
    w'.outcomes ticket = [outcome] := by
  have hmem : outcome ∈ w.outcomes ticket := by
    rw [houtcome]
    exact List.mem_singleton_self _
  obtain ⟨⟨call, only⟩, hentry, rfl⟩ := List.mem_map.1 hmem
  obtain ⟨hsettled, hticket⟩ := List.mem_filter.1 hentry
  have heq : call.ticket = ticket := by simpa using hticket
  rw [← heq]
  exact hsound.outcomes_of_settled (h.settled hsettled)

end Lotur.FlowPromises
