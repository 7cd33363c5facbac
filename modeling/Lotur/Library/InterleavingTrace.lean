import Lotur.Library.Interleaving

/-! The queries answered over a run, in order, and what can be counted along them. -/
namespace Interleaving

variable {Query : Type} {Reply : Query → Type} {ε ι α σ κ : Type}

/-- An answered query with the operation that asked it and what the operation had seen. -/
structure Entry (Reply : Query → Type) (ι : Type) where
  operation : ι
  history : List (Event Reply)
  event : Event Reply

def answered (handle : σ → (q : Query) → κ → Option (Reply q × σ)) (s : System Reply ε ι α σ) :
    Label ι κ → Option (Entry Reply ι)
  | .answer index choice | .lost index choice =>
    match s.calls[index]? with
    | some ⟨operation, history, .ask query _⟩ =>
      (handle s.store query choice).map fun (reply, _) => ⟨operation, history, ⟨query, reply⟩⟩
    | _ => none
  | .start _ | .reject _ => none

def trace (body : ι → Program Reply ε α) (handle : σ → (q : Query) → κ → Option (Reply q × σ)) :
    System Reply ε ι α σ → List (Label ι κ) → List (Entry Reply ι)
  | _, [] => []
  | s, a :: schedule => (answered handle s a).toList ++
      match step body handle s a with
      | none => []
      | some s' => trace body handle s' schedule

variable {body : ι → Program Reply ε α} {handle : σ → (q : Query) → κ → Option (Reply q × σ)}
  {s s' : System Reply ε ι α σ} {a : Label ι κ} {schedule : List (Label ι κ)}

theorem trace_cons (hstep : step body handle s a = some s') (schedule : List (Label ι κ)) :
    trace body handle s (a :: schedule) =
      (answered handle s a).toList ++ trace body handle s' schedule := by
  rw [trace, hstep]

theorem trace_append (first second : List (Label ι κ)) :
    Execution.run (step body handle) s first = some s' →
      trace body handle s (first ++ second) =
        trace body handle s first ++ trace body handle s' second := by
  induction first generalizing s with
  | nil =>
    rintro ⟨⟩
    rfl
  | cons a first ih =>
    intro hrun
    obtain ⟨next, hstep, hrest⟩ := Option.bind_eq_some_iff.1 hrun
    rw [List.cons_append, trace_cons hstep, trace_cons hstep, ih hrest, List.append_assoc]

/-- A query that takes effect, and what becomes of its operation. -/
structure Answered (handle : σ → (q : Query) → κ → Option (Reply q × σ))
    (s s' : System Reply ε ι α σ) (a : Label ι κ) where
  index : ℕ
  choice : κ
  operation : ι
  history : List (Event Reply)
  query : Query
  next : Reply query → Program Reply ε α
  reply : Reply query
  store : σ
  found : s.calls[index]? = some ⟨operation, history, .ask query next⟩
  handled : handle s.store query choice = some (reply, store)
  entry : answered handle s a =
    some { operation := operation, history := history, event := ⟨query, reply⟩ }
  after : s' = { s with store }.settle index
        ⟨operation, ⟨query, reply⟩ :: history, next reply⟩ ∨
      s' = { s with store, calls := s.calls.eraseIdx index }

/-- A step begins an operation, answers a query, or drops an operation. -/
theorem step_cases (hstep : step body handle s a = some s') :
    (∃ (operation : ι) (call : Call Reply ε ι α), a = .start operation ∧
        call = ⟨operation, [], body operation⟩ ∧
          s' = System.settle { s with calls := s.calls ++ [call] } s.calls.length call) ∨
      Nonempty (Answered handle s s' a) ∨
      ∃ index, answered handle s a = none ∧ (∀ operation, a ≠ .start operation) ∧
        s' = { s with calls := s.calls.eraseIdx index } := by
  cases a with
  | start operation =>
    cases hstep
    exact Or.inl ⟨operation, _, rfl, rfl, rfl⟩
  | answer index choice =>
    simp only [step] at hstep
    split at hstep
    next operation history query next hget =>
      cases hhandle : handle s.store query choice with
      | some result =>
        obtain ⟨reply, store⟩ := result
        rw [hhandle] at hstep
        refine Or.inr (Or.inl ⟨⟨index, choice, operation, history, query, next, reply, store, hget,
          hhandle, ?_, Or.inl (Option.some.inj hstep).symm⟩⟩)
        simp [answered, hget, hhandle]
      | none =>
        rw [hhandle] at hstep
        refine Or.inr (Or.inr ⟨index, ?_, by rintro _ ⟨⟩, (Option.some.inj hstep).symm⟩)
        simp [answered, hget, hhandle]
    next => cases hstep
  | reject index =>
    simp only [step] at hstep
    split at hstep
    · exact Or.inr (Or.inr ⟨index, rfl, by rintro _ ⟨⟩, (Option.some.inj hstep).symm⟩)
    · cases hstep
  | lost index choice =>
    simp only [step] at hstep
    split at hstep
    next operation history query next hget =>
      cases hhandle : handle s.store query choice with
      | some result =>
        obtain ⟨reply, store⟩ := result
        rw [hhandle] at hstep
        refine Or.inr (Or.inl ⟨⟨index, choice, operation, history, query, next, reply, store, hget,
          hhandle, ?_, Or.inr (Option.some.inj hstep).symm⟩⟩)
        simp [answered, hget, hhandle]
      | none =>
        rw [hhandle] at hstep
        refine Or.inr (Or.inr ⟨index, ?_, by rintro _ ⟨⟩, (Option.some.inj hstep).symm⟩)
        simp [answered, hget, hhandle]
    next => cases hstep

theorem Answered.store_eq (h : Answered handle s s' a) : s'.store = h.store := by
  rcases h.after with hafter | hafter
  · exact (congrArg System.store hafter).trans (System.settle_store _ _ _)
  · exact congrArg System.store hafter

/-- The step that answers an entry of the trace, with the runs before and after it. -/
theorem trace_split {first last : List (Entry Reply ι)} {entry : Entry Reply ι}
    (hrun : Execution.run (step body handle) s schedule = some s')
    (htrace : trace body handle s schedule = first ++ entry :: last) :
    ∃ before a after mid mid', schedule = before ++ a :: after ∧
      Execution.run (step body handle) s before = some mid ∧
      trace body handle s before = first ∧ step body handle mid a = some mid' ∧
      answered handle mid a = some entry ∧
      Execution.run (step body handle) mid' after = some s' ∧
      trace body handle mid' after = last := by
  induction schedule generalizing s first with
  | nil => cases first <;> cases htrace
  | cons a schedule ih =>
    obtain ⟨next, hstep, hrest⟩ := Option.bind_eq_some_iff.1 hrun
    rw [trace_cons hstep] at htrace
    have hlater : ∀ {first' : List (Entry Reply ι)},
        trace body handle next schedule = first' ++ entry :: last →
          first = (answered handle s a).toList ++ first' →
          ∃ before a' after mid mid', a :: schedule = before ++ a' :: after ∧
            Execution.run (step body handle) s before = some mid ∧
            trace body handle s before = first ∧ step body handle mid a' = some mid' ∧
            answered handle mid a' = some entry ∧
            Execution.run (step body handle) mid' after = some s' ∧
            trace body handle mid' after = last := by
      rintro first' hfirst rfl
      obtain ⟨before, a', after, mid, mid', rfl, hbefore, rfl, hfound⟩ := ih hrest hfirst
      refine ⟨a :: before, a', after, mid, mid', rfl, ?_, trace_cons hstep before, hfound⟩
      exact Option.bind_eq_some_iff.2 ⟨next, hstep, hbefore⟩
    cases hentry : answered handle s a with
    | none =>
      rw [hentry] at htrace hlater
      exact hlater htrace rfl
    | some found =>
      rw [hentry] at htrace hlater
      cases first with
      | nil =>
        obtain ⟨rfl, rfl⟩ := List.cons_eq_cons.1 htrace
        exact ⟨[], a, schedule, s, next, rfl, rfl, rfl, hstep, hentry, hrest, rfl⟩
      | cons earlier first =>
        obtain ⟨rfl, htail⟩ := List.cons_eq_cons.1 htrace
        exact hlater htail rfl

/-- What every answer of the run keeps. -/
theorem trace_keeps {inv : σ → Prop} {allowed : Entry Reply ι → Prop}
    (hhandle : ∀ {store query choice reply store'} operation history, inv store →
      allowed { operation := operation, history := history, event := ⟨query, reply⟩ } →
        handle store query choice = some (reply, store') → inv store')
    (h : inv s.store) (hrun : Execution.run (step body handle) s schedule = some s')
    (hallowed : ∀ entry ∈ trace body handle s schedule, allowed entry) : inv s'.store := by
  induction schedule generalizing s with
  | nil =>
    cases hrun
    exact h
  | cons a schedule ih =>
    obtain ⟨next, hstep, hrest⟩ := Option.bind_eq_some_iff.1 hrun
    rw [trace_cons hstep] at hallowed
    refine ih ?_ hrest fun entry hentry => hallowed entry (List.mem_append_right _ hentry)
    rcases step_cases hstep with
      ⟨operation, call, rfl, rfl, rfl⟩ | ⟨⟨hanswered⟩⟩ | ⟨index, -, -, rfl⟩
    · rw [System.settle_store]
      exact h
    · have hentry := hallowed _ (List.mem_append_left _ (Option.mem_toList.2 hanswered.entry))
      rw [hanswered.store_eq]
      exact hhandle _ _ h hentry hanswered.handled
    · exact h

/-- What is held of one kind pays for every use: an answer that uses one holds one less, and only
an answer that earns one holds one more. -/
theorem trace_ledger {held : σ → ℕ} {paid earned : Event Reply → Bool}
    (hhandle : ∀ {store query choice reply store'},
      handle store query choice = some (reply, store') →
        held store' + (if paid ⟨query, reply⟩ then 1 else 0) ≤
          held store + if earned ⟨query, reply⟩ then 1 else 0)
    (hrun : Execution.run (step body handle) s schedule = some s') :
    held s'.store + (trace body handle s schedule).countP (fun entry => paid entry.event) ≤
      held s.store + (trace body handle s schedule).countP fun entry => earned entry.event := by
  induction schedule generalizing s with
  | nil =>
    cases hrun
    exact le_rfl
  | cons a schedule ih =>
    obtain ⟨next, hstep, hrest⟩ := Option.bind_eq_some_iff.1 hrun
    have hlater := ih hrest
    rw [trace_cons hstep, List.countP_append, List.countP_append]
    rcases step_cases hstep with
      ⟨operation, call, rfl, rfl, rfl⟩ | ⟨⟨hanswered⟩⟩ | ⟨index, hnone, -, rfl⟩
    · rw [System.settle_store] at hlater
      simpa [answered] using hlater
    · have hnow := hhandle hanswered.handled
      rw [hanswered.store_eq] at hlater
      rw [hanswered.entry]
      simp only [Option.toList_some, List.countP_cons, List.countP_nil, zero_add]
      omega
    · rw [hnone]
      simpa using hlater

/-- What a row of the store was handed out by, or comes from: a query saved it. -/
theorem stored_or_saved {β : Type} {rows : σ → β → Prop} {saves : Event Reply → β → Prop}
    (hhandle : ∀ {store query choice reply store' row},
      handle store query choice = some (reply, store') → rows store' row →
        rows store row ∨ saves ⟨query, reply⟩ row)
    (hrun : Execution.run (step body handle) s schedule = some s') {row : β}
    (hrow : rows s'.store row) :
    rows s.store row ∨ ∃ entry ∈ trace body handle s schedule, saves entry.event row := by
  induction schedule generalizing s with
  | nil =>
    cases hrun
    exact Or.inl hrow
  | cons a schedule ih =>
    obtain ⟨next, hstep, hrest⟩ := Option.bind_eq_some_iff.1 hrun
    rw [trace_cons hstep]
    rcases ih hrest with hmid | ⟨entry, hentry, hsaves⟩
    · rcases step_cases hstep with
        ⟨operation, call, rfl, rfl, rfl⟩ | ⟨⟨hanswered⟩⟩ | ⟨index, hnone, -, rfl⟩
      · rw [System.settle_store] at hmid
        exact Or.inl hmid
      · rw [hanswered.store_eq] at hmid
        rw [hanswered.entry]
        refine (hhandle hanswered.handled hmid).imp_right fun hsaves => ?_
        exact ⟨_, List.mem_append_left _ (List.mem_singleton_self _), hsaves⟩
      · exact Or.inl hmid
    · exact Or.inr ⟨entry, List.mem_append_right _ hentry, hsaves⟩

/-- What an answer hands out is a row of the store it was answered by. -/
theorem handed_or_saved {β : Type} {rows : σ → β → Prop} {saves hands : Event Reply → β → Prop}
    (hhandle : ∀ {store query choice reply store' row},
      handle store query choice = some (reply, store') → rows store' row →
        rows store row ∨ saves ⟨query, reply⟩ row)
    (hhands : ∀ {store query choice reply store' row},
      handle store query choice = some (reply, store') → hands ⟨query, reply⟩ row → rows store row)
    (hrun : Execution.run (step body handle) s schedule = some s') {entry : Entry Reply ι}
    (hentry : entry ∈ trace body handle s schedule) {row : β} (hrow : hands entry.event row) :
    rows s.store row ∨ ∃ earlier ∈ trace body handle s schedule, saves earlier.event row := by
  induction schedule generalizing s with
  | nil => cases hentry
  | cons a schedule ih =>
    obtain ⟨next, hstep, hrest⟩ := Option.bind_eq_some_iff.1 hrun
    rw [trace_cons hstep] at hentry ⊢
    rcases List.mem_append.1 hentry with hnow | hlater
    · rcases step_cases hstep with
        ⟨operation, call, rfl, rfl, rfl⟩ | ⟨⟨hanswered⟩⟩ | ⟨index, hnone, -, rfl⟩
      · cases hnow
      · rw [hanswered.entry] at hnow
        obtain rfl := List.mem_singleton.1 hnow
        exact Or.inl (hhands hanswered.handled hrow)
      · rw [hnone] at hnow
        cases hnow
    · rcases ih hrest hlater with hmid | ⟨earlier, hearlier, hsaves⟩
      · have hfirst : Execution.run (step body handle) s [a] = some next := by
          simp [Execution.run, hstep]
        refine (stored_or_saved hhandle hfirst hmid).imp_right ?_
        rintro ⟨earlier, hearlier, hsaves⟩
        rw [trace_cons hstep, trace, List.append_nil] at hearlier
        exact ⟨earlier, List.mem_append_left _ hearlier, hsaves⟩
      · exact Or.inr ⟨earlier, List.mem_append_right _ hearlier, hsaves⟩

/-- What the operations have seen was answered in the run. -/
structure Logged (log : List (Entry Reply ι)) (s : System Reply ε ι α σ) : Prop where
  calls : ∀ call ∈ s.calls, ∀ event ∈ call.history,
    ∃ entry ∈ log, entry.operation = call.operation ∧ entry.event = event
  finished : ∀ entry ∈ s.finished, ∀ event ∈ entry.history,
    ∃ logged ∈ log, logged.operation = entry.operation ∧ logged.event = event

variable {log : List (Entry Reply ι)}

theorem Logged.settle (h : Logged log s) {index : ℕ} {call : Call Reply ε ι α}
    (hcall : ∀ event ∈ call.history,
      ∃ entry ∈ log, entry.operation = call.operation ∧ entry.event = event) :
    Logged log (s.settle index call) := by
  obtain ⟨operation, history, program⟩ := call
  have herased : ∀ other ∈ s.calls.eraseIdx index, ∀ event ∈ other.history,
      ∃ entry ∈ log, entry.operation = other.operation ∧ entry.event = event :=
    fun other hother => h.calls other (List.mem_of_mem_eraseIdx hother)
  cases program with
  | done result =>
    refine ⟨herased, ?_⟩
    rintro entry (_ | ⟨_, hentry⟩)
    · exact hcall
    · exact h.finished entry hentry
  | fail error =>
    refine ⟨herased, ?_⟩
    rintro entry (_ | ⟨_, hentry⟩)
    · exact hcall
    · exact h.finished entry hentry
  | ask query next =>
    refine ⟨fun other hother => ?_, h.finished⟩
    rcases List.mem_or_eq_of_mem_set hother with hold | rfl
    · exact h.calls other hold
    · exact hcall

theorem Logged.mono (h : Logged log s) (more : List (Entry Reply ι)) : Logged (log ++ more) s := by
  refine ⟨fun call hcall event hevent => ?_, fun entry hentry event hevent => ?_⟩
  · obtain ⟨logged, hmem, hsame⟩ := h.calls call hcall event hevent
    exact ⟨logged, List.mem_append_left _ hmem, hsame⟩
  · obtain ⟨logged, hmem, hsame⟩ := h.finished entry hentry event hevent
    exact ⟨logged, List.mem_append_left _ hmem, hsame⟩

theorem Logged.step (h : Logged log s) (hstep : step body handle s a = some s') :
    Logged (log ++ (answered handle s a).toList) s' := by
  rcases step_cases hstep with
    ⟨operation, call, rfl, rfl, rfl⟩ | ⟨⟨hanswered⟩⟩ | ⟨index, hnone, -, rfl⟩
  · have hadded : Logged log
        { s with calls := s.calls ++ [⟨operation, [], body operation⟩] } := by
      refine ⟨fun call hcall => ?_, h.finished⟩
      rcases List.mem_append.1 hcall with hold | hnew
      · exact h.calls call hold
      · rw [List.mem_singleton.1 hnew]
        exact List.forall_mem_nil _
    exact (hadded.settle (List.forall_mem_nil _)).mono _
  · have hlater := h.mono (answered handle s a).toList
    have hnow : ∃ entry ∈ log ++ (answered handle s a).toList,
        entry.operation = hanswered.operation ∧
          entry.event = ⟨hanswered.query, hanswered.reply⟩ := by
      rw [hanswered.entry]
      exact ⟨_, List.mem_append_right _ (List.mem_singleton_self _), rfl, rfl⟩
    have hseen := hlater.calls _ (List.mem_of_getElem? hanswered.found)
    have hstored : Logged (log ++ (answered handle s a).toList) { s with store := hanswered.store } :=
      ⟨hlater.calls, hlater.finished⟩
    rcases hanswered.after with hafter | hafter
    · rw [hafter]
      refine hstored.settle ?_
      rintro event (_ | ⟨_, hevent⟩)
      · exact hnow
      · exact hseen event hevent
    · rw [hafter]
      exact ⟨fun call hcall => hlater.calls call (List.mem_of_mem_eraseIdx hcall), hlater.finished⟩
  · have herased : Logged log { s with calls := s.calls.eraseIdx index } :=
      ⟨fun call hcall => h.calls call (List.mem_of_mem_eraseIdx hcall), h.finished⟩
    exact herased.mono _

theorem Logged.run (h : Logged log s)
    (hrun : Execution.run (Interleaving.step body handle) s schedule = some s') :
    Logged (log ++ trace body handle s schedule) s' := by
  induction schedule generalizing s log with
  | nil =>
    cases hrun
    exact h.mono _
  | cons a schedule ih =>
    obtain ⟨next, hstep, hrest⟩ := Option.bind_eq_some_iff.1 hrun
    have hlater := ih (h.step hstep) hrest
    rwa [List.append_assoc, ← trace_cons hstep] at hlater

section Asked

variable {spec : Spec Reply ε ι α σ}

/-- What was answered was asked as the operations ask, by one that had seen what was answered. -/
theorem trace_asked (hsound : Sound spec s) (hkeeps : Keeps handle spec)
    (hbody : ∀ operation, Label.start operation ∈ schedule →
      (body operation).Follows spec.rely (spec.asks operation) (spec.ends operation) [])
    (hlogged : Logged log s)
    (hrun : Execution.run (step body handle) s schedule = some s') {entry : Entry Reply ι}
    (hentry : entry ∈ trace body handle s schedule) :
    spec.asks entry.operation entry.history entry.event.1 ∧ spec.rely entry.event ∧
      ∀ event ∈ entry.history, ∃ earlier ∈ log ++ trace body handle s schedule,
        earlier.operation = entry.operation ∧ earlier.event = event := by
  induction schedule generalizing s log with
  | nil => cases hentry
  | cons a schedule ih =>
    obtain ⟨next, hstep, hrest⟩ := Option.bind_eq_some_iff.1 hrun
    rw [trace_cons hstep] at hentry ⊢
    rcases List.mem_append.1 hentry with hnow | hlater
    · rcases step_cases hstep with
        ⟨operation, call, rfl, rfl, rfl⟩ | ⟨⟨hanswered⟩⟩ | ⟨index, hnone, -, rfl⟩
      · cases hnow
      · rw [hanswered.entry] at hnow ⊢
        obtain rfl := List.mem_singleton.1 hnow
        have hmem := List.mem_of_getElem? hanswered.found
        refine ⟨(hsound.calls _ hmem).1.1, (hkeeps.event hsound.store hanswered.handled).1, ?_⟩
        intro event hevent
        obtain ⟨earlier, hearlier, hsame⟩ := hlogged.calls _ hmem event hevent
        exact ⟨earlier, List.mem_append_left _ hearlier, hsame⟩
      · rw [hnone] at hnow
        cases hnow
    · have hnext := hsound.step hkeeps (fun operation heq => hbody operation
        (heq ▸ List.mem_cons_self)) hstep
      have hasked := ih hnext (fun operation hmem => hbody operation (List.mem_cons_of_mem a hmem))
        (hlogged.step hstep) hrest hlater
      rwa [List.append_assoc] at hasked

end Asked

/-- What an operation may do because of what it was started with or has seen: an answer that is spent
needs one that is earned, and so may a result. -/
structure Allowance (Reply : Query → Type) (ε ι α : Type) where
  grant : ι → ℕ
  earned : ι → Event Reply → Bool
  spent : ι → Event Reply → Bool
  closing : ι → Except ε α → Bool

namespace Allowance

variable (allowance : Allowance Reply ε ι α)

def income (operation : ι) (history : List (Event Reply)) : ℕ :=
  allowance.grant operation + history.countP (allowance.earned operation)

def outlay (operation : ι) (history : List (Event Reply)) : ℕ :=
  history.countP (allowance.spent operation)

/-- An operation that keeps to the specification stays within its allowance. -/
structure Covers (spec : Spec Reply ε ι α σ) : Prop where
  asks : ∀ operation history query, spec.asks operation history query →
    allowance.outlay operation history ≤ allowance.income operation history ∧
      ∀ reply, spec.rely ⟨query, reply⟩ → allowance.outlay operation (⟨query, reply⟩ :: history) ≤
        allowance.income operation (⟨query, reply⟩ :: history)
  ends : ∀ operation history result, spec.ends operation history result →
    allowance.outlay operation history + (if allowance.closing operation result then 1 else 0) ≤
      allowance.income operation history

def left (call : Call Reply ε ι α) : ℕ :=
  allowance.income call.operation call.history - allowance.outlay call.operation call.history

def slack (s : System Reply ε ι α σ) : ℕ := (s.calls.map allowance.left).sum

def closed (s : System Reply ε ι α σ) : ℕ :=
  s.finished.countP fun entry => allowance.closing entry.operation entry.result

def granted (schedule : List (Label ι κ)) : ℕ :=
  (schedule.map fun a => match a with
    | .start operation => allowance.grant operation
    | _ => 0).sum

theorem granted_cons (a : Label ι κ) (schedule : List (Label ι κ)) :
    allowance.granted (a :: schedule) = allowance.granted [a] + allowance.granted schedule := by
  simp [granted]

theorem sum_eraseIdx {β : Type} (f : β → ℕ) {values : List β} {index : ℕ} {value : β}
    (h : values[index]? = some value) :
    ((values.eraseIdx index).map f).sum + f value = (values.map f).sum := by
  induction values generalizing index with
  | nil => cases h
  | cons first values ih =>
    cases index with
    | zero =>
      cases h
      rw [List.eraseIdx_cons_zero, List.map_cons, List.sum_cons, add_comm]
    | succ index =>
      have hrest := ih h
      rw [List.eraseIdx_cons_succ, List.map_cons, List.sum_cons, List.map_cons, List.sum_cons]
      omega

theorem sum_set {β : Type} (f : β → ℕ) {values : List β} {index : ℕ} {value : β}
    (h : values[index]? = some value) (new : β) :
    ((values.set index new).map f).sum + f value = (values.map f).sum + f new := by
  induction values generalizing index with
  | nil => cases h
  | cons first values ih =>
    cases index with
    | zero =>
      cases h
      rw [List.set_cons_zero, List.map_cons, List.sum_cons, List.map_cons, List.sum_cons]
      omega
    | succ index =>
      have hrest := ih h
      rw [List.set_cons_succ, List.map_cons, List.sum_cons, List.map_cons, List.sum_cons]
      omega

variable {allowance} {spec : Spec Reply ε ι α σ}

/-- A call that goes on or ends takes what it has left along. -/
theorem settle_slack (hcovers : allowance.Covers spec) {index : ℕ} {old : Call Reply ε ι α}
    (call : Call Reply ε ι α) (hfound : s.calls[index]? = some old)
    (hfollows : call.program.Follows spec.rely (spec.asks call.operation)
      (spec.ends call.operation) call.history) :
    allowance.closed (s.settle index call) + allowance.slack (s.settle index call) +
        allowance.left old ≤ allowance.closed s + allowance.slack s + allowance.left call := by
  obtain ⟨operation, history, program⟩ := call
  have herased := sum_eraseIdx allowance.left hfound
  have hended : ∀ result, spec.ends operation history result →
      allowance.closed { s with
          calls := s.calls.eraseIdx index
          finished := ⟨operation, history, result⟩ :: s.finished } +
        (((s.calls.eraseIdx index).map allowance.left).sum + allowance.left old) ≤
          allowance.closed s + allowance.slack s + allowance.left ⟨operation, history, program⟩ := by
    intro result hends
    rw [herased, closed, List.countP_cons]
    have hclosing : (if allowance.closing operation result then 1 else 0) ≤
        allowance.left ⟨operation, history, program⟩ :=
      Nat.le_sub_of_add_le' (hcovers.ends operation history result hends)
    dsimp only [closed, slack]
    omega
  cases program with
  | done result =>
    rw [add_assoc]
    exact hended _ hfollows
  | fail error =>
    rw [add_assoc]
    exact hended _ hfollows
  | ask query next =>
    have hset := sum_set allowance.left hfound ⟨operation, history, .ask query next⟩
    show allowance.closed s + _ + allowance.left old ≤ _
    rw [add_assoc, add_assoc]
    exact Nat.add_le_add_left hset.le _

theorem step_slack (hcovers : allowance.Covers spec) (hsound : Sound spec s)
    (hkeeps : Keeps handle spec)
    (hbody : ∀ operation, a = .start operation →
      (body operation).Follows spec.rely (spec.asks operation) (spec.ends operation) [])
    (hstep : step body handle s a = some s') :
    allowance.closed s' + allowance.slack s' +
        (answered handle s a).toList.countP
          (fun entry => allowance.spent entry.operation entry.event) ≤
      allowance.closed s + allowance.slack s +
        (answered handle s a).toList.countP
          (fun entry => allowance.earned entry.operation entry.event) + allowance.granted [a] := by
  rcases step_cases hstep with
    ⟨operation, call, rfl, hcall, rfl⟩ | ⟨⟨hanswered⟩⟩ | ⟨index, hnone, -, rfl⟩
  · have hfound : (s.calls ++ [call])[s.calls.length]? = some call := by simp
    have hfollows : call.program.Follows spec.rely (spec.asks call.operation)
        (spec.ends call.operation) call.history := by
      rw [hcall]
      exact hbody operation rfl
    have hsettled := settle_slack (s := { s with calls := s.calls ++ [call] }) hcovers call hfound
      hfollows
    have hadded : allowance.slack { s with calls := s.calls ++ [call] } =
        allowance.slack s + allowance.left call := by
      simp [slack]
    have hleft : allowance.left call = allowance.grant operation := by
      simp [left, income, outlay, hcall]
    have hgranted : allowance.granted [(.start operation : Label ι κ)] =
        allowance.grant operation := by
      simp [granted]
    have hclosed : allowance.closed { s with calls := s.calls ++ [call] } = allowance.closed s := rfl
    simp only [answered, Option.toList_none, List.countP_nil, hgranted]
    omega
  · obtain ⟨hasks, hnext⟩ := (hsound.calls _ (List.mem_of_getElem? hanswered.found)).1
    have hrely := (hkeeps.event hsound.store hanswered.handled).1
    obtain ⟨hbefore, hafter⟩ := hcovers.asks _ _ _ hasks
    have hcovered := hafter hanswered.reply hrely
    rw [hanswered.entry]
    simp only [Option.toList_some, List.countP_cons, List.countP_nil, zero_add]
    dsimp only [outlay, income] at hbefore hcovered
    simp only [List.countP_cons] at hcovered
    rcases hanswered.after with hsettled | herased
    · have hcall := settle_slack (s := { s with store := hanswered.store }) hcovers
        ⟨hanswered.operation, ⟨hanswered.query, hanswered.reply⟩ :: hanswered.history,
          hanswered.next hanswered.reply⟩ hanswered.found (hnext hanswered.reply hrely)
      rw [← hsettled] at hcall
      have hsame : allowance.slack { s with store := hanswered.store } = allowance.slack s := rfl
      have hclosed : allowance.closed { s with store := hanswered.store } = allowance.closed s :=
        rfl
      simp only [left, income, outlay, List.countP_cons] at hcall
      omega
    · have hsum := sum_eraseIdx allowance.left hanswered.found
      have hslack : allowance.slack s' =
          ((s.calls.eraseIdx hanswered.index).map allowance.left).sum :=
        congrArg allowance.slack herased
      have hclosed : allowance.closed s' = allowance.closed s :=
        (congrArg allowance.closed herased).trans rfl
      have hbefore' : allowance.slack s = (s.calls.map allowance.left).sum := rfl
      simp only [left, income, outlay] at hsum hslack hbefore'
      omega
  · rw [hnone]
    simp only [Option.toList_none, List.countP_nil]
    have hclosed : allowance.closed { s with calls := s.calls.eraseIdx index } =
        allowance.closed s := rfl
    have hslack : allowance.slack { s with calls := s.calls.eraseIdx index } ≤
        allowance.slack s := by
      rcases lt_or_ge index s.calls.length with hlt | hge
      · have hsum := sum_eraseIdx allowance.left (List.getElem?_eq_getElem hlt)
        dsimp only [slack]
        omega
      · rw [List.eraseIdx_of_length_le hge]
    omega

/-- Over a run, what is spent and what ends so is paid for by what was earned or granted. -/
theorem run_slack (hcovers : allowance.Covers spec) (hsound : Sound spec s)
    (hkeeps : Keeps handle spec)
    (hbody : ∀ operation, Label.start operation ∈ schedule →
      (body operation).Follows spec.rely (spec.asks operation) (spec.ends operation) [])
    (hrun : Execution.run (step body handle) s schedule = some s') :
    allowance.closed s' + allowance.slack s' + (trace body handle s schedule).countP
        (fun entry => allowance.spent entry.operation entry.event) ≤
      allowance.closed s + allowance.slack s + (trace body handle s schedule).countP
        (fun entry => allowance.earned entry.operation entry.event) +
          allowance.granted schedule := by
  induction schedule generalizing s with
  | nil =>
    cases hrun
    simp [trace, granted]
  | cons a schedule ih =>
    obtain ⟨next, hstep, hrest⟩ := Option.bind_eq_some_iff.1 hrun
    have hbegins : ∀ operation, a = .start operation →
        (body operation).Follows spec.rely (spec.asks operation) (spec.ends operation) [] :=
      fun operation heq => hbody operation (heq ▸ List.mem_cons_self)
    have hnow := step_slack hcovers hsound hkeeps hbegins hstep
    have hlater := ih (hsound.step hkeeps hbegins hstep)
      (fun operation hmem => hbody operation (List.mem_cons_of_mem a hmem)) hrest
    rw [trace_cons hstep, List.countP_append, List.countP_append, granted_cons]
    omega

end Allowance

end Interleaving
