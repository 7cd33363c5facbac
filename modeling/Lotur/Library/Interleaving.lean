import Lotur.Library.Execution

/-! Operations that ask a shared store. A query is answered atomically; between two queries of one
operation the store answers any queries of the others. -/
namespace Interleaving

variable {Query : Type} {Reply : Query → Type} {ε α β : Type}

/-- An operation: it returns, throws, or asks the store and goes on with the reply. -/
inductive Program (Reply : Query → Type) (ε α : Type) where
  | done (result : α)
  | fail (error : ε)
  | ask (query : Query) (next : Reply query → Program Reply ε α)

namespace Program

def bind : Program Reply ε α → (α → Program Reply ε β) → Program Reply ε β
  | done result, f => f result
  | fail error, _ => fail error
  | ask query next, f => ask query fun reply => (next reply).bind f

instance : Monad (Program Reply ε) where
  pure := done
  bind := bind

def query (q : Query) : Program Reply ε (Reply q) := ask q done

@[simp] theorem pure_eq (result : α) : (pure result : Program Reply ε α) = done result := rfl

@[simp] theorem done_bind (result : α) (f : α → Program Reply ε β) : done result >>= f = f result :=
  rfl

@[simp] theorem fail_bind (error : ε) (f : α → Program Reply ε β) :
    fail error >>= f = fail error := rfl

@[simp] theorem query_bind (q : Query) (f : Reply q → Program Reply ε β) :
    query q >>= f = ask q f := rfl

@[simp] theorem ask_bind (q : Query) (next : Reply q → Program Reply ε α)
    (f : α → Program Reply ε β) : ask q next >>= f = ask q fun reply => next reply >>= f := rfl

end Program

/-- A query with its reply. -/
abbrev Event (Reply : Query → Type) := (query : Query) × Reply query

/-- An operation under way, with the events it has seen, the newest first. -/
structure Call (Reply : Query → Type) (ε ι α : Type) where
  operation : ι
  history : List (Event Reply)
  program : Program Reply ε α

/-- An operation that has returned or thrown by itself. -/
structure Finished (Reply : Query → Type) (ε ι α : Type) where
  operation : ι
  history : List (Event Reply)
  result : Except ε α

structure System (Reply : Query → Type) (ε ι α σ : Type) where
  store : σ
  calls : List (Call Reply ε ι α)
  finished : List (Finished Reply ε ι α)

/-- `reject` is a query that fails without effect, `lost` one that takes effect while its reply
does not arrive; both end the operation. -/
inductive Label (ι κ : Type) where
  | start (operation : ι)
  | answer (index : ℕ) (choice : κ)
  | reject (index : ℕ)
  | lost (index : ℕ) (choice : κ)

variable {ι κ σ : Type}

/-- The call goes on with its program, or leaves the list when that has ended. -/
def System.settle (s : System Reply ε ι α σ) (index : ℕ) (call : Call Reply ε ι α) :
    System Reply ε ι α σ :=
  match call.program with
  | .done result => { s with
      calls := s.calls.eraseIdx index
      finished := ⟨call.operation, call.history, .ok result⟩ :: s.finished }
  | .fail error => { s with
      calls := s.calls.eraseIdx index
      finished := ⟨call.operation, call.history, .error error⟩ :: s.finished }
  | .ask _ _ => { s with calls := s.calls.set index call }

@[simp] theorem System.settle_store (s : System Reply ε ι α σ) (index : ℕ)
    (call : Call Reply ε ι α) : (s.settle index call).store = s.store := by
  obtain ⟨operation, history, program⟩ := call
  cases program with
  | done result => rfl
  | fail error => rfl
  | ask query next => rfl

variable (body : ι → Program Reply ε α) (handle : σ → (q : Query) → κ → Option (Reply q × σ))

/-- `handle` gives the reply and the store after the query, or nothing when the query throws. -/
def step (s : System Reply ε ι α σ) : Label ι κ → Option (System Reply ε ι α σ)
  | .start operation =>
    let call : Call Reply ε ι α := ⟨operation, [], body operation⟩
    some ({ s with calls := s.calls ++ [call] }.settle s.calls.length call)
  | .answer index choice =>
    match s.calls[index]? with
    | some ⟨operation, history, .ask query next⟩ =>
      match handle s.store query choice with
      | some (reply, store) => some ({ s with store }.settle index
          ⟨operation, ⟨query, reply⟩ :: history, next reply⟩)
      | none => some { s with calls := s.calls.eraseIdx index }
    | _ => none
  | .reject index =>
    match s.calls[index]? with
    | some _ => some { s with calls := s.calls.eraseIdx index }
    | none => none
  | .lost index choice =>
    match s.calls[index]? with
    | some ⟨_, _, .ask query _⟩ =>
      match handle s.store query choice with
      | some (_, store) => some { s with store, calls := s.calls.eraseIdx index }
      | none => some { s with calls := s.calls.eraseIdx index }
    | _ => none

/-- What the program asks and how it ends, whatever the replies are that `rely` allows. -/
def Program.Follows (rely : Event Reply → Prop) (asks : List (Event Reply) → Query → Prop)
    (ends : List (Event Reply) → Except ε α → Prop) :
    List (Event Reply) → Program Reply ε α → Prop
  | history, done result => ends history (.ok result)
  | history, fail error => ends history (.error error)
  | history, ask query next =>
      asks history query ∧ ∀ reply, rely ⟨query, reply⟩ →
        (next reply).Follows rely asks ends (⟨query, reply⟩ :: history)

namespace Program

/-- Whatever the replies are, the program asks only what is allowed, and what it returns has the
property. -/
def Only (allowed : Query → Prop) (returns : α → Prop) : Program Reply ε α → Prop
  | done result => returns result
  | fail _ => True
  | ask query next => allowed query ∧ ∀ reply, (next reply).Only allowed returns

theorem Only.bind {allowed : Query → Prop} {middle : β → Prop} {returns : α → Prop}
    {p : Program Reply ε β} {f : β → Program Reply ε α} (hp : p.Only allowed middle)
    (hf : ∀ value, middle value → (f value).Only allowed returns) :
    (p >>= f).Only allowed returns := by
  induction p with
  | done result => exact hf result hp
  | fail error => trivial
  | ask query next ih => exact ⟨hp.1, fun reply => ih reply (hp.2 reply)⟩

theorem Only.imp {allowed allowed' : Query → Prop} {returns : α → Prop} {p : Program Reply ε α}
    (h : p.Only allowed returns) (himp : ∀ query, allowed query → allowed' query) :
    p.Only allowed' returns := by
  induction p with
  | done result => exact h
  | fail error => trivial
  | ask query next ih => exact ⟨himp query h.1, fun reply => ih reply (h.2 reply)⟩

variable {rely : Event Reply → Prop} {asks : List (Event Reply) → Query → Prop}
  {ends : List (Event Reply) → Except ε α → Prop}

theorem Only.follows {allowed : Query → Prop} {returns : α → Prop} {p : Program Reply ε α}
    (h : p.Only allowed returns) (history : List (Event Reply)) :
    p.Follows rely (fun _ query => allowed query)
      (fun _ result => ∀ value, result = .ok value → returns value) history := by
  induction p generalizing history with
  | done result =>
    rintro _ ⟨⟩
    exact h
  | fail error => nofun
  | ask query next ih => exact ⟨h.1, fun reply _ => ih reply (h.2 reply) _⟩

theorem Only.follows_and {allowed : Query → Prop} {returns : α → Prop} {p : Program Reply ε α}
    {history : List (Event Reply)} (h : p.Only allowed returns) (hp : p.Follows rely asks ends history) :
    p.Follows rely (fun history query => allowed query ∧ asks history query) ends history := by
  induction p generalizing history with
  | done result => exact hp
  | fail error => exact hp
  | ask query next ih =>
    exact ⟨⟨h.1, hp.1⟩, fun reply hreply => ih reply (h.2 reply) (hp.2 reply hreply)⟩

/-- A program followed by another: the first only has to lead into the second. -/
theorem Follows.bind {p : Program Reply ε β} {f : β → Program Reply ε α}
    {history : List (Event Reply)}
    (h : p.Follows rely asks (fun history result => match result with
      | .ok value => (f value).Follows rely asks ends history
      | .error error => ends history (.error error)) history) :
    (p >>= f).Follows rely asks ends history := by
  induction p generalizing history with
  | done result => exact h
  | fail error => exact h
  | ask query next ih => exact ⟨h.1, fun reply hreply => ih reply (h.2 reply hreply)⟩

/-- A program keeps to what it follows when its replies allow more, read with the replies it has
seen. -/
theorem Follows.imp {p : Program Reply ε α} {rely' : Event Reply → Prop}
    {asks' : List (Event Reply) → Query → Prop} {ends' : List (Event Reply) → Except ε α → Prop}
    {history : List (Event Reply)} (h : p.Follows rely asks ends history)
    (hseen : ∀ event ∈ history, rely' event) (hrely : ∀ event, rely' event → rely event)
    (hasks : ∀ history query, (∀ event ∈ history, rely' event) → asks history query →
      asks' history query)
    (hends : ∀ history result, (∀ event ∈ history, rely' event) → ends history result →
      ends' history result) : p.Follows rely' asks' ends' history := by
  induction p generalizing history with
  | done result => exact hends _ _ hseen h
  | fail error => exact hends _ _ hseen h
  | ask query next ih =>
    refine ⟨hasks _ _ hseen h.1, fun reply hreply => ih reply (h.2 reply (hrely _ hreply)) ?_⟩
    rintro event (_ | ⟨_, hevent⟩)
    · exact hreply
    · exact hseen event hevent

theorem Follows.mono {p : Program Reply ε α} {ends' : List (Event Reply) → Except ε α → Prop}
    {history : List (Event Reply)} (h : p.Follows rely asks ends history)
    (himp : ∀ history result, ends history result → ends' history result) :
    p.Follows rely asks ends' history := by
  induction p generalizing history with
  | done result => exact himp _ _ h
  | fail error => exact himp _ _ h
  | ask query next ih => exact ⟨h.1, fun reply hreply => ih reply (h.2 reply hreply)⟩

end Program

section Runs

variable {body handle}

/-- What is proved of a system: an invariant of the store, what stays true of every event seen, what
the operations may rely on in a reply, what they ask, and how each ends. -/
structure Spec (Reply : Query → Type) (ε ι α σ : Type) where
  inv : σ → Prop
  seen : σ → Event Reply → Prop
  rely : Event Reply → Prop
  asks : ι → List (Event Reply) → Query → Prop
  ends : ι → List (Event Reply) → Except ε α → Prop

structure Sound (spec : Spec Reply ε ι α σ) (s : System Reply ε ι α σ) : Prop where
  store : spec.inv s.store
  calls : ∀ call ∈ s.calls,
    call.program.Follows spec.rely (spec.asks call.operation) (spec.ends call.operation)
      call.history ∧
      ∀ event ∈ call.history, spec.seen s.store event
  finished : ∀ entry ∈ s.finished, spec.ends entry.operation entry.history entry.result

variable {spec : Spec Reply ε ι α σ} {s s' : System Reply ε ι α σ}

theorem Sound.eraseIdx (h : Sound spec s) (index : ℕ) :
    Sound spec { s with calls := s.calls.eraseIdx index } :=
  ⟨h.store, fun call hcall => h.calls call (List.mem_of_mem_eraseIdx hcall), h.finished⟩

theorem Sound.settle (h : Sound spec s) {index : ℕ} {call : Call Reply ε ι α}
    (hfollows : call.program.Follows spec.rely (spec.asks call.operation)
      (spec.ends call.operation) call.history)
    (hseen : ∀ event ∈ call.history, spec.seen s.store event) :
    Sound spec (s.settle index call) := by
  obtain ⟨operation, history, program⟩ := call
  cases program with
  | done result =>
    refine ⟨h.store, (h.eraseIdx index).calls, ?_⟩
    rintro entry (_ | ⟨_, hentry⟩)
    · exact hfollows
    · exact h.finished entry hentry
  | fail error =>
    refine ⟨h.store, (h.eraseIdx index).calls, ?_⟩
    rintro entry (_ | ⟨_, hentry⟩)
    · exact hfollows
    · exact h.finished entry hentry
  | ask query next =>
    refine ⟨h.store, fun call hcall => ?_, h.finished⟩
    rcases List.mem_or_eq_of_mem_set hcall with hcall | rfl
    · exact h.calls call hcall
    · exact ⟨hfollows, hseen⟩

/-- The store answers a query that an operation may ask: it keeps its invariant, what was seen
stays seen, and the operation may rely on the reply. -/
structure Keeps (handle : σ → (q : Query) → κ → Option (Reply q × σ))
    (spec : Spec Reply ε ι α σ) : Prop where
  store : ∀ {store operation history query choice reply store'}, spec.inv store →
    spec.asks operation history query → handle store query choice = some (reply, store') → spec.inv store'
  stable : ∀ {store query choice reply store' event}, spec.inv store → spec.seen store event →
    handle store query choice = some (reply, store') → spec.seen store' event
  event : ∀ {store query choice reply store'}, spec.inv store →
    handle store query choice = some (reply, store') →
    spec.rely ⟨query, reply⟩ ∧ spec.seen store' ⟨query, reply⟩

theorem Sound.handled (h : Sound spec s) (hkeeps : Keeps handle spec)
    {operation : ι} {history : List (Event Reply)} {query : Query} {choice : κ}
    {reply : Reply query} {store : σ} (hasks : spec.asks operation history query)
    (hhandle : handle s.store query choice = some (reply, store)) :
    Sound spec { s with store } where
  store := hkeeps.store h.store hasks hhandle
  calls call hcall := ⟨(h.calls call hcall).1, fun event hevent =>
    hkeeps.stable h.store ((h.calls call hcall).2 event hevent) hhandle⟩
  finished := h.finished

theorem Sound.step (h : Sound spec s) (hkeeps : Keeps handle spec)
    {a : Label ι κ} (hbody : ∀ operation, a = .start operation →
      (body operation).Follows spec.rely (spec.asks operation) (spec.ends operation) [])
    (hstep : step body handle s a = some s') : Sound spec s' := by
  cases a with
  | start operation =>
    have hfollows := hbody operation rfl
    have hadded : Sound spec
        { s with calls := s.calls ++ [⟨operation, [], body operation⟩] } := by
      refine ⟨h.store, fun call hcall => ?_, h.finished⟩
      rcases List.mem_append.1 hcall with hcall | hcall
      · exact h.calls call hcall
      · rw [List.mem_singleton.1 hcall]
        exact ⟨hfollows, fun event hevent => absurd hevent List.not_mem_nil⟩
    cases hstep
    exact hadded.settle hfollows fun event hevent => absurd hevent List.not_mem_nil
  | answer index choice =>
    simp only [Interleaving.step] at hstep
    split at hstep
    next operation history query next hget =>
      have hcall := h.calls _ (List.mem_of_getElem? hget)
      split at hstep
      next reply store hhandle =>
        cases hstep
        obtain ⟨hrely, hseen⟩ := hkeeps.event h.store hhandle
        refine (h.handled hkeeps hcall.1.1 hhandle).settle (hcall.1.2 reply hrely) ?_
        rintro event (_ | ⟨_, hevent⟩)
        · exact hseen
        · exact hkeeps.stable h.store (hcall.2 event hevent) hhandle
      next =>
        cases hstep
        exact h.eraseIdx index
    next => cases hstep
  | reject index =>
    simp only [Interleaving.step] at hstep
    split at hstep
    · cases hstep
      exact h.eraseIdx index
    · cases hstep
  | lost index choice =>
    simp only [Interleaving.step] at hstep
    split at hstep
    next operation history query next hget =>
      have hcall := h.calls _ (List.mem_of_getElem? hget)
      split at hstep
      next reply store hhandle =>
        cases hstep
        exact (h.handled hkeeps hcall.1.1 hhandle).eraseIdx index
      next =>
        cases hstep
        exact h.eraseIdx index
    next => cases hstep

theorem Sound.run (h : Sound spec s) (hkeeps : Keeps handle spec) {schedule : List (Label ι κ)}
    (hbody : ∀ operation, Label.start operation ∈ schedule →
      (body operation).Follows spec.rely (spec.asks operation) (spec.ends operation) [])
    (hrun : Execution.run (Interleaving.step body handle) s schedule = some s') : Sound spec s' := by
  induction schedule generalizing s with
  | nil =>
    cases hrun
    exact h
  | cons a schedule ih =>
    obtain ⟨next, hstep, hrest⟩ := Option.bind_eq_some_iff.1 hrun
    refine ih (h.step hkeeps (fun operation heq => ?_) hstep) (fun operation hmem => ?_) hrest
    · exact hbody operation (heq ▸ List.mem_cons_self)
    · exact hbody operation (List.mem_cons_of_mem a hmem)

/-- The operation whose query the step runs, with that query and its answer. -/
structure Answers (handle : σ → (q : Query) → κ → Option (Reply q × σ))
    (s s' : System Reply ε ι α σ) (a : Label ι κ) where
  call : Call Reply ε ι α
  query : Query
  next : Reply query → Program Reply ε α
  choice : κ
  reply : Reply query
  index : ℕ
  label : a = .answer index choice ∨ a = .lost index choice
  found : s.calls[index]? = some call
  asks : call.program = .ask query next
  handled : handle s.store query choice = some (reply, s'.store)

/-- A step leaves the store, or answers a query of an operation under way. -/
theorem step_store {a : Label ι κ} (hstep : Interleaving.step body handle s a = some s') :
    s'.store = s.store ∨ Nonempty (Answers handle s s' a) := by
  cases a with
  | start operation =>
    cases hstep
    exact Or.inl (System.settle_store _ _ _)
  | answer index choice =>
    simp only [Interleaving.step] at hstep
    split at hstep
    next operation history query next hget =>
      split at hstep
      next reply store hhandle =>
        cases hstep
        refine Or.inr ⟨⟨_, query, next, choice, reply, index, Or.inl rfl, hget, rfl, ?_⟩⟩
        rw [System.settle_store]
        exact hhandle
      next =>
        cases hstep
        exact Or.inl rfl
    next => cases hstep
  | reject index =>
    simp only [Interleaving.step] at hstep
    split at hstep
    · cases hstep
      exact Or.inl rfl
    · cases hstep
  | lost index choice =>
    simp only [Interleaving.step] at hstep
    split at hstep
    next operation history query next hget =>
      split at hstep
      next reply store hhandle =>
        cases hstep
        exact Or.inr ⟨⟨_, query, next, choice, reply, index, Or.inr rfl, hget, rfl, hhandle⟩⟩
      next =>
        cases hstep
        exact Or.inl rfl
    next => cases hstep

/-- The last query of the operation was answered by a store with the property. -/
def Recent (handle : σ → (q : Query) → κ → Option (Reply q × σ)) (property : σ → Prop)
    (history : List (Event Reply)) : Prop :=
  ∀ event ∈ history.head?, ∃ store choice store', property store ∧
    handle store event.1 choice = some (event.2, store')

/-- The property holds from `old` on, and the operations finished since then are recent. -/
structure Since (handle : σ → (q : Query) → κ → Option (Reply q × σ)) (property : σ → Prop)
    (old : List (Finished Reply ε ι α)) (s : System Reply ε ι α σ) : Prop where
  store : property s.store
  finished : ∃ later, s.finished = later ++ old ∧
    ∀ entry ∈ later, Recent handle property entry.history

variable {property : σ → Prop} {old : List (Finished Reply ε ι α)}

theorem Since.settle (h : Since handle property old s) {index : ℕ} {call : Call Reply ε ι α}
    (hrecent : Recent handle property call.history) :
    Since handle property old (s.settle index call) := by
  obtain ⟨later, hlater, hall⟩ := h.finished
  obtain ⟨operation, history, program⟩ := call
  have hcons : ∀ entry : Finished Reply ε ι α, entry.history = history →
      ∀ e ∈ entry :: later, Recent handle property e.history := by
    rintro entry rfl e (_ | ⟨_, he⟩)
    · exact hrecent
    · exact hall e he
  cases program with
  | done result => exact ⟨h.store, _ :: later, congrArg _ hlater, hcons _ rfl⟩
  | fail error => exact ⟨h.store, _ :: later, congrArg _ hlater, hcons _ rfl⟩
  | ask query next => exact ⟨h.store, h.finished⟩

theorem Since.step (h : Since handle property old s)
    (hstable : ∀ {store query choice reply store'}, property store →
      handle store query choice = some (reply, store') → property store')
    {a : Label ι κ} (hstep : Interleaving.step body handle s a = some s') :
    Since handle property old s' := by
  cases a with
  | start operation =>
    have hadded : Since handle property old
        { s with calls := s.calls ++ [⟨operation, [], body operation⟩] } := ⟨h.store, h.finished⟩
    cases hstep
    apply hadded.settle
    intro event hevent
    cases hevent
  | answer index choice =>
    simp only [Interleaving.step] at hstep
    split at hstep
    next operation history query next hget =>
      split at hstep
      next reply store hhandle =>
        have hstored : Since handle property old { s with store } :=
          ⟨hstable h.store hhandle, h.finished⟩
        cases hstep
        apply hstored.settle
        rintro event ⟨⟩
        exact ⟨s.store, choice, store, h.store, hhandle⟩
      next =>
        cases hstep
        exact ⟨h.store, h.finished⟩
    next => cases hstep
  | reject index =>
    simp only [Interleaving.step] at hstep
    split at hstep
    · cases hstep
      exact ⟨h.store, h.finished⟩
    · cases hstep
  | lost index choice =>
    simp only [Interleaving.step] at hstep
    split at hstep
    next =>
      split at hstep
      next reply store hhandle =>
        cases hstep
        exact ⟨hstable h.store hhandle, h.finished⟩
      next =>
        cases hstep
        exact ⟨h.store, h.finished⟩
    next => cases hstep

theorem Since.run (h : Since handle property old s)
    (hstable : ∀ {store query choice reply store'}, property store →
      handle store query choice = some (reply, store') → property store')
    {schedule : List (Label ι κ)}
    (hrun : Execution.run (Interleaving.step body handle) s schedule = some s') :
    Since handle property old s' :=
  Execution.invariant_of_run (fun _ _ _ hs hstep => hs.step hstable hstep) h hrun

end Runs

end Interleaving
