import Lotur.Library.Execution
import Lotur.Library.WorkerPool

/-! `checkAuthorizations` of `authorization-revalidation.ts`: one query for all checks, and one for
each where that one fails. A query that timed out keeps its place until it settles. -/
namespace Lotur.Gateway.Revalidation

def authorizationRevalidationConcurrency : ℕ := 4

/-- A `PromiseSettledResult`. -/
inductive Outcome where
  | fulfilled (value : Bool)
  | rejected
  deriving DecidableEq, Repr

/-- A worker of the fallback waits for its query, or has its outcome and still has to go on. -/
abbrev FallbackPool := WorkerPool.Pool (Option Outcome) Outcome

inductive Checking where
  | waiting
  | falling
  | fallback (pool : FallbackPool)
  | checked (results : ℕ → Option Outcome)

/-- `activeAuthorizationRevalidations`, the queries that timed out and have not settled, the number
of checks and how far they are. `answers` tells what the queries have said about the checks. -/
structure Queries where
  active : ℕ
  retained : ℕ
  jobs : ℕ
  checking : Checking
  answers : List (ℕ × Bool)

/-- What the batch query settles with; a rejection may be a deadline of its own. -/
inductive BatchOutcome where
  | results (values : List Bool)
  | rejected (isDeadline : Bool)
  deriving DecidableEq, Repr

inductive QueryEvent where
  | batchSettles (outcome : BatchOutcome)
  | batchExpires
  | fallsBack
  | settles (position : ℕ) (value : Option Bool)
  | expires (position : ℕ)
  | proceeds (position : ℕ)
  | joins
  | retainedSettles
  deriving DecidableEq, Repr

namespace Queries

def new : Queries := ⟨0, 0, 0, .checked fun _ => none, []⟩

def check (q : Queries) (jobs : ℕ) : Queries :=
  if jobs = 0 then { q with jobs, checking := .checked fun _ => none, answers := [] }
  else if q.active ≥ authorizationRevalidationConcurrency then
    { q with jobs, checking := .falling, answers := [] }
  else { q with active := q.active + 1, jobs, checking := .waiting, answers := [] }

/-- A batch that ran into its deadline fails every check. -/
def rejections (jobs index : ℕ) : Option Outcome :=
  if index < jobs then some .rejected else none

def outcomeOf : Option Bool → Outcome
  | some value => .fulfilled value
  | none => .rejected

/-- The first queries of the workers find the places that are left. -/
def fallBack (q : Queries) : Queries :=
  let admitted := min (authorizationRevalidationConcurrency - q.active)
    (min authorizationRevalidationConcurrency q.jobs)
  { q with
    active := q.active + admitted
    checking := .fallback (WorkerPool.start authorizationRevalidationConcurrency q.jobs fun index =>
      if index < admitted then none else some .rejected) }

/-- The query of a worker has its outcome. -/
def decided (pool : FallbackPool) (position index : ℕ) (outcome : Outcome) : Checking :=
  .fallback { pool with running := pool.running.set position (index, some outcome) }

def step (q : Queries) : QueryEvent → Option Queries
  | .batchSettles outcome =>
    match q.checking with
    | .waiting =>
      let released := { q with active := q.active - 1 }
      match outcome with
      | .rejected true => some { released with checking := .checked (rejections q.jobs) }
      | .rejected false => some { released with checking := .falling }
      | .results values =>
        if values.length ≠ q.jobs then some { released with checking := .falling }
        else some { released with
          checking := .checked fun index => values[index]?.map .fulfilled
          answers := (List.range q.jobs).zip values }
    | _ => none
  | .batchExpires =>
    match q.checking with
    | .waiting => some { q with
        retained := q.retained + 1
        checking := .checked (rejections q.jobs) }
    | _ => none
  | .fallsBack =>
    match q.checking with
    | .falling => some q.fallBack
    | _ => none
  | .settles position value =>
    match q.checking with
    | .fallback pool =>
      match pool.running[position]? with
      | some (index, none) => some { q with
          active := q.active - 1
          checking := decided pool position index (outcomeOf value)
          answers := value.toList.map (fun value => (index, value)) ++ q.answers }
      | _ => none
    | _ => none
  | .expires position =>
    match q.checking with
    | .fallback pool =>
      match pool.running[position]? with
      | some (index, none) => some { q with
          retained := q.retained + 1
          checking := decided pool position index .rejected }
      | _ => none
    | _ => none
  | .proceeds position =>
    match q.checking with
    | .fallback pool =>
      match pool.running[position]? with
      | some (_, some outcome) =>
        let admitted := decide (q.active < authorizationRevalidationConcurrency)
        (WorkerPool.finish q.jobs pool position outcome
          (if admitted then none else some .rejected)).map fun next =>
            { q with
              active := if pool.next < q.jobs ∧ admitted = true then q.active + 1 else q.active
              checking := .fallback next }
      | _ => none
    | _ => none
  | .joins =>
    match q.checking with
    | .fallback pool =>
      if pool.running = [] then
        some { q with checking := .checked fun index => pool.done.lookup index }
      else none
    | _ => none
  | .retainedSettles =>
    if q.retained = 0 then none
    else some { q with active := q.active - 1, retained := q.retained - 1 }

end Queries

section Sound

/-- The queries that are waited for. -/
def Checking.awaited : Checking → ℕ
  | .waiting => 1
  | .fallback pool => pool.running.countP fun job => job.2.isNone
  | _ => 0

/-- A result that lets its subject pass was answered for its own check. -/
def Checking.Answered (answers : List (ℕ × Bool)) (jobs : ℕ) : Checking → Prop
  | .fallback pool => WorkerPool.Fair jobs authorizationRevalidationConcurrency pool ∧
      (∀ index value, (index, Outcome.fulfilled value) ∈ pool.done → (index, value) ∈ answers) ∧
      ∀ index value, (index, some (Outcome.fulfilled value)) ∈ pool.running →
        (index, value) ∈ answers
  | .checked results => ∀ index < jobs, ∃ outcome, results index = some outcome ∧
      ∀ value, outcome = .fulfilled value → (index, value) ∈ answers
  | _ => True

structure Queries.Sound (q : Queries) : Prop where
  counted : q.active = q.retained + q.checking.awaited
  limit : q.active ≤ authorizationRevalidationConcurrency
  answered : q.checking.Answered q.answers q.jobs

variable {q q' : Queries}

theorem sound_new : Queries.new.Sound :=
  ⟨rfl, Nat.zero_le _, fun _ hindex => absurd hindex (Nat.not_lt_zero _)⟩

/-- Checks begin once nothing is waited for any more. -/
theorem Queries.Sound.check (h : q.Sound) (hidle : q.checking.awaited = 0) (jobs : ℕ) :
    (q.check jobs).Sound := by
  have hcounted := h.counted
  rw [hidle] at hcounted
  unfold Queries.check
  split_ifs with hnone hfull
  · refine ⟨hcounted, h.limit, fun index hindex => ?_⟩
    rw [hnone] at hindex
    exact absurd hindex (Nat.not_lt_zero _)
  · exact ⟨hcounted, h.limit, trivial⟩
  · refine ⟨?_, Nat.lt_of_not_ge hfull, trivial⟩
    dsimp only [Checking.awaited]
    omega

theorem countP_set {α : Type*} {p : α → Bool} {xs : List α} {position : ℕ} {old : α}
    (h : xs[position]? = some old) (value : α) :
    (xs.set position value).countP p + (if p old then 1 else 0) =
      xs.countP p + if p value then 1 else 0 := by
  have hperm := (WorkerPool.perm_set h value).countP_eq p
  rwa [List.countP_cons, List.countP_cons] at hperm

theorem countP_eraseIdx {α : Type*} {p : α → Bool} {xs : List α} {position : ℕ} {old : α}
    (h : xs[position]? = some old) :
    (xs.eraseIdx position).countP p + (if p old then 1 else 0) = xs.countP p := by
  have hperm := (WorkerPool.perm_eraseIdx h).countP_eq p
  rwa [List.countP_cons] at hperm

theorem countP_range_lt (count bound : ℕ) :
    (List.range count).countP (fun index => decide (index < bound)) = min bound count := by
  induction count with
  | zero => simp
  | succ count ih =>
    rw [List.range_succ, List.countP_append, ih, List.countP_singleton]
    split_ifs with hcount
    · simp only [decide_eq_true_eq] at hcount
      omega
    · simp only [decide_eq_true_eq] at hcount
      omega

theorem isNone_unless (sent : Prop) [Decidable sent] :
    (if sent then none else some Outcome.rejected).isNone = decide sent := by
  split_ifs with h
  · simp [h]
  · simp [h]

/-- As many of the first queries are sent as there are places left. -/
theorem Queries.Sound.fallBack (h : q.Sound) (hfalling : q.checking = .falling) :
    q.fallBack.Sound := by
  have hcounted := h.counted
  have hlimit := h.limit
  rw [hfalling] at hcounted
  simp only [Checking.awaited, Nat.add_zero] at hcounted
  unfold Queries.fallBack
  dsimp only
  generalize hadmitted : min (authorizationRevalidationConcurrency - q.active)
    (min authorizationRevalidationConcurrency q.jobs) = admitted
  have hfirst : admitted ≤ min authorizationRevalidationConcurrency q.jobs := by omega
  refine ⟨?_, ?_, WorkerPool.fair_start _, ?_, ?_⟩
  · simp only [Checking.awaited, WorkerPool.start, List.countP_map, Function.comp_def,
      isNone_unless, countP_range_lt]
    omega
  · dsimp only
    omega
  · intro index value hdone
    cases hdone
  · intro index value hrunning
    simp only [WorkerPool.start, List.mem_map, Prod.mk.injEq] at hrunning
    obtain ⟨job, -, -, houtcome⟩ := hrunning
    split_ifs at houtcome
    cases houtcome

theorem answered_zip {jobs : ℕ} {values : List Bool} (hlength : values.length = jobs) :
    (Checking.checked fun index => values[index]?.map .fulfilled).Answered
      ((List.range jobs).zip values) jobs := by
  intro index hindex
  have hvalue : values[index]? = some values[index] := List.getElem?_eq_getElem (by omega)
  refine ⟨.fulfilled values[index], by simp [hvalue], ?_⟩
  intro value hfulfilled
  cases hfulfilled
  rw [List.mem_iff_getElem?]
  refine ⟨index, ?_⟩
  simp [List.getElem?_zip_eq_some, hvalue, hindex]

theorem answered_rejections (answers : List (ℕ × Bool)) (jobs : ℕ) :
    (Checking.checked (Queries.rejections jobs)).Answered answers jobs := by
  intro index hindex
  refine ⟨.rejected, by simp [Queries.rejections, hindex], ?_⟩
  intro value hvalue
  cases hvalue

/-- A worker that waits for its query learns its outcome. -/
theorem Checking.Answered.decided {answers answers' : List (ℕ × Bool)} {jobs position index : ℕ}
    {pool : FallbackPool} {outcome : Outcome}
    (h : (Checking.fallback pool).Answered answers jobs)
    (hjob : pool.running[position]? = some (index, none))
    (hsub : ∀ answer ∈ answers, answer ∈ answers')
    (hanswer : ∀ value, outcome = .fulfilled value → (index, value) ∈ answers') :
    (Queries.decided pool position index outcome).Answered answers' jobs := by
  obtain ⟨hfair, hdone, hrunning⟩ := h
  refine ⟨⟨?_, hfair.next_le, ?_, ?_⟩, ?_, ?_⟩
  · dsimp only
    have hmove := (WorkerPool.perm_set hjob (index, some outcome)).map Prod.fst
    simp only [List.map_cons, List.perm_cons] at hmove
    exact (hmove.append_right _).trans hfair.taken
  · simpa using hfair.running_le
  · simpa using hfair.busy
  · exact fun other value hother => hsub _ (hdone other value hother)
  · intro other value hother
    rcases List.mem_or_eq_of_mem_set hother with hbefore | hsame
    · exact hsub _ (hrunning other value hbefore)
    · simp only [Prod.mk.injEq, Option.some.injEq] at hsame
      rw [hsame.1]
      exact hanswer value hsame.2.symm

theorem awaited_decided {pool : FallbackPool} {position index : ℕ} {outcome : Outcome}
    (hjob : pool.running[position]? = some (index, none)) :
    (Queries.decided pool position index outcome).awaited + 1 =
      (Checking.fallback pool).awaited := by
  have hcount := countP_set (p := fun job => job.2.isNone) hjob (index, some outcome)
  simpa [Checking.awaited, Queries.decided] using hcount

/-- A worker goes on with the next check, or leaves. -/
theorem Checking.Answered.proceeds {answers : List (ℕ × Bool)} {jobs position index : ℕ}
    {pool next : FallbackPool} {outcome : Outcome} {tag : Option Outcome}
    (h : (Checking.fallback pool).Answered answers jobs)
    (hjob : pool.running[position]? = some (index, some outcome))
    (hfinish : WorkerPool.finish jobs pool position outcome tag = some next)
    (htag : ∀ value, tag ≠ some (.fulfilled value)) :
    (Checking.fallback next).Answered answers jobs := by
  obtain ⟨hfair, hdone, hrunning⟩ := h
  obtain ⟨job, old, hold, hdone', hnext⟩ := WorkerPool.finish_eq_some hfinish
  rw [hjob] at hold
  cases hold
  refine ⟨hfair.finish hfinish, ?_, ?_⟩
  · intro other value hother
    rw [hdone', List.mem_cons] at hother
    rcases hother with hself | hbefore
    · simp only [Prod.mk.injEq] at hself
      rw [hself.1]
      apply hrunning
      rw [hself.2]
      exact List.mem_of_getElem? hjob
    · exact hdone other value hbefore
  · intro other value hother
    rcases hnext with ⟨-, -, hset⟩ | ⟨-, -, herase⟩
    · rw [hset] at hother
      rcases List.mem_or_eq_of_mem_set hother with hbefore | hself
      · exact hrunning other value hbefore
      · simp only [Prod.mk.injEq] at hself
        exact absurd hself.2.symm (htag value)
    · rw [herase] at hother
      exact hrunning other value (List.mem_of_mem_eraseIdx hother)

/-- A worker that goes on waits again if its next query is sent. -/
theorem awaited_proceeds {jobs position index : ℕ} {pool next : FallbackPool} {outcome : Outcome}
    {tag : Option Outcome} (hjob : pool.running[position]? = some (index, some outcome))
    (hfinish : WorkerPool.finish jobs pool position outcome tag = some next) :
    (Checking.fallback next).awaited = (Checking.fallback pool).awaited +
      if pool.next < jobs ∧ tag.isNone = true then 1 else 0 := by
  obtain ⟨job, old, hold, -, ⟨hmore, -, hset⟩ | ⟨hnone, -, herase⟩⟩ :=
    WorkerPool.finish_eq_some hfinish
  · have hcount := countP_set (p := fun job => job.2.isNone) hjob (pool.next, tag)
    simp only [Checking.awaited, hset, hmore, true_and]
    simpa using hcount
  · have hcount := countP_eraseIdx (p := fun job => job.2.isNone) hjob
    simp only [Checking.awaited, herase, Nat.not_lt.2 hnone, false_and, if_false]
    simpa using hcount

/-- The results are complete once every worker has left. -/
theorem Checking.Answered.joins {answers : List (ℕ × Bool)} {jobs : ℕ} {pool : FallbackPool}
    (h : (Checking.fallback pool).Answered answers jobs) (hleft : pool.running = []) :
    (Checking.checked fun index => pool.done.lookup index).Answered answers jobs := by
  obtain ⟨hfair, hdone, -⟩ := h
  have hall := hfair.ended (by decide) hleft
  intro index hindex
  have hmem : index ∈ pool.done.map Prod.fst := hall.mem_iff.2 (List.mem_range.2 hindex)
  cases hlookup : pool.done.lookup index with
  | none =>
    obtain ⟨⟨other, outcome⟩, hentry, hother⟩ := List.mem_map.1 hmem
    rw [List.lookup_eq_none_iff] at hlookup
    have hne := hlookup _ hentry
    simp [← hother] at hne
  | some outcome =>
    refine ⟨outcome, hlookup, fun value hvalue => hdone index value ?_⟩
    obtain ⟨before, after, hsplit, -⟩ := List.lookup_eq_some_iff.1 hlookup
    rw [hsplit, hvalue]
    simp

theorem Queries.Sound.step {event : QueryEvent} (h : q.Sound) (hstep : q.step event = some q') :
    q'.Sound := by
  have hcounted := h.counted
  have hlimit := h.limit
  have hanswered := h.answered
  unfold Queries.step at hstep
  cases event with
  | batchSettles outcome =>
    dsimp only at hstep
    split at hstep
    · rename_i hwaiting
      rw [hwaiting] at hcounted
      simp only [Checking.awaited] at hcounted
      have hreleased : q.active - 1 = q.retained + 0 := by omega
      have hless : q.active - 1 ≤ authorizationRevalidationConcurrency := by omega
      split at hstep
      · cases hstep
        exact ⟨hreleased, hless, answered_rejections _ _⟩
      · cases hstep
        exact ⟨hreleased, hless, trivial⟩
      · split at hstep
        · cases hstep
          exact ⟨hreleased, hless, trivial⟩
        · rename_i hlength
          cases hstep
          exact ⟨hreleased, hless, answered_zip (not_not.1 hlength)⟩
    · cases hstep
  | batchExpires =>
    dsimp only at hstep
    split at hstep
    · rename_i hwaiting
      rw [hwaiting] at hcounted
      cases hstep
      exact ⟨hcounted, hlimit, answered_rejections _ _⟩
    · cases hstep
  | fallsBack =>
    dsimp only at hstep
    split at hstep
    · rename_i hfalling
      cases hstep
      exact h.fallBack hfalling
    · cases hstep
  | settles position value =>
    dsimp only at hstep
    split at hstep
    · rename_i pool hfallback
      rw [hfallback] at hcounted hanswered
      split at hstep
      · rename_i index hjob
        have hawaited := @awaited_decided pool position index (outcomeOf value) hjob
        cases hstep
        refine ⟨?_, ?_, hanswered.decided hjob ?_ ?_⟩
        · dsimp only
          omega
        · dsimp only
          omega
        · exact fun answer hbefore => List.mem_append_right _ hbefore
        · intro other houtcome
          cases value with
          | none => cases houtcome
          | some given =>
            cases houtcome
            simp
      · cases hstep
    · cases hstep
  | expires position =>
    dsimp only at hstep
    split at hstep
    · rename_i pool hfallback
      rw [hfallback] at hcounted hanswered
      split at hstep
      · rename_i index hjob
        have hawaited := @awaited_decided pool position index .rejected hjob
        cases hstep
        refine ⟨?_, hlimit, hanswered.decided hjob (fun _ => id) ?_⟩
        · dsimp only
          omega
        · intro other houtcome
          cases houtcome
      · cases hstep
    · cases hstep
  | proceeds position =>
    dsimp only at hstep
    split at hstep
    · rename_i pool hfallback
      rw [hfallback] at hcounted hanswered
      split at hstep
      · rename_i index outcome hjob
        obtain ⟨next, hfinish, rfl⟩ := Option.map_eq_some_iff.1 hstep
        have hawaited := awaited_proceeds hjob hfinish
        simp only [isNone_unless, decide_eq_true_eq] at hawaited
        simp only [decide_eq_true_eq]
        refine ⟨?_, ?_, hanswered.proceeds hjob hfinish ?_⟩
        · dsimp only
          rw [hawaited]
          split_ifs
          · omega
          · exact hcounted
        · dsimp only
          split_ifs with hsent
          · exact hsent.2
          · exact hlimit
        · intro value htag
          split_ifs at htag
          cases htag
      · cases hstep
    · cases hstep
  | joins =>
    dsimp only at hstep
    split at hstep
    · rename_i pool hfallback
      rw [hfallback] at hcounted hanswered
      split_ifs at hstep with hleft
      cases hstep
      refine ⟨?_, hlimit, hanswered.joins hleft⟩
      simpa [Checking.awaited, hleft] using hcounted
    · cases hstep
  | retainedSettles =>
    dsimp only at hstep
    split_ifs at hstep
    cases hstep
    refine ⟨?_, ?_, hanswered⟩
    · dsimp only
      omega
    · dsimp only
      omega

end Sound

end Lotur.Gateway.Revalidation
