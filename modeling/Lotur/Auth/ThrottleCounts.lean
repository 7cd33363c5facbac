import Lotur.Auth.ThrottleTable

/-! How many throttles are stored, and how many failures each counts, over any sequence of calls. -/
namespace Lotur.Auth

/-- Neighbouring failures count together while they are less than the window apart. -/
def Near (newer older : ℤ) : Prop := newer - older < Repository.loginFailureWindowMs

/-- The longest run of the most recent times, the newest first. -/
structure LongestRun (times : List ℤ) (failures : ℕ) : Prop where
  fits : failures ≤ times.length
  near : (times.take failures).IsChain Near
  longest : ∀ length ≤ times.length, (times.take length).IsChain Near → length ≤ failures

namespace LongestRun

variable {now time : ℤ} {older : List ℤ} {failures : ℕ}

theorem one (h : ∀ time ∈ older.head?, ¬ Near now time) : LongestRun (now :: older) 1 := by
  refine ⟨Nat.le_add_left _ _, List.isChain_singleton now, fun length hfits hnear => ?_⟩
  cases length with
  | zero => exact Nat.zero_le 1
  | succ length =>
    cases length with
    | zero => exact le_rfl
    | succ length =>
      cases older with
      | nil => simp at hfits
      | cons time older =>
        rw [List.take_succ_cons, List.take_succ_cons, List.isChain_cons_cons] at hnear
        exact absurd hnear.1 (h time rfl)

theorem cons (h : LongestRun (time :: older) failures) (hnear : Near now time) :
    LongestRun (now :: time :: older) (failures + 1) := by
  have hpos : 1 ≤ failures :=
    h.longest 1 (Nat.le_add_left _ _) (List.isChain_singleton time)
  obtain ⟨rest, rfl⟩ := Nat.exists_eq_add_of_le' hpos
  refine ⟨Nat.succ_le_succ h.fits, ?_, fun length hfits hchain => ?_⟩
  · have htail := h.near
    rw [List.take_succ_cons] at htail
    rw [List.take_succ_cons, List.take_succ_cons, List.isChain_cons_cons]
    exact ⟨hnear, htail⟩
  · cases length with
    | zero => exact Nat.zero_le _
    | succ length =>
      refine Nat.succ_le_succ (h.longest length (Nat.le_of_succ_le_succ hfits) ?_)
      exact hchain.tail

end LongestRun

inductive ThrottleCall where
  | recordLoginFailure (placement : Placement) (failure : LoginFailure)
  | deleteLoginThrottles (keys : List JsString)

def ThrottleCall.failure : ThrottleCall → Option LoginFailure
  | .recordLoginFailure _ failure => some failure
  | .deleteLoginThrottles _ => none

/-- The repository with the times of the failures recorded for each key since its last deletion, the
newest first. -/
structure ThrottleLog where
  repository : Repository
  recorded : JsString → List ℤ

namespace ThrottleLog

def step (backend : Backend) (log : ThrottleLog) : ThrottleCall → ThrottleLog
  | .recordLoginFailure placement failure =>
    let (result, repository) := log.repository.recordLoginFailure backend placement failure
    { repository
      recorded := fun key =>
        if result.throttles.any fun throttle => throttle.key = key then
          failure.now :: log.recorded key
        else log.recorded key }
  | .deleteLoginThrottles keys =>
    { repository := log.repository.deleteLoginThrottles keys
      recorded := fun key => if key ∈ keys then [] else log.recorded key }

def run (backend : Backend) (log : ThrottleLog) (calls : List ThrottleCall) : ThrottleLog :=
  calls.foldl (step backend) log

/-- No throttle is stored yet. -/
def start (r : Repository) : ThrottleLog := ⟨{ r with loginThrottles := [] }, fun _ => []⟩

variable {backend : Backend} {limits : LoginThrottleLimits} {log : ThrottleLog} {now : ℤ}
  {call : ThrottleCall} {calls : List ThrottleCall}

/-- The table holds one row for a key, and no more rows than there is room for. -/
structure Bounded (limits : LoginThrottleLimits) (log : ThrottleLog) : Prop where
  nodup : (log.repository.loginThrottles.map LoginThrottle.key).Nodup
  size : log.repository.loginThrottles.length ≤ limits.global

theorem Bounded.step (h : Bounded limits log)
    (hlimits : ∀ failure ∈ call.failure, failure.limits = limits) :
    Bounded limits (log.step backend call) := by
  cases call with
  | recordLoginFailure placement failure =>
    obtain ⟨result, hresult⟩ : ∃ result,
      result = log.repository.recordLoginFailure backend placement failure := ⟨_, rfl⟩
    have hrecording := Repository.recordLoginFailure_recording h.nodup hresult.symm
    have hsize := hrecording.size
    rw [hlimits failure rfl] at hsize
    rw [ThrottleLog.step, ← hresult]
    exact ⟨hrecording.nodup, hsize h.size⟩
  | deleteLoginThrottles keys =>
    exact ⟨Repository.nodup_deleteLoginThrottles keys h.nodup, (List.length_filter_le _ _).trans h.size⟩

theorem Bounded.run (h : Bounded limits log)
    (hlimits : ∀ call ∈ calls, ∀ failure ∈ call.failure, failure.limits = limits) :
    Bounded limits (log.run backend calls) := by
  induction calls generalizing log with
  | nil => exact h
  | cons call calls ih =>
    rw [List.forall_mem_cons] at hlimits
    exact ih (h.step hlimits.1) hlimits.2

/-- Each stored throttle counts the recent failures of its key, and what is no longer stored has
fallen out of the window. -/
structure Exact (now : ℤ) (log : ThrottleLog) : Prop where
  nodup : (log.repository.loginThrottles.map LoginThrottle.key).Nodup
  stored : ∀ key throttle,
    Table.get LoginThrottle.key log.repository.loginThrottles key = some throttle →
      throttle.updatedAt ≤ now ∧ (log.recorded key).head? = some throttle.updatedAt ∧
        LongestRun (log.recorded key) throttle.failures
  forgotten : ∀ key, Table.get LoginThrottle.key log.repository.loginThrottles key = none →
    ∀ time ∈ (log.recorded key).head?, ¬ Near now time

theorem exact_start (r : Repository) (now : ℤ) : Exact now (start r) :=
  ⟨List.nodup_nil, nofun, nofun⟩

theorem Exact.mono {later : ℤ} (h : Exact now log) (hle : now ≤ later) : Exact later log := by
  refine ⟨h.nodup, fun key throttle hget => ?_, fun key hnone time htime hnear => ?_⟩
  · obtain ⟨hupdated, hrest⟩ := h.stored key throttle hget
    exact ⟨hupdated.trans hle, hrest⟩
  · exact h.forgotten key hnone time htime ((sub_le_sub_right hle time).trans_lt hnear)

/-- What is no longer stored, or stale, counts anew. -/
theorem Exact.renewed {failure : LoginFailure} {key : JsString} (h : Exact failure.now log)
    (hwindow : failure.windowStartsAt = failure.now - Repository.loginFailureWindowMs)
    (hstale : ∀ stored,
      Table.get LoginThrottle.key log.repository.loginThrottles key = some stored →
        stored.updatedAt ≤ failure.windowStartsAt) :
    ∀ time ∈ (log.recorded key).head?, ¬ Near failure.now time := by
  intro time htime hnear
  cases hget : Table.get LoginThrottle.key log.repository.loginThrottles key with
  | none => exact h.forgotten key hget time htime hnear
  | some stored =>
    have hold := hstale stored hget
    have hhead := (h.stored key stored hget).2.1
    rw [Option.mem_def, hhead, Option.some.injEq] at htime
    unfold Near at hnear
    omega

/-- A failure that is counted for a key extends its run, or begins a new one. -/
theorem Exact.counted {failure : LoginFailure} {key : JsString} {row : LoginThrottle}
    (h : Exact failure.now log)
    (hwindow : failure.windowStartsAt = failure.now - Repository.loginFailureWindowMs)
    (hrow : (∃ stored, Table.get LoginThrottle.key log.repository.loginThrottles key = some stored ∧
        row = failure.throttle (some stored) key) ∨
      row = failure.throttle none key ∧ ∀ stored,
        Table.get LoginThrottle.key log.repository.loginThrottles key = some stored →
          stored.updatedAt ≤ failure.windowStartsAt) :
    LongestRun (failure.now :: log.recorded key) row.failures := by
  rcases hrow with ⟨stored, hget, rfl⟩ | ⟨rfl, hstale⟩
  · obtain ⟨-, hhead, hrun⟩ := h.stored key stored hget
    by_cases hlive : failure.windowStartsAt < stored.updatedAt
    · have hcount : (failure.throttle (some stored) key).failures = stored.failures + 1 :=
        if_pos hlive
      obtain ⟨older, holder⟩ := List.head?_eq_some_iff.1 hhead
      rw [hcount, holder]
      rw [holder] at hrun
      refine hrun.cons ?_
      unfold Near
      omega
    · have hcount : (failure.throttle (some stored) key).failures = 1 := if_neg hlive
      rw [hcount]
      refine .one fun time htime hnear => ?_
      rw [Option.mem_def, hhead, Option.some.injEq] at htime
      unfold Near at hnear
      omega
  · exact .one (h.renewed hwindow hstale)

theorem Exact.record {failure : LoginFailure} (h : Exact failure.now log) (placement : Placement)
    (hwindow : failure.windowStartsAt = failure.now - Repository.loginFailureWindowMs) :
    Exact failure.now (log.step backend (.recordLoginFailure placement failure)) := by
  obtain ⟨result, hresult⟩ : ∃ result,
    result = log.repository.recordLoginFailure backend placement failure := ⟨_, rfl⟩
  have hrecording := Repository.recordLoginFailure_recording h.nodup hresult.symm
  have hstep : log.step backend (.recordLoginFailure placement failure) =
      { repository := result.2
        recorded := fun key =>
          if result.1.throttles.any fun throttle => throttle.key = key then
            failure.now :: log.recorded key
          else log.recorded key } := by
    rw [hresult]
    rfl
  have hcount : ∀ key, (∃ row ∈ result.1.throttles, row.key = key) →
      (result.1.throttles.any fun throttle => throttle.key = key) = true := by
    rintro key ⟨row, hrow, hkey⟩
    exact List.any_eq_true.2 ⟨row, hrow, decide_eq_true hkey⟩
  have hskip : ∀ key, (¬ ∃ row ∈ result.1.throttles, row.key = key) →
      ¬ (result.1.throttles.any fun throttle => throttle.key = key) = true := by
    intro key hnone hany
    obtain ⟨row, hrow, hkey⟩ := List.any_eq_true.1 hany
    exact hnone ⟨row, hrow, of_decide_eq_true hkey⟩
  rw [hstep]
  refine ⟨hrecording.nodup, fun key throttle hget => ?_, fun key hnone => ?_⟩
  · dsimp only
    by_cases hmem : ∃ row ∈ result.1.throttles, row.key = key
    · rw [if_pos (hcount key hmem)]
      obtain ⟨row, hrow, rfl⟩ := hmem
      obtain ⟨-, hstored, hrowEq⟩ := hrecording.counted row hrow
      obtain rfl : row = throttle := Option.some.inj (hstored.symm.trans hget)
      have hupdated : row.updatedAt = failure.now := by
        rcases hrowEq with ⟨stored, -, heq⟩ | ⟨heq, -⟩
        · rw [heq]
          rfl
        · rw [heq]
          rfl
      exact ⟨hupdated.le, congrArg some hupdated.symm, h.counted hwindow hrowEq⟩
    · rw [if_neg (hskip key hmem)]
      rcases hrecording.uncounted key fun row hrow hkey => hmem ⟨row, hrow, hkey⟩ with
        hsame | ⟨hgone, -⟩
      · exact h.stored key throttle (hsame.symm.trans hget)
      · rw [hgone] at hget
        cases hget
  · dsimp only
    by_cases hmem : ∃ row ∈ result.1.throttles, row.key = key
    · obtain ⟨row, hrow, rfl⟩ := hmem
      rw [(hrecording.counted row hrow).2.1] at hnone
      cases hnone
    · rw [if_neg (hskip key hmem)]
      refine h.renewed hwindow ?_
      rcases hrecording.uncounted key fun row hrow hkey => hmem ⟨row, hrow, hkey⟩ with
        hsame | ⟨-, hstale⟩
      · intro stored hstored
        rw [← hsame, hnone] at hstored
        cases hstored
      · exact hstale

theorem Exact.delete (h : Exact now log) (keys : List JsString) :
    Exact now (log.step backend (.deleteLoginThrottles keys)) := by
  refine ⟨Repository.nodup_deleteLoginThrottles keys h.nodup, fun key throttle hget => ?_,
    fun key hnone => ?_⟩
  · by_cases hkey : key ∈ keys
    · rw [ThrottleLog.step, Repository.get_deleteLoginThrottles_mem hkey] at hget
      cases hget
    · rw [ThrottleLog.step, Repository.get_deleteLoginThrottles_ne hkey] at hget
      simp only [ThrottleLog.step, if_neg hkey]
      exact h.stored key throttle hget
  · by_cases hkey : key ∈ keys
    · simp only [ThrottleLog.step, if_pos hkey]
      nofun
    · rw [ThrottleLog.step, Repository.get_deleteLoginThrottles_ne hkey] at hnone
      simp only [ThrottleLog.step, if_neg hkey]
      exact h.forgotten key hnone

/-- The calls come in the order of their times, with the window that belongs to each. -/
structure Ordered (calls : List ThrottleCall) : Prop where
  times : (calls.filterMap fun call => call.failure.map LoginFailure.now).Pairwise (· ≤ ·)
  windows : ∀ call ∈ calls, ∀ failure ∈ call.failure,
    failure.windowStartsAt = failure.now - Repository.loginFailureWindowMs

theorem Exact.run (h : Exact now log) (hcalls : Ordered calls)
    (hlater : ∀ call ∈ calls, ∀ failure ∈ call.failure, now ≤ failure.now) :
    ∃ later, Exact later (log.run backend calls) := by
  induction calls generalizing log now with
  | nil => exact ⟨now, h⟩
  | cons call calls ih =>
    rw [List.forall_mem_cons] at hlater
    have hwindows := List.forall_mem_cons.1 hcalls.windows
    cases call with
    | recordLoginFailure placement failure =>
      have htimes := List.pairwise_cons.1 hcalls.times
      refine ih ((h.mono (hlater.1 failure rfl)).record placement (hwindows.1 failure rfl))
        ⟨htimes.2, hwindows.2⟩ fun call hcall next hnext => htimes.1 _ ?_
      exact List.mem_filterMap.2 ⟨call, hcall, Option.map_eq_some_iff.2 ⟨next, hnext, rfl⟩⟩
    | deleteLoginThrottles keys =>
      exact ih (h.delete keys) ⟨hcalls.times, hwindows.2⟩ hlater.2

theorem exact_run (r : Repository) (hcalls : Ordered calls) :
    ∃ now, Exact now ((start r).run backend calls) := by
  cases htimes : calls.filterMap fun call => call.failure.map LoginFailure.now with
  | nil =>
    refine (exact_start r 0).run hcalls fun call hcall failure hfailure => ?_
    have hmem : failure.now ∈ calls.filterMap fun call => call.failure.map LoginFailure.now :=
      List.mem_filterMap.2 ⟨call, hcall, Option.map_eq_some_iff.2 ⟨failure, hfailure, rfl⟩⟩
    rw [htimes] at hmem
    cases hmem
  | cons first times =>
    refine (exact_start r first).run hcalls fun call hcall failure hfailure => ?_
    have hmem : failure.now ∈ calls.filterMap fun call => call.failure.map LoginFailure.now :=
      List.mem_filterMap.2 ⟨call, hcall, Option.map_eq_some_iff.2 ⟨failure, hfailure, rfl⟩⟩
    have hsorted := hcalls.times
    rw [htimes] at hmem hsorted
    rcases List.mem_cons.1 hmem with heq | hrest
    · exact heq.ge
    · exact (List.pairwise_cons.1 hsorted).1 _ hrest

end ThrottleLog

end Lotur.Auth
