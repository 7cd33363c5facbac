import Lotur.Auth.ThrottleCounts
import Lotur.Library.InterleavingTrace

/-! Login attempts in any interleaving: what a recorded lock does to the attempts that read it. -/
namespace Lotur.Auth
open Interleaving

/-- An attempt takes its time when it starts. -/
structure LoginAttempt where
  input : Credentials
  now : ℤ
  knownAccount : Option Account

namespace LoginAttempt

def program (service : AuthService) (attempt : LoginAttempt) : AuthM (Account × Fresh) :=
  service.verifyCredentials attempt.input attempt.now attempt.knownAccount

def throttleIdentity (service : AuthService) (attempt : LoginAttempt) : JsString :=
  (match attempt.knownAccount with
    | some account => some account.username
    | none => (normalizeUsername service.toLowerCase attempt.input.username).toOption).getD
      (JsString.ofAscii "invalid:" ++ (service.toLowerCase attempt.input.username.trim).take 64)

def throttleKeys (service : AuthService) (attempt : LoginAttempt) : List JsString :=
  [service.throttleKey "identity" (attempt.throttleIdentity service),
    service.throttleKey "remote" attempt.input.remoteAddress]

/-- The failure that an attempt records. -/
def failure (service : AuthService) (attempt : LoginAttempt) : LoginFailure where
  keys := attempt.throttleKeys service
  now := attempt.now
  windowStartsAt := attempt.now - Repository.loginFailureWindowMs
  lockThreshold := loginLockThreshold
  lockedUntil := attempt.now + loginLockMs
  limits := service.loginThrottleLimits

/-- The attempt reads a throttle that is locked at its time. -/
def lockedRead (attempt : LoginAttempt) : Event Reply → Bool
  | ⟨.getLoginThrottle _, reply⟩ => AuthService.isLocked reply.value attempt.now
  | _ => false

end LoginAttempt

/-- An attempt makes the call only with the answer of the password verifier. -/
def Query.followsVerifier : Query → Bool
  | .recordLoginFailure _ => true
  | .deleteLoginThrottles _ => true
  | _ => false

abbrev AttemptSystem := System Reply AuthError LoginAttempt (Account × Fresh) Repository
abbrev AttemptEntry := Entry Reply LoginAttempt

namespace LoginAttempt

def step (service : AuthService) (backend : Backend) :
    AttemptSystem → Label LoginAttempt Choice → Option AttemptSystem :=
  Interleaving.step (program service) (handle backend)

def start (r : Repository) : AttemptSystem := ⟨r, [], []⟩

def log (service : AuthService) (backend : Backend) (r : Repository)
    (schedule : List (Label LoginAttempt Choice)) : List AttemptEntry :=
  trace (program service) (handle backend) (start r) schedule

/-- What the attempts ask, and how an attempt ends that has read a lock. -/
def throttling (service : AuthService) :
    Spec Reply AuthError LoginAttempt (Account × Fresh) Repository where
  inv r := (r.loginThrottles.map LoginThrottle.key).Nodup
  seen _ _ := True
  rely _ := True
  asks attempt history
    | .findAccountByUsername _ => True
    | .getLoginThrottle _ => True
    | .recordLoginFailure failure => failure = attempt.failure service ∧
        ∀ event ∈ history, attempt.lockedRead event = false
    | .deleteLoginThrottles keys => keys = attempt.throttleKeys service ∧
        ∀ event ∈ history, attempt.lockedRead event = false
    | _ => False
  ends attempt history result := (∃ event ∈ history, attempt.lockedRead event = true) →
    (∃ message, result = .error ⟨.loginThrottled, message⟩) ∧
      ∀ event ∈ history, event.1.followsVerifier = false

variable {service : AuthService} {backend : Backend} {attempt : LoginAttempt}

theorem loginAccount_follows {ends : List (Event Reply) → Except AuthError (Option Account) → Prop}
    (username : Option JsString) (knownAccount : Option Account)
    (h : ∀ history account, (∀ event ∈ history, ∃ username, event.1 = .findAccountByUsername username) →
      ends history (.ok account)) :
    (AuthService.loginAccount username knownAccount).Follows (throttling service).rely
      ((throttling service).asks attempt) ends [] := by
  cases knownAccount with
  | some account => exact h [] (some account) (List.forall_mem_nil _)
  | none =>
    cases username with
    | none => exact h [] none (List.forall_mem_nil _)
    | some username =>
      refine ⟨trivial, fun reply _ => h _ reply.value fun event hevent => ?_⟩
      rw [List.mem_singleton.1 hevent]
      exact ⟨username, rfl⟩

theorem ends_of_open {history : List (Event Reply)} {event : Event Reply}
    {result : Except AuthError (Account × Fresh)}
    (hopen : ∀ event ∈ history, attempt.lockedRead event = false)
    (hevent : attempt.lockedRead event = false) :
    (throttling service).ends attempt (event :: history) result := by
  rintro ⟨read, _ | ⟨_, hread⟩, htrue⟩
  · rw [hevent] at htrue
    cases htrue
  · rw [hopen read hread] at htrue
    cases htrue

theorem program_throttling (service : AuthService) (attempt : LoginAttempt) :
    (attempt.program service).Follows (throttling service).rely
      ((throttling service).asks attempt) ((throttling service).ends attempt) [] := by
  refine .bind (loginAccount_follows _ _ fun history account hhistory => ?_)
  dsimp only
  refine ⟨trivial, fun identity _ => ⟨trivial, fun remote _ => ?_⟩⟩
  have hfound : ∀ event ∈ history, attempt.lockedRead event = false ∧
      event.1.followsVerifier = false := by
    rintro ⟨query, reply⟩ hevent
    obtain ⟨username, rfl⟩ := hhistory _ hevent
    exact ⟨rfl, rfl⟩
  simp only [Program.bind]
  split_ifs with hlocked
  · refine fun _ => ⟨⟨_, rfl⟩, ?_⟩
    rintro event (_ | ⟨_, _ | ⟨_, hevent⟩⟩)
    · rfl
    · rfl
    · exact (hfound event hevent).2
  · rw [Bool.or_eq_true, not_or, Bool.not_eq_true, Bool.not_eq_true] at hlocked
    have hopen : ∀ event ∈ (⟨.getLoginThrottle _, remote⟩ : Event Reply) ::
        ⟨.getLoginThrottle _, identity⟩ :: history, attempt.lockedRead event = false := by
      rintro event (_ | ⟨_, _ | ⟨_, hevent⟩⟩)
      · exact hlocked.2
      · exact hlocked.1
      · exact (hfound event hevent).1
    generalize service.verify _ _ = passwordMatches
    cases account.filter fun account => account.enabled && passwordMatches with
    | none =>
      refine ⟨⟨rfl, hopen⟩, fun recorded _ => ?_⟩
      simp only [Program.bind]
      split_ifs
      · exact ends_of_open hopen rfl
      · exact ends_of_open hopen rfl
    | some found => exact ⟨⟨rfl, hopen⟩, fun deleted _ => ends_of_open hopen rfl⟩

theorem keeps_throttling (service : AuthService) (backend : Backend) :
    Keeps (handle backend) (throttling service) := by
  refine ⟨?_, fun _ _ _ => trivial, fun _ _ => ⟨trivial, trivial⟩⟩
  intro r attempt history query choice reply r' hinv hasks hhandle
  have hcall := handle_eq_some hhandle
  cases query with
  | findAccountByUsername username =>
    obtain rfl : r = r' := congrArg Prod.snd (Option.some.inj hcall)
    exact hinv
  | getLoginThrottle key =>
    obtain rfl : r = r' := congrArg Prod.snd (Option.some.inj hcall)
    exact hinv
  | recordLoginFailure failure =>
    exact (Repository.recordLoginFailure_recording hinv (Option.some.inj hcall)).nodup
  | deleteLoginThrottles keys =>
    obtain rfl : r.deleteLoginThrottles keys = r' := congrArg Prod.snd (Option.some.inj hcall)
    exact Repository.nodup_deleteLoginThrottles keys hinv
  | _ => exact hasks.elim

theorem start_throttling {r : Repository}
    (h : (r.loginThrottles.map LoginThrottle.key).Nodup) :
    Sound (throttling service) (start r) :=
  ⟨h, List.forall_mem_nil _, List.forall_mem_nil _⟩

end LoginAttempt

/-- The row of the key keeps a lock of the full length that began no earlier than `time`. -/
structure HeldLock (key : JsString) (time : ℤ) (r : Repository) (row : LoginThrottle) : Prop where
  stored : Table.get LoginThrottle.key r.loginThrottles key = some row
  updated : time ≤ row.updatedAt
  failures : loginLockThreshold ≤ row.failures
  locked : row.lockedUntil = some (row.updatedAt + loginLockMs)

variable {service : AuthService} {backend : Backend} {placement : Placement} {r r' : Repository}
  {key : JsString} {time lockedUntil : ℤ} {attempt : LoginAttempt} {row : LoginThrottle}
  {result : LoginThrottleRecordResult}

theorem failure_throttle_held {stored : Option LoginThrottle}
    (hget : Table.get LoginThrottle.key r.loginThrottles key =
      some ((attempt.failure service).throttle stored key))
    (hthreshold : loginLockThreshold ≤ ((attempt.failure service).throttle stored key).failures)
    (htime : time ≤ attempt.now) :
    HeldLock key time r ((attempt.failure service).throttle stored key) :=
  ⟨hget, htime, hthreshold, if_pos hthreshold⟩

/-- A failure that locks a key holds the lock from its own time on. -/
theorem held_of_locks (hkeys : (r.loginThrottles.map LoginThrottle.key).Nodup)
    (h : r.recordLoginFailure backend placement (attempt.failure service) = (result, r'))
    (hrow : row ∈ result.throttles) (hlocked : row.lockedUntil = some lockedUntil) :
    lockedUntil = attempt.now + loginLockMs ∧ ∃ held, HeldLock row.key attempt.now r' held := by
  have hrecording := Repository.recordLoginFailure_recording hkeys h
  obtain ⟨-, hget, hform⟩ := hrecording.counted row hrow
  have hof : ∃ stored, row = (attempt.failure service).throttle stored row.key := by
    rcases hform with ⟨stored, -, heq⟩ | ⟨heq, -⟩
    · exact ⟨some stored, heq⟩
    · exact ⟨none, heq⟩
  obtain ⟨stored, hstored⟩ := hof
  rw [hstored] at hlocked hget
  by_cases hthreshold :
      loginLockThreshold ≤ ((attempt.failure service).throttle stored row.key).failures
  · have huntil : some (attempt.now + loginLockMs) = some lockedUntil :=
      (if_pos hthreshold).symm.trans hlocked
    exact ⟨(Option.some.inj huntil).symm, _, failure_throttle_held hget hthreshold le_rfl⟩
  · have huntil : none = some lockedUntil := (if_neg hthreshold).symm.trans hlocked
    cases huntil

/-- Neither a failure of the key from before the lock, nor one from after its window. -/
def LoginAttempt.Timely (service : AuthService) (key : JsString) (time : ℤ)
    (attempt : LoginAttempt) : Prop :=
  (key ∈ attempt.throttleKeys service → time ≤ attempt.now) ∧
    attempt.now < time + Repository.loginFailureWindowMs

theorem HeldLock.record (hkeys : (r.loginThrottles.map LoginThrottle.key).Nodup)
    (hheld : HeldLock key time r row) (htimely : attempt.Timely service key time)
    (h : r.recordLoginFailure backend placement (attempt.failure service) = (result, r')) :
    ∃ held, HeldLock key time r' held := by
  have hrecording := Repository.recordLoginFailure_recording hkeys h
  have hlive : (attempt.failure service).windowStartsAt < row.updatedAt := by
    have hbefore := htimely.2
    have hafter := hheld.updated
    have hwindow : (attempt.failure service).windowStartsAt =
      attempt.now - Repository.loginFailureWindowMs := rfl
    omega
  by_cases hmem : key ∈ attempt.throttleKeys service
  · obtain ⟨counted, hcounted, rfl⟩ := hrecording.known key hmem row hheld.stored hlive
    obtain ⟨-, hget, ⟨stored, hstored, heq⟩ | ⟨-, hstale⟩⟩ := hrecording.counted counted hcounted
    · obtain rfl : stored = row := Option.some.inj (hstored.symm.trans hheld.stored)
      rw [heq] at hget
      have hmore : ((attempt.failure service).throttle (some stored) counted.key).failures =
          stored.failures + 1 := if_pos hlive
      have hthreshold := hheld.failures
      exact ⟨_, failure_throttle_held hget (by omega) (htimely.1 hmem)⟩
    · exact absurd (hstale row hheld.stored) (not_le.2 hlive)
  · have hskip : ∀ other ∈ result.throttles, other.key ≠ key := by
      rintro other hother rfl
      exact hmem (hrecording.counted other hother).1
    rcases hrecording.uncounted key hskip with hsame | ⟨-, hstale⟩
    · exact ⟨row, hsame.trans hheld.stored, hheld.updated, hheld.failures, hheld.locked⟩
    · exact absurd (hstale row hheld.stored) (not_le.2 hlive)

theorem HeldLock.delete {keys : List JsString} (hheld : HeldLock key time r row)
    (hkey : key ∉ keys) : HeldLock key time (r.deleteLoginThrottles keys) row := by
  refine ⟨?_, hheld.updated, hheld.failures, hheld.locked⟩
  rw [← hheld.stored]
  exact Repository.get_deleteLoginThrottles_ne hkey

/-- Whoever reads the held lock before it ends is locked out. -/
theorem HeldLock.isLocked {now : ℤ} (hheld : HeldLock key time r row)
    (hnow : now < time + loginLockMs) :
    AuthService.isLocked (Table.get LoginThrottle.key r.loginThrottles key) now = true := by
  have hupdated := hheld.updated
  have hwindow : loginLockMs < Repository.loginFailureWindowMs := by decide
  rw [hheld.stored]
  simp only [AuthService.isLocked, hheld.locked, Option.any_some, Bool.and_eq_true,
    decide_eq_true_eq]
  omega

/-- A failure was recorded that locks the key. -/
def locksKey (key : JsString) (lockedUntil : ℤ) : Event Reply → Bool
  | ⟨.recordLoginFailure _, reply⟩ => reply.value.throttles.any fun row =>
      row.key = key ∧ row.lockedUntil = some lockedUntil
  | _ => false

def deletesKey (key : JsString) : Event Reply → Bool
  | ⟨.deleteLoginThrottles keys, _⟩ => key ∈ keys
  | _ => false

def readsKey (key : JsString) : Event Reply → Bool
  | ⟨.getLoginThrottle read, _⟩ => read = key
  | _ => false

def recordsFailure : Event Reply → Bool
  | ⟨.recordLoginFailure _, _⟩ => true
  | _ => false

/-- From a failure that locks the key until its deletion, with no failure recorded in between but
`allowed` ones, every attempt that reads the key with its own time before the end of the lock reads
it as locked. -/
def LocksHold (allowed : JsString → ℤ → LoginAttempt → Prop) (log : List AttemptEntry) : Prop :=
  ∀ first locking between reading last key lockedUntil,
    log = first ++ locking :: (between ++ reading :: last) →
    locksKey key lockedUntil locking.event = true →
    (∀ entry ∈ between, deletesKey key entry.event = false) →
    (∀ entry ∈ between, recordsFailure entry.event = true →
      allowed key locking.operation.now entry.operation) →
    readsKey key reading.event = true → reading.operation.now < lockedUntil →
      reading.operation.lockedRead reading.event = true

/-- An attempt that has read a lock is refused without the password verifier. -/
structure LockedRefused (log : List AttemptEntry) (s : AttemptSystem) : Prop where
  answered : ∀ entry ∈ log, (∃ event ∈ entry.history, entry.operation.lockedRead event = true) →
    entry.event.1.followsVerifier = false
  asking : ∀ call ∈ s.calls, (∃ event ∈ call.history, call.operation.lockedRead event = true) →
    ∀ query next, call.program = .ask query next → query.followsVerifier = false
  finished : ∀ entry ∈ s.finished,
    (∃ event ∈ entry.history, entry.operation.lockedRead event = true) →
      (∃ message, entry.result = .error ⟨.loginThrottled, message⟩) ∧
        ∀ event ∈ entry.history, event.1.followsVerifier = false

namespace LoginAttempt

variable {schedule : List (Label LoginAttempt Choice)} {s mid mid' : AttemptSystem}
  {entry : AttemptEntry} {a : Label LoginAttempt Choice}

theorem followsVerifier_of_asks {history : List (Event Reply)} {query : Query}
    (h : (throttling service).asks attempt history query)
    (hlocked : ∃ event ∈ history, attempt.lockedRead event = true) :
    query.followsVerifier = false := by
  obtain ⟨event, hevent, htrue⟩ := hlocked
  cases query with
  | recordLoginFailure failure =>
    rw [h.2 event hevent] at htrue
    cases htrue
  | deleteLoginThrottles keys =>
    rw [h.2 event hevent] at htrue
    cases htrue
  | _ => rfl

theorem asked (hsound : Sound (throttling service) (start r))
    (hrun : Execution.run (step service backend) (start r) schedule = some s)
    (hentry : entry ∈ log service backend r schedule) :
    (throttling service).asks entry.operation entry.history entry.event.1 := by
  have hlogged : Logged [] (start r) := ⟨List.forall_mem_nil _, List.forall_mem_nil _⟩
  exact (trace_asked hsound (keeps_throttling service backend)
    (fun operation _ => program_throttling service operation) hlogged hrun hentry).1

/-- The entry that an answer leaves was answered by the store of its step. -/
theorem call_of_answered (hstep : step service backend mid a = some mid')
    (hentry : Interleaving.answered (handle backend) mid a = some entry) :
    ∃ choice : Choice, Repository.call backend choice.placement mid.store entry.event.1 =
      some (entry.event.2.value, mid'.store) := by
  rcases step_cases hstep with
    ⟨operation, call, rfl, -, -⟩ | ⟨⟨hanswered⟩⟩ | ⟨index, hnone, -⟩
  · cases hentry
  · obtain rfl := Option.some.inj (hanswered.entry.symm.trans hentry)
    rw [hanswered.store_eq]
    exact ⟨hanswered.choice, handle_eq_some hanswered.handled⟩
  · rw [hnone] at hentry
    cases hentry

/-- Between the lock and the read, every answer keeps the lock. -/
theorem held_between {between : List AttemptEntry}
    (hkeys : (mid.store.loginThrottles.map LoginThrottle.key).Nodup)
    (hheld : ∃ row, HeldLock key time mid.store row)
    (hrun : Execution.run (step service backend) mid schedule = some mid')
    (hbetween : trace (program service) (handle backend) mid schedule = between)
    (hasked : ∀ entry ∈ between,
      (throttling service).asks entry.operation entry.history entry.event.1)
    (hkept : ∀ entry ∈ between, deletesKey key entry.event = false)
    (htimely : ∀ entry ∈ between, recordsFailure entry.event = true →
      entry.operation.Timely service key time) :
    ∃ row, HeldLock key time mid'.store row := by
  subst hbetween
  have hstep : ∀ {r : Repository} {query choice} {reply : Reply query} {r' : Repository}
      operation history,
      ((r.loginThrottles.map LoginThrottle.key).Nodup ∧ ∃ row, HeldLock key time r row) →
      ((throttling service).asks operation history query ∧ deletesKey key ⟨query, reply⟩ = false ∧
        (recordsFailure ⟨query, reply⟩ = true → operation.Timely service key time)) →
      handle backend r query choice = some (reply, r') →
        (r'.loginThrottles.map LoginThrottle.key).Nodup ∧ ∃ row, HeldLock key time r' row := by
    rintro r query choice reply r' operation history ⟨hnodup, row, hrow⟩
      ⟨hasks, hdeletes, htimes⟩ hhandle
    refine ⟨(keeps_throttling service backend).store hnodup hasks hhandle, ?_⟩
    have hcall := handle_eq_some hhandle
    cases query with
    | findAccountByUsername username =>
      obtain rfl : r = r' := congrArg Prod.snd (Option.some.inj hcall)
      exact ⟨row, hrow⟩
    | getLoginThrottle read =>
      obtain rfl : r = r' := congrArg Prod.snd (Option.some.inj hcall)
      exact ⟨row, hrow⟩
    | recordLoginFailure failure =>
      obtain rfl : failure = operation.failure service := hasks.1
      exact hrow.record hnodup (htimes rfl) (Option.some.inj hcall)
    | deleteLoginThrottles keys =>
      obtain rfl : r.deleteLoginThrottles keys = r' := congrArg Prod.snd (Option.some.inj hcall)
      exact ⟨row, hrow.delete (of_decide_eq_false hdeletes)⟩
    | _ => exact hasks.elim
  have hallowed : ∀ entry ∈ trace (program service) (handle backend) mid schedule,
      (throttling service).asks entry.operation entry.history entry.event.1 ∧
        deletesKey key entry.event = false ∧
        (recordsFailure entry.event = true → entry.operation.Timely service key time) :=
    fun entry hentry => ⟨hasked entry hentry, hkept entry hentry, htimely entry hentry⟩
  have hstart : (fun r : Repository => (r.loginThrottles.map LoginThrottle.key).Nodup ∧
      ∃ row, HeldLock key time r row) mid.store := ⟨hkeys, hheld⟩
  exact (trace_keeps hstep hstart hrun hallowed).2

theorem locks_hold (hsound : Sound (throttling service) (start r))
    (hrun : Execution.run (step service backend) (start r) schedule = some s) :
    LocksHold (fun key time attempt => attempt.Timely service key time)
      (log service backend r schedule) := by
  intro first locking between reading last key lockedUntil hlog hlocks hkept htimely hreads hnow
  have hasked : ∀ entry ∈ first ++ locking :: (between ++ reading :: last),
      (throttling service).asks entry.operation entry.history entry.event.1 :=
    fun entry hentry => asked hsound hrun (hlog ▸ hentry)
  obtain ⟨before, a, after, old, new, -, hbefore, -, hstep, hlocking, hafter, hrest⟩ :=
    trace_split hrun hlog
  obtain ⟨middle, a', end', mid, mid', -, hmiddle, hbetween, hstep', hreading, -, -⟩ :=
    trace_split hafter hrest
  have hold : Sound (throttling service) old := hsound.run (keeps_throttling service backend)
    (fun operation _ => program_throttling service operation) hbefore
  have hheld : lockedUntil = locking.operation.now + loginLockMs ∧
      ∃ row, HeldLock key locking.operation.now new.store row := by
    obtain ⟨choice, hcall⟩ := call_of_answered hstep hlocking
    have hasks := hasked locking (by simp)
    obtain ⟨operation, history, ⟨query, reply⟩⟩ := locking
    cases query with
    | recordLoginFailure failure =>
      obtain ⟨row, hrow, hlocked⟩ := List.any_eq_true.1 hlocks
      obtain ⟨hkey, huntil⟩ := of_decide_eq_true hlocked
      subst hkey
      obtain rfl : failure = operation.failure service := hasks.1
      exact held_of_locks hold.store (Option.some.inj hcall) hrow huntil
    | _ => cases hlocks
  have hnodup : (new.store.loginThrottles.map LoginThrottle.key).Nodup :=
    (hold.step (keeps_throttling service backend)
      (fun operation _ => program_throttling service operation) hstep).store
  obtain ⟨row, hrow⟩ := held_between hnodup hheld.2 hmiddle hbetween
    (fun entry hentry => hasked entry (by simp [hentry])) hkept htimely
  obtain ⟨choice, hcall⟩ := call_of_answered hstep' hreading
  obtain ⟨operation, history, ⟨query, reply⟩⟩ := reading
  cases query with
  | getLoginThrottle read =>
    obtain rfl := of_decide_eq_true hreads
    have hvalue : Table.get LoginThrottle.key mid.store.loginThrottles read = reply.value :=
      congrArg Prod.fst (Option.some.inj hcall)
    rw [hheld.1] at hnow
    have hlocked := hrow.isLocked hnow
    rw [hvalue] at hlocked
    exact hlocked
  | _ => cases hreads

theorem locked_refused (hsound : Sound (throttling service) (start r))
    (hrun : Execution.run (step service backend) (start r) schedule = some s) :
    LockedRefused (log service backend r schedule) s := by
  have hend := hsound.run (keeps_throttling service backend)
    (fun operation _ => program_throttling service operation) hrun
  refine ⟨fun entry hentry => followsVerifier_of_asks (asked hsound hrun hentry),
    fun call hcall hlocked query next hprogram => ?_, hend.finished⟩
  have hfollows := (hend.calls call hcall).1
  rw [hprogram] at hfollows
  exact followsVerifier_of_asks hfollows.1 hlocked

end LoginAttempt

/-- Whatever is recorded and deleted, no more throttles are stored than the limit. -/
def ThrottlesBounded (backend : Backend) : Prop :=
  ∀ r limits calls, (∀ call ∈ calls, ∀ failure ∈ ThrottleCall.failure call,
    failure.limits = limits) →
    ((ThrottleLog.start r).run backend calls).repository.loginThrottles.length ≤ limits.global

/-- Each stored throttle counts the longest run of recent failures of its key. -/
def FailuresExact (backend : Backend) : Prop :=
  ∀ r calls, ThrottleLog.Ordered calls →
    ∀ throttle ∈ ((ThrottleLog.start r).run backend calls).repository.loginThrottles,
      LongestRun (((ThrottleLog.start r).run backend calls).recorded throttle.key)
        throttle.failures

/-- A failure is reported as recorded exactly when every key of it has been counted. -/
def CapacityReported (backend : Backend) : Prop :=
  ∀ (r : Repository) placement (failure : LoginFailure),
    (r.loginThrottles.map LoginThrottle.key).Nodup →
    ((r.recordLoginFailure backend placement failure).1.recorded = true ↔
      ∀ key ∈ failure.keys, ∃ row, row.updatedAt = failure.now ∧
        Table.get LoginThrottle.key
          (r.recordLoginFailure backend placement failure).2.loginThrottles key = some row ∧
        row ∈ (r.recordLoginFailure backend placement failure).1.throttles)

theorem throttlesBounded (backend : Backend) : ThrottlesBounded backend := by
  intro r limits calls hlimits
  have hstart : (ThrottleLog.start r).Bounded limits := ⟨List.nodup_nil, Nat.zero_le _⟩
  exact (hstart.run hlimits).size

theorem failuresExact (backend : Backend) : FailuresExact backend := by
  intro r calls hcalls throttle hthrottle
  obtain ⟨now, hexact⟩ : ∃ now, ((ThrottleLog.start r).run backend calls).Exact now :=
    ThrottleLog.exact_run r hcalls
  exact (hexact.stored throttle.key throttle (Table.get_of_mem hexact.nodup hthrottle)).2.2

theorem capacityReported (backend : Backend) : CapacityReported backend := by
  intro r placement failure hkeys
  have hrecording := Repository.recordLoginFailure_recording hkeys
    (rfl : r.recordLoginFailure backend placement failure = (_, _))
  refine hrecording.recorded.trans (forall₂_congr fun key _ => ⟨?_, ?_⟩)
  · rintro ⟨row, hrow, rfl⟩
    obtain ⟨-, hget, hform⟩ := hrecording.counted row hrow
    refine ⟨row, ?_, hget, hrow⟩
    rcases hform with ⟨stored, -, heq⟩ | ⟨heq, -⟩
    · rw [heq]
      rfl
    · rw [heq]
      rfl
  · rintro ⟨row, -, hget, hrow⟩
    exact ⟨row, hrow, (Table.get_some hget).2⟩

namespace LockedOut
open PasswordChange

def login (now : ℤ) : LoginAttempt := ⟨⟨[], [1], [7]⟩, now, none⟩

def reply (index : ℕ) : Label LoginAttempt Choice :=
  .answer index ⟨⟨fun _ => 0, fun _ => 0, fun _ => 0, fun _ => 0, fun _ => 0⟩, fresh 1⟩

/-- An attempt that fails, while `index` others are under way. -/
def fails (index : ℕ) (now : ℤ) : List (Label LoginAttempt Choice) :=
  [.start (login now), reply index, reply index, reply index]

def empty : Repository := (Lotur.Auth.start defaultAuditEventLimits).store

/-- Five failures lock the keys until 30005, and an attempt of 30004 is refused. -/
def lockedOut : List (Label LoginAttempt Choice) :=
  fails 0 1 ++ fails 0 2 ++ fails 0 3 ++ fails 0 4 ++ fails 0 5 ++
    [.start (login 30004), reply 0, reply 0]

/-- An attempt of time 0 has read the throttles before and records its failure after the lock. -/
def shortened : List (Label LoginAttempt Choice) :=
  [.start (login 0), reply 0, reply 0] ++
    fails 1 1 ++ fails 1 2 ++ fails 1 3 ++ fails 1 4 ++ fails 1 5 ++ [reply 0] ++ fails 0 30002

def code : Except AuthError (Account × Fresh) → Option AuthErrorCode
  | .ok _ => none
  | .error error => some error.code

end LockedOut

theorem eq_take_of_getElem? {α : Type} {values : List α} {i j : ℕ} {earlier later : α}
    (hij : i < j) (hi : values[i]? = some earlier) (hj : values[j]? = some later) :
    values = values.take i ++ earlier ::
      ((values.drop (i + 1)).take (j - (i + 1)) ++ later :: values.drop (j + 1)) := by
  obtain ⟨hilt, rfl⟩ := List.getElem?_eq_some_iff.1 hi
  obtain ⟨hjlt, rfl⟩ := List.getElem?_eq_some_iff.1 hj
  have hlater : j - (i + 1) < (values.drop (i + 1)).length := by
    rw [List.length_drop]
    omega
  have hrest : values.drop (i + 1) = (values.drop (i + 1)).take (j - (i + 1)) ++
      values[j] :: values.drop (j + 1) := by
    conv_lhs => rw [← List.take_append_drop (j - (i + 1)) (values.drop (i + 1)),
      List.drop_eq_getElem_cons hlater]
    rw [List.getElem_drop, List.drop_drop]
    congr 3
    all_goals omega
  rw [← hrest, ← List.drop_eq_getElem_cons hilt, List.take_append_drop]

end Lotur.Auth
