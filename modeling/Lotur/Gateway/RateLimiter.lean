import Lotur.Gateway.Admission
import Lotur.Library.Execution
import Lotur.Library.FixedWindows

/-! Runs of `createFixedWindowRateLimiter`: the calls of `admit` and those that were admitted. -/
namespace Lotur.Gateway

structure RateLimits where
  globalLimit : ℕ
  perKeyLimit : ℕ
  deriving DecidableEq, Repr

structure AdmitCall where
  checkedAt : ℕ
  key : Token
  deriving DecidableEq, Repr

/-- The admitted calls are kept newest first. -/
structure RateLog where
  limiter : FixedWindowRateLimiter
  admitted : List AdmitCall

namespace RateLog

def new (startedAt : ℕ) : RateLog := ⟨.new startedAt, []⟩

def step (limits : RateLimits) (s : RateLog) (call : AdmitCall) : Option RateLog :=
  let outcome := s.limiter.admit limits.globalLimit limits.perKeyLimit call.checkedAt call.key
  some ⟨outcome.1, if outcome.2 then call :: s.admitted else s.admitted⟩

end RateLog

namespace FixedWindowRateLimiter
variable (limiter : FixedWindowRateLimiter)

/-- The limiter after `admit` has looked at the clock. -/
def opened (checkedAt : ℕ) : FixedWindowRateLimiter :=
  if checkedAt - limiter.windowStartedAt ≥ 60000 then .new checkedAt else limiter

def counted (key : Token) : FixedWindowRateLimiter :=
  { limiter with
    globalCount := limiter.globalCount + 1
    keyCounts := Function.update limiter.keyCounts key (limiter.keyCounts key + 1) }

def isFull (limits : RateLimits) (key : Token) : Prop :=
  limiter.globalCount ≥ limits.globalLimit ∨ limiter.keyCounts key ≥ limits.perKeyLimit

theorem admit_eq (limits : RateLimits) (checkedAt : ℕ) (key : Token)
    (hfull : ¬ (limiter.opened checkedAt).isFull limits key) :
    limiter.admit limits.globalLimit limits.perKeyLimit checkedAt key =
      ((limiter.opened checkedAt).counted key, true) :=
  if_neg hfull

theorem admit_full (limits : RateLimits) (checkedAt : ℕ) (key : Token)
    (hfull : (limiter.opened checkedAt).isFull limits key) :
    limiter.admit limits.globalLimit limits.perKeyLimit checkedAt key =
      (limiter.opened checkedAt, false) :=
  if_pos hfull

/-- A window that has just been opened is not full. -/
theorem opened_of_full {limits : RateLimits} (hglobal : 0 < limits.globalLimit)
    (hkey : 0 < limits.perKeyLimit) {checkedAt : ℕ} {key : Token}
    (hfull : (limiter.opened checkedAt).isFull limits key) :
    limiter.opened checkedAt = limiter ∧ checkedAt < limiter.windowStartedAt + 60000 := by
  unfold opened at hfull ⊢
  split_ifs at hfull ⊢ with hended
  · rcases hfull with hfull | hfull
    · exact absurd hfull hglobal.not_ge
    · exact absurd hfull hkey.not_ge
  · exact ⟨rfl, by omega⟩

end FixedWindowRateLimiter

/-- The admitted calls lie in windows that each stay within the limits; the counters are those of the
window that is open. -/
structure Counted (limits : RateLimits) (s : RateLog) (newest : FixedWindows.Window AdmitCall)
    (windows : List (FixedWindows.Window AdmitCall)) : Prop where
  spaced : FixedWindows.Spaced AdmitCall.checkedAt 60000 (newest :: windows)
  admitted : s.admitted = FixedWindows.events (newest :: windows)
  started : newest.start = s.limiter.windowStartedAt
  globalCount : newest.members.length = s.limiter.globalCount
  keyCounts : ∀ key, newest.members.countP (fun call => call.key = key) = s.limiter.keyCounts key
  global : ∀ window ∈ newest :: windows, window.members.length ≤ limits.globalLimit
  perKey : ∀ window ∈ newest :: windows, ∀ key,
    window.members.countP (fun call => call.key = key) ≤ limits.perKeyLimit

section Steps
variable {limits : RateLimits} {s : RateLog} {newest : FixedWindows.Window AdmitCall}
  {windows : List (FixedWindows.Window AdmitCall)} {call : AdmitCall}

theorem Counted.new (limits : RateLimits) (startedAt : ℕ) :
    Counted limits (.new startedAt) ⟨startedAt, []⟩ [] where
  spaced := ⟨List.pairwise_singleton _ _, fun window hwindow event hevent => by
    rw [List.mem_singleton.1 hwindow] at hevent
    exact absurd hevent List.not_mem_nil⟩
  admitted := rfl
  started := rfl
  globalCount := rfl
  keyCounts _ := rfl
  global window hwindow := by
    rw [List.mem_singleton.1 hwindow]
    exact Nat.zero_le _
  perKey window hwindow key := by
    rw [List.mem_singleton.1 hwindow]
    exact Nat.zero_le _

theorem Counted.opened (h : Counted limits s newest windows)
    (hclock : s.limiter.windowStartedAt ≤ call.checkedAt) :
    ∃ newest' windows', Counted limits ⟨s.limiter.opened call.checkedAt, s.admitted⟩ newest'
      windows' ∧ newest'.start ≤ call.checkedAt ∧ call.checkedAt < newest'.start + 60000 := by
  unfold FixedWindowRateLimiter.opened
  split_ifs with hended
  · have hstart : newest.start + 60000 ≤ call.checkedAt := by
      rw [h.started]
      omega
    refine ⟨⟨call.checkedAt, []⟩, newest :: windows, ⟨h.spaced.open_window hstart, h.admitted, rfl,
      rfl, fun _ => rfl, ?_, ?_⟩, le_rfl, Nat.lt_add_of_pos_right (by decide)⟩
    · exact List.forall_mem_cons.2 ⟨Nat.zero_le _, h.global⟩
    · exact List.forall_mem_cons.2 ⟨fun _ => Nat.zero_le _, h.perKey⟩
  · refine ⟨newest, windows, h, ?_, ?_⟩
    · rw [h.started]
      exact hclock
    · rw [h.started]
      omega

theorem Counted.counted (h : Counted limits s newest windows)
    (hstart : newest.start ≤ call.checkedAt) (hend : call.checkedAt < newest.start + 60000)
    (hfull : ¬ s.limiter.isFull limits call.key) :
    Counted limits ⟨s.limiter.counted call.key, call :: s.admitted⟩
      ⟨newest.start, call :: newest.members⟩ windows := by
  unfold FixedWindowRateLimiter.isFull at hfull
  rw [not_or, not_le, not_le] at hfull
  have hkeys : ∀ key, (call :: newest.members).countP (fun call => call.key = key) =
      Function.update s.limiter.keyCounts call.key (s.limiter.keyCounts call.key + 1) key := by
    intro key
    rw [List.countP_cons, h.keyCounts]
    by_cases hkey : call.key = key
    · subst hkey
      rw [Function.update_self]
      simp
    · rw [Function.update_of_ne (Ne.symm hkey)]
      simp [hkey]
  have hothers := (List.forall_mem_cons.1 h.perKey)
  refine ⟨h.spaced.add hstart hend, ?_, h.started, ?_, hkeys, ?_, ?_⟩
  · rw [h.admitted]
    rfl
  · rw [List.length_cons, h.globalCount]
    rfl
  · refine List.forall_mem_cons.2 ⟨?_, (List.forall_mem_cons.1 h.global).2⟩
    rw [List.length_cons, h.globalCount]
    exact hfull.1
  · refine List.forall_mem_cons.2 ⟨fun key => ?_, hothers.2⟩
    dsimp only
    rw [hkeys]
    by_cases hkey : key = call.key
    · subst hkey
      rw [Function.update_self]
      exact hfull.2
    · rw [Function.update_of_ne hkey, ← h.keyCounts]
      exact hothers.1 key

end Steps

section Runs
variable {limits : RateLimits} {s s' : RateLog}

/-- A refused call leaves the limiter as it was. -/
theorem step_refused (hglobal : 0 < limits.globalLimit) (hkey : 0 < limits.perKeyLimit)
    {call : AdmitCall}
    (hfull : (s.limiter.opened call.checkedAt).isFull limits call.key) :
    RateLog.step limits s call = some s := by
  obtain ⟨hopened, -⟩ := s.limiter.opened_of_full hglobal hkey hfull
  unfold RateLog.step
  dsimp only
  rw [s.limiter.admit_full limits _ _ hfull, hopened]
  rfl

theorem step_admitted {call : AdmitCall}
    (hfull : ¬ (s.limiter.opened call.checkedAt).isFull limits call.key) :
    RateLog.step limits s call =
      some ⟨(s.limiter.opened call.checkedAt).counted call.key, call :: s.admitted⟩ := by
  unfold RateLog.step
  dsimp only
  rw [s.limiter.admit_eq limits _ _ hfull]
  rfl

theorem counted_of_run (hglobal : 0 < limits.globalLimit) (hkey : 0 < limits.perKeyLimit)
    {calls : List AdmitCall}
    (hclock : ∀ call ∈ calls, s.limiter.windowStartedAt ≤ call.checkedAt)
    (hsorted : calls.Pairwise fun earlier later => earlier.checkedAt ≤ later.checkedAt)
    (hcounted : ∃ newest windows, Counted limits s newest windows)
    (hrun : Execution.run (RateLog.step limits) s calls = some s') :
    ∃ newest windows, Counted limits s' newest windows := by
  induction calls generalizing s with
  | nil =>
    obtain rfl := Option.some.inj hrun
    exact hcounted
  | cons call calls ih =>
    rw [List.pairwise_cons] at hsorted
    rw [List.forall_mem_cons] at hclock
    rw [Execution.run] at hrun
    by_cases hfull : (s.limiter.opened call.checkedAt).isFull limits call.key
    · rw [step_refused hglobal hkey hfull, Option.bind_some] at hrun
      exact ih hclock.2 hsorted.2 hcounted hrun
    · rw [step_admitted hfull, Option.bind_some] at hrun
      obtain ⟨newest, windows, hcounted⟩ := hcounted
      obtain ⟨newest', windows', hopened, hstart, hend⟩ := hcounted.opened hclock.1
      refine ih (fun later hlater => ?_) hsorted.2 ⟨_, _, hopened.counted hstart hend hfull⟩ hrun
      have hle := hopened.started.symm.le.trans (hstart.trans (hsorted.1 later hlater))
      exact hle

/-- The admitted calls alone lead to the same state. -/
theorem replay_admitted (hglobal : 0 < limits.globalLimit) (hkey : 0 < limits.perKeyLimit)
    {calls : List AdmitCall} (hrun : Execution.run (RateLog.step limits) s calls = some s') :
    ∃ admitted, s'.admitted = admitted ++ s.admitted ∧
      Execution.run (RateLog.step limits) s admitted.reverse = some s' := by
  induction calls generalizing s with
  | nil =>
    obtain rfl := Option.some.inj hrun
    exact ⟨[], rfl, rfl⟩
  | cons call calls ih =>
    rw [Execution.run] at hrun
    by_cases hfull : (s.limiter.opened call.checkedAt).isFull limits call.key
    · rw [step_refused hglobal hkey hfull, Option.bind_some] at hrun
      exact ih hrun
    · rw [step_admitted hfull, Option.bind_some] at hrun
      obtain ⟨admitted, heq, hreplay⟩ := ih hrun
      refine ⟨admitted ++ [call], ?_, ?_⟩
      · rw [heq, List.append_assoc]
        rfl
      · rw [List.reverse_append, List.reverse_singleton, List.singleton_append, Execution.run,
          step_admitted hfull, Option.bind_some]
        exact hreplay

end Runs

/-- The limiter keeps its limits in every run. -/
theorem rate_limited (limits : RateLimits) (hglobal : 0 < limits.globalLimit)
    (hkey : 0 < limits.perKeyLimit) (startedAt : ℕ) (calls : List AdmitCall)
    (hclock : (startedAt :: calls.map AdmitCall.checkedAt).Pairwise (· ≤ ·)) (s : RateLog)
    (hrun : Execution.run (RateLog.step limits) (.new startedAt) calls = some s) :
    (∀ first last, last < first + 60000 →
      s.admitted.countP (fun call => first ≤ call.checkedAt ∧ call.checkedAt ≤ last) ≤
        2 * limits.globalLimit ∧
      ∀ key, s.admitted.countP (fun call =>
        (first ≤ call.checkedAt ∧ call.checkedAt ≤ last) ∧ call.key = key) ≤
          2 * limits.perKeyLimit) ∧
    Execution.run (RateLog.step limits) (.new startedAt) s.admitted.reverse = some s ∧
    ∀ call : AdmitCall,
      (( s.limiter.admit limits.globalLimit limits.perKeyLimit call.checkedAt call.key).2 = false →
        ( s.limiter.admit limits.globalLimit limits.perKeyLimit call.checkedAt call.key).1 =
          s.limiter) ∧
      (s.limiter.windowStartedAt + 60000 ≤ call.checkedAt →
        ( s.limiter.admit limits.globalLimit limits.perKeyLimit call.checkedAt call.key).2 =
          true) := by
  rw [List.pairwise_cons, List.pairwise_map] at hclock
  have hstarted : ∀ call ∈ calls, startedAt ≤ call.checkedAt :=
    fun call hcall => hclock.1 _ (List.mem_map_of_mem hcall)
  obtain ⟨newest, windows, hcounted⟩ := counted_of_run hglobal hkey hstarted hclock.2
    ⟨_, _, Counted.new limits startedAt⟩ hrun
  refine ⟨fun first last hinterval => ⟨?_, fun key => ?_⟩, ?_, fun call => ⟨?_, fun hended => ?_⟩⟩
  · rw [hcounted.admitted]
    refine FixedWindows.countP_interval hcounted.spaced hinterval (fun window hwindow => ?_)
      fun call hcall => of_decide_eq_true hcall
    exact List.countP_le_length.trans (hcounted.global window hwindow)
  · rw [hcounted.admitted]
    refine FixedWindows.countP_interval hcounted.spaced hinterval (fun window hwindow => ?_)
      fun call hcall => (of_decide_eq_true hcall).1
    refine (List.countP_mono_left fun call _ hcall => ?_).trans (hcounted.perKey window hwindow key)
    exact decide_eq_true (of_decide_eq_true hcall).2
  · obtain ⟨admitted, heq, hreplay⟩ := replay_admitted hglobal hkey hrun
    rw [heq]
    rw [show (RateLog.new startedAt).admitted = [] from rfl, List.append_nil]
    exact hreplay
  · by_cases hfull : (s.limiter.opened call.checkedAt).isFull limits call.key
    · rw [s.limiter.admit_full limits _ _ hfull]
      exact fun _ => (s.limiter.opened_of_full hglobal hkey hfull).1
    · rw [s.limiter.admit_eq limits _ _ hfull]
      exact fun hrefused => nomatch hrefused
  · by_cases hfull : (s.limiter.opened call.checkedAt).isFull limits call.key
    · have hopen := (s.limiter.opened_of_full hglobal hkey hfull).2
      omega
    · rw [s.limiter.admit_eq limits _ _ hfull]

theorem rate_limited_twice :
    ∃ s, Execution.run (RateLog.step ⟨1, 1⟩) (.new 0) [⟨0, 1⟩, ⟨10, 2⟩, ⟨60000, 2⟩] = some s ∧
      s.admitted = [⟨60000, 2⟩, ⟨0, 1⟩] ∧
      s.admitted.countP (fun call => 1 ≤ call.checkedAt ∧ call.checkedAt ≤ 60000) ≤ 2 * 1 :=
  ⟨_, rfl, rfl, ((rate_limited ⟨1, 1⟩ (by decide) (by decide) 0 [⟨0, 1⟩, ⟨10, 2⟩, ⟨60000, 2⟩]
    (by decide) _ rfl).1 1 60000 (by decide)).1⟩

end Lotur.Gateway
