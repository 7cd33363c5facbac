import Lotur.Auth.ThrottleTable
import Lotur.Library.InsertionOrder
import Lotur.Library.WorkerPool

/-! `areAccountsAuthorized`: many authorization checks at once, from
`packages/auth/src/auth-service.ts`. -/
namespace Lotur.Auth

inductive AccountAccessRequirement where
  | role (role : AccountRole)
  | sharedContent
  deriving DecidableEq, Repr

structure AccountAuthorizationCheck where
  accountId : JsString
  accountAuthVersion : ℕ
  requirement : AccountAccessRequirement
  deriving DecidableEq, Repr

def satisfiesAccountAccess (roles : List AccountRole) : AccountAccessRequirement → Bool
  | .role role => roles.contains role
  | .sharedContent => canAccessSharedContent roles

def authorizationAccountBatchSize : ℕ := 512
def authorizationAccountQueryConcurrency : ℕ := 4

section Model
variable (accounts : List Account) (checks : List AccountAuthorizationCheck)

/-- `[...new Set(checks.map((check) => check.accountId))]`. -/
def accountIds : List JsString := (checks.map AccountAuthorizationCheck.accountId).eraseDups

def batches : List (List JsString) :=
  WorkerPool.slices authorizationAccountBatchSize (accountIds checks)

/-- The workers and the accounts they have put in the map. -/
structure AuthorizationQueries where
  pool : WorkerPool.Pool Unit (List Account)
  accounts : List Account

/-- The outcome of the query of a worker. -/
structure BatchAnswer where
  position : ℕ
  rows : List Account

namespace AuthorizationQueries

def start : AuthorizationQueries where
  pool := WorkerPool.start authorizationAccountQueryConcurrency (batches checks).length fun _ => ()
  accounts := []

/-- `findAccountsByIds`: the accounts with the ids of the batch, in any order. -/
def Answers (batch : List JsString) (rows : List Account) : Prop :=
  rows.Perm (accounts.filter fun account => account.id ∈ batch)

instance (batch : List JsString) (rows : List Account) : Decidable (Answers accounts batch rows) :=
  inferInstanceAs (Decidable (List.Perm _ _))

def step (s : AuthorizationQueries) (answer : BatchAnswer) : Option AuthorizationQueries :=
  match s.pool.running[answer.position]? with
  | none => none
  | some (index, _) =>
    if Answers accounts ((batches checks)[index]?.getD []) answer.rows then
      (WorkerPool.finish (batches checks).length s.pool answer.position answer.rows ()).map fun pool =>
        ⟨pool, answer.rows.foldl (Table.set Account.id) s.accounts⟩
    else none

def results (s : AuthorizationQueries) : List Bool :=
  checks.map fun check =>
    (Table.get Account.id s.accounts check.accountId).any fun account =>
      account.enabled && !account.mustChangePassword &&
        account.authVersion = check.accountAuthVersion &&
          satisfiesAccountAccess account.roles check.requirement

/-- The batches whose queries have completed. -/
def queried (s : AuthorizationQueries) : List (List JsString) :=
  s.pool.done.map fun entry => (batches checks)[entry.1]?.getD []

end AuthorizationQueries

/-- What is returned when the queries complete in this order. -/
def areAccountsAuthorized (answers : List BatchAnswer) : Option (List Bool) :=
  if checks = [] then some []
  else
    (Execution.run (AuthorizationQueries.step accounts checks) (.start checks) answers).bind fun s =>
      if s.pool.running = [] then some (s.results checks) else none

/-- What a check asks of the accounts. -/
def IsAuthorized (check : AccountAuthorizationCheck) : Prop :=
  ∃ account ∈ accounts, account.id = check.accountId ∧ account.enabled = true ∧
    account.mustChangePassword = false ∧ account.authVersion = check.accountAuthVersion ∧
      satisfiesAccountAccess account.roles check.requirement = true

end Model

namespace AuthorizationQueries
variable {accounts : List Account} {checks : List AccountAuthorizationCheck}

theorem flatten_batches : (batches checks).flatten = accountIds checks :=
  WorkerPool.flatten_slices (by decide) (accountIds checks)

/-- The in-memory repository answers so. -/
theorem answers_inMemory (haccounts : (accounts.map Account.id).Nodup) {batch : List JsString}
    (hbatch : batch.Nodup) : Answers accounts batch (batch.filterMap (Table.get Account.id accounts)) := by
  have hids : (batch.filterMap (Table.get Account.id accounts)).Nodup := by
    refine hbatch.filterMap ?_
    intro id id' account hget hget'
    exact (Table.get_some hget).2.symm.trans (Table.get_some hget').2
  refine (List.perm_ext_iff_of_nodup hids (haccounts.of_map.filter _)).2 fun account => ?_
  rw [List.mem_filterMap, List.mem_filter, decide_eq_true_eq]
  constructor
  · rintro ⟨id, hid, hget⟩
    obtain ⟨haccount, rfl⟩ := Table.get_some hget
    exact ⟨haccount, hid⟩
  · rintro ⟨haccount, hid⟩
    exact ⟨account.id, hid, Table.get_of_mem haccounts haccount⟩

theorem get_answer (haccounts : (accounts.map Account.id).Nodup) {batch : List JsString}
    {rows : List Account} (h : Answers accounts batch rows) (id : JsString) :
    Table.get Account.id rows id =
      if id ∈ batch then Table.get Account.id accounts id else none := by
  have hmem : ∀ account, account ∈ rows ↔ account ∈ accounts ∧ account.id ∈ batch := by
    intro account
    rw [h.mem_iff, List.mem_filter, decide_eq_true_eq]
  have hrows : (rows.map Account.id).Nodup :=
    (h.map Account.id).nodup_iff.2 (haccounts.sublist (List.filter_sublist.map _))
  split_ifs with hid
  · cases hget : Table.get Account.id accounts id with
    | none =>
      rw [Table.get_eq_none_iff] at hget ⊢
      exact fun account haccount => hget account ((hmem account).1 haccount).1
    | some account =>
      obtain ⟨haccount, rfl⟩ := Table.get_some hget
      exact Table.get_of_mem hrows ((hmem account).2 ⟨haccount, hid⟩)
  · rw [Table.get_eq_none_iff]
    rintro account haccount rfl
    exact hid ((hmem account).1 haccount).2

/-- The workers are fair, as many queries have completed as there were answers, and the map holds
the accounts of the batches that were queried. -/
structure Kept (accounts : List Account) (checks : List AccountAuthorizationCheck) (count : ℕ)
    (s : AuthorizationQueries) : Prop where
  fair : WorkerPool.Fair (batches checks).length authorizationAccountQueryConcurrency s.pool
  count : s.pool.done.length = count
  known : ∀ id, Table.get Account.id s.accounts id =
    if id ∈ (s.queried checks).flatten then Table.get Account.id accounts id else none

theorem kept_start : Kept accounts checks 0 (.start checks) :=
  ⟨WorkerPool.fair_start _, rfl, fun _ => rfl⟩

theorem Kept.step (haccounts : (accounts.map Account.id).Nodup) {count : ℕ}
    {s s' : AuthorizationQueries} (hkept : Kept accounts checks count s) {answer : BatchAnswer}
    (h : step accounts checks s answer = some s') : Kept accounts checks (count + 1) s' := by
  unfold AuthorizationQueries.step at h
  split at h
  · cases h
  · next index old hindex =>
    split_ifs at h with hanswers
    obtain ⟨pool, hpool, rfl⟩ := Option.map_eq_some_iff.1 h
    obtain ⟨job, _, hjob, hdone, -⟩ := WorkerPool.finish_eq_some hpool
    obtain rfl : index = job := by
      rw [hindex] at hjob
      exact congrArg Prod.fst (Option.some.inj hjob)
    constructor
    · exact hkept.fair.finish hpool
    · rw [hdone, List.length_cons, hkept.count]
    · intro id
      have hrows : (answer.rows.map Account.id).Nodup :=
        (hanswers.map Account.id).nodup_iff.2 (haccounts.sublist (List.filter_sublist.map _))
      have hqueried : queried checks ⟨pool, answer.rows.foldl (Table.set Account.id) s.accounts⟩ =
          ((batches checks)[index]?.getD []) :: s.queried checks := by
        unfold queried
        rw [hdone, List.map_cons]
      rw [Table.get_foldl_set hrows, get_answer haccounts hanswers, hkept.known, hqueried,
        List.flatten_cons]
      by_cases hbatch : id ∈ (batches checks)[index]?.getD []
      · rw [if_pos hbatch, if_pos (List.mem_append_left _ hbatch)]
        split_ifs
        · exact Option.or_self
        · exact Option.or_none
      · rw [if_neg hbatch, Option.none_or]
        refine if_congr ?_ rfl rfl
        rw [List.mem_append]
        exact (or_iff_right hbatch).symm

theorem kept_run (haccounts : (accounts.map Account.id).Nodup) {count : ℕ}
    {s s' : AuthorizationQueries} (hkept : Kept accounts checks count s) {answers : List BatchAnswer}
    (hrun : Execution.run (step accounts checks) s answers = some s') :
    Kept accounts checks (count + answers.length) s' := by
  induction answers generalizing s count with
  | nil =>
    cases hrun
    exact hkept
  | cons answer answers ih =>
    obtain ⟨next, hstep, hrest⟩ := Option.bind_eq_some_iff.1 hrun
    have hlater := ih (hkept.step haccounts hstep) hrest
    rwa [List.length_cons, Nat.add_comm answers.length, ← Nat.add_assoc]

/-- In the end every batch has been queried once. -/
theorem Kept.queried_perm {count : ℕ} {s : AuthorizationQueries} (hkept : Kept accounts checks count s)
    (hended : s.pool.running = []) : (s.queried checks).Perm (batches checks) := by
  have hdone := (hkept.fair.ended (by decide) hended).map fun index =>
    (batches checks)[index]?.getD []
  rw [List.map_map] at hdone
  refine hdone.trans (List.Perm.of_eq ?_)
  refine List.ext_getElem (by simp) fun index hindex hindex' => ?_
  simp [List.getElem?_eq_getElem hindex']

theorem Kept.result_iff {count : ℕ} {s : AuthorizationQueries} (hkept : Kept accounts checks count s)
    (haccounts : (accounts.map Account.id).Nodup) (hended : s.pool.running = [])
    {check : AccountAuthorizationCheck} (hcheck : check ∈ checks) :
    ((Table.get Account.id s.accounts check.accountId).any fun account =>
      account.enabled && !account.mustChangePassword &&
        account.authVersion = check.accountAuthVersion &&
          satisfiesAccountAccess account.roles check.requirement) = true ↔
      IsAuthorized accounts check := by
  have hid : check.accountId ∈ accountIds checks :=
    List.mem_eraseDups.2 (List.mem_map_of_mem hcheck)
  have hqueried : check.accountId ∈ (s.queried checks).flatten := by
    rw [(hkept.queried_perm hended).flatten.mem_iff, flatten_batches]
    exact hid
  rw [hkept.known, if_pos hqueried]
  simp only [Option.any_eq_true, Bool.and_eq_true, Bool.not_eq_true', decide_eq_true_eq]
  constructor
  · rintro ⟨account, hget, ⟨⟨henabled, hpassword⟩, hversion⟩, hroles⟩
    obtain ⟨haccount, hkey⟩ := Table.get_some hget
    exact ⟨account, haccount, hkey, henabled, hpassword, hversion, hroles⟩
  · rintro ⟨account, haccount, hkey, henabled, hpassword, hversion, hroles⟩
    refine ⟨account, ?_, ⟨⟨henabled, hpassword⟩, hversion⟩, hroles⟩
    rw [← hkey]
    exact Table.get_of_mem haccounts haccount

/-- A query under way can complete. -/
theorem exists_step (s : AuthorizationQueries) {position : ℕ}
    (hposition : position < s.pool.running.length) :
    ∃ rows s', step accounts checks s ⟨position, rows⟩ = some s' := by
  cases hrunning : s.pool.running[position]? with
  | none => exact absurd hposition (List.getElem?_eq_none_iff.1 hrunning).not_gt
  | some job =>
    refine ⟨accounts.filter fun account => account.id ∈ (batches checks)[job.1]?.getD [], ?_⟩
    unfold step WorkerPool.finish
    rw [hrunning]
    exact ⟨_, if_pos (List.Perm.refl _)⟩

theorem Kept.ended_iff {count : ℕ} {s : AuthorizationQueries} (hkept : Kept accounts checks count s) :
    s.pool.running = [] ↔ count = (batches checks).length := by
  have hlength := hkept.fair.length_done
  have hnext := hkept.fair.next_le
  rw [hkept.count] at hlength
  constructor
  · intro hended
    have hdone := (hkept.fair.ended (by decide) hended).length_eq
    rw [List.length_map, List.length_range, hkept.count] at hdone
    exact hdone
  · intro hcount
    rw [← List.length_eq_zero_iff]
    omega

end AuthorizationQueries

/-- However the queries complete, the answers are those of single checks. -/
theorem areAccountsAuthorized_exact (accounts : List Account)
    (haccounts : (accounts.map Account.id).Nodup) (checks : List AccountAuthorizationCheck) :
    (∀ answers authorized, areAccountsAuthorized accounts checks answers = some authorized →
      authorized.length = checks.length ∧
      ∀ entry ∈ checks.zip authorized, entry.2 = true ↔ IsAuthorized accounts entry.1) ∧
    ∀ answers s, Execution.run (AuthorizationQueries.step accounts checks) (.start checks) answers =
        some s →
      s.pool.running.length ≤ authorizationAccountQueryConcurrency ∧
      (s.pool.running = [] ↔ answers.length = (batches checks).length) ∧
      (s.pool.running = [] → (areAccountsAuthorized accounts checks answers).isSome = true ∧
        ∀ check ∈ checks, (s.queried checks).countP (check.accountId ∈ ·) = 1) ∧
      ∀ position < s.pool.running.length, ∃ rows s',
        AuthorizationQueries.step accounts checks s ⟨position, rows⟩ = some s' := by
  have hrun : ∀ answers s, Execution.run (AuthorizationQueries.step accounts checks)
      (.start checks) answers = some s →
        AuthorizationQueries.Kept accounts checks answers.length s := by
    intro answers s hrun
    have hkept := AuthorizationQueries.kept_run haccounts AuthorizationQueries.kept_start hrun
    rwa [Nat.zero_add] at hkept
  constructor
  · intro answers authorized hauthorized
    unfold areAccountsAuthorized at hauthorized
    split_ifs at hauthorized with hnone
    · cases hauthorized
      rw [hnone]
      exact ⟨rfl, fun entry hentry => absurd hentry List.not_mem_nil⟩
    · obtain ⟨s, hs, hended⟩ := Option.bind_eq_some_iff.1 hauthorized
      split_ifs at hended with hended'
      cases hended
      refine ⟨List.length_map _, fun entry hentry => ?_⟩
      obtain ⟨hcheck, hresult⟩ := WorkerPool.mem_zip_map hentry
      rw [hresult]
      exact (hrun answers s hs).result_iff haccounts hended' hcheck
  · intro answers s hs
    have hkept := hrun answers s hs
    refine ⟨hkept.fair.running_le, hkept.ended_iff, fun hended => ⟨?_, fun check hcheck => ?_⟩,
      fun position hposition => s.exists_step hposition⟩
    · unfold areAccountsAuthorized
      rw [hs, Option.bind_some, if_pos hended]
      split_ifs <;> rfl
    · have hid : check.accountId ∈ accountIds checks :=
        List.mem_eraseDups.2 (List.mem_map_of_mem hcheck)
      rw [(hkept.queried_perm hended).countP_eq]
      refine WorkerPool.countP_mem_of_nodup ?_ ?_
      · rw [AuthorizationQueries.flatten_batches]
        exact List.nodup_eraseDups _
      · rwa [AuthorizationQueries.flatten_batches]

def sampleAccount : Account :=
  ⟨JsString.ofAscii "a", JsString.ofAscii "ann", [], [.developer], [], true, false, 3, 0, 0⟩

theorem areAccountsAuthorized_exact_sample :
    areAccountsAuthorized [sampleAccount] [⟨JsString.ofAscii "a", 3, .sharedContent⟩,
      ⟨JsString.ofAscii "b", 0, .role .admin⟩, ⟨JsString.ofAscii "a", 2, .role .developer⟩]
        [⟨0, [sampleAccount]⟩] = some [true, false, false] ∧
    IsAuthorized [sampleAccount] ⟨JsString.ofAscii "a", 3, .sharedContent⟩ :=
  ⟨by decide +kernel, (((areAccountsAuthorized_exact [sampleAccount] (List.nodup_singleton _)
    [⟨JsString.ofAscii "a", 3, .sharedContent⟩, ⟨JsString.ofAscii "b", 0, .role .admin⟩,
      ⟨JsString.ofAscii "a", 2, .role .developer⟩]).1 [⟨0, [sampleAccount]⟩] [true, false, false]
        (by decide +kernel)).2 _ List.mem_cons_self).1 rfl⟩

end Lotur.Auth
