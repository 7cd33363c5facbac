import Lotur.Auth.PostgresAccounts
import Lotur.Auth.Currency

/-! An account change and its audit event are one step, in both repositories. -/
namespace Lotur.Auth

inductive AccountCall where
  | createFirstAccount (account : Account) (auditEvent : AuditEvent)
  | createAccount (account : Account) (authorization : AccountMutationAuthorization)
      (auditEvent : AuditEvent)
  | setAccountEnabled (accountId : JsString) (enabled : Bool)
      (authorization : AccountMutationAuthorization) (updatedAt : ℤ) (auditEvent : AuditEvent)
  | setAccountRoles (accountId : JsString) (roles : List AccountRole)
      (authorization : AccountMutationAuthorization) (updatedAt : ℤ) (auditEvent : AuditEvent)
  | replaceAccountPassword (accountId passwordHash : JsString) (mustChangePassword : Bool)
      (expectedAuthVersion : ℕ) (authorization : AccountMutationAuthorization) (updatedAt : ℤ)
      (auditEvent : AuditEvent)
  | revokeAccountSessions (accountId : JsString) (authorization : AccountMutationAuthorization)
      (updatedAt : ℤ) (auditEvent : AuditEvent)

inductive AccountResult where
  | first (created : Bool)
  | creation (result : AccountCreationResult)
  | mutation (result : AccountMutationResult)
  deriving DecidableEq, Repr

/-- The call has returned `true`, `CREATED` or `UPDATED`. -/
def AccountResult.changed : AccountResult → Bool
  | first created => created
  | creation result => result = .created
  | mutation (.updated _) => true
  | mutation _ => false

namespace AccountCall

def auditEvent : AccountCall → AuditEvent
  | createFirstAccount _ event => event
  | createAccount _ _ event => event
  | setAccountEnabled _ _ _ _ event => event
  | setAccountRoles _ _ _ _ event => event
  | replaceAccountPassword _ _ _ _ _ _ event => event
  | revokeAccountSessions _ _ _ event => event

/-- The account that the call stores. -/
def account (r : Repository) : AccountCall → Option Account
  | createFirstAccount account _ => some account
  | createAccount account _ _ => some account
  | setAccountEnabled accountId enabled _ updatedAt _ =>
    (r.findAccountById accountId).map fun account =>
      { account with enabled, updatedAt, authVersion := account.authVersion + 1 }
  | setAccountRoles accountId roles _ updatedAt _ =>
    (r.findAccountById accountId).map fun account =>
      { account with roles, updatedAt, authVersion := account.authVersion + 1 }
  | replaceAccountPassword accountId passwordHash mustChangePassword _ _ updatedAt _ =>
    (r.findAccountById accountId).map fun account =>
      { account with
        passwordHash, mustChangePassword, updatedAt, authVersion := account.authVersion + 1 }
  | revokeAccountSessions accountId _ updatedAt _ =>
    (r.findAccountById accountId).map fun account =>
      { account with updatedAt, authVersion := account.authVersion + 1 }

/-- A change of an account that exists deletes what was issued to it. -/
def revoked (r : Repository) : AccountCall → Repository
  | createFirstAccount _ _ => r
  | createAccount _ _ _ => r
  | setAccountEnabled accountId _ _ _ _ => r.deleteAccountAuthArtifacts accountId
  | setAccountRoles accountId _ _ _ _ => r.deleteAccountAuthArtifacts accountId
  | replaceAccountPassword accountId _ _ _ _ _ _ => r.deleteAccountAuthArtifacts accountId
  | revokeAccountSessions accountId _ _ _ => r.deleteAccountAuthArtifacts accountId

/-- The call as a whole. -/
def call (r : Repository) : AccountCall → Option (AccountResult × Repository)
  | createFirstAccount account event =>
    (r.createFirstAccount account event).map (Prod.map .first id)
  | createAccount account authorization event =>
    (r.createAccount account authorization event).map (Prod.map .creation id)
  | setAccountEnabled accountId enabled authorization updatedAt event =>
    (r.setAccountEnabled accountId enabled authorization updatedAt event).map
      (Prod.map .mutation id)
  | setAccountRoles accountId roles authorization updatedAt event =>
    (r.setAccountRoles accountId roles authorization updatedAt event).map (Prod.map .mutation id)
  | replaceAccountPassword accountId passwordHash mustChange expected authorization updatedAt
      event =>
    (r.replaceAccountPassword accountId passwordHash mustChange expected authorization updatedAt
      event).map (Prod.map .mutation id)
  | revokeAccountSessions accountId authorization updatedAt event =>
    (r.revokeAccountSessions accountId authorization updatedAt event).map (Prod.map .mutation id)

def inMemory : AccountCall → Procedure Repository RepositoryError AccountResult
  | createFirstAccount account event => .first <$> InMemory.createFirstAccount account event
  | createAccount account authorization event =>
    .creation <$> InMemory.createAccount account authorization event
  | setAccountEnabled accountId enabled authorization updatedAt event =>
    .mutation <$> InMemory.setAccountEnabled accountId enabled authorization updatedAt event
  | setAccountRoles accountId roles authorization updatedAt event =>
    .mutation <$> InMemory.setAccountRoles accountId roles authorization updatedAt event
  | replaceAccountPassword accountId passwordHash mustChange expected authorization updatedAt
      event => .mutation <$> InMemory.replaceAccountPassword accountId passwordHash mustChange
        expected authorization updatedAt event
  | revokeAccountSessions accountId authorization updatedAt event =>
    .mutation <$> InMemory.revokeAccountSessions accountId authorization updatedAt event

def postgres (limits : AuditEventLimits) :
    AccountCall → Procedure Database RepositoryError AccountResult
  | createFirstAccount account event => .first <$> Postgres.createFirstAccount limits account event
  | createAccount account authorization event =>
    .creation <$> Postgres.createAccount limits account authorization event
  | setAccountEnabled accountId enabled authorization updatedAt event =>
    .mutation <$> Postgres.setAccountEnabled limits accountId enabled authorization updatedAt event
  | setAccountRoles accountId roles authorization updatedAt event =>
    .mutation <$> Postgres.setAccountRoles limits accountId roles authorization updatedAt event
  | replaceAccountPassword accountId passwordHash mustChange expected authorization updatedAt
      event => .mutation <$> Postgres.replaceAccountPassword limits accountId passwordHash
        mustChange expected authorization updatedAt event
  | revokeAccountSessions accountId authorization updatedAt event =>
    .mutation <$> Postgres.revokeAccountSessions limits accountId authorization updatedAt event

end AccountCall

/-- The event is appended, the account stored is another than before, what was issued to it is gone,
and nothing else has changed. -/
def Audited (call : AccountCall) (r r' : Repository) : Prop :=
  ∃ account, call.account r = some account ∧ r.findAccountById account.id ≠ some account ∧
    r' = { call.revoked r with
      accounts := Table.set Account.id r.accounts account
      auditEvents := r.auditEvents ++ [call.auditEvent] }

/-- The event of a change has room and an id of its own. -/
structure Appendable (r : Repository) (event : AuditEvent) : Prop where
  room : r.auditEvents.length < r.auditEventLimits.global - r.auditEventLimits.operationalReserve
  fresh : ∀ candidate ∈ r.auditEvents, candidate.id ≠ event.id

variable {r r' : Repository} {event : AuditEvent} {call : AccountCall} {result : AccountResult}

theorem appendAuditEvent_eq_some : r.appendAuditEvent event = some r' ↔
    Appendable r event ∧ r' = { r with auditEvents := r.auditEvents ++ [event] } := by
  unfold Repository.appendAuditEvent
  constructor
  · intro h
    split_ifs at h with hfull
    obtain ⟨hroom, hfresh⟩ := not_or.1 hfull
    refine ⟨⟨not_le.1 hroom, fun candidate hcandidate heq => ?_⟩, (Option.some.inj h).symm⟩
    exact hfresh (List.any_eq_true.2 ⟨candidate, hcandidate, decide_eq_true heq⟩)
  · rintro ⟨⟨hroom, hfresh⟩, rfl⟩
    rw [if_neg]
    rintro (hfull | htaken)
    · exact absurd hroom (not_lt.2 hfull)
    · obtain ⟨candidate, hcandidate, heq⟩ := List.any_eq_true.1 htaken
      exact hfresh candidate hcandidate (of_decide_eq_true heq)

theorem mutateAccount_outcome {accountId : JsString}
    {authorization : AccountMutationAuthorization}
    {refuse : Account → Option AccountMutationResult} {change : Account → Account} {updatedAt : ℤ}
    {result : AccountMutationResult}
    (hrefuse : ∀ account updated, refuse account ≠ some (.updated updated))
    (h : r.mutateAccount accountId authorization refuse change updatedAt event =
      some (result, r')) :
    (r' = r ∧ (AccountResult.mutation result).changed = false) ∨
      ∃ account, r.findAccountById accountId = some account ∧ Appendable r event ∧
        (AccountResult.mutation result).changed = true ∧
        r' = { r.deleteAccountAuthArtifacts accountId with
          accounts := Table.set Account.id r.accounts { change account with
            id := account.id
            authVersion := account.authVersion + 1
            updatedAt := updatedAt }
          auditEvents := r.auditEvents ++ [event] } := by
  unfold Repository.mutateAccount at h
  split_ifs at h with hauthorized
  · cases h
    exact Or.inl ⟨rfl, rfl⟩
  split at h
  · cases h
    exact Or.inl ⟨rfl, rfl⟩
  next account hfound =>
    split at h
    next refused hrefused =>
      cases h
      refine Or.inl ⟨rfl, ?_⟩
      cases result with
      | updated updated => exact absurd hrefused (hrefuse account updated)
      | _ => rfl
    next =>
      obtain ⟨appended, happended, heq⟩ := Option.map_eq_some_iff.1 h
      obtain ⟨hevent, rfl⟩ := appendAuditEvent_eq_some.1 happended
      cases heq
      have hid : account.id = accountId := (Table.get_some hfound).2
      refine Or.inr ⟨account, hfound, hevent, rfl, ?_⟩
      rw [← hid]
      rfl

/-- What a whole call does: it refuses, or it is audited. -/
structure CallOutcome (call : AccountCall) (result : AccountResult) (r r' : Repository) : Prop where
  refused : result.changed = false → r' = r
  changed : result.changed = true → Audited call r r' ∧ Appendable r call.auditEvent

theorem CallOutcome.unchanged (h : result.changed = false) : CallOutcome call result r r where
  refused _ := rfl
  changed htrue := by
    rw [h] at htrue
    cases htrue

theorem CallOutcome.of_mutateAccount {accountId : JsString}
    {authorization : AccountMutationAuthorization}
    {refuse : Account → Option AccountMutationResult} {change : Account → Account} {updatedAt : ℤ}
    {result : AccountMutationResult}
    (hrefuse : ∀ account updated, refuse account ≠ some (.updated updated))
    (haccount : call.account r = (r.findAccountById accountId).map fun account =>
      { change account with
        id := account.id
        authVersion := account.authVersion + 1
        updatedAt := updatedAt })
    (hrevoked : call.revoked r = r.deleteAccountAuthArtifacts accountId)
    (h : r.mutateAccount accountId authorization refuse change updatedAt call.auditEvent =
      some (result, r')) : CallOutcome call (.mutation result) r r' := by
  rcases mutateAccount_outcome hrefuse h with
    ⟨rfl, hsame⟩ | ⟨account, hfound, hevent, hchanged, rfl⟩
  · exact .unchanged hsame
  · rw [hfound, Option.map_some] at haccount
    refine ⟨fun hfalse => ?_, fun _ => ⟨⟨_, haccount, fun hold => ?_, ?_⟩, hevent⟩⟩
    · rw [hchanged] at hfalse
      cases hfalse
    · have hid : account.id = accountId := (Table.get_some hfound).2
      rw [hid, hfound] at hold
      have hversion := congrArg Account.authVersion (Option.some.inj hold)
      exact absurd hversion (Nat.succ_ne_self _).symm
    · rw [hrevoked]

theorem CallOutcome.of_createFirstAccount {account : Account} {created : Bool}
    (h : r.createFirstAccount account event = some (created, r')) :
    CallOutcome (.createFirstAccount account event) (.first created) r r' := by
  unfold Repository.createFirstAccount at h
  split_ifs at h with hempty
  · cases h
    exact .unchanged rfl
  · obtain ⟨appended, happended, heq⟩ := Option.map_eq_some_iff.1 h
    obtain ⟨hevent, rfl⟩ := appendAuditEvent_eq_some.1 happended
    cases heq
    refine ⟨by rintro ⟨⟩, fun _ => ⟨⟨account, rfl, ?_, rfl⟩, hevent⟩⟩
    rw [Repository.findAccountById, not_not.1 hempty]
    rintro ⟨⟩

theorem CallOutcome.of_createAccount {account : Account}
    {authorization : AccountMutationAuthorization} {creation : AccountCreationResult}
    (h : r.createAccount account authorization event = some (creation, r')) :
    CallOutcome (.createAccount account authorization event) (.creation creation) r r' := by
  unfold Repository.createAccount at h
  split_ifs at h with hauthorized husername hid
  · cases h
    exact .unchanged rfl
  · cases h
    exact .unchanged rfl
  · obtain ⟨appended, happended, heq⟩ := Option.map_eq_some_iff.1 h
    obtain ⟨hevent, rfl⟩ := appendAuditEvent_eq_some.1 happended
    cases heq
    refine ⟨nofun, fun _ => ⟨⟨account, rfl, fun hfound => ?_, rfl⟩, hevent⟩⟩
    obtain ⟨hmem, -⟩ := Table.get_some hfound
    exact hid (List.any_eq_true.2 ⟨account, hmem, decide_eq_true rfl⟩)

theorem of_map_eq_some {α : Type} {f : α → AccountResult} {whole : Option (α × Repository)}
    (h : whole.map (Prod.map f id) = some (result, r')) :
    ∃ value, whole = some (value, r') ∧ result = f value := by
  obtain ⟨⟨value, after⟩, hwhole, heq⟩ := Option.map_eq_some_iff.1 h
  cases heq
  exact ⟨value, hwhole, rfl⟩

theorem call_outcome (h : call.call r = some (result, r')) : CallOutcome call result r r' := by
  cases call with
  | createFirstAccount account event =>
    obtain ⟨value, hvalue, rfl⟩ := of_map_eq_some h
    exact .of_createFirstAccount hvalue
  | createAccount account authorization event =>
    obtain ⟨value, hvalue, rfl⟩ := of_map_eq_some h
    exact .of_createAccount hvalue
  | setAccountEnabled accountId enabled authorization updatedAt event =>
    obtain ⟨value, hvalue, rfl⟩ := of_map_eq_some h
    exact .of_mutateAccount (fun _ _ => by split_ifs <;> simp) rfl rfl hvalue
  | setAccountRoles accountId roles authorization updatedAt event =>
    obtain ⟨value, hvalue, rfl⟩ := of_map_eq_some h
    exact .of_mutateAccount (fun _ _ => by split_ifs <;> simp) rfl rfl hvalue
  | replaceAccountPassword accountId hash mustChange expected authorization updatedAt event =>
    obtain ⟨value, hvalue, rfl⟩ := of_map_eq_some h
    exact .of_mutateAccount (fun _ _ => by split_ifs <;> simp) rfl rfl hvalue
  | revokeAccountSessions accountId authorization updatedAt event =>
    obtain ⟨value, hvalue, rfl⟩ := of_map_eq_some h
    exact .of_mutateAccount (fun _ _ => Option.some_ne_none _ ∘ Eq.symm) rfl rfl hvalue

section InMemory
open Procedure

theorem InMemory.Agrees.map {α : Type} {method : InMemory.Method α} {f : α → AccountResult}
    {whole : Option (α × Repository)} (h : InMemory.Agrees r whole (method.run r)) :
    InMemory.Agrees r (whole.map (Prod.map f id)) ((f <$> method).run r) := by
  cases whole with
  | none =>
    obtain ⟨error, herror⟩ := h
    exact ⟨error, run_bind_error herror⟩
  | some pair => exact run_bind_ok h

theorem agrees_inMemory (call : AccountCall) (r : Repository) :
    InMemory.Agrees r (call.call r) (call.inMemory.run r) := by
  cases call with
  | createFirstAccount account event => exact (InMemory.agrees_createFirstAccount r _ _).map
  | createAccount account authorization event => exact (InMemory.agrees_createAccount r _ _ _).map
  | _ =>
    apply InMemory.Agrees.map
    exact InMemory.agrees_of_change rfl rfl

end InMemory

/-- `validateAuditEventLimits`, but for the safe integers. -/
structure AuditEventLimits.Valid (limits : AuditEventLimits) : Prop where
  reserved : 1 ≤ limits.operationalReserve
  rest : limits.operationalReserve < limits.global

/-- The ids of the events differ, those of the account changes leave the reserve free, and the
counter counts the rows. -/
structure Database.AuditBounded (limits : AuditEventLimits) (db : Database) : Prop where
  configured : db.tables.auditEventLimits = limits
  ids : db.auditIds.Nodup
  administrative : db.tables.auditEvents.length ≤ limits.global - limits.operationalReserve
  count : db.eventCount = db.tables.auditEvents.length + db.operationalEvents.length
  global : db.eventCount ≤ limits.global

/-- The same for the in-memory repository, which has no operational events. -/
structure Repository.AuditBounded (r : Repository) : Prop where
  ids : (r.auditEvents.map AuditEvent.id).Nodup
  administrative : r.auditEvents.length ≤
    r.auditEventLimits.global - r.auditEventLimits.operationalReserve

theorem Repository.AuditBounded.appended (h : r.AuditBounded) (hevent : Appendable r event)
    (hevents : r'.auditEvents = r.auditEvents ++ [event])
    (hlimits : r'.auditEventLimits = r.auditEventLimits) : r'.AuditBounded := by
  refine ⟨?_, ?_⟩
  · rw [hevents, List.map_append, List.nodup_append]
    refine ⟨h.ids, List.nodup_singleton _, fun id hid other hother heq => ?_⟩
    obtain ⟨candidate, hcandidate, rfl⟩ := List.mem_map.1 hid
    obtain rfl := List.mem_singleton.1 hother
    exact hevent.fresh candidate hcandidate heq
  · have hroom := hevent.room
    rw [hevents, hlimits, List.length_append, List.length_singleton]
    omega

namespace Postgres
open Procedure

variable {db db' : Database} {limits : AuditEventLimits} {client : Client Database}
  {stored : StoredAuditEvent} {scope : AuditScope}

@[simp] theorem run_query_bind {α β : Type} (f : Database → α) (rest : α → Work β) (db : Database) :
    (query f >>= rest).run ⟨db, false⟩ = (rest (f db)).run ⟨db, false⟩ := rfl

theorem of_run_execute {f : Database → Except RepositoryError Database} {done : Unit}
    (h : (execute f).run ⟨db, false⟩ = (.ok done, client)) :
    ∃ after, f db = .ok after ∧ client = ⟨after, false⟩ := by
  obtain ⟨state, heffect, rfl⟩ := of_run_statement h
  cases hf : f db with
  | ok after =>
    rw [hf] at heffect
    cases heffect
    exact ⟨_, rfl, rfl⟩
  | error error =>
    rw [hf] at heffect
    cases heffect

/-- An event that is appended had room in its scope and an id of its own. -/
theorem of_run_appendBoundedAuditEvent {done : Unit}
    (h : (appendBoundedAuditEvent stored limits scope).run ⟨db, false⟩ = (.ok done, client)) :
    db.eventCount < scope.maximum limits ∧ stored.id ∉ db.auditIds ∧
      client = ⟨{ db with eventCount := db.eventCount + 1 }.insert stored, false⟩ := by
  obtain ⟨reserved, middle, hreserve, hrest⟩ := of_run_bind h
  obtain ⟨counted, hcount, rfl⟩ := of_run_statement hreserve
  by_cases hroom : db.eventCount < scope.maximum limits
  · rw [if_pos hroom] at hcount
    cases hcount
    have hinserted : (insertAuditEvent stored).run
      ⟨{ db with eventCount := db.eventCount + 1 }, false⟩ = (.ok done, client) := hrest
    obtain ⟨after, hinsert, rfl⟩ := of_run_execute hinserted
    split_ifs at hinsert with htaken
    cases hinsert
    exact ⟨hroom, htaken, rfl⟩
  · rw [if_neg hroom] at hcount
    cases hcount
    cases hrest

/-- A call that returns has done what the whole call does, and left the operational events. -/
structure Performed {α : Type} (limits : AuditEventLimits) (db db' : Database)
    (whole : Option (α × Repository)) (result : α) : Prop where
  whole : whole = some (result, db'.tables)
  operational : db'.operationalEvents = db.operationalEvents
  bounded : db'.AuditBounded limits

/-- The event of a change is appended after the tables have changed, as if it had been before. -/
theorem appended_of_run (h : db.AuditBounded limits) (tables : Repository)
    (hevents : tables.auditEvents = db.tables.auditEvents)
    (hlimits : tables.auditEventLimits = db.tables.auditEventLimits) {done : Unit}
    (hrun : (appendAuditEvent limits event).run ⟨{ db with tables }, false⟩ = (.ok done, client)) :
    Appendable db.tables event ∧ client.aborted = false ∧
      client.state.tables = { tables with auditEvents := db.tables.auditEvents ++ [event] } ∧
      client.state.operationalEvents = db.operationalEvents ∧ client.state.AuditBounded limits := by
  obtain ⟨hroom, hfresh, rfl⟩ := of_run_appendBoundedAuditEvent hrun
  have hids : event.id ∉ db.auditIds := by
    rw [Database.auditIds, ← hevents]
    exact hfresh
  have hcount := h.count
  have hcounted : db.eventCount < limits.global - limits.operationalReserve := hroom
  have hroom : db.tables.auditEvents.length < limits.global - limits.operationalReserve := by omega
  refine ⟨⟨?_, fun candidate hcandidate heq => ?_⟩, rfl, ?_, rfl, ?_, ?_, ?_, ?_, ?_⟩
  · rw [h.configured]
    exact hroom
  · exact hids (List.mem_append_left _ (heq ▸ List.mem_map_of_mem hcandidate))
  · simp only [Database.insert, hevents]
  · exact hlimits.trans h.configured
  · have hperm : (event.id :: db.auditIds).Perm
        ((db.tables.auditEvents ++ [event]).map AuditEvent.id ++
          db.operationalEvents.map OperationalAuditEvent.id) := by
      rw [List.map_append, List.append_assoc]
      exact List.perm_middle.symm
    simp only [Database.auditIds, Database.insert, hevents]
    exact hperm.nodup_iff.1 (List.nodup_cons.2 ⟨hids, h.ids⟩)
  · simp only [Database.insert, hevents, List.length_append, List.length_singleton]
    omega
  · simp only [Database.insert, hevents, List.length_append, List.length_singleton]
    omega
  · simp only [Database.insert]
    omega

theorem Performed.unchanged {α : Type} {whole : Option (α × Repository)} {result : α}
    (h : db.AuditBounded limits) (hwhole : whole = some (result, db.tables)) :
    Performed limits db db whole result := ⟨hwhole, rfl, h⟩

theorem performed_createFirstAccount {account : Account} {created : Bool}
    (h : db.AuditBounded limits)
    (hrun : (createFirstAccount limits account event).run db = (.ok created, db')) :
    Performed limits db db' (db.tables.createFirstAccount account event) created := by
  obtain ⟨client, hwork, rfl⟩ := of_run_transaction hrun
  rw [run_query_bind] at hwork
  unfold Repository.createFirstAccount
  by_cases hempty : db.tables.accounts = []
  · rw [if_neg (by simp [hempty])] at hwork
    rw [if_neg (not_not.2 hempty)]
    obtain ⟨_, inserted, hinsert, hrest⟩ := of_run_bind hwork
    obtain ⟨after, hinserted, rfl⟩ := of_run_execute hinsert
    split_ifs at hinserted
    cases hinserted
    obtain ⟨_, appended, happend, hdone⟩ := of_run_bind hrest
    cases hdone
    obtain ⟨hevent, hopen, htables, hoperational, hbounded⟩ := appended_of_run h
      { db.tables with accounts := Table.set Account.id db.tables.accounts account } rfl rfl happend
    rw [appendAuditEvent_eq_some.2 ⟨hevent, rfl⟩, hopen]
    exact ⟨by rw [if_neg Bool.false_ne_true, htables]; rfl, hoperational, hbounded⟩
  · rw [if_pos (by simpa using hempty)] at hwork
    rw [if_pos hempty]
    cases hwork
    exact .unchanged h rfl

/-- The insert of an account has stored it, or failed without an effect. -/
theorem run_insertAccount_cases (db : Database) (account : Account) :
    ((insertAccount account).run ⟨db, false⟩ = (.ok (), ⟨{ db with tables := { db.tables with
        accounts := Table.set Account.id db.tables.accounts account } }, false⟩) ∧
      (∀ candidate ∈ db.tables.accounts, candidate.id ≠ account.id) ∧
      ∀ candidate ∈ db.tables.accounts, candidate.username ≠ account.username) ∨
    (insertAccount account).run ⟨db, false⟩ = (.error .usernameExists, ⟨db, true⟩) ∧
      (db.tables.accounts.any fun candidate => candidate.username = account.username) = true ∨
    ∃ error, error ≠ .usernameExists ∧
      (insertAccount account).run ⟨db, false⟩ = (.error error, ⟨db, true⟩) := by
  simp only [insertAccount, execute, statement, Bool.false_eq_true, if_false]
  by_cases hconstraints : (!account.satisfiesConstraints) = true
  · rw [if_pos hconstraints]
    exact Or.inr (Or.inr ⟨.constraintViolation, by rintro ⟨⟩, rfl⟩)
  rw [if_neg hconstraints]
  by_cases hid : (db.tables.accounts.any fun candidate => candidate.id = account.id) = true
  · rw [if_pos hid]
    exact Or.inr (Or.inr ⟨.accountExists, by rintro ⟨⟩, rfl⟩)
  rw [if_neg hid]
  by_cases husername :
      (db.tables.accounts.any fun candidate => candidate.username = account.username) = true
  · rw [if_pos husername]
    exact Or.inr (Or.inl ⟨rfl, husername⟩)
  · rw [if_neg husername]
    refine Or.inl ⟨rfl, fun candidate hcandidate heq => ?_, fun candidate hcandidate heq => ?_⟩
    · exact hid (List.any_eq_true.2 ⟨candidate, hcandidate, decide_eq_true heq⟩)
    · exact husername (List.any_eq_true.2 ⟨candidate, hcandidate, decide_eq_true heq⟩)

theorem not_any_of_forall_ne {α : Type} {f : α → JsString} {rows : List α} {value : JsString}
    (h : ∀ row ∈ rows, f row ≠ value) : ¬ (rows.any fun row => f row = value) = true := by
  intro hany
  obtain ⟨row, hrow, heq⟩ := List.any_eq_true.1 hany
  exact h row hrow (of_decide_eq_true heq)

theorem performed_createAccount {account : Account}
    {authorization : AccountMutationAuthorization} {creation : AccountCreationResult}
    (h : db.AuditBounded limits)
    (hrun : (createAccount limits account authorization event).run db = (.ok creation, db')) :
    Performed limits db db' (db.tables.createAccount account authorization event) creation := by
  obtain ⟨client, hwork, rfl⟩ := of_run_transaction hrun
  rw [run_query_bind] at hwork
  unfold Repository.createAccount
  by_cases hauthorized : (!db.tables.isAuthorized authorization) = true
  · rw [if_pos hauthorized] at hwork ⊢
    cases hwork
    exact .unchanged h rfl
  rw [if_neg hauthorized] at hwork ⊢
  rcases run_insertAccount_cases db account with
    ⟨hinsert, hid, husername⟩ | ⟨hinsert, husername⟩ | ⟨error, hother, hinsert⟩
  · have hattempt : (attempt (insertAccount account)).run ⟨db, false⟩ =
        (.ok (.ok ()), ⟨{ db with tables := { db.tables with
          accounts := Table.set Account.id db.tables.accounts account } }, false⟩) := by
      simp only [attempt, hinsert]
    rw [run_bind_ok hattempt] at hwork
    obtain ⟨_, appended, happend, hdone⟩ := of_run_bind hwork
    cases hdone
    obtain ⟨hevent, hopen, htables, hoperational, hbounded⟩ := appended_of_run h
      { db.tables with accounts := Table.set Account.id db.tables.accounts account } rfl rfl happend
    rw [if_neg (not_any_of_forall_ne husername), if_neg (not_any_of_forall_ne hid),
      appendAuditEvent_eq_some.2 ⟨hevent, rfl⟩, hopen]
    exact ⟨by rw [if_neg Bool.false_ne_true, htables]; rfl, hoperational, hbounded⟩
  · have hattempt : (attempt (insertAccount account)).run ⟨db, false⟩ =
        (.ok (.error .usernameExists), ⟨db, true⟩) := by
      simp only [attempt, hinsert]
    rw [run_bind_ok hattempt] at hwork
    cases hwork
    rw [if_pos husername]
    exact .unchanged h rfl
  · have hattempt : (attempt (insertAccount account)).run ⟨db, false⟩ =
        (.ok (.error error), ⟨db, true⟩) := by
      simp only [attempt, hinsert]
    rw [run_bind_ok hattempt] at hwork
    cases error with
    | usernameExists => exact absurd rfl hother
    | _ => cases hwork

theorem performed_changeAccount {accountId : JsString}
    {authorization : AccountMutationAuthorization}
    {refuse : Repository → Account → Option AccountMutationResult} {change : Account → Account}
    {updatedAt : ℤ} {result : AccountMutationResult} (h : db.AuditBounded limits)
    (hrun : (changeAccount limits accountId authorization refuse change updatedAt event).run db =
      (.ok result, db')) :
    Performed limits db db'
      (db.tables.mutateAccount accountId authorization (refuse db.tables) change updatedAt event)
      result := by
  obtain ⟨client, hwork, rfl⟩ := of_run_transaction hrun
  rw [run_query_bind] at hwork
  unfold Repository.mutateAccount
  by_cases hauthorized : (!db.tables.isAuthorized authorization) = true
  · rw [if_pos hauthorized] at hwork ⊢
    cases hwork
    exact .unchanged h rfl
  rw [if_neg hauthorized] at hwork ⊢
  rw [run_query_bind] at hwork
  cases hfound : db.tables.findAccountById accountId with
  | none =>
    rw [hfound] at hwork
    cases hwork
    exact .unchanged h rfl
  | some account =>
    rw [hfound] at hwork
    dsimp only at hwork ⊢
    rw [run_query_bind] at hwork
    cases hrefused : refuse db.tables account with
    | some refused =>
      rw [hrefused] at hwork
      cases hwork
      exact .unchanged h rfl
    | none =>
      rw [hrefused] at hwork
      dsimp only at hwork ⊢
      obtain ⟨_, updated, hupdate, hrest⟩ := of_run_bind hwork
      obtain ⟨after, hupdated, rfl⟩ := of_run_execute hupdate
      split_ifs at hupdated
      cases hupdated
      obtain ⟨_, deleted, hdelete, hrest⟩ := of_run_bind hrest
      obtain ⟨after, hdeleted, rfl⟩ := of_run_execute hdelete
      cases hdeleted
      obtain ⟨_, appended, happend, hdone⟩ := of_run_bind hrest
      cases hdone
      obtain ⟨hevent, hopen, htables, hoperational, hbounded⟩ :=
        appended_of_run h _ (by exact rfl) (by exact rfl) happend
      have hid : account.id = accountId := (Table.get_some hfound).2
      rw [appendAuditEvent_eq_some.2 ⟨hevent, rfl⟩, hopen]
      refine ⟨?_, hoperational, hbounded⟩
      rw [if_neg Bool.false_ne_true, htables, ← hid]
      rfl

theorem performed_revokeAccountSessions {accountId : JsString}
    {authorization : AccountMutationAuthorization} {updatedAt : ℤ} {result : AccountMutationResult}
    (h : db.AuditBounded limits)
    (hrun : (revokeAccountSessions limits accountId authorization updatedAt event).run db =
      (.ok result, db')) :
    Performed limits db db'
      (db.tables.revokeAccountSessions accountId authorization updatedAt event) result := by
  obtain ⟨client, hwork, rfl⟩ := of_run_transaction hrun
  rw [run_query_bind] at hwork
  unfold Repository.revokeAccountSessions Repository.mutateAccount
  by_cases hauthorized : (!db.tables.isAuthorized authorization) = true
  · rw [if_pos hauthorized] at hwork ⊢
    cases hwork
    exact .unchanged h rfl
  rw [if_neg hauthorized] at hwork ⊢
  obtain ⟨returned, middle, hreturned, hrest⟩ := of_run_bind hwork
  obtain ⟨after, hupdate, rfl⟩ := of_run_statement hreturned
  cases hfound : db.tables.findAccountById accountId with
  | none =>
    rw [hfound] at hupdate
    cases hupdate
    cases hrest
    exact .unchanged h rfl
  | some account =>
    rw [hfound] at hupdate
    dsimp only at hupdate ⊢
    split_ifs at hupdate
    cases hupdate
    obtain ⟨_, deleted, hdelete, hrest⟩ := of_run_bind hrest
    obtain ⟨after, hdeleted, rfl⟩ := of_run_execute hdelete
    cases hdeleted
    obtain ⟨_, appended, happend, hdone⟩ := of_run_bind hrest
    cases hdone
    obtain ⟨hevent, hopen, htables, hoperational, hbounded⟩ :=
      appended_of_run h _ (by exact rfl) (by exact rfl) happend
    have hid : account.id = accountId := (Table.get_some hfound).2
    rw [appendAuditEvent_eq_some.2 ⟨hevent, rfl⟩, hopen]
    refine ⟨?_, hoperational, hbounded⟩
    rw [if_neg Bool.false_ne_true, htables, ← hid]
    rfl

theorem Performed.map {α : Type} {method : Method α} {f : α → AccountResult}
    {whole : Option (α × Repository)} {result : AccountResult}
    (hmethod : ∀ value, method.run db = (.ok value, db') → Performed limits db db' whole value)
    (hrun : (f <$> method).run db = (.ok result, db')) :
    Performed limits db db' (whole.map (Prod.map f id)) result := by
  obtain ⟨value, middle, hvalue, hdone⟩ := of_run_bind hrun
  cases hdone
  obtain ⟨hwhole, hoperational, hbounded⟩ := hmethod value hvalue
  exact ⟨by rw [hwhole]; rfl, hoperational, hbounded⟩

theorem performed_call (h : db.AuditBounded limits)
    (hrun : (call.postgres limits).run db = (.ok result, db')) :
    Performed limits db db' (call.call db.tables) result := by
  cases call with
  | createFirstAccount account event =>
    exact .map (fun _ => performed_createFirstAccount h) hrun
  | createAccount account authorization event =>
    exact .map (fun _ => performed_createAccount h) hrun
  | setAccountEnabled accountId enabled authorization updatedAt event =>
    exact .map (fun _ => performed_changeAccount h) hrun
  | setAccountRoles accountId roles authorization updatedAt event =>
    exact .map (fun _ => performed_changeAccount h) hrun
  | replaceAccountPassword accountId hash mustChange expected authorization updatedAt event =>
    exact .map (fun _ => performed_changeAccount h) hrun
  | revokeAccountSessions accountId authorization updatedAt event =>
    exact .map (fun _ => performed_revokeAccountSessions h) hrun

theorem atomic_map {α β : Type} {method : Method α} {f : α → β} (h : Atomic method) :
    Atomic (f <$> method) := by
  intro db error db' hrun
  cases hmethod : method.run db with
  | mk returned middle =>
    cases returned with
    | ok value =>
      have hdone : (f <$> method).run db = (.ok (f value), middle) := run_bind_ok hmethod
      rw [hdone] at hrun
      cases hrun
    | error thrown =>
      have hthrown : (f <$> method).run db = (.error thrown, middle) := run_bind_error hmethod
      rw [hthrown] at hrun
      cases hrun
      exact h db error db' hmethod

theorem atomic_call (limits : AuditEventLimits) (call : AccountCall) :
    Atomic (call.postgres limits) := by
  cases call with
  | _ => exact atomic_map (transaction_atomic _)

/-- An operational event leaves the tables. -/
theorem run_appendOperationalAudit {operational : OperationalAuditEvent} {done : Unit}
    (h : db.AuditBounded limits)
    (hrun : (appendOperationalAudit limits operational).run db = (.ok done, db')) :
    db'.tables = db.tables ∧ db'.operationalEvents = db.operationalEvents ++ [operational] ∧
      db'.AuditBounded limits := by
  obtain ⟨client, hwork, rfl⟩ := of_run_transaction hrun
  obtain ⟨hroom, hfresh, rfl⟩ := of_run_appendBoundedAuditEvent hwork
  rw [if_neg Bool.false_ne_true]
  have hcount := h.count
  have hroom : db.eventCount < limits.global := hroom
  refine ⟨rfl, rfl, h.configured, ?_, h.administrative, ?_, hroom⟩
  · have hperm : (operational.id :: db.auditIds).Perm
        (db.tables.auditEvents.map AuditEvent.id ++
          (db.operationalEvents ++ [operational]).map OperationalAuditEvent.id) := by
      rw [List.map_append, ← List.append_assoc]
      exact (List.perm_append_singleton _ _).symm
    exact hperm.nodup_iff.1 (List.nodup_cons.2 ⟨hfresh, h.ids⟩)
  · simp only [Database.insert, List.length_append, List.length_singleton]
    omega

/-- As long as fewer operational events than the reserve have been recorded, the next one is. -/
theorem operational_recorded {operational : OperationalAuditEvent} (h : db.AuditBounded limits)
    (hvalid : limits.Valid) (hreserve : db.operationalEvents.length < limits.operationalReserve)
    (hfresh : operational.id ∉ db.auditIds)
    (hactor : (db.tables.findAccountById operational.actorAccountId).isSome = true) :
    ∃ db', (appendOperationalAudit limits operational).run db = (.ok (), db') := by
  have hroom : db.eventCount < limits.global := by
    have hcount := h.count
    have hadministrative := h.administrative
    have hrest := hvalid.rest
    omega
  have hreserved : (reserveAuditEvent (AuditScope.operational.maximum limits)).run ⟨db, false⟩ =
      (.ok true, ⟨{ db with eventCount := db.eventCount + 1 }, false⟩) := by
    have hmaximum : db.eventCount < AuditScope.operational.maximum limits := hroom
    simp only [reserveAuditEvent, statement, Bool.false_eq_true, if_false, if_pos hmaximum]
  have hinserted : (insertAuditEvent (.operational operational)).run
      ⟨{ db with eventCount := db.eventCount + 1 }, false⟩ =
        (.ok (), ⟨{ db with eventCount := db.eventCount + 1 }.insert (.operational operational),
          false⟩) := by
    have htaken : StoredAuditEvent.id (.operational operational) ∉
      Database.auditIds { db with eventCount := db.eventCount + 1 } := hfresh
    have hreferences : ¬ (StoredAuditEvent.references (.operational operational)).any
        (fun id => (db.tables.findAccountById id).isNone) = true := by
      simpa [StoredAuditEvent.references, Option.isSome_iff_ne_none] using hactor
    simp only [insertAuditEvent, execute, statement, Bool.false_eq_true, if_false, if_neg htaken,
      if_neg hreferences]
    rfl
  have hwork : (appendBoundedAuditEvent (.operational operational) limits .operational).run
      ⟨db, false⟩ = (.ok (), ⟨{ db with eventCount := db.eventCount + 1 }.insert
        (.operational operational), false⟩) := (run_bind_ok hreserved).trans hinserted
  refine ⟨{ db with eventCount := db.eventCount + 1 }.insert (.operational operational), ?_⟩
  simp only [appendOperationalAudit, transaction, hwork]
  rfl

end Postgres

/-- The repository after some calls. -/
def inMemoryAfter (r : Repository) (calls : List AccountCall) : Repository :=
  calls.foldl (fun r call => (call.inMemory.run r).2) r

/-- What is written to the database: account changes and operational events. -/
inductive DatabaseCall where
  | account (call : AccountCall)
  | operational (event : OperationalAuditEvent)

def databaseAfter (limits : AuditEventLimits) (db : Database) (calls : List DatabaseCall) :
    Database :=
  calls.foldl (fun db call => match call with
    | .account call => ((call.postgres limits).run db).2
    | .operational event => ((Postgres.appendOperationalAudit limits event).run db).2) db

/-- Whatever the next call of the in-memory repository is. -/
structure InMemoryAudited (r : Repository) : Prop where
  bounded : r.AuditBounded
  returned : ∀ (call : AccountCall) result r', call.inMemory.run r = (.ok result, r') →
    CallOutcome call result r r'
  thrown : ∀ (call : AccountCall) error r', call.inMemory.run r = (.error error, r') → r' = r

/-- Whatever the next call to the database is. -/
structure DatabaseAudited (limits : AuditEventLimits) (db : Database) : Prop where
  bounded : db.AuditBounded limits
  returned : ∀ (call : AccountCall) result db', (call.postgres limits).run db = (.ok result, db') →
    CallOutcome call result db.tables db'.tables ∧ db'.operationalEvents = db.operationalEvents ∧
      (result.changed = false → db' = db)
  thrown : ∀ (call : AccountCall) error db', (call.postgres limits).run db = (.error error, db') →
    db' = db
  operational : ∀ event, db.operationalEvents.length < limits.operationalReserve →
    event.id ∉ db.auditIds →
    (db.tables.findAccountById event.actorAccountId).isSome = true →
      ∃ db', (Postgres.appendOperationalAudit limits event).run db = (.ok (), db') ∧
        db'.tables = db.tables ∧ db'.operationalEvents = db.operationalEvents ++ [event]

theorem InMemory.Agrees.cases {α : Type} {whole : Option (α × Repository)}
    {run : Except RepositoryError α × Repository} (h : InMemory.Agrees r whole run) :
    (∃ value, run.1 = .ok value ∧ whole = some (value, run.2)) ∨
      (∃ error, run.1 = .error error) ∧ run.2 = r := by
  cases whole with
  | none =>
    obtain ⟨error, rfl⟩ := h
    exact Or.inr ⟨⟨error, rfl⟩, rfl⟩
  | some pair =>
    obtain rfl : run = (.ok pair.1, pair.2) := h
    exact Or.inl ⟨pair.1, rfl, rfl⟩

theorem inMemory_audited (h : r.AuditBounded) : InMemoryAudited r := by
  refine ⟨h, fun call result r' hrun => ?_, fun call error r' hrun => ?_⟩
  · rcases (agrees_inMemory call r).cases with ⟨value, hvalue, hwhole⟩ | ⟨⟨error, herror⟩, -⟩
    · rw [hrun] at hvalue hwhole
      cases hvalue
      exact call_outcome hwhole
    · rw [hrun] at herror
      cases herror
  · rcases (agrees_inMemory call r).cases with ⟨value, hvalue, -⟩ | ⟨-, hsame⟩
    · rw [hrun] at hvalue
      cases hvalue
    · rw [hrun] at hsame
      exact hsame

theorem CallOutcome.auditBounded (h : CallOutcome call result r r') (hbounded : r.AuditBounded) :
    r'.AuditBounded := by
  cases hchanged : result.changed with
  | false => exact (h.refused hchanged) ▸ hbounded
  | true =>
    obtain ⟨⟨account, -, -, rfl⟩, hevent⟩ := h.changed hchanged
    refine hbounded.appended hevent rfl ?_
    cases call with
    | _ => rfl

theorem inMemoryAfter_bounded (h : r.AuditBounded) (calls : List AccountCall) :
    (inMemoryAfter r calls).AuditBounded := by
  induction calls generalizing r with
  | nil => exact h
  | cons call calls ih =>
    have haudited := inMemory_audited h
    refine ih ?_
    dsimp only
    cases hrun : call.inMemory.run r with
    | mk returned r' =>
      cases returned with
      | ok result => exact (haudited.returned call result r' hrun).auditBounded h
      | error error =>
        obtain rfl := haudited.thrown call error r' hrun
        exact h

theorem database_audited {limits : AuditEventLimits} {db : Database} (hvalid : limits.Valid)
    (h : db.AuditBounded limits) : DatabaseAudited limits db := by
  refine ⟨h, fun call result db' hrun => ?_, fun call error db' => Postgres.atomic_call _ _ _ _ _,
    fun event hreserve hfresh hactor => ?_⟩
  · obtain ⟨hwhole, hoperational, hbounded⟩ := Postgres.performed_call h hrun
    have houtcome := call_outcome hwhole
    refine ⟨houtcome, hoperational, fun hunchanged => ?_⟩
    have htables := houtcome.refused hunchanged
    have hcount := hbounded.count
    rw [htables, hoperational, ← h.count] at hcount
    cases db'
    cases db
    simp_all only
  · obtain ⟨db', hrun⟩ := Postgres.operational_recorded h hvalid hreserve hfresh hactor
    obtain ⟨htables, hoperational, -⟩ := Postgres.run_appendOperationalAudit h hrun
    exact ⟨db', hrun, htables, hoperational⟩

theorem databaseAfter_bounded {limits : AuditEventLimits} {db : Database}
    (h : db.AuditBounded limits) (calls : List DatabaseCall) :
    (databaseAfter limits db calls).AuditBounded limits := by
  induction calls generalizing db with
  | nil => exact h
  | cons call calls ih =>
    refine ih ?_
    cases call with
    | account call =>
      dsimp only
      cases hrun : (call.postgres limits).run db with
      | mk returned db' =>
        cases returned with
        | ok result => exact (Postgres.performed_call h hrun).bounded
        | error error =>
          obtain rfl := Postgres.atomic_call limits call db error db' hrun
          exact h
    | operational event =>
      dsimp only
      cases hrun : (Postgres.appendOperationalAudit limits event).run db with
      | mk returned db' =>
        cases returned with
        | ok done => exact (Postgres.run_appendOperationalAudit h hrun).2.2
        | error error =>
          obtain rfl := Procedure.transaction_atomic _ db error db' hrun
          exact h

/-- After any calls, the next one appends its event with its change or does nothing, and the reserve
is left to the operational events. -/
theorem account_changes_audited {limits : AuditEventLimits} (hvalid : limits.Valid) :
    (∀ r : Repository, r.AuditBounded → ∀ calls, InMemoryAudited (inMemoryAfter r calls)) ∧
      ∀ db : Database, db.AuditBounded limits → ∀ calls,
        DatabaseAudited limits (databaseAfter limits db calls) :=
  ⟨fun _ h calls => inMemory_audited (inMemoryAfter_bounded h calls),
    fun _ h calls => database_audited hvalid (databaseAfter_bounded h calls)⟩

namespace Bootstrap

def root : Account where
  id := [1]
  username := JsString.ofAscii "root"
  displayName := JsString.ofAscii "root"
  roles := [.admin]
  passwordHash := []
  enabled := true
  mustChangePassword := true
  authVersion := 1
  createdAt := 0
  updatedAt := 0

def bootstrapped : AuditEvent := ⟨[2], .accountBootstrapped, none, some [1], 0⟩

def empty : Repository := (start defaultAuditEventLimits).store

end Bootstrap

open Bootstrap in
theorem account_changes_audited_bootstrap :
    ((inMemoryAfter empty [.createFirstAccount root bootstrapped]).auditEvents.length,
      (databaseAfter defaultAuditEventLimits ⟨empty, [], 0⟩
        [.account (.createFirstAccount root bootstrapped)]).eventCount) = (1, 1) ∧
      InMemoryAudited (inMemoryAfter empty [.createFirstAccount root bootstrapped]) ∧
      DatabaseAudited defaultAuditEventLimits (databaseAfter defaultAuditEventLimits ⟨empty, [], 0⟩
        [.account (.createFirstAccount root bootstrapped)]) := by
  have hvalid : defaultAuditEventLimits.Valid := ⟨by decide, by decide⟩
  have hclaim := account_changes_audited hvalid
  have hstored : empty.AuditBounded := ⟨List.nodup_nil, Nat.zero_le _⟩
  have hdatabase : Database.AuditBounded defaultAuditEventLimits ⟨empty, [], 0⟩ :=
    ⟨rfl, List.nodup_nil, Nat.zero_le _, rfl, Nat.zero_le _⟩
  exact ⟨by decide +kernel, hclaim.1 empty hstored _, hclaim.2 _ hdatabase _⟩

end Lotur.Auth
