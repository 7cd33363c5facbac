import Lotur.Auth.ArtifactTables

/-! The first account is an administrator, and from then on one stays enabled: what could take the
last one away is refused. A change that needs an administrator is made only while its actor is
one. -/
namespace Lotur.Auth
open Interleaving

/-- Enabled, with the `ADMIN` role. -/
def Account.administers (account : Account) : Bool :=
  account.enabled && account.roles.contains .admin

/-- The call only looks an account up. -/
def Query.reads : Query → Bool
  | .findAccountById _ => true
  | .findAccountByUsername _ => true
  | _ => false

theorem Account.administers_iff {account : Account} :
    account.administers = true ↔ account.enabled = true ∧ .admin ∈ account.roles := by
  simp [Account.administers]

/-- What an operation on artifacts asks: the account, and the calls on artifacts. -/
def Query.servesArtifacts (query : Query) : Bool := query.reads || query.handlesArtifact

theorem Query.servesArtifacts_of_reads {query : Query} (h : query.reads = true) :
    query.servesArtifacts = true := by
  rw [servesArtifacts, h, Bool.true_or]

theorem Query.leavesAccounts_of_servesArtifacts {query : Query} (h : query.servesArtifacts = true) :
    query.leavesAccounts = true := by
  cases query <;> first | rfl | cases h

theorem Query.leavesAccounts_of_reads {query : Query} (h : query.reads = true) :
    query.leavesAccounts = true := by
  cases query with
  | findAccountById id => rfl
  | findAccountByUsername username => rfl
  | _ => cases h

namespace Repository

variable {r r' : Repository} {backend : Backend} {placement : Placement}

theorem isAuthorized_iff {authorization : AccountMutationAuthorization} :
    r.isAuthorized authorization = true ↔
      ∃ actor, r.findAccountById authorization.accountId = some actor ∧ actor.enabled = true ∧
        actor.authVersion = authorization.authVersion ∧
        (authorization.allowPasswordChangeRequired = true ∨ actor.mustChangePassword = false) ∧
        ∀ role, authorization.requiredRole = some role → role ∈ actor.roles := by
  unfold isAuthorized
  cases r.findAccountById authorization.accountId with
  | none => simp
  | some actor =>
    cases authorization.requiredRole with
    | none => simp [and_assoc]
    | some role => simp [and_assoc]

/-- What a call does to the accounts. -/
inductive AccountEffect (r r' : Repository) : Query → Prop
  | kept (query : Query) (haccounts : r'.accounts = r.accounts) : AccountEffect r r' query
  | first (account : Account) (event : AuditEvent) (hempty : r.accounts = [])
      (haccounts : r'.accounts = Table.set Account.id r.accounts account) :
      AccountEffect r r' (.createFirstAccount account event)
  | created (account : Account) (authorization : AccountMutationAuthorization) (event : AuditEvent)
      (hauthorized : r.isAuthorized authorization = true)
      (husername : ∀ candidate ∈ r.accounts, candidate.username ≠ account.username)
      (hid : r.findAccountById account.id = none)
      (haccounts : r'.accounts = Table.set Account.id r.accounts account) :
      AccountEffect r r' (.createAccount account authorization event)
  | changed (query : Query) (account updated : Account) (hmutation : Mutation r r' account updated)
      (husername : updated.username = account.username)
      (hremains : account.administers = true → updated.administers = true ∨
        1 < r.enabledAdministratorCount) : AccountEffect r r' query

variable {query : Query} {account updated : Account}

/-- A change that refuses to take the last administrator away. -/
theorem AccountEffect.of_mutateAccount {accountId : JsString}
    {authorization : AccountMutationAuthorization}
    {refuse : Account → Option AccountMutationResult} {change : Account → Account} {updatedAt : ℤ}
    {event : AuditEvent} {result : AccountMutationResult}
    (h : r.mutateAccount accountId authorization refuse change updatedAt event =
      some (result, r'))
    (hrefuse : ∀ account updated, refuse account ≠ some (.updated updated))
    (husername : ∀ account, (change account).username = account.username)
    (hremains : ∀ account, refuse account = none → account.administers = true →
      (change account).administers = true ∨ 1 < r.enabledAdministratorCount) :
    AccountEffect r r' query := by
  rcases mutateAccount_cases hrefuse h with ⟨rfl, -⟩ | ⟨account, updated, -, hchange⟩
  · exact .kept query rfl
  · obtain ⟨updatedAt, hupdated⟩ := hchange.changed
    refine .changed query account updated hchange.toMutation ?_ fun hadministers => ?_
    · rw [hupdated]
      exact husername account
    · have hcase := hremains account hchange.allowed hadministers
      rw [hupdated]
      exact hcase

theorem call_accountEffect {value : query.Value}
    (h : r.call backend placement query = some (value, r')) : AccountEffect r r' query := by
  by_cases hleaves : query.leavesAccounts = true
  · exact .kept query (call_artifactEffect hleaves h).accounts
  cases query with
  | createFirstAccount account event =>
    simp only [call, createFirstAccount] at h
    split_ifs at h with hempty
    · cases h
      exact .kept _ rfl
    · obtain ⟨appended, happended, heq⟩ := Option.map_eq_some_iff.1 h
      rw [appendAuditEvent_eq happended] at heq
      cases heq
      exact .first account event (not_not.1 hempty) rfl
  | createAccount account authorization event =>
    simp only [call, createAccount] at h
    split_ifs at h with hauthorized husername hid
    · cases h
      exact .kept _ rfl
    · cases h
      exact .kept _ rfl
    · obtain ⟨appended, happended, heq⟩ := Option.map_eq_some_iff.1 h
      rw [appendAuditEvent_eq happended] at heq
      cases heq
      refine .created account authorization event (by simpa using hauthorized) ?_ ?_ rfl
      · intro candidate hcandidate heq
        exact husername (List.any_eq_true.2 ⟨candidate, hcandidate, by simpa using heq⟩)
      · refine Table.get_eq_none_iff.2 fun candidate hcandidate heq => ?_
        exact hid (List.any_eq_true.2 ⟨candidate, hcandidate, by simpa using heq⟩)
  | setAccountEnabled accountId enabled authorization updatedAt event =>
    refine .of_mutateAccount h (fun _ _ => by split_ifs <;> simp) (fun _ => rfl) ?_
    intro account hallowed hadministers
    split_ifs at hallowed with hlast
    simp only [Account.administers, Bool.and_eq_true] at hadministers
    simp only [Bool.and_eq_true, Bool.not_eq_true', decide_eq_true_eq, hadministers.1,
      hadministers.2, and_true, not_and, not_le] at hlast
    cases enabled with
    | true => exact Or.inl hadministers.2
    | false => exact Or.inr (hlast rfl)
  | setAccountRoles accountId roles authorization updatedAt event =>
    refine .of_mutateAccount h (fun _ _ => by split_ifs <;> simp) (fun _ => rfl) ?_
    intro account hallowed hadministers
    split_ifs at hallowed with hlast
    simp only [Account.administers, Bool.and_eq_true] at hadministers
    simp only [Bool.and_eq_true, Bool.not_eq_true', decide_eq_true_eq, hadministers.1,
      hadministers.2, true_and, not_and, not_le] at hlast
    by_cases hroles : roles.contains .admin = true
    · exact Or.inl (by rw [Account.administers, hadministers.1, hroles]; rfl)
    · exact Or.inr (hlast (by simpa using hroles))
  | replaceAccountPassword accountId hash mustChange expected authorization updatedAt event =>
    exact .of_mutateAccount h (fun _ _ => by split_ifs <;> simp) (fun _ => rfl)
      (fun _ _ => Or.inl)
  | revokeAccountSessions accountId authorization updatedAt event =>
    have hrevoked : r.mutateAccount accountId authorization (fun _ => none) id updatedAt event =
      some (value, r') := h
    exact .of_mutateAccount hrevoked (fun _ _ => Option.some_ne_none _ ∘ Eq.symm) (fun _ => rfl)
      (fun _ _ => Or.inl)
  | _ => exact absurd rfl hleaves

/-- An enabled administrator is in the table. -/
def Administered (r : Repository) : Prop :=
  ∃ account ∈ r.accounts, account.administers = true

/-- Usernames and ids are unique, and a table that is not empty has an enabled administrator. -/
structure Roster (r : Repository) : Prop where
  ids : (r.accounts.map Account.id).Nodup
  usernames : (r.accounts.map Account.username).Nodup
  administered : r.accounts ≠ [] → r.Administered

/-- Where two accounts administer, one of them is not the account in question. -/
theorem exists_other_administrator (hids : (r.accounts.map Account.id).Nodup)
    (hcount : 1 < r.enabledAdministratorCount) (id : JsString) :
    ∃ other ∈ r.accounts, other.administers = true ∧ other.id ≠ id := by
  have hnodup : ((r.accounts.filter Account.administers).map Account.id).Nodup :=
    hids.sublist (List.filter_sublist.map _)
  have hmem : ∀ account ∈ r.accounts.filter Account.administers,
      account ∈ r.accounts ∧ account.administers = true := fun _ => List.mem_filter.1
  change 1 < (r.accounts.filter Account.administers).length at hcount
  generalize r.accounts.filter Account.administers = administrators at hnodup hmem hcount
  match administrators with
  | [] => cases hcount
  | [_] => exact absurd hcount (lt_irrefl 1)
  | first :: second :: rest =>
    have hfirst := hmem first List.mem_cons_self
    have hsecond := hmem second (List.mem_cons_of_mem _ List.mem_cons_self)
    have hne : first.id ≠ second.id := by
      intro heq
      rw [List.map_cons, List.map_cons, List.nodup_cons, heq] at hnodup
      exact hnodup.1 List.mem_cons_self
    by_cases hid : first.id = id
    · exact ⟨second, hsecond.1, hsecond.2, fun heq => hne (hid.trans heq.symm)⟩
    · exact ⟨first, hfirst.1, hfirst.2, hid⟩

/-- A call keeps the roster, when a first account is an enabled administrator. -/
theorem AccountEffect.roster (h : AccountEffect r r' query) (hroster : r.Roster)
    (hfirst : ∀ account event, query = .createFirstAccount account event →
      account.administers = true) : r'.Roster := by
  cases h with
  | kept query haccounts =>
    refine ⟨haccounts ▸ hroster.ids, haccounts ▸ hroster.usernames, fun hne => ?_⟩
    obtain ⟨account, hmem, hadministers⟩ := hroster.administered (haccounts ▸ hne)
    exact ⟨account, haccounts ▸ hmem, hadministers⟩
  | first account event hempty haccounts =>
    rw [hempty] at haccounts
    refine ⟨?_, ?_, fun _ => ⟨account, ?_, hfirst account event rfl⟩⟩
    · rw [haccounts]
      exact List.nodup_singleton _
    · rw [haccounts]
      exact List.nodup_singleton _
    · rw [haccounts]
      exact Table.mem_set_self
  | created account authorization event hauthorized husername hid haccounts =>
    rw [Table.set_of_free hid] at haccounts
    obtain ⟨actor, hactor, -⟩ := isAuthorized_iff.1 hauthorized
    have hne : r.accounts ≠ [] := List.ne_nil_of_mem (Table.get_some hactor).1
    obtain ⟨administrator, hmem, hadministers⟩ := hroster.administered hne
    refine ⟨?_, ?_, fun _ => ⟨administrator, ?_, hadministers⟩⟩
    · rw [haccounts, ← Table.set_of_free hid]
      exact Table.nodup_set hroster.ids
    · rw [haccounts, List.map_append, List.nodup_append]
      refine ⟨hroster.usernames, List.nodup_singleton _, ?_⟩
      intro name hname other hother heq
      obtain ⟨candidate, hcandidate, rfl⟩ := List.mem_map.1 hname
      rw [List.map_singleton, List.mem_singleton] at hother
      exact husername candidate hcandidate (heq.trans hother)
    · rw [haccounts]
      exact List.mem_append_left _ hmem
  | changed query account updated hmutation husername hremains =>
    have hfound := Table.get_some hmutation.found
    refine ⟨hmutation.accounts ▸ Table.nodup_set hroster.ids, ?_, fun _ => ?_⟩
    · rw [hmutation.accounts,
        Table.map_set_of_mem Account.username hroster.ids hfound.1 hfound.2.symm husername]
      exact hroster.usernames
    have hstored : updated ∈ r'.accounts := hmutation.accounts ▸ Table.mem_set_self
    -- another administrator stays as it is; the changed account may stay one itself
    have hother : ∀ other ∈ r.accounts, other.administers = true → other.id ≠ updated.id →
        r'.Administered := fun other hmem hadministers hne =>
      ⟨other, hmutation.accounts ▸ Table.mem_set_of_ne hmem hne, hadministers⟩
    obtain ⟨administrator, hmem, hadministers⟩ :=
      hroster.administered (List.ne_nil_of_mem hfound.1)
    by_cases heq : administrator.id = updated.id
    · have hsame : administrator = account :=
        List.inj_on_of_nodup_map hroster.ids hmem hfound.1 (heq.trans hfound.2.symm)
      rcases hremains (hsame ▸ hadministers) with hupdated | hcount
      · exact ⟨updated, hstored, hupdated⟩
      · obtain ⟨other, hmem, hadministers, hne⟩ :=
          exists_other_administrator hroster.ids hcount updated.id
        exact hother other hmem hadministers hne
    · exact hother administrator hmem hadministers heq

/-- A call that carries an authorization changes nothing unless it is met. -/
theorem call_authorized {value : query.Value} {authorization : AccountMutationAuthorization}
    (hquery : query.authorization = some authorization)
    (h : r.call backend placement query = some (value, r')) :
    r' = r ∨ r.isAuthorized authorization = true := by
  by_cases hauthorized : r.isAuthorized authorization = true
  · exact Or.inr hauthorized
  left
  cases query with
  | createAccount account authorization' event =>
    cases hquery
    simp only [call, createAccount, hauthorized] at h
    cases h
    rfl
  | setAccountEnabled accountId enabled authorization' updatedAt event =>
    cases hquery
    simp only [call, setAccountEnabled, mutateAccount, hauthorized] at h
    cases h
    rfl
  | setAccountRoles accountId roles authorization' updatedAt event =>
    cases hquery
    simp only [call, setAccountRoles, mutateAccount, hauthorized] at h
    cases h
    rfl
  | replaceAccountPassword accountId hash mustChange expected authorization' updatedAt event =>
    cases hquery
    simp only [call, replaceAccountPassword, mutateAccount, hauthorized] at h
    cases h
    rfl
  | revokeAccountSessions accountId authorization' updatedAt event =>
    cases hquery
    simp only [call, revokeAccountSessions, mutateAccount, hauthorized] at h
    cases h
    rfl
  | _ => cases hquery

theorem call_reads {value : query.Value} (hreads : query.reads = true)
    (h : r.call backend placement query = some (value, r')) : r' = r := by
  cases query with
  | findAccountById id => cases h; rfl
  | findAccountByUsername username => cases h; rfl
  | _ => cases hreads

end Repository

/-- The actor of an operation that needs an administrator. -/
def Operation.administrator : Operation → Option AccountAuthorization
  | .createAccount actor _ _ _ => some actor
  | .setAccountEnabled actor _ _ => some actor
  | .setAccountRoles actor _ _ => some actor
  | .resetPassword actor _ => some actor
  | .revokeSessions actor _ => some actor
  | _ => none

/-- What an operation may ask: the first account is an enabled administrator, and an operation that
needs an administrator writes only in the name of its actor. -/
structure Operation.Permits (operation : Operation) (query : Query) : Prop where
  first : ∀ account event, query = .createFirstAccount account event → account.administers = true
  administrator : ∀ actor, operation.administrator = some actor →
    query.reads = true ∨ query.authorization = some (administratorAuthorization actor)

section Programs

variable {operation : Operation} {allowed : Query → Prop} {α β : Type}

theorem Operation.permits_reads {query : Query} (h : query.reads = true) :
    operation.Permits query := by
  refine ⟨?_, fun _ _ => Or.inl h⟩
  rintro account event rfl
  cases h

theorem Operation.permits_leavesAccounts (hoperation : operation.administrator = none)
    {query : Query} (h : query.leavesAccounts = true) : operation.Permits query := by
  refine ⟨?_, fun actor hactor => ?_⟩
  · rintro account event rfl
    cases h
  · rw [hoperation] at hactor
    cases hactor

theorem Operation.permits_authorization {actor : AccountAuthorization} {query : Query}
    (hoperation : operation.administrator = some actor)
    (h : query.authorization = some (administratorAuthorization actor)) :
    operation.Permits query := by
  refine ⟨?_, fun other hother => ?_⟩
  · rintro account event rfl
    cases h
  · rw [hoperation] at hother
    cases hother
    exact Or.inr h

theorem only_ask {returns : α → Prop} {query : Query} {next : Reply query → AuthM α}
    (hquery : allowed query) (h : ∀ reply, (next reply).Only allowed returns) :
    (ask query >>= next).Only allowed returns := ⟨hquery, h⟩

theorem only_throwAuth {returns : α → Prop} (code : AuthErrorCode) (message : String) :
    (throwAuth code message : AuthM α).Only allowed returns := trivial

theorem only_require (result : Except AuthError α) :
    (require result).Only allowed fun value => result = .ok value := by
  cases result with
  | ok value => rfl
  | error error => trivial

namespace AuthService

variable (service : AuthService)

theorem only_requireEnabledAccount (h : ∀ query, query.reads = true → allowed query)
    (principal : AccountAuthorization) :
    (requireEnabledAccount principal).Only allowed fun _ => True := by
  refine only_ask (h _ rfl) fun reply => ?_
  obtain ⟨value, fresh⟩ := reply
  cases value with
  | none => trivial
  | some account =>
    dsimp only
    split_ifs <;> trivial

theorem only_requireCurrentAccount (h : ∀ query, query.reads = true → allowed query)
    (principal : AccountAuthorization) :
    (requireCurrentAccount principal).Only allowed fun _ => True := by
  refine .bind (only_requireEnabledAccount h principal) fun found _ => ?_
  obtain ⟨account, fresh⟩ := found
  dsimp only
  split_ifs <;> trivial

theorem only_requireAdministrator (h : ∀ query, query.reads = true → allowed query)
    (principal : AccountAuthorization) :
    (requireAdministrator principal).Only allowed fun _ => True := by
  refine .bind (only_requireCurrentAccount h principal) fun found _ => ?_
  obtain ⟨account, fresh⟩ := found
  dsimp only
  split_ifs <;> trivial

theorem only_requireCurrentArtifactAccount (h : ∀ query, query.reads = true → allowed query)
    (expected : AccountAuthorization) :
    (requireCurrentArtifactAccount expected).Only allowed fun _ => True := by
  refine only_ask (h _ rfl) fun reply => ?_
  obtain ⟨value, fresh⟩ := reply
  cases value with
  | none => trivial
  | some account =>
    dsimp only
    split_ifs <;> trivial

theorem only_requireAccount (h : ∀ query, query.reads = true → allowed query)
    (accountId : JsString) : (requireAccount accountId).Only allowed fun _ => True := by
  refine only_ask (h _ rfl) fun reply => ?_
  obtain ⟨value, fresh⟩ := reply
  cases value with
  | none => trivial
  | some account => trivial

theorem only_requireUpdatedAccount (result : AccountMutationResult) :
    (requireUpdatedAccount result).Only allowed fun _ => True := by
  cases result <;> trivial

theorem only_verifyCredentials
    (h : ∀ query, query.leavesAccounts = true → query.handlesArtifact = false → allowed query)
    (input : Credentials) (now : ℤ) (knownAccount : Option Account) :
    (service.verifyCredentials input now knownAccount).Only allowed fun _ => True := by
  have hlogin : ∀ username, (loginAccount username knownAccount).Only allowed fun _ => True := by
    intro username
    cases knownAccount with
    | some account => trivial
    | none =>
      cases username with
      | none => trivial
      | some username => exact only_ask (h _ rfl rfl) fun _ => trivial
  refine .bind (hlogin _) fun account _ => ?_
  refine only_ask (h _ rfl rfl) fun identity => only_ask (h _ rfl rfl) fun remote => ?_
  split_ifs
  · exact only_throwAuth _ _
  dsimp only
  generalize service.verify _ _ = passwordMatches
  cases account.filter fun account => account.enabled && passwordMatches with
  | none =>
    refine only_ask (h _ rfl rfl) fun recorded => ?_
    split_ifs <;> trivial
  | some found => exact only_ask (h _ rfl rfl) fun _ => trivial

theorem only_issueSession (h : ∀ query, query.servesArtifacts = true → allowed query)
    (account : Account) (now : ℤ) (audience : JsString) (fresh : Fresh) :
    (service.issueSession account now audience fresh).Only allowed fun _ => True := by
  refine only_ask (h _ rfl) fun saved => ?_
  obtain ⟨value, later⟩ := saved
  cases value with
  | true => trivial
  | false =>
    refine .bind (only_requireCurrentArtifactAccount (fun query hreads => ?_) _) fun _ _ => trivial
    exact h query (Query.servesArtifacts_of_reads hreads)

/-- A new account is enabled and has the roles asked for. -/
theorem only_buildAccount (h : ∀ query, query.reads = true → allowed query)
    (username displayName : JsString) (roles : List AccountRole) :
    (service.buildAccount username displayName roles).Only allowed fun built =>
      built.1.enabled = true ∧ normalizeRoles roles = .ok built.1.roles := by
  refine .bind (only_require _) fun username _ => ?_
  refine .bind (only_require _) fun displayName _ => ?_
  refine .bind (only_require _) fun normalized hnormalized => ?_
  refine only_ask (h _ rfl) fun found => ?_
  split_ifs
  · exact only_throwAuth _ _
  · exact ⟨rfl, hnormalized⟩

theorem only_bootstrapAdministrator (username displayName : JsString) :
    (service.bootstrapAdministrator username displayName).Only
      (Operation.bootstrapAdministrator username displayName).Permits fun _ => True := by
  refine .bind (service.only_buildAccount (fun _ => Operation.permits_reads) username displayName
    [.admin]) fun built hbuilt => ?_
  obtain ⟨account, temporaryPassword, fresh⟩ := built
  obtain ⟨henabled, hroles⟩ := hbuilt
  refine only_ask ⟨?_, nofun⟩ fun created => ?_
  · rintro _ _ ⟨⟩
    have hadmin : [AccountRole.admin] = account.roles := Except.ok.inj hroles
    rw [Account.administers, henabled, ← hadmin]
    rfl
  · obtain ⟨value, fresh⟩ := created
    cases value <;> trivial

section Plain

variable (h : ∀ query, query.servesArtifacts = true → allowed query)
include h

theorem only_createLoginIntent (targetHost targetPath : JsString) (fresh : Fresh) :
    (service.createLoginIntent targetHost targetPath fresh).Only allowed fun _ => True := by
  unfold createLoginIntent
  split_ifs
  · exact only_throwAuth _ _
  · refine only_ask (h _ rfl) fun saved => ?_
    obtain ⟨value, fresh⟩ := saved
    cases value <;> trivial

theorem only_createSessionExchange (principal : Principal) (intentId : JsString) :
    (service.createSessionExchange principal intentId).Only allowed fun _ => True := by
  have hreads := fun query hquery => h query (Query.servesArtifacts_of_reads hquery)
  refine .bind (only_requireCurrentAccount hreads principal.authorization) fun found _ => ?_
  obtain ⟨account, fresh⟩ := found
  dsimp only
  split_ifs
  · exact only_throwAuth _ _
  refine only_ask (h _ rfl) fun consumed => ?_
  obtain ⟨value, later⟩ := consumed
  cases value with
  | none => trivial
  | some intent =>
    refine only_ask (h _ rfl) fun saved => ?_
    obtain ⟨value, fresh⟩ := saved
    cases value with
    | true => trivial
    | false => exact .bind (only_requireCurrentArtifactAccount hreads _) fun _ _ => trivial

theorem only_consumeSessionExchange (code targetHost : JsString) (fresh : Fresh) :
    (service.consumeSessionExchange code targetHost fresh).Only allowed fun _ => True := by
  have hreads := fun query hquery => h query (Query.servesArtifacts_of_reads hquery)
  have hcandidates : ∀ digests fresh,
      (consumeExchangeCandidates targetHost digests fresh).Only allowed fun _ => True := by
    intro digests
    induction digests with
    | nil => exact fun _ => only_throwAuth _ _
    | cons digest digests ih =>
      intro fresh
      refine only_ask (h _ rfl) fun consumed => ?_
      obtain ⟨value, later⟩ := consumed
      cases value with
      | some exchange => trivial
      | none => exact ih later
  refine .bind (hcandidates _ fresh) fun exchange _ => ?_
  refine .bind (only_requireAccount hreads exchange.accountId) fun found _ => ?_
  obtain ⟨account, later⟩ := found
  dsimp only
  split_ifs
  · exact only_throwAuth _ _
  · exact .bind (service.only_issueSession h _ _ _ _) fun _ _ => trivial

theorem only_issueCarrierCredential (principal : Principal) (purpose : CarrierPurpose)
    (tunnelId : JsString) :
    (service.issueCarrierCredential principal purpose tunnelId).Only allowed fun _ => True := by
  have hreads := fun query hquery => h query (Query.servesArtifacts_of_reads hquery)
  refine .bind (only_requireCurrentAccount hreads principal.authorization) fun found _ => ?_
  obtain ⟨account, fresh⟩ := found
  dsimp only
  split_ifs
  · exact only_throwAuth _ _
  · exact only_throwAuth _ _
  refine only_ask (h _ rfl) fun saved => ?_
  obtain ⟨value, fresh⟩ := saved
  cases value with
  | true => trivial
  | false => exact .bind (only_requireCurrentArtifactAccount hreads _) fun _ _ => trivial

theorem only_consumeCarrierCredential (token : JsString) (fresh : Fresh) :
    (service.consumeCarrierCredential token fresh).Only allowed fun _ => True := by
  have hreads := fun query hquery => h query (Query.servesArtifacts_of_reads hquery)
  have hcandidates : ∀ id digests fresh,
      (consumeCredentialCandidates id digests fresh).Only allowed fun _ => True := by
    intro id digests
    induction digests with
    | nil => exact fun _ => only_throwAuth _ _
    | cons digest digests ih =>
      intro fresh
      refine only_ask (h _ rfl) fun consumed => ?_
      obtain ⟨value, later⟩ := consumed
      cases value with
      | some credential => trivial
      | none => exact ih later
  unfold consumeCarrierCredential
  dsimp only
  split_ifs
  · exact only_throwAuth _ _
  refine .bind (hcandidates _ _ fresh) fun credential _ => ?_
  refine .bind (only_requireAccount hreads credential.accountId) fun found _ => ?_
  obtain ⟨account, later⟩ := found
  dsimp only
  split_ifs <;> trivial

end Plain

theorem only_resolveSession (h : ∀ query, query.leavesAccounts = true → allowed query)
    (sessionToken expectedAudience : JsString) :
    (service.resolveSession sessionToken expectedAudience).Only allowed fun _ => True := by
  unfold resolveSession
  split_ifs
  · trivial
  refine only_ask (h _ rfl) fun found => ?_
  obtain ⟨value, fresh⟩ := found
  cases value with
  | none => trivial
  | some found =>
    obtain ⟨session, account⟩ := found
    dsimp only
    split_ifs
    · trivial
    · exact only_ask (h _ rfl) fun _ => trivial
    · trivial

theorem only_cleanupBatches
    (h : ∀ now batchSize, allowed (.deleteExpiredAuthArtifacts now batchSize)) (now : ℤ)
    (batches : ℕ) :
    (cleanupBatches now batches).Only allowed fun _ => True := by
  induction batches with
  | zero => trivial
  | succ batches ih =>
    refine only_ask (h _ _) fun deleted => ?_
    split_ifs
    · trivial
    · exact ih

theorem only_replacePassword (account : Account) (password : JsString)
    (mustChangePassword : Bool) (action : AuditAction) (actorAccountId : JsString)
    (authorization : AccountMutationAuthorization) (fresh : Fresh)
    (h : ∀ query, query.authorization = some authorization → allowed query) :
    (replacePassword account password mustChangePassword action actorAccountId authorization
      fresh).Only allowed fun _ => True :=
  only_ask (h _ rfl) fun _ => only_requireUpdatedAccount _

theorem only_changeOwnPassword (principal : Principal) (currentPassword newPassword : JsString) :
    (service.changeOwnPassword principal currentPassword newPassword).Only
      (Operation.changeOwnPassword principal currentPassword newPassword).Permits
      fun _ => True := by
  refine .bind (only_requireEnabledAccount (fun _ => Operation.permits_reads) _) fun found _ => ?_
  obtain ⟨account, fresh⟩ := found
  refine .bind (service.only_verifyCredentials
    (fun _ hleaves _ => Operation.permits_leavesAccounts rfl hleaves) _ _ _) fun verified _ => ?_
  refine .bind (only_require _) fun _ _ => ?_
  refine .bind (only_ask ⟨nofun, nofun⟩ fun _ => only_requireUpdatedAccount _) fun _ _ => trivial

theorem only_createAccount (actor : AccountAuthorization) (username displayName : JsString)
    (roles : List AccountRole) :
    (service.createAccount actor username displayName roles).Only
      (Operation.createAccount actor username displayName roles).Permits fun _ => True := by
  refine .bind (only_requireAdministrator (fun _ => Operation.permits_reads) actor) fun _ _ => ?_
  refine .bind (service.only_buildAccount (fun _ => Operation.permits_reads) _ _ _)
    fun built _ => ?_
  obtain ⟨account, temporaryPassword, fresh⟩ := built
  refine only_ask (Operation.permits_authorization rfl rfl) fun created => ?_
  obtain ⟨value, fresh⟩ := created
  cases value <;> trivial

theorem only_setAccountEnabled (actor : AccountAuthorization) (accountId : JsString)
    (enabled : Bool) :
    (setAccountEnabled actor accountId enabled).Only
      (Operation.setAccountEnabled actor accountId enabled).Permits fun _ => True := by
  refine .bind (only_requireAdministrator (fun _ => Operation.permits_reads) actor) fun _ _ => ?_
  refine only_ask (Operation.permits_authorization rfl rfl) fun _ => ?_
  exact .bind (only_requireUpdatedAccount _) fun _ _ => trivial

theorem only_setAccountRoles (actor : AccountAuthorization) (accountId : JsString)
    (roles : List AccountRole) :
    (setAccountRoles actor accountId roles).Only
      (Operation.setAccountRoles actor accountId roles).Permits fun _ => True := by
  refine .bind (only_requireAdministrator (fun _ => Operation.permits_reads) actor) fun _ _ => ?_
  refine .bind (only_require _) fun normalized _ => ?_
  refine only_ask (Operation.permits_authorization rfl rfl) fun _ => ?_
  exact .bind (only_requireUpdatedAccount _) fun _ _ => trivial

theorem only_resetPassword (actor : AccountAuthorization) (accountId : JsString) :
    (resetPassword actor accountId).Only (Operation.resetPassword actor accountId).Permits
      fun _ => True := by
  refine .bind (only_requireAdministrator (fun _ => Operation.permits_reads) actor) fun _ _ => ?_
  refine .bind (only_requireAccount (fun _ => Operation.permits_reads) accountId) fun _ _ => ?_
  refine .bind (only_replacePassword _ _ _ _ _ _ _ fun query hquery => ?_) fun _ _ => trivial
  exact Operation.permits_authorization rfl hquery

theorem only_revokeSessions (actor : AccountAuthorization) (accountId : JsString) :
    (revokeSessions actor accountId).Only (Operation.revokeSessions actor accountId).Permits
      fun _ => True := by
  refine .bind (only_requireAdministrator (fun _ => Operation.permits_reads) actor) fun _ _ => ?_
  refine only_ask (Operation.permits_authorization rfl rfl) fun _ => ?_
  exact .bind (only_requireUpdatedAccount _) fun _ _ => trivial

end AuthService

end Programs

theorem AuthService.program_only (service : AuthService) (invocation : Invocation) :
    (service.program invocation).Only invocation.operation.Permits fun _ => True := by
  obtain ⟨operation, fresh⟩ := invocation
  have hplain : operation.administrator = none →
      ∀ query, query.leavesAccounts = true → operation.Permits query :=
    fun hoperation _ => Operation.permits_leavesAccounts hoperation
  have hserves : operation.administrator = none →
      ∀ query, query.servesArtifacts = true → operation.Permits query :=
    fun hoperation query hquery => hplain hoperation query
      (Query.leavesAccounts_of_servesArtifacts hquery)
  cases operation with
  | bootstrapAdministrator username displayName =>
    exact service.only_bootstrapAdministrator username displayName
  | authenticate input =>
    refine .bind (service.only_verifyCredentials (fun query hleaves _ => hplain rfl query hleaves)
      input fresh.now none) fun found _ => ?_
    exact .bind (service.only_issueSession (hserves rfl) _ _ _ _) fun _ _ => trivial
  | verifyAdministratorCredentials input =>
    refine .bind (service.only_verifyCredentials (fun query hleaves _ => hplain rfl query hleaves)
      input fresh.now none) fun found _ => ?_
    dsimp only
    split_ifs <;> trivial
  | createLoginIntent targetHost targetPath =>
    exact service.only_createLoginIntent (hserves rfl) targetHost targetPath fresh
  | createSessionExchange principal intentId =>
    exact service.only_createSessionExchange (hserves rfl) principal intentId
  | consumeSessionExchange code targetHost =>
    exact service.only_consumeSessionExchange (hserves rfl) code targetHost fresh
  | issueCarrierCredential principal purpose tunnelId =>
    exact service.only_issueCarrierCredential (hserves rfl) principal purpose tunnelId
  | consumeCarrierCredential token =>
    exact service.only_consumeCarrierCredential (hserves rfl) token fresh
  | cleanupExpiredArtifacts => exact only_cleanupBatches (fun _ _ => hplain rfl _ rfl) fresh.now _
  | resolveSession sessionToken expectedAudience =>
    exact service.only_resolveSession (hplain rfl) sessionToken expectedAudience
  | logout principal => exact only_ask (hplain rfl _ rfl) fun _ => trivial
  | changeOwnPassword principal currentPassword newPassword =>
    exact service.only_changeOwnPassword principal currentPassword newPassword
  | createAccount actor username displayName roles =>
    exact service.only_createAccount actor username displayName roles
  | setAccountEnabled actor accountId enabled =>
    exact only_setAccountEnabled actor accountId enabled
  | setAccountRoles actor accountId roles => exact only_setAccountRoles actor accountId roles
  | resetPassword actor accountId => exact only_resetPassword actor accountId
  | revokeSessions actor accountId => exact only_revokeSessions actor accountId

/-- The accounts keep their roster, and every operation keeps to what it may ask. -/
def roster : Spec Reply AuthError Invocation Outcome Repository where
  inv := Repository.Roster
  seen _ _ := True
  rely _ := True
  asks invocation _ query := invocation.operation.Permits query
  ends _ _ _ := True

theorem AuthService.program_keeps (service : AuthService) (invocation : Invocation) :
    (service.program invocation).Follows roster.rely (roster.asks invocation)
      (roster.ends invocation) [] :=
  ((service.program_only invocation).follows []).mono fun _ _ _ => trivial

theorem keeps_roster (backend : Backend) : Keeps (handle backend) roster where
  store hroster hasks h :=
    (Repository.call_accountEffect (handle_eq_some h)).roster hroster hasks.first
  stable _ _ _ := trivial
  event _ _ := ⟨trivial, trivial⟩

variable {service : AuthService} {backend : Backend} {limits : AuditEventLimits}
  {s s' : AuthSystem} {schedule : List (Label Invocation Choice)}

theorem run_roster (hrun : Execution.run (step service backend) (start limits) schedule = some s) :
    Interleaving.Sound roster s := by
  have hstart : Interleaving.Sound roster (start limits) :=
    ⟨⟨List.nodup_nil, List.nodup_nil, fun hne => absurd rfl hne⟩, List.forall_mem_nil _,
      List.forall_mem_nil _⟩
  exact hstart.run (keeps_roster backend)
    (fun invocation _ => service.program_keeps invocation) hrun

/-- The repository call that is answered, with its reply. -/
def answered (backend : Backend) (s : AuthSystem) (index : ℕ) (choice : Choice) :
    Option (Event Reply) :=
  match s.calls[index]? with
  | some ⟨_, _, .ask query _⟩ =>
    (handle backend s.store query choice).map fun (reply, _) => ⟨query, reply⟩
  | _ => none

def firstCreated : Event Reply → Bool
  | ⟨.createFirstAccount _ _, reply⟩ => reply.value
  | _ => false

/-- The step runs a `createFirstAccount` that succeeds. -/
def createsFirstAccount (backend : Backend) (s : AuthSystem) : Label Invocation Choice → Bool
  | .answer index choice => (answered backend s index choice).any firstCreated
  | .lost index choice => (answered backend s index choice).any firstCreated
  | _ => false

/-- The operation whose repository call the step runs. -/
def caller (s : AuthSystem) : Label Invocation Choice → Option Operation
  | .answer index _ => s.calls[index]?.map fun call => call.operation.operation
  | .lost index _ => s.calls[index]?.map fun call => call.operation.operation
  | _ => none

namespace Repository

variable {r r' : Repository} {query : Query}

theorem call_firstCreated {placement : Placement} {reply : Reply query}
    (h : r.call backend placement query = some (reply.value, r'))
    (hfirst : firstCreated ⟨query, reply⟩ = true) : r.accounts = [] ∧ r'.accounts ≠ [] := by
  obtain ⟨value, fresh⟩ := reply
  cases query with
  | createFirstAccount account event =>
    simp only [call, createFirstAccount] at h
    split_ifs at h with hempty
    · cases h
      cases hfirst
    · obtain ⟨appended, happended, heq⟩ := Option.map_eq_some_iff.1 h
      cases heq
      exact ⟨not_not.1 hempty, List.ne_nil_of_mem Table.mem_set_self⟩
  | _ => cases hfirst

theorem AccountEffect.ne_nil (h : AccountEffect r r' query) (hne : r.accounts ≠ []) :
    r'.accounts ≠ [] := by
  cases h with
  | kept query haccounts => exact haccounts ▸ hne
  | first account event hempty haccounts => exact absurd hempty hne
  | created account authorization event hauthorized husername hid haccounts =>
    exact haccounts ▸ List.ne_nil_of_mem Table.mem_set_self
  | changed query account updated hmutation husername hremains =>
    exact hmutation.accounts ▸ List.ne_nil_of_mem Table.mem_set_self

/-- The actor is an enabled administrator with a password of its own, at the version given. -/
theorem isAuthorized_administrator {actor : AccountAuthorization}
    (h : r.isAuthorized (administratorAuthorization actor) = true) :
    ∃ account ∈ r.accounts, account.id = actor.accountId ∧ account.enabled = true ∧
      .admin ∈ account.roles ∧ account.mustChangePassword = false ∧
      account.authVersion = actor.authVersion := by
  obtain ⟨account, hfound, henabled, hversion, hpassword, hroles⟩ := isAuthorized_iff.1 h
  obtain ⟨hmem, hid⟩ := Table.get_some hfound
  refine ⟨account, hmem, hid, henabled, hroles .admin rfl, ?_, hversion⟩
  rcases hpassword with hallowed | hpassword
  · cases hallowed
  · exact hpassword

end Repository

theorem answered_some {index : ℕ} {choice : Choice} {event : Event Reply}
    (h : answered backend s index choice = some event) :
    ∃ invocation history query next reply r,
      s.calls[index]? = some ⟨invocation, history, .ask query next⟩ ∧
      handle backend s.store query choice = some (reply, r) ∧ event = ⟨query, reply⟩ := by
  unfold answered at h
  split at h
  next invocation history query next hget =>
    obtain ⟨⟨reply, r⟩, hhandle, heq⟩ := Option.map_eq_some_iff.1 h
    exact ⟨invocation, history, query, next, reply, r, hget, hhandle, heq.symm⟩
  next => cases h

theorem step_createsFirstAccount {a : Label Invocation Choice}
    (hstep : step service backend s a = some s')
    (hfirst : createsFirstAccount backend s a = true) :
    s.store.accounts = [] ∧ s'.store.accounts ≠ [] := by
  have hanswered : ∀ {index : ℕ} {choice : Choice} {event : Event Reply},
      answered backend s index choice = some event → firstCreated event = true →
      ∃ invocation history query next reply r,
        s.calls[index]? = some ⟨invocation, history, .ask query next⟩ ∧
        handle backend s.store query choice = some (reply, r) ∧
        s.store.accounts = [] ∧ r.accounts ≠ [] := by
    intro index choice event hanswer hevent
    obtain ⟨invocation, history, query, next, reply, r, hget, hhandle, rfl⟩ :=
      answered_some hanswer
    have hcall := Repository.call_firstCreated (handle_eq_some hhandle) hevent
    exact ⟨invocation, history, query, next, reply, r, hget, hhandle, hcall⟩
  cases a with
  | start invocation => cases hfirst
  | reject index => cases hfirst
  | answer index choice =>
    obtain ⟨event, hanswer, hevent⟩ := (Option.any_eq_true _ _).1 hfirst
    obtain ⟨_, _, _, _, _, r, hget, hhandle, hempty, hne⟩ := hanswered hanswer hevent
    simp only [step, Interleaving.step, hget, hhandle] at hstep
    cases hstep
    rw [System.settle_store]
    exact ⟨hempty, hne⟩
  | lost index choice =>
    obtain ⟨event, hanswer, hevent⟩ := (Option.any_eq_true _ _).1 hfirst
    obtain ⟨_, _, _, _, _, r, hget, hhandle, hempty, hne⟩ := hanswered hanswer hevent
    simp only [step, Interleaving.step, hget, hhandle] at hstep
    cases hstep
    exact ⟨hempty, hne⟩

/-- A first account is created only where there is none. -/
theorem createsFirstAccount_of_ne_nil (hne : s.store.accounts ≠ [])
    (a : Label Invocation Choice) : createsFirstAccount backend s a = false := by
  have hanswered : ∀ index choice,
      (answered backend s index choice).any firstCreated = false := by
    intro index choice
    cases hanswer : answered backend s index choice with
    | none => rfl
    | some event =>
      obtain ⟨_, _, _, _, _, _, _, hhandle, rfl⟩ := answered_some hanswer
      by_contra hfirst
      exact hne (Repository.call_firstCreated (handle_eq_some hhandle) (by simpa using hfirst)).1
  cases a with
  | start invocation => rfl
  | reject index => rfl
  | answer index choice => exact hanswered index choice
  | lost index choice => exact hanswered index choice

/-- A step of an operation that needs an administrator changes the store in the name of one. -/
theorem step_administrator (hsound : Interleaving.Sound roster s)
    {a : Label Invocation Choice} (hstep : step service backend s a = some s')
    {operation : Operation} {actor : AccountAuthorization}
    (hcaller : caller s a = some operation) (hactor : operation.administrator = some actor)
    (hchanged : s'.store ≠ s.store) :
    s.store.isAuthorized (administratorAuthorization actor) = true := by
  rcases step_store hstep with hsame | hanswers
  · exact absurd hsame hchanged
  obtain ⟨answers⟩ := hanswers
  have hcall := handle_eq_some answers.handled
  have hoperation : answers.call.operation.operation = operation := by
    rcases answers.label with hlabel | hlabel
    · rw [hlabel, caller, answers.found] at hcaller
      exact Option.some.inj hcaller
    · rw [hlabel, caller, answers.found] at hcaller
      exact Option.some.inj hcaller
  have hfollows := (hsound.calls _ (List.mem_of_getElem? answers.found)).1
  rw [answers.asks] at hfollows
  rcases hfollows.1.administrator actor (hoperation ▸ hactor) with hreads | hauthorization
  · exact absurd (Repository.call_reads hreads hcall) hchanged
  · exact (Repository.call_authorized hauthorization hcall).resolve_left hchanged

theorem handle_ne_nil {r r' : Repository} {query : Query} {choice : Choice} {reply : Reply query}
    (hne : r.accounts ≠ []) (h : handle backend r query choice = some (reply, r')) :
    r'.accounts ≠ [] :=
  (Repository.call_accountEffect (handle_eq_some h)).ne_nil hne

/-- A property of the store that every call keeps holds after a run. -/
theorem run_store {property : Repository → Prop}
    (hstable : ∀ {r query choice reply r'}, property r →
      handle backend r query choice = some (reply, r') → property r')
    (h : property s.store) (hrun : Execution.run (step service backend) s schedule = some s') :
    property s'.store := by
  have hsince : Since (handle backend) property s.finished s :=
    ⟨h, [], rfl, List.forall_mem_nil _⟩
  exact (hsince.run hstable hrun).store

/-- Ids and usernames are unique and versions only advance. The first account is created once, and
from then on some enabled account has the `ADMIN` role. An operation that needs an administrator
changes the store only in a step in which its actor is one. -/
theorem administrators_remain
    (hrun : Execution.run (step service backend) (start limits) schedule = some s) :
    (s.store.accounts.map Account.id).Nodup ∧ (s.store.accounts.map Account.username).Nodup ∧
    (∀ rest s'', Execution.run (step service backend) s rest = some s'' →
      ∀ account ∈ s.store.accounts, ∃ later ∈ s''.store.accounts,
        later.id = account.id ∧ account.authVersion ≤ later.authVersion) ∧
    ∀ a s', step service backend s a = some s' →
      (createsFirstAccount backend s a = true →
        ∀ rest s'', Execution.run (step service backend) s' rest = some s'' →
          (∃ account ∈ s''.store.accounts, account.enabled = true ∧ .admin ∈ account.roles) ∧
          ∀ b, createsFirstAccount backend s'' b = false) ∧
      ∀ operation actor, caller s a = some operation → operation.administrator = some actor →
        s'.store ≠ s.store →
        ∃ account ∈ s.store.accounts, account.id = actor.accountId ∧ account.enabled = true ∧
          .admin ∈ account.roles ∧ account.mustChangePassword = false ∧
          account.authVersion = actor.authVersion := by
  have hsound := run_roster hrun
  refine ⟨hsound.store.ids, hsound.store.usernames, fun rest s'' hrest account hmem => ?_,
    fun a s' hstep => ⟨fun hfirst rest s'' hrest => ?_, fun operation actor hcaller hactor hchanged =>
      Repository.isAuthorized_administrator (step_administrator hsound hstep hcaller hactor hchanged)⟩⟩
  · have hleast : s.store.AtLeast account.authorization :=
      ⟨account, Table.get_of_mem hsound.store.ids hmem, le_rfl⟩
    obtain ⟨later, hfound, hversion⟩ := run_store
      (fun hleast hhandle => (Repository.call_effect (handle_eq_some hhandle)).atLeast hleast)
      hleast hrest
    exact ⟨later, (Table.get_some hfound).1, (Table.get_some hfound).2, hversion⟩
  · have hcreated := (step_createsFirstAccount hstep hfirst).2
    have hne := run_store handle_ne_nil hcreated hrest
    have hsound' := hsound.step (keeps_roster backend)
      (fun invocation _ => service.program_keeps invocation) hstep
    have hsound'' := hsound'.run (keeps_roster backend)
      (fun invocation _ => service.program_keeps invocation) hrest
    obtain ⟨account, hmem, hadministers⟩ := hsound''.store.administered hne
    obtain ⟨henabled, hadmin⟩ := Account.administers_iff.1 hadministers
    exact ⟨⟨account, hmem, henabled, hadmin⟩, createsFirstAccount_of_ne_nil hne⟩

namespace TwoAdministrators

open PasswordChange (fresh reversing username)

def reply (index : ℕ) (n : UInt16) : Label Invocation Choice :=
  .answer index ⟨⟨fun _ => 0, fun _ => 0, fun _ => 0, fun _ => 0, fun _ => 0⟩, fresh n⟩

def principal (id : UInt16) (name : JsString) : Principal where
  accountId := [id]
  username := name
  displayName := name
  roles := [.admin]
  mustChangePassword := true
  authVersion := 1
  sessionId := [id]

/-- The owner of an account whose temporary password is the number repeated chooses another. -/
def choosePassword (id secret : UInt16) (name : JsString) : List (Label Invocation Choice) :=
  .start ⟨.changeOwnPassword (principal id name) (List.replicate 24 secret)
      (List.replicate 20 (secret + 1)), fresh 50⟩ ::
    [51, 52, 53, 54 + id, 70].map (reply 0)

def other : JsString := JsString.ofAscii "other"

/-- The first administrator creates a second one, and then each disables the other. -/
def quarrel : List (Label Invocation Choice) :=
  choosePassword 2 2 username ++
  [.start ⟨.createAccount ⟨[2], 2⟩ other other [.admin], fresh 4⟩, reply 0 5, reply 0 6,
    reply 0 7] ++
  choosePassword 6 6 other ++
  [.start ⟨.setAccountEnabled ⟨[2], 2⟩ [6] false, fresh 8⟩,
    .start ⟨.setAccountEnabled ⟨[6], 2⟩ [2] false, fresh 9⟩, reply 0 10, reply 1 11, reply 1 12,
    reply 0 13]

structure Row where
  id : JsString
  enabled : Bool
  authVersion : ℕ
  deriving DecidableEq, Repr

def rows (s : AuthSystem) : List Row :=
  s.store.accounts.map fun account => ⟨account.id, account.enabled, account.authVersion⟩

end TwoAdministrators

open TwoAdministrators in
open PasswordChange (fresh reversing username) in
theorem administrators_remain_quarrel :
    ∃ s s' s'',
      Execution.run (step reversing .inMemory) (start defaultAuditEventLimits)
        [.start ⟨.bootstrapAdministrator username username, fresh 1⟩, reply 0 2] = some s ∧
      step reversing .inMemory s (reply 0 3) = some s' ∧
      createsFirstAccount .inMemory s (reply 0 3) = true ∧
      Execution.run (step reversing .inMemory) s' quarrel = some s'' ∧
      rows s'' = [⟨[2], false, 3⟩, ⟨[6], true, 2⟩] ∧
      (∃ account ∈ s''.store.accounts, account.enabled = true ∧ .admin ∈ account.roles) ∧
      ∀ b, createsFirstAccount .inMemory s'' b = false := by
  have hall : ((Execution.run (step reversing .inMemory) (start defaultAuditEventLimits)
      [.start ⟨.bootstrapAdministrator username username, fresh 1⟩, reply 0 2]).bind fun s =>
      (step reversing .inMemory s (reply 0 3)).bind fun s' =>
      (Execution.run (step reversing .inMemory) s' quarrel).map fun s'' =>
        (createsFirstAccount .inMemory s (reply 0 3), rows s'')) =
      some (true, [⟨[2], false, 3⟩, ⟨[6], true, 2⟩]) := by decide +kernel
  obtain ⟨s, hrun, hall⟩ := Option.bind_eq_some_iff.1 hall
  obtain ⟨s', hstep, hall⟩ := Option.bind_eq_some_iff.1 hall
  obtain ⟨s'', hrest, heq⟩ := Option.map_eq_some_iff.1 hall
  simp only [Prod.mk.injEq] at heq
  have hclaim := ((administrators_remain hrun).2.2.2 _ s' hstep).1 heq.1 quarrel s'' hrest
  exact ⟨s, s', s'', hrun, hstep, heq.1, hrest, heq.2, hclaim.1, hclaim.2⟩

end Lotur.Auth
