import Lotur.Auth.Repository

/-! What a repository call can do to the accounts and to the artifacts issued to them. -/
namespace Lotur.Auth

namespace Table

variable {α : Type} {key : α → JsString} {table : List α} {id : JsString} {row value : α}

theorem get_some (h : get key table id = some row) : row ∈ table ∧ key row = id :=
  ⟨List.mem_of_find?_eq_some h, by simpa using List.find?_some h⟩

theorem get_eq_none_iff : get key table id = none ↔ ∀ row ∈ table, key row ≠ id := by
  simp [get, List.find?_eq_none]

/-- Replacing the rows of one key changes no key. -/
theorem key_replace (key : α → JsString) (value row : α) :
    key (if key row = key value then value else row) = key row := by
  split_ifs with h
  · exact h.symm
  · rfl

theorem get_map_replace (key : α → JsString) (table : List α) (value : α) (id : JsString) :
    get key (table.map fun row => if key row = key value then value else row) id =
      (get key table id).map fun row => if key row = key value then value else row := by
  simp only [get, List.find?_map, Function.comp_def, key_replace]

theorem get_set_self : get key (set key table value) (key value) = some value := by
  unfold set
  split_ifs with h
  · obtain ⟨row, hrow, hkey⟩ := List.any_eq_true.1 h
    rw [get_map_replace]
    cases hget : get key table (key value) with
    | none => exact absurd (by simpa using hkey) (get_eq_none_iff.1 hget row hrow)
    | some found => simp [(get_some hget).2]
  · have hnone : get key table (key value) = none :=
      get_eq_none_iff.2 fun row hrow heq => h (List.any_eq_true.2 ⟨row, hrow, by simpa using heq⟩)
    unfold get at hnone ⊢
    rw [List.find?_append, hnone]
    simp

theorem get_set_ne (hne : id ≠ key value) : get key (set key table value) id = get key table id := by
  unfold set
  split_ifs with h
  · rw [get_map_replace]
    cases hget : get key table id with
    | none => rfl
    | some found =>
      have hkey : key found ≠ key value := (get_some hget).2 ▸ hne
      simp [hkey]
  · unfold get
    rw [List.find?_append]
    simp [hne.symm]

theorem mem_set (h : row ∈ set key table value) : row ∈ table ∨ row = value := by
  unfold set at h
  split_ifs at h
  · obtain ⟨old, hold, rfl⟩ := List.mem_map.1 h
    split_ifs
    · exact Or.inr rfl
    · exact Or.inl hold
  · simpa using h

/-- A row of another key stays. -/
theorem mem_set_of_ne (h : row ∈ table) (hne : key row ≠ key value) : row ∈ set key table value := by
  unfold set
  split_ifs
  · exact List.mem_map.2 ⟨row, h, if_neg hne⟩
  · exact List.mem_append_left _ h

theorem mem_set_self : value ∈ set key table value := (get_some get_set_self).1

theorem set_of_free (h : get key table (key value) = none) : set key table value = table ++ [value] := by
  unfold set
  rw [if_neg]
  intro hany
  obtain ⟨row, hrow, hkey⟩ := List.any_eq_true.1 hany
  exact get_eq_none_iff.1 h row hrow (by simpa using hkey)

/-- A column that the new row of a key keeps is the same in every place. -/
theorem map_set_of_mem {β : Type} (f : α → β) (hkeys : (table.map key).Nodup) (hrow : row ∈ table)
    (hkey : key value = key row) (hf : f value = f row) : (set key table value).map f = table.map f := by
  unfold set
  rw [if_pos (List.any_eq_true.2 ⟨row, hrow, by simpa using hkey.symm⟩), List.map_map]
  refine List.map_congr_left fun other hother => ?_
  dsimp only [Function.comp_apply]
  split_ifs with heq
  · have hsame : other = row := List.inj_on_of_nodup_map hkeys hother hrow (heq.trans hkey)
    rw [hf, hsame]
  · rfl

/-- The keys stay distinct, whether the row replaces another or is new. -/
theorem nodup_set (h : (table.map key).Nodup) : ((set key table value).map key).Nodup := by
  unfold set
  split_ifs with hmem
  · have hkeys : (table.map fun row => if key row = key value then value else row).map key =
        table.map key := by
      rw [List.map_map]
      exact List.map_congr_left fun row _ => key_replace key value row
    rw [hkeys]
    exact h
  · rw [List.map_append, List.map_singleton, List.nodup_append]
    refine ⟨h, List.nodup_singleton _, ?_⟩
    intro k hk other hother heq
    obtain ⟨row, hrow, rfl⟩ := List.mem_map.1 hk
    rw [List.mem_singleton.1 hother] at heq
    exact hmem (List.any_eq_true.2 ⟨row, hrow, by simpa using heq⟩)

theorem get_of_mem (hkeys : (table.map key).Nodup) (h : row ∈ table) :
    get key table (key row) = some row := by
  cases hget : get key table (key row) with
  | none => exact absurd rfl (get_eq_none_iff.1 hget row h)
  | some found =>
    obtain ⟨hfound, hkey⟩ := get_some hget
    rw [List.inj_on_of_nodup_map hkeys hfound h hkey]

variable {columns : Columns α} {artifact : α} {now : ℤ} {limits : StoredArtifactLimits}
  {backend : Backend} {ctid : α → ℕ} {saved : Bool} {table' : List α}

/-- A `save` drops rows and adds at most the artifact. -/
theorem mem_save (h : save backend columns ctid table artifact now limits = some (saved, table'))
    (hrow : row ∈ table') : row ∈ table ∨ row = artifact := by
  cases backend with
  | inMemory =>
    simp only [save, saveInMemory, Option.some.injEq] at h
    split_ifs at h <;> cases h
    · exact Or.inl (List.mem_of_mem_filter hrow)
    · rcases mem_set hrow with hrow | rfl
      · exact Or.inl (List.mem_of_mem_filter hrow)
      · exact Or.inr rfl
  | postgres =>
    simp only [save, savePostgres] at h
    split_ifs at h
    · cases h
      rcases List.mem_append.1 hrow with hrow | hrow
      · exact Or.inl (List.mem_of_mem_filter hrow)
      · exact Or.inr (List.mem_singleton.1 hrow)
    · cases h
      exact Or.inl (List.mem_of_mem_filter hrow)

theorem mem_dropExpired {expiresAt : α → ℤ} {limit : ℕ}
    (hrow : row ∈ dropExpired backend key expiresAt ctid table now limit) : row ∈ table := by
  cases backend with
  | inMemory => exact List.mem_of_mem_filter hrow
  | postgres => exact List.mem_of_mem_filter hrow

end Table

/-- The authorization a call that changes accounts carries. -/
def Query.authorization : Query → Option AccountMutationAuthorization
  | .createAccount _ authorization _ => some authorization
  | .setAccountEnabled _ _ authorization _ _ => some authorization
  | .setAccountRoles _ _ authorization _ _ => some authorization
  | .replaceAccountPassword _ _ _ _ authorization _ _ => some authorization
  | .revokeAccountSessions _ authorization _ _ => some authorization
  | _ => none

/-- The call does not write accounts. -/
def Query.leavesAccounts : Query → Bool
  | .createFirstAccount _ _ => false
  | query => query.authorization.isNone

namespace Repository

/-- The accounts the stored artifacts were issued to, each with its version at that time. -/
def owners (r : Repository) : List AccountAuthorization :=
  r.sessions.map sessionColumns.owner ++ r.sessionExchanges.map sessionExchangeColumns.owner ++
    r.carrierCredentials.map carrierCredentialColumns.owner

/-- The account exists, is enabled and still has the version. -/
def Valid (r : Repository) (owner : AccountAuthorization) : Prop :=
  ∃ account, r.findAccountById owner.accountId = some account ∧ account.enabled = true ∧
    account.authVersion = owner.authVersion

theorem isCurrentArtifactAccount_iff {r : Repository} {owner : AccountAuthorization} :
    r.isCurrentArtifactAccount owner = true ↔ r.Valid owner := by
  unfold isCurrentArtifactAccount Valid
  cases r.findAccountById owner.accountId <;> simp

/-- `updated` replaces `account` in the table, one version on and without artifacts. -/
structure Mutation (r r' : Repository) (account updated : Account) : Prop where
  found : r.findAccountById updated.id = some account
  version : updated.authVersion = account.authVersion + 1
  accounts : r'.accounts = Table.set Account.id r.accounts updated
  owners : ∀ owner ∈ r'.owners, owner ∈ r.owners ∧ owner.accountId ≠ updated.id

/-- Everything a repository call can do. -/
inductive Effect (r r' : Repository) : Prop where
  | dropped (haccounts : r'.accounts = r.accounts) (howners : r'.owners ⊆ r.owners)
  | saved (owner : AccountAuthorization) (hvalid : r.Valid owner)
      (haccounts : r'.accounts = r.accounts) (howners : r'.owners ⊆ owner :: r.owners)
  | created (account : Account) (hfree : r.findAccountById account.id = none)
      (haccounts : r'.accounts = Table.set Account.id r.accounts account)
      (howners : r'.owners = r.owners)
  | mutated (account updated : Account) (hmutation : Mutation r r' account updated)

/-- What a call that leaves the accounts does to the artifacts: rows go, and at most one is issued, to
a current account. -/
inductive ArtifactEffect (r r' : Repository) : Prop where
  | dropped (haccounts : r'.accounts = r.accounts) (howners : r'.owners ⊆ r.owners)
  | saved (owner : AccountAuthorization) (hvalid : r.Valid owner)
      (haccounts : r'.accounts = r.accounts) (howners : r'.owners ⊆ owner :: r.owners)

variable {r r' : Repository} {backend : Backend} {placement : Placement}

theorem ArtifactEffect.accounts (h : ArtifactEffect r r') : r'.accounts = r.accounts := by
  cases h with
  | dropped haccounts howners => exact haccounts
  | saved owner hvalid haccounts howners => exact haccounts

/-- A call that leaves the accounts and drops rows of the artifact tables. -/
theorem ArtifactEffect.of_subset (haccounts : r'.accounts = r.accounts)
    (hsessions : r'.sessions ⊆ r.sessions)
    (hexchanges : r'.sessionExchanges ⊆ r.sessionExchanges)
    (hcredentials : r'.carrierCredentials ⊆ r.carrierCredentials) : ArtifactEffect r r' := by
  refine .dropped haccounts (List.append_subset.2 ⟨List.append_subset.2 ⟨?_, ?_⟩, ?_⟩)
  · intro owner howner
    simp only [owners, List.mem_append]
    exact Or.inl (Or.inl (List.map_subset _ hsessions howner))
  · intro owner howner
    simp only [owners, List.mem_append]
    exact Or.inl (Or.inr (List.map_subset _ hexchanges howner))
  · intro owner howner
    simp only [owners, List.mem_append]
    exact Or.inr (List.map_subset _ hcredentials howner)

theorem appendAuditEvent_eq {event : AuditEvent} (h : r.appendAuditEvent event = some r') :
    r' = { r with auditEvents := r.auditEvents ++ [event] } := by
  unfold appendAuditEvent at h
  split_ifs at h
  exact (Option.some.inj h).symm

theorem createFirstAccount_effect {account : Account} {event : AuditEvent} {created : Bool}
    (h : r.createFirstAccount account event = some (created, r')) : Effect r r' := by
  unfold createFirstAccount at h
  split_ifs at h with hempty
  · cases h
    exact .dropped rfl (List.Subset.refl _)
  · obtain ⟨appended, happended, heq⟩ := Option.map_eq_some_iff.1 h
    rw [appendAuditEvent_eq happended] at heq
    cases heq
    refine .created account ?_ rfl rfl
    rw [findAccountById, not_not.1 hempty]
    rfl

theorem createAccount_effect {account : Account} {authorization : AccountMutationAuthorization}
    {event : AuditEvent} {result : AccountCreationResult}
    (h : r.createAccount account authorization event = some (result, r')) : Effect r r' := by
  unfold createAccount at h
  split_ifs at h with hauthorized husername hid
  · cases h
    exact .dropped rfl (List.Subset.refl _)
  · cases h
    exact .dropped rfl (List.Subset.refl _)
  · obtain ⟨appended, happended, heq⟩ := Option.map_eq_some_iff.1 h
    rw [appendAuditEvent_eq happended] at heq
    cases heq
    refine .created account (Table.get_eq_none_iff.2 fun row hrow hrowid => hid ?_) rfl rfl
    exact List.any_eq_true.2 ⟨row, hrow, by simpa using hrowid⟩

/-- A mutation that goes through: the actor is authorized, nothing refuses the change of the account
found, and the changed account replaces it. -/
structure Change (r r' : Repository) (authorization : AccountMutationAuthorization)
    (refuse : Account → Option AccountMutationResult) (change : Account → Account)
    (account updated : Account) : Prop extends Mutation r r' account updated where
  authorized : r.isAuthorized authorization = true
  allowed : refuse account = none
  changed : ∃ updatedAt, updated = { change account with
    id := account.id
    authVersion := account.authVersion + 1
    updatedAt }

/-- Either the mutation is refused, or it returns the account it has stored. -/
theorem mutateAccount_cases {accountId : JsString} {authorization : AccountMutationAuthorization}
    {refuse : Account → Option AccountMutationResult} {change : Account → Account} {updatedAt : ℤ}
    {event : AuditEvent} {result : AccountMutationResult}
    (hrefuse : ∀ account updated, refuse account ≠ some (.updated updated))
    (h : r.mutateAccount accountId authorization refuse change updatedAt event =
      some (result, r')) :
    (r' = r ∧ ∀ updated, result ≠ .updated updated) ∨
      ∃ account updated, result = .updated updated ∧
        Change r r' authorization refuse change account updated := by
  unfold mutateAccount at h
  split_ifs at h with hauthorized
  · cases h
    exact Or.inl ⟨rfl, nofun⟩
  split at h
  · cases h
    exact Or.inl ⟨rfl, nofun⟩
  next account hfound =>
    split at h
    next refused hrefused =>
      cases h
      exact Or.inl ⟨rfl, fun updated heq => hrefuse account updated (heq ▸ hrefused)⟩
    next hallowed =>
      obtain ⟨appended, happended, heq⟩ := Option.map_eq_some_iff.1 h
      rw [appendAuditEvent_eq happended] at heq
      cases heq
      have hid : account.id = accountId := (Table.get_some hfound).2
      refine Or.inr ⟨account, _, rfl, ⟨hid ▸ hfound, rfl, rfl, ?_⟩, by simpa using hauthorized,
        hallowed, updatedAt, rfl⟩
      intro owner howner
      simp only [Repository.owners, deleteAccountAuthArtifacts, List.mem_append, List.mem_map,
        List.mem_filter, decide_eq_true_eq] at howner ⊢
      rcases howner with (⟨row, ⟨hrow, hne⟩, rfl⟩ | ⟨row, ⟨hrow, hne⟩, rfl⟩) |
        ⟨row, ⟨hrow, hne⟩, rfl⟩
      · exact ⟨Or.inl (Or.inl ⟨row, hrow, rfl⟩), hne⟩
      · exact ⟨Or.inl (Or.inr ⟨row, hrow, rfl⟩), hne⟩
      · exact ⟨Or.inr ⟨row, hrow, rfl⟩, hne⟩

/-- A mutation either leaves the repository or stores an account. -/
def Mutated (r r' : Repository) (result : AccountMutationResult) : Prop :=
  (r' = r ∧ ∀ updated, result ≠ .updated updated) ∨
    ∃ account updated, result = .updated updated ∧ Mutation r r' account updated

theorem Mutated.of_mutateAccount {accountId : JsString}
    {authorization : AccountMutationAuthorization}
    {refuse : Account → Option AccountMutationResult} {change : Account → Account} {updatedAt : ℤ}
    {event : AuditEvent} {result : AccountMutationResult}
    (hrefuse : ∀ account updated, refuse account ≠ some (.updated updated))
    (h : r.mutateAccount accountId authorization refuse change updatedAt event =
      some (result, r')) : Mutated r r' result := by
  rcases mutateAccount_cases hrefuse h with hsame | ⟨account, updated, hresult, hchange⟩
  · exact Or.inl hsame
  · exact Or.inr ⟨account, updated, hresult, hchange.toMutation⟩

end Repository

namespace Repository

variable {r r' : Repository} {backend : Backend} {placement : Placement}

theorem setAccountEnabled_cases {accountId : JsString} {enabled : Bool}
    {authorization : AccountMutationAuthorization} {updatedAt : ℤ} {event : AuditEvent}
    {result : AccountMutationResult}
    (h : r.setAccountEnabled accountId enabled authorization updatedAt event = some (result, r')) :
    Mutated r r' result :=
  .of_mutateAccount (fun _ _ => by split_ifs <;> simp) h

theorem setAccountRoles_cases {accountId : JsString} {roles : List AccountRole}
    {authorization : AccountMutationAuthorization} {updatedAt : ℤ} {event : AuditEvent}
    {result : AccountMutationResult}
    (h : r.setAccountRoles accountId roles authorization updatedAt event = some (result, r')) :
    Mutated r r' result :=
  .of_mutateAccount (fun _ _ => by split_ifs <;> simp) h

theorem replaceAccountPassword_cases {accountId passwordHash : JsString}
    {mustChangePassword : Bool} {expectedAuthVersion : ℕ}
    {authorization : AccountMutationAuthorization} {updatedAt : ℤ} {event : AuditEvent}
    {result : AccountMutationResult}
    (h : r.replaceAccountPassword accountId passwordHash mustChangePassword expectedAuthVersion
      authorization updatedAt event = some (result, r')) :
    Mutated r r' result :=
  .of_mutateAccount (fun _ _ => by split_ifs <;> simp) h

theorem revokeAccountSessions_cases {accountId : JsString}
    {authorization : AccountMutationAuthorization} {updatedAt : ℤ} {event : AuditEvent}
    {result : AccountMutationResult}
    (h : r.revokeAccountSessions accountId authorization updatedAt event = some (result, r')) :
    Mutated r r' result :=
  .of_mutateAccount (fun _ _ => Option.some_ne_none _ ∘ Eq.symm) h

theorem Effect.of_mutation {result : AccountMutationResult}
    (h : Mutated r r' result) : Effect r r' := by
  rcases h with ⟨rfl, -⟩ | ⟨account, updated, -, hmutation⟩
  · exact .dropped rfl (List.Subset.refl _)
  · exact .mutated account updated hmutation

/-- A `save` is refused, or its account is current and the table gains at most the artifact. -/
theorem saveSession_cases {session : AuthSession} {now : ℤ} {limits : StoredArtifactLimits}
    {saved : Bool} (h : r.saveSession backend placement session now limits = some (saved, r')) :
    (r' = r ∧ saved = false) ∨ r.Valid (sessionColumns.owner session) ∧ ∃ sessions,
      r' = { r with sessions } ∧ ∀ row ∈ sessions, row ∈ r.sessions ∨ row = session := by
  unfold saveSession at h
  split_ifs at h with hcurrent
  · cases h
    exact Or.inl ⟨rfl, rfl⟩
  · obtain ⟨⟨_, sessions⟩, hsave, heq⟩ := Option.map_eq_some_iff.1 h
    cases heq
    refine Or.inr ⟨isCurrentArtifactAccount_iff.1 (by simpa using hcurrent), sessions, rfl, ?_⟩
    exact fun row hrow => Table.mem_save hsave hrow

theorem saveSessionExchange_cases {exchange : SessionExchange} {now : ℤ}
    {limits : StoredArtifactLimits} {saved : Bool}
    (h : r.saveSessionExchange backend placement exchange now limits = some (saved, r')) :
    (r' = r ∧ saved = false) ∨ r.Valid (sessionExchangeColumns.owner exchange) ∧
      ∃ sessionExchanges, r' = { r with sessionExchanges } ∧
        ∀ row ∈ sessionExchanges, row ∈ r.sessionExchanges ∨ row = exchange := by
  unfold saveSessionExchange at h
  split_ifs at h with hcurrent
  · cases h
    exact Or.inl ⟨rfl, rfl⟩
  · obtain ⟨⟨_, exchanges⟩, hsave, heq⟩ := Option.map_eq_some_iff.1 h
    cases heq
    refine Or.inr ⟨isCurrentArtifactAccount_iff.1 (by simpa using hcurrent), exchanges, rfl, ?_⟩
    exact fun row hrow => Table.mem_save hsave hrow

theorem saveCarrierCredential_cases {credential : CarrierCredential} {now : ℤ}
    {limits : StoredArtifactLimits} {saved : Bool}
    (h : r.saveCarrierCredential backend placement credential now limits = some (saved, r')) :
    (r' = r ∧ saved = false) ∨ r.Valid (carrierCredentialColumns.owner credential) ∧
      ∃ carrierCredentials, r' = { r with carrierCredentials } ∧
        ∀ row ∈ carrierCredentials, row ∈ r.carrierCredentials ∨ row = credential := by
  unfold saveCarrierCredential at h
  split_ifs at h with hcurrent
  · cases h
    exact Or.inl ⟨rfl, rfl⟩
  · obtain ⟨⟨_, credentials⟩, hsave, heq⟩ := Option.map_eq_some_iff.1 h
    cases heq
    refine Or.inr ⟨isCurrentArtifactAccount_iff.1 (by simpa using hcurrent), credentials, rfl, ?_⟩
    exact fun row hrow => Table.mem_save hsave hrow

/-- The rows of one table with at most one more: the owners gain at most that of the new row. -/
theorem mem_map_owner {α : Type} {columns : Columns α} {table table' : List α} {artifact : α}
    (h : ∀ row ∈ table', row ∈ table ∨ row = artifact) {owner : AccountAuthorization}
    (howner : owner ∈ table'.map columns.owner) :
    owner = columns.owner artifact ∨ owner ∈ table.map columns.owner := by
  obtain ⟨row, hrow, rfl⟩ := List.mem_map.1 howner
  rcases h row hrow with hrow | rfl
  · exact Or.inr (List.mem_map_of_mem hrow)
  · exact Or.inl rfl

theorem call_artifactEffect {query : Query} {value : query.Value}
    (hleaves : query.leavesAccounts = true)
    (h : r.call backend placement query = some (value, r')) : ArtifactEffect r r' := by
  cases query with
  | findAccountById id => cases h; exact .dropped rfl (List.Subset.refl _)
  | findAccountByUsername username => cases h; exact .dropped rfl (List.Subset.refl _)
  | createFirstAccount account event => cases hleaves
  | createAccount account authorization event => cases hleaves
  | setAccountEnabled accountId enabled authorization updatedAt event => cases hleaves
  | setAccountRoles accountId roles authorization updatedAt event => cases hleaves
  | replaceAccountPassword accountId hash mustChange expected authorization updatedAt event => cases hleaves
  | revokeAccountSessions accountId authorization updatedAt event => cases hleaves
  | saveSession session now limits =>
    rcases saveSession_cases h with ⟨rfl, -⟩ | ⟨hvalid, sessions, rfl, hrows⟩
    · exact .dropped rfl (List.Subset.refl _)
    · refine .saved _ hvalid rfl fun owner howner => ?_
      simp only [owners, List.mem_append, List.mem_cons] at howner ⊢
      rcases howner with (howner | howner) | howner
      · rcases mem_map_owner hrows howner with rfl | howner
        · exact Or.inl rfl
        · exact Or.inr (Or.inl (Or.inl howner))
      · exact Or.inr (Or.inl (Or.inr howner))
      · exact Or.inr (Or.inr howner)
  | findSessionAccountByTokenDigests digests =>
    cases h
    exact .dropped rfl (List.Subset.refl _)
  | deleteSession id =>
    cases h
    exact .of_subset rfl (List.filter_subset_self _) (List.Subset.refl _) (List.Subset.refl _)
  | getLoginThrottle key => cases h; exact .dropped rfl (List.Subset.refl _)
  | recordLoginFailure failure => cases h; exact .dropped rfl (List.Subset.refl _)
  | deleteLoginThrottles keys => cases h; exact .dropped rfl (List.Subset.refl _)
  | saveLoginIntent intent now limits =>
    cases backend with
    | inMemory =>
      simp only [call, saveLoginIntent] at h
      split_ifs at h
      · cases h
        exact .dropped rfl (List.Subset.refl _)
      · cases h
        exact .dropped rfl (List.Subset.refl _)
    | postgres =>
      simp only [call, saveLoginIntent] at h
      split_ifs at h
      · cases h
        exact .dropped rfl (List.Subset.refl _)
      · cases h
        exact .dropped rfl (List.Subset.refl _)
  | consumeLoginIntent id now =>
    simp only [call, consumeLoginIntent] at h
    split at h
    · cases h
      exact .dropped rfl (List.Subset.refl _)
    · split_ifs at h
      · cases h
        exact .dropped rfl (List.Subset.refl _)
      · cases backend with
        | inMemory => cases h; exact .dropped rfl (List.Subset.refl _)
        | postgres => cases h; exact .dropped rfl (List.Subset.refl _)
  | saveSessionExchange exchange now limits =>
    rcases saveSessionExchange_cases h with ⟨rfl, -⟩ | ⟨hvalid, exchanges, rfl, hrows⟩
    · exact .dropped rfl (List.Subset.refl _)
    · refine .saved _ hvalid rfl fun owner howner => ?_
      simp only [owners, List.mem_append, List.mem_cons] at howner ⊢
      rcases howner with (howner | howner) | howner
      · exact Or.inr (Or.inl (Or.inl howner))
      · rcases mem_map_owner hrows howner with rfl | howner
        · exact Or.inl rfl
        · exact Or.inr (Or.inl (Or.inr howner))
      · exact Or.inr (Or.inr howner)
  | consumeSessionExchange digest targetHost now =>
    simp only [call, consumeSessionExchange] at h
    split at h
    · cases h
      exact .dropped rfl (List.Subset.refl _)
    · split_ifs at h
      · cases h
        exact .dropped rfl (List.Subset.refl _)
      · cases h
        exact .of_subset rfl (List.Subset.refl _) (List.filter_subset_self _) (List.Subset.refl _)
  | saveCarrierCredential credential now limits =>
    rcases saveCarrierCredential_cases h with ⟨rfl, -⟩ | ⟨hvalid, credentials, rfl, hrows⟩
    · exact .dropped rfl (List.Subset.refl _)
    · refine .saved _ hvalid rfl fun owner howner => ?_
      simp only [owners, List.mem_append, List.mem_cons] at howner ⊢
      rcases howner with (howner | howner) | howner
      · exact Or.inr (Or.inl (Or.inl howner))
      · exact Or.inr (Or.inl (Or.inr howner))
      · rcases mem_map_owner hrows howner with rfl | howner
        · exact Or.inl rfl
        · exact Or.inr (Or.inr howner)
  | consumeCarrierCredential id digest now =>
    simp only [call, consumeCarrierCredential] at h
    split at h
    · cases h
      exact .dropped rfl (List.Subset.refl _)
    · split_ifs at h
      · cases h
        exact .dropped rfl (List.Subset.refl _)
      · cases h
        exact .of_subset rfl (List.Subset.refl _) (List.Subset.refl _) (List.filter_subset_self _)
  | deleteExpiredAuthArtifacts now batchSize =>
    cases h
    refine .of_subset rfl ?_ ?_ ?_
    · exact fun row hrow => Table.mem_dropExpired hrow
    · exact fun row hrow => Table.mem_dropExpired hrow
    · exact fun row hrow => Table.mem_dropExpired hrow

theorem call_effect {query : Query} {value : query.Value}
    (h : r.call backend placement query = some (value, r')) : Effect r r' := by
  by_cases hleaves : query.leavesAccounts = true
  · cases call_artifactEffect hleaves h with
    | dropped haccounts howners => exact .dropped haccounts howners
    | saved owner hvalid haccounts howners => exact .saved owner hvalid haccounts howners
  cases query with
  | createFirstAccount account event => exact createFirstAccount_effect h
  | createAccount account authorization event => exact createAccount_effect h
  | setAccountEnabled accountId enabled authorization updatedAt event =>
    exact .of_mutation (setAccountEnabled_cases h)
  | setAccountRoles accountId roles authorization updatedAt event =>
    exact .of_mutation (setAccountRoles_cases h)
  | replaceAccountPassword accountId hash mustChange expected authorization updatedAt event =>
    exact .of_mutation (replaceAccountPassword_cases h)
  | revokeAccountSessions accountId authorization updatedAt event =>
    exact .of_mutation (revokeAccountSessions_cases h)
  | _ => exact absurd rfl hleaves

end Repository

/-- The account a successful mutation of the call returns. -/
def Query.updated : (query : Query) → query.Value → Option Account
  | .setAccountEnabled _ _ _ _ _, .updated account => some account
  | .setAccountRoles _ _ _ _ _, .updated account => some account
  | .replaceAccountPassword _ _ _ _ _ _ _, .updated account => some account
  | .revokeAccountSessions _ _ _ _, .updated account => some account
  | _, _ => none

namespace Repository

variable {r r' : Repository} {backend : Backend} {placement : Placement}

theorem call_updated {query : Query} {value : query.Value} {updated : Account}
    (h : r.call backend placement query = some (value, r'))
    (hupdated : query.updated value = some updated) :
    ∃ account, Mutation r r' account updated := by
  have hof : ∀ {result : AccountMutationResult},
      Mutated r r' result → result = .updated updated → ∃ account, Mutation r r' account updated := by
    rintro result (⟨-, hne⟩ | ⟨account, other, rfl, hmutation⟩) heq
    · exact absurd heq (hne updated)
    · cases heq
      exact ⟨account, hmutation⟩
  unfold Query.updated at hupdated
  split at hupdated
  · cases hupdated
    exact hof (setAccountEnabled_cases h) rfl
  · cases hupdated
    exact hof (setAccountRoles_cases h) rfl
  · cases hupdated
    exact hof (replaceAccountPassword_cases h) rfl
  · cases hupdated
    exact hof (revokeAccountSessions_cases h) rfl
  · cases hupdated

end Repository

end Lotur.Auth
