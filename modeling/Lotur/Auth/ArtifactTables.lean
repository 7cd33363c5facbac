import Lotur.Auth.Currency

/-! What a repository call puts into the artifact tables and what it hands out of them. -/
namespace Lotur.Auth
open Interleaving

namespace Table

variable {α : Type} {key : α → JsString} {table table' kept : List α} {saved : Option α} {row : α}

/-- Rows go, and at most one is put in. -/
def Kept (key : α → JsString) (table table' : List α) (saved : Option α) : Prop :=
  ∃ kept, kept.Sublist table ∧ table' = match saved with
    | none => kept
    | some row => set key kept row

theorem Kept.of_sublist (h : table'.Sublist table) : Kept key table table' none := ⟨table', h, rfl⟩

theorem Kept.refl : Kept key table table none := .of_sublist (List.Sublist.refl table)

theorem Kept.filter (p : α → Bool) : Kept key table (table.filter p) none :=
  .of_sublist List.filter_sublist

theorem Kept.mem (h : Kept key table table' saved) (hrow : row ∈ table') :
    row ∈ table ∨ saved = some row := by
  obtain ⟨kept, hsub, rfl⟩ := h
  cases saved with
  | none => exact Or.inl (hsub.subset hrow)
  | some value =>
    rcases mem_set hrow with hold | rfl
    · exact Or.inl (hsub.subset hold)
    · exact Or.inr rfl

theorem countP_set_le (p : JsString → Bool) (table : List α) (value : α) :
    (set key table value).countP (fun row => p (key row)) ≤
      table.countP (fun row => p (key row)) + if p (key value) then 1 else 0 := by
  unfold set
  by_cases hmem : (table.any fun row => key row = key value) = true
  · rw [if_pos hmem, List.countP_map]
    simp only [Function.comp_def, key_replace]
    exact Nat.le_add_right _ _
  · rw [if_neg hmem, List.countP_append, List.countP_singleton]

/-- The rows of some keys grow by at most the one put in. -/
theorem Kept.countP_le (h : Kept key table table' saved) (p : JsString → Bool) :
    table'.countP (fun row => p (key row)) ≤
      table.countP (fun row => p (key row)) + if saved.any fun row => p (key row) then 1 else 0 := by
  obtain ⟨kept, hsub, rfl⟩ := h
  have hkept := hsub.countP_le (p := fun row => p (key row))
  cases saved with
  | none => simpa using hkept
  | some value =>
    rw [Option.any_some]
    exact (countP_set_le p kept value).trans (Nat.add_le_add_right hkept _)

theorem get_delete_self {id : JsString} : get key (delete key table id) id = none :=
  get_eq_none_iff.2 fun _ hrow => of_decide_eq_true (List.mem_filter.1 hrow).2

theorem get_delete_ne {id id' : JsString} (hne : id' ≠ id) :
    get key (delete key table id) id' = get key table id' := by
  unfold get delete
  rw [List.find?_filter]
  refine List.find?_congr fun row _ => ?_
  by_cases hkey : key row = id'
  · simp [hkey, hne]
  · simp [hkey]

/-- A deleted row is one less. -/
theorem countP_delete_lt {id : JsString} {p : JsString → Bool} (hrow : row ∈ table)
    (hkey : key row = id) (hid : p id = true) :
    (delete key table id).countP (fun row => p (key row)) + 1 ≤
      table.countP fun row => p (key row) := by
  have hsplit := List.countP_eq_countP_filter_add table (fun row => p (key row))
    (fun row => decide (key row ≠ id))
  have hgone : 0 < (table.filter fun row => !decide (key row ≠ id)).countP
      fun row => p (key row) := by
    refine List.countP_pos_iff.2 ⟨row, List.mem_filter.2 ⟨hrow, by simp [hkey]⟩, ?_⟩
    rw [hkey]
    exact hid
  unfold delete
  omega

variable {columns : Columns α} {artifact : α} {now : ℤ} {limits : StoredArtifactLimits}
  {backend : Backend} {ctid : α → ℕ} {accepted : Bool}

theorem save_kept (h : save backend columns ctid table artifact now limits =
    some (accepted, table')) :
    Kept columns.key table table' (bif accepted then some artifact else none) := by
  cases backend with
  | inMemory =>
    simp only [save, saveInMemory, Option.some.injEq] at h
    split_ifs at h
    · cases h
      exact .filter _
    · cases h
      exact ⟨_, List.filter_sublist, rfl⟩
  | postgres =>
    simp only [save, savePostgres] at h
    split_ifs at h with hlimits htaken
    · cases h
      refine ⟨_, List.filter_sublist, (set_of_free (get_eq_none_iff.2 fun row hrow hkey => ?_)).symm⟩
      exact htaken (List.any_eq_true.2 ⟨row, hrow, by simpa using hkey⟩)
    · cases h
      exact .filter _

theorem dropExpired_kept {expiresAt : α → ℤ} {limit : ℕ} :
    Kept key table (dropExpired backend key expiresAt ctid table now limit) none := by
  cases backend with
  | inMemory => exact .filter _
  | postgres => exact .filter _

end Table

/-- The call stores or hands out a login intent, an exchange or a credential, or stores a session. -/
def Query.handlesArtifact : Query → Bool
  | .saveSession _ _ _ => true
  | .saveLoginIntent _ _ _ => true
  | .consumeLoginIntent _ _ => true
  | .saveSessionExchange _ _ _ => true
  | .consumeSessionExchange _ _ _ => true
  | .saveCarrierCredential _ _ _ => true
  | .consumeCarrierCredential _ _ _ => true
  | _ => false

/-- The session a call stores. -/
def sessionSaved : Event Reply → Option AuthSession
  | ⟨.saveSession session _ _, reply⟩ => bif reply.value then some session else none
  | _ => none

def intentSaved : Event Reply → Option LoginIntent
  | ⟨.saveLoginIntent intent _ _, reply⟩ => bif reply.value then some intent else none
  | _ => none

def exchangeSaved : Event Reply → Option SessionExchange
  | ⟨.saveSessionExchange exchange _ _, reply⟩ => bif reply.value then some exchange else none
  | _ => none

def credentialSaved : Event Reply → Option CarrierCredential
  | ⟨.saveCarrierCredential credential _ _, reply⟩ =>
    bif reply.value then some credential else none
  | _ => none

/-- The carrier credential a call hands out. -/
def credentialConsumed : Event Reply → Option CarrierCredential
  | ⟨.consumeCarrierCredential _ _ _, reply⟩ => reply.value
  | _ => none

/-- The key under which a call takes a login intent out of its table. -/
def intentTaken : Event Reply → Option JsString
  | ⟨.consumeLoginIntent id _, reply⟩ => Option.map (fun _ : LoginIntent => id) reply.value
  | _ => none

def exchangeTaken : Event Reply → Option JsString
  | ⟨.consumeSessionExchange digest _ _, reply⟩ =>
    Option.map (fun _ : SessionExchange => digest) reply.value
  | _ => none

def credentialTaken : Event Reply → Option JsString
  | ⟨.consumeCarrierCredential id _ _, reply⟩ =>
    Option.map (fun _ : CarrierCredential => id) reply.value
  | _ => none

/-- What a call hands out is what it was asked for, and has not expired. -/
def Honest : Event Reply → Prop
  | ⟨.consumeLoginIntent id now, reply⟩ => ∀ intent : LoginIntent, reply.value = some intent →
      intent.id = id ∧ now < intent.expiresAt
  | ⟨.consumeSessionExchange digest targetHost now, reply⟩ =>
      ∀ exchange : SessionExchange, reply.value = some exchange →
        exchange.codeDigest = digest ∧ exchange.targetHost = targetHost ∧ now < exchange.expiresAt
  | ⟨.consumeCarrierCredential id digest now, reply⟩ =>
      ∀ credential : CarrierCredential, reply.value = some credential →
        credential.id = id ∧ credential.secretDigest = digest ∧ now < credential.expiresAt
  | ⟨.findSessionAccountByTokenDigests digests, reply⟩ =>
      ∀ found : SessionAccount, reply.value = some found → found.session.tokenDigest ∈ digests
  | _ => True

namespace Repository

variable {r r' : Repository} {backend : Backend} {placement : Placement} {event : Event Reply}

/-- Each artifact table loses rows, and gains at most what the call stores. -/
structure Kept (event : Event Reply) (r r' : Repository) : Prop where
  sessions : Table.Kept AuthSession.id r.sessions r'.sessions (sessionSaved event)
  loginIntents : Table.Kept LoginIntent.id r.loginIntents r'.loginIntents (intentSaved event)
  sessionExchanges : Table.Kept SessionExchange.codeDigest r.sessionExchanges r'.sessionExchanges
    (exchangeSaved event)
  carrierCredentials : Table.Kept CarrierCredential.id r.carrierCredentials r'.carrierCredentials
    (credentialSaved event)

/-- The tables of a call that stores no artifact. -/
structure Shrinks (r r' : Repository) : Prop where
  sessions : r'.sessions.Sublist r.sessions
  loginIntents : r'.loginIntents.Sublist r.loginIntents
  sessionExchanges : r'.sessionExchanges.Sublist r.sessionExchanges
  carrierCredentials : r'.carrierCredentials.Sublist r.carrierCredentials

theorem Shrinks.refl (r : Repository) : Shrinks r r :=
  ⟨List.Sublist.refl _, List.Sublist.refl _, List.Sublist.refl _, List.Sublist.refl _⟩

theorem Shrinks.kept (h : Shrinks r r') (hsession : sessionSaved event = none)
    (hintent : intentSaved event = none) (hexchange : exchangeSaved event = none)
    (hcredential : credentialSaved event = none) : Kept event r r' := by
  refine ⟨?_, ?_, ?_, ?_⟩
  · rw [hsession]
    exact .of_sublist h.sessions
  · rw [hintent]
    exact .of_sublist h.loginIntents
  · rw [hexchange]
    exact .of_sublist h.sessionExchanges
  · rw [hcredential]
    exact .of_sublist h.carrierCredentials

theorem mutateAccount_shrinks {accountId : JsString}
    {authorization : AccountMutationAuthorization}
    {refuse : Account → Option AccountMutationResult} {change : Account → Account} {updatedAt : ℤ}
    {auditEvent : AuditEvent} {result : AccountMutationResult}
    (h : r.mutateAccount accountId authorization refuse change updatedAt auditEvent =
      some (result, r')) : Shrinks r r' := by
  unfold mutateAccount at h
  split_ifs at h
  · cases h
    exact .refl r
  split at h
  · cases h
    exact .refl r
  split at h
  · cases h
    exact .refl r
  · obtain ⟨appended, happended, heq⟩ := Option.map_eq_some_iff.1 h
    rw [appendAuditEvent_eq happended] at heq
    cases heq
    exact ⟨List.filter_sublist, List.Sublist.refl _, List.filter_sublist, List.filter_sublist⟩

theorem createFirstAccount_shrinks {account : Account} {auditEvent : AuditEvent} {created : Bool}
    (h : r.createFirstAccount account auditEvent = some (created, r')) : Shrinks r r' := by
  unfold createFirstAccount at h
  split_ifs at h
  · cases h
    exact .refl r
  · obtain ⟨appended, happended, heq⟩ := Option.map_eq_some_iff.1 h
    rw [appendAuditEvent_eq happended] at heq
    cases heq
    exact ⟨.refl _, .refl _, .refl _, .refl _⟩

theorem createAccount_shrinks {account : Account} {authorization : AccountMutationAuthorization}
    {auditEvent : AuditEvent} {result : AccountCreationResult}
    (h : r.createAccount account authorization auditEvent = some (result, r')) : Shrinks r r' := by
  unfold createAccount at h
  split_ifs at h
  · cases h
    exact .refl r
  · cases h
    exact .refl r
  · obtain ⟨appended, happended, heq⟩ := Option.map_eq_some_iff.1 h
    rw [appendAuditEvent_eq happended] at heq
    cases heq
    exact ⟨.refl _, .refl _, .refl _, .refl _⟩

theorem saveLoginIntent_kept {intent : LoginIntent} {now : ℤ} {limits : LoginIntentLimits}
    {accepted : Bool}
    (h : r.saveLoginIntent backend placement intent now limits = some (accepted, r')) :
    ∃ loginIntents, r' = { r with loginIntents } ∧ Table.Kept LoginIntent.id r.loginIntents
      loginIntents (bif accepted then some intent else none) := by
  cases backend with
  | inMemory =>
    simp only [saveLoginIntent] at h
    split_ifs at h
    · cases h
      exact ⟨_, rfl, .filter _⟩
    · cases h
      exact ⟨_, rfl, _, List.filter_sublist, rfl⟩
  | postgres =>
    simp only [saveLoginIntent] at h
    split_ifs at h with hlimits htaken
    · cases h
      exact ⟨_, rfl, .filter _⟩
    · cases h
      have hfree : Table.get LoginIntent.id (Table.deleteExpiredBatch LoginIntent.id
          LoginIntent.expiresAt placement.loginIntents r.loginIntents now 500) intent.id = none :=
        Table.get_eq_none_iff.2 fun row hrow hkey =>
          htaken (List.any_eq_true.2 ⟨row, hrow, by simpa using hkey⟩)
      exact ⟨_, rfl, _, List.filter_sublist, (Table.set_of_free hfree).symm⟩

theorem call_kept {query : Query} {reply : Reply query}
    (h : r.call backend placement query = some (reply.value, r')) : Kept ⟨query, reply⟩ r r' := by
  obtain ⟨value, fresh⟩ := reply
  cases query with
  | findAccountById id => cases h; exact (Shrinks.refl r).kept rfl rfl rfl rfl
  | findAccountByUsername username => cases h; exact (Shrinks.refl r).kept rfl rfl rfl rfl
  | createFirstAccount account auditEvent =>
    exact (createFirstAccount_shrinks h).kept rfl rfl rfl rfl
  | createAccount account authorization auditEvent =>
    exact (createAccount_shrinks h).kept rfl rfl rfl rfl
  | setAccountEnabled accountId enabled authorization updatedAt auditEvent =>
    exact (mutateAccount_shrinks h).kept rfl rfl rfl rfl
  | setAccountRoles accountId roles authorization updatedAt auditEvent =>
    exact (mutateAccount_shrinks h).kept rfl rfl rfl rfl
  | replaceAccountPassword accountId hash mustChange expected authorization updatedAt auditEvent =>
    exact (mutateAccount_shrinks h).kept rfl rfl rfl rfl
  | revokeAccountSessions accountId authorization updatedAt auditEvent =>
    simp only [call, revokeAccountSessions] at h
    exact (mutateAccount_shrinks h).kept rfl rfl rfl rfl
  | saveSession session now limits =>
    simp only [call, saveSession] at h
    split_ifs at h
    · cases h
      exact (Shrinks.refl r).kept rfl rfl rfl rfl
    · obtain ⟨⟨accepted, sessions⟩, hsave, heq⟩ := Option.map_eq_some_iff.1 h
      cases heq
      exact ⟨Table.save_kept hsave, .refl, .refl, .refl⟩
  | findSessionAccountByTokenDigests digests =>
    cases h
    exact (Shrinks.refl r).kept rfl rfl rfl rfl
  | deleteSession id => cases h; exact ⟨.filter _, .refl, .refl, .refl⟩
  | getLoginThrottle key => cases h; exact (Shrinks.refl r).kept rfl rfl rfl rfl
  | recordLoginFailure failure => cases h; exact ⟨.refl, .refl, .refl, .refl⟩
  | deleteLoginThrottles keys => cases h; exact ⟨.refl, .refl, .refl, .refl⟩
  | saveLoginIntent intent now limits =>
    obtain ⟨loginIntents, rfl, hkept⟩ := saveLoginIntent_kept h
    exact ⟨.refl, hkept, .refl, .refl⟩
  | consumeLoginIntent id now =>
    simp only [call, consumeLoginIntent] at h
    split at h
    · cases h
      exact (Shrinks.refl r).kept rfl rfl rfl rfl
    · split_ifs at h
      · cases h
        exact ⟨.refl, .filter _, .refl, .refl⟩
      · cases backend with
        | inMemory => cases h; exact ⟨.refl, .filter _, .refl, .refl⟩
        | postgres => cases h; exact (Shrinks.refl r).kept rfl rfl rfl rfl
  | saveSessionExchange exchange now limits =>
    simp only [call, saveSessionExchange] at h
    split_ifs at h
    · cases h
      exact (Shrinks.refl r).kept rfl rfl rfl rfl
    · obtain ⟨⟨accepted, exchanges⟩, hsave, heq⟩ := Option.map_eq_some_iff.1 h
      cases heq
      exact ⟨.refl, .refl, Table.save_kept hsave, .refl⟩
  | consumeSessionExchange digest targetHost now =>
    simp only [call, consumeSessionExchange] at h
    split at h
    · cases h
      exact (Shrinks.refl r).kept rfl rfl rfl rfl
    · split_ifs at h
      · cases h
        exact (Shrinks.refl r).kept rfl rfl rfl rfl
      · cases h
        exact ⟨.refl, .refl, .filter _, .refl⟩
  | saveCarrierCredential credential now limits =>
    simp only [call, saveCarrierCredential] at h
    split_ifs at h
    · cases h
      exact (Shrinks.refl r).kept rfl rfl rfl rfl
    · obtain ⟨⟨accepted, credentials⟩, hsave, heq⟩ := Option.map_eq_some_iff.1 h
      cases heq
      exact ⟨.refl, .refl, .refl, Table.save_kept hsave⟩
  | consumeCarrierCredential id digest now =>
    simp only [call, consumeCarrierCredential] at h
    split at h
    · cases h
      exact (Shrinks.refl r).kept rfl rfl rfl rfl
    · split_ifs at h
      · cases h
        exact (Shrinks.refl r).kept rfl rfl rfl rfl
      · cases h
        exact ⟨.refl, .refl, .refl, .filter _⟩
  | deleteExpiredAuthArtifacts now batchSize =>
    cases h
    exact ⟨Table.dropExpired_kept, Table.dropExpired_kept, Table.dropExpired_kept,
      Table.dropExpired_kept⟩

/-- An intent that is handed out is deleted. -/
theorem consumeLoginIntent_taken {id : JsString} {now : ℤ} {intent : LoginIntent}
    (h : r.consumeLoginIntent backend id now = (some intent, r')) :
    intent ∈ r.loginIntents ∧ intent.id = id ∧ now < intent.expiresAt ∧
      r'.loginIntents = Table.delete LoginIntent.id r.loginIntents id := by
  simp only [consumeLoginIntent] at h
  split at h
  · cases h
  next found hfound =>
    obtain ⟨hmem, hid⟩ := Table.get_some hfound
    split_ifs at h with hnow
    · cases h
      exact ⟨hmem, hid, hnow, rfl⟩
    · cases backend <;> cases h

theorem consumeSessionExchange_taken {digest targetHost : JsString} {now : ℤ}
    {exchange : SessionExchange}
    (h : r.consumeSessionExchange digest targetHost now = (some exchange, r')) :
    exchange ∈ r.sessionExchanges ∧ exchange.codeDigest = digest ∧
      exchange.targetHost = targetHost ∧ now < exchange.expiresAt ∧
      r'.sessionExchanges =
        Table.delete SessionExchange.codeDigest r.sessionExchanges digest := by
  unfold consumeSessionExchange at h
  split at h
  · cases h
  next found hfound =>
    obtain ⟨hmem, hdigest⟩ := Table.get_some hfound
    split_ifs at h with hrefused
    · cases h
    · cases h
      simp only [not_or, not_not, not_le] at hrefused
      exact ⟨hmem, hdigest, hrefused.1, hrefused.2, rfl⟩

theorem consumeCarrierCredential_taken {id digest : JsString} {now : ℤ}
    {credential : CarrierCredential}
    (h : r.consumeCarrierCredential id digest now = (some credential, r')) :
    credential ∈ r.carrierCredentials ∧ credential.id = id ∧ credential.secretDigest = digest ∧
      now < credential.expiresAt ∧
      r'.carrierCredentials = Table.delete CarrierCredential.id r.carrierCredentials id := by
  unfold consumeCarrierCredential at h
  split at h
  · cases h
  next found hfound =>
    obtain ⟨hmem, hid⟩ := Table.get_some hfound
    split_ifs at h with hrefused
    · cases h
    · cases h
      simp only [not_or, not_not, not_le] at hrefused
      exact ⟨hmem, hid, hrefused.1, hrefused.2, rfl⟩

theorem call_honest {query : Query} {reply : Reply query}
    (h : r.call backend placement query = some (reply.value, r')) : Honest ⟨query, reply⟩ := by
  obtain ⟨value, fresh⟩ := reply
  cases query with
  | consumeLoginIntent id now =>
    rintro intent rfl
    obtain ⟨-, hid, hnow, -⟩ := consumeLoginIntent_taken (Option.some.inj h)
    exact ⟨hid, hnow⟩
  | consumeSessionExchange digest targetHost now =>
    rintro exchange rfl
    obtain ⟨-, hdigest, hhost, hnow, -⟩ := consumeSessionExchange_taken (Option.some.inj h)
    exact ⟨hdigest, hhost, hnow⟩
  | consumeCarrierCredential id digest now =>
    rintro credential rfl
    obtain ⟨-, hid, hdigest, hnow, -⟩ := consumeCarrierCredential_taken (Option.some.inj h)
    exact ⟨hid, hdigest, hnow⟩
  | findSessionAccountByTokenDigests digests =>
    rintro found rfl
    have hfound : r.findSessionAccountByTokenDigests digests = some found :=
      congrArg Prod.fst (Option.some.inj h)
    unfold findSessionAccountByTokenDigests at hfound
    split at hfound
    · cases hfound
    next session hsession =>
      obtain ⟨account, -, rfl⟩ := Option.map_eq_some_iff.1 hfound
      obtain ⟨digest, hdigest, hfind⟩ := List.exists_of_findSome?_eq_some hsession
      have hsame : session.tokenDigest = digest := by simpa using List.find?_some hfind
      rw [hsame]
      exact hdigest
  | _ => trivial

/-- Every intent that is handed out was stored: those of some ids grow only by what is saved. -/
theorem call_intents {query : Query} {reply : Reply query} (p : JsString → Bool)
    (h : r.call backend placement query = some (reply.value, r')) :
    r'.loginIntents.countP (fun row => p row.id) +
        (if (intentTaken ⟨query, reply⟩).any p then 1 else 0) ≤
      r.loginIntents.countP (fun row => p row.id) +
        if (intentSaved ⟨query, reply⟩).any fun row => p row.id then 1 else 0 := by
  have hkept := (call_kept h).loginIntents.countP_le p
  by_cases htaken : (intentTaken ⟨query, reply⟩).any p = true
  · obtain ⟨value, fresh⟩ := reply
    cases query with
    | consumeLoginIntent id now =>
      cases value with
      | none => cases htaken
      | some intent =>
        obtain ⟨hmem, hid, -, hdeleted⟩ := consumeLoginIntent_taken (Option.some.inj h)
        rw [if_pos htaken, hdeleted]
        exact (Table.countP_delete_lt hmem hid htaken).trans (Nat.le_add_right _ _)
    | _ => cases htaken
  · rw [if_neg htaken]
    exact hkept

theorem call_exchanges {query : Query} {reply : Reply query} (p : JsString → Bool)
    (h : r.call backend placement query = some (reply.value, r')) :
    r'.sessionExchanges.countP (fun row => p row.codeDigest) +
        (if (exchangeTaken ⟨query, reply⟩).any p then 1 else 0) ≤
      r.sessionExchanges.countP (fun row => p row.codeDigest) +
        if (exchangeSaved ⟨query, reply⟩).any fun row => p row.codeDigest then 1 else 0 := by
  have hkept := (call_kept h).sessionExchanges.countP_le p
  by_cases htaken : (exchangeTaken ⟨query, reply⟩).any p = true
  · obtain ⟨value, fresh⟩ := reply
    cases query with
    | consumeSessionExchange digest targetHost now =>
      cases value with
      | none => cases htaken
      | some exchange =>
        obtain ⟨hmem, hdigest, -, -, hdeleted⟩ :=
          consumeSessionExchange_taken (Option.some.inj h)
        rw [if_pos htaken, hdeleted]
        exact (Table.countP_delete_lt hmem hdigest htaken).trans (Nat.le_add_right _ _)
    | _ => cases htaken
  · rw [if_neg htaken]
    exact hkept

theorem call_credentials {query : Query} {reply : Reply query} (p : JsString → Bool)
    (h : r.call backend placement query = some (reply.value, r')) :
    r'.carrierCredentials.countP (fun row => p row.id) +
        (if (credentialTaken ⟨query, reply⟩).any p then 1 else 0) ≤
      r.carrierCredentials.countP (fun row => p row.id) +
        if (credentialSaved ⟨query, reply⟩).any fun row => p row.id then 1 else 0 := by
  have hkept := (call_kept h).carrierCredentials.countP_le p
  by_cases htaken : (credentialTaken ⟨query, reply⟩).any p = true
  · obtain ⟨value, fresh⟩ := reply
    cases query with
    | consumeCarrierCredential id digest now =>
      cases value with
      | none => cases htaken
      | some credential =>
        obtain ⟨hmem, hid, -, -, hdeleted⟩ := consumeCarrierCredential_taken (Option.some.inj h)
        rw [if_pos htaken, hdeleted]
        exact (Table.countP_delete_lt hmem hid htaken).trans (Nat.le_add_right _ _)
    | _ => cases htaken
  · rw [if_neg htaken]
    exact hkept

end Repository

end Lotur.Auth
