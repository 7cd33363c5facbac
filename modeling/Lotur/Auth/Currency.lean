import Lotur.Auth.AuthService
import Lotur.Auth.Tables

/-! Stored artifacts are current: each belongs to an enabled account and carries the version that
account has now. An operation that accepts an artifact has it confirmed by its last repository
call, so nothing issued to an earlier version is accepted once the account has been changed. -/
namespace Lotur.Auth
open Interleaving

namespace Repository

variable {r r' : Repository} {backend : Backend} {placement : Placement}

structure Current (r : Repository) : Prop where
  sessions : ∀ session ∈ r.sessions, r.Valid (sessionColumns.owner session)
  sessionExchanges :
    ∀ exchange ∈ r.sessionExchanges, r.Valid (sessionExchangeColumns.owner exchange)
  carrierCredentials :
    ∀ credential ∈ r.carrierCredentials, r.Valid (carrierCredentialColumns.owner credential)

/-- The account exists and has not gone back behind the version. -/
def AtLeast (r : Repository) (owner : AccountAuthorization) : Prop :=
  ∃ account, r.findAccountById owner.accountId = some account ∧
    owner.authVersion ≤ account.authVersion

theorem Valid.atLeast {owner : AccountAuthorization} (h : r.Valid owner) : r.AtLeast owner := by
  obtain ⟨account, hfound, -, hversion⟩ := h
  exact ⟨account, hfound, hversion.ge⟩

structure Sound (r : Repository) : Prop where
  owners : ∀ owner ∈ r.owners, r.Valid owner
  ids : (r.accounts.map Account.id).Nodup

theorem Sound.current (h : r.Sound) : r.Current where
  sessions session hsession := h.owners _ (by
    simp only [Repository.owners, List.mem_append]
    exact Or.inl (Or.inl (List.mem_map_of_mem hsession)))
  sessionExchanges exchange hexchange := h.owners _ (by
    simp only [Repository.owners, List.mem_append]
    exact Or.inl (Or.inr (List.mem_map_of_mem hexchange)))
  carrierCredentials credential hcredential := h.owners _ (by
    simp only [Repository.owners, List.mem_append]
    exact Or.inr (List.mem_map_of_mem hcredential))

theorem findAccountById_congr (h : r'.accounts = r.accounts) (id : JsString) :
    r'.findAccountById id = r.findAccountById id := by
  rw [findAccountById, findAccountById, h]

theorem findAccountById_set_ne {account : Account} {id : JsString}
    (haccounts : r'.accounts = Table.set Account.id r.accounts account) (hne : id ≠ account.id) :
    r'.findAccountById id = r.findAccountById id := by
  rw [findAccountById, findAccountById, haccounts]
  exact Table.get_set_ne hne

theorem Mutation.stored {account updated : Account} (h : Mutation r r' account updated) :
    r'.findAccountById updated.id = some updated := by
  rw [findAccountById, h.accounts]
  exact Table.get_set_self

/-- An account that no call can have changed is found as before. -/
theorem Valid.congr {owner : AccountAuthorization} (h : r.Valid owner)
    (hfound : r'.findAccountById owner.accountId = r.findAccountById owner.accountId) :
    r'.Valid owner := by
  obtain ⟨account, haccount, hrest⟩ := h
  exact ⟨account, hfound.trans haccount, hrest⟩

theorem Effect.sound (h : Effect r r') (hsound : r.Sound) : r'.Sound := by
  cases h with
  | dropped haccounts howners =>
    refine ⟨fun owner howner => ?_, haccounts ▸ hsound.ids⟩
    exact (hsound.owners owner (howners howner)).congr (findAccountById_congr haccounts _)
  | saved owner hvalid haccounts howners =>
    refine ⟨fun other hother => ?_, haccounts ▸ hsound.ids⟩
    rcases List.mem_cons.1 (howners hother) with rfl | hother
    · exact hvalid.congr (findAccountById_congr haccounts _)
    · exact (hsound.owners other hother).congr (findAccountById_congr haccounts _)
  | created account hfree haccounts howners =>
    refine ⟨fun owner howner => ?_, haccounts ▸ Table.nodup_set hsound.ids⟩
    have hvalid := hsound.owners owner (howners ▸ howner)
    apply hvalid.congr
    apply findAccountById_set_ne haccounts
    rintro heq
    obtain ⟨found, hfound, -⟩ := hvalid
    rw [heq, hfree] at hfound
    cases hfound
  | mutated account updated hmutation =>
    refine ⟨fun owner howner => ?_, hmutation.accounts ▸ Table.nodup_set hsound.ids⟩
    obtain ⟨hold, hne⟩ := hmutation.owners owner howner
    exact (hsound.owners owner hold).congr (findAccountById_set_ne hmutation.accounts hne)

theorem Effect.atLeast (h : Effect r r') {owner : AccountAuthorization} (hleast : r.AtLeast owner) :
    r'.AtLeast owner := by
  obtain ⟨found, hfound, hversion⟩ := hleast
  cases h with
  | dropped haccounts howners => exact ⟨found, (findAccountById_congr haccounts _).trans hfound, hversion⟩
  | saved other hvalid haccounts howners =>
    exact ⟨found, (findAccountById_congr haccounts _).trans hfound, hversion⟩
  | created account hfree haccounts howners =>
    have hne : owner.accountId ≠ account.id := by
      rintro heq
      rw [heq, hfree] at hfound
      cases hfound
    exact ⟨found, (findAccountById_set_ne haccounts hne).trans hfound, hversion⟩
  | mutated account updated hmutation =>
    by_cases heq : owner.accountId = updated.id
    · rw [heq, hmutation.found] at hfound
      cases hfound
      refine ⟨updated, heq ▸ hmutation.stored, ?_⟩
      have hnext := hmutation.version
      omega
    · exact ⟨found, (findAccountById_set_ne hmutation.accounts heq).trans hfound, hversion⟩

end Repository

/-- The artifact a call hands out: a session found, an exchange or a credential consumed. -/
def artifact : Event Reply → Option AccountAuthorization
  | ⟨.findSessionAccountByTokenDigests _, reply⟩ =>
    Option.map (fun found : SessionAccount => sessionColumns.owner found.session) reply.value
  | ⟨.consumeSessionExchange _ _ _, reply⟩ => Option.map sessionExchangeColumns.owner reply.value
  | ⟨.consumeCarrierCredential _ _ _, reply⟩ =>
    Option.map carrierCredentialColumns.owner reply.value
  | _ => none

/-- The account a call reads. -/
def accountRead : Event Reply → Option Account
  | ⟨.findAccountById _, reply⟩ => reply.value
  | ⟨.findAccountByUsername _, reply⟩ => reply.value
  | ⟨.findSessionAccountByTokenDigests _, reply⟩ =>
    Option.map SessionAccount.account reply.value
  | _ => none

/-- What the call shows of an account: one it reads, or the owner of an artifact. -/
def Shows (event : Event Reply) (owner : AccountAuthorization) : Prop :=
  artifact event = some owner ∨ (accountRead event).map Account.authorization = some owner

/-- The operation has seen the account at that version. -/
def Basis (history : List (Event Reply)) (owner : AccountAuthorization) : Prop :=
  ∃ event ∈ history, Shows event owner

/-- An account is found under its own id. -/
def Keyed : Event Reply → Prop
  | ⟨.findAccountById id, reply⟩ => ∀ account : Account, reply.value = some account → account.id = id
  | _ => True

/-- The login intent a call hands out. -/
def intentConsumed : Event Reply → Option LoginIntent
  | ⟨.consumeLoginIntent _ _, reply⟩ => reply.value
  | _ => none

/-- The session exchange a call hands out, with the host it was asked for. -/
def exchangeConsumed : Event Reply → Option (JsString × SessionExchange)
  | ⟨.consumeSessionExchange _ targetHost _, reply⟩ =>
    Option.map (fun exchange : SessionExchange => (targetHost, exchange)) reply.value
  | _ => none

/-- What an operation saves is issued to an account it has seen, at the version it has seen. -/
def Issues (history : List (Event Reply)) : Query → Prop
  | .saveSession session _ _ => Basis history (sessionColumns.owner session)
  | .saveSessionExchange exchange _ _ => Basis history (sessionExchangeColumns.owner exchange)
  | .saveCarrierCredential credential _ _ =>
    Basis history (carrierCredentialColumns.owner credential)
  | _ => True

/-- What an operation may ask: artifacts are issued as above, an exchange returns where a consumed
intent leads, and an intent to the path on the host the operation was given. -/
def Asks (invocation : Invocation) (history : List (Event Reply)) (query : Query) : Prop :=
  Issues history query ∧
  match query with
  | .saveSessionExchange exchange _ _ => ∃ event ∈ history, ∃ intent,
      intentConsumed event = some intent ∧ intent.targetHost = exchange.targetHost ∧
        intent.targetPath = exchange.targetPath
  | .saveLoginIntent intent _ _ =>
    invocation.operation = .createLoginIntent intent.targetHost intent.targetPath ∧
      intent.targetPath.startsWith (JsString.ofAscii "/") = true
  | _ => True

/-- The artifacts an operation was handed. -/
def presented (history : List (Event Reply)) : List AccountAuthorization :=
  history.filterMap artifact

/-- The operation has resolved a session, exchanged a code or authorized a carrier. -/
def accepts : Except AuthError Outcome → Bool
  | .ok (.exchanged _ _ _) => true
  | .ok (.authorized _) => true
  | .ok (.resolved (some _)) => true
  | _ => false

/-- The call that shows the account enabled and at the version. -/
def Confirms : Event Reply → AccountAuthorization → Prop
  | ⟨.findAccountById id, reply⟩, owner => id = owner.accountId ∧
      ∃ account : Account, reply.value = some account ∧ account.enabled = true ∧
        account.authVersion = owner.authVersion
  | ⟨.findSessionAccountByTokenDigests _, reply⟩, owner =>
      ∃ found : SessionAccount, reply.value = some found ∧
        sessionColumns.owner found.session = owner ∧ found.account.enabled = true ∧
        found.account.authVersion = owner.authVersion
  | ⟨.saveSession session _ _, reply⟩, owner =>
      reply.value = true ∧ sessionColumns.owner session = owner
  | _, _ => False

/-- An accepted artifact is the only one of its operation, and the last call confirms it. -/
def Confirmed (history : List (Event Reply)) (result : Except AuthError Outcome) : Prop :=
  accepts result = true → ∃ event owner, history.head? = some event ∧
    presented history = [owner] ∧ Confirms event owner

/-- The path an exchange returns is that of the exchange the operation was handed, for its host. -/
def Returned (invocation : Invocation) (history : List (Event Reply))
    (result : Except AuthError Outcome) : Prop :=
  ∀ principal sessionToken targetPath, result = .ok (.exchanged principal sessionToken targetPath) →
    ∃ code targetHost, invocation.operation = .consumeSessionExchange code targetHost ∧
      ∃ event ∈ history, ∃ exchange, exchangeConsumed event = some (targetHost, exchange) ∧
        exchange.targetPath = targetPath

/-- How an operation ends. -/
def Ends (invocation : Invocation) (history : List (Event Reply))
    (result : Except AuthError Outcome) : Prop :=
  Confirmed history result ∧ Returned invocation history result

namespace Repository

variable {r r' : Repository} {backend : Backend} {placement : Placement}

theorem call_keyed {query : Query} {reply : Reply query}
    (h : r.call backend placement query = some (reply.value, r')) : Keyed ⟨query, reply⟩ := by
  cases query with
  | findAccountById id =>
    intro account haccount
    have hvalue : r.findAccountById id = reply.value := congrArg Prod.fst (Option.some.inj h)
    exact (Table.get_some (hvalue.trans haccount)).2
  | _ => trivial

/-- An account in the table is found, under its own id. -/
theorem Sound.atLeast_of_mem (h : r.Sound) {account : Account} (hmem : account ∈ r.accounts) :
    r.AtLeast account.authorization :=
  ⟨account, Table.get_of_mem h.ids hmem, le_rfl⟩

theorem findSessionAccountByTokenDigests_some {digests : List JsString} {found : SessionAccount}
    (h : r.findSessionAccountByTokenDigests digests = some found) :
    found.session ∈ r.sessions ∧ r.findAccountById found.session.accountId = some found.account := by
  unfold findSessionAccountByTokenDigests at h
  split at h
  · cases h
  next session hsession =>
    obtain ⟨account, haccount, rfl⟩ := Option.map_eq_some_iff.1 h
    obtain ⟨digest, -, hfind⟩ := List.exists_of_findSome?_eq_some hsession
    exact ⟨List.mem_of_find?_eq_some hfind, haccount⟩

theorem consumeSessionExchange_some {digest targetHost : JsString} {now : ℤ}
    {exchange : SessionExchange}
    (h : r.consumeSessionExchange digest targetHost now = (some exchange, r')) :
    exchange ∈ r.sessionExchanges := by
  unfold consumeSessionExchange at h
  split at h
  · cases h
  next found hfound =>
    split_ifs at h
    · cases h
    · cases h
      exact (Table.get_some hfound).1

theorem consumeCarrierCredential_some {id digest : JsString} {now : ℤ}
    {credential : CarrierCredential}
    (h : r.consumeCarrierCredential id digest now = (some credential, r')) :
    credential ∈ r.carrierCredentials := by
  unfold consumeCarrierCredential at h
  split at h
  · cases h
  next found hfound =>
    split_ifs at h
    · cases h
    · cases h
      exact (Table.get_some hfound).1

/-- What a call shows of an account is not ahead of the table. -/
theorem call_shows {query : Query} {reply : Reply query} {owner : AccountAuthorization}
    (hsound : r.Sound) (h : r.call backend placement query = some (reply.value, r'))
    (hshows : Shows ⟨query, reply⟩ owner) : r.AtLeast owner := by
  obtain ⟨value, fresh⟩ := reply
  have hcurrent := hsound.current
  cases query with
  | findAccountById id =>
    have hvalue : r.findAccountById id = value := congrArg Prod.fst (Option.some.inj h)
    rcases hshows with hshows | hshows
    · cases hshows
    · obtain ⟨account, haccount, rfl⟩ := Option.map_eq_some_iff.1 hshows
      exact hsound.atLeast_of_mem (Table.get_some (hvalue.trans haccount)).1
  | findAccountByUsername username =>
    have hvalue : r.findAccountByUsername username = value := congrArg Prod.fst (Option.some.inj h)
    rcases hshows with hshows | hshows
    · cases hshows
    · obtain ⟨account, haccount, rfl⟩ := Option.map_eq_some_iff.1 hshows
      exact hsound.atLeast_of_mem (List.mem_of_find?_eq_some (hvalue.trans haccount))
  | findSessionAccountByTokenDigests digests =>
    have hvalue : r.findSessionAccountByTokenDigests digests = value :=
      congrArg Prod.fst (Option.some.inj h)
    rcases hshows with hshows | hshows
    · obtain ⟨found, hfound, rfl⟩ := Option.map_eq_some_iff.1 hshows
      have hmem := (findSessionAccountByTokenDigests_some (hvalue.trans hfound)).1
      exact (hcurrent.sessions _ hmem).atLeast
    · obtain ⟨account, haccount, rfl⟩ := Option.map_eq_some_iff.1 hshows
      obtain ⟨found, hfound, rfl⟩ := Option.map_eq_some_iff.1 haccount
      have hget := (findSessionAccountByTokenDigests_some (hvalue.trans hfound)).2
      exact hsound.atLeast_of_mem (Table.get_some hget).1
  | consumeSessionExchange digest targetHost now =>
    rcases hshows with hshows | hshows
    · obtain ⟨exchange, hexchange, rfl⟩ := Option.map_eq_some_iff.1 hshows
      cases hexchange
      have hmem := consumeSessionExchange_some (Option.some.inj h)
      exact (hcurrent.sessionExchanges _ hmem).atLeast
    · cases hshows
  | consumeCarrierCredential id digest now =>
    rcases hshows with hshows | hshows
    · obtain ⟨credential, hcredential, rfl⟩ := Option.map_eq_some_iff.1 hshows
      cases hcredential
      have hmem := consumeCarrierCredential_some (Option.some.inj h)
      exact (hcurrent.carrierCredentials _ hmem).atLeast
    · cases hshows
  | _ => rcases hshows with hshows | hshows <;> cases hshows

/-- A call that confirms an owner found it valid. -/
theorem call_confirms {query : Query} {reply : Reply query} {owner : AccountAuthorization}
    (h : r.call backend placement query = some (reply.value, r'))
    (hconfirms : Confirms ⟨query, reply⟩ owner) : r.Valid owner := by
  obtain ⟨value, fresh⟩ := reply
  cases query with
  | findAccountById id =>
    obtain ⟨rfl, account, haccount, henabled, hversion⟩ := hconfirms
    have hvalue : r.findAccountById owner.accountId = value :=
      congrArg Prod.fst (Option.some.inj h)
    exact ⟨account, hvalue.trans haccount, henabled, hversion⟩
  | findSessionAccountByTokenDigests digests =>
    obtain ⟨found, hfound, rfl, henabled, hversion⟩ := hconfirms
    have hvalue : r.findSessionAccountByTokenDigests digests = value :=
      congrArg Prod.fst (Option.some.inj h)
    have hget := (findSessionAccountByTokenDigests_some (hvalue.trans hfound)).2
    exact ⟨found.account, hget, henabled, hversion⟩
  | saveSession session now limits =>
    obtain ⟨hsaved, rfl⟩ := hconfirms
    rcases saveSession_cases h with ⟨-, hfalse⟩ | ⟨hvalid, -⟩
    · cases hsaved.symm.trans hfalse
    · exact hvalid
  | _ => exact hconfirms.elim

end Repository

/-- What an operation has seen is not ahead of the table, now or later. -/
def Seen (r : Repository) (event : Event Reply) : Prop := ∀ owner, Shows event owner → r.AtLeast owner

theorem handle_eq_some {backend : Backend} {r r' : Repository} {query : Query} {choice : Choice}
    {reply : Reply query} (h : handle backend r query choice = some (reply, r')) :
    r.call backend choice.placement query = some (reply.value, r') := by
  obtain ⟨⟨value, next⟩, hcall, heq⟩ := Option.map_eq_some_iff.1 h
  cases heq
  exact hcall

/-- The stored artifacts are current, and an accepted one has been confirmed. -/
def currency : Spec Reply AuthError Invocation Outcome Repository where
  inv := Repository.Sound
  seen := Seen
  rely := Keyed
  asks := Asks
  ends := Ends

theorem keeps_currency (backend : Backend) : Keeps (handle backend) currency where
  store hsound _ h := (Repository.call_effect (handle_eq_some h)).sound hsound
  stable _ hseen h owner hshows :=
    (Repository.call_effect (handle_eq_some h)).atLeast (hseen owner hshows)
  event hsound h :=
    have hcall := handle_eq_some h
    ⟨Repository.call_keyed hcall, fun _ hshows =>
      (Repository.call_effect hcall).atLeast (Repository.call_shows hsound hcall hshows)⟩

/-- The program saves only what it has seen, and a value it returns meets the postcondition. -/
def Leads {α : Type} (invocation : Invocation) (p : AuthM α) (post : List (Event Reply) → α → Prop)
    (history : List (Event Reply)) : Prop :=
  p.Follows Keyed (Asks invocation) (fun history result => ∀ value, result = .ok value → post history value)
    history

section Leads

variable {α β : Type} {invocation : Invocation} {post : List (Event Reply) → α → Prop} {history : List (Event Reply)}

theorem Leads.done {value : α} (h : post history value) : Leads invocation (.done value) post history := by
  rintro _ ⟨⟩
  exact h

theorem Leads.fail {code : AuthErrorCode} {message : String} :
    Leads invocation (throwAuth code message) post history := nofun

theorem Leads.ask {query : Query} {next : Reply query → AuthM α} (hissues : Asks invocation history query)
    (h : ∀ reply, Keyed ⟨query, reply⟩ → Leads invocation (next reply) post (⟨query, reply⟩ :: history)) :
    Leads invocation (Auth.ask query >>= next) post history := ⟨hissues, h⟩

theorem Leads.bind {p : AuthM β} {f : β → AuthM α} {middle : List (Event Reply) → β → Prop}
    (hp : Leads invocation p middle history)
    (hf : ∀ history value, middle history value → Leads invocation (f value) post history) :
    Leads invocation (p >>= f) post history := by
  refine Program.Follows.bind (hp.mono fun history result hmiddle => ?_)
  cases result with
  | ok value => exact hf history value (hmiddle value rfl)
  | error error => nofun

theorem Leads.mono {p : AuthM α} {post' : List (Event Reply) → α → Prop}
    (hp : Leads invocation p post history) (himp : ∀ history value, post history value → post' history value) :
    Leads invocation p post' history :=
  Program.Follows.mono hp fun history _ hresult value hvalue => himp history value (hresult value hvalue)

theorem leads_require (result : Except AuthError α) :
    Leads invocation (require result) (fun _ _ => True) history := by
  cases result with
  | ok value => exact .done trivial
  | error error => nofun

end Leads

theorem Basis.cons {history : List (Event Reply)} {owner : AccountAuthorization}
    (h : Basis history owner) (event : Event Reply) : Basis (event :: history) owner := by
  obtain ⟨seen, hseen, hshows⟩ := h
  exact ⟨seen, List.mem_cons_of_mem event hseen, hshows⟩

/-- An account just read is one the operation has seen. -/
theorem Basis.read {history : List (Event Reply)} {event : Event Reply} {account : Account}
    (h : accountRead event = some account) : Basis (event :: history) account.authorization :=
  ⟨event, List.mem_cons_self, Or.inr (by rw [h]; rfl)⟩

namespace AuthService

variable {invocation : Invocation} {history : List (Event Reply)} (service : AuthService)

theorem leads_requireEnabledAccount (principal : AccountAuthorization) :
    Leads invocation (requireEnabledAccount principal)
      (fun history found => Basis history found.1.authorization) history := by
  refine .ask ⟨trivial, trivial⟩ fun reply _ => ?_
  obtain ⟨value, fresh⟩ := reply
  cases value with
  | none => exact .fail
  | some account =>
    dsimp only
    split_ifs
    · exact .fail
    · exact .done (.read rfl)

theorem leads_requireCurrentAccount (principal : AccountAuthorization) :
    Leads invocation (requireCurrentAccount principal)
      (fun history found => Basis history found.1.authorization) history := by
  refine .bind (leads_requireEnabledAccount principal) fun history found hbasis => ?_
  obtain ⟨account, fresh⟩ := found
  dsimp only
  split_ifs
  · exact .fail
  · exact .done hbasis

theorem leads_requireAdministrator (principal : AccountAuthorization) :
    Leads invocation (requireAdministrator principal)
      (fun history found => Basis history found.1.authorization) history := by
  refine .bind (leads_requireCurrentAccount principal) fun history found hbasis => ?_
  obtain ⟨account, fresh⟩ := found
  dsimp only
  split_ifs
  · exact .fail
  · exact .done hbasis

theorem leads_requireCurrentArtifactAccount (expected : AccountAuthorization) :
    Leads invocation (requireCurrentArtifactAccount expected) (fun _ _ => True) history := by
  refine .ask ⟨trivial, trivial⟩ fun reply _ => ?_
  obtain ⟨value, fresh⟩ := reply
  cases value with
  | none => exact .fail
  | some account =>
    dsimp only
    split_ifs
    · exact .fail
    · exact .done trivial

theorem leads_requireAccount (accountId : JsString) :
    Leads invocation (requireAccount accountId) (fun later found => found.1.id = accountId ∧ ∃ reply,
      later = ⟨.findAccountById accountId, reply⟩ :: history ∧ reply.value = some found.1)
      history := by
  refine .ask ⟨trivial, trivial⟩ fun reply hkeyed => ?_
  obtain ⟨value, fresh⟩ := reply
  cases value with
  | none => exact .fail
  | some account => exact .done ⟨hkeyed account rfl, _, rfl, rfl⟩

theorem leads_requireUpdatedAccount (result : AccountMutationResult) :
    Leads invocation (requireUpdatedAccount result) (fun _ _ => True) history := by
  cases result with
  | updated account => exact .done trivial
  | _ => exact .fail

/-- The account of a login is one the operation has seen. -/
theorem leads_loginAccount (username : Option JsString) {knownAccount : Option Account}
    (hknown : ∀ account ∈ knownAccount, Basis history account.authorization) :
    Leads invocation (loginAccount username knownAccount)
      (fun history found => ∀ account ∈ found, Basis history account.authorization) history := by
  cases knownAccount with
  | some account => exact .done hknown
  | none =>
    cases username with
    | none => exact .done hknown
    | some username =>
      refine .ask ⟨trivial, trivial⟩ fun reply _ => ?_
      obtain ⟨value, fresh⟩ := reply
      refine .done ?_
      rintro account haccount
      exact .read haccount

theorem leads_verifyCredentials (input : Credentials) (now : ℤ) {knownAccount : Option Account}
    (hknown : ∀ account ∈ knownAccount, Basis history account.authorization) :
    Leads invocation (service.verifyCredentials input now knownAccount)
      (fun history found => Basis history found.1.authorization) history := by
  refine .bind (leads_loginAccount _ hknown) fun history account haccount => ?_
  refine .ask ⟨trivial, trivial⟩ fun identity _ => .ask ⟨trivial, trivial⟩ fun remote _ => ?_
  split_ifs
  · exact .fail
  dsimp only
  generalize service.verify _ _ = passwordMatches
  cases hfilter : account.filter fun account => account.enabled && passwordMatches with
  | none =>
    dsimp only
    refine .ask ⟨trivial, trivial⟩ fun recorded _ => ?_
    split_ifs
    · exact .fail
    · exact .fail
  | some found =>
    dsimp only
    refine .ask ⟨trivial, trivial⟩ fun deleted _ => .done ?_
    have hmem : account = some found := (Option.filter_eq_some_iff.1 hfilter).1
    exact ((haccount found hmem).cons _).cons _ |>.cons _

/-- A session is issued by one call, to the account given. -/
theorem leads_issueSession {account : Account} (now : ℤ) (audience : JsString) (fresh : Fresh)
    (hbasis : Basis history account.authorization) :
    Leads invocation (service.issueSession account now audience fresh) (fun later _ => ∃ event,
      later = event :: history ∧ artifact event = none ∧ Confirms event account.authorization)
      history := by
  refine .ask ⟨hbasis, trivial⟩ fun saved _ => ?_
  obtain ⟨value, later⟩ := saved
  cases value with
  | true => exact .done ⟨_, rfl, rfl, rfl, rfl⟩
  | false =>
    exact .bind (leads_requireCurrentArtifactAccount _) fun _ _ _ => .fail

/-- The outcome accepts no artifact. -/
def Plain (_ : List (Event Reply)) (outcome : Outcome) : Prop := accepts (.ok outcome) = false

theorem leads_buildAccount (username displayName : JsString) (roles : List AccountRole) :
    Leads invocation (service.buildAccount username displayName roles) (fun _ _ => True) history := by
  refine .bind (leads_require _) fun _ username _ => ?_
  refine .bind (leads_require _) fun _ displayName _ => ?_
  refine .bind (leads_require _) fun _ roles _ => ?_
  refine .ask ⟨trivial, trivial⟩ fun found _ => ?_
  split_ifs
  · exact .fail
  · exact .done trivial

theorem leads_bootstrapAdministrator (username displayName : JsString) :
    Leads invocation (service.bootstrapAdministrator username displayName) Plain history := by
  refine .bind (service.leads_buildAccount username displayName [.admin]) fun _ _ _ => ?_
  refine .ask ⟨trivial, trivial⟩ fun created _ => ?_
  obtain ⟨value, fresh⟩ := created
  cases value with
  | true => exact .done rfl
  | false => exact .fail

theorem leads_authenticate (input : Credentials) (fresh : Fresh) :
    Leads invocation (service.authenticate input fresh) Plain history := by
  refine .bind (service.leads_verifyCredentials input fresh.now nofun) fun _ found hbasis => ?_
  exact .bind (service.leads_issueSession _ _ _ hbasis) fun _ _ _ => .done rfl

theorem leads_verifyAdministratorCredentials (input : Credentials) (fresh : Fresh) :
    Leads invocation (service.verifyAdministratorCredentials input fresh) Plain history := by
  refine .bind (service.leads_verifyCredentials input fresh.now nofun) fun _ found hbasis => ?_
  dsimp only
  split_ifs
  · exact .fail
  · exact .fail
  · exact .done rfl

theorem leads_createLoginIntent (targetHost targetPath : JsString) (fresh : Fresh) :
    Leads ⟨.createLoginIntent targetHost targetPath, fresh⟩
      (service.createLoginIntent targetHost targetPath fresh) Plain history := by
  unfold createLoginIntent
  split_ifs with hinvalid
  · exact .fail
  · simp only [not_or, Bool.not_eq_true', Bool.not_eq_false] at hinvalid
    refine .ask ⟨trivial, rfl, hinvalid.2.2.1⟩ fun saved _ => ?_
    obtain ⟨value, fresh⟩ := saved
    cases value with
    | true => exact .done rfl
    | false => exact .fail

theorem leads_createSessionExchange (principal : Principal) (intentId : JsString) :
    Leads invocation (service.createSessionExchange principal intentId) Plain history := by
  refine .bind (leads_requireCurrentAccount principal.authorization) fun _ found hbasis => ?_
  obtain ⟨account, fresh⟩ := found
  dsimp only
  split_ifs
  · exact .fail
  refine .ask ⟨trivial, trivial⟩ fun consumed _ => ?_
  obtain ⟨value, later⟩ := consumed
  cases value with
  | none => exact .fail
  | some intent =>
    refine .ask ⟨hbasis.cons _, _, List.mem_cons_self, intent, rfl, rfl, rfl⟩ fun saved _ => ?_
    obtain ⟨value, fresh⟩ := saved
    cases value with
    | true => exact .done rfl
    | false => exact .bind (leads_requireCurrentArtifactAccount _) fun _ _ _ => .fail

theorem leads_issueCarrierCredential (principal : Principal) (purpose : CarrierPurpose)
    (tunnelId : JsString) :
    Leads invocation (service.issueCarrierCredential principal purpose tunnelId) Plain history := by
  refine .bind (leads_requireCurrentAccount principal.authorization) fun _ found hbasis => ?_
  obtain ⟨account, fresh⟩ := found
  dsimp only
  split_ifs
  · exact .fail
  · exact .fail
  refine .ask ⟨hbasis, trivial⟩ fun saved _ => ?_
  obtain ⟨value, fresh⟩ := saved
  cases value with
  | true => exact .done rfl
  | false => exact .bind (leads_requireCurrentArtifactAccount _) fun _ _ _ => .fail

theorem leads_consumeExchangeCandidates (targetHost : JsString) (digests : List JsString)
    (fresh : Fresh) :
    Leads invocation (consumeExchangeCandidates targetHost digests fresh) (fun later exchange =>
      presented later = sessionExchangeColumns.owner exchange :: presented history ∧
        ∃ event ∈ later, exchangeConsumed event = some (targetHost, exchange)) history := by
  induction digests generalizing fresh history with
  | nil => exact .fail
  | cons digest digests ih =>
    refine .ask ⟨trivial, trivial⟩ fun consumed _ => ?_
    obtain ⟨value, later⟩ := consumed
    cases value with
    | some exchange => exact .done ⟨rfl, _, List.mem_cons_self, rfl⟩
    | none => exact .mono (ih later) fun _ _ hpresented => hpresented

theorem leads_consumeSessionExchange (code targetHost : JsString) (fresh : Fresh) :
    Leads ⟨.consumeSessionExchange code targetHost, fresh⟩
      (service.consumeSessionExchange code targetHost fresh) (fun history outcome =>
        Ends ⟨.consumeSessionExchange code targetHost, fresh⟩ history (.ok outcome)) [] := by
  refine .bind (leads_consumeExchangeCandidates targetHost _ fresh) fun before exchange hbefore => ?_
  obtain ⟨hpresented, consumed, hconsumed, hexchange⟩ := hbefore
  refine .bind (leads_requireAccount exchange.accountId) fun found read hread => ?_
  obtain ⟨account, later⟩ := read
  obtain ⟨hid, reply, rfl, hreply⟩ := hread
  dsimp only
  split_ifs with hrefused
  · exact .fail
  have howner : account.authorization = sessionExchangeColumns.owner exchange := by
    simp only [Bool.or_eq_true, Bool.not_eq_true', decide_eq_true_eq, not_or, not_not] at hrefused
    rw [Account.authorization, hid, hrefused.1.2]
    rfl
  refine .bind (service.leads_issueSession _ _ _ (.read hreply)) fun history session hsession => ?_
  obtain ⟨event, rfl, hartifact, hconfirms⟩ := hsession
  refine .done ⟨fun _ => ⟨event, _, rfl, ?_, howner ▸ hconfirms⟩, ?_⟩
  · rw [presented, List.filterMap_cons_none hartifact]
    exact hpresented
  · rintro _ _ _ ⟨⟩
    refine ⟨code, targetHost, rfl, consumed, ?_, exchange, hexchange, rfl⟩
    exact List.mem_cons_of_mem _ (List.mem_cons_of_mem _ hconsumed)

theorem leads_consumeCredentialCandidates (id : JsString) (digests : List JsString)
    (fresh : Fresh) :
    Leads invocation (consumeCredentialCandidates id digests fresh) (fun later credential =>
      presented later = carrierCredentialColumns.owner credential :: presented history)
      history := by
  induction digests generalizing fresh history with
  | nil => exact .fail
  | cons digest digests ih =>
    refine .ask ⟨trivial, trivial⟩ fun consumed _ => ?_
    obtain ⟨value, later⟩ := consumed
    cases value with
    | some credential => exact .done rfl
    | none => exact .mono (ih later) fun _ _ hpresented => hpresented

theorem leads_consumeCarrierCredential (token : JsString) (fresh : Fresh) :
    Leads invocation (service.consumeCarrierCredential token fresh)
      (fun history outcome => Ends invocation history (.ok outcome)) [] := by
  unfold consumeCarrierCredential
  dsimp only
  split_ifs
  · exact .fail
  refine .bind (leads_consumeCredentialCandidates _ _ fresh) fun before credential hbefore => ?_
  refine .bind (leads_requireAccount credential.accountId) fun found read hread => ?_
  obtain ⟨account, later⟩ := read
  obtain ⟨hid, reply, rfl, hreply⟩ := hread
  dsimp only
  split_ifs with hrefused
  · exact .fail
  simp only [Bool.or_eq_true, Bool.not_eq_true', decide_eq_true_eq, not_or, not_not,
    Bool.not_eq_false] at hrefused
  refine .done ⟨fun _ => ⟨_, carrierCredentialColumns.owner credential, rfl, hbefore, rfl, account,
    hreply, hrefused.1.1.1, hrefused.2⟩, nofun⟩

theorem leads_cleanupBatches (now : ℤ) (batches : ℕ) :
    Leads invocation (cleanupBatches now batches) Plain history := by
  induction batches generalizing history with
  | zero => exact .done rfl
  | succ batches ih =>
    refine .ask ⟨trivial, trivial⟩ fun deleted _ => ?_
    split_ifs
    · exact .done rfl
    · exact ih

theorem leads_resolveSession (sessionToken expectedAudience : JsString) :
    Leads invocation (service.resolveSession sessionToken expectedAudience)
      (fun history outcome => Ends invocation history (.ok outcome)) [] := by
  unfold resolveSession
  split_ifs
  · exact .done ⟨nofun, nofun⟩
  refine .ask ⟨trivial, trivial⟩ fun found _ => ?_
  obtain ⟨value, fresh⟩ := found
  cases value with
  | none => exact .done ⟨nofun, nofun⟩
  | some found =>
    obtain ⟨session, account⟩ := found
    dsimp only
    split_ifs with haudience hrefused
    · exact .done ⟨nofun, nofun⟩
    · exact .ask ⟨trivial, trivial⟩ fun _ _ => .done ⟨nofun, nofun⟩
    · simp only [Bool.or_eq_true, Bool.not_eq_true', decide_eq_true_eq, not_or, not_not,
        Bool.not_eq_false] at hrefused
      exact .done ⟨fun _ => ⟨_, sessionColumns.owner session, rfl, rfl, _, rfl, rfl, hrefused.1.1,
        hrefused.1.2⟩, nofun⟩

theorem leads_logout (principal : Principal) : Leads invocation (logout principal) Plain history :=
  .ask ⟨trivial, trivial⟩ fun _ _ => .done rfl

theorem leads_replacePassword (account : Account) (password : JsString) (mustChangePassword : Bool)
    (action : AuditAction) (actorAccountId : JsString)
    (authorization : AccountMutationAuthorization) (fresh : Fresh) :
    Leads invocation (replacePassword account password mustChangePassword action actorAccountId authorization
      fresh) (fun _ _ => True) history :=
  .ask ⟨trivial, trivial⟩ fun _ _ => leads_requireUpdatedAccount _

theorem leads_changeOwnPassword (principal : Principal) (currentPassword newPassword : JsString) :
    Leads invocation (service.changeOwnPassword principal currentPassword newPassword) Plain history := by
  refine .bind (leads_requireEnabledAccount principal.authorization) fun before found hbasis => ?_
  obtain ⟨account, fresh⟩ := found
  have hknown : ∀ known ∈ some account, Basis before known.authorization := by
    rintro _ ⟨⟩
    exact hbasis
  refine .bind (service.leads_verifyCredentials _ _ hknown) fun _ _ _ => ?_
  refine .bind (leads_require _) fun _ _ _ => ?_
  exact .bind (leads_replacePassword _ _ _ _ _ _ _) fun _ _ _ => .done rfl

theorem leads_createAccount (actor : AccountAuthorization) (username displayName : JsString)
    (roles : List AccountRole) :
    Leads invocation (service.createAccount actor username displayName roles) Plain history := by
  refine .bind (leads_requireAdministrator actor) fun _ _ _ => ?_
  refine .bind (service.leads_buildAccount username displayName roles) fun _ _ _ => ?_
  refine .ask ⟨trivial, trivial⟩ fun created _ => ?_
  obtain ⟨value, fresh⟩ := created
  cases value with
  | actorNotAuthorized => exact .fail
  | alreadyExists => exact .fail
  | created => exact .done rfl

theorem leads_setAccountEnabled (actor : AccountAuthorization) (accountId : JsString)
    (enabled : Bool) : Leads invocation (setAccountEnabled actor accountId enabled) Plain history := by
  refine .bind (leads_requireAdministrator actor) fun _ _ _ => .ask ⟨trivial, trivial⟩ fun _ _ => ?_
  exact .bind (leads_requireUpdatedAccount _) fun _ _ _ => .done rfl

theorem leads_setAccountRoles (actor : AccountAuthorization) (accountId : JsString)
    (roles : List AccountRole) : Leads invocation (setAccountRoles actor accountId roles) Plain history := by
  refine .bind (leads_requireAdministrator actor) fun _ _ _ => ?_
  refine .bind (leads_require _) fun _ _ _ => .ask ⟨trivial, trivial⟩ fun _ _ => ?_
  exact .bind (leads_requireUpdatedAccount _) fun _ _ _ => .done rfl

theorem leads_resetPassword (actor : AccountAuthorization) (accountId : JsString) :
    Leads invocation (resetPassword actor accountId) Plain history := by
  refine .bind (leads_requireAdministrator actor) fun _ _ _ => ?_
  refine .bind (leads_requireAccount accountId) fun _ _ _ => ?_
  exact .bind (leads_replacePassword _ _ _ _ _ _ _) fun _ _ _ => .done rfl

theorem leads_revokeSessions (actor : AccountAuthorization) (accountId : JsString) :
    Leads invocation (revokeSessions actor accountId) Plain history := by
  refine .bind (leads_requireAdministrator actor) fun _ _ _ => .ask ⟨trivial, trivial⟩ fun _ _ => ?_
  exact .bind (leads_requireUpdatedAccount _) fun _ _ _ => .done rfl

end AuthService

theorem Leads.follows {invocation : Invocation} {p : AuthM Outcome} {history : List (Event Reply)}
    (h : Leads invocation p (fun history outcome => Ends invocation history (.ok outcome)) history) :
    p.Follows Keyed (Asks invocation) (Ends invocation) history := by
  refine Program.Follows.mono h fun history result hresult => ?_
  cases result with
  | ok outcome => exact hresult outcome rfl
  | error error => exact ⟨nofun, nofun⟩

theorem Leads.plain {invocation : Invocation} {p : AuthM Outcome} {history : List (Event Reply)}
    (h : Leads invocation p AuthService.Plain history) :
    p.Follows Keyed (Asks invocation) (Ends invocation) history := by
  refine Leads.follows (h.mono fun history outcome hplain => ⟨fun haccepts => ?_, ?_⟩)
  · rw [AuthService.Plain, haccepts] at hplain
    cases hplain
  · rintro _ _ _ ⟨⟩
    cases hplain

theorem AuthService.program_follows (service : AuthService) (invocation : Invocation) :
    (service.program invocation).Follows Keyed (Asks invocation) (Ends invocation) [] := by
  obtain ⟨operation, fresh⟩ := invocation
  cases operation with
  | bootstrapAdministrator username displayName =>
    exact (service.leads_bootstrapAdministrator username displayName).plain
  | authenticate input => exact (service.leads_authenticate input fresh).plain
  | verifyAdministratorCredentials input =>
    exact (service.leads_verifyAdministratorCredentials input fresh).plain
  | createLoginIntent targetHost targetPath =>
    exact (service.leads_createLoginIntent targetHost targetPath fresh).plain
  | createSessionExchange principal intentId =>
    exact (service.leads_createSessionExchange principal intentId).plain
  | consumeSessionExchange code targetHost =>
    exact (service.leads_consumeSessionExchange code targetHost fresh).follows
  | issueCarrierCredential principal purpose tunnelId =>
    exact (service.leads_issueCarrierCredential principal purpose tunnelId).plain
  | consumeCarrierCredential token =>
    exact (service.leads_consumeCarrierCredential token fresh).follows
  | cleanupExpiredArtifacts => exact (leads_cleanupBatches fresh.now _).plain
  | resolveSession sessionToken expectedAudience =>
    exact (service.leads_resolveSession sessionToken expectedAudience).follows
  | logout principal => exact (leads_logout principal).plain
  | changeOwnPassword principal currentPassword newPassword =>
    exact (service.leads_changeOwnPassword principal currentPassword newPassword).plain
  | createAccount actor username displayName roles =>
    exact (service.leads_createAccount actor username displayName roles).plain
  | setAccountEnabled actor accountId enabled =>
    exact (leads_setAccountEnabled actor accountId enabled).plain
  | setAccountRoles actor accountId roles =>
    exact (leads_setAccountRoles actor accountId roles).plain
  | resetPassword actor accountId => exact (leads_resetPassword actor accountId).plain
  | revokeSessions actor accountId => exact (leads_revokeSessions actor accountId).plain

abbrev AuthSystem := System Reply AuthError Invocation Outcome Repository

/-- A step of the service: an operation begins, or a repository call of one under way runs. -/
def step (service : AuthService) (backend : Backend) :
    AuthSystem → Label Invocation Choice → Option AuthSystem :=
  Interleaving.step service.program (handle backend)

/-- The empty repository. -/
def start (auditEventLimits : AuditEventLimits) : AuthSystem where
  store :=
    { accounts := []
      sessions := []
      loginThrottles := []
      auditEvents := []
      loginIntents := []
      sessionExchanges := []
      carrierCredentials := []
      auditEventLimits }
  calls := []
  finished := []

/-- The account a successful mutation returns when this call is answered. -/
def answeredMutation (backend : Backend) (s : AuthSystem) (index : ℕ) (choice : Choice) :
    Option Account :=
  match s.calls[index]? with
  | some ⟨_, _, .ask query _⟩ =>
    match handle backend s.store query choice with
    | some (reply, _) => query.updated reply.value
    | none => none
  | _ => none

/-- The account that a disable, a role change, a password change or reset, or a revocation stores
when the call of this step succeeds. -/
def mutatedAccount (backend : Backend) (s : AuthSystem) : Label Invocation Choice → Option Account
  | .answer index choice => answeredMutation backend s index choice
  | .lost index choice => answeredMutation backend s index choice
  | _ => none

/-- An artifact is stored with this owner, or an operation under way has seen the account so and may
still save or present an artifact on that basis. -/
def Known (s : AuthSystem) (owner : AccountAuthorization) : Prop :=
  owner ∈ s.store.owners ∨ ∃ call ∈ s.calls, Basis call.history owner

variable {service : AuthService} {backend : Backend} {limits : AuditEventLimits}
  {s s' : AuthSystem} {schedule : List (Label Invocation Choice)}

theorem start_sound : Interleaving.Sound currency (start limits) where
  store := ⟨List.forall_mem_nil _, List.nodup_nil⟩
  calls := List.forall_mem_nil _
  finished := List.forall_mem_nil _

theorem run_sound (hrun : Execution.run (step service backend) (start limits) schedule = some s) :
    Interleaving.Sound currency s :=
  start_sound.run (keeps_currency backend) (fun invocation _ => service.program_follows invocation)
    hrun

theorem answeredMutation_some {index : ℕ} {choice : Choice} {updated : Account}
    (h : answeredMutation backend s index choice = some updated) :
    ∃ invocation history query next reply r account,
      s.calls[index]? = some ⟨invocation, history, .ask query next⟩ ∧
      handle backend s.store query choice = some (reply, r) ∧
      Repository.Mutation s.store r account updated := by
  unfold answeredMutation at h
  split at h
  next invocation history query next hget =>
    split at h
    next reply r hhandle =>
      obtain ⟨account, hmutation⟩ := Repository.call_updated (handle_eq_some hhandle) h
      exact ⟨invocation, history, query, next, reply, r, account, hget, hhandle, hmutation⟩
    next => cases h
  next => cases h

/-- A step that mutates an account replaces it in the table. -/
theorem step_mutation {a : Label Invocation Choice} {updated : Account}
    (hstep : step service backend s a = some s')
    (hmutated : mutatedAccount backend s a = some updated) :
    ∃ account, Repository.Mutation s.store s'.store account updated := by
  cases a with
  | start invocation => cases hmutated
  | reject index => cases hmutated
  | answer index choice =>
    obtain ⟨_, _, _, _, _, _, account, hget, hhandle, hmutation⟩ := answeredMutation_some hmutated
    simp only [step, Interleaving.step, hget, hhandle] at hstep
    cases hstep
    rw [System.settle_store]
    exact ⟨account, hmutation⟩
  | lost index choice =>
    obtain ⟨_, _, _, _, _, _, account, hget, hhandle, hmutation⟩ := answeredMutation_some hmutated
    simp only [step, Interleaving.step, hget, hhandle] at hstep
    cases hstep
    exact ⟨account, hmutation⟩

/-- What is known of an account is not ahead of the table. -/
theorem Known.atLeast {owner : AccountAuthorization}
    (hsound : Interleaving.Sound currency s)
    (h : Known s owner) : s.store.AtLeast owner := by
  rcases h with howner | ⟨call, hcall, event, hevent, hshows⟩
  · exact (hsound.store.owners owner howner).atLeast
  · exact (hsound.calls call hcall).2 event hevent owner hshows

/-- Once the table has reached a version, an operation accepts nothing older. -/
theorem accepted_atLeast {old : List (Finished Reply AuthError Invocation Outcome)}
    {floor : AccountAuthorization}
    (hsound : Interleaving.Sound currency s)
    (hsince : Since (handle backend) (fun r => r.AtLeast floor) old s)
    {later : List (Finished Reply AuthError Invocation Outcome)}
    (hlater : s.finished = later ++ old)
    {entry : Finished Reply AuthError Invocation Outcome} (hentry : entry ∈ later)
    (haccepts : accepts entry.result = true) :
    ∃ owner, presented entry.history = [owner] ∧
      (owner.accountId = floor.accountId → floor.authVersion ≤ owner.authVersion) := by
  obtain ⟨recent, hrecent, hall⟩ := hsince.finished
  have heq : later = recent := List.append_cancel_right (hlater.symm.trans hrecent)
  have hfinished : entry ∈ s.finished := hlater ▸ List.mem_append_left old hentry
  obtain ⟨event, owner, hhead, hpresented, hconfirms⟩ := (hsound.finished entry hfinished).1 haccepts
  obtain ⟨r, choice, r', hfloor, hhandle⟩ := hall entry (heq ▸ hentry) event hhead
  refine ⟨owner, hpresented, fun hid => ?_⟩
  obtain ⟨account, hfound, -, hversion⟩ :=
    Repository.call_confirms (handle_eq_some hhandle) hconfirms
  obtain ⟨reached, hreached, hle⟩ := hfloor
  rw [hid, hreached] at hfound
  cases hfound
  exact hversion ▸ hle

/-- In every reachable state the stored artifacts are current, and what an operation saves is issued
to an account as it has seen it. Once a call has changed an account, everything known of it before
is behind the new version, and no operation accepts an artifact of it that is not from after. -/
theorem artifacts_current
    (hrun : Execution.run (step service backend) (start limits) schedule = some s) :
    s.store.Current ∧
    (∀ call ∈ s.calls, ∀ query next, call.program = .ask query next →
      Issues call.history query) ∧
    ∀ a s' updated, step service backend s a = some s' →
      mutatedAccount backend s a = some updated →
      (∀ owner, Known s owner → owner.accountId = updated.id →
        owner.authVersion < updated.authVersion) ∧
      ∀ rest s'' later, Execution.run (step service backend) s' rest = some s'' →
        s''.finished = later ++ s'.finished → ∀ entry ∈ later, accepts entry.result = true →
        ∃ owner, presented entry.history = [owner] ∧ (owner.accountId = updated.id →
          updated.authVersion ≤ owner.authVersion ∧ ¬ Known s owner) := by
  have hsound := run_sound hrun
  refine ⟨hsound.store.current, fun call hcall query next hprogram => ?_, ?_⟩
  · have hfollows := (hsound.calls call hcall).1
    rw [hprogram] at hfollows
    exact hfollows.1.1
  intro a s' updated hstep hmutated
  obtain ⟨account, hmutation⟩ := step_mutation hstep hmutated
  have hknown : ∀ owner, Known s owner → owner.accountId = updated.id →
      owner.authVersion < updated.authVersion := by
    intro owner howner hid
    obtain ⟨found, hfound, hle⟩ := howner.atLeast hsound
    rw [hid, hmutation.found] at hfound
    cases hfound
    rw [hmutation.version]
    omega
  refine ⟨hknown, fun rest s'' later hrest hlater entry hentry haccepts => ?_⟩
  have hsound' := hsound.step (keeps_currency backend)
    (fun invocation _ => service.program_follows invocation) hstep
  have hreached : Since (handle backend) (fun r => r.AtLeast updated.authorization) s'.finished s' :=
    ⟨⟨updated, hmutation.stored, le_rfl⟩, [], rfl, List.forall_mem_nil _⟩
  have hsince := hreached.run
    (fun hfloor hhandle => (Repository.call_effect (handle_eq_some hhandle)).atLeast hfloor) hrest
  have hsound'' := hsound'.run (keeps_currency backend)
    (fun invocation _ => service.program_follows invocation) hrest
  obtain ⟨owner, hpresented, hle⟩ := accepted_atLeast hsound'' hsince hlater hentry haccepts
  refine ⟨owner, hpresented, fun hid => ⟨hle hid, fun howner => ?_⟩⟩
  exact absurd (hle hid) (not_le.2 (hknown owner howner hid))

namespace PasswordChange

/-- A service whose digests keep the key beside the message and whose hashes are reversals. -/
def reversing : AuthService where
  createHmac key message := key.map UInt8.toUInt16 ++ message
  verify hash password := hash = password.reverse
  toLowerCase := JsString.toLowerCase
  sessionHmacKey := [1]
  previousSessionHmacKeys := []
  dummyPasswordHash := []
  loginIntentLimits := ⟨10000, 256⟩
  loginThrottleLimits := ⟨100000⟩
  authArtifactLimits := defaultAuthArtifactLimits

def fresh (n : UInt16) : Fresh where
  now := 1000 * n.toNat
  id := [n]
  auditId := [n]
  secret := List.replicate 24 n
  hash := List.reverse

def reply (n : UInt16) : Label Invocation Choice :=
  .answer 0 ⟨⟨fun _ => 0, fun _ => 0, fun _ => 0, fun _ => 0, fun _ => 0⟩, fresh n⟩

def username : JsString := JsString.ofAscii "root"

def principal : Principal where
  accountId := [2]
  username := username
  displayName := username
  roles := [.admin]
  mustChangePassword := true
  authVersion := 1
  sessionId := [7]

/-- The first administrator logs in and is about to have the temporary password replaced. -/
def before : List (Label Invocation Choice) :=
  [.start ⟨.bootstrapAdministrator username username, fresh 1⟩, reply 2, reply 3,
    .start ⟨.authenticate ⟨username, List.replicate 24 2, []⟩, fresh 3⟩, reply 4, reply 5, reply 6,
    reply 7, reply 8,
    .start ⟨.changeOwnPassword principal (List.replicate 24 2) (List.replicate 20 9), fresh 9⟩,
    reply 10, reply 11, reply 12, reply 13]

/-- The old session no longer resolves, that of a new login does. -/
def after : List (Label Invocation Choice) :=
  [.start ⟨.resolveSession (7 :: 0x2e :: List.replicate 24 7) (JsString.ofAscii "control"),
      fresh 15⟩, reply 16,
    .start ⟨.authenticate ⟨username, List.replicate 20 9, []⟩, fresh 17⟩, reply 18, reply 19,
    reply 20, reply 21, reply 22,
    .start ⟨.resolveSession (21 :: 0x2e :: List.replicate 24 21) (JsString.ofAscii "control"),
      fresh 23⟩, reply 24]

/-- What an operation was handed and whether it accepted it. -/
structure Verdict where
  accepted : Bool
  artifacts : List AccountAuthorization
  deriving DecidableEq

structure Observation where
  owners : List AccountAuthorization
  verdicts : List Verdict
  deriving DecidableEq

def observe (s : AuthSystem) : Observation :=
  ⟨s.store.owners, s.finished.map fun entry => ⟨accepts entry.result, presented entry.history⟩⟩

end PasswordChange

open PasswordChange in
theorem artifacts_current_password_changed :
    ∃ s s' s'' updated,
      Execution.run (step reversing .inMemory) (start defaultAuditEventLimits) before =
        some s ∧
      step reversing .inMemory s (reply 14) = some s' ∧
      mutatedAccount .inMemory s (reply 14) = some updated ∧
      Execution.run (step reversing .inMemory) s' after = some s'' ∧
      observe s = ⟨[⟨[2], 1⟩], [⟨false, []⟩, ⟨false, []⟩]⟩ ∧ updated.authorization = ⟨[2], 2⟩ ∧
      observe s'' = ⟨[⟨[2], 2⟩], [⟨true, [⟨[2], 2⟩]⟩, ⟨false, []⟩, ⟨false, []⟩, ⟨false, []⟩,
        ⟨false, []⟩, ⟨false, []⟩]⟩ ∧
      s.store.Current ∧ ∀ owner, Known s owner → owner.accountId = updated.id →
        owner.authVersion < updated.authVersion := by
  have hall : ((Execution.run (step reversing .inMemory)
      (start defaultAuditEventLimits) before).bind fun s =>
      (step reversing .inMemory s (reply 14)).bind fun s' =>
      (mutatedAccount .inMemory s (reply 14)).bind fun updated =>
      (Execution.run (step reversing .inMemory) s' after).map fun s'' =>
        (observe s, updated.authorization, observe s'')) =
      some (⟨[⟨[2], 1⟩], [⟨false, []⟩, ⟨false, []⟩]⟩, ⟨[2], 2⟩,
        ⟨[⟨[2], 2⟩], [⟨true, [⟨[2], 2⟩]⟩, ⟨false, []⟩, ⟨false, []⟩, ⟨false, []⟩, ⟨false, []⟩,
          ⟨false, []⟩]⟩) := by decide +kernel
  obtain ⟨s, hrun, hall⟩ := Option.bind_eq_some_iff.1 hall
  obtain ⟨s', hstep, hall⟩ := Option.bind_eq_some_iff.1 hall
  obtain ⟨updated, hmutated, hall⟩ := Option.bind_eq_some_iff.1 hall
  obtain ⟨s'', hrest, heq⟩ := Option.map_eq_some_iff.1 hall
  simp only [Prod.mk.injEq] at heq
  have hclaim := artifacts_current hrun
  exact ⟨s, s', s'', updated, hrun, hstep, hmutated, hrest, heq.1, heq.2.1, heq.2.2, hclaim.1,
    (hclaim.2.2 _ s' updated hstep hmutated).1⟩

end Lotur.Auth
