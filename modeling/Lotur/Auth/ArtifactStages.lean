import Lotur.Auth.Administrators

/-! The artifact calls of an operation, in the order it makes them, and what it makes them with. -/
namespace Lotur.Auth
open Interleaving

/-- The text behind the digest of an exchange code. -/
def exchangeText (code : JsString) : JsString := JsString.ofAscii "exchange:" ++ code

def carrierText (id secret : JsString) : JsString :=
  JsString.ofAscii "carrier:" ++ id ++ 0x3a :: secret

def carrierId (token : JsString) : JsString := token.takeWhile (· ≠ 0x2e)

def carrierSecret (token : JsString) : JsString := token.drop ((carrierId token).length + 1)

/-- The token of a session issued with these draws. -/
def Fresh.sessionToken (fresh : Fresh) : JsString := fresh.id ++ 0x2e :: fresh.secret

def contentAudience (targetHost : JsString) : JsString := JsString.ofAscii "content:" ++ targetHost

/-- The artifact calls an operation has seen, the newest first. -/
def artifactCalls (history : List (Event Reply)) : List (Event Reply) :=
  history.filter fun event => event.1.handlesArtifact

/-- What has been drawn for an operation. -/
def draws (invocation : Invocation) (history : List (Event Reply)) : List Fresh :=
  invocation.fresh :: history.map fun event => event.2.fresh

/-- The artifact of the call is made of the draw. -/
def Mints (service : AuthService) (fresh : Fresh) : Query → Prop
  | .saveSession session _ _ =>
      session.tokenDigest = service.digestSessionToken fresh.sessionToken
  | .saveLoginIntent intent _ _ => intent.id = fresh.secret
  | .saveSessionExchange exchange _ _ =>
      exchange.codeDigest = service.digestSessionToken (exchangeText fresh.secret)
  | .saveCarrierCredential credential _ _ => credential.id = fresh.id ∧
      credential.secretDigest = service.digestSessionToken (carrierText fresh.id fresh.secret)
  | _ => True

/-- The codes tried so far were refused. -/
def Missed (targetHost : JsString) (events : List (Event Reply)) : Prop :=
  ∀ event ∈ events, ∃ digest now fresh, event =
    (⟨.consumeSessionExchange digest targetHost now, ⟨(none : Option SessionExchange), fresh⟩⟩ :
      Event Reply)

/-- The secrets tried so far were refused. -/
def Refused (id : JsString) (events : List (Event Reply)) : Prop :=
  ∀ event ∈ events, ∃ digest now fresh, event =
    (⟨.consumeCarrierCredential id digest now, ⟨(none : Option CarrierCredential), fresh⟩⟩ :
      Event Reply)

/-- The artifact calls of an operation up to some point. -/
inductive Stage (service : AuthService) : Operation → List (Event Reply) → Prop
  | begun (operation : Operation) : Stage service operation []
  | logsIn (input : Credentials) (session : AuthSession) (now : ℤ) (limits : StoredArtifactLimits)
      (reply : Reply (.saveSession session now limits))
      (haudience : session.audience = JsString.ofAscii "control") :
      Stage service (.authenticate input) [⟨_, reply⟩]
  | leavesIntent (intent : LoginIntent) (now : ℤ) (limits : LoginIntentLimits)
      (reply : Reply (.saveLoginIntent intent now limits)) :
      Stage service (.createLoginIntent intent.targetHost intent.targetPath) [⟨_, reply⟩]
  | takesIntent (principal : Principal) (id : JsString) (now : ℤ)
      (reply : Reply (.consumeLoginIntent id now)) :
      Stage service (.createSessionExchange principal id) [⟨_, reply⟩]
  | leavesExchange (principal : Principal) (id : JsString) (now : ℤ) (intent : LoginIntent)
      (fresh : Fresh) (exchange : SessionExchange) (later : ℤ) (limits : StoredArtifactLimits)
      (reply : Reply (.saveSessionExchange exchange later limits))
      (hhost : exchange.targetHost = intent.targetHost) :
      Stage service (.createSessionExchange principal id)
        [⟨_, reply⟩, ⟨.consumeLoginIntent id now, ⟨some intent, fresh⟩⟩]
  | triesCode (code targetHost digest : JsString) (now : ℤ) (missed : List (Event Reply))
      (reply : Reply (.consumeSessionExchange digest targetHost now))
      (hdigest : digest ∈ service.digestSessionTokenCandidates (exchangeText code))
      (hmissed : Missed targetHost missed) :
      Stage service (.consumeSessionExchange code targetHost) (⟨_, reply⟩ :: missed)
  | entersContent (code targetHost digest : JsString) (now : ℤ) (missed : List (Event Reply))
      (exchange : SessionExchange) (fresh : Fresh) (session : AuthSession) (later : ℤ)
      (limits : StoredArtifactLimits) (reply : Reply (.saveSession session later limits))
      (hdigest : digest ∈ service.digestSessionTokenCandidates (exchangeText code))
      (hmissed : Missed targetHost missed)
      (haudience : session.audience = contentAudience exchange.targetHost) :
      Stage service (.consumeSessionExchange code targetHost)
        (⟨_, reply⟩ ::
          ⟨.consumeSessionExchange digest targetHost now, ⟨some exchange, fresh⟩⟩ :: missed)
  | leavesCredential (principal : Principal) (credential : CarrierCredential) (now : ℤ)
      (limits : StoredArtifactLimits) (reply : Reply (.saveCarrierCredential credential now limits)) :
      Stage service (.issueCarrierCredential principal credential.purpose credential.tunnelId)
        [⟨_, reply⟩]
  | triesSecret (token digest : JsString) (now : ℤ) (refused : List (Event Reply))
      (reply : Reply (.consumeCarrierCredential (carrierId token) digest now))
      (hdigest : digest ∈ service.digestSessionTokenCandidates
        (carrierText (carrierId token) (carrierSecret token)))
      (hrefused : Refused (carrierId token) refused) :
      Stage service (.consumeCarrierCredential token) (⟨_, reply⟩ :: refused)

/-- An operation keeps to its stages, and what it stores is made of what it has drawn. -/
structure Staged (service : AuthService) (invocation : Invocation) (history : List (Event Reply)) :
    Prop where
  stage : Stage service invocation.operation (artifactCalls history)
  drawn : ∀ event ∈ history, ∃ fresh ∈ draws invocation history, Mints service fresh event.1

/-- What an accepted artifact entitles to. -/
def Closes (service : AuthService) (operation : Operation) (history : List (Event Reply)) :
    Outcome → Prop
  | .exchanged _ token _ => ∃ code targetHost, operation = .consumeSessionExchange code targetHost ∧
      ∃ event ∈ history, ∃ session, sessionSaved event = some session ∧
        session.tokenDigest = service.digestSessionToken token ∧
        session.audience = contentAudience targetHost
  | .authorized authorization => ∃ token, operation = .consumeCarrierCredential token ∧
      ∃ event ∈ history, ∃ credential, credentialConsumed event = some credential ∧
        credential.purpose = authorization.purpose ∧ credential.tunnelId = authorization.tunnelId
  | .resolved (some _) => ∃ token audience, operation = .resolveSession token audience ∧
      ∃ found fresh, (⟨.findSessionAccountByTokenDigests (service.digestSessionTokenCandidates token),
          ⟨some found, fresh⟩⟩ : Event Reply) ∈ history ∧
        found.session.audience = audience ∧ fresh.now < found.session.expiresAt
  | _ => True

/-- Artifacts are used up in stages. -/
def staging (service : AuthService) : Spec Reply AuthError Invocation Outcome Repository where
  inv _ := True
  seen _ _ := True
  rely event := Keyed event ∧ Honest event
  asks invocation history query := Staged service invocation history ∧
    ∀ reply, Staged service invocation (⟨query, reply⟩ :: history)
  ends invocation history result := Staged service invocation history ∧
    ∀ outcome, result = .ok outcome → Closes service invocation.operation history outcome

theorem keeps_staging (service : AuthService) (backend : Backend) :
    Keeps (handle backend) (staging service) where
  store _ _ _ := trivial
  stable _ _ _ := trivial
  event _ h := ⟨⟨Repository.call_keyed (handle_eq_some h),
    Repository.call_honest (handle_eq_some h)⟩, trivial⟩

variable {service : AuthService} {invocation : Invocation} {history : List (Event Reply)}
  {query : Query} {α β : Type}

theorem mints_of_plain (hquery : query.handlesArtifact = false) (fresh : Fresh) :
    Mints service fresh query := by
  cases query with
  | saveSession session now limits => cases hquery
  | saveLoginIntent intent now limits => cases hquery
  | saveSessionExchange exchange now limits => cases hquery
  | saveCarrierCredential credential now limits => cases hquery
  | _ => trivial

theorem artifactCalls_plain (hquery : query.handlesArtifact = false) (reply : Reply query) :
    artifactCalls (⟨query, reply⟩ :: history) = artifactCalls history :=
  List.filter_cons_of_neg (by simp [hquery])

theorem mem_draws_cons {fresh : Fresh} (h : fresh ∈ draws invocation history) (event : Event Reply) :
    fresh ∈ draws invocation (event :: history) := by
  rcases List.mem_cons.1 h with rfl | hmem
  · exact List.mem_cons_self
  · exact List.mem_cons_of_mem _ (List.mem_cons_of_mem _ hmem)

theorem mem_draws_self (event : Event Reply) :
    event.2.fresh ∈ draws invocation (event :: history) :=
  List.mem_cons_of_mem _ List.mem_cons_self

/-- A call made of a draw of the operation keeps what it stores so. -/
theorem Staged.cons (h : Staged service invocation history) {fresh : Fresh}
    (hfresh : fresh ∈ draws invocation history) (hmints : Mints service fresh query)
    (reply : Reply query)
    (hstage : Stage service invocation.operation (artifactCalls (⟨query, reply⟩ :: history))) :
    Staged service invocation (⟨query, reply⟩ :: history) := by
  refine ⟨hstage, ?_⟩
  rintro event (_ | ⟨_, hevent⟩)
  · exact ⟨fresh, mem_draws_cons hfresh _, hmints⟩
  · obtain ⟨drawn, hdrawn, hmade⟩ := h.drawn event hevent
    exact ⟨drawn, mem_draws_cons hdrawn _, hmade⟩

theorem Staged.plain (h : Staged service invocation history)
    (hquery : query.handlesArtifact = false) (reply : Reply query) :
    Staged service invocation (⟨query, reply⟩ :: history) := by
  refine h.cons List.mem_cons_self (mints_of_plain hquery _) reply ?_
  rw [artifactCalls_plain hquery]
  exact h.stage

theorem staged_nil : Staged service invocation [] := ⟨.begun _, List.forall_mem_nil _⟩

/-- The program keeps to the stages, and a value it returns meets the postcondition. -/
def Passes (service : AuthService) (invocation : Invocation) (p : AuthM α)
    (post : List (Event Reply) → α → Prop) (history : List (Event Reply)) : Prop :=
  p.Follows (staging service).rely ((staging service).asks invocation)
    (fun history result => Staged service invocation history ∧
      ∀ value, result = .ok value → post history value) history

section Passes

variable {post : List (Event Reply) → α → Prop}

theorem Passes.done {value : α} (h : Staged service invocation history) (hvalue : post history value) :
    Passes service invocation (.done value) post history := by
  refine ⟨h, ?_⟩
  rintro _ ⟨⟩
  exact hvalue

theorem Passes.fail {code : AuthErrorCode} {message : String}
    (h : Staged service invocation history) :
    Passes service invocation (throwAuth code message) post history := ⟨h, nofun⟩

theorem Passes.bind {p : AuthM β} {f : β → AuthM α} {middle : List (Event Reply) → β → Prop}
    (hp : Passes service invocation p middle history)
    (hf : ∀ history value, Staged service invocation history → middle history value →
      Passes service invocation (f value) post history) :
    Passes service invocation (p >>= f) post history := by
  refine Program.Follows.bind (hp.mono fun history result hmiddle => ?_)
  cases result with
  | ok value => exact hf history value hmiddle.1 (hmiddle.2 value rfl)
  | error error => exact ⟨hmiddle.1, nofun⟩

/-- A call outside the artifact tables changes no stage. -/
theorem Passes.read {next : Reply query → AuthM α} (h : Staged service invocation history)
    (hquery : query.handlesArtifact = false)
    (hnext : ∀ reply, Staged service invocation (⟨query, reply⟩ :: history) →
      artifactCalls (⟨query, reply⟩ :: history) = artifactCalls history →
      Passes service invocation (next reply) post (⟨query, reply⟩ :: history)) :
    Passes service invocation (Auth.ask query >>= next) post history :=
  ⟨⟨h, h.plain hquery⟩, fun reply _ =>
    hnext reply (h.plain hquery reply) (artifactCalls_plain hquery reply)⟩

/-- An artifact call brings the operation to its next stage. -/
theorem Passes.call {next : Reply query → AuthM α} (h : Staged service invocation history)
    {fresh : Fresh} (hfresh : fresh ∈ draws invocation history) (hmints : Mints service fresh query)
    (hquery : query.handlesArtifact = true)
    (hstage : ∀ reply, Stage service invocation.operation
      (⟨query, reply⟩ :: artifactCalls history))
    (hnext : ∀ reply, Staged service invocation (⟨query, reply⟩ :: history) →
      artifactCalls (⟨query, reply⟩ :: history) = ⟨query, reply⟩ :: artifactCalls history →
      Honest ⟨query, reply⟩ →
      Passes service invocation (next reply) post (⟨query, reply⟩ :: history)) :
    Passes service invocation (Auth.ask query >>= next) post history := by
  have hcalls : ∀ reply, artifactCalls (⟨query, reply⟩ :: history) =
      ⟨query, reply⟩ :: artifactCalls history :=
    fun reply => List.filter_cons_of_pos hquery
  have hstaged : ∀ reply, Staged service invocation (⟨query, reply⟩ :: history) := fun reply =>
    h.cons hfresh hmints reply (by rw [hcalls]; exact hstage reply)
  exact ⟨⟨h, hstaged⟩, fun reply hrely => hnext reply (hstaged reply) (hcalls reply) hrely.2⟩

/-- A program that makes no artifact call stays at the stage. -/
theorem Passes.of_plain {p : AuthM α}
    (hp : p.Follows Keyed (fun _ query => query.handlesArtifact = false)
      (fun history result => ∀ value, result = .ok value → post history value) history)
    (h : Staged service invocation history) : Passes service invocation p post history := by
  induction p generalizing history with
  | done result => exact ⟨h, hp⟩
  | fail error => exact ⟨h, hp⟩
  | ask query next ih =>
    exact ⟨⟨h, h.plain hp.1⟩, fun reply hreply => ih reply (hp.2 reply hreply.1) (h.plain hp.1 reply)⟩

/-- A refusal after calls outside the artifact tables. -/
theorem Passes.refuse {p : AuthM β} {code : AuthErrorCode} {message : String}
    (hp : p.Only (fun query => query.handlesArtifact = false) fun _ => True)
    (h : Staged service invocation history) :
    Passes service invocation (p >>= fun _ => throwAuth code message) post history := by
  have honly : (p >>= fun _ => (throwAuth code message : AuthM α)).Only
      (fun query => query.handlesArtifact = false) fun _ => False := hp.bind fun _ _ => trivial
  refine .of_plain ((honly.follows history).mono fun _ _ hfalse value hvalue => ?_) h
  exact (hfalse value hvalue).elim

end Passes

/-- No artifact call has been made since, and the operation drew what it goes on with. -/
def Reads (invocation : Invocation) (history later : List (Event Reply)) (fresh : Fresh) : Prop :=
  artifactCalls later = artifactCalls history ∧ fresh ∈ draws invocation later

namespace AuthService

theorem plain_of_reads {query : Query} (h : query.reads = true) : query.handlesArtifact = false := by
  cases query with
  | findAccountById id => rfl
  | findAccountByUsername username => rfl
  | _ => cases h

theorem plain_of_authorization {authorization : AccountMutationAuthorization}
    (h : query.authorization = some authorization) : query.handlesArtifact = false := by
  cases query with
  | createAccount account authorization auditEvent => rfl
  | setAccountEnabled accountId enabled authorization updatedAt auditEvent => rfl
  | setAccountRoles accountId roles authorization updatedAt auditEvent => rfl
  | replaceAccountPassword accountId hash mustChange expected authorization updatedAt auditEvent =>
    rfl
  | revokeAccountSessions accountId authorization updatedAt auditEvent => rfl
  | _ => cases h

theorem passes_requireEnabledAccount (principal : AccountAuthorization)
    (h : Staged service invocation history) :
    Passes service invocation (requireEnabledAccount principal)
      (fun later found => Reads invocation history later found.2) history := by
  refine .read h rfl fun reply hstaged hcalls => ?_
  obtain ⟨value, fresh⟩ := reply
  cases value with
  | none => exact .fail hstaged
  | some account =>
    dsimp only
    split_ifs
    · exact .fail hstaged
    · exact .done hstaged ⟨hcalls, mem_draws_self _⟩

theorem passes_requireCurrentAccount (principal : AccountAuthorization)
    (h : Staged service invocation history) :
    Passes service invocation (requireCurrentAccount principal)
      (fun later found => Reads invocation history later found.2) history := by
  refine .bind (passes_requireEnabledAccount principal h) fun later found hstaged hread => ?_
  obtain ⟨account, fresh⟩ := found
  dsimp only
  split_ifs
  · exact .fail hstaged
  · exact .done hstaged hread

theorem passes_requireAccount (accountId : JsString) (h : Staged service invocation history) :
    Passes service invocation (requireAccount accountId)
      (fun later found => Reads invocation history later found.2 ∧
        ∀ event ∈ history, event ∈ later) history := by
  refine .read h rfl fun reply hstaged hcalls => ?_
  obtain ⟨value, fresh⟩ := reply
  cases value with
  | none => exact .fail hstaged
  | some account =>
    exact .done hstaged ⟨⟨hcalls, mem_draws_self _⟩, fun _ => List.mem_cons_of_mem _⟩

theorem passes_loginAccount (username : Option JsString) (knownAccount : Option Account)
    (h : Staged service invocation history) :
    Passes service invocation (loginAccount username knownAccount)
      (fun later _ => artifactCalls later = artifactCalls history) history := by
  cases knownAccount with
  | some account => exact .done h rfl
  | none =>
    cases username with
    | none => exact .done h rfl
    | some username =>
      exact .read h rfl fun reply hstaged hcalls => .done hstaged hcalls

theorem passes_verifyCredentials (input : Credentials) (now : ℤ) (knownAccount : Option Account)
    (h : Staged service invocation history) :
    Passes service invocation (service.verifyCredentials input now knownAccount)
      (fun later found => Reads invocation history later found.2) history := by
  refine .bind (passes_loginAccount _ _ h) fun first account hfirst hcalls => ?_
  refine .read hfirst rfl fun identity hsecond hidentity => ?_
  refine .read hsecond rfl fun remote hthird hremote => ?_
  split_ifs
  · exact .fail hthird
  dsimp only
  generalize service.verify _ _ = passwordMatches
  cases account.filter fun account => account.enabled && passwordMatches with
  | none =>
    dsimp only
    refine .read hthird rfl fun recorded hstaged _ => ?_
    split_ifs
    · exact .fail hstaged
    · exact .fail hstaged
  | some found =>
    refine .read hthird rfl fun deleted hstaged hdeleted => .done hstaged ⟨?_, mem_draws_self _⟩
    rw [hdeleted, hremote, hidentity, hcalls]

theorem only_plain_requireCurrentArtifactAccount (expected : AccountAuthorization) :
    (requireCurrentArtifactAccount expected).Only (fun query => query.handlesArtifact = false)
      fun _ => True :=
  only_requireCurrentArtifactAccount (fun _ => plain_of_reads) expected

/-- A session is stored by one call, at the next stage. -/
theorem passes_issueSession {account : Account} {now : ℤ} {audience : JsString} {fresh : Fresh}
    (h : Staged service invocation history) (hfresh : fresh ∈ draws invocation history)
    (hstage : ∀ session now limits (reply : Reply (.saveSession session now limits)),
      session.audience = audience →
      Stage service invocation.operation (⟨_, reply⟩ :: artifactCalls history)) :
    Passes service invocation (service.issueSession account now audience fresh)
      (fun later issued => ∃ event ∈ later, ∃ session, sessionSaved event = some session ∧
        session.tokenDigest = service.digestSessionToken issued.2 ∧ session.audience = audience)
      history := by
  refine .call h hfresh rfl rfl (fun reply => hstage _ _ _ reply rfl) fun saved hstaged _ _ => ?_
  obtain ⟨value, later⟩ := saved
  cases value with
  | true => exact .done hstaged ⟨_, List.mem_cons_self, _, rfl, rfl, rfl⟩
  | false => exact .refuse (only_plain_requireCurrentArtifactAccount _) hstaged

/-- The operation keeps to its stages and accepts what it may. -/
abbrev Completes (service : AuthService) (operation : Operation) (fresh : Fresh)
    (p : AuthM Outcome) : Prop :=
  Passes service ⟨operation, fresh⟩ p (Closes service operation) []

theorem completes_authenticate (input : Credentials) (fresh : Fresh) :
    Completes service (.authenticate input) fresh (service.authenticate input fresh) := by
  refine .bind (passes_verifyCredentials input fresh.now none staged_nil) fun later found hstaged hread => ?_
  refine .bind (passes_issueSession hstaged hread.2 fun session now limits reply haudience => ?_)
    fun _ issued hissued _ => .done hissued trivial
  rw [hread.1]
  exact .logsIn input session now limits reply haudience

theorem completes_createLoginIntent (targetHost targetPath : JsString) (fresh : Fresh) :
    Completes service (.createLoginIntent targetHost targetPath) fresh
      (service.createLoginIntent targetHost targetPath fresh) := by
  unfold AuthService.createLoginIntent
  split_ifs
  · exact .fail staged_nil
  refine .call staged_nil List.mem_cons_self rfl rfl (fun reply => .leavesIntent _ _ _ reply)
    fun saved hstaged _ _ => ?_
  obtain ⟨value, later⟩ := saved
  cases value with
  | true => exact .done hstaged trivial
  | false => exact .fail hstaged

theorem completes_createSessionExchange (principal : Principal) (intentId : JsString)
    (fresh : Fresh) :
    Completes service (.createSessionExchange principal intentId) fresh
      (service.createSessionExchange principal intentId) := by
  refine .bind (passes_requireCurrentAccount principal.authorization staged_nil)
    fun later found hstaged hread => ?_
  obtain ⟨account, drawn⟩ := found
  dsimp only
  split_ifs
  · exact .fail hstaged
  have hnone : artifactCalls later = [] := hread.1
  refine .call hstaged hread.2 trivial rfl (fun reply => ?_) fun consumed htaken hcalls _ => ?_
  · rw [hnone]
    exact .takesIntent principal intentId _ reply
  obtain ⟨value, second⟩ := consumed
  cases value with
  | none => exact .fail htaken
  | some intent =>
    refine .call htaken (mem_draws_self _) rfl rfl (fun reply => ?_) fun saved hsaved _ _ => ?_
    · rw [hcalls, hnone]
      exact .leavesExchange principal intentId _ intent second _ _ _ reply rfl
    obtain ⟨value, third⟩ := saved
    cases value with
    | true => exact .done hsaved trivial
    | false => exact .refuse (only_plain_requireCurrentArtifactAccount _) hsaved

/-- The code has been found under one of the keys, after those that failed. -/
theorem passes_consumeExchangeCandidates {code targetHost : JsString} {digests : List JsString}
    (fresh : Fresh) (hinvocation : invocation.operation = .consumeSessionExchange code targetHost)
    (hdigests : ∀ digest ∈ digests,
      digest ∈ service.digestSessionTokenCandidates (exchangeText code))
    (h : Staged service invocation history) (hmissed : Missed targetHost (artifactCalls history)) :
    Passes service invocation (consumeExchangeCandidates targetHost digests fresh)
      (fun later exchange => exchange.targetHost = targetHost ∧
        ∃ digest ∈ service.digestSessionTokenCandidates (exchangeText code), ∃ now drawn missed,
          Missed targetHost missed ∧ artifactCalls later =
            ⟨.consumeSessionExchange digest targetHost now, ⟨some exchange, drawn⟩⟩ :: missed)
      history := by
  induction digests generalizing fresh history with
  | nil => exact .fail h
  | cons digest digests ih =>
    have hdigest := hdigests digest List.mem_cons_self
    refine .call h List.mem_cons_self trivial rfl (fun reply => ?_)
      fun consumed hstaged hcalls hhonest => ?_
    · rw [hinvocation]
      exact .triesCode code targetHost digest _ _ reply hdigest hmissed
    obtain ⟨value, drawn⟩ := consumed
    cases value with
    | some exchange =>
      exact .done hstaged ⟨(hhonest exchange rfl).2.1, digest, hdigest, _, drawn, _, hmissed, hcalls⟩
    | none =>
      refine ih drawn (fun other hother => hdigests other (List.mem_cons_of_mem _ hother)) hstaged ?_
      rw [hcalls]
      rintro event (_ | ⟨_, hevent⟩)
      · exact ⟨digest, _, drawn, rfl⟩
      · exact hmissed event hevent

theorem completes_consumeSessionExchange (code targetHost : JsString) (fresh : Fresh) :
    Completes service (.consumeSessionExchange code targetHost) fresh
      (service.consumeSessionExchange code targetHost fresh) := by
  refine .bind (passes_consumeExchangeCandidates fresh rfl (fun _ => id) staged_nil
    (List.forall_mem_nil _)) fun later exchange hstaged hfound => ?_
  obtain ⟨hhost, digest, hdigest, now, drawn, missed, hmissed, hcalls⟩ := hfound
  refine .bind (passes_requireAccount exchange.accountId hstaged) fun second found hsecond hread => ?_
  obtain ⟨account, third⟩ := found
  dsimp only
  split_ifs
  · exact .fail hsecond
  refine .bind (passes_issueSession hsecond hread.1.2 fun session now limits reply haudience => ?_)
    fun final issued hissued hsession => ?_
  · rw [hread.1.1, hcalls]
    exact .entersContent code targetHost digest _ missed exchange drawn session now limits reply
      hdigest hmissed haudience
  · rw [hhost] at hsession
    exact .done hissued ⟨code, targetHost, rfl, hsession⟩

theorem completes_issueCarrierCredential (principal : Principal) (purpose : CarrierPurpose)
    (tunnelId : JsString) (fresh : Fresh) :
    Completes service (.issueCarrierCredential principal purpose tunnelId) fresh
      (service.issueCarrierCredential principal purpose tunnelId) := by
  refine .bind (passes_requireCurrentAccount principal.authorization staged_nil)
    fun later found hstaged hread => ?_
  obtain ⟨account, drawn⟩ := found
  dsimp only
  split_ifs
  · exact .fail hstaged
  · exact .fail hstaged
  refine .call hstaged hread.2 ⟨rfl, rfl⟩ rfl (fun reply => ?_) fun saved hsaved _ _ => ?_
  · rw [hread.1]
    exact .leavesCredential principal _ _ _ reply
  obtain ⟨value, second⟩ := saved
  cases value with
  | true => exact .done hsaved trivial
  | false => exact .refuse (only_plain_requireCurrentArtifactAccount _) hsaved

theorem passes_consumeCredentialCandidates {token : JsString} {digests : List JsString}
    (fresh : Fresh) (hinvocation : invocation.operation = .consumeCarrierCredential token)
    (hdigests : ∀ digest ∈ digests, digest ∈ service.digestSessionTokenCandidates
      (carrierText (carrierId token) (carrierSecret token)))
    (h : Staged service invocation history)
    (hrefused : Refused (carrierId token) (artifactCalls history)) :
    Passes service invocation (consumeCredentialCandidates (carrierId token) digests fresh)
      (fun later credential => ∃ event ∈ later, credentialConsumed event = some credential)
      history := by
  induction digests generalizing fresh history with
  | nil => exact .fail h
  | cons digest digests ih =>
    have hdigest := hdigests digest List.mem_cons_self
    refine .call h List.mem_cons_self trivial rfl (fun reply => ?_)
      fun consumed hstaged hcalls _ => ?_
    · rw [hinvocation]
      exact .triesSecret token digest _ _ reply hdigest hrefused
    obtain ⟨value, drawn⟩ := consumed
    cases value with
    | some credential => exact .done hstaged ⟨_, List.mem_cons_self, rfl⟩
    | none =>
      refine ih drawn (fun other hother => hdigests other (List.mem_cons_of_mem _ hother)) hstaged ?_
      rw [hcalls]
      rintro event (_ | ⟨_, hevent⟩)
      · exact ⟨digest, _, drawn, rfl⟩
      · exact hrefused event hevent

theorem completes_consumeCarrierCredential (token : JsString) (fresh : Fresh) :
    Completes service (.consumeCarrierCredential token) fresh
      (service.consumeCarrierCredential token fresh) := by
  unfold AuthService.consumeCarrierCredential
  dsimp only
  split_ifs
  · exact .fail staged_nil
  refine .bind (passes_consumeCredentialCandidates fresh rfl (fun _ => id) staged_nil
    (List.forall_mem_nil _)) fun later credential hstaged hfound => ?_
  obtain ⟨event, hevent, hconsumed⟩ := hfound
  refine .bind (passes_requireAccount credential.accountId hstaged) fun second found hsecond hread => ?_
  obtain ⟨account, third⟩ := found
  dsimp only
  split_ifs
  · exact .fail hsecond
  · exact .done hsecond ⟨token, rfl, event, hread.2 event hevent, credential, hconsumed, rfl, rfl⟩

theorem completes_resolveSession (sessionToken expectedAudience : JsString) (fresh : Fresh) :
    Completes service (.resolveSession sessionToken expectedAudience) fresh
      (service.resolveSession sessionToken expectedAudience) := by
  unfold AuthService.resolveSession
  split_ifs
  · exact .done staged_nil trivial
  refine .read staged_nil rfl fun reply hstaged _ => ?_
  obtain ⟨value, drawn⟩ := reply
  cases value with
  | none => exact .done hstaged trivial
  | some found =>
    obtain ⟨session, account⟩ := found
    dsimp only
    split_ifs with haudience hrefused
    · exact .done hstaged trivial
    · exact .read hstaged rfl fun _ hdeleted _ => .done hdeleted trivial
    · simp only [Bool.or_eq_true, Bool.not_eq_true', decide_eq_true_eq, not_or, not_le] at hrefused
      exact .done hstaged ⟨sessionToken, expectedAudience, rfl, ⟨session, account⟩, drawn,
        List.mem_cons_self, not_not.1 haudience, hrefused.2⟩

/-- An operation without artifact calls that accepts no artifact. -/
theorem completes_plain {operation : Operation} {fresh : Fresh} {p : AuthM Outcome}
    (honly : p.Only (fun query => query.handlesArtifact = false) fun _ => True)
    (hleads : Leads ⟨operation, fresh⟩ p Plain []) : Completes service operation fresh p := by
  refine .of_plain ?_ staged_nil
  refine (honly.follows_and hleads).imp (List.forall_mem_nil _) (fun _ => id)
    (fun _ _ _ hasks => hasks.1) fun history result _ hplain outcome houtcome => ?_
  have haccepts := hplain outcome houtcome
  cases outcome with
  | exchanged principal token path => cases haccepts
  | authorized authorization => cases haccepts
  | resolved principal =>
    cases principal with
    | none => trivial
    | some principal => cases haccepts
  | _ => trivial

theorem only_plain_verifyCredentials (input : Credentials) (now : ℤ)
    (knownAccount : Option Account) :
    (service.verifyCredentials input now knownAccount).Only
      (fun query => query.handlesArtifact = false) fun _ => True :=
  service.only_verifyCredentials (fun _ _ => id) input now knownAccount

theorem completes_program (service : AuthService) (invocation : Invocation) :
    Completes service invocation.operation invocation.fresh (service.program invocation) := by
  obtain ⟨operation, fresh⟩ := invocation
  have hactor : ∀ {actor}, operation.administrator = some actor →
      (service.program ⟨operation, fresh⟩).Only (fun query => query.handlesArtifact = false)
        fun _ => True := by
    intro actor hactor
    refine (service.program_only ⟨operation, fresh⟩).imp fun query hpermits => ?_
    rcases hpermits.administrator actor hactor with hreads | hwrites
    · exact plain_of_reads hreads
    · exact plain_of_authorization hwrites
  cases operation with
  | bootstrapAdministrator username displayName =>
    refine completes_plain (.bind (service.only_buildAccount (fun _ => plain_of_reads) _ _ _)
      fun built _ => only_ask rfl fun created => ?_)
      (service.leads_bootstrapAdministrator username displayName)
    obtain ⟨value, later⟩ := created
    cases value <;> trivial
  | authenticate input => exact completes_authenticate input fresh
  | verifyAdministratorCredentials input =>
    refine completes_plain (.bind (only_plain_verifyCredentials input fresh.now none)
      fun found _ => ?_) (service.leads_verifyAdministratorCredentials input fresh)
    dsimp only
    split_ifs <;> trivial
  | createLoginIntent targetHost targetPath =>
    exact completes_createLoginIntent targetHost targetPath fresh
  | createSessionExchange principal intentId =>
    exact completes_createSessionExchange principal intentId fresh
  | consumeSessionExchange code targetHost =>
    exact completes_consumeSessionExchange code targetHost fresh
  | issueCarrierCredential principal purpose tunnelId =>
    exact completes_issueCarrierCredential principal purpose tunnelId fresh
  | consumeCarrierCredential token => exact completes_consumeCarrierCredential token fresh
  | cleanupExpiredArtifacts =>
    exact completes_plain (only_cleanupBatches (fun _ _ => rfl) fresh.now _)
      (leads_cleanupBatches fresh.now _)
  | resolveSession sessionToken expectedAudience =>
    exact completes_resolveSession sessionToken expectedAudience fresh
  | logout principal =>
    exact completes_plain (only_ask rfl fun _ => trivial) (leads_logout principal)
  | changeOwnPassword principal currentPassword newPassword =>
    refine completes_plain (.bind (only_requireEnabledAccount (fun _ => plain_of_reads) _)
      fun found _ => ?_) (service.leads_changeOwnPassword principal currentPassword newPassword)
    refine .bind (only_plain_verifyCredentials _ _ _) fun _ _ => ?_
    refine .bind (only_require _) fun _ _ => ?_
    exact .bind (only_replacePassword _ _ _ _ _ _ _ fun _ => plain_of_authorization)
      fun _ _ => trivial
  | createAccount actor username displayName roles =>
    exact completes_plain (hactor rfl) (service.leads_createAccount actor username displayName roles)
  | setAccountEnabled actor accountId enabled =>
    exact completes_plain (hactor rfl) (leads_setAccountEnabled actor accountId enabled)
  | setAccountRoles actor accountId roles =>
    exact completes_plain (hactor rfl) (leads_setAccountRoles actor accountId roles)
  | resetPassword actor accountId =>
    exact completes_plain (hactor rfl) (leads_resetPassword actor accountId)
  | revokeSessions actor accountId =>
    exact completes_plain (hactor rfl) (leads_revokeSessions actor accountId)

end AuthService

end Lotur.Auth
