import Lotur.Auth.ArtifactCounts

/-! Login intents, session exchanges and carrier credentials are used at most once, for what they
were issued for. -/
namespace Lotur.Auth
open Interleaving

variable {service : AuthService} {backend : Backend} {limits : AuditEventLimits}
  {schedule : List (Label Invocation Choice)} {s s' : AuthSystem}

theorem stage_exchangeSaved {operation : Operation} {event : Event Reply}
    {calls : List (Event Reply)} {exchange : SessionExchange}
    (h : Stage service operation (event :: calls)) (hsaved : exchangeSaved event = some exchange) :
    ∃ principal id now intent fresh, operation = .createSessionExchange principal id ∧
      exchange.targetHost = intent.targetHost ∧
      (⟨.consumeLoginIntent id now, ⟨some intent, fresh⟩⟩ : Event Reply) ∈ calls := by
  cases h with
  | leavesExchange principal id now intent fresh stored later limits reply hhost =>
    obtain ⟨value, drawn⟩ := reply
    cases value with
    | true =>
      cases hsaved
      exact ⟨principal, id, now, intent, fresh, rfl, hhost, List.mem_singleton_self _⟩
    | false => cases hsaved
  | _ => cases hsaved

theorem stage_intentSaved {operation : Operation} {event : Event Reply}
    {calls : List (Event Reply)} {intent : LoginIntent}
    (h : Stage service operation (event :: calls)) (hsaved : intentSaved event = some intent) :
    ∃ path, operation = .createLoginIntent intent.targetHost path := by
  cases h with
  | leavesIntent stored now limits reply =>
    obtain ⟨value, drawn⟩ := reply
    cases value with
    | true =>
      cases hsaved
      exact ⟨_, rfl⟩
    | false => cases hsaved
  | _ => cases hsaved

theorem stage_credentialSaved {operation : Operation} {event : Event Reply}
    {calls : List (Event Reply)} {credential : CarrierCredential}
    (h : Stage service operation (event :: calls))
    (hsaved : credentialSaved event = some credential) :
    ∃ principal, operation =
      .issueCarrierCredential principal credential.purpose credential.tunnelId := by
  cases h with
  | leavesCredential principal stored now limits reply =>
    obtain ⟨value, drawn⟩ := reply
    cases value with
    | true =>
      cases hsaved
      exact ⟨principal, rfl⟩
    | false => cases hsaved
  | _ => cases hsaved

/-- What an answer of the run was given to. -/
theorem answer_asked (hrun : Execution.run (step service backend) (start limits) schedule = some s)
    {entry : AuthEntry} (hentry : entry ∈ answers service backend limits schedule) :
    Staged service entry.operation (entry.event :: entry.history) ∧ Honest entry.event ∧
      ∀ event ∈ entry.history, ∃ earlier ∈ answers service backend limits schedule,
        earlier.operation = entry.operation ∧ earlier.event = event := by
  have hlogged : Logged [] (start limits) := ⟨List.forall_mem_nil _, List.forall_mem_nil _⟩
  obtain ⟨hasks, hrely, hseen⟩ := trace_asked (start_staging limits)
    (keeps_staging service backend) (fun invocation _ => program_staging service invocation)
    hlogged hrun hentry
  exact ⟨hasks.2 entry.event.2, hrely.2, hseen⟩

theorem answer_stage (hrun : Execution.run (step service backend) (start limits) schedule = some s)
    {entry : AuthEntry} (hentry : entry ∈ answers service backend limits schedule)
    (hquery : entry.event.1.handlesArtifact = true) :
    Stage service entry.operation.operation (entry.event :: artifactCalls entry.history) := by
  have hstage := (answer_asked hrun hentry).1.stage
  have hcalls : artifactCalls (entry.event :: entry.history) =
      entry.event :: artifactCalls entry.history := List.filter_cons_of_pos hquery
  rwa [hcalls] at hstage

/-- What an answer hands out of a table was stored by another. -/
theorem stored_of_handed {α : Type} (rows : Repository → α → Prop)
    (saves hands : Event Reply → α → Prop)
    (hcall : ∀ {r r' placement query} {reply : Reply query} {row},
      Repository.call backend placement r query = some (reply.value, r') → rows r' row →
        rows r row ∨ saves ⟨query, reply⟩ row)
    (hhands : ∀ {r r' placement query} {reply : Reply query} {row},
      Repository.call backend placement r query = some (reply.value, r') →
        hands ⟨query, reply⟩ row → rows r row)
    (hempty : ∀ row, ¬ rows (start limits).store row)
    (hrun : Execution.run (step service backend) (start limits) schedule = some s)
    {entry : AuthEntry} (hentry : entry ∈ answers service backend limits schedule) {row : α}
    (hrow : hands entry.event row) :
    ∃ stored ∈ answers service backend limits schedule, saves stored.event row := by
  have hstores : ∀ {store query choice} {reply : Reply query} {store' row},
      handle backend store query choice = some (reply, store') → rows store' row →
        rows store row ∨ saves ⟨query, reply⟩ row := fun h => hcall (handle_eq_some h)
  have hgives : ∀ {store query choice} {reply : Reply query} {store' row},
      handle backend store query choice = some (reply, store') → hands ⟨query, reply⟩ row →
        rows store row := fun h => hhands (handle_eq_some h)
  exact (handed_or_saved hstores hgives hrun hentry hrow).resolve_left (hempty row)

theorem intent_stored (hrun : Execution.run (step service backend) (start limits) schedule = some s)
    {entry : AuthEntry} (hentry : entry ∈ answers service backend limits schedule)
    {intent : LoginIntent} (hconsumed : intentConsumed entry.event = some intent) :
    ∃ stored ∈ answers service backend limits schedule,
      intentSaved stored.event = some intent := by
  refine stored_of_handed (fun r row => row ∈ r.loginIntents)
    (fun event row => intentSaved event = some row)
    (fun event row => intentConsumed event = some row)
    (fun h hrow => (Repository.call_kept h).loginIntents.mem hrow) (fun {_ _ _ query reply _} h hrow => ?_)
    (fun _ => List.not_mem_nil) hrun hentry hconsumed
  obtain ⟨value, fresh⟩ := reply
  cases query with
  | consumeLoginIntent id now =>
    cases hrow
    exact (Repository.consumeLoginIntent_taken (Option.some.inj h)).1
  | _ => cases hrow

theorem exchange_stored
    (hrun : Execution.run (step service backend) (start limits) schedule = some s)
    {entry : AuthEntry} (hentry : entry ∈ answers service backend limits schedule)
    {targetHost : JsString} {exchange : SessionExchange}
    (hconsumed : exchangeConsumed entry.event = some (targetHost, exchange)) :
    ∃ stored ∈ answers service backend limits schedule,
      exchangeSaved stored.event = some exchange := by
  refine stored_of_handed (fun r row => row ∈ r.sessionExchanges)
    (fun event row => exchangeSaved event = some row)
    (fun event row => exchangeConsumed event = some (targetHost, row))
    (fun h hrow => (Repository.call_kept h).sessionExchanges.mem hrow)
    (fun {_ _ _ query reply _} h hrow => ?_) (fun _ => List.not_mem_nil) hrun hentry hconsumed
  obtain ⟨value, fresh⟩ := reply
  cases query with
  | consumeSessionExchange digest host now =>
    obtain ⟨found, hfound, heq⟩ := Option.map_eq_some_iff.1 hrow
    cases heq
    cases hfound
    exact (Repository.consumeSessionExchange_taken (Option.some.inj h)).1
  | _ => cases hrow

theorem credential_stored
    (hrun : Execution.run (step service backend) (start limits) schedule = some s)
    {entry : AuthEntry} (hentry : entry ∈ answers service backend limits schedule)
    {credential : CarrierCredential} (hconsumed : credentialConsumed entry.event = some credential) :
    ∃ stored ∈ answers service backend limits schedule,
      credentialSaved stored.event = some credential := by
  refine stored_of_handed (fun r row => row ∈ r.carrierCredentials)
    (fun event row => credentialSaved event = some row)
    (fun event row => credentialConsumed event = some row)
    (fun h hrow => (Repository.call_kept h).carrierCredentials.mem hrow)
    (fun {_ _ _ query reply _} h hrow => ?_) (fun _ => List.not_mem_nil) hrun hentry hconsumed
  obtain ⟨value, fresh⟩ := reply
  cases query with
  | consumeCarrierCredential id digest now =>
    cases hrow
    exact (Repository.consumeCarrierCredential_taken (Option.some.inj h)).1
  | _ => cases hrow

/-- The session a call finds. -/
def sessionFound : Event Reply → Option AuthSession
  | ⟨.findSessionAccountByTokenDigests _, reply⟩ => Option.map SessionAccount.session reply.value
  | _ => none

theorem session_stored
    (hrun : Execution.run (step service backend) (start limits) schedule = some s)
    {entry : AuthEntry} (hentry : entry ∈ answers service backend limits schedule)
    {session : AuthSession} (hfound : sessionFound entry.event = some session) :
    ∃ stored ∈ answers service backend limits schedule,
      sessionSaved stored.event = some session := by
  refine stored_of_handed (fun r row => row ∈ r.sessions)
    (fun event row => sessionSaved event = some row)
    (fun event row => sessionFound event = some row)
    (fun h hrow => (Repository.call_kept h).sessions.mem hrow)
    (fun {_ _ _ query reply _} h hrow => ?_) (fun _ => List.not_mem_nil) hrun hentry hfound
  obtain ⟨value, fresh⟩ := reply
  cases query with
  | findSessionAccountByTokenDigests digests =>
    obtain ⟨found, hvalue, rfl⟩ := Option.map_eq_some_iff.1 hrow
    cases hvalue
    exact (Repository.findSessionAccountByTokenDigests_some
      (congrArg Prod.fst (Option.some.inj h))).1
  | _ => cases hrow

/-- The exchange was created with an intent that was left for the host, and is for that host. -/
def FromIntent (log : List AuthEntry) (targetHost : JsString) (exchange : SessionExchange) : Prop :=
  ∃ created ∈ log, exchangeSaved created.event = some exchange ∧
    ∃ principal id, created.operation.operation = .createSessionExchange principal id ∧
    ∃ taken ∈ log, taken.operation = created.operation ∧
    ∃ intent, intentConsumed taken.event = some intent ∧ intent.id = id ∧
      intent.targetHost = targetHost ∧
    ∃ left ∈ log, intentSaved left.event = some intent ∧
    ∃ targetPath, left.operation.operation = .createLoginIntent targetHost targetPath

/-- What the operations of a run do with the artifacts that the run has issued. -/
structure OneTime (service : AuthService) (log : List AuthEntry) (finished : List AuthFinished) :
    Prop where
  exchanges : ∀ id, log.countP (createsExchange id) ≤
    log.countP fun entry => issuesIntent id entry.event
  contentSessions : ∀ code, log.countP (createsContentSession code) ≤
    log.countP fun entry => issuesExchange service code entry.event
  carriers : ∀ id, finished.countP (authorizesCarrier id) ≤
    log.countP fun entry => issuesCredential id entry.event
  /-- Whatever is handed out is what was asked for, and has not expired. -/
  honest : ∀ entry ∈ log, Honest entry.event
  redeemed : ∀ entry ∈ log, ∀ targetHost exchange,
    exchangeConsumed entry.event = some (targetHost, exchange) →
    (∃ code, entry.operation.operation = .consumeSessionExchange code targetHost) ∧
      exchange.targetHost = targetHost ∧ FromIntent log targetHost exchange
  entered : ∀ entry ∈ finished, ∀ principal token targetPath,
    entry.result = .ok (.exchanged principal token targetPath) →
    ∃ code targetHost, entry.operation.operation = .consumeSessionExchange code targetHost ∧
      ∃ stored ∈ log, ∃ session, sessionSaved stored.event = some session ∧
        session.tokenDigest = service.digestSessionToken token ∧
        session.audience = contentAudience targetHost
  resolved : ∀ entry ∈ finished, ∀ principal,
    entry.result = .ok (.resolved (some principal)) →
    ∃ token audience, entry.operation.operation = .resolveSession token audience ∧
      ∃ event ∈ entry.history, ∃ session, sessionFound event = some session ∧
        session.tokenDigest ∈ service.digestSessionTokenCandidates token ∧
        session.audience = audience ∧ event.2.fresh.now < session.expiresAt ∧
        ∃ stored ∈ log, sessionSaved stored.event = some session
  carried : ∀ entry ∈ finished, ∀ authorization,
    entry.result = .ok (.authorized authorization) →
    ∃ token, entry.operation.operation = .consumeCarrierCredential token ∧
      ∃ issued ∈ log, ∃ credential, credentialSaved issued.event = some credential ∧
        credential.id = carrierId token ∧
        credential.secretDigest ∈ service.digestSessionTokenCandidates
          (carrierText (carrierId token) (carrierSecret token)) ∧
        ∃ principal, issued.operation.operation =
          .issueCarrierCredential principal authorization.purpose authorization.tunnelId

/-- At most one use of each artifact, and no audience but the host of the exchange. -/
structure AtMostOnce (log : List AuthEntry) (finished : List AuthFinished) : Prop where
  exchanges : ∀ id, log.countP (createsExchange id) ≤ 1
  contentSessions : ∀ code, log.countP (createsContentSession code) ≤ 1
  carriers : ∀ id, finished.countP (authorizesCarrier id) ≤ 1
  audience : ∀ entry ∈ finished, ∀ code targetHost,
    entry.operation.operation = .consumeSessionExchange code targetHost →
    ∀ principal token targetPath, entry.result = .ok (.exchanged principal token targetPath) →
    ∀ other ∈ finished, ∀ audience, other.operation.operation = .resolveSession token audience →
    ∀ found, other.result = .ok (.resolved (some found)) → audience = contentAudience targetHost

/-- An answer to someone who presents a code for another host, or another secret, takes nothing away
from the owner. -/
structure Unharmed (service : AuthService) (entry : AuthEntry) (r r' : Repository) : Prop where
  exchanges : ∀ code targetHost,
    entry.operation.operation = .consumeSessionExchange code targetHost →
    ∀ digest owner now, owner ≠ targetHost →
      (r'.consumeSessionExchange digest owner now).1 = (r.consumeSessionExchange digest owner now).1
  credentials : ∀ token, entry.operation.operation = .consumeCarrierCredential token →
    ∀ id secret, (id, secret) ≠ (carrierId token, carrierSecret token) →
    ∀ digest ∈ service.digestSessionTokenCandidates (carrierText id secret), ∀ now,
      (r'.consumeCarrierCredential id digest now).1 = (r.consumeCarrierCredential id digest now).1

theorem stage_exchangeConsumed {operation : Operation} {event : Event Reply}
    {calls : List (Event Reply)} {targetHost : JsString} {exchange : SessionExchange}
    (h : Stage service operation (event :: calls))
    (hconsumed : exchangeConsumed event = some (targetHost, exchange)) :
    ∃ code, operation = .consumeSessionExchange code targetHost := by
  cases h with
  | triesCode code host digest now missed reply hdigest hmissed =>
    obtain ⟨found, -, heq⟩ := Option.map_eq_some_iff.1 hconsumed
    cases heq
    exact ⟨code, rfl⟩
  | _ => cases hconsumed

theorem stage_credentialConsumed {operation : Operation} {event : Event Reply}
    {calls : List (Event Reply)} {credential : CarrierCredential}
    (h : Stage service operation (event :: calls))
    (hconsumed : credentialConsumed event = some credential) :
    ∃ token digest now fresh, operation = .consumeCarrierCredential token ∧
      event = ⟨.consumeCarrierCredential (carrierId token) digest now, ⟨some credential, fresh⟩⟩ ∧
      digest ∈ service.digestSessionTokenCandidates
        (carrierText (carrierId token) (carrierSecret token)) := by
  cases h with
  | triesSecret token digest now refused reply hdigest hrefused =>
    obtain ⟨value, fresh⟩ := reply
    cases hconsumed
    exact ⟨token, digest, now, fresh, rfl, rfl, hdigest⟩
  | _ => cases hconsumed

theorem handlesArtifact_of_exchangeConsumed {event : Event Reply}
    (h : (exchangeConsumed event).isSome = true) : event.1.handlesArtifact = true := by
  obtain ⟨query, reply⟩ := event
  cases query with
  | consumeSessionExchange digest targetHost now => rfl
  | _ => cases h

/-- A redeemed exchange goes back to a login intent for the host it is redeemed with. -/
theorem redeemed_from_intent
    (hrun : Execution.run (step service backend) (start limits) schedule = some s)
    {entry : AuthEntry} (hentry : entry ∈ answers service backend limits schedule)
    {targetHost : JsString} {exchange : SessionExchange}
    (hconsumed : exchangeConsumed entry.event = some (targetHost, exchange)) :
    (∃ code, entry.operation.operation = .consumeSessionExchange code targetHost) ∧
      exchange.targetHost = targetHost ∧
      FromIntent (answers service backend limits schedule) targetHost exchange := by
  have hstage := answer_stage hrun hentry
    (handlesArtifact_of_exchangeConsumed (by rw [hconsumed]; rfl))
  have hhost : exchange.targetHost = targetHost := by
    have hhonest := (answer_asked hrun hentry).2.1
    obtain ⟨operation, history, ⟨query, value, fresh⟩⟩ := entry
    cases query with
    | consumeSessionExchange digest host now =>
      obtain ⟨found, hfound, heq⟩ := Option.map_eq_some_iff.1 hconsumed
      cases heq
      exact (hhonest exchange hfound).2.1
    | _ => cases hconsumed
  refine ⟨stage_exchangeConsumed hstage hconsumed, hhost, ?_⟩
  obtain ⟨created, hcreated, hsaved⟩ := exchange_stored hrun hentry hconsumed
  obtain ⟨principal, id, now, intent, fresh, hoperation, hintent, hcall⟩ := stage_exchangeSaved
    (answer_stage hrun hcreated (handlesArtifact_of_exchangeSaved (by rw [hsaved]; rfl))) hsaved
  obtain ⟨taken, htaken, hsame, hevent⟩ :=
    (answer_asked hrun hcreated).2.2 _ (List.mem_of_mem_filter hcall)
  have htook : intentConsumed taken.event = some intent := by
    rw [hevent]
    rfl
  have hid : intent.id = id := by
    have hhonest := (answer_asked hrun htaken).2.1
    rw [hevent] at hhonest
    exact (hhonest intent rfl).1
  obtain ⟨left, hleft, hstored⟩ := intent_stored hrun htaken htook
  obtain ⟨targetPath, hlogin⟩ := stage_intentSaved (answer_stage hrun hleft
    (handlesArtifact_of_minted (by simp [minted, hstored]))) hstored
  have htarget : intent.targetHost = targetHost := hintent.symm.trans hhost
  rw [htarget] at hlogin
  exact ⟨created, hcreated, hsaved, principal, id, hoperation, taken, htaken, hsame, intent, htook,
    hid, htarget, left, hleft, hstored, targetPath, hlogin⟩

/-- How an operation of the run has ended, and that what it has seen was answered in the run. -/
theorem finished_closes
    (hrun : Execution.run (step service backend) (start limits) schedule = some s)
    {entry : AuthFinished} (hentry : entry ∈ s.finished) {outcome : Outcome}
    (hresult : entry.result = .ok outcome) :
    Closes service entry.operation.operation entry.history outcome ∧
      ∀ event ∈ entry.history, ∃ logged ∈ answers service backend limits schedule,
        logged.operation = entry.operation ∧ logged.event = event := by
  have hsound : Interleaving.Sound (staging service) s :=
    (start_staging limits).run (keeps_staging service backend)
      (fun invocation _ => program_staging service invocation) hrun
  have hlogged : Logged [] (start limits) := ⟨List.forall_mem_nil _, List.forall_mem_nil _⟩
  exact ⟨(hsound.finished entry hentry).2 outcome hresult, (hlogged.run hrun).finished entry hentry⟩

theorem one_time
    (hrun : Execution.run (step service backend) (start limits) schedule = some s) :
    OneTime service (answers service backend limits schedule) s.finished where
  exchanges id := exchanges_le id hrun
  contentSessions code := contentSessions_le code hrun
  carriers id := authorizations_le id hrun
  honest entry hentry := (answer_asked hrun hentry).2.1
  redeemed entry hentry targetHost exchange := redeemed_from_intent hrun hentry
  entered entry hentry principal token targetPath hresult := by
    obtain ⟨⟨code, targetHost, hoperation, event, hevent, session, hsaved, hdigest, haudience⟩,
      hlog⟩ := finished_closes hrun hentry hresult
    obtain ⟨stored, hstored, -, rfl⟩ := hlog event hevent
    exact ⟨code, targetHost, hoperation, stored, hstored, session, hsaved, hdigest, haudience⟩
  resolved entry hentry principal hresult := by
    obtain ⟨⟨token, audience, hoperation, found, fresh, hevent, haudience, hnow⟩, hlog⟩ :=
      finished_closes hrun hentry hresult
    obtain ⟨logged, hlogged, -, heq⟩ := hlog _ hevent
    have hhonest := (answer_asked hrun hlogged).2.1
    rw [heq] at hhonest
    have hfound : sessionFound logged.event = some found.session := by
      rw [heq]
      rfl
    exact ⟨token, audience, hoperation, _, hevent, found.session, rfl, hhonest found rfl, haudience,
      hnow, session_stored hrun hlogged hfound⟩
  carried entry hentry authorization hresult := by
    obtain ⟨⟨token, hoperation, event, hevent, credential, hconsumed, hpurpose, htunnel⟩, hlog⟩ :=
      finished_closes hrun hentry hresult
    obtain ⟨logged, hlogged, hsame, rfl⟩ := hlog event hevent
    have hquery : logged.event.1.handlesArtifact = true := by
      obtain ⟨operation, history, ⟨query, reply⟩⟩ := logged
      cases query with
      | consumeCarrierCredential id digest now => rfl
      | _ => cases hconsumed
    obtain ⟨presented, digest, now, fresh, hpresented, heq, hdigest⟩ :=
      stage_credentialConsumed (answer_stage hrun hlogged hquery) hconsumed
    have htoken : presented = token := by
      rw [hsame, hoperation] at hpresented
      cases hpresented
      rfl
    subst htoken
    have hhonest := (answer_asked hrun hlogged).2.1
    rw [heq] at hhonest
    obtain ⟨hid, hsecret, -⟩ := hhonest credential rfl
    obtain ⟨issued, hissued, hsaved⟩ := credential_stored hrun hlogged hconsumed
    obtain ⟨principal, hissues⟩ := stage_credentialSaved (answer_stage hrun hissued
      (handlesArtifact_of_minted (by simp [minted, hsaved]))) hsaved
    rw [hpurpose, htunnel] at hissues
    exact ⟨presented, hoperation, issued, hissued, credential, hsaved, hid, hsecret ▸ hdigest,
      principal, hissues⟩

theorem eq_of_countP_le_one {α : Type} {p : α → Bool} {values : List α} (h : values.countP p ≤ 1)
    {first second : α} (hfirst : first ∈ values) (hsecond : second ∈ values)
    (hp : p first = true) (hp' : p second = true) : first = second := by
  rw [List.countP_eq_length_filter] at h
  have hmem := List.mem_filter.2 ⟨hfirst, hp⟩
  have hmem' := List.mem_filter.2 ⟨hsecond, hp'⟩
  cases hrest : values.filter p with
  | nil =>
    rw [hrest] at hmem
    cases hmem
  | cons only rest =>
    rw [hrest] at h hmem hmem'
    obtain rfl : rest = [] := List.eq_nil_of_length_eq_zero (by simpa using h)
    rw [List.mem_singleton.1 hmem, List.mem_singleton.1 hmem']

theorem at_most_once (hdigests : service.DigestsInjective) (hdistinct : Distinct schedule)
    (hrun : Execution.run (step service backend) (start limits) schedule = some s) :
    AtMostOnce (answers service backend limits schedule) s.finished where
  exchanges id := (exchanges_le id hrun).trans ((unrepeated hdigests hdistinct hrun).intents id)
  contentSessions code :=
    (contentSessions_le code hrun).trans ((unrepeated hdigests hdistinct hrun).exchanges code)
  carriers id :=
    (authorizations_le id hrun).trans ((unrepeated hdigests hdistinct hrun).credentials id)
  audience entry hentry code targetHost hoperation principal token targetPath hresult other hother
      audience hresolves found hfound := by
    have htimes := one_time hrun
    obtain ⟨code', host, hentered, stored, hstored, session, hsaved, hdigest, haudience⟩ :=
      htimes.entered entry hentry principal token targetPath hresult
    obtain ⟨token', audience', hpresented, event, -, session', -, hcandidate, haudience', -, stored',
      hstored', hsaved'⟩ := htimes.resolved other hother found hfound
    rw [hoperation] at hentered
    cases hentered
    rw [hresolves] at hpresented
    cases hpresented
    have hissues : issuesSession service token stored.event = true := by
      rw [issuesSession, hsaved, Option.any_some, hdigest]
      exact decide_eq_true (digest_mem_candidates service token)
    have hissues' : issuesSession service token stored'.event = true := by
      rw [issuesSession, hsaved', Option.any_some]
      exact decide_eq_true hcandidate
    have hsame := eq_of_countP_le_one ((unrepeated hdigests hdistinct hrun).sessions token) hstored
      hstored' hissues hissues'
    rw [hsame, hsaved'] at hsaved
    cases hsaved
    exact haudience'.symm.trans haudience

namespace Repository

variable {r r' : Repository}

theorem consumeSessionExchange_congr (h : r'.sessionExchanges = r.sessionExchanges)
    (digest targetHost : JsString) (now : ℤ) :
    (r'.consumeSessionExchange digest targetHost now).1 =
      (r.consumeSessionExchange digest targetHost now).1 := by
  simp only [consumeSessionExchange, h]
  cases Table.get SessionExchange.codeDigest r.sessionExchanges digest with
  | none => rfl
  | some exchange =>
    dsimp only
    split_ifs <;> rfl

theorem consumeCarrierCredential_congr (h : r'.carrierCredentials = r.carrierCredentials)
    (id digest : JsString) (now : ℤ) :
    (r'.consumeCarrierCredential id digest now).1 =
      (r.consumeCarrierCredential id digest now).1 := by
  simp only [consumeCarrierCredential, h]
  cases Table.get CarrierCredential.id r.carrierCredentials id with
  | none => rfl
  | some credential =>
    dsimp only
    split_ifs <;> rfl

/-- A redemption for one host leaves what another host can redeem. -/
theorem consumeSessionExchange_other {digest targetHost : JsString} {now : ℤ}
    {value : Option SessionExchange}
    (h : r.consumeSessionExchange digest targetHost now = (value, r')) {digest' owner : JsString}
    {later : ℤ} (howner : owner ≠ targetHost) :
    (r'.consumeSessionExchange digest' owner later).1 =
      (r.consumeSessionExchange digest' owner later).1 := by
  unfold consumeSessionExchange at h
  split at h
  · cases h
    rfl
  next found hfound =>
    split_ifs at h with hrefused
    · cases h
      rfl
    · cases h
      simp only [not_or, not_not] at hrefused
      by_cases hdigest : digest' = digest
      · have hhost : found.targetHost ≠ owner := hrefused.1.trans_ne howner.symm
        simp [consumeSessionExchange, hdigest, hfound, Table.get_delete_self, hhost]
      · simp only [consumeSessionExchange, Table.get_delete_ne hdigest]
        cases Table.get SessionExchange.codeDigest r.sessionExchanges digest' with
        | none => rfl
        | some exchange =>
          dsimp only
          split_ifs <;> rfl

/-- A redemption with one secret leaves what another can redeem. -/
theorem consumeCarrierCredential_other {id digest : JsString} {now : ℤ}
    {value : Option CarrierCredential}
    (h : r.consumeCarrierCredential id digest now = (value, r')) {id' digest' : JsString} {later : ℤ}
    (hother : id' = id → digest' ≠ digest) :
    (r'.consumeCarrierCredential id' digest' later).1 =
      (r.consumeCarrierCredential id' digest' later).1 := by
  unfold consumeCarrierCredential at h
  split at h
  · cases h
    rfl
  next found hfound =>
    split_ifs at h with hrefused
    · cases h
      rfl
    · cases h
      simp only [not_or, not_not] at hrefused
      by_cases hid : id' = id
      · have hsecret : found.secretDigest ≠ digest' := hrefused.1.trans_ne (hother hid).symm
        simp [consumeCarrierCredential, hid, hfound, Table.get_delete_self, hsecret]
      · simp only [consumeCarrierCredential, Table.get_delete_ne hid]
        cases Table.get CarrierCredential.id r.carrierCredentials id' with
        | none => rfl
        | some credential =>
          dsimp only
          split_ifs <;> rfl

end Repository

/-- The operation redeems an exchange or a credential. -/
def Operation.redeems : Operation → Bool
  | .consumeSessionExchange _ _ => true
  | .consumeCarrierCredential _ => true
  | _ => false

/-- An operation that redeems asks for nothing but accounts and artifacts. -/
def redeeming : Spec Reply AuthError Invocation Outcome Repository where
  inv _ := True
  seen _ _ := True
  rely _ := True
  asks invocation _ query := invocation.operation.redeems = true → query.servesArtifacts = true
  ends _ _ _ := True

theorem program_redeeming (service : AuthService) (invocation : Invocation) :
    (service.program invocation).Follows redeeming.rely (redeeming.asks invocation)
      (redeeming.ends invocation) [] := by
  obtain ⟨operation, fresh⟩ := invocation
  by_cases hredeems : operation.redeems = true
  · have honly : (service.program ⟨operation, fresh⟩).Only
        (fun query => query.servesArtifacts = true) fun _ => True := by
      cases operation with
      | consumeSessionExchange code targetHost =>
        exact service.only_consumeSessionExchange (fun _ => id) code targetHost fresh
      | consumeCarrierCredential token =>
        exact service.only_consumeCarrierCredential (fun _ => id) token fresh
      | _ => cases hredeems
    exact ((honly.imp fun query hquery _ => hquery).follows []).mono fun _ _ _ => trivial
  · refine ((service.program_only ⟨operation, fresh⟩).imp fun query _ hcontra => ?_).follows []
      |>.mono fun _ _ _ => trivial
    exact absurd hcontra hredeems

theorem keeps_redeeming (backend : Backend) : Keeps (handle backend) redeeming where
  store _ _ _ := trivial
  stable _ _ _ := trivial
  event _ _ := ⟨trivial, trivial⟩

theorem reads_or_handles {query : Query} (h : query.servesArtifacts = true) :
    query.reads = true ∨ query.handlesArtifact = true := Bool.or_eq_true_iff.1 h

/-- A call of an operation that redeems a code for one host leaves what another host can redeem. -/
theorem call_redeems_exchange {r r' : Repository} {placement : Placement} {query : Query}
    {reply : Reply query} {calls : List (Event Reply)} {code targetHost digest owner : JsString}
    {now : ℤ} (hserves : query.servesArtifacts = true)
    (hstage : query.handlesArtifact = true →
      Stage service (.consumeSessionExchange code targetHost) (⟨query, reply⟩ :: calls))
    (h : r.call backend placement query = some (reply.value, r')) (howner : owner ≠ targetHost) :
    (r'.consumeSessionExchange digest owner now).1 =
      (r.consumeSessionExchange digest owner now).1 := by
  rcases reads_or_handles hserves with hreads | hhandles
  · rw [Repository.call_reads hreads h]
  cases hstage hhandles with
  | triesCode code host tried time missed reply hdigest hmissed =>
    exact Repository.consumeSessionExchange_other (Option.some.inj h) howner
  | entersContent code host tried time missed exchange fresh session later limits reply hdigest
      hmissed haudience =>
    rcases Repository.saveSession_cases h with ⟨rfl, -⟩ | ⟨-, sessions, rfl, -⟩
    · rfl
    · have hsame : ({ r with sessions } : Repository).sessionExchanges = r.sessionExchanges := rfl
      exact Repository.consumeSessionExchange_congr hsame digest owner now

theorem call_redeems_credential (hdigests : service.DigestsInjective) {r r' : Repository}
    {placement : Placement} {query : Query} {reply : Reply query} {calls : List (Event Reply)}
    {token id secret digest : JsString} {now : ℤ} (hserves : query.servesArtifacts = true)
    (hstage : query.handlesArtifact = true →
      Stage service (.consumeCarrierCredential token) (⟨query, reply⟩ :: calls))
    (h : r.call backend placement query = some (reply.value, r'))
    (hother : (id, secret) ≠ (carrierId token, carrierSecret token))
    (hdigest : digest ∈ service.digestSessionTokenCandidates (carrierText id secret)) :
    (r'.consumeCarrierCredential id digest now).1 =
      (r.consumeCarrierCredential id digest now).1 := by
  rcases reads_or_handles hserves with hreads | hhandles
  · rw [Repository.call_reads hreads h]
  cases hstage hhandles with
  | triesSecret token tried time refused reply htried hrefused =>
    refine Repository.consumeCarrierCredential_other (Option.some.inj h) fun hid heq => hother ?_
    subst hid heq
    rw [carrierText_injective (candidates_injective hdigests hdigest htried)]

theorem step_unharmed (hdigests : service.DigestsInjective)
    (hrun : Execution.run (step service backend) (start limits) schedule = some s)
    {a : Label Invocation Choice} (hstep : step service backend s a = some s') {entry : AuthEntry}
    (hanswered : Interleaving.answered (handle backend) s a = some entry) :
    Unharmed service entry s.store s'.store := by
  have hstaging : Interleaving.Sound (staging service) s :=
    (start_staging limits).run (keeps_staging service backend)
      (fun invocation _ => program_staging service invocation) hrun
  have hempty : Interleaving.Sound redeeming (start limits) :=
    ⟨trivial, List.forall_mem_nil _, List.forall_mem_nil _⟩
  have hredeeming := hempty.run (keeps_redeeming backend)
    (fun invocation _ => program_redeeming service invocation) hrun
  rcases step_cases hstep with ⟨operation, call, rfl, -, -⟩ | ⟨⟨h⟩⟩ | ⟨index, hnone, -, -⟩
  · cases hanswered
  · have hentry : (⟨h.operation, h.history, ⟨h.query, h.reply⟩⟩ : AuthEntry) = entry :=
      Option.some.inj (h.entry.symm.trans hanswered)
    subst hentry
    have hfound := List.mem_of_getElem? h.found
    have hstaged := (hstaging.calls _ hfound).1.1.2 h.reply
    have hserves := (hredeeming.calls _ hfound).1.1
    have hcall := handle_eq_some h.handled
    rw [h.store_eq]
    have hstage : h.query.handlesArtifact = true → Stage service h.operation.operation
        (⟨h.query, h.reply⟩ :: artifactCalls h.history) := by
      intro hquery
      have hcalls : artifactCalls (⟨h.query, h.reply⟩ :: h.history) =
          ⟨h.query, h.reply⟩ :: artifactCalls h.history := List.filter_cons_of_pos hquery
      exact hcalls ▸ hstaged.stage
    refine ⟨fun code targetHost hoperation digest owner now howner => ?_,
      fun token hoperation id secret hother digest hdigest now => ?_⟩
    · dsimp only at hoperation
      rw [hoperation] at hstage
      exact call_redeems_exchange (hserves (by rw [hoperation]; rfl)) hstage hcall howner
    · dsimp only at hoperation
      rw [hoperation] at hstage
      exact call_redeems_credential hdigests (hserves (by rw [hoperation]; rfl)) hstage hcall hother
        hdigest
  · rw [hnone] at hanswered
    cases hanswered

/-- In every run each artifact is used at most once and only for what it was issued for; when no
random draw repeats there is one artifact of each name, so each name is used at most once and a
content session serves no other audience. Whoever presents the wrong host or secret takes nothing
away from the owner. -/
theorem one_time_artifacts (hdigests : service.DigestsInjective)
    (hrun : Execution.run (step service backend) (start limits) schedule = some s) :
    OneTime service (answers service backend limits schedule) s.finished ∧
    (Distinct schedule → AtMostOnce (answers service backend limits schedule) s.finished) ∧
    ∀ a s' entry, step service backend s a = some s' →
      Interleaving.answered (handle backend) s a = some entry →
      Unharmed service entry s.store s'.store :=
  ⟨one_time hrun, fun hdistinct => at_most_once hdigests hdistinct hrun,
    fun _ _ _ hstep hanswered => step_unharmed hdigests hrun hstep hanswered⟩

namespace Redemption
open PasswordChange

/-- A service that has rotated its key once. -/
def rotated : AuthService := { reversing with previousSessionHmacKeys := [[2]] }

def contentHost : JsString := JsString.ofAscii "shop.example"

def tunnelId : JsString := JsString.ofAscii "t1"

def reviewer : Principal where
  accountId := [2]
  username := username
  displayName := username
  roles := accountRoles
  mustChangePassword := false
  authVersion := 3
  sessionId := []

def secret (n : UInt16) : JsString := List.replicate 24 n

def token (n : UInt16) : JsString := n :: 0x2e :: secret n

/-- A login on the content host and a carrier, each presented wrongly, rightly, and once more. -/
def redemptions : List (Label Invocation Choice) :=
  [.start ⟨.bootstrapAdministrator username username, fresh 1⟩, reply 2, reply 3,
    .start ⟨.changeOwnPassword principal (secret 2) (List.replicate 20 9), fresh 4⟩, reply 5,
    reply 6, reply 7, reply 8, reply 9,
    .start ⟨.setAccountRoles ⟨[2], 2⟩ [2] accountRoles, fresh 10⟩, reply 11, reply 12,
    .start ⟨.createLoginIntent contentHost (JsString.ofAscii "/"), fresh 13⟩, reply 14,
    .start ⟨.createSessionExchange reviewer (secret 13), fresh 15⟩, reply 16, reply 17, reply 18,
    .start ⟨.consumeSessionExchange (secret 17) (JsString.ofAscii "evil.example"), fresh 19⟩,
    reply 20, reply 21,
    .start ⟨.consumeSessionExchange (secret 17) contentHost, fresh 22⟩, reply 23, reply 24,
    reply 25,
    .start ⟨.resolveSession (token 24) (contentAudience contentHost), fresh 26⟩, reply 27,
    .start ⟨.resolveSession (token 24) (JsString.ofAscii "control"), fresh 28⟩, reply 29,
    .start ⟨.issueCarrierCredential reviewer .create tunnelId, fresh 30⟩, reply 31, reply 32,
    .start ⟨.consumeCarrierCredential (31 :: 0x2e :: secret 30), fresh 33⟩, reply 34, reply 35,
    .start ⟨.consumeCarrierCredential (token 31), fresh 36⟩, reply 37, reply 38,
    .start ⟨.consumeCarrierCredential (token 31), fresh 39⟩, reply 40, reply 41]

theorem rotated_injective : rotated.DigestsInjective := by
  intro key hkey key' hkey' text text' heq
  simp only [AuthService.hmacKeys, rotated, reversing, List.mem_cons, List.not_mem_nil,
    or_false] at hkey hkey'
  rcases hkey with rfl | rfl <;> rcases hkey' with rfl | rfl
  · exact List.tail_eq_of_cons_eq heq
  · exact absurd (List.head_eq_of_cons_eq heq) (by decide)
  · exact absurd (List.head_eq_of_cons_eq heq) (by decide)
  · exact List.tail_eq_of_cons_eq heq

theorem redemptions_distinct : Distinct redemptions where
  ids := by decide +kernel
  secrets := by decide +kernel
  tokens := by decide +kernel

end Redemption

open PasswordChange Redemption in
theorem one_time_artifacts_redeemed :
    ∃ s, Execution.run (step rotated .inMemory) (start defaultAuditEventLimits) redemptions =
        some s ∧
      s.finished.map (fun entry => accepts entry.result) = [false, true, false, false, false, true,
        true, false, false, false, false, false, false] ∧
      (answers rotated .inMemory defaultAuditEventLimits redemptions).countP
        (createsContentSession (secret 17)) = 1 ∧
      s.finished.countP (authorizesCarrier [31]) = 1 ∧
      AtMostOnce (answers rotated .inMemory defaultAuditEventLimits redemptions) s.finished := by
  have hrun : (Execution.run (step rotated .inMemory) (start defaultAuditEventLimits)
      redemptions).map (fun s => (s.finished.map fun entry => accepts entry.result,
        s.finished.countP (authorizesCarrier [31]))) =
      some ([false, true, false, false, false, true, true, false, false, false, false, false,
        false], 1) := by decide +kernel
  obtain ⟨s, hs, hobserved⟩ := Option.map_eq_some_iff.1 hrun
  simp only [Prod.mk.injEq] at hobserved
  exact ⟨s, hs, hobserved.1, by decide +kernel, hobserved.2,
    (one_time_artifacts rotated_injective hs).2.1 redemptions_distinct⟩

end Lotur.Auth
