import Lotur.Auth.ArtifactStages
import Lotur.Library.InterleavingTrace

/-! What is used up of login intents, session exchanges and carrier credentials, and what is issued
of them, counted over the answers of a run. -/
namespace Lotur.Auth
open Interleaving

abbrev AuthEntry := Entry Reply Invocation
abbrev AuthFinished := Finished Reply AuthError Invocation Outcome

/-- The answers of a run from the empty repository. -/
def answers (service : AuthService) (backend : Backend) (limits : AuditEventLimits)
    (schedule : List (Label Invocation Choice)) : List AuthEntry :=
  trace service.program (handle backend) (start limits) schedule

/-- A created exchange uses up the intent. -/
def Operation.usesIntent (id : JsString) : Operation → Bool
  | .createSessionExchange _ intentId => intentId = id
  | _ => false

def Operation.usesCode (code : JsString) : Operation → Bool
  | .consumeSessionExchange presented _ => presented = code
  | _ => false

def Operation.usesCredential (id : JsString) : Operation → Bool
  | .consumeCarrierCredential token => carrierId token = id
  | _ => false

def Outcome.isAuthorized : Outcome → Bool
  | .authorized _ => true
  | _ => false

def createsExchange (id : JsString) (entry : AuthEntry) : Bool :=
  entry.operation.operation.usesIntent id && (exchangeSaved entry.event).isSome

def createsContentSession (code : JsString) (entry : AuthEntry) : Bool :=
  entry.operation.operation.usesCode code && (sessionSaved entry.event).isSome

def authorizesCarrier (id : JsString) (entry : AuthFinished) : Bool :=
  entry.operation.operation.usesCredential id &&
    match entry.result with
    | .ok outcome => outcome.isAuthorized
    | .error _ => false

def issuesIntent (id : JsString) (event : Event Reply) : Bool :=
  (intentSaved event).any fun intent => intent.id = id

def issuesExchange (service : AuthService) (code : JsString) (event : Event Reply) : Bool :=
  (exchangeSaved event).any fun exchange =>
    decide (exchange.codeDigest ∈ service.digestSessionTokenCandidates (exchangeText code))

def issuesCredential (id : JsString) (event : Event Reply) : Bool :=
  (credentialSaved event).any fun credential => credential.id = id

def issuesSession (service : AuthService) (token : JsString) (event : Event Reply) : Bool :=
  (sessionSaved event).any fun session =>
    decide (session.tokenDigest ∈ service.digestSessionTokenCandidates token)

variable {service : AuthService} {backend : Backend} {limits : AuditEventLimits}
  {schedule : List (Label Invocation Choice)} {s s' : AuthSystem}

section Uses

variable {gate : Operation → Bool} {earned spent : Event Reply → Bool} {closing : Outcome → Bool}

/-- What the operations of a kind may do with what they take out of a table. -/
def uses (gate : Operation → Bool) (earned spent : Event Reply → Bool) (closing : Outcome → Bool) :
    Allowance Reply AuthError Invocation Outcome where
  grant _ := 0
  earned invocation event := gate invocation.operation && earned event
  spent invocation event := gate invocation.operation && spent event
  closing invocation result := gate invocation.operation && match result with
    | .ok outcome => closing outcome
    | .error _ => false

theorem countP_artifactCalls {p : Event Reply → Bool}
    (hp : ∀ event, p event = true → event.1.handlesArtifact = true)
    (history : List (Event Reply)) : (artifactCalls history).countP p = history.countP p := by
  unfold artifactCalls
  rw [List.countP_filter]
  refine List.countP_congr fun event _ => ?_
  simp only [Bool.and_eq_true]
  exact ⟨fun h => h.1, fun h => ⟨h, hp event h⟩⟩

theorem uses_covers (hearned : ∀ event, earned event = true → event.1.handlesArtifact = true)
    (hspent : ∀ event, spent event = true → event.1.handlesArtifact = true)
    (hstage : ∀ operation calls, gate operation = true → Stage service operation calls →
      calls.countP spent ≤ calls.countP earned)
    (hclosing : ∀ invocation history outcome, gate invocation.operation = true →
      closing outcome = true → Staged service invocation history →
      Closes service invocation.operation history outcome →
      history.countP spent + 1 ≤ history.countP earned) :
    (uses gate earned spent closing).Covers (staging service) := by
  have hstaged : ∀ invocation history, Staged service invocation history →
      (uses gate earned spent closing).outlay invocation history ≤
        (uses gate earned spent closing).income invocation history := by
    intro invocation history hstaged
    by_cases hgate : gate invocation.operation = true
    · have hcalls := hstage _ _ hgate hstaged.stage
      rw [countP_artifactCalls hearned, countP_artifactCalls hspent] at hcalls
      simpa [uses, Allowance.outlay, Allowance.income, hgate] using hcalls
    · simp [uses, Allowance.outlay, hgate]
  refine ⟨fun invocation history query hasks => ⟨hstaged _ _ hasks.1, fun reply _ =>
    hstaged _ _ (hasks.2 reply)⟩, fun invocation history result hends => ?_⟩
  by_cases hcloses : (uses gate earned spent closing).closing invocation result = true
  · obtain ⟨hgate, houtcome⟩ := Bool.and_eq_true_iff.1 hcloses
    cases result with
    | error error => cases houtcome
    | ok outcome =>
      have hpaid := hclosing invocation history outcome hgate houtcome hends.1 (hends.2 outcome rfl)
      rw [if_pos hcloses]
      simpa [uses, Allowance.outlay, Allowance.income, hgate] using hpaid
  · rw [if_neg hcloses]
    exact hstaged _ _ hends.1

theorem start_staging (limits : AuditEventLimits) :
    Interleaving.Sound (staging service) (start limits) :=
  ⟨trivial, List.forall_mem_nil _, List.forall_mem_nil _⟩

theorem program_staging (service : AuthService) (invocation : Invocation) :
    (service.program invocation).Follows (staging service).rely
      ((staging service).asks invocation) ((staging service).ends invocation) [] :=
  service.completes_program invocation

theorem uses_granted (schedule : List (Label Invocation Choice)) :
    (uses gate earned spent closing).granted schedule = 0 := by
  induction schedule with
  | nil => rfl
  | cons a schedule ih =>
    cases a with
    | start invocation => exact (zero_add _).trans ih
    | _ => exact (zero_add _).trans ih

/-- What is done with the rows of a kind is bounded by the rows handed out. -/
theorem uses_le (hcovers : (uses gate earned spent closing).Covers (staging service))
    (hrun : Execution.run (step service backend) (start limits) schedule = some s) :
    s.finished.countP (fun entry => gate entry.operation.operation && match entry.result with
        | .ok outcome => closing outcome
        | .error _ => false) +
      (answers service backend limits schedule).countP
        (fun entry => gate entry.operation.operation && spent entry.event) ≤
      (answers service backend limits schedule).countP fun entry => earned entry.event := by
  have hslack := Allowance.run_slack hcovers (start_staging limits)
    (keeps_staging service backend) (fun invocation _ => program_staging service invocation) hrun
  rw [uses_granted] at hslack
  have hearned : (answers service backend limits schedule).countP
      (fun entry => gate entry.operation.operation && earned entry.event) ≤
        (answers service backend limits schedule).countP fun entry => earned entry.event :=
    List.countP_mono_left fun entry _ h => (Bool.and_eq_true_iff.1 h).2
  have hstart : (uses gate earned spent closing).closed (start limits) +
      (uses gate earned spent closing).slack (start limits) = 0 := rfl
  refine le_trans ?_ hearned
  change (uses gate earned spent closing).closed s + (trace service.program (handle backend)
      (start limits) schedule).countP (fun entry =>
        (uses gate earned spent closing).spent entry.operation entry.event) ≤
    (trace service.program (handle backend) (start limits) schedule).countP fun entry =>
      (uses gate earned spent closing).earned entry.operation entry.event
  omega

end Uses

theorem handlesArtifact_of_exchangeSaved {event : Event Reply}
    (h : (exchangeSaved event).isSome = true) : event.1.handlesArtifact = true := by
  obtain ⟨query, reply⟩ := event
  cases query with
  | saveSessionExchange exchange now limits => rfl
  | _ => cases h

theorem handlesArtifact_of_sessionSaved {event : Event Reply}
    (h : (sessionSaved event).isSome = true) : event.1.handlesArtifact = true := by
  obtain ⟨query, reply⟩ := event
  cases query with
  | saveSession session now limits => rfl
  | _ => cases h

theorem handlesArtifact_of_intentTaken {event : Event Reply} {id : JsString}
    (h : intentTaken event = some id) : event.1.handlesArtifact = true := by
  obtain ⟨query, reply⟩ := event
  cases query with
  | consumeLoginIntent id now => rfl
  | _ => cases h

theorem handlesArtifact_of_exchangeTaken {event : Event Reply}
    (h : (exchangeTaken event).isSome = true) : event.1.handlesArtifact = true := by
  obtain ⟨query, reply⟩ := event
  cases query with
  | consumeSessionExchange digest targetHost now => rfl
  | _ => cases h

theorem handlesArtifact_of_credentialTaken {event : Event Reply} {id : JsString}
    (h : credentialTaken event = some id) : event.1.handlesArtifact = true := by
  obtain ⟨query, reply⟩ := event
  cases query with
  | consumeCarrierCredential id digest now => rfl
  | _ => cases h

theorem Missed.countP_eq_zero {targetHost : JsString} {events : List (Event Reply)}
    (h : Missed targetHost events) {p : Event Reply → Bool}
    (hp : ∀ digest now fresh,
      p ⟨.consumeSessionExchange digest targetHost now, ⟨(none : Option SessionExchange), fresh⟩⟩ =
        false) : events.countP p = 0 := by
  refine List.countP_eq_zero.2 fun event hevent => ?_
  obtain ⟨digest, now, fresh, rfl⟩ := h event hevent
  rw [hp]
  exact Bool.false_ne_true

/-- Of calls of which only the last may count, at most one does. -/
theorem countP_cons_le_one {p : Event Reply → Bool} {events : List (Event Reply)}
    (h : events.countP p = 0) (event : Event Reply) : (event :: events).countP p ≤ 1 := by
  rw [List.countP_cons, h]
  split_ifs
  · exact le_rfl
  · exact Nat.zero_le 1

/-- An exchange is created with the intent that was taken. -/
theorem stage_exchange {principal : Principal} {id : JsString} {calls : List (Event Reply)}
    (h : Stage service (.createSessionExchange principal id) calls) :
    calls.countP (fun event => (exchangeSaved event).isSome) ≤
      calls.countP fun event => decide (intentTaken event = some id) := by
  cases h with
  | begun => exact le_rfl
  | takesIntent principal id now reply => exact Nat.zero_le _
  | leavesExchange principal id now intent fresh exchange later limits reply hhost =>
    refine (countP_cons_le_one rfl _).trans (List.countP_pos_iff.2
      ⟨⟨.consumeLoginIntent id now, ⟨some intent, fresh⟩⟩, ?_, decide_eq_true rfl⟩)
    exact List.mem_cons_of_mem _ (List.mem_singleton_self _)

/-- A content session is created with the exchange that was taken under one of the keys. -/
theorem stage_content {code targetHost : JsString} {calls : List (Event Reply)}
    (h : Stage service (.consumeSessionExchange code targetHost) calls) :
    calls.countP (fun event => (sessionSaved event).isSome) ≤
      calls.countP fun event => (exchangeTaken event).any fun digest =>
        decide (digest ∈ service.digestSessionTokenCandidates (exchangeText code)) := by
  have hnone : ∀ {missed}, Missed targetHost missed →
      missed.countP (fun event => (sessionSaved event).isSome) = 0 :=
    fun hmissed => hmissed.countP_eq_zero fun _ _ _ => rfl
  cases h with
  | begun => exact le_rfl
  | triesCode code targetHost digest now missed reply hdigest hmissed =>
    rw [List.countP_cons, hnone hmissed]
    exact Nat.zero_le _
  | entersContent code targetHost digest now missed exchange fresh session later limits reply
      hdigest hmissed haudience =>
    have hrest : (⟨.consumeSessionExchange digest targetHost now, ⟨some exchange, fresh⟩⟩ ::
        missed).countP (fun event => (sessionSaved event).isSome) = 0 := by
      rw [List.countP_cons, hnone hmissed]
      rfl
    refine (countP_cons_le_one hrest _).trans (List.countP_pos_iff.2
      ⟨⟨.consumeSessionExchange digest targetHost now, ⟨some exchange, fresh⟩⟩, ?_,
        decide_eq_true hdigest⟩)
    exact List.mem_cons_of_mem _ List.mem_cons_self

/-- A carrier credential is looked up under the id of the token. -/
theorem stage_credential {token : JsString} {calls : List (Event Reply)}
    (h : Stage service (.consumeCarrierCredential token) calls) {event : Event Reply}
    (hevent : event ∈ calls) {credential : CarrierCredential}
    (hconsumed : credentialConsumed event = some credential) :
    credentialTaken event = some (carrierId token) := by
  cases h with
  | begun => cases hevent
  | triesSecret token digest now refused reply hdigest hrefused =>
    rcases List.mem_cons.1 hevent with rfl | hearlier
    · obtain ⟨value, fresh⟩ := reply
      cases hconsumed
      rfl
    · obtain ⟨digest, now, fresh, rfl⟩ := hrefused event hearlier
      cases hconsumed

/-- What is taken out of a table was put in by an answer of the run. -/
theorem taken_le_issued (held : Repository → ℕ) (taken issued : Event Reply → Bool)
    (hcall : ∀ {r r' placement query} {reply : Reply query},
      Repository.call backend placement r query = some (reply.value, r') →
        held r' + (if taken ⟨query, reply⟩ then 1 else 0) ≤
          held r + if issued ⟨query, reply⟩ then 1 else 0)
    (hempty : held (start limits).store = 0)
    (hrun : Execution.run (step service backend) (start limits) schedule = some s) :
    (answers service backend limits schedule).countP (fun entry => taken entry.event) ≤
      (answers service backend limits schedule).countP fun entry => issued entry.event := by
  have hledger : held s.store +
      (answers service backend limits schedule).countP (fun entry => taken entry.event) ≤
        held (start limits).store +
          (answers service backend limits schedule).countP fun entry => issued entry.event :=
    trace_ledger (fun h => hcall (handle_eq_some h)) hrun
  rw [hempty] at hledger
  omega

/-- The exchanges created with an intent are no more than the intents stored under its id. -/
theorem exchanges_le (id : JsString)
    (hrun : Execution.run (step service backend) (start limits) schedule = some s) :
    (answers service backend limits schedule).countP (createsExchange id) ≤
      (answers service backend limits schedule).countP fun entry => issuesIntent id entry.event := by
  have hcovers : (uses (Operation.usesIntent id) (fun event => decide (intentTaken event = some id))
      (fun event => (exchangeSaved event).isSome) fun _ => false).Covers (staging service) := by
    refine uses_covers (fun event h => handlesArtifact_of_intentTaken (of_decide_eq_true h))
      (fun event => handlesArtifact_of_exchangeSaved) (fun operation calls hgate hstage => ?_) nofun
    cases operation with
    | createSessionExchange principal intentId =>
      rw [← of_decide_eq_true hgate]
      exact stage_exchange hstage
    | _ => cases hgate
  have htaken : ∀ event : Event Reply, decide (intentTaken event = some id) =
      (intentTaken event).any fun taken => taken = id := by
    intro event
    cases intentTaken event <;> simp
  have hused := uses_le hcovers hrun
  simp only [htaken] at hused
  refine ((Nat.le_add_left _ _).trans hused).trans ?_
  exact taken_le_issued (fun r => r.loginIntents.countP fun row => row.id = id)
    (fun event => (intentTaken event).any fun taken => taken = id) (issuesIntent id)
    (fun h => Repository.call_intents (fun row => row = id) h) rfl hrun

theorem contentSessions_le (code : JsString)
    (hrun : Execution.run (step service backend) (start limits) schedule = some s) :
    (answers service backend limits schedule).countP (createsContentSession code) ≤
      (answers service backend limits schedule).countP fun entry =>
        issuesExchange service code entry.event := by
  have hcovers : (uses (Operation.usesCode code) (fun event => (exchangeTaken event).any fun digest =>
        decide (digest ∈ service.digestSessionTokenCandidates (exchangeText code)))
      (fun event => (sessionSaved event).isSome) fun _ => false).Covers (staging service) := by
    refine uses_covers (fun event h => handlesArtifact_of_exchangeTaken ?_)
      (fun event => handlesArtifact_of_sessionSaved) (fun operation calls hgate hstage => ?_) nofun
    · obtain ⟨digest, hdigest, -⟩ := (Option.any_eq_true _ _).1 h
      exact Option.isSome_iff_exists.2 ⟨digest, hdigest⟩
    · cases operation with
      | consumeSessionExchange presented targetHost =>
        rw [← of_decide_eq_true hgate]
        exact stage_content hstage
      | _ => cases hgate
  refine ((Nat.le_add_left _ _).trans (uses_le hcovers hrun)).trans ?_
  exact taken_le_issued (fun r => r.sessionExchanges.countP fun row =>
      decide (row.codeDigest ∈ service.digestSessionTokenCandidates (exchangeText code)))
    (fun event => (exchangeTaken event).any fun digest =>
      decide (digest ∈ service.digestSessionTokenCandidates (exchangeText code)))
    (issuesExchange service code) (fun h => Repository.call_exchanges (fun digest =>
      decide (digest ∈ service.digestSessionTokenCandidates (exchangeText code))) h) rfl hrun

theorem authorizations_le (id : JsString)
    (hrun : Execution.run (step service backend) (start limits) schedule = some s) :
    s.finished.countP (authorizesCarrier id) ≤
      (answers service backend limits schedule).countP fun entry =>
        issuesCredential id entry.event := by
  have hcovers : (uses (Operation.usesCredential id)
      (fun event => decide (credentialTaken event = some id)) (fun _ => false)
      Outcome.isAuthorized).Covers (staging service) := by
    refine uses_covers (fun event h => handlesArtifact_of_credentialTaken (of_decide_eq_true h))
      (fun _ h => absurd h Bool.false_ne_true) (fun operation calls _ _ => ?_)
      fun invocation history outcome hgate houtcome hstaged hcloses => ?_
    · rw [List.countP_false]
      exact Nat.zero_le _
    rw [List.countP_false]
    change 0 + 1 ≤ _
    cases outcome with
    | authorized authorization =>
      obtain ⟨token, htoken, event, hevent, credential, hconsumed, -⟩ := hcloses
      have hstage := hstaged.stage
      rw [htoken] at hgate hstage
      have hcall : event ∈ artifactCalls history := by
        refine List.mem_filter.2 ⟨hevent, ?_⟩
        obtain ⟨query, reply⟩ := event
        cases query with
        | consumeCarrierCredential id digest now => rfl
        | _ => cases hconsumed
      refine List.countP_pos_iff.2 ⟨event, hevent, decide_eq_true ?_⟩
      rw [stage_credential hstage hcall hconsumed]
      exact congrArg some (of_decide_eq_true hgate)
    | _ => cases houtcome
  have htaken : ∀ event : Event Reply, decide (credentialTaken event = some id) =
      (credentialTaken event).any fun taken => taken = id := by
    intro event
    cases credentialTaken event <;> simp
  have hused := uses_le hcovers hrun
  simp only [htaken] at hused
  refine ((Nat.le_add_right _ _).trans hused).trans ?_
  exact taken_le_issued (fun r => r.carrierCredentials.countP fun row => row.id = id)
    (fun event => (credentialTaken event).any fun taken => taken = id) (issuesCredential id)
    (fun h => Repository.call_credentials (fun row => row = id) h) rfl hrun

/-- The call stores an artifact. -/
def minted (event : Event Reply) : Bool :=
  (sessionSaved event).isSome || (intentSaved event).isSome || (exchangeSaved event).isSome ||
    (credentialSaved event).isSome

theorem handlesArtifact_of_minted {event : Event Reply} (h : minted event = true) :
    event.1.handlesArtifact = true := by
  obtain ⟨query, reply⟩ := event
  cases query with
  | saveSession session now limits => rfl
  | saveLoginIntent intent now limits => rfl
  | saveSessionExchange exchange now limits => rfl
  | saveCarrierCredential credential now limits => rfl
  | _ => cases h

/-- An operation stores at most one artifact. -/
theorem stage_minted {operation : Operation} {calls : List (Event Reply)}
    (h : Stage service operation calls) : calls.countP minted ≤ 1 := by
  cases h with
  | begun => exact Nat.zero_le 1
  | logsIn input session now limits reply haudience => exact countP_cons_le_one rfl _
  | leavesIntent intent now limits reply => exact countP_cons_le_one rfl _
  | takesIntent principal id now reply => exact countP_cons_le_one rfl _
  | leavesExchange principal id now intent fresh exchange later limits reply hhost =>
    exact countP_cons_le_one rfl _
  | triesCode code targetHost digest now missed reply hdigest hmissed =>
    exact countP_cons_le_one (hmissed.countP_eq_zero fun _ _ _ => rfl) _
  | entersContent code targetHost digest now missed exchange fresh session later limits reply
      hdigest hmissed haudience =>
    refine countP_cons_le_one ?_ _
    rw [List.countP_cons, hmissed.countP_eq_zero fun _ _ _ => rfl]
    rfl
  | leavesCredential principal credential now limits reply => exact countP_cons_le_one rfl _
  | triesSecret token digest now refused reply hdigest hrefused =>
    refine countP_cons_le_one (List.countP_eq_zero.2 fun event hevent => ?_) _
    obtain ⟨digest, now, fresh, rfl⟩ := hrefused event hevent
    exact Bool.false_ne_true

section Minting

variable {made : Fresh → Bool} {mints : Event Reply → Bool}

/-- What an operation stores is paid for by the draw it is made of. -/
def minting (made : Fresh → Bool) (mints : Event Reply → Bool) :
    Allowance Reply AuthError Invocation Outcome where
  grant invocation := if made invocation.fresh then 1 else 0
  earned _ event := made event.2.fresh
  spent _ event := mints event
  closing _ _ := false

theorem minting_covers (hmints : ∀ event, mints event = true → minted event = true)
    (hmade : ∀ fresh event, Mints service fresh event.1 → mints event = true → made fresh = true) :
    (minting made mints).Covers (staging service) := by
  have hstaged : ∀ invocation history, Staged service invocation history →
      (minting made mints).outlay invocation history ≤
        (minting made mints).income invocation history := by
    intro invocation history hstaged
    rcases Nat.eq_zero_or_pos (history.countP mints) with hzero | hpos
    · exact hzero.le.trans (Nat.zero_le _)
    · have hone := stage_minted hstaged.stage
      rw [countP_artifactCalls fun _ => handlesArtifact_of_minted] at hone
      refine ((List.countP_mono_left fun event _ => hmints event).trans hone).trans ?_
      obtain ⟨event, hevent, hminted⟩ := List.countP_pos_iff.1 hpos
      obtain ⟨fresh, hfresh, hof⟩ := hstaged.drawn event hevent
      have hmatch := hmade fresh event hof hminted
      rcases List.mem_cons.1 hfresh with rfl | hmem
      · simp [minting, Allowance.income, hmatch]
      · obtain ⟨earlier, hearlier, rfl⟩ := List.mem_map.1 hmem
        exact le_add_left (List.countP_pos_iff.2 ⟨earlier, hearlier, hmatch⟩)
  refine ⟨fun invocation history query hasks => ⟨hstaged _ _ hasks.1, fun reply _ =>
    hstaged _ _ (hasks.2 reply)⟩, fun invocation history result hends => ?_⟩
  exact hstaged _ _ hends.1

/-- What a step supplies to the code that goes on. -/
def drawn : Label Invocation Choice → Option Fresh
  | .start invocation => some invocation.fresh
  | .answer _ choice => some choice.fresh
  | .reject _ => none
  | .lost _ choice => some choice.fresh

theorem handle_fresh {r r' : Repository} {query : Query} {choice : Choice} {reply : Reply query}
    (h : handle backend r query choice = some (reply, r')) : reply.fresh = choice.fresh := by
  obtain ⟨⟨value, next⟩, -, heq⟩ := Option.map_eq_some_iff.1 h
  cases heq
  rfl

theorem drawn_of_answered {a : Label Invocation Choice} {entry : AuthEntry}
    (h : Interleaving.answered (handle backend) s a = some entry) :
    drawn a = some entry.event.2.fresh ∧ ∀ invocation, a ≠ .start invocation := by
  have hreply : ∀ {index : ℕ} {choice : Choice},
      Interleaving.answered (handle backend) s (.answer index choice) = some entry →
        some choice.fresh = some entry.event.2.fresh := by
    intro index choice hentry
    simp only [Interleaving.answered] at hentry
    split at hentry
    next operation history query next hget =>
      obtain ⟨⟨reply, store⟩, hhandle, rfl⟩ := Option.map_eq_some_iff.1 hentry
      exact congrArg some (handle_fresh hhandle).symm
    next => cases hentry
  cases a with
  | start invocation => cases h
  | reject index => cases h
  | answer index choice => exact ⟨hreply h, by rintro _ ⟨⟩⟩
  | lost index choice => exact ⟨hreply h, by rintro _ ⟨⟩⟩

/-- A step supplies the draws it is counted for. -/
theorem earned_le_drawn_step (backend : Backend) (made : Fresh → Bool) (mints : Event Reply → Bool) (s : AuthSystem)
    (a : Label Invocation Choice) :
    (Interleaving.answered (handle backend) s a).toList.countP
        (fun entry => (minting made mints).earned entry.operation entry.event) +
        (minting made mints).granted [a] ≤ (drawn a).toList.countP made := by
  cases hanswered : Interleaving.answered (handle backend) s a with
  | none =>
    cases a with
    | start invocation => simp [Allowance.granted, minting, drawn, List.countP_cons]
    | _ => exact Nat.zero_le _
  | some entry =>
    obtain ⟨hdrawn, hnot⟩ := drawn_of_answered hanswered
    have hgranted : (minting made mints).granted [a] = 0 := by
      cases a with
      | start invocation => exact absurd rfl (hnot invocation)
      | _ => rfl
    rw [hdrawn, hgranted]
    exact le_rfl

/-- The draws an operation can have made of some kind are those of the schedule. -/
theorem earned_le_drawn (service : AuthService) (backend : Backend) (made : Fresh → Bool)
    (mints : Event Reply → Bool) (schedule : List (Label Invocation Choice)) (s : AuthSystem) :
    (trace service.program (handle backend) s schedule).countP
        (fun entry => (minting made mints).earned entry.operation entry.event) +
        (minting made mints).granted schedule ≤
      (schedule.filterMap drawn).countP made := by
  induction schedule generalizing s with
  | nil => exact le_rfl
  | cons a schedule ih =>
    have hnow := earned_le_drawn_step backend made mints s a
    have hdrawn : ((a :: schedule).filterMap drawn).countP made =
        (drawn a).toList.countP made + (schedule.filterMap drawn).countP made := by
      rw [List.filterMap_cons]
      cases drawn a with
      | none => simp
      | some fresh => simp [add_comm, List.countP_cons]
    rw [hdrawn, Allowance.granted_cons, trace, List.countP_append]
    cases Interleaving.step service.program (handle backend) s a with
    | none =>
      have hrest := ih s
      dsimp only [List.countP_nil]
      omega
    | some next =>
      have hrest := ih next
      dsimp only
      omega

/-- What is stored of a kind is no more than the draws it can be made of. -/
theorem minted_le_drawn {made : Fresh → Bool} {mints : Event Reply → Bool}
    (hmints : ∀ event, mints event = true → minted event = true)
    (hmade : ∀ fresh event, Mints service fresh event.1 → mints event = true → made fresh = true)
    (hrun : Execution.run (step service backend) (start limits) schedule = some s) :
    (answers service backend limits schedule).countP (fun entry => mints entry.event) ≤
      (schedule.filterMap drawn).countP made := by
  have hslack := Allowance.run_slack (minting_covers hmints hmade) (start_staging limits)
    (keeps_staging service backend) (fun invocation _ => program_staging service invocation) hrun
  have hdrawn := earned_le_drawn service backend made mints schedule (start limits)
  have hstart : (minting made mints).closed (start limits) +
      (minting made mints).slack (start limits) = 0 := rfl
  change (trace service.program (handle backend) (start limits) schedule).countP (fun entry =>
    (minting made mints).spent entry.operation entry.event) ≤ _
  omega

end Minting

def AuthService.hmacKeys (service : AuthService) : List (List UInt8) :=
  service.sessionHmacKey :: service.previousSessionHmacKeys

/-- No two texts have a digest in common, whichever keys of the service they are taken with. -/
def AuthService.DigestsInjective (service : AuthService) : Prop :=
  ∀ key ∈ service.hmacKeys, ∀ key' ∈ service.hmacKeys, ∀ text text',
    service.createHmac key text = service.createHmac key' text' → text = text'

theorem candidates_injective (h : service.DigestsInjective) {digest text text' : JsString}
    (hdigest : digest ∈ service.digestSessionTokenCandidates text)
    (hdigest' : digest ∈ service.digestSessionTokenCandidates text') : text = text' := by
  obtain ⟨key, hkey, rfl⟩ := List.mem_map.1 hdigest
  obtain ⟨key', hkey', heq⟩ := List.mem_map.1 hdigest'
  exact h key hkey key' hkey' text text' heq.symm

theorem digest_mem_candidates (service : AuthService) (text : JsString) :
    service.digestSessionToken text ∈ service.digestSessionTokenCandidates text :=
  List.mem_map_of_mem List.mem_cons_self

theorem exchangeText_injective {code code' : JsString} (h : exchangeText code = exchangeText code') :
    code = code' := List.append_cancel_left h

theorem carrierText_injective {id secret secret' : JsString}
    (h : carrierText id secret = carrierText id secret') : secret = secret' :=
  List.tail_eq_of_cons_eq (List.append_cancel_left h)

/-- The random ids, secrets and tokens that are drawn do not repeat. -/
structure Distinct (schedule : List (Label Invocation Choice)) : Prop where
  ids : ((schedule.filterMap drawn).map Fresh.id).Nodup
  secrets : ((schedule.filterMap drawn).map Fresh.secret).Nodup
  tokens : ((schedule.filterMap drawn).map Fresh.sessionToken).Nodup

theorem countP_le_one_of_nodup {f : Fresh → JsString} {values : List Fresh}
    (h : (values.map f).Nodup) (value : JsString) :
    values.countP (fun fresh => decide (f fresh = value)) ≤ 1 := by
  have hcount := List.nodup_iff_count_le_one.1 h value
  rw [List.count_eq_countP, List.countP_map] at hcount
  refine (List.countP_mono_left fun fresh _ hsame => ?_).trans hcount
  exact beq_iff_eq.2 (of_decide_eq_true hsame)

/-- Nothing is stored twice under a name: no intent or credential under an id, no exchange for a code
and no session for a token. -/
structure Unrepeated (service : AuthService) (log : List AuthEntry) : Prop where
  intents : ∀ id, log.countP (fun entry => issuesIntent id entry.event) ≤ 1
  exchanges : ∀ code, log.countP (fun entry => issuesExchange service code entry.event) ≤ 1
  credentials : ∀ id, log.countP (fun entry => issuesCredential id entry.event) ≤ 1
  sessions : ∀ token, log.countP (fun entry => issuesSession service token entry.event) ≤ 1

theorem unrepeated (hdigests : service.DigestsInjective) (hdistinct : Distinct schedule)
    (hrun : Execution.run (step service backend) (start limits) schedule = some s) :
    Unrepeated service (answers service backend limits schedule) where
  intents id := by
    refine (minted_le_drawn (fun event h => ?_) (fun fresh event hmints h => ?_) hrun).trans
      (countP_le_one_of_nodup hdistinct.secrets id)
    · obtain ⟨intent, hintent, -⟩ := (Option.any_eq_true _ _).1 h
      simp [minted, hintent]
    · obtain ⟨query, reply⟩ := event
      cases query with
      | saveLoginIntent intent now limits =>
        obtain ⟨value, later⟩ := reply
        cases value with
        | true => exact decide_eq_true (hmints.symm.trans (of_decide_eq_true h))
        | false => cases h
      | _ => cases h
  exchanges code := by
    refine (minted_le_drawn (fun event h => ?_) (fun fresh event hmints h => ?_) hrun).trans
      (countP_le_one_of_nodup hdistinct.secrets code)
    · obtain ⟨exchange, hexchange, -⟩ := (Option.any_eq_true _ _).1 h
      simp [minted, hexchange]
    · obtain ⟨query, reply⟩ := event
      cases query with
      | saveSessionExchange exchange now limits =>
        obtain ⟨value, later⟩ := reply
        cases value with
        | true =>
          have hdigest := of_decide_eq_true h
          rw [hmints] at hdigest
          exact decide_eq_true (exchangeText_injective
            (candidates_injective hdigests (digest_mem_candidates _ _) hdigest))
        | false => cases h
      | _ => cases h
  credentials id := by
    refine (minted_le_drawn (fun event h => ?_) (fun fresh event hmints h => ?_) hrun).trans
      (countP_le_one_of_nodup hdistinct.ids id)
    · obtain ⟨credential, hcredential, -⟩ := (Option.any_eq_true _ _).1 h
      simp [minted, hcredential]
    · obtain ⟨query, reply⟩ := event
      cases query with
      | saveCarrierCredential credential now limits =>
        obtain ⟨value, later⟩ := reply
        cases value with
        | true => exact decide_eq_true (hmints.1.symm.trans (of_decide_eq_true h))
        | false => cases h
      | _ => cases h
  sessions token := by
    refine (minted_le_drawn (fun event h => ?_) (fun fresh event hmints h => ?_) hrun).trans
      (countP_le_one_of_nodup hdistinct.tokens token)
    · obtain ⟨session, hsession, -⟩ := (Option.any_eq_true _ _).1 h
      simp [minted, hsession]
    · obtain ⟨query, reply⟩ := event
      cases query with
      | saveSession session now limits =>
        obtain ⟨value, later⟩ := reply
        cases value with
        | true =>
          have hdigest := of_decide_eq_true h
          rw [hmints] at hdigest
          exact decide_eq_true
            (candidates_injective hdigests (digest_mem_candidates _ _) hdigest)
        | false => cases h
      | _ => cases h

end Lotur.Auth
