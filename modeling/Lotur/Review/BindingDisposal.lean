import Lotur.Auth.Tables
import Lotur.Library.Execution
import Lotur.Protocol.SessionState
import Lotur.Review.Operations
import Mathlib.Logic.Function.Basic

/-! Binding a tunnel to a revision while its session may be disposed: `clientControlExtension.handle`
and `disposeBinding` of `apps/gateway/src/review-http.ts`, and `disposeGatewaySession`. A step is one
uninterrupted piece of the gateway or one transaction of the store. -/
namespace Lotur.Review

/-- What is read of a session that is registered under its tunnel. -/
structure GatewaySession where
  sessionId : JsString
  ownerAccountId : Option JsString
  lifecycle : SessionState
  socketOpen : Bool
  maxTtlMs : ℕ
  deriving DecidableEq, Repr

structure ReviewTunnelTarget where
  tunnelId : JsString
  sessionId : JsString
  ownerAccountId : JsString
  active : Bool
  expiresAt : ℤ
  deriving DecidableEq, Repr

def resolveReviewTunnel (sessions : JsString → Option GatewaySession) (tunnelId : JsString) :
    Option ReviewTunnelTarget := do
  let session ← sessions tunnelId
  let ownerAccountId ← session.ownerAccountId
  match session.lifecycle with
  | .ACTIVE state =>
    some ⟨tunnelId, session.sessionId, ownerAccountId, session.socketOpen,
      state.activatedAt + session.maxTtlMs⟩
  | .RECONNECTING state =>
    some ⟨tunnelId, session.sessionId, ownerAccountId, false, state.activatedAt + session.maxTtlMs⟩
  | _ => none

/-- The form with the actor, once both were found well formed, and the ids generated for it. -/
structure BindCommand where
  actorAccountId : JsString
  actorUsername : JsString
  actorAuthorizationVersion : ℕ
  canManageProject : Bool
  projectId : JsString
  projectSlug : JsString
  revisionId : JsString
  revisionKey : JsString
  createdAt : ℤ
  deriving DecidableEq, Repr

namespace BindCommand
variable (command : BindCommand) (tunnel : ReviewTunnelTarget)

/-- What `ReviewService.bindTunnel` hands to the repository. -/
def input : BindTunnelInput where
  project := ⟨command.projectId, command.actorAccountId, command.projectSlug, command.projectSlug,
    command.createdAt⟩
  revision := ⟨command.revisionId, command.projectId, command.revisionKey, command.actorAccountId,
    command.createdAt⟩
  binding := ⟨tunnel.tunnelId, tunnel.sessionId, command.revisionId, command.actorAccountId,
    command.createdAt, tunnel.expiresAt⟩
  actorUsername := command.actorUsername
  actorAuthorizationVersion := command.actorAuthorizationVersion

def check : Except ReviewError Unit :=
  if command.canManageProject = false ∨ command.actorAccountId ≠ tunnel.ownerAccountId then
    .error ⟨.forbidden, "project binding is not allowed"⟩
  else if tunnel.expiresAt ≤ command.createdAt then
    .error ⟨.invalidInput, "review binding expiry is invalid"⟩
  else .ok ()

end BindCommand

/-- Where a request is: it has resolved its tunnel and reads the form, the store has executed its
transaction, or it has been answered. -/
inductive BindRequest where
  | reading (tunnel : ReviewTunnelTarget)
  | executed (tunnel : ReviewTunnelTarget) (result : ReviewResult)
  | answered (answer : Except ReviewError Unit)

/-- `disposing` are the removals that were issued, `disposed` those the store has executed. -/
structure BindingSystem where
  repository : ReviewRepository
  sessions : JsString → Option GatewaySession
  requests : ℕ → Option BindRequest
  disposing : List (JsString × JsString)
  disposed : List (JsString × JsString)

def BindingSystem.initial (repository : ReviewRepository) : BindingSystem where
  repository := repository
  sessions _ := none
  requests _ := none
  disposing := []
  disposed := []

/-- `perform` is any other command of the repository. -/
inductive BindingAction where
  | register (tunnelId : JsString) (session : GatewaySession)
  | change (tunnelId : JsString) (lifecycle : SessionState) (socketOpen : Bool)
  | dispose (tunnelId : JsString)
  | remove (tunnelId sessionId : JsString)
  | request (id : ℕ) (tunnelId : JsString)
  | reject (id : ℕ) (error : ReviewError)
  | bind (id : ℕ) (command : BindCommand)
  | answer (id : ℕ)
  | perform (command : ReviewCommand)

namespace BindingSystem
variable (backend : ReviewBackend) (s : BindingSystem)

def setRequest (id : ℕ) (request : BindRequest) : BindingSystem :=
  { s with requests := Function.update s.requests id (some request) }

/-- The answer to a request after its transaction. -/
def answerTo (tunnel : ReviewTunnelTarget) : ReviewResult → Except ReviewError Unit
  | .staleAuthorization => .error ⟨.forbidden, "review authorization is stale"⟩
  | .conflict => .error ⟨.conflict, "Tunnel already has a different review binding"⟩
  | _ =>
    if (resolveReviewTunnel s.sessions tunnel.tunnelId).any fun current =>
        current.active && current.sessionId = tunnel.sessionId then .ok ()
    else .error ⟨.notFound, "Tunnel closed during binding"⟩

def step (s : BindingSystem) : BindingAction → Option BindingSystem
  | .register tunnelId session =>
    if s.sessions tunnelId = none then
      some { s with sessions := Function.update s.sessions tunnelId (some session) }
    else none
  | .change tunnelId lifecycle socketOpen => do
    let session ← s.sessions tunnelId
    let changed := { session with lifecycle := lifecycle, socketOpen := socketOpen }
    some { s with sessions := Function.update s.sessions tunnelId (some changed) }
  | .dispose tunnelId => do
    let session ← s.sessions tunnelId
    some { s with
      sessions := Function.update s.sessions tunnelId none
      disposing := (tunnelId, session.sessionId) :: s.disposing }
  | .remove tunnelId sessionId =>
    if (tunnelId, sessionId) ∈ s.disposing then
      some { s with
        repository := (s.repository.removeTunnelBinding tunnelId sessionId).2
        disposing := s.disposing.erase (tunnelId, sessionId)
        disposed := (tunnelId, sessionId) :: s.disposed }
    else none
  | .request id tunnelId =>
    match s.requests id with
    | some _ => none
    | none =>
      match resolveReviewTunnel s.sessions tunnelId with
      | none => some (s.setRequest id (.answered (.error ⟨.notFound, "active Tunnel was not found"⟩)))
      | some tunnel =>
        if tunnel.active then some (s.setRequest id (.reading tunnel))
        else some (s.setRequest id (.answered (.error ⟨.notFound, "active Tunnel was not found"⟩)))
  | .reject id error =>
    match s.requests id with
    | some (.reading _) => some (s.setRequest id (.answered (.error error)))
    | _ => none
  | .bind id command =>
    match s.requests id with
    | some (.reading tunnel) =>
      match command.check tunnel with
      | .error error => some (s.setRequest id (.answered (.error error)))
      | .ok () =>
        let bound := s.repository.bindTunnel backend (command.input tunnel)
        some { s.setRequest id (.executed tunnel bound.1) with repository := bound.2 }
    | _ => none
  | .answer id =>
    match s.requests id with
    | some (.executed tunnel result) =>
      some (s.setRequest id (.answered (s.answerTo tunnel result)))
    | _ => none
  | .perform command =>
    match command with
    | .bindTunnel _ => none
    | _ => some { s with repository := (Review.perform backend s.repository command).2 }

/-- The store has executed the removal for a session, and no request for it is on its way. -/
def IsFinished (tunnelId sessionId : JsString) : Prop :=
  (tunnelId, sessionId) ∈ s.disposed ∧ ∀ id tunnel,
    (s.requests id = some (.reading tunnel) ∨
      ∃ result, s.requests id = some (.executed tunnel result)) →
    ¬ (tunnel.tunnelId = tunnelId ∧ tunnel.sessionId = sessionId)

end BindingSystem

/-- A session that is gone has left no binding, and is not what a later session conflicts with. -/
structure NoStaleBinding (backend : ReviewBackend) (s : BindingSystem) : Prop where
  gone : ∀ tunnelId sessionId, s.IsFinished tunnelId sessionId →
    ∀ binding ∈ s.repository.bindings, ¬ (binding.tunnelId = tunnelId ∧ binding.sessionId = sessionId)
  unblamed : ∀ id tunnel (command : BindCommand), s.requests id = some (.reading tunnel) →
    (s.repository.bindTunnel backend (command.input tunnel)).1 = .conflict →
    ∃ existing ∈ s.repository.bindings,
      (existing.tunnelId = tunnel.tunnelId ∨ existing.sessionId = tunnel.sessionId) ∧
        ¬ s.IsFinished existing.tunnelId existing.sessionId

/-- The repository would store a new binding. -/
def ReviewRepository.inserts (r : ReviewRepository) (backend : ReviewBackend)
    (input : BindTunnelInput) : Bool :=
  let kept := r.bindings.filter fun binding => input.binding.createdAt < binding.expiresAt
  match backend with
  | .inMemory => !kept.any fun binding => binding.tunnelId = input.binding.tunnelId
  | .postgres _ =>
    !r.isStale backend input.project.ownerAccountId input.actorAuthorizationVersion &&
      !kept.any fun binding => binding.tunnelId = input.binding.tunnelId ∨
        binding.sessionId = input.binding.sessionId

/-- No binding is inserted for a session whose removal the store has executed. -/
def BindsInTime (backend : ReviewBackend) (s : BindingSystem) (action : BindingAction) : Prop :=
  ∀ id command tunnel, action = .bind id command → s.requests id = some (.reading tunnel) →
    command.check tunnel = .ok () → (tunnel.tunnelId, tunnel.sessionId) ∈ s.disposed →
    s.repository.inserts backend (command.input tunnel) = false

section Bindings
variable {backend : ReviewBackend} (r : ReviewRepository)

/-- A binding that is there afterwards was there before or is the one inserted. -/
theorem bindTunnel_bindings (input : BindTunnelInput) {binding : ReviewTunnelBinding}
    (hbinding : binding ∈ (r.bindTunnel backend input).2.bindings) :
    binding ∈ r.bindings ∨ r.inserts backend input = true ∧
      binding.tunnelId = input.binding.tunnelId ∧ binding.sessionId = input.binding.sessionId := by
  cases backend with
  | inMemory =>
    unfold ReviewRepository.bindTunnel ReviewRepository.bindInMemory at hbinding
    dsimp only at hbinding
    split at hbinding
    · split_ifs at hbinding
      · exact .inl (List.mem_of_mem_filter hbinding)
      · exact .inl (List.mem_of_mem_filter hbinding)
    · next hfree =>
      rcases List.mem_append.1 hbinding with hkept | hnew
      · exact .inl (List.mem_of_mem_filter hkept)
      · rw [List.mem_singleton.1 hnew]
        refine .inr ⟨?_, rfl, rfl⟩
        have hnone := Auth.Table.get_eq_none_iff.1 hfree
        unfold ReviewRepository.inserts
        simp only [Bool.not_eq_true', List.any_eq_false, decide_eq_true_eq]
        exact hnone
  | postgres database =>
    unfold ReviewRepository.bindTunnel ReviewRepository.bindPostgres at hbinding
    dsimp only at hbinding
    split at hbinding
    · exact .inl hbinding
    · next hcurrent =>
      split at hbinding
      · split_ifs at hbinding
        · exact .inl (List.mem_of_mem_filter hbinding)
        · exact .inl hbinding
      · next hfree =>
        rcases List.mem_append.1 hbinding with hkept | hnew
        · exact .inl (List.mem_of_mem_filter hkept)
        · rw [List.mem_singleton.1 hnew]
          refine .inr ⟨?_, rfl, rfl⟩
          have hnone := List.find?_eq_none.1 hfree
          unfold ReviewRepository.inserts
          simp only [Bool.and_eq_true, Bool.not_eq_true', List.any_eq_false]
          exact ⟨Bool.eq_false_iff.2 hcurrent, hnone⟩

/-- A conflict is with a binding of the tunnel or of the session. -/
theorem bindTunnel_conflict (input : BindTunnelInput)
    (hconflict : (r.bindTunnel backend input).1 = .conflict) : ∃ existing ∈ r.bindings,
      existing.tunnelId = input.binding.tunnelId ∨ existing.sessionId = input.binding.sessionId := by
  cases backend with
  | inMemory =>
    unfold ReviewRepository.bindTunnel ReviewRepository.bindInMemory at hconflict
    dsimp only at hconflict
    split at hconflict
    · next existing hfound =>
      have hsome := Auth.Table.get_some hfound
      exact ⟨existing, List.mem_of_mem_filter hsome.1, .inl hsome.2⟩
    · cases hconflict
  | postgres database =>
    unfold ReviewRepository.bindTunnel ReviewRepository.bindPostgres at hconflict
    dsimp only at hconflict
    split at hconflict
    · cases hconflict
    · split at hconflict
      · next existing hfound =>
        refine ⟨existing, List.mem_of_mem_filter (List.mem_of_find?_eq_some hfound), ?_⟩
        have hmatch := List.find?_some hfound
        exact of_decide_eq_true hmatch
      · cases hconflict

@[simp] theorem recordEvent_bindings (type : ReviewEventType) (thread : PageCommentThread)
    (actor : ReviewIdentity) (occurredAt : ℤ) (recipient : Option JsString) :
    (r.recordEvent backend type thread actor occurredAt recipient).bindings = r.bindings := by
  cases backend <;> rfl

@[simp] theorem setUsername_bindings (accountId username : JsString) :
    (r.setUsername backend accountId username).bindings = r.bindings := by
  cases backend <;> rfl

@[simp] theorem setThread_bindings (thread : PageCommentThread) :
    (r.setThread thread).bindings = r.bindings := rfl

@[simp] theorem deleteMentions_bindings (contentType : ReviewMentionContentType)
    (contentId : JsString) : (r.deleteMentions contentType contentId).bindings = r.bindings := rfl

@[simp] theorem pinned_bindings (thread : PageCommentThread) :
    (r.pinned thread).2.bindings = r.bindings := by
  unfold ReviewRepository.pinned
  split <;> rfl

@[simp] theorem insertNotification_bindings (notification : ReviewNotification) :
    (r.insertNotification backend notification).2.bindings = r.bindings := by
  unfold ReviewRepository.insertNotification
  dsimp only
  split_ifs <;> rfl

/-- A loop that keeps the bindings in each round keeps them. -/
theorem foldl_bindings {announce : ReviewRepository → JsString → ReviewRepository}
    (h : ∀ r recipient, (announce r recipient).bindings = r.bindings) (recipients : List JsString) :
    (recipients.foldl announce r).bindings = r.bindings := by
  induction recipients generalizing r with
  | nil => rfl
  | cons recipient recipients ih => exact (ih _).trans (h r recipient)

@[simp] theorem syncMentions_bindings (input : ReviewRepository.MentionSync) :
    (r.syncMentions backend input).bindings = r.bindings := by
  unfold ReviewRepository.syncMentions
  refine foldl_bindings _ (fun r recipient => ?_) _
  unfold ReviewRepository.notifyMention
  split
  · rfl
  · simp only [recordEvent_bindings, insertNotification_bindings]

@[simp] theorem notifyReply_bindings (thread : PageCommentThread) (reply : ReviewReply)
    (recipient : JsString) : (r.notifyReply backend thread reply recipient).bindings = r.bindings := by
  unfold ReviewRepository.notifyReply
  dsimp only
  split
  · rfl
  · split_ifs <;> simp

@[simp] theorem markRequestRead_bindings (thread : PageCommentThread) (input : ChangeStatusInput) :
    (r.markRequestRead thread input).bindings = r.bindings := by
  unfold ReviewRepository.markRequestRead
  split
  · rfl
  · split_ifs <;> rfl

@[simp] theorem notifyWorkflow_bindings (thread : PageCommentThread) (input : ChangeStatusInput) :
    (r.notifyWorkflow backend thread input).bindings = r.bindings := by
  unfold ReviewRepository.notifyWorkflow
  dsimp only
  split
  · rfl
  · split
    · rfl
    · split_ifs <;> simp

theorem changePageCommentStatus_bindings (input : ChangeStatusInput) :
    (r.changePageCommentStatus backend input).2.bindings = r.bindings := by
  unfold ReviewRepository.changePageCommentStatus
  dsimp only
  split
  · rfl
  · split
    · rfl
    · split_ifs <;> simp

/-- Only the commands for bindings write them. -/
theorem perform_bindings (command : ReviewCommand) (hnot : ∀ input, command ≠ .bindTunnel input)
    {binding : ReviewTunnelBinding} (hbinding : binding ∈ (perform backend r command).2.bindings) :
    binding ∈ r.bindings := by
  cases command with
  | bindTunnel input => exact absurd rfl (hnot input)
  | removeTunnelBinding tunnelId sessionId => exact List.mem_of_mem_filter hbinding
  | createPageComment command =>
    unfold perform ReviewRepository.createPageComment at hbinding
    dsimp only at hbinding
    split_ifs at hbinding
    · exact hbinding
    · exact hbinding
    · exact hbinding
    · simpa using hbinding
  | createReply command =>
    unfold perform ReviewRepository.createReply at hbinding
    dsimp only at hbinding
    split at hbinding
    · exact hbinding
    · split at hbinding
      · exact hbinding
      · split_ifs at hbinding
        · exact hbinding
        · exact hbinding
        · rw [foldl_bindings _ fun r recipient => notifyReply_bindings r _ _ recipient] at hbinding
          simpa using hbinding
  | changePageCommentStatus input =>
    unfold perform at hbinding
    dsimp only at hbinding
    split at hbinding
    · exact hbinding
    · rwa [changePageCommentStatus_bindings] at hbinding
  | updateComment input =>
    unfold perform ReviewRepository.updateComment at hbinding
    dsimp only at hbinding
    split at hbinding
    · exact hbinding
    · split at hbinding
      · exact hbinding
      · split at hbinding
        · exact hbinding
        · simpa using hbinding
  | deleteComment input =>
    unfold perform ReviewRepository.deleteComment at hbinding
    dsimp only at hbinding
    split at hbinding
    · exact hbinding
    · split at hbinding
      · exact hbinding
      · split at hbinding
        · exact hbinding
        · simpa using hbinding
  | updateReply replyId input =>
    unfold perform ReviewRepository.updateReply at hbinding
    dsimp only at hbinding
    split at hbinding
    · exact hbinding
    · split at hbinding
      · exact hbinding
      · split at hbinding
        · exact hbinding
        · split at hbinding
          · exact hbinding
          · simpa using hbinding
  | deleteReply replyId input =>
    unfold perform ReviewRepository.deleteReply at hbinding
    dsimp only at hbinding
    split at hbinding
    · exact hbinding
    · split at hbinding
      · exact hbinding
      · split at hbinding
        · exact hbinding
        · split at hbinding
          · exact hbinding
          · simpa using hbinding
  | setNotificationRead input =>
    unfold perform ReviewRepository.setNotificationRead at hbinding
    dsimp only at hbinding
    split at hbinding
    · exact hbinding
    · split at hbinding
      · exact hbinding
      · split at hbinding
        · exact hbinding
        · split at hbinding
          · cases backend <;> exact hbinding
          · simpa using hbinding
  | accountsChanged accounts => exact hbinding

end Bindings

section Steps
variable {backend : ReviewBackend} {s s' : BindingSystem}

/-- Where the binding of a removed session is not stored. -/
def Cleared (s : BindingSystem) : Prop :=
  ∀ binding ∈ s.repository.bindings, (binding.tunnelId, binding.sessionId) ∉ s.disposed

/-- A step that stores no binding and executes no removal. -/
theorem Cleared.mono (h : Cleared s)
    (hbindings : ∀ binding ∈ s'.repository.bindings, binding ∈ s.repository.bindings)
    (hdisposed : s'.disposed = s.disposed) : Cleared s' := by
  intro binding hbinding
  rw [hdisposed]
  exact h binding (hbindings binding hbinding)

/-- A removal takes the binding of the session with it. -/
theorem Cleared.remove (h : Cleared s) (tunnelId sessionId : JsString)
    (hrepository : s'.repository = (s.repository.removeTunnelBinding tunnelId sessionId).2)
    (hdisposed : s'.disposed = (tunnelId, sessionId) :: s.disposed) : Cleared s' := by
  intro binding hbinding hmem
  rw [hrepository] at hbinding
  rw [hdisposed] at hmem
  obtain ⟨hold, hother⟩ := List.mem_filter.1 hbinding
  rcases List.mem_cons.1 hmem with heq | hbefore
  · exact of_decide_eq_true hother (Prod.mk.inj heq)
  · exact h binding hold hbefore

/-- A binding that comes in time is of a session that has not been removed. -/
theorem Cleared.bind (h : Cleared s) {tunnel : ReviewTunnelTarget} (command : BindCommand)
    (hintime : (tunnel.tunnelId, tunnel.sessionId) ∈ s.disposed →
      s.repository.inserts backend (command.input tunnel) = false)
    (hrepository : s'.repository = (s.repository.bindTunnel backend (command.input tunnel)).2)
    (hdisposed : s'.disposed = s.disposed) : Cleared s' := by
  intro binding hbinding hmem
  rw [hrepository] at hbinding
  rw [hdisposed] at hmem
  rcases bindTunnel_bindings s.repository _ hbinding with hold | ⟨hinserts, htunnel, hsession⟩
  · exact h binding hold hmem
  · rw [htunnel, hsession] at hmem
    rw [hintime hmem] at hinserts
    cases hinserts

theorem Cleared.step (h : Cleared s) {action : BindingAction}
    (hintime : BindsInTime backend s action) (hstep : s.step backend action = some s') :
    Cleared s' := by
  cases action with
  | register tunnelId session =>
    simp only [BindingSystem.step] at hstep
    split_ifs at hstep
    obtain rfl := Option.some.inj hstep
    exact h
  | change tunnelId lifecycle socketOpen =>
    obtain ⟨session, -, hsome⟩ := Option.bind_eq_some_iff.1 hstep
    obtain rfl := Option.some.inj hsome
    exact h
  | dispose tunnelId =>
    obtain ⟨session, -, hsome⟩ := Option.bind_eq_some_iff.1 hstep
    obtain rfl := Option.some.inj hsome
    exact h
  | remove tunnelId sessionId =>
    simp only [BindingSystem.step] at hstep
    split_ifs at hstep
    obtain rfl := Option.some.inj hstep
    exact h.remove tunnelId sessionId rfl rfl
  | request id tunnelId =>
    simp only [BindingSystem.step] at hstep
    split at hstep
    · cases hstep
    · split at hstep
      · obtain rfl := Option.some.inj hstep
        exact h
      · split_ifs at hstep
        · obtain rfl := Option.some.inj hstep
          exact h
        · obtain rfl := Option.some.inj hstep
          exact h
  | reject id error =>
    simp only [BindingSystem.step] at hstep
    split at hstep
    · obtain rfl := Option.some.inj hstep
      exact h
    · cases hstep
  | bind id command =>
    simp only [BindingSystem.step] at hstep
    split at hstep
    · next tunnel hreading =>
      split at hstep
      · obtain rfl := Option.some.inj hstep
        exact h
      · next hchecked =>
        obtain rfl := Option.some.inj hstep
        exact h.bind command (hintime id command tunnel rfl hreading hchecked) rfl rfl
    · cases hstep
  | answer id =>
    simp only [BindingSystem.step] at hstep
    split at hstep
    · obtain rfl := Option.some.inj hstep
      exact h
    · cases hstep
  | perform command =>
    simp only [BindingSystem.step] at hstep
    split at hstep
    · cases hstep
    · next hnot =>
      obtain rfl := Option.some.inj hstep
      exact h.mono (fun binding => perform_bindings s.repository command hnot) rfl

theorem Cleared.noStaleBinding (h : Cleared s) : NoStaleBinding backend s := by
  have hgone : ∀ tunnelId sessionId, s.IsFinished tunnelId sessionId →
      ∀ binding ∈ s.repository.bindings,
        ¬ (binding.tunnelId = tunnelId ∧ binding.sessionId = sessionId) := by
    rintro tunnelId sessionId ⟨hdisposed, -⟩ binding hbinding ⟨rfl, rfl⟩
    exact h binding hbinding hdisposed
  refine ⟨hgone, ?_⟩
  intro id tunnel command hreading hconflict
  obtain ⟨existing, hexisting, hsame⟩ := bindTunnel_conflict s.repository _ hconflict
  exact ⟨existing, hexisting, hsame, fun hfinished =>
    hgone _ _ hfinished existing hexisting ⟨rfl, rfl⟩⟩

end Steps

theorem no_stale_binding (backend : ReviewBackend) (repository : ReviewRepository)
    (actions : List BindingAction) {s : BindingSystem}
    (hguard : Execution.Guarded (BindingSystem.step backend) (BindsInTime backend)
      (.initial repository) actions)
    (hrun : Execution.run (BindingSystem.step backend) (.initial repository) actions = some s) :
    NoStaleBinding backend s := by
  have hinit : Cleared (.initial repository) := by
    intro binding hbinding
    exact nofun
  have hnext : ∀ s action s', Cleared s → BindsInTime backend s action →
      BindingSystem.step backend s action = some s' → Cleared s' :=
    fun _ _ _ h hintime hstep => h.step hintime hstep
  exact (Execution.invariant_of_guarded hnext hinit hguard hrun).noStaleBinding

section Samples

def boundSession (sessionId : JsString) : GatewaySession where
  sessionId := sessionId
  ownerAccountId := some (.ofAscii "owner")
  lifecycle := .ACTIVE ⟨0, 1, 0, 0⟩
  socketOpen := true
  maxTtlMs := 1000

def bindCommand : BindCommand where
  actorAccountId := .ofAscii "owner"
  actorUsername := .ofAscii "owner"
  actorAuthorizationVersion := 1
  canManageProject := true
  projectId := .ofAscii "project"
  projectSlug := .ofAscii "storefront"
  revisionId := .ofAscii "revision"
  revisionKey := .ofAscii "commit-a"
  createdAt := 1

/-- The store executes the transaction of the request, then the removal. -/
def boundThenRemoved : List BindingAction :=
  [.register (.ofAscii "tunnel") (boundSession (.ofAscii "first")), .request 0 (.ofAscii "tunnel"),
    .bind 0 bindCommand, .dispose (.ofAscii "tunnel"),
    .remove (.ofAscii "tunnel") (.ofAscii "first"), .answer 0]

/-- The removal overtakes the transaction; a second session of the tunnel then asks to be bound. -/
def removedThenBound : List BindingAction :=
  [.register (.ofAscii "tunnel") (boundSession (.ofAscii "first")), .request 0 (.ofAscii "tunnel"),
    .dispose (.ofAscii "tunnel"), .remove (.ofAscii "tunnel") (.ofAscii "first"),
    .bind 0 bindCommand, .answer 0,
    .register (.ofAscii "tunnel") (boundSession (.ofAscii "second")), .request 1 (.ofAscii "tunnel")]

theorem no_stale_binding_boundThenRemoved : ∃ s,
    Execution.run (BindingSystem.step .inMemory) (.initial (.empty [])) boundThenRemoved = some s ∧
      NoStaleBinding .inMemory s := by
  have hguard : Execution.Guarded (BindingSystem.step .inMemory) (BindsInTime .inMemory)
      (.initial (.empty [])) boundThenRemoved := by
    refine ⟨nofun, nofun, ?_, nofun, nofun, nofun, trivial⟩
    intro id command tunnel _ _ _ hdisposed
    cases hdisposed
  exact ⟨_, rfl, no_stale_binding .inMemory (.empty []) boundThenRemoved hguard rfl⟩

theorem late_binding_stays : ¬ ∀ (backend : ReviewBackend) (repository : ReviewRepository)
    (actions : List BindingAction) (s : BindingSystem),
    Execution.run (BindingSystem.step backend) (.initial repository) actions = some s →
      NoStaleBinding backend s := by
  intro hall
  have hstale := hall .inMemory (.empty []) removedThenBound _ rfl
  refine hstale.gone (.ofAscii "tunnel") (.ofAscii "first") ⟨by decide, ?_⟩
    ((bindCommand.input ⟨.ofAscii "tunnel", .ofAscii "first", .ofAscii "owner", true, 1000⟩).binding)
    (by decide) ⟨rfl, rfl⟩
  rintro id tunnel hopen ⟨-, hsession⟩
  -- The first request has been answered, and the second is of the second session.
  by_cases hfirst : id = 1
  · subst hfirst
    rcases hopen with hreading | ⟨result, hexecuted⟩
    · obtain rfl := BindRequest.reading.inj (Option.some.inj hreading)
      exact absurd hsession (by decide)
    · cases hexecuted
  · by_cases hzero : id = 0
    · subst hzero
      rcases hopen with hreading | ⟨result, hexecuted⟩
      · cases hreading
      · cases hexecuted
    · have hkept : ∀ (requests : ℕ → Option BindRequest) (request : Option BindRequest),
          Function.update requests 0 request id = requests id :=
        fun requests request => Function.update_of_ne hzero _ _
      rcases hopen with hreading | ⟨result, hexecuted⟩
      · cases hreading.symm.trans ((Function.update_of_ne hfirst _ _).trans
          ((hkept _ _).trans ((hkept _ _).trans (hkept _ _))))
      · cases hexecuted.symm.trans ((Function.update_of_ne hfirst _ _).trans
          ((hkept _ _).trans ((hkept _ _).trans (hkept _ _))))

end Samples

end Lotur.Review
