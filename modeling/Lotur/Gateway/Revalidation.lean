import Lotur.Gateway.AuthorizationQueries
import Lotur.Gateway.ServerSafety
import Lotur.Gateway.TransportEpochs
import Lotur.Library.Sweep

/-! `startAuthorizationRevalidation`: a round checks the developers of all sessions, then the
reviewers of all open streams, while the gateway goes on between the queries. -/
namespace Lotur.Gateway.Revalidation

open State

structure DeveloperSnapshot where
  session : ℕ
  transport : GatewayTransportEpoch
  check : Owner
  deriving DecidableEq, Repr

/-- The session and the id are those that the stream object holds. -/
structure ReviewerSnapshot where
  stream : ℕ
  check : Owner
  deriving DecidableEq, Repr

/-- For statements about the past of a round: `started` is the gateway as the tick found it,
`verified` the owners whose own check was answered true, and `checked` the gateway in which the
streams were listed. -/
inductive Round where
  | idle
  | developers (started : Server) (pendingSessions : List ℕ) (snapshots : List DeveloperSnapshot)
  | reviewers (started : Server) (verified : List (ℕ × Owner)) (checked : Server)
    (snapshots : List ReviewerSnapshot)

structure System where
  gateway : Server
  queries : Queries
  round : Round

/-- `reviewer` is the account that a stream object was opened for. -/
structure Config extends ServerConfig where
  reviewer : ℕ → Option Owner

def start (initialKillSwitch : Bool) (now : ℕ) : System where
  gateway := .start initialKillSwitch now
  queries := .new
  round := .idle

def pendingSessions (s : Server) : List ℕ :=
  s.registeredKeys.filter fun key => !(s.gateway.heap key).terminal

def developerSnapshots (s : Server) (pending : List ℕ) : List DeveloperSnapshot :=
  pending.filterMap fun key =>
    (s.gateway.heap key).owner.map fun check =>
      { session := key, transport := s.gateway.captureGatewayTransport key, check }

def reviewerSnapshots (config : Config) (s : Server) (pending : List ℕ) :
    List ReviewerSnapshot :=
  pending.flatMap fun key =>
    if !s.gateway.isCurrentGatewaySessionTransport key (s.gateway.captureGatewayTransport key) then
      []
    else (s.streams key).entries.reverse.filterMap fun entry =>
      (config.reviewer entry.2).map fun check => { stream := entry.2, check }

/-- One turn of the loop over the developers. -/
def revalidateDeveloper (s : Server) (snapshot : DeveloperSnapshot) : Option Outcome → Server
  | none => s
  | some outcome =>
    if !s.gateway.isCurrentGatewaySessionTransport snapshot.session snapshot.transport then s
    else if outcome = .fulfilled true then s
    else s.disposeGatewaySession snapshot.session

/-- One turn of the loop over the reviewers; a throw leaves the state as it is at that point. -/
def revalidateReviewer (config : Config) (now : ℕ) (s : Server) (snapshot : ReviewerSnapshot) :
    Option Outcome → Except Server Server
  | none => .ok s
  | some outcome =>
    if !s.isCurrentGatewaySessionStream snapshot.stream then .ok s
    else if outcome = .fulfilled true then .ok s
    else
      match (s.cancel snapshot.stream).removeGatewayStream config.ctx.sessionPolicy
          snapshot.stream .localReset now with
      | (after, .threw) => .error after
      | (after, _) => .ok (after.closeOutbound snapshot.stream)

def revalidateDevelopers (s : Server) (snapshots : List DeveloperSnapshot)
    (results : ℕ → Option Outcome) : Server :=
  snapshots.zipIdx.foldl (fun s entry => revalidateDeveloper s entry.1 (results entry.2)) s

/-- The loop over the reviewers; what it throws ends every session. -/
def revalidateReviewers (config : Config) (now : ℕ → ℕ) (s : Server)
    (snapshots : List ReviewerSnapshot) (results : ℕ → Option Outcome) : Server :=
  match snapshots.zipIdx.foldlM (fun s entry =>
      revalidateReviewer config (now entry.2) s entry.1 (results entry.2)) s with
  | .ok after => after
  | .error after => after.disposeAll

def verified (snapshots : List DeveloperSnapshot) (answers : List (ℕ × Bool)) : List (ℕ × Owner) :=
  (snapshots.zipIdx.filter fun entry => (entry.2, true) ∈ answers).map fun entry =>
    (entry.1.session, entry.1.check)

inductive Label where
  | gateway (label : Server.Label)
  | tick
  | query (event : QueryEvent)
  | developersChecked
  | reviewersChecked (now : ℕ → ℕ)

def step (config : Config) (s : System) : Label → Option System
  | .gateway label =>
    (Server.step config.toServerConfig s.gateway label).map fun gateway => { s with gateway }
  | .tick =>
    match s.round with
    | .idle =>
      let pending := pendingSessions s.gateway
      let snapshots := developerSnapshots s.gateway pending
      some { s with
        queries := s.queries.check snapshots.length
        round := .developers s.gateway pending snapshots }
    | _ => some s
  | .query event => (s.queries.step event).map fun queries => { s with queries }
  | .developersChecked =>
    match s.round, s.queries.checking with
    | .developers started pending snapshots, .checked results =>
      let gateway := revalidateDevelopers s.gateway snapshots results
      let reviewers := reviewerSnapshots config gateway pending
      some {
        gateway := gateway
        queries := s.queries.check reviewers.length
        round := .reviewers started (verified snapshots s.queries.answers) gateway reviewers }
    | _, _ => none
  | .reviewersChecked now =>
    match s.round, s.queries.checking with
    | .reviewers _ _ _ snapshots, .checked results =>
      some { s with
        gateway := revalidateReviewers config now s.gateway snapshots results
        round := .idle }
    | _, _ => none

section Developers

variable {s s' : Server} {key : ℕ} {transport : GatewayTransportEpoch}

/-- The session is no longer registered on the transport, and will never be again. -/
def Gone (s : Server) (key : ℕ) (transport : GatewayTransportEpoch) : Prop :=
  key < s.gateway.sessionCount ∧
    (s.gateway.isRegistered key = false ∨ Left s.gateway key transport)

theorem Gone.later (h : Gone s key transport) (hlater : Later s.gateway s'.gateway) :
    Gone s' key transport := by
  refine ⟨h.1.trans_le hlater.sessionCount, ?_⟩
  rcases h.2 with hunregistered | hleft
  · left
    by_contra hback
    rw [Bool.not_eq_false] at hback
    rw [hlater.registered key h.1 hback] at hunregistered
    cases hunregistered
  · exact Or.inr (hleft.later hlater)

theorem Gone.not_current (h : Gone s key transport) :
    s.gateway.isCurrentGatewaySessionTransport key transport = false := by
  rcases h.2 with hunregistered | hleft
  · simp [isCurrentGatewaySessionTransport, hunregistered]
  · simp [isCurrentGatewaySessionTransport, hleft.elsewhere]

/-- The session exists and the transport has served it. -/
def Listed (s : Server) (key : ℕ) (transport : GatewayTransportEpoch) : Prop :=
  key < s.gateway.sessionCount ∧ (s.gateway.carriers transport.socket).session ≠ none

theorem Listed.later (h : Listed s key transport) (hlater : Later s.gateway s'.gateway) :
    Listed s' key transport :=
  ⟨h.1.trans_le hlater.sessionCount, fun hnone => h.2 (hlater.session _ hnone)⟩

theorem Listed.gone (h : Listed s key transport)
    (hstale : s.gateway.isCurrentGatewaySessionTransport key transport = false) :
    Gone s key transport := by
  refine ⟨h.1, ?_⟩
  by_cases hregistered : s.gateway.isRegistered key = true
  · refine Or.inr ⟨h.1, h.2, ?_⟩
    simpa [isCurrentGatewaySessionTransport, hregistered] using hstale
  · exact Or.inl (by simpa using hregistered)

/-- What the gateway keeps through every turn of the loops. -/
structure Intact (s : Server) : Prop where
  kept : s.Kept
  placed : s.Placed

theorem Intact.dispose (config : ServerConfig) (h : Intact s) (key : ℕ) :
    Intact (s.disposeGatewaySession key) := by
  have hreached : Server.Advances config s (s.disposeGatewaySession key) :=
    Server.Reaches.advances (Server.disposeGatewaySession_reaches h.kept.accounted)
  exact ⟨h.kept.advances hreached,
    h.placed.recedes (Server.disposeGatewaySession_recedes s key)⟩

theorem disposeGatewaySession_gone (h : Intact s) (hkey : key < s.gateway.sessionCount) :
    Gone (s.disposeGatewaySession key) key transport := by
  have hlater := (Server.disposeGatewaySession_recedes s key).gateway.later
  refine ⟨hkey.trans_le hlater.sessionCount, Or.inl ?_⟩
  by_contra hback
  rw [Bool.not_eq_false] at hback
  exact (Server.disposeGatewaySession_isRegistered h.kept.accounted hback).1 rfl

structure Revalidating (snapshots : List DeveloperSnapshot) (s : Server) : Prop where
  intact : Intact s
  listed : ∀ snapshot ∈ snapshots, Listed s snapshot.session snapshot.transport

/-- A check that was answered true, or a session that has gone. -/
def DeveloperSettled (results : ℕ → Option Outcome) (entry : DeveloperSnapshot × ℕ) (s : Server) :
    Prop :=
  results entry.2 = some (.fulfilled true) ∨ Gone s entry.1.session entry.1.transport

/-- A turn ends the session unless its own check was answered true. -/
theorem revalidateDeveloper_settled (config : ServerConfig) {results : ℕ → Option Outcome}
    {entry : DeveloperSnapshot × ℕ} (hresult : results entry.2 ≠ none) (h : Intact s)
    (hlisted : Listed s entry.1.session entry.1.transport) :
    Intact (revalidateDeveloper s entry.1 (results entry.2)) ∧
      Later s.gateway (revalidateDeveloper s entry.1 (results entry.2)).gateway ∧
      DeveloperSettled results entry (revalidateDeveloper s entry.1 (results entry.2)) := by
  cases houtcome : results entry.2 with
  | none => exact absurd houtcome hresult
  | some outcome =>
    unfold revalidateDeveloper
    dsimp only
    split_ifs with hcurrent hfulfilled
    · refine ⟨h, .refl _, Or.inr (hlisted.gone ?_)⟩
      simpa using hcurrent
    · refine ⟨h, .refl _, Or.inl ?_⟩
      rw [houtcome, hfulfilled]
    · refine ⟨h.dispose config _, (Server.disposeGatewaySession_recedes s _).gateway.later, ?_⟩
      exact Or.inr (disposeGatewaySession_gone h hlisted.1)

theorem developerSettled_monotone (results : ℕ → Option Outcome) :
    Sweep.Monotone (fun s s' : Server => Later s.gateway s'.gateway)
      (DeveloperSettled results) where
  refl _ := .refl _
  trans _ _ _ h h' := h.trans h'
  settled _ _ _ hlater hsettled := hsettled.imp id fun hgone => hgone.later hlater

/-- After the loop, every listed session has gone whose own check was not answered true. -/
theorem revalidateDevelopers_settled (config : ServerConfig) {results : ℕ → Option Outcome}
    {snapshots : List DeveloperSnapshot} (hresults : ∀ index < snapshots.length,
      results index ≠ none) (h : Revalidating snapshots s) :
    Intact (revalidateDevelopers s snapshots results) ∧
      Later s.gateway (revalidateDevelopers s snapshots results).gateway ∧
      ∀ entry ∈ snapshots.zipIdx,
        DeveloperSettled results entry (revalidateDevelopers s snapshots results) := by
  have hsweep := Sweep.foldl_settled (developerSettled_monotone results) (Revalidating snapshots)
    (fun s entry => revalidateDeveloper s entry.1 (results entry.2)) snapshots.zipIdx ?_ h
  · exact ⟨hsweep.1.intact, hsweep.2⟩
  · intro s hs entry hentry
    have hindex := List.mem_zipIdx' hentry
    have hmem : entry.1 ∈ snapshots := by
      rw [hindex.2]
      exact List.getElem_mem hindex.1
    obtain ⟨hintact, hlater, hsettled⟩ := revalidateDeveloper_settled config
      (hresults entry.2 hindex.1) hs.intact (hs.listed entry.1 hmem)
    exact ⟨⟨hintact, fun other hother => (hs.listed other hother).later hlater⟩, hlater, hsettled⟩

/-- What the loop leaves of a session that it does not end. -/
structure Spared (key : ℕ) (s s' : Server) : Prop where
  registered : s'.gateway.isRegistered key = s.gateway.isRegistered key
  standing : SameStanding (s.gateway.heap key) (s'.gateway.heap key)
  streams : s'.streams key = s.streams key

theorem Spared.trans {s'' : Server} (h : Spared key s s') (h' : Spared key s' s'') :
    Spared key s s'' :=
  ⟨h'.registered.trans h.registered, h.standing.trans h'.standing, h'.streams.trans h.streams⟩

theorem disposeGatewaySession_spares {other : ℕ} (h : Intact s) (hother : key ≠ other) :
    Spared key s (s.disposeGatewaySession other) := by
  unfold Server.disposeGatewaySession
  rcases disposeGatewaySession_cases s.gateway other with hdisposes | ⟨-, hsame⟩
  · obtain ⟨hafter, hstreams, -⟩ := Server.adopt_disposes h.kept.accounted.registry hdisposes
    refine ⟨hafter.isRegistered_of_ne hother, hafter.others key hother, ?_⟩
    rw [hstreams, Function.update_of_ne hother]
  · rw [hsame]
    have hsilent := Server.adopt_quiet (Quiet.refl s.gateway)
    exact ⟨hsilent.gateway.isRegistered key, hsilent.gateway.standing key,
      congrFun hsilent.streams key⟩

/-- The session is on the transport that was listed, and its own check was not answered true. -/
def Refused (s : Server) (results : ℕ → Option Outcome) (key : ℕ)
    (entry : DeveloperSnapshot × ℕ) : Prop :=
  entry.1.session = key ∧ s.gateway.captureGatewayTransport key = entry.1.transport ∧
    results entry.2 ≠ some (.fulfilled true) ∧ results entry.2 ≠ none

/-- A turn ends the session that its check refuses, and spares every other one. -/
theorem revalidateDeveloper_exact {results : ℕ → Option Outcome} {entry : DeveloperSnapshot × ℕ}
    (h : Intact s) (hregistered : s.gateway.isRegistered key = true) :
    (Refused s results key entry →
      (revalidateDeveloper s entry.1 (results entry.2)).gateway.isRegistered key = false) ∧
      (¬Refused s results key entry →
        Spared key s (revalidateDeveloper s entry.1 (results entry.2))) := by
  have hsame : Spared key s s := ⟨rfl, .refl _, rfl⟩
  unfold revalidateDeveloper
  cases houtcome : results entry.2 with
  | none =>
    refine ⟨?_, fun _ => hsame⟩
    rintro ⟨-, -, -, hsome⟩
    exact absurd houtcome hsome
  | some outcome =>
    dsimp only
    split_ifs with hstale hfulfilled
    · refine ⟨?_, fun _ => hsame⟩
      rintro ⟨hkey, htransport, -⟩
      simp [isCurrentGatewaySessionTransport, hkey, hregistered, htransport] at hstale
    · refine ⟨?_, fun _ => hsame⟩
      rintro ⟨-, -, hrefused, -⟩
      exact absurd (by rw [houtcome, hfulfilled]) hrefused
    · constructor
      · rintro ⟨hkey, -⟩
        by_contra hback
        rw [Bool.not_eq_false] at hback
        exact (Server.disposeGatewaySession_isRegistered h.kept.accounted hback).1 hkey.symm
      · intro hallowed
        apply disposeGatewaySession_spares h
        rintro rfl
        apply hallowed
        refine ⟨rfl, ?_, ?_, ?_⟩
        · simp only [isCurrentGatewaySessionTransport, Bool.not_eq_true, Bool.not_eq_false',
            Bool.and_eq_true, decide_eq_true_eq] at hstale
          exact hstale.2
        · rw [houtcome]
          simpa using hfulfilled
        · simp [houtcome]

theorem revalidateDeveloper_recedes (snapshot : DeveloperSnapshot) (result : Option Outcome) :
    Server.Recedes s (revalidateDeveloper s snapshot result) := by
  unfold revalidateDeveloper
  split
  · exact .refl s
  · split_ifs
    · exact .refl s
    · exact .refl s
    · exact Server.disposeGatewaySession_recedes s _

theorem revalidateDevelopers_recedes (results : ℕ → Option Outcome)
    (entries : List (DeveloperSnapshot × ℕ)) (s : Server) :
    Server.Recedes s (entries.foldl
      (fun s entry => revalidateDeveloper s entry.1 (results entry.2)) s) := by
  induction entries generalizing s with
  | nil => exact .refl s
  | cons entry entries ih =>
    rw [List.foldl_cons]
    exact (revalidateDeveloper_recedes entry.1 (results entry.2)).trans (ih _)

/-- The loop ends the sessions that a check refuses, and spares every other one. -/
theorem revalidateDevelopers_exact (config : ServerConfig) {results : ℕ → Option Outcome}
    {entries : List (DeveloperSnapshot × ℕ)} (hentries : ∀ entry ∈ entries,
      Listed s entry.1.session entry.1.transport ∧ results entry.2 ≠ none)
    (h : Intact s) (hregistered : s.gateway.isRegistered key = true) :
    ((∃ entry ∈ entries, Refused s results key entry) →
      (entries.foldl (fun s entry => revalidateDeveloper s entry.1 (results entry.2))
        s).gateway.isRegistered key = false) ∧
      ((∀ entry ∈ entries, ¬Refused s results key entry) →
        Spared key s (entries.foldl
          (fun s entry => revalidateDeveloper s entry.1 (results entry.2)) s)) := by
  induction entries generalizing s with
  | nil => exact ⟨by simp, fun _ => ⟨rfl, .refl _, rfl⟩⟩
  | cons entry entries ih =>
    obtain ⟨hlisted, hresult⟩ := hentries entry List.mem_cons_self
    obtain ⟨hintact, hlater, -⟩ := revalidateDeveloper_settled config hresult h hlisted
    have hturn := @revalidateDeveloper_exact s key results entry h hregistered
    have hrecedes := @revalidateDeveloper_recedes s entry.1 (results entry.2)
    have hrest : ∀ other ∈ entries, Listed (revalidateDeveloper s entry.1 (results entry.2))
        other.1.session other.1.transport ∧ results other.2 ≠ none := fun other hother =>
      ⟨(hentries other (List.mem_cons_of_mem entry hother)).1.later hlater,
        (hentries other (List.mem_cons_of_mem entry hother)).2⟩
    have hrefused (other : DeveloperSnapshot × ℕ) :
        Refused (revalidateDeveloper s entry.1 (results entry.2)) results key other ↔
          Refused s results key other := by
      unfold Refused
      rw [hrecedes.gateway.transport]
    rw [List.foldl_cons]
    by_cases hgone : Refused s results key entry
    · have hended := hturn.1 hgone
      refine ⟨fun _ => ?_, fun hallowed => absurd hgone (hallowed entry List.mem_cons_self)⟩
      by_contra hback
      rw [Bool.not_eq_false] at hback
      have hbefore :=
        ((revalidateDevelopers_recedes results entries _).gateway.registered key hback).1
      rw [hended] at hbefore
      cases hbefore
    · have hspared := hturn.2 hgone
      have hstill := hspared.registered.trans hregistered
      obtain ⟨hends, hspares⟩ := ih hrest hintact hstill
      constructor
      · rintro ⟨other, hother, hothers⟩
        rcases List.mem_cons.1 hother with rfl | hother
        · exact absurd hothers hgone
        · exact hends ⟨other, hother, (hrefused other).2 hothers⟩
      · intro hallowed
        refine hspared.trans (hspares fun other hother hothers => ?_)
        exact hallowed other (List.mem_cons_of_mem entry hother) ((hrefused other).1 hothers)

end Developers

section Reviewers

variable {config : Config} {s s' : Server} {object now : ℕ}

/-- A stream that is removed from the map of its session. -/
theorem removeGatewayStream_removed {policy : SessionPolicy} {retirement : Endpoint.RetirementKind}
    (hcurrent : s.isCurrentGatewayStream object = true) :
    Server.Recedes (s.deleteStream (s.objects object).key (s.objects object).streamId)
      (s.removeGatewayStream policy object retirement now).1 := by
  unfold Server.removeGatewayStream
  dsimp only
  rw [hcurrent]
  simp only [Bool.not_true, Bool.false_eq_true, if_false]
  split
  · exact .refl _
  · exact Server.setTransportFlows_recedes.trans (Server.streamClosed_recedes _ policy _ now)

theorem deleteStream_stale :
    (s.deleteStream (s.objects object).key
      (s.objects object).streamId).isCurrentGatewaySessionStream object = false := by
  simp [Server.isCurrentGatewaySessionStream, Server.isCurrentGatewayStream, Server.deleteStream]

theorem isCurrentGatewaySessionStream_recedes (h : Server.Recedes s s')
    (hstale : s.isCurrentGatewaySessionStream object = false) :
    s'.isCurrentGatewaySessionStream object = false := by
  by_contra hcurrent
  rw [Bool.not_eq_false] at hcurrent
  simp only [Server.isCurrentGatewaySessionStream, Server.isCurrentGatewayStream,
    Bool.and_eq_true, decide_eq_true_eq] at hcurrent
  rw [h.key, h.streamId, h.transport, h.gateway.transport] at hcurrent
  obtain ⟨hregistered, htransport, hlookup⟩ := hcurrent
  have hbefore : s.isCurrentGatewaySessionStream object = true := by
    simp only [Server.isCurrentGatewaySessionStream, Server.isCurrentGatewayStream,
      Bool.and_eq_true, decide_eq_true_eq]
    exact ⟨(h.gateway.registered _ hregistered).1, htransport, h.lookup _ _ _ hlookup⟩
  rw [hstale] at hbefore
  cases hbefore

/-- A check that was answered true, or a stream that is no longer open. -/
def ReviewerSettled (results : ℕ → Option Outcome) (entry : ReviewerSnapshot × ℕ) (s : Server) :
    Prop :=
  results entry.2 = some (.fulfilled true) ∨
    s.isCurrentGatewaySessionStream entry.1.stream = false

theorem reviewerSettled_monotone (results : ℕ → Option Outcome) :
    Sweep.Monotone Server.Recedes (ReviewerSettled results) where
  refl _ := .refl _
  trans _ _ _ h h' := h.trans h'
  settled _ _ _ h hsettled := hsettled.imp id (isCurrentGatewaySessionStream_recedes h)

/-- A turn closes the stream unless its own check was answered true, and does not throw. -/
theorem revalidateReviewer_settled {results : ℕ → Option Outcome} {entry : ReviewerSnapshot × ℕ}
    (hresult : results entry.2 ≠ none) (h : Intact s) :
    ∃ s', revalidateReviewer config now s entry.1 (results entry.2) = .ok s' ∧ Intact s' ∧
      Server.Recedes s s' ∧ ReviewerSettled results entry s' := by
  cases houtcome : results entry.2 with
  | none => exact absurd houtcome hresult
  | some outcome =>
    unfold revalidateReviewer
    dsimp only
    split_ifs with hcurrent hfulfilled
    · exact ⟨s, rfl, h, .refl s, Or.inr (by simpa using hcurrent)⟩
    · exact ⟨s, rfl, h, .refl s, Or.inl (by rw [houtcome, hfulfilled])⟩
    · have hcancel := Server.cancel_recedes s entry.1.stream
      have hopen : (s.cancel entry.1.stream).isCurrentGatewayStream entry.1.stream = true := by
        simp only [Bool.not_eq_true, Bool.not_eq_false', Server.isCurrentGatewaySessionStream,
          Bool.and_eq_true] at hcurrent
        have hstream := hcurrent.2
        unfold Server.isCurrentGatewayStream at hstream ⊢
        rw [hcancel.key, hcancel.streamId, hcancel.transport]
        exact hstream
      have haccounted := (h.kept.accounted).quiet (Server.cancel_silent s entry.1.stream).gateway
        (Server.cancel_silent s entry.1.stream).streams
      have hremoves := @removeGatewayStream_removed (s.cancel entry.1.stream) entry.1.stream now
        config.ctx.sessionPolicy .localReset hopen
      have hrecedes := @Server.removeGatewayStream_recedes (s.cancel entry.1.stream) entry.1.stream
        now config.ctx.sessionPolicy .localReset
      rcases @Server.removeGatewayStream_cases config.toServerConfig _ haccounted entry.1.stream now
        .localReset with ⟨hstale, -⟩ | ⟨-, removed, hremoved, hchange⟩
      · rw [hopen] at hstale
        cases hstale
      · rw [hremoved] at hremoves hrecedes ⊢
        have hclosed := Server.closeOutbound_recedes removed entry.1.stream
        have hall := (hcancel.trans hrecedes).trans hclosed
        refine ⟨_, rfl, ⟨?_, h.placed.recedes hall⟩, hall, Or.inr ?_⟩
        · have hadvances : Server.Advances config.toServerConfig s
              (removed.closeOutbound entry.1.stream) :=
            Server.Reaches.advances ((((Server.cancel_silent s entry.1.stream).reaches).tail
              hchange).trans (Server.closeOutbound_silent removed entry.1.stream).reaches)
          exact h.kept.advances hadvances
        · exact isCurrentGatewaySessionStream_recedes (hremoves.trans hclosed) deleteStream_stale

/-- The loop does not throw, and after it every listed stream has been closed whose own check was
not answered true. -/
theorem revalidateReviewers_settled {results : ℕ → Option Outcome} {now : ℕ → ℕ}
    {snapshots : List ReviewerSnapshot} (hresults : ∀ index < snapshots.length,
      results index ≠ none) (h : Intact s) :
    Intact (revalidateReviewers config now s snapshots results) ∧
      Server.Recedes s (revalidateReviewers config now s snapshots results) ∧
      ∀ entry ∈ snapshots.zipIdx,
        ReviewerSettled results entry (revalidateReviewers config now s snapshots results) := by
  obtain ⟨after, hloop, hintact, hrecedes, hsettled⟩ := Sweep.foldlM_settled
    (reviewerSettled_monotone results) Intact (fun s entry =>
      revalidateReviewer config (now entry.2) s entry.1 (results entry.2)) snapshots.zipIdx
    (fun s hs entry hentry =>
      revalidateReviewer_settled (hresults entry.2 (List.mem_zipIdx' hentry).1) hs) h
  unfold revalidateReviewers
  rw [hloop]
  exact ⟨hintact, hrecedes, hsettled⟩

end Reviewers

section Rounds

variable {config : Config} {s s' : System}

theorem mem_pendingSessions {s : Server} {key : ℕ} (h : Intact s)
    (hregistered : s.gateway.isRegistered key = true) : key ∈ pendingSessions s := by
  simp only [pendingSessions, Server.registeredKeys, List.mem_filter, List.mem_range,
    Bool.not_eq_true']
  exact ⟨⟨h.kept.accounted.registry.lt hregistered, hregistered⟩, h.placed.live key hregistered⟩

/-- What a round knows of the sessions that the tick has found. -/
def Standing (config : Config) (queries : Queries) (gateway : Server) : Round → Prop
  | .idle => ∃ results, queries.checking = .checked results
  | .developers started pending snapshots =>
    queries.jobs = snapshots.length ∧ pending = pendingSessions started ∧ Intact started ∧
      (∀ snapshot ∈ snapshots, Listed gateway snapshot.session snapshot.transport) ∧
      ∀ key check, started.gateway.isRegistered key = true →
        (started.gateway.heap key).owner = some check →
        ⟨key, started.gateway.captureGatewayTransport key, check⟩ ∈ snapshots
  | .reviewers started verified checked snapshots =>
    queries.jobs = snapshots.length ∧
      (∀ key check, started.gateway.isRegistered key = true →
        (started.gateway.heap key).owner = some check →
        (key, check) ∈ verified ∨ Gone gateway key (started.gateway.captureGatewayTransport key)) ∧
      ∀ key streamId object check, started.gateway.isRegistered key = true →
        (checked.streams key).lookup streamId = some object →
        config.reviewer object = some check → ⟨object, check⟩ ∈ snapshots

structure Sound (config : Config) (s : System) : Prop where
  intact : Intact s.gateway
  queries : s.queries.Sound
  standing : Standing config s.queries s.gateway s.round

theorem start_sound (config : Config) (initialKillSwitch : Bool) (now : ℕ) :
    Sound config (start initialKillSwitch now) where
  intact := ⟨Server.start_kept initialKillSwitch now, Server.start_placed initialKillSwitch now⟩
  queries := sound_new
  standing := ⟨fun _ => none, rfl⟩

/-- A query that still runs does not change how many checks there are. -/
theorem jobs_step {q q' : Queries} {event : QueryEvent} (h : q.step event = some q') :
    q'.jobs = q.jobs := by
  unfold Queries.step at h
  cases event with
  | batchSettles outcome =>
    dsimp only at h
    split at h
    · split at h
      · cases h
        rfl
      · cases h
        rfl
      · split at h
        · cases h
          rfl
        · cases h
          rfl
    · cases h
  | proceeds position =>
    dsimp only at h
    split at h
    · split at h
      · obtain ⟨next, -, rfl⟩ := Option.map_eq_some_iff.1 h
        rfl
      · cases h
    · cases h
  | joins =>
    dsimp only at h
    split at h
    · split_ifs at h
      cases h
      rfl
    · cases h
  | retainedSettles =>
    dsimp only at h
    split_ifs at h
    cases h
    rfl
  | _ =>
    dsimp only at h
    split at h
    · first
      | (cases h; rfl)
      | (split at h
         · cases h
           rfl
         · cases h)
    · cases h

/-- Only queries that were given up on are left once the results are there. -/
theorem checked_step {q q' : Queries} {event : QueryEvent} {results : ℕ → Option Outcome}
    (hchecked : q.checking = .checked results) (h : q.step event = some q') :
    q'.checking = .checked results := by
  unfold Queries.step at h
  cases event with
  | retainedSettles =>
    dsimp only at h
    split_ifs at h
    cases h
    exact hchecked
  | _ => simp [hchecked] at h

/-- The gateway goes on while the round waits. -/
theorem Standing.later {queries : Queries} {gateway gateway' : Server} {round : Round}
    (h : Standing config queries gateway round) (hlater : Later gateway.gateway gateway'.gateway) :
    Standing config queries gateway' round := by
  cases round with
  | idle => exact h
  | developers started pending snapshots =>
    obtain ⟨hjobs, hpending, hstarted, hlisted, htaken⟩ := h
    exact ⟨hjobs, hpending, hstarted,
      fun snapshot hmem => (hlisted snapshot hmem).later hlater, htaken⟩
  | reviewers started verified checked snapshots =>
    obtain ⟨hjobs, hverified, hopen⟩ := h
    refine ⟨hjobs, fun key check hregistered howner => ?_, hopen⟩
    exact (hverified key check hregistered howner).imp id fun hgone => hgone.later hlater

/-- The queries go on while the round waits. -/
theorem Standing.query {queries queries' : Queries} {gateway : Server} {round : Round}
    {event : QueryEvent} (h : Standing config queries gateway round)
    (hstep : queries.step event = some queries') : Standing config queries' gateway round := by
  have hjobs := jobs_step hstep
  cases round with
  | idle =>
    obtain ⟨results, hchecked⟩ := h
    exact ⟨results, checked_step hchecked hstep⟩
  | developers started pending snapshots => exact ⟨hjobs.trans h.1, h.2⟩
  | reviewers started verified checked snapshots => exact ⟨hjobs.trans h.1, h.2⟩

theorem mem_developerSnapshots {s : Server} {pending : List ℕ} {key : ℕ} {check : Owner}
    (hkey : key ∈ pending) (howner : (s.gateway.heap key).owner = some check) :
    ⟨key, s.gateway.captureGatewayTransport key, check⟩ ∈ developerSnapshots s pending := by
  rw [developerSnapshots, List.mem_filterMap]
  exact ⟨key, hkey, by simp [howner]⟩

theorem listed_of_mem_developerSnapshots {s : Server} {snapshot : DeveloperSnapshot}
    (h : Intact s) (hmem : snapshot ∈ developerSnapshots s (pendingSessions s)) :
    Listed s snapshot.session snapshot.transport := by
  simp only [developerSnapshots, List.mem_filterMap, Option.map_eq_some_iff] at hmem
  obtain ⟨key, hkey, check, -, rfl⟩ := hmem
  simp only [pendingSessions, Server.registeredKeys, List.mem_filter, List.mem_range] at hkey
  exact ⟨hkey.1.1, h.placed.attached key hkey.1.1⟩

theorem mem_reviewerSnapshots {s : Server} {pending : List ℕ} {key streamId object : ℕ}
    {check : Owner} (h : Intact s) (hkey : key ∈ pending)
    (hopen : (s.streams key).lookup streamId = some object)
    (hcheck : config.reviewer object = some check) :
    ⟨object, check⟩ ∈ reviewerSnapshots config s pending := by
  have hlive : s.streams key ≠ ∅ := by
    intro hempty
    simp [hempty] at hopen
  have hregistered := (h.kept.accounted.live key hlive).1
  rw [reviewerSnapshots, List.mem_flatMap]
  refine ⟨key, hkey, ?_⟩
  have hcurrent : s.gateway.isCurrentGatewaySessionTransport key
      (s.gateway.captureGatewayTransport key) = true := by
    simp [isCurrentGatewaySessionTransport, hregistered]
  simp only [hcurrent, Bool.not_true, Bool.false_eq_true, if_false, List.mem_filterMap,
    List.mem_reverse, Option.map_eq_some_iff]
  exact ⟨⟨streamId, object⟩, AList.mem_lookup_iff.1 hopen, check, hcheck, rfl⟩

/-- The tick lists every session that is registered. -/
theorem tick_standing {s : Server} {queries : Queries} (h : Intact s)
    (hjobs : queries.jobs = (developerSnapshots s (pendingSessions s)).length) :
    Standing config queries s
      (.developers s (pendingSessions s) (developerSnapshots s (pendingSessions s))) :=
  ⟨hjobs, rfl, h, fun _ hmem => listed_of_mem_developerSnapshots h hmem,
    fun _ _ hregistered howner => mem_developerSnapshots (mem_pendingSessions h hregistered) howner⟩

theorem check_jobs (q : Queries) (jobs : ℕ) : (q.check jobs).jobs = jobs := by
  unfold Queries.check
  split_ifs
  · rfl
  · rfl
  · rfl

/-- Results that are there name no check too few. -/
theorem Queries.Sound.complete {q : Queries} {results : ℕ → Option Outcome} (h : q.Sound)
    (hchecked : q.checking = .checked results) :
    ∀ index < q.jobs, results index ≠ none ∧
      (results index = some (.fulfilled true) → (index, true) ∈ q.answers) := by
  have hanswered := h.answered
  rw [hchecked] at hanswered
  intro index hindex
  obtain ⟨outcome, houtcome, hvalue⟩ := hanswered index hindex
  refine ⟨by simp [houtcome], fun hfulfilled => hvalue true ?_⟩
  rw [houtcome] at hfulfilled
  exact Option.some.inj hfulfilled

/-- Once the loop over the developers has run, every session of the tick has a confirmed owner or
has gone, and the streams of all these sessions are listed. -/
theorem developersChecked_standing {s : Server} {queries queries' : Queries} {started : Server}
    {pending : List ℕ} {snapshots : List DeveloperSnapshot} {results : ℕ → Option Outcome}
    (hsound : queries.Sound) (hchecked : queries.checking = .checked results)
    (h : Standing config queries s (.developers started pending snapshots))
    (hintact : Intact (revalidateDevelopers s snapshots results))
    (hsettled : ∀ entry ∈ snapshots.zipIdx,
      DeveloperSettled results entry (revalidateDevelopers s snapshots results))
    (hjobs : queries'.jobs =
      (reviewerSnapshots config (revalidateDevelopers s snapshots results) pending).length) :
    Standing config queries' (revalidateDevelopers s snapshots results)
      (.reviewers started (verified snapshots queries.answers)
        (revalidateDevelopers s snapshots results)
        (reviewerSnapshots config (revalidateDevelopers s snapshots results) pending)) := by
  obtain ⟨hjobs', hpending, hstarted, -, htaken⟩ := h
  refine ⟨hjobs, fun key check hregistered howner => ?_, ?_⟩
  · obtain ⟨index, hindex, hentry⟩ := List.mem_iff_getElem.1 (htaken key check hregistered howner)
    have hmem : (snapshots[index], index) ∈ snapshots.zipIdx := by
      rw [List.mem_zipIdx_iff_getElem?]
      exact List.getElem?_eq_getElem hindex
    rcases hsettled _ hmem with hfulfilled | hgone
    · have hanswer := (hsound.complete hchecked index (by omega)).2 hfulfilled
      left
      simp only [verified, List.mem_map, List.mem_filter, decide_eq_true_eq]
      refine ⟨(snapshots[index], index), ⟨hmem, hanswer⟩, ?_⟩
      simp [hentry]
    · right
      simpa [hentry] using hgone
  · intro key streamId object check hregistered hopen hcheck
    refine mem_reviewerSnapshots hintact ?_ hopen hcheck
    rw [hpending]
    exact mem_pendingSessions hstarted hregistered

theorem Sound.step {label : Label} (h : Sound config s) (hstep : step config s label = some s') :
    Sound config s' := by
  unfold Revalidation.step at hstep
  cases label with
  | gateway label =>
    obtain ⟨gateway, hgateway, rfl⟩ := Option.map_eq_some_iff.1 hstep
    have hprogress := Server.step_progress h.intact.kept h.intact.placed hgateway
    exact ⟨⟨Server.step_kept h.intact.kept hgateway, hprogress.placed⟩, h.queries,
      h.standing.later hprogress.later⟩
  | tick =>
    dsimp only at hstep
    split at hstep
    · rename_i hround
      have hstanding := h.standing
      rw [hround] at hstanding
      obtain ⟨results, hchecked⟩ := hstanding
      cases hstep
      refine ⟨h.intact, h.queries.check ?_ _, tick_standing h.intact (check_jobs _ _)⟩
      rw [hchecked]
      rfl
    · cases hstep
      exact h
  | query event =>
    obtain ⟨queries, hqueries, rfl⟩ := Option.map_eq_some_iff.1 hstep
    exact ⟨h.intact, h.queries.step hqueries, h.standing.query hqueries⟩
  | developersChecked =>
    dsimp only at hstep
    split at hstep
    · rename_i started pending snapshots results hround hchecked
      have hstanding := h.standing
      rw [hround] at hstanding
      have hresults : ∀ index < snapshots.length, results index ≠ none := fun index hindex =>
        (h.queries.complete hchecked index (hstanding.1.symm ▸ hindex)).1
      obtain ⟨hintact, hlater, hsettled⟩ := revalidateDevelopers_settled config.toServerConfig
        hresults ⟨h.intact, hstanding.2.2.2.1⟩
      cases hstep
      refine ⟨hintact, h.queries.check ?_ _, developersChecked_standing h.queries hchecked
        hstanding hintact hsettled (check_jobs _ _)⟩
      rw [hchecked]
      rfl
    · cases hstep
  | reviewersChecked now =>
    dsimp only at hstep
    split at hstep
    · rename_i started known checked snapshots results hround hchecked
      have hstanding := h.standing
      rw [hround] at hstanding
      have hresults : ∀ index < snapshots.length, results index ≠ none := fun index hindex =>
        (h.queries.complete hchecked index (hstanding.1.symm ▸ hindex)).1
      have hloop := @revalidateReviewers_settled config _ results now snapshots hresults h.intact
      cases hstep
      exact ⟨hloop.1, h.queries, results, hchecked⟩
    · cases hstep

end Rounds

section Runs

variable (config : Config) (initialKillSwitch : Bool) (startedAt : ℕ)

theorem run_sound {schedule : List Label} {s : System}
    (hrun : Execution.run (step config) (start initialKillSwitch startedAt) schedule = some s) :
    Sound config s :=
  Execution.invariant_of_run (fun _ _ _ h hstep => h.step hstep)
    (start_sound config initialKillSwitch startedAt) hrun

/-- A round fails closed. Whatever the gateway did while its queries ran and however they ended,
once it is over a session that was registered at its tick is on the same transport only if its own
owner's check was answered true, and a stream that was open in such a session when the streams were
listed is still open only if its own reviewer's check was. -/
theorem run_revalidation_fails_closed {schedule : List Label} {s s' : System} {now : ℕ → ℕ}
    (hrun : Execution.run (step config) (start initialKillSwitch startedAt) schedule = some s)
    (hstep : step config s (.reviewersChecked now) = some s') :
    ∃ started verified checked snapshots, s.round = .reviewers started verified checked snapshots ∧
      (∀ key check, started.gateway.isRegistered key = true →
        (started.gateway.heap key).owner = some check →
        s'.gateway.gateway.isCurrentGatewaySessionTransport key
          (started.gateway.captureGatewayTransport key) = true → (key, check) ∈ verified) ∧
      ∀ key streamId object check, started.gateway.isRegistered key = true →
        (checked.streams key).lookup streamId = some object →
        config.reviewer object = some check →
        s'.gateway.isCurrentGatewaySessionStream object = true →
        ∃ index, snapshots[index]? = some ⟨object, check⟩ ∧ (index, true) ∈ s.queries.answers := by
  have hsound := run_sound config initialKillSwitch startedAt hrun
  have hstanding := hsound.standing
  simp only [step] at hstep
  split at hstep
  · rename_i started known checked snapshots results hround hchecked
    rw [hround] at hstanding
    obtain ⟨hjobs, hverified, hopen⟩ := hstanding
    have hresults : ∀ index < snapshots.length, results index ≠ none := fun index hindex =>
      (hsound.queries.complete hchecked index (hjobs.symm ▸ hindex)).1
    have hloop := @revalidateReviewers_settled config _ results now snapshots hresults hsound.intact
    obtain ⟨-, hrecedes, hsettled⟩ := hloop
    cases hstep
    refine ⟨started, known, checked, snapshots, hround, ?_, ?_⟩
    · intro key check hregistered howner hcurrent
      rcases hverified key check hregistered howner with hknown | hgone
      · exact hknown
      · have hstale := (hgone.later hrecedes.gateway.later).not_current
        rw [hcurrent] at hstale
        cases hstale
    · intro key streamId object check hregistered hlookup hcheck hcurrent
      obtain ⟨index, hindex, hentry⟩ :=
        List.mem_iff_getElem.1 (hopen key streamId object check hregistered hlookup hcheck)
      refine ⟨index, by rw [List.getElem?_eq_getElem hindex, hentry], ?_⟩
      have hmem : (snapshots[index], index) ∈ snapshots.zipIdx := by
        rw [List.mem_zipIdx_iff_getElem?]
        exact List.getElem?_eq_getElem hindex
      rcases hsettled _ hmem with hfulfilled | hclosed
      · exact (hsound.queries.complete hchecked index (hjobs.symm ▸ hindex)).2 hfulfilled
      · dsimp only at hclosed
        rw [hentry, hcurrent] at hclosed
        cases hclosed
  · cases hstep

/-- The loop over the developers ends exactly those sessions that are still on the transport of the
tick and whose own check was not answered true. Every other one keeps its life cycle and streams,
also one that was refused but resumed on another transport while the query ran. -/
theorem run_revalidation_exact {schedule : List Label} {s s' : System}
    (hrun : Execution.run (step config) (start initialKillSwitch startedAt) schedule = some s)
    (hstep : step config s .developersChecked = some s') :
    ∃ started pending snapshots results, s.round = .developers started pending snapshots ∧
      s.queries.checking = .checked results ∧
      ∀ key, s.gateway.gateway.isRegistered key = true →
        (s'.gateway.gateway.isRegistered key = false ↔
          ∃ entry ∈ snapshots.zipIdx, Refused s.gateway results key entry) ∧
        (s'.gateway.gateway.isRegistered key = true → Spared key s.gateway s'.gateway) := by
  have hsound := run_sound config initialKillSwitch startedAt hrun
  have hstanding := hsound.standing
  simp only [step] at hstep
  split at hstep
  · rename_i started pending snapshots results hround hchecked
    rw [hround] at hstanding
    obtain ⟨hjobs, -, -, hlisted, -⟩ := hstanding
    cases hstep
    refine ⟨started, pending, snapshots, results, hround, hchecked, fun key hregistered => ?_⟩
    have hentries : ∀ entry ∈ snapshots.zipIdx,
        Listed s.gateway entry.1.session entry.1.transport ∧ results entry.2 ≠ none := by
      intro entry hentry
      obtain ⟨hindex, hsnapshot⟩ := List.mem_zipIdx' hentry
      refine ⟨hlisted entry.1 ?_, (hsound.queries.complete hchecked entry.2 (hjobs ▸ hindex)).1⟩
      rw [hsnapshot]
      exact List.getElem_mem hindex
    obtain ⟨hends, hspares⟩ :=
      revalidateDevelopers_exact config.toServerConfig hentries hsound.intact hregistered
    by_cases hrefused : ∃ entry ∈ snapshots.zipIdx, Refused s.gateway results key entry
    · have hended : (revalidateDevelopers s.gateway snapshots results).gateway.isRegistered key =
          false := hends hrefused
      refine ⟨⟨fun _ => hrefused, fun _ => hended⟩, fun hback => ?_⟩
      dsimp only at hback
      rw [hended] at hback
      cases hback
    · have hspared := hspares fun entry hentry hentry' => hrefused ⟨entry, hentry, hentry'⟩
      refine ⟨⟨fun hended => ?_, fun h => absurd h hrefused⟩, fun _ => hspared⟩
      exact absurd ((hspared.registered.trans hregistered).symm.trans hended) (by simp)
  · cases hstep

/-- In every run, no more than four queries are under way at once, also counting those of earlier
rounds that ran into their deadline, and a finished check has its own outcome for every subject. -/
theorem run_queries_bounded {schedule : List Label} {s : System}
    (hrun : Execution.run (step config) (start initialKillSwitch startedAt) schedule = some s) :
    s.queries.retained + s.queries.checking.awaited ≤ authorizationRevalidationConcurrency ∧
      ∀ results, s.queries.checking = .checked results → ∀ index < s.queries.jobs,
        ∃ outcome, results index = some outcome ∧
          ∀ value, outcome = .fulfilled value → (index, value) ∈ s.queries.answers := by
  have hsound := (run_sound config initialKillSwitch startedAt hrun).queries
  refine ⟨hsound.counted ▸ hsound.limit, fun results hchecked => ?_⟩
  have hanswered := hsound.answered
  rwa [hchecked] at hanswered

end Runs

section Scenario

def closedServer : Config where
  ctx := { openGateway with requireAuthorization := true }
  admission := DEFAULT_ADMISSION_CONFIG
  limits := Server.openServer.limits
  authorizationMaxAgeMs := 60000
  reviewer object := some ⟨object, 1⟩

/-- The tunnel of a developer is active, and two reviewers have a stream each. -/
def reviewed : List Server.Label :=
  [.upgradeCarrier 0 0 true true, .carrierAuthorized 0 0 true true (some ⟨⟨7, 1⟩, false, 5⟩)] ++
    Server.activation.tail ++ Server.openOne 1 ++ Server.openOne 2

/-- The developer is confirmed. -/
def developerRound : List Label :=
  reviewed.map .gateway ++ [.tick, .query (.batchSettles (.results [true]))]

/-- The batch for the reviewers fails; of the two queries one is answered and one times out. -/
def reviewerRound : List Label :=
  developerRound ++ [.developersChecked, .query (.batchSettles (.rejected false)),
    .query .fallsBack, .query (.settles 0 (some true)), .query (.expires 1),
    .query (.proceeds 0), .query (.proceeds 0), .query .joins]

theorem run_revalidation_fails_closed_reviewers :
    ∃ s s', Execution.run (step closedServer) (start false 0) reviewerRound = some s ∧
      step closedServer s (.reviewersChecked fun _ => 3) = some s' ∧
      s'.gateway.isCurrentGatewaySessionStream 0 = true ∧
      s'.gateway.isCurrentGatewaySessionStream 1 = false ∧
      ∃ index, (index, true) ∈ s.queries.answers := by
  have hobserved : (Execution.run (step closedServer) (start false 0) reviewerRound).bind (fun s =>
      (step closedServer s (.reviewersChecked fun _ => 3)).map fun s' =>
        ((s'.gateway.isCurrentGatewaySessionStream 0, s'.gateway.isCurrentGatewaySessionStream 1),
          match s.round with
          | .reviewers started _ checked _ =>
            decide (started.gateway.isRegistered 0 = true ∧ (checked.streams 0).lookup 3 = some 0)
          | _ => false)) = some ((true, false), true) := by
    decide +kernel
  obtain ⟨s, hrun, hobserved⟩ := Option.bind_eq_some_iff.mp hobserved
  obtain ⟨s', hstep, hobserved⟩ := Option.map_eq_some_iff.mp hobserved
  simp only [Prod.mk.injEq] at hobserved
  obtain ⟨⟨hopen, hclosed⟩, hlisted⟩ := hobserved
  refine ⟨s, s', hrun, hstep, hopen, hclosed, ?_⟩
  obtain ⟨started, known, checked, snapshots, hround, -, hstreams⟩ :=
    run_revalidation_fails_closed closedServer false 0 hrun hstep
  rw [hround] at hlisted
  simp only [decide_eq_true_eq] at hlisted
  obtain ⟨index, -, hanswer⟩ := hstreams 0 3 0 ⟨0, 1⟩ hlisted.1 hlisted.2 rfl hopen
  exact ⟨index, hanswer⟩

theorem run_revalidation_exact_developer :
    ∃ s s', Execution.run (step closedServer) (start false 0) developerRound = some s ∧
      step closedServer s .developersChecked = some s' ∧
      (s'.gateway.streams 0).entries.length = 2 := by
  have hobserved : (Execution.run (step closedServer) (start false 0) developerRound).bind (fun s =>
      (step closedServer s .developersChecked).map fun s' =>
        (s.gateway.gateway.isRegistered 0, s'.gateway.gateway.isRegistered 0,
          (s.gateway.streams 0).entries.length)) = some (true, true, 2) := by
    decide +kernel
  obtain ⟨s, hrun, hobserved⟩ := Option.bind_eq_some_iff.mp hobserved
  obtain ⟨s', hstep, hobserved⟩ := Option.map_eq_some_iff.mp hobserved
  simp only [Prod.mk.injEq] at hobserved
  obtain ⟨hbefore, hafter, hcount⟩ := hobserved
  refine ⟨s, s', hrun, hstep, ?_⟩
  obtain ⟨_, _, _, _, -, -, hexact⟩ := run_revalidation_exact closedServer false 0 hrun hstep
  rw [((hexact 0 hbefore).2 hafter).streams]
  exact hcount

theorem run_queries_bounded_reviewers :
    ∃ s, Execution.run (step closedServer) (start false 0) reviewerRound = some s ∧
      s.queries.retained = 1 ∧ s.queries.retained + s.queries.checking.awaited ≤ 4 := by
  have hobserved : (Execution.run (step closedServer) (start false 0) reviewerRound).map
      (fun s => s.queries.retained) = some 1 := by
    decide +kernel
  obtain ⟨s, hrun, hretained⟩ := Option.map_eq_some_iff.mp hobserved
  exact ⟨s, hrun, hretained, (run_queries_bounded closedServer false 0 hrun).1⟩

end Scenario

end Lotur.Gateway.Revalidation
