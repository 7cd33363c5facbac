import Lotur.Client.Credit
import Lotur.Gateway.Credit
import Lotur.Tunnel.System

/-! No DATA frame of an honest peer meets a full receive window, as long as streams end with all
their bytes credited and WINDOW_UPDATE does not run ahead of the window it speaks for. -/
namespace Lotur.Tunnel

open CreditProtocol

/-- No side failed because its receive window turned DATA away. -/
def NoRejection (s : State) : Prop :=
  (∀ fault ∈ s.gatewayFailure, fault.rejectedData = false) ∧
    ∀ fault ∈ s.clientFailure, fault.rejectedData = false

/-- OPEN_HTTP never offers more than the window that the gateway opens for the response. -/
def WindowsOffered (outbox : List StreamFrame) : Prop :=
  ∀ frame ∈ outbox, ∀ metadata, frame.body = .openHttp (.ok metadata) →
    metadata.initialWindowBytes ≤ INITIAL_STREAM_WINDOW_BYTES

/-- The side that is alive is sound, and its receive window is covered by what the other side
has outstanding. -/
structure Accounted (s : State) : Prop where
  gatewaySound : s.gatewayFailure = none → s.gateway.Sound
  clientSound : s.clientFailure = none → s.client.Sound
  gateway : s.gatewayFailure = none → Accounts.Covered s.gateway.accounts s.client.accounts
  client : s.clientFailure = none → Accounts.Covered s.client.accounts s.gateway.accounts
  windows : WindowsOffered s.gateway.outbox
  accepted : NoRejection s

def carriesData : List StreamFrame → Bool
  | ⟨_, .data _⟩ :: _ => true
  | _ => false

/-- A stream that goes because both its sides ended has nothing outstanding. -/
def EndsSettled (s : State) : Label → Prop
  | .gateway event => s.gateway.Settled event
  | .client event => s.client.Settled event
  | .toGateway => True
  | .toClient => True

/-- The client's window counts few enough frames for the next one. -/
def FramesFit (s : State) : Label → Prop
  | .toClient => carriesData s.gateway.outbox = true →
    s.client.tables.inboundFlow.pendingFrames < s.client.tables.inboundFlow.maxPendingFrames
  | _ => True

/-- DATA is handled after the bytes of every WINDOW_UPDATE that its sender has seen went back
into the window. -/
def CreditRestored (s : State) : Label → Prop
  | .toGateway => carriesData s.client.outbox = true → s.gateway.Repaid
  | .toClient => carriesData s.gateway.outbox = true → s.client.Repaid
  | _ => True

variable {limits : Limits} {s s' : State}

theorem WindowsOffered.append {outbox frames : List StreamFrame} (h : WindowsOffered outbox)
    (hframes : WindowsOffered frames) : WindowsOffered (outbox ++ frames) := by
  intro frame hframe
  rcases List.mem_append.mp hframe with hmem | hmem
  · exact h frame hmem
  · exact hframes frame hmem

theorem WindowsOffered.of_answers {frames : List StreamFrame}
    (h : ∀ frame ∈ frames, frame.IsAnswer) : WindowsOffered frames := by
  intro frame hframe metadata hbody
  rcases h frame hframe with ⟨bytes, hanswer⟩ | ⟨code, hanswer⟩
  · rw [hanswer] at hbody
    cases hbody
  · rw [hanswer] at hbody
    cases hbody

theorem WindowsOffered.single {i : ℕ} {body : FrameBody}
    (h : ∀ metadata, body = .openHttp (.ok metadata) →
      metadata.initialWindowBytes ≤ INITIAL_STREAM_WINDOW_BYTES) :
    WindowsOffered [⟨i, body⟩] := by
  intro frame hframe metadata hbody
  rw [List.mem_singleton.mp hframe] at hbody
  exact h metadata hbody

theorem gateway_windows {e e' : Gateway.Endpoint} {event : Gateway.Endpoint.Event}
    (h : WindowsOffered e.outbox) (hstep : e.step limits.gateway event = some (.ok e')) :
    WindowsOffered e'.outbox := by
  by_cases hopens : ∃ kind methodAllowsBody, event = .openStream kind methodAllowsBody
  · obtain ⟨kind, methodAllowsBody, rfl⟩ := hopens
    simp only [Gateway.Endpoint.step] at hstep
    obtain ⟨opened, hopen, hok⟩ := Option.map_eq_some_iff.mp hstep
    cases hok
    obtain ⟨-, i, streamIds, outboundFlow, settled, inboundFlow, -, -, -, rfl⟩ :=
      Gateway.Endpoint.openStream_some hopen
    refine h.append (WindowsOffered.single ?_)
    rintro metadata heq
    cases heq
    exact le_rfl
  by_cases hgranted : event = .sendGranted
  · subst hgranted
    obtain ⟨i, bytes, grants, -, rfl⟩ := Gateway.Endpoint.sendGranted_ok hstep
    exact h.append (WindowsOffered.single fun _ heq => by cases heq)
  by_cases hends : ∃ i, event = .requestEnd i
  · obtain ⟨i, rfl⟩ := hends
    obtain ⟨-, rfl⟩ := Gateway.Endpoint.requestEnd_ok hstep
    exact h.append (WindowsOffered.single fun _ heq => by cases heq)
  · obtain ⟨frames, houtbox, hanswers⟩ := (Gateway.Endpoint.event_answers hstep
      (fun kind methodAllowsBody heq => hopens ⟨kind, methodAllowsBody, heq⟩) hgranted
      (fun i heq => hends ⟨i, heq⟩)).outbox
    rw [houtbox]
    exact h.append (WindowsOffered.of_answers hanswers)

theorem WindowsOffered.tail {frame : StreamFrame} {outbox : List StreamFrame}
    (h : WindowsOffered (frame :: outbox)) : WindowsOffered outbox :=
  fun other hother => h other (List.mem_cons_of_mem frame hother)

theorem gateway_accounted (h : Accounted s) {event : Gateway.Endpoint.Event}
    (hsettled : s.gateway.Settled event) (hstep : step limits s (.gateway event) = some s') :
    Accounted s' := by
  obtain ⟨halive, ⟨gateway, hok, rfl⟩ | ⟨fault, hfault, rfl⟩⟩ := step_gateway hstep
  · obtain ⟨hsound, hmoves⟩ :=
      Gateway.Endpoint.event_advances (h.gatewaySound halive) hsettled hok
    exact {
      gatewaySound := fun _ => hsound
      clientSound := h.clientSound
      gateway := fun _ => (h.gateway halive).moved hmoves
      client := fun hclient => (h.client hclient).peerMoved hmoves
      windows := gateway_windows h.windows hok
      accepted := h.accepted }
  · refine { h with gatewaySound := ?_, gateway := ?_, accepted := ⟨?_, h.accepted.2⟩ }
    · nofun
    · nofun
    · intro other hother
      cases hother
      exact Gateway.Endpoint.event_thrown hfault

theorem client_accounted (h : Accounted s) {event : Client.Endpoint.Event}
    (hsettled : s.client.Settled event) (hstep : step limits s (.client event) = some s') :
    Accounted s' := by
  obtain ⟨halive, ⟨client, hok, rfl⟩ | ⟨fault, hfault, rfl⟩⟩ := step_client hstep
  · obtain ⟨hsound, hmoves⟩ :=
      Client.Endpoint.event_advances (h.clientSound halive) hsettled hok
    exact {
      gatewaySound := h.gatewaySound
      clientSound := fun _ => hsound
      gateway := fun hgateway => (h.gateway hgateway).peerMoved hmoves
      client := fun _ => (h.client halive).moved hmoves
      windows := h.windows
      accepted := h.accepted }
  · refine { h with clientSound := ?_, client := ?_, accepted := ⟨h.accepted.1, ?_⟩ }
    · nofun
    · nofun
    · intro other hother
      cases hother
      exact Client.Endpoint.event_thrown hfault

theorem toGateway_accounted (h : Accounted s) (hrestored : CreditRestored s .toGateway)
    (hstep : step limits s .toGateway = some s') : Accounted s' := by
  obtain ⟨halive, frame, outbox, houtbox, hhandled⟩ := step_toGateway hstep
  have hsound := h.gatewaySound halive
  have hpopped : s.client.accounts.outbox = frame :: outbox := houtbox
  have hclientSound : s.clientFailure = none →
      ({ s.client with outbox } : Client.Endpoint).Sound :=
    fun hclient => (h.clientSound hclient).popped outbox
  obtain ⟨gateway, hok, rfl⟩ | ⟨fault, hfault, rfl⟩ := hhandled
  · obtain ⟨hsound', htakes⟩ := Gateway.Endpoint.frame_taken hsound hok
    obtain ⟨frames, hframes, hanswers⟩ := Gateway.Endpoint.handleClientFrame_outbox hok
    refine ⟨fun _ => hsound', hclientSound, fun _ => (h.gateway halive).taken hpopped htakes, ?_, ?_,
      h.accepted⟩
    · exact fun hclient => (h.client hclient).gave hpopped htakes
    · show WindowsOffered gateway.outbox
      rw [hframes]
      exact h.windows.append (WindowsOffered.of_answers hanswers)
  · refine ⟨nofun, hclientSound, nofun, ?_, h.windows, ⟨?_, h.accepted.2⟩⟩
    · exact fun hclient => (h.client hclient).dropped hpopped
    · intro other hother
      cases hother
      by_contra hrejected
      obtain ⟨bytes, error, hbody, hmem, hconsume⟩ :=
        Gateway.Endpoint.frame_rejected hfault (by simpa using hrejected)
      obtain ⟨streamId, body⟩ := frame
      dsimp only at hbody hmem hconsume
      subst hbody
      have hrepaid : s.gateway.Repaid := hrestored (by rw [houtbox]; rfl)
      obtain ⟨inboundFlow, haccepted⟩ := Gateway.Endpoint.consume_of_covered hsound
        (h.gateway halive) hpopped hmem hrepaid
      rw [haccepted] at hconsume
      cases hconsume

theorem toClient_accounted (h : Accounted s) (hfit : FramesFit s .toClient)
    (hrestored : CreditRestored s .toClient)
    (hstep : step limits s .toClient = some s') : Accounted s' := by
  obtain ⟨halive, frame, outbox, houtbox, hhandled⟩ := step_toClient hstep
  have hsound := h.clientSound halive
  have hpopped : s.gateway.accounts.outbox = frame :: outbox := houtbox
  have hwindows := h.windows
  rw [houtbox] at hwindows
  have hgatewaySound : s.gatewayFailure = none →
      ({ s.gateway with outbox } : Gateway.Endpoint).Sound :=
    fun hgateway => (h.gatewaySound hgateway).popped outbox
  obtain ⟨client, hok, rfl⟩ | ⟨fault, hfault, rfl⟩ := hhandled
  · obtain ⟨hsound', htakes⟩ := Client.Endpoint.frame_taken hsound
      (hwindows frame List.mem_cons_self) rfl hok
    exact ⟨hgatewaySound, fun _ => hsound', fun hgateway => (h.gateway hgateway).gave hpopped htakes,
      fun _ => (h.client halive).taken hpopped htakes, hwindows.tail, h.accepted⟩
  · refine ⟨hgatewaySound, nofun,
      fun hgateway => (h.gateway hgateway).dropped hpopped, nofun,
      hwindows.tail, ⟨h.accepted.1, ?_⟩⟩
    intro other hother
    cases hother
    by_contra hrejected
    obtain ⟨bytes, error, hbody, hactive, hconsume⟩ :=
      Client.Endpoint.frame_rejected hfault (by simpa using hrejected)
    obtain ⟨streamId, body⟩ := frame
    dsimp only at hbody hactive hconsume
    subst hbody
    have hdata : carriesData s.gateway.outbox = true := by
      rw [houtbox]
      rfl
    obtain ⟨inboundFlow, haccepted⟩ := Client.Endpoint.consume_of_covered hsound
      (h.client halive) hpopped hactive (hrestored hdata) (hfit hdata)
    rw [haccepted] at hconsume
    cases hconsume

theorem accounted_step {label : Label} (h : Accounted s) (hsettled : EndsSettled s label)
    (hfit : FramesFit s label) (hrestored : CreditRestored s label)
    (hstep : step limits s label = some s') : Accounted s' := by
  cases label with
  | gateway event => exact gateway_accounted h hsettled hstep
  | client event => exact client_accounted h hsettled hstep
  | toGateway => exact toGateway_accounted h hrestored hstep
  | toClient => exact toClient_accounted h hfit hrestored hstep

theorem amounts_empty {α : Type} (amount : α → ℕ) : amounts amount (∅ : StreamMap α) = 0 := by
  ext i
  exact amounts_of_not_mem (AList.notMem_empty i)

/-- Two ends on which nothing has happened. -/
theorem covered_of_fresh {accounts peer : Accounts} (houtstanding : peer.outboundFlow.outstanding = 0)
    (hgrants : peer.grants = []) (hpeer : peer.outbox = []) (hheld : accounts.held = 0)
    (hcrediting : accounts.crediting = ∅) (houtbox : accounts.outbox = []) :
    Accounts.Covered accounts peer := by
  have howed := Accounts.owed_of_none_crediting hcrediting
  refine ⟨?_, ?_, ?_, ?_, ?_, ?_, ?_⟩
  · intro i
    simp [Accounts.port, houtstanding]
  · simp [Accounts.port, houtstanding]
  · intro i _ _
    simp [Accounts.port, houtstanding, hgrants, hpeer, hheld, houtbox]
  · intro i
    rw [howed]
    exact Nat.zero_le _
  · intro i _
    simp [Accounts.port, hheld]
  · intro i hi
    simp [Accounts.port, houtbox] at hi
  · simp [Accounts.port, hpeer, CreditProtocol.Admissible]

theorem start_gateway_sound : start.gateway.Sound := by
  have houtstanding : start.gateway.outboundFlow.outstanding = 0 := amounts_empty _
  have hheld : start.gateway.inboundFlow.held = 0 := amounts_empty _
  refine ⟨⟨⟨?_, ?_⟩, ?_, ?_, ?_, ?_⟩, ⟨⟨?_, ?_⟩, ?_, ?_, ?_, ?_, ?_, ?_⟩⟩
  · show _ + start.gateway.outboundFlow.outstanding.degree = _
    rw [houtstanding]
    rfl
  · intro i credit hlookup
    cases hlookup
  · intro grant hgrant
    cases hgrant
  · intro i _
    exact Nat.zero_le _
  · intro i hi
    cases hi
  · intro i _
    show start.gateway.inboundFlow.held i = 0
    rw [hheld]
    rfl
  · rw [hheld]
    rfl
  · intro i credit hlookup
    cases hlookup
  · intro i
    exact ⟨fun hi => absurd hi (AList.notMem_empty i), fun hi => absurd hi (Finset.notMem_empty i)⟩
  · intro i hi
    exact absurd hi (AList.notMem_empty i)
  · intro i hi
    cases hi
  · intro i hi
    cases hi
  · intro i _
    rfl
  · exact Or.inr rfl

theorem start_client_sound : start.client.Sound := by
  have houtstanding : start.client.tables.outboundFlow.outstanding = 0 := amounts_empty _
  have hheld : start.client.tables.inboundFlow.held = 0 := amounts_empty _
  refine ⟨⟨⟨?_, ?_⟩, ?_, ?_, ?_, ?_⟩, ⟨⟨rfl, ?_, ?_⟩, ?_, ?_, ?_, ?_, ?_⟩⟩
  · show _ + start.client.tables.outboundFlow.outstanding.degree = _
    rw [houtstanding]
    rfl
  · intro i credit hlookup
    cases hlookup
  · intro grant hgrant
    cases hgrant
  · intro i _
    exact Nat.zero_le _
  · intro i hi
    cases hi
  · intro i _
    show start.client.tables.inboundFlow.held i = 0
    rw [hheld]
    rfl
  · rw [hheld]
    rfl
  · intro i stream hlookup
    cases hlookup
  · intro i
    exact ⟨fun hi => absurd hi (AList.notMem_empty i), fun hi => absurd hi (Finset.notMem_empty i)⟩
  · intro i hi
    exact absurd hi (AList.notMem_empty i)
  · intro i hi
    cases hi
  · intro i hi
    cases hi
  · intro i _
    rfl

theorem start_accounted : Accounted start where
  gatewaySound := fun _ => start_gateway_sound
  clientSound := fun _ => start_client_sound
  gateway := fun _ => covered_of_fresh (amounts_empty _) rfl rfl (amounts_empty _) rfl rfl
  client := fun _ => covered_of_fresh (amounts_empty _) rfl rfl (amounts_empty _) rfl rfl
  windows := nofun
  accepted := ⟨nofun, nofun⟩

def resetFree (outbox : List StreamFrame) : Prop :=
  ∀ frame ∈ outbox, ∀ code, frame.body ≠ .resetStream (.ok code)

/-- While no RESET_STREAM of the sender is on its way, its connection credit together with the
DATA and the credit on their way is within the connection credit of the receiver. -/
structure CreditAgrees (s : State) : Prop where
  gateway : resetFree s.client.outbox →
    s.client.tables.outboundFlow.connectionAvailable + ∑ i ∈ s.gateway.streams,
        (dataBytes i s.client.outbox + updateBytes i s.gateway.outbox) ≤
      s.gateway.inboundFlow.connectionAvailable
  client : resetFree s.gateway.outbox →
    s.gateway.outboundFlow.connectionAvailable + ∑ i ∈ s.client.tables.streamLifecycle.active,
        (dataBytes i s.gateway.outbox + updateBytes i s.client.outbox) ≤
      s.client.tables.inboundFlow.connectionLimit -
        s.client.tables.inboundFlow.connectionConsumedBytes

theorem agrees_of_accounted (h : Accounted s) (hgateway : s.gatewayFailure = none)
    (hclient : s.clientFailure = none) (hgatewayIdle : s.gateway.crediting = ∅)
    (hclientIdle : s.client.crediting = ∅) : CreditAgrees s := by
  have hg := h.gatewaySound hgateway
  have hc := h.clientSound hclient
  refine ⟨fun hresets => ?_, fun hresets => ?_⟩
  · have hagreement := (h.gateway hgateway).agreement s.gateway.streams
      (fun i hi => Gateway.Endpoint.not_retired_of_mem hi) (by
        intro i hi
        by_contra hgone
        exact hi (amounts_of_not_mem fun hmem =>
          hgone ((hg.coherent.inboundStreams i).mp hmem))) hgatewayIdle hresets
    have hsender := hc.accounts.balanced.connection
    have hreceiver := hg.coherent.inbound.connection
    have hagreement' : s.gateway.inboundFlow.held.degree + _ ≤
      s.client.tables.outboundFlow.outstanding.degree := hagreement
    have hsender' : s.client.tables.outboundFlow.connectionAvailable +
      s.client.tables.outboundFlow.outstanding.degree = _ := hsender
    have houtboxes : ∀ i, dataBytes i s.client.accounts.outbox +
      updateBytes i s.gateway.accounts.outbox = dataBytes i s.client.outbox +
        updateBytes i s.gateway.outbox := fun _ => rfl
    simp only [houtboxes] at hagreement'
    omega
  · have hagreement := (h.client hclient).agreement s.client.tables.streamLifecycle.active
      (fun i hi => Client.Endpoint.not_retired_of_active hi) (by
        intro i hi
        by_contra hgone
        exact hi (amounts_of_not_mem fun hmem =>
          hgone ((hc.coherent.inboundStreams i).mp hmem))) hclientIdle hresets
    have hsender := hg.accounts.balanced.connection
    have hreceiver := hc.coherent.inbound.connection
    have hlimit := hc.coherent.inbound.limit
    have hagreement' : s.client.tables.inboundFlow.held.degree + _ ≤
      s.gateway.outboundFlow.outstanding.degree := hagreement
    have hsender' : s.gateway.outboundFlow.connectionAvailable +
      s.gateway.outboundFlow.outstanding.degree = _ := hsender
    have houtboxes : ∀ i, dataBytes i s.gateway.accounts.outbox +
      updateBytes i s.client.accounts.outbox = dataBytes i s.gateway.outbox +
        updateBytes i s.client.outbox := fun _ => rfl
    simp only [houtboxes] at hagreement'
    omega

instance (s : State) : (label : Label) → Decidable (EndsSettled s label)
  | .gateway event => inferInstanceAs (Decidable (s.gateway.Settled event))
  | .client event => inferInstanceAs (Decidable (s.client.Settled event))
  | .toGateway => isTrue trivial
  | .toClient => isTrue trivial

instance (s : State) : (label : Label) → Decidable (FramesFit s label)
  | .toClient => inferInstanceAs (Decidable (_ → _ < _))
  | .gateway _ => isTrue trivial
  | .client _ => isTrue trivial
  | .toGateway => isTrue trivial

instance (s : State) : (label : Label) → Decidable (CreditRestored s label)
  | .toGateway => inferInstanceAs (Decidable (_ → s.gateway.Repaid))
  | .toClient => inferInstanceAs (Decidable (_ → s.client.Repaid))
  | .gateway _ => isTrue trivial
  | .client _ => isTrue trivial

/-- The send of WINDOW_UPDATE and the release behind it are one step. -/
def Label.isWhole : Label → Bool
  | .gateway event => event.isWhole
  | .client event => event.isWhole
  | .toGateway => true
  | .toClient => true

/-- With whole operations nothing is announced before it is given back. -/
structure Whole (s : State) : Prop where
  accounted : Accounted s
  gateway : s.gateway.crediting = ∅
  client : s.client.crediting = ∅

theorem whole_step (s : State) (label : Label) (s' : State) (h : Whole s)
    (hguard : label.isWhole = true ∧ EndsSettled s label ∧ FramesFit s label)
    (hstep : step limits s label = some s') : Whole s' := by
  obtain ⟨hwhole, hsettled, hfit⟩ := hguard
  have hrestored : CreditRestored s label := by
    cases label with
    | toGateway => exact fun _ => Gateway.Endpoint.repaid_of_idle h.gateway
    | toClient => exact fun _ => Client.Endpoint.repaid_of_idle h.client
    | gateway event => trivial
    | client event => trivial
  have haccounted := accounted_step h.accounted hsettled hfit hrestored hstep
  cases label with
  | gateway event =>
    obtain ⟨-, ⟨gateway, hok, rfl⟩ | ⟨fault, -, rfl⟩⟩ := step_gateway hstep
    · exact ⟨haccounted, (Gateway.Endpoint.event_crediting hwhole hok).trans h.gateway, h.client⟩
    · exact ⟨haccounted, h.gateway, h.client⟩
  | client event =>
    obtain ⟨-, ⟨client, hok, rfl⟩ | ⟨fault, -, rfl⟩⟩ := step_client hstep
    · exact ⟨haccounted, h.gateway, (Client.Endpoint.event_crediting hwhole hok).trans h.client⟩
    · exact ⟨haccounted, h.gateway, h.client⟩
  | toGateway =>
    obtain ⟨-, frame, outbox, -, ⟨gateway, hok, rfl⟩ | ⟨fault, -, rfl⟩⟩ := step_toGateway hstep
    · exact ⟨haccounted, (Gateway.Endpoint.frame_crediting hok).trans h.gateway, h.client⟩
    · exact ⟨haccounted, h.gateway, h.client⟩
  | toClient =>
    obtain ⟨-, frame, outbox, -, ⟨client, hok, rfl⟩ | ⟨fault, -, rfl⟩⟩ := step_toClient hstep
    · exact ⟨haccounted, h.gateway, (Client.Endpoint.frame_crediting hok).trans h.client⟩
    · exact ⟨haccounted, h.gateway, h.client⟩

namespace ReceiveCredit

def roomy : Limits where
  maxConcurrentStreams := 100
  maxRequestBodyBytes := 1048576
  maxFiniteResponseBytes := 1048576

def ok : ResponseHeaders where
  statusCode := 200
  declaredResponseBytes := none
  eventStream := false

/-- A stream whose response fills its window and ends, to a reviewer that reads nothing. -/
def unread (i : ℕ) : List Label :=
  [.gateway (.openStream .http true), .toClient, .gateway (.requestEnd i),
    .gateway (.endSent i), .toClient, .client (.operation i), .client (.respond i ok),
    .client (.take i 32768), .client .sendGranted, .client (.take i 32768), .client .sendGranted,
    .client (.respondEnd i), .client (.endSent i), .toGateway, .toGateway, .toGateway, .toGateway]

/-- A response of two chunks that is read before the stream ends. -/
def read (i : ℕ) : List Label :=
  [.gateway (.openStream .http true), .toClient, .gateway (.requestEnd i),
    .gateway (.endSent i), .toClient, .client (.operation i), .client (.respond i ok),
    .client (.take i 32768), .client .sendGranted, .client (.take i 32768), .client .sendGranted,
    .toGateway, .toGateway, .toGateway, .gateway (.operation i), .gateway (.operation i),
    .toClient, .toClient, .client (.respondEnd i), .client (.endSent i), .toGateway,
    .gateway (.operation i)]

/-- Four streams that were not read fill the connection window of the gateway; the client takes
their bytes back when they end, and sends one more. -/
def overcommitted : List Label :=
  unread 3 ++ unread 5 ++ unread 7 ++ unread 9 ++
    [.gateway (.openStream .http true), .toClient, .client (.respond 11 ok),
      .client (.take 11 1), .client .sendGranted, .toGateway, .toGateway]

end ReceiveCredit

namespace ReceiveCredit

/-- A response has filled its window, and the reviewer reads the first chunk. -/
def filled : List Label :=
  [.gateway (.openStream .http true), .toClient, .client (.respond 3 ok),
    .client (.take 3 32768), .client .sendGranted, .client (.take 3 32768), .client .sendGranted,
    .toGateway, .toGateway, .toGateway, .gateway (.announce 3)]

/-- The client sees the WINDOW_UPDATE and sends the next chunk. -/
def answered : List Label :=
  [.toClient, .client (.take 3 32768), .client .sendGranted, .toGateway]

end ReceiveCredit

end Lotur.Tunnel
