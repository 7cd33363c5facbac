import Lotur.Library.Execution
import Lotur.Relay.Carrier
import Lotur.Relay.StreamIds

/-! Stream numbers on one transport generation: the gateway issues an id before it sends the
OPEN, the carrier may refuse the frame, and the client insists on 1, 3, 5, … without gaps. -/
namespace Lotur.Gateway.StreamNumbering

open CarrierSocket

inductive FrameKind
  | openStream
  | data
  | endStream
  | windowUpdate
  | resetStream
  deriving DecidableEq, Repr

structure Frame where
  kind : FrameKind
  streamId : ℕ
  deriving DecidableEq, Repr

/-- The session's stream table, the request handlers by where they stand with their OPEN, and
the frames the client has `handled` or has still to read. -/
structure State where
  socket : CarrierSocket
  streamIds : GatewayStreamIds
  active : Bool
  probe : Option ℕ
  streams : Finset ℕ
  opening : Finset ℕ
  refused : Finset ℕ
  forwarding : Finset ℕ
  handled : List Frame
  inFlight : List Frame
  streamLifecycle : RemoteStreamLifecycle
  clientError : Option JsError
  deriving DecidableEq

def State.wire (s : State) : List Frame := s.handled ++ s.inFlight

def start (socket : CarrierSocket) : State where
  socket := socket
  streamIds := .new
  active := false
  probe := none
  streams := ∅
  opening := ∅
  refused := ∅
  forwarding := ∅
  handled := []
  inFlight := []
  streamLifecycle := .new
  clientError := none

inductive Label
  /-- `CONFIG_APPLIED` was accepted: the activation probe is opened. -/
  | openProbe (payloadBytes : ℕ)
  /-- The probe END was accepted: the session is `ACTIVE` and the probe is gone. -/
  | activate
  /-- A reviewer request or upgrade, with the size of its OPEN_HTTP metadata. -/
  | openHttp (payloadBytes : ℕ)
  /-- A reviewer request that finds the session's lifetime over after its id was issued. -/
  | openExpired
  | openSent (streamId : ℕ)
  /-- The catch block of a handler whose OPEN was refused or failed to be written. -/
  | openRejected (streamId payloadBytes : ℕ)
  | data (streamId payloadBytes : ℕ)
  | endStream (streamId : ℕ)
  | windowUpdate (streamId : ℕ)
  /-- A stream is cancelled locally: timers, downstream errors, limits, failed sends. -/
  | reset (streamId payloadBytes : ℕ)
  /-- A stream ends on both sides, or the client reset it. -/
  | remove (streamId : ℕ)
  | control (payloadBytes : ℕ)
  | flush (bufferedAmount : ℕ)
  | socketCloses
  | clientReceives
  | clientCloses (streamId : ℕ)
  deriving DecidableEq, Repr

/-- The client's checks of stream numbers: OPEN goes to `streamLifecycle.open`, a frame of a
retired stream is dropped, and any other needs an active stream. -/
def receiveFrame (lifecycle : RemoteStreamLifecycle) (frame : Frame) :
    Except JsError RemoteStreamLifecycle :=
  match frame.kind with
  | .openStream => lifecycle.openStream frame.streamId
  | _ =>
    if lifecycle.isRetired frame.streamId then .ok lifecycle
    else (lifecycle.requireActive frame.streamId).map fun _ => lifecycle

namespace State

def closeSocket (s : State) : State := { s with socket := { s.socket with isOpen := false } }

/-- A frame handed to the socket, or nothing when the carrier refuses it. -/
def send (s : State) (kind : FrameKind) (streamId payloadBytes : ℕ) : State :=
  match s.socket.sendCarrierFrame payloadBytes with
  | .ok socket => { s with socket := socket, inFlight := s.inFlight ++ [⟨kind, streamId⟩] }
  | .error _ => s

/-- `sendReset`: nothing on a socket that is not open, and a refused RESET closes it. -/
def sendReset (s : State) (streamId payloadBytes : ℕ) : State :=
  if !s.socket.isOpen then s
  else
    match s.socket.sendCarrierFrame payloadBytes with
    | .ok socket =>
      { s with socket := socket, inFlight := s.inFlight ++ [⟨.resetStream, streamId⟩] }
    | .error _ => s.closeSocket

/-- The new stream's handler starts its OPEN; a refusal leaves the stream in the table until
the handler's catch block runs. -/
def sendOpen (s : State) (streamId payloadBytes : ℕ) : State :=
  match s.socket.sendCarrierFrame payloadBytes with
  | .ok socket =>
    { s with
      socket := socket
      opening := insert streamId s.opening
      inFlight := s.inFlight ++ [⟨.openStream, streamId⟩] }
  | .error _ => { s with refused := insert streamId s.refused }

def accepting (s : State) (maxConcurrentStreams : ℕ) : Bool :=
  s.active && s.socket.isOpen && s.streams.card < maxConcurrentStreams

end State

/-- `none` means that the event cannot happen in this state. -/
def step (maxConcurrentStreams : ℕ) (s : State) : Label → Option State
  | .openProbe payloadBytes =>
    if s.active ∨ s.probe.isSome then none
    else
      match s.streamIds.issue with
      | .error _ => some s.closeSocket
      | .ok (streamId, streamIds) =>
        let issued := { s with streamIds := streamIds, probe := some streamId }
        -- A throw ends the receive queue, whose catch block closes the socket.
        match s.socket.sendCarrierFrame payloadBytes with
        | .ok _ => some (issued.sendOpen streamId payloadBytes)
        | .error _ => some issued.closeSocket
  | .activate =>
    if s.active ∨ s.probe = none then none else some { s with active := true, probe := none }
  | .openHttp payloadBytes =>
    if !s.accepting maxConcurrentStreams then some s
    else
      match s.streamIds.issue with
      | .error _ => some s
      | .ok (streamId, streamIds) =>
        some ({ s with streamIds := streamIds, streams := insert streamId s.streams }.sendOpen
          streamId payloadBytes)
  | .openExpired =>
    if !s.accepting maxConcurrentStreams then none
    else
      match s.streamIds.issue with
      | .error _ => none
      | .ok (_, streamIds) =>
        some { s with streamIds := streamIds, streams := ∅, active := false }.closeSocket
  | .openSent streamId =>
    if streamId ∈ s.opening then
      some { s with
        opening := s.opening.erase streamId
        forwarding := insert streamId s.forwarding }
    else none
  | .openRejected streamId payloadBytes =>
    if streamId ∈ s.opening ∨ streamId ∈ s.refused then
      let caught :=
        { s with opening := s.opening.erase streamId, refused := s.refused.erase streamId }
      if streamId ∈ s.streams then
        some ({ caught with streams := s.streams.erase streamId }.sendReset
          streamId payloadBytes)
      else some caught
    else none
  | .data streamId payloadBytes =>
    if streamId ∈ s.forwarding then some (s.send .data streamId payloadBytes) else none
  | .endStream streamId =>
    if streamId ∈ s.forwarding then some (s.send .endStream streamId 0) else none
  | .windowUpdate streamId =>
    -- Credit answers DATA of the client, which knows only streams that were opened.
    if (streamId ∈ s.streams ∨ s.probe = some streamId) ∧ streamId ∉ s.refused then
      some (s.send .windowUpdate streamId 4)
    else none
  | .reset streamId payloadBytes =>
    if streamId ∈ s.streams then
      some ({ s with streams := s.streams.erase streamId }.sendReset streamId payloadBytes)
    else none
  | .remove streamId => some { s with streams := s.streams.erase streamId }
  | .control payloadBytes =>
    match s.socket.sendCarrierFrame payloadBytes with
    | .ok socket => some { s with socket := socket }
    | .error _ => some s
  | .flush bufferedAmount =>
    if bufferedAmount ≤ s.socket.bufferedAmount then
      some { s with socket := { s.socket with bufferedAmount := bufferedAmount } }
    else none
  | .socketCloses => some s.closeSocket
  | .clientReceives =>
    match s.clientError, s.inFlight with
    | none, frame :: rest =>
      match receiveFrame s.streamLifecycle frame with
      | .ok lifecycle =>
        some { s with
          streamLifecycle := lifecycle
          handled := s.handled ++ [frame]
          inFlight := rest }
      | .error error => some { s with clientError := some error }
    | _, _ => none
  | .clientCloses streamId =>
    if streamId ∈ s.streamLifecycle.active then
      match s.streamLifecycle.close streamId with
      | .ok lifecycle => some { s with streamLifecycle := lifecycle }
      | .error error => some { s with clientError := some error }
    else none

/-- The condition under which numbering agrees: an OPEN_HTTP that is attempted fits into the
envelope and into what is left of the carrier's buffer. -/
def OpenFits (maxConcurrentStreams : ℕ) (s : State) : Label → Prop
  | .openHttp payloadBytes => s.accepting maxConcurrentStreams = true → s.socket.Fits payloadBytes
  | _ => True

instance (maxConcurrentStreams : ℕ) (s : State) (label : Label) :
    Decidable (OpenFits maxConcurrentStreams s label) :=
  match label with
  | .openHttp _ => inferInstanceAs (Decidable (_ → CarrierSocket.Fits _ _))
  | .openProbe _ | .activate | .openExpired | .openSent _ | .openRejected _ _ | .data _ _
  | .endStream _ | .windowUpdate _ | .reset _ _ | .remove _ | .control _ | .flush _
  | .socketCloses | .clientReceives | .clientCloses _ => isTrue trivial

def openIds (frames : List Frame) : List ℕ :=
  (frames.filter fun frame => frame.kind = .openStream).map Frame.streamId

/-- The first `n` odd numbers: 1, 3, 5, … -/
def oddIds (n : ℕ) : List ℕ := (List.range n).map fun i => 2 * i + 1

/-- Every frame other than an OPEN belongs to a stream whose OPEN went before it. -/
def OpenedFirst (frames : List Frame) : Prop :=
  ∀ before frame after, frames = before ++ frame :: after → frame.kind ≠ .openStream →
    frame.streamId ∈ openIds before

/-- Both ends agree on stream numbers. -/
structure Agree (s : State) : Prop where
  consecutive : ∃ n, openIds s.wire = oddIds n
  openedFirst : OpenedFirst s.wire
  accepted : s.clientError = none

section Frames

theorem openIds_append (first second : List Frame) :
    openIds (first ++ second) = openIds first ++ openIds second := by
  simp [openIds]

theorem openIds_snoc_open (frames : List Frame) (streamId : ℕ) :
    openIds (frames ++ [⟨.openStream, streamId⟩]) = openIds frames ++ [streamId] := by
  simp [openIds]

theorem openIds_snoc_other (frames : List Frame) {kind : FrameKind} (streamId : ℕ)
    (h : kind ≠ .openStream) : openIds (frames ++ [⟨kind, streamId⟩]) = openIds frames := by
  simp [openIds, h]

theorem oddIds_succ (n : ℕ) : oddIds (n + 1) = oddIds n ++ [2 * n + 1] := by
  simp [oddIds, List.range_succ]

theorem oddIds_length (n : ℕ) : (oddIds n).length = n := by simp [oddIds]

theorem mem_oddIds {n streamId : ℕ} :
    streamId ∈ oddIds n ↔ streamId % 2 = 1 ∧ streamId + 1 ≤ 2 * n := by
  simp only [oddIds, List.mem_map, List.mem_range]
  constructor
  · rintro ⟨i, hi, rfl⟩
    omega
  · rintro ⟨hodd, hle⟩
    exact ⟨streamId / 2, by omega, by omega⟩

/-- A prefix of the odd numbers is again the first few of them. -/
theorem eq_oddIds_of_append {n : ℕ} {first second : List ℕ} (h : first ++ second = oddIds n) :
    first = oddIds first.length := by
  have htake : first = (oddIds n).take first.length := by rw [← h, List.take_left]
  have hle : first.length ≤ n := by
    have := congrArg List.length h
    rw [List.length_append, oddIds_length] at this
    omega
  rw [oddIds, ← List.map_take, List.take_range, Nat.min_eq_left hle] at htake
  exact htake

theorem openedFirst_snoc {frames : List Frame} {frame : Frame} (h : OpenedFirst frames)
    (hframe : frame.kind = .openStream ∨ frame.streamId ∈ openIds frames) :
    OpenedFirst (frames ++ [frame]) := by
  intro before other after heq hkind
  rcases List.eq_nil_or_concat after with rfl | ⟨init, last, rfl⟩
  · obtain ⟨rfl, hlast⟩ := List.append_inj' heq rfl
    cases hlast
    exact hframe.resolve_left hkind
  · have hsplit : frames ++ [frame] = (before ++ other :: init) ++ [last] := by simpa using heq
    obtain ⟨hframes, -⟩ := List.append_inj' hsplit rfl
    exact h before other init hframes hkind

end Frames

/-- What a run keeps. While the socket is open every id issued so far is on the wire, so the
next OPEN is the one the client expects. -/
structure Inv (s : State) : Prop where
  numbered : ∃ n, openIds s.wire = oddIds n ∧ 2 * n ≤ 2 ^ 32 ∧
    (s.socket.isOpen = true → s.streamIds.highestIssuedStreamId = 2 * n - 1)
  openedFirst : OpenedFirst s.wire
  streamsOpened : ∀ streamId ∈ s.streams, streamId ∈ openIds s.wire
  openingOpened : ∀ streamId ∈ s.opening, streamId ∈ openIds s.wire
  forwardingOpened : ∀ streamId ∈ s.forwarding, streamId ∈ openIds s.wire
  probeOpened : s.socket.isOpen = true → ∀ streamId, s.probe = some streamId →
    streamId ∈ openIds s.wire
  noneRefused : s.refused = ∅
  highest : s.streamLifecycle.highestOpenedStreamId = 2 * (openIds s.handled).length - 1
  activeOpened : ∀ streamId ∈ s.streamLifecycle.active, streamId ∈ openIds s.handled
  accepted : s.clientError = none

theorem Inv.agree {s : State} (h : Inv s) : Agree s where
  consecutive := by
    obtain ⟨n, hn, -⟩ := h.numbered
    exact ⟨n, hn⟩
  openedFirst := h.openedFirst
  accepted := h.accepted

theorem start_inv (socket : CarrierSocket) : Inv (start socket) where
  numbered := ⟨0, rfl, by norm_num, fun _ => rfl⟩
  openedFirst := by
    intro before frame after heq
    simp [start, State.wire] at heq
  streamsOpened := by simp [start]
  openingOpened := by simp [start]
  forwardingOpened := by simp [start]
  probeOpened := by simp [start]
  noneRefused := rfl
  highest := rfl
  activeOpened := by simp [start, RemoteStreamLifecycle.new]
  accepted := rfl

section Steps

variable {s : State} {streamId payloadBytes : ℕ}

theorem closeSocket_inv (h : Inv s) : Inv s.closeSocket :=
  { h with
    numbered := by
      obtain ⟨n, hn, hle, -⟩ := h.numbered
      exact ⟨n, hn, hle, by simp [State.closeSocket]⟩
    probeOpened := by simp [State.closeSocket] }

/-- The buffered amount is the only thing about an open socket that changes. -/
theorem socket_inv {socket : CarrierSocket} (h : Inv s)
    (hopen : socket.isOpen = true → s.socket.isOpen = true) : Inv { s with socket := socket } :=
  { h with
    numbered := by
      obtain ⟨n, hn, hle, hhighest⟩ := h.numbered
      exact ⟨n, hn, hle, fun hsocket => hhighest (hopen hsocket)⟩
    probeOpened := fun hsocket => h.probeOpened (hopen hsocket) }

theorem streams_inv {streams : Finset ℕ} (h : Inv s) (hsub : streams ⊆ s.streams) :
    Inv { s with streams := streams } :=
  { h with streamsOpened := fun streamId hmem => h.streamsOpened streamId (hsub hmem) }

theorem wire_snoc (frame : Frame) :
    { s with inFlight := s.inFlight ++ [frame] }.wire = s.wire ++ [frame] := by
  simp [State.wire]

/-- A further frame of a stream that was opened may follow. -/
theorem frame_inv {kind : FrameKind} (h : Inv s) (hkind : kind ≠ .openStream)
    (hopened : streamId ∈ openIds s.wire) :
    Inv { s with inFlight := s.inFlight ++ [⟨kind, streamId⟩] } := by
  have hwire := wire_snoc (s := s) ⟨kind, streamId⟩
  have hids := openIds_snoc_other s.wire streamId hkind
  rw [← hwire] at hids
  exact
    { h with
      numbered := by rw [hids]; exact h.numbered
      openedFirst := by rw [hwire]; exact openedFirst_snoc h.openedFirst (Or.inr hopened)
      streamsOpened := by rw [hids]; exact h.streamsOpened
      openingOpened := by rw [hids]; exact h.openingOpened
      forwardingOpened := by rw [hids]; exact h.forwardingOpened
      probeOpened := by rw [hids]; exact h.probeOpened }

theorem send_inv {kind : FrameKind} (h : Inv s) (hkind : kind ≠ .openStream)
    (hopened : s.socket.isOpen = true → streamId ∈ openIds s.wire) :
    Inv (s.send kind streamId payloadBytes) := by
  unfold State.send
  cases hsend : s.socket.sendCarrierFrame payloadBytes with
  | error _ => exact h
  | ok socket =>
    have hopen := sendCarrierFrame_ok hsend
    exact frame_inv (socket_inv h fun _ => hopen.1) hkind (hopened hopen.1)

theorem sendReset_inv (h : Inv s) (hopened : streamId ∈ openIds s.wire) :
    Inv (s.sendReset streamId payloadBytes) := by
  unfold State.sendReset
  split_ifs with hclosed
  · exact h
  · cases hsend : s.socket.sendCarrierFrame payloadBytes with
    | error _ => exact closeSocket_inv h
    | ok socket =>
      have hopen := sendCarrierFrame_ok hsend
      exact frame_inv (socket_inv h fun _ => hopen.1) (by decide) hopened

theorem issue_ok {ids ids' : GatewayStreamIds} {n : ℕ} (h : ids.issue = .ok (streamId, ids'))
    (hhighest : ids.highestIssuedStreamId = 2 * n - 1) :
    streamId = 2 * n + 1 ∧ ids'.highestIssuedStreamId = 2 * (n + 1) - 1 ∧
      2 * (n + 1) ≤ 2 ^ 32 := by
  unfold GatewayStreamIds.issue at h
  split_ifs at h with hfull
  cases h
  have hnext : ids.next = 2 * n + 1 := by
    unfold GatewayStreamIds.next
    split_ifs <;> omega
  exact ⟨hnext, by simp only [hnext]; omega, by omega⟩

/-- The OPEN of the id just issued is the one that continues the numbering. -/
theorem sendOpen_inv {issued : State} {streamIds : GatewayStreamIds} {socket : CarrierSocket}
    (h : Inv s) (hissue : s.streamIds.issue = .ok (streamId, streamIds))
    (hsend : s.socket.sendCarrierFrame payloadBytes = .ok socket)
    (hissued : issued = { s with
      streamIds := streamIds, streams := issued.streams, probe := issued.probe })
    (hstreams : issued.streams ⊆ insert streamId s.streams)
    (hprobe : issued.probe = s.probe ∨ issued.probe = some streamId) :
    Inv (issued.sendOpen streamId payloadBytes) := by
  obtain ⟨hopen, -⟩ := sendCarrierFrame_ok hsend
  obtain ⟨n, hn, -, hhighest⟩ := h.numbered
  obtain ⟨hid, hnext, hbound⟩ := issue_ok hissue (hhighest hopen)
  have hopened : issued.sendOpen streamId payloadBytes = { issued with
      socket := socket
      opening := insert streamId s.opening
      inFlight := s.inFlight ++ [⟨.openStream, streamId⟩] } := by
    rw [State.sendOpen, hissued, hsend]
  have hwire : (issued.sendOpen streamId payloadBytes).wire =
      s.wire ++ [⟨.openStream, streamId⟩] := by
    rw [hopened, hissued]
    simp [State.wire]
  have hids : openIds (issued.sendOpen streamId payloadBytes).wire =
      openIds s.wire ++ [streamId] := by
    rw [hwire, openIds_snoc_open]
  have hold {other : ℕ} (hmem : other ∈ openIds s.wire) :
      other ∈ openIds s.wire ++ [streamId] := List.mem_append_left _ hmem
  have hnew : streamId ∈ openIds s.wire ++ [streamId] := by simp
  refine ⟨⟨n + 1, ?_, hbound, fun _ => ?_⟩, ?_, ?_, ?_, ?_, fun _ => ?_, ?_, ?_, ?_, ?_⟩
  · rw [hids, hn, oddIds_succ, hid]
  · rw [hopened, hissued]
    exact hnext
  · rw [hwire]
    exact openedFirst_snoc h.openedFirst (Or.inl rfl)
  · rw [hids, hopened]
    intro other hmem
    rcases Finset.mem_insert.mp (hstreams hmem) with rfl | hmem
    · exact hnew
    · exact hold (h.streamsOpened other hmem)
  · rw [hids, hopened]
    intro other hmem
    rcases Finset.mem_insert.mp hmem with rfl | hmem
    · exact hnew
    · exact hold (h.openingOpened other hmem)
  · rw [hids, hopened, hissued]
    exact fun other hmem => hold (h.forwardingOpened other hmem)
  · rw [hids, hopened]
    intro other hother
    rcases hprobe with hprobe | hprobe
    · exact hold (h.probeOpened hopen other (hprobe ▸ hother))
    · cases hprobe.symm.trans hother
      exact hnew
  · rw [hopened, hissued]
    exact h.noneRefused
  · rw [hopened, hissued]
    exact h.highest
  · rw [hopened, hissued]
    exact h.activeOpened
  · rw [hopened, hissued]
    exact h.accepted

/-- An id that was issued but never opened is harmless once the socket is closed. -/
theorem issued_closeSocket_inv {streamIds : GatewayStreamIds} {probe : Option ℕ}
    {active : Bool} {streams : Finset ℕ} (h : Inv s) (hsub : streams ⊆ s.streams) :
    Inv { s with
      streamIds := streamIds, probe := probe, active := active, streams := streams }.closeSocket :=
  { streams_inv (closeSocket_inv h) hsub with
    numbered := by
      obtain ⟨n, hn, hle, -⟩ := h.numbered
      exact ⟨n, hn, hle, by simp [State.closeSocket]⟩
    probeOpened := by simp [State.closeSocket] }

theorem receiveFrame_other (lifecycle : RemoteStreamLifecycle) {kind : FrameKind}
    (streamId : ℕ) (hkind : kind ≠ .openStream) :
    receiveFrame lifecycle ⟨kind, streamId⟩ = if lifecycle.isRetired streamId then .ok lifecycle
      else (lifecycle.requireActive streamId).map fun _ => lifecycle := by
  cases kind with
  | openStream => exact absurd rfl hkind
  | _ => rfl

/-- The client accepts the next frame of a wire that is numbered without gaps. -/
theorem receiveFrame_ok {frame : Frame} {rest : List Frame} (h : Inv s)
    (hnext : s.inFlight = frame :: rest) :
    ∃ lifecycle, receiveFrame s.streamLifecycle frame = .ok lifecycle ∧
      lifecycle.highestOpenedStreamId = 2 * (openIds (s.handled ++ [frame])).length - 1 ∧
      ∀ streamId ∈ lifecycle.active, streamId ∈ openIds (s.handled ++ [frame]) := by
  obtain ⟨n, hn, hle, -⟩ := h.numbered
  have hwire : s.wire = s.handled ++ frame :: rest := by rw [State.wire, hnext]
  rw [hwire, List.append_cons, openIds_append] at hn
  have hissued := eq_oddIds_of_append hn
  obtain ⟨kind, streamId⟩ := frame
  by_cases hkind : kind = .openStream
  · subst hkind
    rw [openIds_snoc_open] at hissued hn ⊢
    have hlength : (openIds s.handled ++ [streamId]).length ≤ n := by
      have := congrArg List.length hn
      rw [List.length_append, oddIds_length] at this
      omega
    rw [List.length_append, List.length_singleton] at hissued hlength
    rw [oddIds_succ] at hissued
    have hid : streamId = 2 * (openIds s.handled).length + 1 := by
      have := (List.append_inj' hissued rfl).2
      simpa using this
    have hexpected : s.streamLifecycle.expectedStreamId = streamId := by
      rw [RemoteStreamLifecycle.expectedStreamId, h.highest]
      split_ifs <;> omega
    have hopen : receiveFrame s.streamLifecycle ⟨.openStream, streamId⟩ =
        .ok ⟨insert streamId s.streamLifecycle.active, streamId⟩ := by
      simp only [receiveFrame, RemoteStreamLifecycle.openStream, hexpected]
      rw [if_neg (by omega), if_neg (by omega), if_neg (by simp)]
    refine ⟨_, hopen, ?_, ?_⟩
    · simp only [List.length_append, List.length_singleton]
      omega
    · intro other hmem
      rcases Finset.mem_insert.mp hmem with rfl | hmem
      · simp
      · exact List.mem_append_left _ (h.activeOpened other hmem)
  · rw [openIds_snoc_other _ _ hkind] at hissued ⊢
    have hopened : streamId ∈ openIds s.handled := h.openedFirst _ _ _ hwire hkind
    have hreceive : receiveFrame s.streamLifecycle ⟨kind, streamId⟩ = .ok s.streamLifecycle := by
      rw [receiveFrame_other _ _ hkind]
      by_cases hactive : streamId ∈ s.streamLifecycle.active
      · have hretired : s.streamLifecycle.isRetired streamId = false := by
          simp [RemoteStreamLifecycle.isRetired, hactive]
        rw [if_neg (by simp [hretired]), RemoteStreamLifecycle.requireActive, if_pos hactive]
        rfl
      · rw [hissued, mem_oddIds] at hopened
        have hretired : s.streamLifecycle.isRetired streamId = true := by
          simp only [RemoteStreamLifecycle.isRetired, h.highest, Bool.and_eq_true,
            decide_eq_true_eq]
          exact ⟨⟨⟨by omega, by omega⟩, hopened.1⟩, hactive⟩
        rw [if_pos hretired]
    exact ⟨_, hreceive, h.highest, h.activeOpened⟩

theorem clientReceives_inv {frame : Frame} {rest : List Frame} (h : Inv s)
    (hnext : s.inFlight = frame :: rest) :
    ∃ lifecycle, receiveFrame s.streamLifecycle frame = .ok lifecycle ∧
      Inv { s with
        streamLifecycle := lifecycle, handled := s.handled ++ [frame], inFlight := rest } := by
  obtain ⟨lifecycle, hreceive, hhighest, hactive⟩ := receiveFrame_ok h hnext
  have hwire : { s with
      streamLifecycle := lifecycle
      handled := s.handled ++ [frame]
      inFlight := rest }.wire = s.wire := by
    simp [State.wire, hnext]
  refine ⟨lifecycle, hreceive, ?_⟩
  exact
    { h with
      numbered := by rw [hwire]; exact h.numbered
      openedFirst := by rw [hwire]; exact h.openedFirst
      streamsOpened := by rw [hwire]; exact h.streamsOpened
      openingOpened := by rw [hwire]; exact h.openingOpened
      forwardingOpened := by rw [hwire]; exact h.forwardingOpened
      probeOpened := by rw [hwire]; exact h.probeOpened
      highest := hhighest
      activeOpened := hactive }

/-- A request or upgrade whose OPEN fits continues the numbering. -/
theorem openHttp_inv {maxConcurrentStreams : ℕ} {next : State} (h : Inv s)
    (hfits : OpenFits maxConcurrentStreams s (.openHttp payloadBytes))
    (hstep : step maxConcurrentStreams s (.openHttp payloadBytes) = some next) : Inv next := by
  simp only [step] at hstep
  split_ifs at hstep with haccepting
  · cases hstep
    exact h
  · cases hissue : s.streamIds.issue with
    | error _ =>
      rw [hissue] at hstep
      cases hstep
      exact h
    | ok issued =>
      obtain ⟨streamId, streamIds⟩ := issued
      rw [hissue] at hstep
      cases hstep
      cases hsend : s.socket.sendCarrierFrame payloadBytes with
      | ok socket => exact sendOpen_inv h hissue hsend rfl (Finset.Subset.refl _) (Or.inl rfl)
      | error _ =>
        -- Requests are refused on a socket that is not open, and this one fits.
        rcases sendCarrierFrame_error hsend with hclosed | hnot
        · simp [State.accepting, hclosed] at haccepting
        · exact absurd (hfits (by simpa using haccepting)) hnot

theorem openProbe_inv {maxConcurrentStreams : ℕ} {next : State} (h : Inv s)
    (hstep : step maxConcurrentStreams s (.openProbe payloadBytes) = some next) : Inv next := by
  simp only [step] at hstep
  split_ifs at hstep
  cases hissue : s.streamIds.issue with
  | error _ =>
    rw [hissue] at hstep
    cases hstep
    exact closeSocket_inv h
  | ok issued =>
    obtain ⟨streamId, streamIds⟩ := issued
    rw [hissue] at hstep
    cases hsend : s.socket.sendCarrierFrame payloadBytes with
    | ok socket =>
      rw [hsend] at hstep
      cases hstep
      exact sendOpen_inv h hissue hsend rfl (Finset.subset_insert _ _) (Or.inr rfl)
    | error _ =>
      rw [hsend] at hstep
      cases hstep
      exact issued_closeSocket_inv h (Finset.Subset.refl _)

theorem openRejected_inv {maxConcurrentStreams : ℕ} {next : State} (h : Inv s)
    (hstep : step maxConcurrentStreams s (.openRejected streamId payloadBytes) = some next) :
    Inv next := by
  have hcaught : Inv { s with
      opening := s.opening.erase streamId, refused := s.refused.erase streamId } :=
    { h with
      openingOpened := fun other hmem =>
        h.openingOpened other (Finset.mem_of_mem_erase hmem)
      noneRefused := by simp [h.noneRefused] }
  simp only [step] at hstep
  split_ifs at hstep with hhandler hstream
  · cases hstep
    exact sendReset_inv (streams_inv hcaught (Finset.erase_subset _ _))
      (h.streamsOpened streamId hstream)
  · cases hstep
    exact hcaught

theorem step_inv {maxConcurrentStreams : ℕ} {label : Label} {next : State} (h : Inv s)
    (hfits : OpenFits maxConcurrentStreams s label)
    (hstep : step maxConcurrentStreams s label = some next) : Inv next := by
  cases label with
  | openProbe payloadBytes => exact openProbe_inv h hstep
  | activate =>
    simp only [step] at hstep
    split_ifs at hstep
    cases hstep
    exact { h with probeOpened := by simp }
  | openHttp payloadBytes => exact openHttp_inv h hfits hstep
  | openExpired =>
    simp only [step] at hstep
    split_ifs at hstep
    cases hissue : s.streamIds.issue with
    | error _ => rw [hissue] at hstep; cases hstep
    | ok issued =>
      rw [hissue] at hstep
      cases hstep
      exact issued_closeSocket_inv h (Finset.empty_subset _)
  | openSent streamId =>
    simp only [step] at hstep
    split_ifs at hstep with hopening
    cases hstep
    refine { h with openingOpened := ?_, forwardingOpened := ?_ }
    · exact fun other hmem => h.openingOpened other (Finset.mem_of_mem_erase hmem)
    · intro other hmem
      rcases Finset.mem_insert.mp hmem with rfl | hmem
      · exact h.openingOpened other hopening
      · exact h.forwardingOpened other hmem
  | openRejected streamId payloadBytes => exact openRejected_inv h hstep
  | data streamId payloadBytes =>
    simp only [step] at hstep
    split_ifs at hstep with hforwarding
    cases hstep
    exact send_inv h (by decide) fun _ => h.forwardingOpened streamId hforwarding
  | endStream streamId =>
    simp only [step] at hstep
    split_ifs at hstep with hforwarding
    cases hstep
    exact send_inv h (by decide) fun _ => h.forwardingOpened streamId hforwarding
  | windowUpdate streamId =>
    simp only [step] at hstep
    split_ifs at hstep with hstream
    cases hstep
    refine send_inv h (by decide) fun hopen => ?_
    rcases hstream.1 with hstream | hprobe
    · exact h.streamsOpened streamId hstream
    · exact h.probeOpened hopen streamId hprobe
  | reset streamId payloadBytes =>
    simp only [step] at hstep
    split_ifs at hstep with hstream
    cases hstep
    exact sendReset_inv (streams_inv h (Finset.erase_subset _ _))
      (h.streamsOpened streamId hstream)
  | remove streamId =>
    cases hstep
    exact streams_inv h (Finset.erase_subset _ _)
  | control payloadBytes =>
    simp only [step] at hstep
    cases hsend : s.socket.sendCarrierFrame payloadBytes with
    | ok socket =>
      rw [hsend] at hstep
      cases hstep
      exact socket_inv h fun _ => (sendCarrierFrame_ok hsend).1
    | error _ =>
      rw [hsend] at hstep
      cases hstep
      exact h
  | flush bufferedAmount =>
    simp only [step] at hstep
    split_ifs at hstep
    cases hstep
    exact socket_inv h id
  | socketCloses =>
    cases hstep
    exact closeSocket_inv h
  | clientReceives =>
    simp only [step, h.accepted] at hstep
    cases hnext : s.inFlight with
    | nil => rw [hnext] at hstep; cases hstep
    | cons frame rest =>
      obtain ⟨lifecycle, hreceive, hinv⟩ := clientReceives_inv h hnext
      simp only [hnext, hreceive] at hstep
      cases hstep
      simpa only [h.accepted] using hinv
  | clientCloses streamId =>
    simp only [step] at hstep
    split_ifs at hstep with hactive
    rw [RemoteStreamLifecycle.close_of_active hactive] at hstep
    cases hstep
    exact { h with
      activeOpened := fun other hmem => h.activeOpened other (Finset.mem_of_mem_erase hmem) }

end Steps

/-- In every run on one transport in which each attempted OPEN_HTTP fits, the OPENs on the
wire are 1, 3, 5, … without gaps, no other frame precedes its stream's OPEN, and the client
rejects no frame. -/
theorem stream_numbers_agree (maxConcurrentStreams : ℕ) (socket : CarrierSocket)
    (schedule : List Label) (s : State)
    (hfits : Execution.Guarded (step maxConcurrentStreams) (OpenFits maxConcurrentStreams)
      (start socket) schedule)
    (hrun : Execution.run (step maxConcurrentStreams) (start socket) schedule = some s) :
    Agree s :=
  (Execution.invariant_of_guarded (fun _ _ _ h hguard hstep => step_inv h hguard hstep)
    (start_inv socket) hfits hrun).agree

-- The probe, activation, and a request that is answered with credit and then cancelled.
theorem stream_numbers_agree_exchange :
    ∃ s, Execution.run (step 2) (start ⟨true, 0⟩) [.openProbe 28, .openSent 1, .data 1 32,
        .endStream 1, .activate, .openHttp 400, .clientReceives, .clientReceives,
        .clientCloses 1, .clientReceives, .openSent 3, .data 3 32768, .windowUpdate 3,
        .reset 3 40, .clientReceives, .clientReceives] = some s ∧ Agree s := by
  refine ⟨_, rfl, ?_⟩
  exact stream_numbers_agree 2 ⟨true, 0⟩ [.openProbe 28, .openSent 1, .data 1 32,
    .endStream 1, .activate, .openHttp 400, .clientReceives, .clientReceives,
    .clientCloses 1, .clientReceives, .openSent 3, .data 3 32768, .windowUpdate 3,
    .reset 3 40, .clientReceives, .clientReceives] _ (by decide) rfl

set_option maxRecDepth 10000 in
/-- The carrier's peer reads slowly: 34 requests with large headers fill the buffer, there is
no room for the OPEN of the next one but there is for the RESET of its catch block, and the
client rejects the RESET of a stream it has never seen. -/
theorem stream_numbers_disagree :
    ∃ s, Execution.run (step 128) (start ⟨true, 0⟩)
        ([.openProbe 28, .activate] ++ List.replicate 35 (.openHttp 30000) ++
          [.openRejected 71 40] ++ List.replicate 36 .clientReceives) = some s ∧
      s.clientError =
        some (.remoteStreamLifecycleError "unknown remote stream ID 71") ∧ ¬ Agree s := by
  refine ⟨_, rfl, rfl, ?_⟩
  rintro ⟨-, -, haccepted⟩
  cases haccepted

end Lotur.Gateway.StreamNumbering
