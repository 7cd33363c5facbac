import Lotur.Relay.Carrier
import Lotur.Relay.FlowHistory

/-! `sendFlowControlledData` of `packages/relay/src/carrier.ts`, cut at its awaits: a chunk goes out
in as many DATA frames as the grants of the shared window make of it. -/
namespace Lotur

/-- Where the loop waits: for the promise of its `take`, or for the callback of `socket.send`. -/
inductive SendPhase where
  | taking (ticket : ℕ)
  | sending (bytes : ℕ)
  | completed
  | failed (error : JsError)
  deriving DecidableEq, Repr

/-- `frames` has the payloads handed to the socket and `tickets` the `take` calls made. -/
structure DataSend where
  streamId : ℕ
  chunk : List UInt8
  offset : ℕ
  phase : SendPhase
  frames : List (List UInt8)
  tickets : List ℕ
  deriving DecidableEq, Repr

namespace DataSend

/-- The head of the loop. -/
def loop (w : FlowPromises) (s : DataSend) : FlowPromises × DataSend :=
  if s.offset < s.chunk.length then
    ((w.take s.streamId (min MAX_DATA_CHUNK_BYTES (s.chunk.length - s.offset) : ℕ)).1,
      { s with phase := .taking w.takeCalls, tickets := s.tickets ++ [w.takeCalls] })
  else (w, { s with phase := .completed })

def start (w : FlowPromises) (streamId : ℕ) (chunk : List UInt8) : FlowPromises × DataSend :=
  loop w { streamId, chunk, offset := 0, phase := .completed, frames := [], tickets := [] }

/-- The promise of the `take` has settled: the granted bytes are handed to the socket. -/
def credited (w : FlowPromises) (socket : CarrierSocket) (s : DataSend) :
    Option (CarrierSocket × DataSend) :=
  match s.phase with
  | .taking ticket =>
    match w.outcomes ticket with
    | [] => none
    | .rejected error :: _ => some (socket, { s with phase := .failed error })
    | .granted bytes :: _ =>
      let payload := (s.chunk.drop s.offset).take bytes.toNat
      match socket.sendCarrierFrame payload.length with
      | .error error => some (socket, { s with phase := .failed error })
      | .ok socket => some (socket, { s with
          phase := .sending bytes.toNat
          frames := s.frames ++ [payload] })
  | _ => none

/-- The socket has called back. -/
def sent (w : FlowPromises) (s : DataSend) (error : Option JsError) :
    Option (FlowPromises × DataSend) :=
  match s.phase with
  | .sending bytes =>
    match error with
    | none => some (loop w { s with offset := s.offset + bytes })
    | some error => some (w, { s with phase := .failed error })
  | _ => none

def isRunning (s : DataSend) : Bool :=
  match s.phase with
  | .taking _ | .sending _ => true
  | .completed | .failed _ => false

/-- The credit that its `take` calls were granted. -/
def creditTaken (w : FlowPromises) (s : DataSend) : ℤ :=
  (s.tickets.map fun ticket => ((w.outcomes ticket).map TakeOutcome.bytes).sum).sum

/-- The bytes that were handed to the socket and are not confirmed. -/
def inFlight (s : DataSend) : ℕ :=
  match s.phase with
  | .sending bytes => bytes
  | _ => 0

/-- The `take` calls whose grant went out. -/
def charged (s : DataSend) : List ℕ :=
  match s.phase with
  | .taking _ => s.tickets.dropLast
  | _ => s.tickets

/-- What holds of a send that has not failed: frame for frame it sent what its grants allowed, and
together the first bytes of the chunk. -/
structure Exact (w : FlowPromises) (s : DataSend) : Prop where
  sizes : ∀ payload ∈ s.frames, payload ≠ [] ∧ payload.length ≤ MAX_DATA_CHUNK_BYTES
  within : s.offset + s.inFlight ≤ s.chunk.length
  sent : s.frames.flatten = s.chunk.take (s.offset + s.inFlight)
  charged : List.Forall₂ (fun ticket (payload : List UInt8) =>
    w.outcomes ticket = [.granted payload.length]) s.charged s.frames
  taking : ∀ ticket, s.phase = .taking ticket →
    s.offset < s.chunk.length ∧ ticket < w.takeCalls ∧ s.tickets = s.tickets.dropLast ++ [ticket] ∧
      ∀ call ∈ w.calls, call.ticket = ticket →
        call.maximumBytes = (min MAX_DATA_CHUNK_BYTES (s.chunk.length - s.offset) : ℕ)
  completed : s.phase = .completed → s.offset = s.chunk.length

variable {w w' : FlowPromises} {s s' : DataSend} {socket socket' : CarrierSocket}

/-- Other calls of the window leave it alone. -/
theorem Exact.extends (h : Exact w s) (hextends : FlowPromises.Extends w w')
    (hsound : w'.Sound) : Exact w' s := by
  refine ⟨h.sizes, h.within, h.sent, ?_, ?_, h.completed⟩
  · exact h.charged.imp fun ticket payload houtcome => hextends.outcomes hsound houtcome
  · intro ticket hphase
    obtain ⟨hmore, hlt, htickets, hcall⟩ := h.taking ticket hphase
    refine ⟨hmore, hlt.trans_le hextends.takeCalls, htickets, ?_⟩
    intro call hmem hticket
    exact hcall call (hextends.calls call hmem (hticket ▸ hlt)) hticket

theorem loop_frames (w : FlowPromises) (s : DataSend) :
    (loop w s).2.frames = s.frames ∧ (loop w s).2.chunk = s.chunk := by
  unfold loop
  split_ifs
  · exact ⟨rfl, rfl⟩
  · exact ⟨rfl, rfl⟩

theorem loop_window (hsound : w.Sound) (s : DataSend) :
    FlowPromises.Extends w (loop w s).1 ∧ (loop w s).1.Sound := by
  unfold loop
  split_ifs
  · exact ⟨FlowPromises.take_extends w _ _, FlowPromises.take_sound hsound _ _⟩
  · exact ⟨.refl w, hsound⟩

/-- The head of the loop, with everything up to the offset sent. -/
theorem loop_exact (hsound : w.Sound)
    (hsizes : ∀ payload ∈ s.frames, payload ≠ [] ∧ payload.length ≤ MAX_DATA_CHUNK_BYTES)
    (hwithin : s.offset ≤ s.chunk.length) (hsent : s.frames.flatten = s.chunk.take s.offset)
    (hcharged : List.Forall₂ (fun ticket (payload : List UInt8) =>
      w.outcomes ticket = [.granted payload.length]) s.tickets s.frames) :
    Exact (loop w s).1 (loop w s).2 := by
  unfold loop
  split_ifs with hmore
  · have hextends := FlowPromises.take_extends w s.streamId
      (min MAX_DATA_CHUNK_BYTES (s.chunk.length - s.offset) : ℕ)
    have hsound' := FlowPromises.take_sound hsound s.streamId
      (min MAX_DATA_CHUNK_BYTES (s.chunk.length - s.offset) : ℕ)
    refine ⟨hsizes, hwithin, hsent, ?_, ?_, nofun⟩
    · show List.Forall₂ _ (s.tickets ++ [w.takeCalls]).dropLast s.frames
      rw [List.dropLast_concat]
      exact hcharged.imp fun ticket payload houtcome => hextends.outcomes hsound' houtcome
    · intro ticket hphase
      obtain rfl : w.takeCalls = ticket := by simpa using hphase
      refine ⟨hmore, ?_, by simp, ?_⟩
      · rw [FlowPromises.take_takeCalls]
        exact Nat.lt_succ_self _
      · intro call hcall hticket
        rw [FlowPromises.take_calls hsound hcall hticket]
  · exact ⟨hsizes, hwithin, hsent, hcharged, nofun, fun _ => by
      show s.offset = s.chunk.length
      omega⟩

theorem start_exact (hsound : w.Sound) (streamId : ℕ) (chunk : List UInt8) :
    Exact (start w streamId chunk).1 (start w streamId chunk).2 :=
  loop_exact hsound nofun (Nat.zero_le _) rfl List.Forall₂.nil

/-- A grant is not more than the `take` asked for. -/
theorem Exact.granted (h : Exact w s) (hsound : w.Sound) {ticket : ℕ}
    (hphase : s.phase = .taking ticket) {bytes : ℤ} {rest : List TakeOutcome}
    (houtcomes : w.outcomes ticket = .granted bytes :: rest) :
    1 ≤ bytes.toNat ∧ bytes.toNat ≤ MAX_DATA_CHUNK_BYTES ∧
      s.offset + bytes.toNat ≤ s.chunk.length ∧ w.outcomes ticket = [.granted bytes.toNat] := by
  obtain ⟨hmore, -, -, hcall⟩ := h.taking ticket hphase
  have hmem : .granted bytes ∈ w.outcomes ticket := by
    rw [houtcomes]
    exact List.mem_cons_self
  obtain ⟨⟨call, outcome⟩, hentry, houtcome⟩ := List.mem_map.1 hmem
  obtain ⟨hsettled, hticket⟩ := List.mem_filter.1 hentry
  obtain rfl : outcome = .granted bytes := houtcome
  have heq : call.ticket = ticket := by simpa using hticket
  obtain ⟨hpositive, hle⟩ := hsound.queued.bounded _ hsettled bytes rfl
  rw [hcall call (List.mem_append_right _ (List.mem_map_of_mem hsettled)) heq] at hle
  have hsingle := hsound.outcomes_of_settled hsettled
  rw [heq] at hsingle
  refine ⟨by omega, by omega, by omega, ?_⟩
  rw [hsingle, Int.toNat_of_nonneg (by omega)]

/-- The continuation of the `take`: it hands the next bytes to the socket, or the send fails. -/
theorem credited_exact (h : Exact w s) (hsound : w.Sound)
    (hstep : credited w socket s = some (socket', s')) :
    (∃ error, s' = { s with phase := .failed error }) ∨
      ∃ payload, s' = { s with
          phase := .sending payload.length
          frames := s.frames ++ [payload] } ∧ Exact w s' := by
  unfold credited at hstep
  split at hstep
  · rename_i ticket hphase
    split at hstep
    · cases hstep
    · rename_i error rest houtcomes
      cases hstep
      exact Or.inl ⟨error, rfl⟩
    · rename_i bytes rest houtcomes
      obtain ⟨hpositive, hmaximum, hfits, hsingle⟩ := h.granted hsound hphase houtcomes
      obtain ⟨hmore, -, htickets, -⟩ := h.taking ticket hphase
      have hlength : ((s.chunk.drop s.offset).take bytes.toNat).length = bytes.toNat := by
        rw [List.length_take, List.length_drop]
        omega
      dsimp only at hstep
      split at hstep
      · rename_i error hrefused
        cases hstep
        exact Or.inl ⟨error, rfl⟩
      · cases hstep
        refine Or.inr ⟨(s.chunk.drop s.offset).take bytes.toNat, by rw [hlength], ?_⟩
        have hoffset : s.offset + s.inFlight = s.offset := by
          simp [inFlight, hphase]
        refine ⟨?_, hfits, ?_, ?_, nofun, nofun⟩
        · intro payload hpayload
          rcases List.mem_append.1 hpayload with hold | hnew
          · exact h.sizes payload hold
          · rw [List.mem_singleton.1 hnew]
            refine ⟨fun hempty => ?_, by omega⟩
            rw [hempty] at hlength
            simp only [List.length_nil] at hlength
            omega
        · have hsent := h.sent
          rw [hoffset] at hsent
          show (s.frames ++ [_]).flatten = s.chunk.take (s.offset + bytes.toNat)
          rw [List.flatten_append, hsent, List.take_add]
          simp
        · have hcharged := h.charged
          rw [DataSend.charged, hphase] at hcharged
          show List.Forall₂ _ s.tickets (s.frames ++ [_])
          rw [htickets]
          refine List.rel_append hcharged (List.Forall₂.cons ?_ List.Forall₂.nil)
          rw [hsingle, hlength]
  · cases hstep

/-- The socket's callback: the loop goes on behind the bytes that are out, or the send fails. -/
theorem sent_exact (h : Exact w s) (hsound : w.Sound) {error : Option JsError}
    (hstep : sent w s error = some (w', s')) :
    s'.frames = s.frames ∧ s'.chunk = s.chunk ∧
      ((∃ error, s'.phase = .failed error ∧ w' = w) ∨ Exact w' s') := by
  unfold sent at hstep
  split at hstep
  · rename_i bytes hphase
    have hflight : s.inFlight = bytes := by simp [inFlight, hphase]
    split at hstep
    · have hloop : (w', s') = loop w { s with offset := s.offset + bytes } :=
        (Option.some.inj hstep).symm
      have hwithin := h.within
      have hsent := h.sent
      have hcharged := h.charged
      rw [hflight] at hwithin hsent
      rw [DataSend.charged, hphase] at hcharged
      have hexact := loop_exact (s := { s with offset := s.offset + bytes }) hsound h.sizes hwithin
        hsent hcharged
      rw [← hloop] at hexact
      have hframes := loop_frames w { s with offset := s.offset + bytes }
      rw [← hloop] at hframes
      exact ⟨hframes.1, hframes.2, Or.inr hexact⟩
    · rename_i error
      cases hstep
      exact ⟨rfl, rfl, Or.inl ⟨error, rfl, rfl⟩⟩
  · cases hstep

theorem sent_window (hsound : w.Sound) {error : Option JsError}
    (hstep : sent w s error = some (w', s')) : FlowPromises.Extends w w' ∧ w'.Sound := by
  unfold sent at hstep
  split at hstep
  · rename_i bytes hphase
    split at hstep
    · have hwindow := loop_window hsound { s with offset := s.offset + bytes }
      rwa [Option.some.inj hstep] at hwindow
    · cases hstep
      exact ⟨.refl w, hsound⟩
  · cases hstep

/-- A send that is through sent the chunk, and was granted as much credit. -/
theorem Exact.whole (h : Exact w s) (hcompleted : s.phase = .completed) :
    s.frames.flatten = s.chunk ∧ s.creditTaken w = s.chunk.length := by
  have hsent := h.sent
  have hflight : s.inFlight = 0 := by simp [inFlight, hcompleted]
  rw [hflight, add_zero, h.completed hcompleted, List.take_length] at hsent
  refine ⟨hsent, ?_⟩
  have htickets : s.charged = s.tickets := by
    rw [DataSend.charged, hcompleted]
  have hcharged := h.charged
  rw [htickets] at hcharged
  rw [← hsent, List.length_flatten, creditTaken]
  generalize s.tickets = tickets at hcharged
  generalize s.frames = frames at hcharged
  induction hcharged with
  | nil => rfl
  | cons houtcome _ ih =>
    rw [List.map_cons, List.sum_cons, ih, houtcome]
    simp [TakeOutcome.bytes]

theorem Exact.sent_begins (h : Exact w s) : s.frames.flatten <+: s.chunk := by
  rw [h.sent]
  exact List.take_prefix _ _

end DataSend

end Lotur
