import Lotur.Library.Execution
import Lotur.Relay.DataSend

/-! One direction of a carrier with the content of its DATA: on each stream a sender passes its
chunks to `sendFlowControlledData` one after another, and the receiver's promise queue writes what
arrives to the consumer. Both ends have this shape, the gateway for responses and the client for
requests. -/
namespace Lotur.Transfer

inductive Payload where
  | data (bytes : List UInt8)
  | endStream
  deriving DecidableEq, Repr

/-- The sends of a stream: those that are over, and the one that runs. `cancelled` is the stream's
flag on this side. -/
structure Sender where
  done : List DataSend
  current : Option DataSend
  cancelled : Bool
  ended : Bool

/-- `queue` has the operations that have not started, and `writing` tells whether one has written
and waits for the consumer or for its WINDOW_UPDATE. -/
structure Receiver where
  queue : List Payload
  writing : Bool
  cancelled : Bool
  consumer : List Payload

structure State where
  window : FlowPromises
  socket : CarrierSocket
  sender : ℕ → Sender
  wire : List (ℕ × Payload)
  receiver : ℕ → Receiver
  receiveFailed : Bool

namespace Sender

def calls (sender : Sender) : List DataSend := sender.done ++ sender.current.toList

def chunks (sender : Sender) : List (List UInt8) := sender.calls.map DataSend.chunk

/-- What the sender has handed to the socket. -/
def payloads (sender : Sender) : List Payload :=
  (sender.calls.flatMap DataSend.frames).map Payload.data ++
    if sender.ended then [.endStream] else []

/-- The source is read on when the last chunk is out, and no longer after a failure. -/
def isIdle (sender : Sender) : Bool :=
  sender.current.isNone && !sender.cancelled && !sender.ended &&
    sender.done.all fun send => send.phase = .completed

def put (sender : Sender) (send : DataSend) : Sender :=
  if send.isRunning then { sender with current := some send }
  else { sender with done := sender.done ++ [send], current := none }

end Sender

inductive Label where
  | window (call : FlowPromises.Call)
  | socket (socket : CarrierSocket)
  | chunk (streamId : ℕ) (bytes : List UInt8)
  | credited (streamId : ℕ)
  | sent (streamId : ℕ) (error : Option JsError)
  | finish (streamId : ℕ)
  | abandon (streamId : ℕ)
  | deliver (accepted : Bool)
  | write (streamId : ℕ)
  | written (streamId : ℕ)
  | writeFailed (streamId : ℕ)
  | cancel (streamId : ℕ)

namespace State

def setSender (s : State) (i : ℕ) (sender : Sender) : State :=
  { s with sender := Function.update s.sender i sender }

def setReceiver (s : State) (i : ℕ) (receiver : Receiver) : State :=
  { s with receiver := Function.update s.receiver i receiver }

/-- A chunk of the source goes to `sendFlowControlledData`. -/
def chunk (s : State) (i : ℕ) (bytes : List UInt8) : Option State :=
  if (s.sender i).isIdle then
    let (window, send) := DataSend.start s.window i bytes
    some { s.setSender i ((s.sender i).put send) with window }
  else none

def credited (s : State) (i : ℕ) : Option State :=
  (s.sender i).current.bind fun send =>
    (send.credited s.window s.socket).map fun (socket, next) =>
      { s.setSender i ((s.sender i).put next) with
        socket
        wire := s.wire ++
          (next.frames.drop send.frames.length).map fun bytes => (i, Payload.data bytes) }

def sent (s : State) (i : ℕ) (error : Option JsError) : Option State :=
  (s.sender i).current.bind fun send =>
    (send.sent s.window error).map fun (window, next) =>
      { s.setSender i ((s.sender i).put next) with window }

/-- The source is through: END, or the catch that cancels the stream. -/
def finish (s : State) (i : ℕ) : Option State :=
  if (s.sender i).isIdle then
    match s.socket.sendCarrierFrame 0 with
    | .error _ => some (s.setSender i { s.sender i with cancelled := true })
    | .ok socket => some { s.setSender i { s.sender i with ended := true } with
        socket
        wire := s.wire ++ [(i, .endStream)] }
  else none

/-- `accepted` tells whether the frame passes the checks before it is queued; a frame that does not
fails the carrier, and one of a stream that is gone is dropped. -/
def deliver (s : State) (accepted : Bool) : Option State :=
  match s.wire with
  | [] => none
  | (i, payload) :: wire =>
    let s := { s with wire }
    if s.receiveFailed || (s.receiver i).cancelled then some s
    else if accepted then
      some (s.setReceiver i { s.receiver i with queue := (s.receiver i).queue ++ [payload] })
    else some { s with receiveFailed := true }

/-- The first operation of the queue starts; it does nothing on a cancelled stream. -/
def write (s : State) (i : ℕ) : Option State :=
  if (s.receiver i).writing then none
  else match (s.receiver i).queue with
  | [] => none
  | payload :: queue =>
    let receiver := { s.receiver i with queue }
    some (s.setReceiver i (if receiver.cancelled then receiver
      else { receiver with
        consumer := receiver.consumer ++ [payload]
        writing := payload ≠ .endStream }))

end State

def step (s : State) : Label → Option State
  | .window call => some { s with window := (s.window.call call).1 }
  | .socket socket => some { s with socket }
  | .chunk i bytes => s.chunk i bytes
  | .credited i => s.credited i
  | .sent i error => s.sent i error
  | .finish i => s.finish i
  | .abandon i => some (s.setSender i { s.sender i with cancelled := true })
  | .deliver accepted => s.deliver accepted
  | .write i => s.write i
  | .written i => some (s.setReceiver i { s.receiver i with writing := false })
  | .writeFailed i =>
    if (s.receiver i).writing then
      some (s.setReceiver i { s.receiver i with writing := false, cancelled := true })
    else none
  | .cancel i => some (s.setReceiver i { s.receiver i with cancelled := true })

def start (initialConnectionBytes : ℤ) (socket : CarrierSocket) : State where
  window := .new initialConnectionBytes
  socket := socket
  sender := fun _ => ⟨[], none, false, false⟩
  wire := []
  receiver := fun _ => ⟨[], false, false, []⟩
  receiveFailed := false

/-- What is on the wire for a stream. -/
def onWire (i : ℕ) (wire : List (ℕ × Payload)) : List Payload :=
  wire.filterMap fun frame => if frame.1 = i then some frame.2 else none

/-- The sends of one stream: each that is over sent its chunk or failed, and only the last may have
failed or run. -/
structure SenderExact (w : FlowPromises) (sender : Sender) : Prop where
  done : ∀ send ∈ sender.done, (send.phase = .completed ∧ send.Exact w) ∨
    ∃ error, send.phase = .failed error ∧ send.frames.flatten <+: send.chunk
  current : ∀ send, sender.current = some send → send.isRunning = true ∧ send.Exact w
  earlier : sender.current.isSome = true ∨ sender.ended = true →
    ∀ send ∈ sender.done, send.phase = .completed
  ended : sender.ended = true → sender.current = none

structure Carried (s : State) : Prop where
  window : s.window.Sound
  sender : ∀ i, SenderExact s.window (s.sender i)
  queued : ∀ i, (s.receiver i).cancelled = false →
    (s.receiver i).consumer ++ (s.receiver i).queue <+: (s.sender i).payloads
  carried : ∀ i, (s.receiver i).cancelled = false → s.receiveFailed = false →
    (s.receiver i).consumer ++ (s.receiver i).queue ++ onWire i s.wire = (s.sender i).payloads
  finished : ∀ i, .endStream ∈ (s.receiver i).consumer →
    (s.sender i).ended = true ∧ (s.receiver i).consumer = (s.sender i).payloads

namespace Sender

theorem put_calls (sender : Sender) (send : DataSend) :
    (sender.put send).calls = sender.done ++ [send] := by
  unfold put
  split_ifs
  · rfl
  · simp [calls]

theorem put_ended (sender : Sender) (send : DataSend) :
    (sender.put send).ended = sender.ended := by
  unfold put
  split_ifs
  · rfl
  · rfl

theorem put_done {sender : Sender} {send other : DataSend} (hother : other ∈ (sender.put send).done) :
    other ∈ sender.done ∨ other = send ∧ send.isRunning = false := by
  unfold put at hother
  split_ifs at hother with hrunning
  · exact Or.inl hother
  · rcases List.mem_append.1 hother with hold | hnew
    · exact Or.inl hold
    · exact Or.inr ⟨List.mem_singleton.1 hnew, by simpa using hrunning⟩

theorem put_current {sender : Sender} {send other : DataSend}
    (hother : (sender.put send).current = some other) : other = send ∧ send.isRunning = true := by
  unfold put at hother
  split_ifs at hother with hrunning
  exact ⟨(Option.some.inj hother).symm, hrunning⟩

theorem put_payloads {sender : Sender} (send : DataSend) (hended : sender.ended = false) :
    (sender.put send).payloads =
      ((sender.done.flatMap DataSend.frames) ++ send.frames).map .data := by
  simp [payloads, put_calls, put_ended, hended]

theorem payloads_idle {sender : Sender} (hcurrent : sender.current = none)
    (hended : sender.ended = false) :
    sender.payloads = (sender.done.flatMap DataSend.frames).map .data := by
  simp [payloads, calls, hcurrent, hended]

theorem payloads_running {sender : Sender} {send : DataSend} (hcurrent : sender.current = some send)
    (hended : sender.ended = false) :
    sender.payloads = ((sender.done.flatMap DataSend.frames) ++ send.frames).map .data := by
  simp [payloads, calls, hcurrent, hended]

theorem isIdle_iff {sender : Sender} : sender.isIdle = true ↔ sender.current = none ∧
    sender.cancelled = false ∧ sender.ended = false ∧
      ∀ send ∈ sender.done, send.phase = .completed := by
  simp [isIdle, and_assoc]

/-- END is the last payload. -/
theorem payloads_of_end {sender : Sender} {head : List Payload}
    (hbegins : head ++ [.endStream] <+: sender.payloads) :
    sender.ended = true ∧ head ++ [.endStream] = sender.payloads := by
  have hdata : .endStream ∉ (sender.calls.flatMap DataSend.frames).map Payload.data := by
    simp
  have hmem : .endStream ∈ sender.payloads :=
    hbegins.subset (List.mem_append_right _ (List.mem_singleton_self _))
  unfold payloads at hbegins hmem ⊢
  cases hended : sender.ended with
  | false =>
    rw [hended] at hmem
    simp at hmem
  | true =>
    refine ⟨rfl, ?_⟩
    rw [hended, if_pos rfl] at hbegins
    rw [if_pos rfl]
    obtain ⟨rest, hrest⟩ := hbegins
    rcases List.eq_nil_or_concat rest with rfl | ⟨rest, last, rfl⟩
    · simpa using hrest
    · rw [List.concat_eq_append, ← List.append_assoc] at hrest
      have hhead := (List.append_inj' hrest rfl).1
      refine absurd ?_ hdata
      rw [← hhead]
      simp

end Sender

section Sends

variable {w w' : FlowPromises} {sender : Sender}

theorem SenderExact.extends (h : SenderExact w sender) (hextends : FlowPromises.Extends w w')
    (hsound : w'.Sound) : SenderExact w' sender := by
  refine ⟨?_, ?_, h.earlier, h.ended⟩
  · intro send hsend
    rcases h.done send hsend with ⟨hcompleted, hexact⟩ | hfailed
    · exact Or.inl ⟨hcompleted, hexact.extends hextends hsound⟩
    · exact Or.inr hfailed
  · intro send hsend
    obtain ⟨hrunning, hexact⟩ := h.current send hsend
    exact ⟨hrunning, hexact.extends hextends hsound⟩

/-- The sends before the one that changes were completed. -/
theorem SenderExact.put (h : SenderExact w sender) {send : DataSend}
    (hcompleted : ∀ other ∈ sender.done, other.phase = .completed) (hended : sender.ended = false)
    (hsend : send.Exact w ∨
      ∃ error, send.phase = .failed error ∧ send.frames.flatten <+: send.chunk) :
    SenderExact w (sender.put send) := by
  refine ⟨?_, ?_, ?_, ?_⟩
  · intro other hother
    rcases Sender.put_done hother with hold | ⟨rfl, hover⟩
    · exact h.done other hold
    · rcases hsend with hexact | hfailed
      · cases hphase : other.phase with
        | completed => exact Or.inl ⟨rfl, hexact⟩
        | failed error => exact Or.inr ⟨error, rfl, hexact.sent_begins⟩
        | taking ticket => simp [DataSend.isRunning, hphase] at hover
        | sending bytes => simp [DataSend.isRunning, hphase] at hover
      · exact Or.inr hfailed
  · intro other hother
    obtain ⟨rfl, hrunning⟩ := Sender.put_current hother
    rcases hsend with hexact | ⟨error, hphase, -⟩
    · exact ⟨hrunning, hexact⟩
    · simp [DataSend.isRunning, hphase] at hrunning
  · intro hrunning other hother
    rw [Sender.put_ended, hended] at hrunning
    rcases hrunning with hcurrent | hend
    · rcases Sender.put_done hother with hold | ⟨rfl, hover⟩
      · exact hcompleted other hold
      · obtain ⟨send, hsend⟩ := Option.isSome_iff_exists.1 hcurrent
        rw [(Sender.put_current hsend).2] at hover
        cases hover
    · cases hend
  · intro hend
    rw [Sender.put_ended, hended] at hend
    cases hend

end Sends

theorem onWire_append (i : ℕ) (first second : List (ℕ × Payload)) :
    onWire i (first ++ second) = onWire i first ++ onWire i second :=
  List.filterMap_append

theorem onWire_own (i : ℕ) (payloads : List Payload) :
    onWire i (payloads.map fun payload => (i, payload)) = payloads := by
  induction payloads with
  | nil => rfl
  | cons payload payloads ih =>
    rw [List.map_cons, onWire, List.filterMap_cons_some (b := payload) (by simp)]
    exact congrArg (payload :: ·) ih

theorem onWire_other {i j : ℕ} (h : j ≠ i) (payloads : List Payload) :
    onWire i (payloads.map fun payload => (j, payload)) = [] := by
  rw [onWire, List.filterMap_eq_nil_iff]
  intro frame hframe
  obtain ⟨payload, -, rfl⟩ := List.mem_map.1 hframe
  simp [h]

section Steps

variable {s s' : State}

theorem start_carried (initialConnectionBytes : ℤ) (hinitial : 0 < initialConnectionBytes)
    (socket : CarrierSocket) : Carried (start initialConnectionBytes socket) := by
  refine ⟨FlowPromises.run_sound hinitial [], fun i => ⟨nofun, nofun, nofun, nofun⟩,
    fun i _ => List.nil_prefix, fun i _ _ => rfl, nofun⟩

/-- A call of the window by anyone. -/
theorem Carried.window_step (h : Carried s) {w' : FlowPromises}
    (hextends : FlowPromises.Extends s.window w') (hsound : w'.Sound) :
    Carried { s with window := w' } :=
  ⟨hsound, fun i => (h.sender i).extends hextends hsound, h.queued, h.carried, h.finished⟩

/-- A step of one sender: what it adds to the stream goes on the wire. -/
theorem Carried.sender_step (h : Carried s) (i : ℕ) (sender' : Sender) (socket' : CarrierSocket)
    (new : List Payload) (hexact : SenderExact s.window sender')
    (hpayloads : sender'.payloads = (s.sender i).payloads ++ new)
    (hended : (s.sender i).ended = true → sender'.ended = true ∧ new = []) :
    Carried { s.setSender i sender' with
      socket := socket'
      wire := s.wire ++ new.map fun payload => (i, payload) } := by
  have hgrows : ∀ j, (s.sender j).payloads <+: (Function.update s.sender i sender' j).payloads := by
    intro j
    rcases eq_or_ne j i with rfl | hother
    · rw [Function.update_self, hpayloads]
      exact List.prefix_append _ _
    · rw [Function.update_of_ne hother]
  refine ⟨h.window, ?_, ?_, ?_, ?_⟩
  · intro j
    show SenderExact s.window (Function.update s.sender i sender' j)
    rcases eq_or_ne j i with rfl | hother
    · rwa [Function.update_self]
    · rw [Function.update_of_ne hother]
      exact h.sender j
  · intro j hlive
    exact (h.queued j hlive).trans (hgrows j)
  · intro j hlive hreceives
    have hcarried := h.carried j hlive hreceives
    show (s.receiver j).consumer ++ (s.receiver j).queue ++ onWire j (s.wire ++ _) =
      (Function.update s.sender i sender' j).payloads
    rw [onWire_append, ← List.append_assoc, hcarried]
    rcases eq_or_ne j i with rfl | hother
    · rw [Function.update_self, hpayloads, onWire_own]
    · rw [Function.update_of_ne hother, onWire_other hother.symm, List.append_nil]
  · intro j hend
    obtain ⟨hdone, hconsumer⟩ := h.finished j hend
    show (Function.update s.sender i sender' j).ended = true ∧
      (s.receiver j).consumer = (Function.update s.sender i sender' j).payloads
    rcases eq_or_ne j i with rfl | hother
    · obtain ⟨hdone', hnone⟩ := hended hdone
      rw [Function.update_self, hpayloads, hnone, List.append_nil]
      exact ⟨hdone', hconsumer⟩
    · rw [Function.update_of_ne hother]
      exact ⟨hdone, hconsumer⟩

theorem Carried.sender_quiet (h : Carried s) (i : ℕ) {sender' : Sender}
    (hexact : SenderExact s.window sender') (hpayloads : sender'.payloads = (s.sender i).payloads)
    (hended : (s.sender i).ended = true → sender'.ended = true) : Carried (s.setSender i sender') := by
  have hcarried := h.sender_step i sender' s.socket [] hexact
    (hpayloads.trans (List.append_nil _).symm) (fun hend => ⟨hended hend, rfl⟩)
  simpa [State.setSender] using hcarried

/-- A step of one receiver that leaves what it has in the same order. -/
theorem Carried.receiver_step (h : Carried s) (i : ℕ) {receiver' : Receiver}
    (hlive : receiver'.cancelled = false → (s.receiver i).cancelled = false ∧
      receiver'.consumer ++ receiver'.queue = (s.receiver i).consumer ++ (s.receiver i).queue)
    (hfinished : .endStream ∈ receiver'.consumer →
      (s.sender i).ended = true ∧ receiver'.consumer = (s.sender i).payloads) :
    Carried (s.setReceiver i receiver') := by
  refine ⟨h.window, h.sender, ?_, ?_, ?_⟩
  · intro j hcancelled
    simp only [State.setReceiver] at hcancelled ⊢
    rcases eq_or_ne j i with rfl | hother
    · rw [Function.update_self] at hcancelled ⊢
      rw [(hlive hcancelled).2]
      exact h.queued j (hlive hcancelled).1
    · rw [Function.update_of_ne hother] at hcancelled ⊢
      exact h.queued j hcancelled
  · intro j hcancelled hreceives
    simp only [State.setReceiver] at hcancelled ⊢
    rcases eq_or_ne j i with rfl | hother
    · rw [Function.update_self] at hcancelled ⊢
      rw [(hlive hcancelled).2]
      exact h.carried j (hlive hcancelled).1 hreceives
    · rw [Function.update_of_ne hother] at hcancelled ⊢
      exact h.carried j hcancelled hreceives
  · intro j hend
    simp only [State.setReceiver] at hend ⊢
    rcases eq_or_ne j i with rfl | hother
    · rw [Function.update_self] at hend ⊢
      exact hfinished hend
    · rw [Function.update_of_ne hother] at hend ⊢
      exact h.finished j hend

theorem Carried.abandon_carried (h : Carried s) (i : ℕ) :
    Carried (s.setSender i { s.sender i with cancelled := true }) := by
  have hsender := h.sender i
  exact h.sender_quiet i ⟨hsender.done, hsender.current, hsender.earlier, hsender.ended⟩ rfl id

theorem chunk_carried (h : Carried s) {i : ℕ} {bytes : List UInt8}
    (hstep : s.chunk i bytes = some s') : Carried s' := by
  unfold State.chunk at hstep
  split_ifs at hstep with hidle
  obtain ⟨hcurrent, -, hended, hcompleted⟩ := Sender.isIdle_iff.1 hidle
  cases hstep
  have hwindow := DataSend.loop_window h.window
    { streamId := i, chunk := bytes, offset := 0, phase := .completed, frames := [], tickets := [] }
  have hframes := (DataSend.loop_frames s.window
    { streamId := i, chunk := bytes, offset := 0, phase := .completed, frames := [],
      tickets := [] }).1
  have hexact := DataSend.start_exact h.window i bytes
  have hopened := h.window_step hwindow.1 hwindow.2
  have hput := (hopened.sender i).put hcompleted hended (Or.inl hexact)
  have hpayloads : ((s.sender i).put (DataSend.start s.window i bytes).2).payloads =
      (s.sender i).payloads := by
    rw [Sender.put_payloads _ hended, Sender.payloads_idle hcurrent hended]
    rw [show (DataSend.start s.window i bytes).2.frames = [] from hframes, List.append_nil]
  exact hopened.sender_quiet i hput hpayloads (by simp [hended])

theorem credited_carried (h : Carried s) {i : ℕ} (hstep : s.credited i = some s') :
    Carried s' := by
  unfold State.credited at hstep
  obtain ⟨send, hcurrent, hstep⟩ := Option.bind_eq_some_iff.1 hstep
  obtain ⟨⟨socket, next⟩, hcredited, rfl⟩ := Option.map_eq_some_iff.1 hstep
  have hsender := h.sender i
  obtain ⟨-, hexact⟩ := hsender.current send hcurrent
  have hcompleted := hsender.earlier (Or.inl (by simp [hcurrent]))
  have hended : (s.sender i).ended = false := by
    by_contra hend
    rw [hsender.ended (by simpa using hend)] at hcurrent
    cases hcurrent
  have hnext : ∃ new, next.frames = send.frames ++ new ∧ (next.Exact s.window ∨
      ∃ error, next.phase = .failed error ∧ next.frames.flatten <+: next.chunk) := by
    rcases DataSend.credited_exact hexact h.window hcredited with ⟨error, rfl⟩ |
      ⟨payload, hnext, hexact'⟩
    · exact ⟨[], (List.append_nil _).symm, Or.inr ⟨error, rfl, hexact.sent_begins⟩⟩
    · exact ⟨[payload], by rw [hnext], Or.inl hexact'⟩
  obtain ⟨new, hframes, hsend⟩ := hnext
  have hput := hsender.put hcompleted hended hsend
  have hpayloads : ((s.sender i).put next).payloads = (s.sender i).payloads ++ new.map .data := by
    rw [Sender.put_payloads _ hended, Sender.payloads_running hcurrent hended, hframes,
      ← List.map_append, List.append_assoc]
  have hcarried := h.sender_step i _ socket _ hput hpayloads (by simp [hended])
  rw [List.map_map] at hcarried
  simp only [hframes, List.drop_left]
  exact hcarried

theorem sent_carried (h : Carried s) {i : ℕ} {error : Option JsError}
    (hstep : s.sent i error = some s') : Carried s' := by
  unfold State.sent at hstep
  obtain ⟨send, hcurrent, hstep⟩ := Option.bind_eq_some_iff.1 hstep
  obtain ⟨⟨w', next⟩, hsent, rfl⟩ := Option.map_eq_some_iff.1 hstep
  have hsender := h.sender i
  obtain ⟨-, hexact⟩ := hsender.current send hcurrent
  have hcompleted := hsender.earlier (Or.inl (by simp [hcurrent]))
  have hended : (s.sender i).ended = false := by
    by_contra hend
    rw [hsender.ended (by simpa using hend)] at hcurrent
    cases hcurrent
  obtain ⟨hextends, hsound⟩ := DataSend.sent_window h.window hsent
  obtain ⟨hframes, hchunk, hnext⟩ := DataSend.sent_exact hexact h.window hsent
  have hopened := h.window_step hextends hsound
  have hsend : next.Exact w' ∨
      ∃ error, next.phase = .failed error ∧ next.frames.flatten <+: next.chunk := by
    rcases hnext with ⟨error, hphase, -⟩ | hexact'
    · refine Or.inr ⟨error, hphase, ?_⟩
      rw [hframes, hchunk]
      exact hexact.sent_begins
    · exact Or.inl hexact'
  have hput := (hopened.sender i).put hcompleted hended hsend
  have hpayloads : ((s.sender i).put next).payloads = (s.sender i).payloads := by
    rw [Sender.put_payloads _ hended, Sender.payloads_running hcurrent hended, hframes]
  exact hopened.sender_quiet i hput hpayloads (by simp [hended])

theorem finish_carried (h : Carried s) {i : ℕ} (hstep : s.finish i = some s') : Carried s' := by
  unfold State.finish at hstep
  split_ifs at hstep with hidle
  obtain ⟨hcurrent, -, hended, hcompleted⟩ := Sender.isIdle_iff.1 hidle
  have hsender := h.sender i
  split at hstep
  · cases hstep
    exact h.abandon_carried i
  · rename_i socket hsocket
    cases hstep
    refine h.sender_step i { s.sender i with ended := true } socket [.endStream]
      ⟨hsender.done, hsender.current, fun _ => hcompleted, fun _ => hcurrent⟩ ?_ ?_
    · rw [Sender.payloads_idle hcurrent hended]
      simp [Sender.payloads, Sender.calls, hcurrent]
    · intro hend
      rw [hended] at hend
      cases hend

theorem deliver_carried (h : Carried s) {accepted : Bool} (hstep : s.deliver accepted = some s') :
    Carried s' := by
  unfold State.deliver at hstep
  split at hstep
  · cases hstep
  · rename_i i payload wire hwire
    have hfirst : onWire i s.wire = payload :: onWire i wire := by
      rw [hwire, onWire, List.filterMap_cons_some (b := payload) (by simp)]
      rfl
    have hothers : ∀ j, j ≠ i → onWire j s.wire = onWire j wire := by
      intro j hother
      rw [hwire, onWire, List.filterMap_cons_none (by simp [hother.symm])]
      rfl
    dsimp only at hstep
    split_ifs at hstep with hlost haccepted
    · cases hstep
      refine ⟨h.window, h.sender, h.queued, ?_, h.finished⟩
      intro j hlive hreceives
      dsimp only at hreceives hlive
      have hother : j ≠ i := by
        rintro rfl
        rw [hreceives, hlive] at hlost
        cases hlost
      have hcarried := h.carried j hlive hreceives
      rwa [hothers j hother] at hcarried
    · cases hstep
      obtain ⟨hreceives, hlive⟩ : s.receiveFailed = false ∧ (s.receiver i).cancelled = false := by
        simpa using hlost
      have hcarried := h.carried i hlive hreceives
      rw [hfirst, List.append_cons] at hcarried
      refine ⟨h.window, h.sender, ?_, ?_, ?_⟩
      · intro j hcancelled
        simp only [State.setReceiver] at hcancelled ⊢
        rcases eq_or_ne j i with rfl | hother
        · rw [Function.update_self, ← hcarried, ← List.append_assoc]
          exact List.prefix_append _ _
        · rw [Function.update_of_ne hother] at hcancelled ⊢
          exact h.queued j hcancelled
      · intro j hcancelled _
        simp only [State.setReceiver] at hcancelled ⊢
        rcases eq_or_ne j i with rfl | hother
        · rw [Function.update_self, ← hcarried]
          simp
        · rw [Function.update_of_ne hother] at hcancelled ⊢
          have hunchanged := h.carried j hcancelled hreceives
          rwa [hothers j hother] at hunchanged
      · intro j hend
        simp only [State.setReceiver] at hend ⊢
        rcases eq_or_ne j i with rfl | hother
        · rw [Function.update_self] at hend ⊢
          exact h.finished j hend
        · rw [Function.update_of_ne hother] at hend ⊢
          exact h.finished j hend
    · cases hstep
      exact ⟨h.window, h.sender, h.queued, nofun, h.finished⟩

theorem write_carried (h : Carried s) {i : ℕ} (hstep : s.write i = some s') : Carried s' := by
  unfold State.write at hstep
  split_ifs at hstep with hwriting
  split at hstep
  · cases hstep
  · rename_i payload queue hqueue
    dsimp only at hstep
    split_ifs at hstep with hcancelled
    · cases hstep
      refine h.receiver_step i (fun hlive => ?_) (h.finished i)
      rw [hcancelled] at hlive
      cases hlive
    · cases hstep
      have hlive : (s.receiver i).cancelled = false := by simpa using hcancelled
      have hqueued := h.queued i hlive
      rw [hqueue, List.append_cons] at hqueued
      refine h.receiver_step i (fun _ => ⟨hlive, ?_⟩) (fun hend => ?_)
      · rw [hqueue]
        simp
      · have hbegins := (List.prefix_append _ _).trans hqueued
        rcases List.mem_append.1 hend with hearlier | hlast
        · obtain ⟨-, hconsumer⟩ := h.finished i hearlier
          have hlength := hbegins.length_le
          rw [← hconsumer, List.length_append, List.length_singleton] at hlength
          omega
        · obtain rfl := List.mem_singleton.1 hlast
          exact Sender.payloads_of_end hbegins

theorem step_carried (h : Carried s) {label : Label} (hstep : step s label = some s') :
    Carried s' := by
  cases label with
  | window call =>
    cases hstep
    exact h.window_step (FlowPromises.call_extends s.window call)
      (FlowPromises.call_sound h.window call)
  | socket socket =>
    cases hstep
    exact ⟨h.window, h.sender, h.queued, h.carried, h.finished⟩
  | chunk i bytes => exact chunk_carried h hstep
  | credited i => exact credited_carried h hstep
  | sent i error => exact sent_carried h hstep
  | finish i => exact finish_carried h hstep
  | abandon i =>
    cases hstep
    exact h.abandon_carried i
  | deliver accepted => exact deliver_carried h hstep
  | write i => exact write_carried h hstep
  | written i =>
    cases hstep
    exact h.receiver_step i (fun hlive => ⟨hlive, rfl⟩) (h.finished i)
  | writeFailed i =>
    simp only [step] at hstep
    split_ifs at hstep
    cases hstep
    exact h.receiver_step i nofun (h.finished i)
  | cancel i =>
    cases hstep
    exact h.receiver_step i nofun (h.finished i)

theorem run_carried {initialConnectionBytes : ℤ} (hinitial : 0 < initialConnectionBytes)
    {socket : CarrierSocket} {labels : List Label}
    (hrun : Execution.run step (start initialConnectionBytes socket) labels = some s) :
    Carried s :=
  Execution.invariant_of_run (fun _ _ _ h hstep => step_carried h hstep)
    (start_carried initialConnectionBytes hinitial socket) hrun

end Steps

theorem SenderExact.completed {w : FlowPromises} {sender : Sender} (h : SenderExact w sender)
    {send : DataSend} (hsend : send ∈ sender.calls) (hphase : send.phase = .completed) :
    send.Exact w := by
  rcases List.mem_append.1 hsend with hdone | hcurrent
  · rcases h.done send hdone with ⟨-, hexact⟩ | ⟨error, hfailed, -⟩
    · exact hexact
    · rw [hphase] at hfailed
      cases hfailed
  · exact (h.current send (by simpa using hcurrent)).2

theorem SenderExact.sent_begins {w : FlowPromises} {sender : Sender} (h : SenderExact w sender)
    {send : DataSend} (hsend : send ∈ sender.calls) : send.frames.flatten <+: send.chunk := by
  rcases List.mem_append.1 hsend with hdone | hcurrent
  · rcases h.done send hdone with ⟨-, hexact⟩ | ⟨error, -, hbegins⟩
    · exact hexact.sent_begins
    · exact hbegins
  · exact (h.current send (by simpa using hcurrent)).2.sent_begins

theorem SenderExact.all_completed {w : FlowPromises} {sender : Sender} (h : SenderExact w sender)
    (hended : sender.ended = true) : ∀ send ∈ sender.calls, send.phase = .completed := by
  intro send hsend
  rw [Sender.calls, h.ended hended] at hsend
  exact h.earlier (Or.inr hended) send (by simpa using hsend)

theorem SenderExact.frames_flatten {w : FlowPromises} {sender : Sender} (h : SenderExact w sender)
    (hended : sender.ended = true) :
    (sender.calls.flatMap DataSend.frames).flatten = sender.chunks.flatten := by
  have hcompleted := h.all_completed hended
  have hwhole : ∀ send ∈ sender.calls, send.frames.flatten = send.chunk := fun send hsend =>
    ((h.completed hsend (hcompleted send hsend)).whole (hcompleted send hsend)).1
  unfold Sender.chunks
  generalize sender.calls = calls at hwhole
  induction calls with
  | nil => rfl
  | cons send calls ih =>
    rw [List.flatMap_cons, List.flatten_append, List.map_cons, List.flatten_cons,
      hwhole send List.mem_cons_self,
      ih fun other hother => hwhole other (List.mem_cons_of_mem _ hother)]

/-- A completed send handed its chunk to the socket, a failed one a beginning of it, and a consumer
that was ended got the chunks of the whole stream. -/
theorem transfer_exact (initialConnectionBytes : ℤ) (hinitial : 0 < initialConnectionBytes)
    (socket : CarrierSocket) (labels : List Label) (s : State)
    (hrun : Execution.run step (start initialConnectionBytes socket) labels = some s) (i : ℕ) :
    (∀ send ∈ (s.sender i).calls, send.phase = .completed →
      (∀ payload ∈ send.frames, payload ≠ [] ∧ payload.length ≤ MAX_DATA_CHUNK_BYTES) ∧
        send.frames.flatten = send.chunk ∧ send.creditTaken s.window = send.chunk.length) ∧
      (∀ send ∈ (s.sender i).calls, send.frames.flatten <+: send.chunk) ∧
      (.endStream ∈ (s.receiver i).consumer →
        (∀ send ∈ (s.sender i).calls, send.phase = .completed) ∧
          ∃ writes : List (List UInt8),
            (s.receiver i).consumer = writes.map .data ++ [.endStream] ∧
              writes.flatten = (s.sender i).chunks.flatten) := by
  have hcarried := run_carried hinitial hrun
  have hsender := hcarried.sender i
  refine ⟨?_, fun send hsend => hsender.sent_begins hsend, ?_⟩
  · intro send hsend hphase
    have hexact := hsender.completed hsend hphase
    exact ⟨hexact.sizes, hexact.whole hphase⟩
  · intro hend
    obtain ⟨hended, hconsumer⟩ := hcarried.finished i hend
    refine ⟨hsender.all_completed hended, (s.sender i).calls.flatMap DataSend.frames, ?_,
      hsender.frames_flatten hended⟩
    rw [hconsumer, Sender.payloads, hended, if_pos rfl]

/-- Two chunks with less credit than bytes, the consumer slow. -/
def stalledTransfer : List Label :=
  [.window (.openStream 1 3), .chunk 1 [1, 2, 3, 4, 5], .credited 1, .sent 1 none, .deliver true,
    .write 1, .window (.update 1 3), .credited 1, .deliver true, .sent 1 none,
    .chunk 1 [6], .credited 1, .sent 1 none, .finish 1, .written 1, .deliver true, .write 1,
    .written 1, .deliver true, .write 1, .written 1, .write 1]

theorem transfer_exact_stalled :
    ∃ s, Execution.run step (start 3 ⟨true, 0⟩) stalledTransfer = some s ∧
      (s.receiver 1).consumer = [.data [1, 2, 3], .data [4, 5], .data [6], .endStream] ∧
      ∃ writes : List (List UInt8), (s.receiver 1).consumer = writes.map .data ++ [.endStream] ∧
        writes.flatten = (s.sender 1).chunks.flatten := by
  have hends : (Execution.run step (start 3 ⟨true, 0⟩) stalledTransfer).map
      (fun s => (s.receiver 1).consumer) =
        some [.data [1, 2, 3], .data [4, 5], .data [6], .endStream] := by decide +kernel
  obtain ⟨s, hrun, hconsumer⟩ := Option.map_eq_some_iff.1 hends
  refine ⟨s, hrun, hconsumer, ((transfer_exact 3 (by decide) _ _ s hrun 1).2.2 ?_).2⟩
  rw [hconsumer]
  decide

end Lotur.Transfer
