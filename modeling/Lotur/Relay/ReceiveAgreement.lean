import Lotur.Library.Execution
import Lotur.Relay.ReceiveSpec

/-! `GatewayInboundFlow` keeps the credit that is left and `InboundFlowWindow` what was consumed;
both do what `ReceiveSpec` says. -/
namespace Lotur

/-- How an implementation answers a call of the specification. -/
def Answers {α : Type*} (Shows : α → ReceiveSpec → Prop) (before : α)
    (result : α × Option JsError) : Option ReceiveSpec → Prop
  | none => result.1 = before ∧
      ∃ error, result.2 = some error ∧ error ∉ GatewayInboundFlow.exceedsMaximum
  | some next => result.2 = none ∧ Shows result.1 next

theorem answers_refused {α : Type*} {Shows : α → ReceiveSpec → Prop} {before : α} {error : JsError}
    (herror : error ∉ GatewayInboundFlow.exceedsMaximum) :
    Answers Shows before (before, some error) none :=
  ⟨rfl, error, rfl, herror⟩

/-- Stream ids fit in 32 bits, the client has room for another frame, and what a caller gives back
on an open stream is a frame that was consumed on it and is not given back. -/
def Admissible (window : InboundFlowWindow) (spec : ReceiveSpec) : ReceiveCall → Prop
  | .openStream i _ => i ≤ 0xffffffff
  | .consume _ _ => window.pendingFrames < window.maxPendingFrames
  | .release i bytes => ∀ stream ∈ spec.streams.lookup i, bytes ∈ stream.frames
  | _ => True

instance (window : InboundFlowWindow) (spec : ReceiveSpec) (call : ReceiveCall) :
    Decidable (Admissible window spec call) :=
  match call with
  | .openStream i _ => inferInstanceAs (Decidable (i ≤ 0xffffffff))
  | .consume _ _ => inferInstanceAs (Decidable (_ < _))
  | .release i bytes =>
    inferInstanceAs (Decidable (∀ stream ∈ spec.streams.lookup i, bytes ∈ stream.frames))
  | .closeStream _ | .retireStream _ | .consumeRetiredData _ _ => isTrue trivial

namespace ReceiveSpec

variable {spec next : ReceiveSpec}

theorem heldBytes_replace {i : ℕ} {old : ReceivedStream}
    (hlookup : spec.streams.lookup i = some old) (new : ReceivedStream) :
    heldBytes { spec with streams := spec.streams.insert i new } =
      spec.heldBytes + (new.frames.sum - old.frames.sum) :=
  AList.total_replace _ hlookup new

theorem heldFrames_replace {i : ℕ} {old : ReceivedStream}
    (hlookup : spec.streams.lookup i = some old) (new : ReceivedStream) :
    heldFrames { spec with streams := spec.streams.insert i new } =
      spec.heldFrames + (new.frames.length - old.frames.length) :=
  AList.total_replace _ hlookup new

theorem heldBytes_open {i : ℕ} (hmem : i ∉ spec.streams) (limit : ℕ) :
    heldBytes { spec with streams := spec.streams.insert i ⟨limit, []⟩ } = spec.heldBytes := by
  refine (AList.total_new _ hmem _).trans ?_
  simp [heldBytes]

theorem heldFrames_open {i : ℕ} (hmem : i ∉ spec.streams) (limit : ℕ) :
    heldFrames { spec with streams := spec.streams.insert i ⟨limit, []⟩ } = spec.heldFrames := by
  refine (AList.total_new _ hmem _).trans ?_
  simp [heldFrames]

theorem heldBytes_close {i : ℕ} {stream : ReceivedStream}
    (hlookup : spec.streams.lookup i = some stream) :
    (spec.close i).heldBytes + stream.frames.sum = spec.heldBytes :=
  AList.total_erase _ hlookup

theorem heldFrames_close {i : ℕ} {stream : ReceivedStream}
    (hlookup : spec.streams.lookup i = some stream) :
    (spec.close i).heldFrames + stream.frames.length = spec.heldFrames :=
  AList.total_erase _ hlookup

theorem heldBytes_nonneg (spec : ReceiveSpec) : 0 ≤ spec.heldBytes :=
  AList.total_nonneg _ fun _ _ _ => Int.natCast_nonneg _

theorem heldFrames_nonneg (spec : ReceiveSpec) : 0 ≤ spec.heldFrames :=
  AList.total_nonneg _ fun _ _ _ => Int.natCast_nonneg _

theorem within_insert (h : spec.Within) {i : ℕ} {new : ReceivedStream}
    (hnew : new.frames.sum ≤ new.limit) :
    Within { spec with streams := spec.streams.insert i new } := by
  intro j stream hlookup
  dsimp only at hlookup
  rcases eq_or_ne j i with rfl | hother
  · rw [AList.lookup_insert] at hlookup
    obtain rfl := Option.some.inj hlookup
    exact hnew
  · rw [AList.lookup_insert_ne hother] at hlookup
    exact h j stream hlookup

theorem within_close (h : spec.Within) (i : ℕ) : (spec.close i).Within := by
  intro j stream hlookup
  simp only [close] at hlookup
  rcases eq_or_ne j i with rfl | hother
  · rw [AList.lookup_erase] at hlookup
    cases hlookup
  · rw [AList.lookup_erase_ne hother] at hlookup
    exact h j stream hlookup

theorem sum_erase {frames : List ℕ} {bytes : ℕ} (h : bytes ∈ frames) :
    (frames.erase bytes).sum + bytes = frames.sum := by
  rw [add_comm]
  exact List.sum_erase h

theorem call_within (h : spec.Within) {call : ReceiveCall} (hcall : spec.call call = some next) :
    next.Within := by
  cases call with
  | openStream i bytes =>
    simp only [ReceiveSpec.call] at hcall
    split_ifs at hcall
    cases hcall
    exact within_insert h (Nat.zero_le _)
  | consume i bytes =>
    simp only [ReceiveSpec.call] at hcall
    split_ifs at hcall
    obtain ⟨stream, hlookup, hcall⟩ := Option.bind_eq_some_iff.1 hcall
    split_ifs at hcall with haccepted
    cases hcall
    refine within_insert h ?_
    rw [List.sum_append, List.sum_singleton]
    exact haccepted.1
  | release i bytes =>
    simp only [ReceiveSpec.call] at hcall
    split_ifs at hcall
    obtain ⟨stream, hlookup, hcall⟩ := Option.bind_eq_some_iff.1 hcall
    split_ifs at hcall with hmem
    cases hcall
    have hsum := sum_erase hmem
    have hle := h i stream hlookup
    refine within_insert h ?_
    dsimp only
    omega
  | closeStream i =>
    simp only [ReceiveSpec.call, Option.some.injEq] at hcall
    split at hcall
    · cases hcall
      exact h
    · cases hcall
      exact within_close h i
  | retireStream i =>
    simp only [ReceiveSpec.call, Option.some.injEq] at hcall
    split at hcall
    · cases hcall
      exact h
    · cases hcall
      exact within_close h i
  | consumeRetiredData i bytes =>
    simp only [ReceiveSpec.call] at hcall
    split at hcall
    · cases hcall
      exact h
    · cases hcall

end ReceiveSpec

theorem RetiredDataBudget.consume_error {budget : RetiredDataBudget} {i bytes : ℕ}
    {error : JsError} (herror : budget.consume i bytes = .error error) :
    error ∉ GatewayInboundFlow.exceedsMaximum := by
  unfold consume at herror
  dsimp only at herror
  split_ifs at herror
  all_goals
    cases herror
    simp [GatewayInboundFlow.exceedsMaximum]

namespace GatewayInboundFlow

def credit (stream : ReceivedStream) : StreamCredit :=
  ⟨stream.limit, stream.limit - stream.frames.sum, stream.frames.sum⟩

/-- The credit that is left of each limit. -/
structure Shows (flow : GatewayInboundFlow) (spec : ReceiveSpec) : Prop where
  initial : flow.initialConnectionBytes = spec.connectionLimit
  connection : flow.connectionAvailable + spec.heldBytes = spec.connectionLimit
  streams : ∀ i, flow.streams.lookup i = (spec.streams.lookup i).map credit
  retired : flow.retiredData = spec.retiredData

variable {flow : GatewayInboundFlow} {spec : ReceiveSpec}

theorem start_shows (limit maximumFrames : ℕ) :
    Shows (new limit maximumFrames) (.new limit maximumFrames) :=
  ⟨rfl, by simp [new, ReceiveSpec.new, ReceiveSpec.heldBytes], fun _ => rfl, rfl⟩

theorem openStream_answers (h : Shows flow spec) (i bytes : ℕ) :
    Answers Shows flow (flow.call (.openStream i bytes)) (spec.call (.openStream i bytes)) := by
  have hmem := AList.shown_mem h.streams i
  simp only [call, openStream, ReceiveSpec.call]
  by_cases hid : i = 0
  · rw [if_pos hid, if_neg (by omega)]
    exact answers_refused (by simp [exceedsMaximum])
  rw [if_neg hid]
  by_cases hbytes : bytes = 0
  · rw [if_pos hbytes, if_neg (by omega)]
    exact answers_refused (by simp [exceedsMaximum])
  rw [if_neg hbytes]
  by_cases hopen : i ∈ flow.streams
  · rw [if_pos hopen, if_neg fun haccepted => haccepted.2.2 (hmem.1 hopen)]
    exact answers_refused (by simp [exceedsMaximum])
  have hnew : i ∉ spec.streams := fun hstream => hopen (hmem.2 hstream)
  rw [if_neg hopen, if_pos ⟨by omega, by omega, hnew⟩]
  refine ⟨rfl, h.initial, ?_, ?_, h.retired⟩
  · rw [ReceiveSpec.heldBytes_open hnew]
    exact h.connection
  · exact AList.shown_insert h.streams i ⟨bytes, []⟩

theorem consume_answers (h : Shows flow spec) (hwithin : spec.Within) (i bytes : ℕ) :
    Answers Shows flow (flow.call (.consume i bytes)) (spec.call (.consume i bytes)) := by
  have hconnection := h.connection
  have hstream := h.streams i
  simp only [call, consume, ReceiveSpec.call]
  by_cases hbytes : bytes = 0
  · rw [if_pos hbytes, if_pos hbytes]
    exact answers_refused (by simp [exceedsMaximum])
  rw [if_neg hbytes, if_neg hbytes]
  cases hlookup : spec.streams.lookup i with
  | none =>
    rw [hlookup, Option.map_none] at hstream
    rw [hstream]
    exact answers_refused (by simp [exceedsMaximum])
  | some stream =>
    have hle := hwithin i stream hlookup
    rw [hlookup] at hstream
    rw [hstream]
    dsimp only [Option.map_some, Option.bind_some, credit]
    by_cases hcredit : bytes > stream.limit - stream.frames.sum
    · rw [if_pos hcredit, if_neg (by omega)]
      exact answers_refused (by simp [exceedsMaximum])
    rw [if_neg hcredit]
    by_cases hshared : bytes > flow.connectionAvailable
    · rw [if_pos hshared, if_neg (by omega)]
      exact answers_refused (by simp [exceedsMaximum])
    rw [if_neg hshared, if_pos (by omega)]
    refine ⟨rfl, h.initial, ?_, ?_, h.retired⟩
    · rw [ReceiveSpec.heldBytes_replace hlookup, List.sum_append, List.sum_singleton]
      dsimp only [attempted]
      omega
    · have hshown := AList.shown_insert h.streams i ⟨stream.limit, stream.frames ++ [bytes]⟩
      have hcredited : credit ⟨stream.limit, stream.frames ++ [bytes]⟩ =
          ⟨stream.limit, stream.limit - stream.frames.sum - bytes, stream.frames.sum + bytes⟩ := by
        rw [credit, List.sum_append, List.sum_singleton, Nat.sub_sub]
      rwa [hcredited] at hshown

theorem release_answers (h : Shows flow spec) (hwithin : spec.Within) {i bytes : ℕ}
    (hmatched : ∀ stream ∈ spec.streams.lookup i, bytes ∈ stream.frames) :
    Answers Shows flow (flow.call (.release i bytes)) (spec.call (.release i bytes)) := by
  have hconnection := h.connection
  have hinitial := h.initial
  have hstream := h.streams i
  simp only [call, releaseCall, ReceiveSpec.call]
  by_cases hbytes : bytes = 0
  · rw [if_pos hbytes, if_pos hbytes]
    exact answers_refused (by simp [exceedsMaximum])
  rw [if_neg hbytes, if_neg hbytes]
  cases hlookup : spec.streams.lookup i with
  | none =>
    rw [hlookup, Option.map_none] at hstream
    rw [hstream]
    exact answers_refused (by simp [exceedsMaximum])
  | some stream =>
    have hle := hwithin i stream hlookup
    have hmem := hmatched stream hlookup
    have hsum := ReceiveSpec.sum_erase hmem
    have hnext := ReceiveSpec.heldBytes_replace hlookup ⟨stream.limit, stream.frames.erase bytes⟩
    have hnonneg := ReceiveSpec.heldBytes_nonneg
      { spec with streams := spec.streams.insert i ⟨stream.limit, stream.frames.erase bytes⟩ }
    rw [hnext] at hnonneg
    dsimp only at hnonneg
    rw [hlookup] at hstream
    rw [hstream]
    dsimp only [Option.map_some, Option.bind_some, credit]
    rw [if_neg (by omega), if_pos hmem, if_neg (by omega)]
    refine ⟨rfl, h.initial, ?_, ?_, h.retired⟩
    · rw [hnext]
      dsimp only
      omega
    · have hshown := AList.shown_insert h.streams i ⟨stream.limit, stream.frames.erase bytes⟩
      have hleft : stream.limit - (stream.frames.erase bytes).sum =
          stream.limit - stream.frames.sum + bytes := by omega
      have hheld : (stream.frames.erase bytes).sum = stream.frames.sum - bytes := by omega
      have hcredited : credit ⟨stream.limit, stream.frames.erase bytes⟩ =
          ⟨stream.limit, stream.limit - stream.frames.sum + bytes, stream.frames.sum - bytes⟩ := by
        rw [credit, hleft, hheld]
      rwa [hcredited] at hshown

theorem closeCall_answers (h : Shows flow spec) {i : ℕ} {stream : ReceivedStream}
    (hlookup : spec.streams.lookup i = some stream) :
    Answers Shows flow (flow.closeCall i) (some (spec.close i)) := by
  have hconnection := h.connection
  have hinitial := h.initial
  have hclosed := ReceiveSpec.heldBytes_close hlookup
  have hnonneg := ReceiveSpec.heldBytes_nonneg (spec.close i)
  have hstream := h.streams i
  rw [hlookup] at hstream
  rw [closeCall, hstream]
  dsimp only [Option.map_some, credit]
  rw [if_neg (by omega)]
  refine ⟨rfl, h.initial, ?_, AList.shown_erase h.streams i, h.retired⟩
  show ((flow.connectionAvailable + stream.frames.sum : ℕ) : ℤ) + (spec.close i).heldBytes =
    spec.connectionLimit
  omega

theorem retireCall_answers (h : Shows flow spec) {i : ℕ} {stream : ReceivedStream}
    (hlookup : spec.streams.lookup i = some stream) :
    Answers Shows flow (flow.retireCall i) (some (spec.retire i stream)) := by
  have hconnection := h.connection
  have hstream := h.streams i
  rw [hlookup] at hstream
  have hcredit : flow.connectionAvailable = (spec.connectionLimit - spec.heldBytes).toNat := by
    omega
  rw [retireCall, hstream]
  dsimp only [Option.map_some, credit]
  have hallowed : Shows
      { flow with
        retiredData := flow.retiredData.allow i
          (min (stream.limit - stream.frames.sum) flow.connectionAvailable) }
      { spec with
        retiredData := spec.retiredData.allow i (min (stream.limit - stream.frames.sum)
          (spec.connectionLimit - spec.heldBytes).toNat) } :=
    ⟨h.initial, h.connection, h.streams, by rw [h.retired, hcredit]⟩
  exact closeCall_answers hallowed hlookup

theorem consumeRetiredData_answers (h : Shows flow spec) (i bytes : ℕ) :
    Answers Shows flow (flow.call (.consumeRetiredData i bytes))
      (spec.call (.consumeRetiredData i bytes)) := by
  simp only [call, consumeRetiredData, ReceiveSpec.call, h.retired]
  cases hconsume : spec.retiredData.consume i bytes with
  | ok retiredData => exact ⟨rfl, h.initial, h.connection, h.streams, rfl⟩
  | error error => exact answers_refused (RetiredDataBudget.consume_error hconsume)

theorem call_answers (h : Shows flow spec) (hwithin : spec.Within) {window : InboundFlowWindow}
    {next : ReceiveCall} (hnext : Admissible window spec next) :
    Answers Shows flow (flow.call next) (spec.call next) := by
  cases next with
  | openStream i bytes => exact openStream_answers h i bytes
  | consume i bytes => exact consume_answers h hwithin i bytes
  | release i bytes => exact release_answers h hwithin hnext
  | closeStream i =>
    cases hlookup : spec.streams.lookup i with
    | none =>
      have hstream : flow.streams.lookup i = none := by
        rw [h.streams, hlookup]
        rfl
      simp only [call, closeCall, ReceiveSpec.call, hlookup, hstream]
      exact ⟨rfl, h⟩
    | some stream =>
      simp only [call, ReceiveSpec.call, hlookup]
      exact closeCall_answers h hlookup
  | retireStream i =>
    cases hlookup : spec.streams.lookup i with
    | none =>
      have hstream : flow.streams.lookup i = none := by
        rw [h.streams, hlookup]
        rfl
      simp only [call, retireCall, ReceiveSpec.call, hlookup, hstream]
      exact ⟨rfl, h⟩
    | some stream =>
      simp only [call, ReceiveSpec.call, hlookup]
      exact retireCall_answers h hlookup
  | consumeRetiredData i bytes => exact consumeRetiredData_answers h i bytes

end GatewayInboundFlow

namespace InboundFlowWindow

def usage (stream : ReceivedStream) : InboundStreamWindow :=
  ⟨stream.limit, stream.frames.sum, stream.frames.length⟩

/-- What was consumed of each limit, in bytes and in frames. -/
structure Shows (window : InboundFlowWindow) (spec : ReceiveSpec) : Prop where
  limit : window.connectionLimit = spec.connectionLimit
  consumed : window.connectionConsumedBytes = spec.heldBytes
  pending : window.pendingFrames = spec.heldFrames
  streams : ∀ i, window.streams.lookup i = (spec.streams.lookup i).map usage
  retired : window.retiredData = spec.retiredData

variable {window : InboundFlowWindow} {spec : ReceiveSpec}

theorem start_shows (limit maximumFrames : ℕ) :
    Shows (new limit maximumFrames) (.new limit maximumFrames) :=
  ⟨rfl, rfl, rfl, fun _ => rfl, rfl⟩

theorem openStream_answers (h : Shows window spec) {i : ℕ} (hid : i ≤ 0xffffffff) (bytes : ℕ) :
    Answers Shows window (window.call (.openStream i bytes))
      (spec.call (.openStream i bytes)) := by
  have hmem := AList.shown_mem h.streams i
  simp only [call, openStream, ReceiveSpec.call]
  by_cases hzero : i = 0
  · rw [if_pos (Or.inl hzero), if_neg (by omega)]
    exact answers_refused (by simp [GatewayInboundFlow.exceedsMaximum])
  rw [if_neg (by omega)]
  by_cases hbytes : bytes = 0
  · rw [if_pos hbytes, if_neg (by omega)]
    exact answers_refused (by simp [GatewayInboundFlow.exceedsMaximum])
  rw [if_neg hbytes]
  by_cases hopen : i ∈ window.streams
  · rw [if_pos hopen, if_neg fun haccepted => haccepted.2.2 (hmem.1 hopen)]
    exact answers_refused (by simp [GatewayInboundFlow.exceedsMaximum])
  have hnew : i ∉ spec.streams := fun hstream => hopen (hmem.2 hstream)
  rw [if_neg hopen, if_pos ⟨by omega, by omega, hnew⟩]
  refine ⟨rfl, h.limit, ?_, ?_, ?_, h.retired⟩
  · rw [ReceiveSpec.heldBytes_open hnew]
    exact h.consumed
  · rw [ReceiveSpec.heldFrames_open hnew]
    exact h.pending
  · exact AList.shown_insert h.streams i ⟨bytes, []⟩

theorem consume_answers (h : Shows window spec) {i bytes : ℕ}
    (huncapped : window.pendingFrames < window.maxPendingFrames) :
    Answers Shows window (window.call (.consume i bytes)) (spec.call (.consume i bytes)) := by
  have hlimit := h.limit
  have hconsumed := h.consumed
  have hpending := h.pending
  have hstream := h.streams i
  simp only [call, consume, ReceiveSpec.call]
  by_cases hbytes : bytes = 0
  · rw [if_pos hbytes, if_pos hbytes]
    exact answers_refused (by simp [GatewayInboundFlow.exceedsMaximum])
  rw [if_neg hbytes, if_neg hbytes]
  cases hlookup : spec.streams.lookup i with
  | none =>
    rw [hlookup, Option.map_none] at hstream
    rw [hstream]
    exact answers_refused (by simp [GatewayInboundFlow.exceedsMaximum])
  | some stream =>
    rw [hlookup] at hstream
    rw [hstream]
    dsimp only [Option.map_some, Option.bind_some, usage]
    by_cases hcredit : stream.frames.sum + bytes > stream.limit
    · rw [if_pos hcredit, if_neg (by omega)]
      exact answers_refused (by simp [GatewayInboundFlow.exceedsMaximum])
    rw [if_neg hcredit]
    by_cases hshared : window.connectionConsumedBytes + bytes > window.connectionLimit
    · rw [if_pos hshared, if_neg (by omega)]
      exact answers_refused (by simp [GatewayInboundFlow.exceedsMaximum])
    rw [if_neg hshared, if_neg (by omega), if_pos (by omega)]
    refine ⟨rfl, h.limit, ?_, ?_, ?_, h.retired⟩
    · rw [ReceiveSpec.heldBytes_replace hlookup, List.sum_append, List.sum_singleton]
      dsimp only [attempted]
      omega
    · rw [ReceiveSpec.heldFrames_replace hlookup, List.length_append, List.length_singleton]
      dsimp only [attempted]
      omega
    · have hshown := AList.shown_insert h.streams i ⟨stream.limit, stream.frames ++ [bytes]⟩
      have hused : usage ⟨stream.limit, stream.frames ++ [bytes]⟩ =
          ⟨stream.limit, stream.frames.sum + bytes, stream.frames.length + 1⟩ := by
        rw [usage, List.sum_append, List.sum_singleton, List.length_append, List.length_singleton]
      rwa [hused] at hshown

theorem release_answers (h : Shows window spec) {i bytes : ℕ}
    (hmatched : ∀ stream ∈ spec.streams.lookup i, bytes ∈ stream.frames) :
    Answers Shows window (window.call (.release i bytes)) (spec.call (.release i bytes)) := by
  have hconsumed := h.consumed
  have hpending := h.pending
  have hstream := h.streams i
  simp only [call, release, ReceiveSpec.call]
  by_cases hbytes : bytes = 0
  · rw [if_pos hbytes, if_pos hbytes]
    exact answers_refused (by simp [GatewayInboundFlow.exceedsMaximum])
  rw [if_neg hbytes, if_neg hbytes]
  cases hlookup : spec.streams.lookup i with
  | none =>
    rw [hlookup, Option.map_none] at hstream
    rw [hstream]
    exact answers_refused (by simp [GatewayInboundFlow.exceedsMaximum])
  | some stream =>
    have hmem := hmatched stream hlookup
    have hsum := ReceiveSpec.sum_erase hmem
    have hlength := List.length_erase_of_mem hmem
    have hpositive := List.length_pos_of_mem hmem
    have hbytes' := ReceiveSpec.heldBytes_replace hlookup ⟨stream.limit, stream.frames.erase bytes⟩
    have hframes' := ReceiveSpec.heldFrames_replace hlookup
      ⟨stream.limit, stream.frames.erase bytes⟩
    have hnonneg := ReceiveSpec.heldBytes_nonneg
      { spec with streams := spec.streams.insert i ⟨stream.limit, stream.frames.erase bytes⟩ }
    have hcounts := ReceiveSpec.heldFrames_nonneg
      { spec with streams := spec.streams.insert i ⟨stream.limit, stream.frames.erase bytes⟩ }
    rw [hbytes'] at hnonneg
    rw [hframes'] at hcounts
    dsimp only at hnonneg hcounts
    rw [hlookup] at hstream
    rw [hstream]
    dsimp only [Option.map_some, Option.bind_some, usage]
    rw [if_neg (by omega), if_pos hmem]
    refine ⟨rfl, h.limit, ?_, ?_, ?_, h.retired⟩
    · rw [hbytes']
      dsimp only [attempted]
      omega
    · rw [hframes']
      dsimp only [attempted]
      omega
    · have hshown := AList.shown_insert h.streams i ⟨stream.limit, stream.frames.erase bytes⟩
      have hheld : (stream.frames.erase bytes).sum = stream.frames.sum - bytes := by omega
      have hused : usage ⟨stream.limit, stream.frames.erase bytes⟩ =
          ⟨stream.limit, stream.frames.sum - bytes, stream.frames.length - 1⟩ := by
        rw [usage, hheld, hlength]
      rwa [hused] at hshown

theorem closeStream_shows (h : Shows window spec) (i : ℕ) {stream : ReceivedStream}
    (hlookup : spec.streams.lookup i = some stream) :
    Shows (window.closeStream i) (spec.close i) := by
  have hconsumed := h.consumed
  have hpending := h.pending
  have hbytes := ReceiveSpec.heldBytes_close hlookup
  have hframes := ReceiveSpec.heldFrames_close hlookup
  have hnonneg := ReceiveSpec.heldBytes_nonneg (spec.close i)
  have hcounts := ReceiveSpec.heldFrames_nonneg (spec.close i)
  have hstream := h.streams i
  rw [hlookup] at hstream
  rw [closeStream, hstream]
  dsimp only [Option.map_some, usage]
  refine ⟨h.limit, ?_, ?_, AList.shown_erase h.streams i, h.retired⟩
  · dsimp only
    omega
  · dsimp only
    omega

theorem retireStream_shows (h : Shows window spec) {i : ℕ} {stream : ReceivedStream}
    (hlookup : spec.streams.lookup i = some stream) :
    Shows (window.retireStream i) (spec.retire i stream) := by
  have hconsumed := h.consumed
  have hlimit := h.limit
  have hstream := h.streams i
  rw [hlookup] at hstream
  have hcredit : window.connectionLimit - window.connectionConsumedBytes =
      (spec.connectionLimit - spec.heldBytes).toNat := by
    omega
  rw [retireStream, hstream]
  dsimp only [Option.map_some, usage]
  have hallowed : Shows
      { window with
        retiredData := window.retiredData.allow i (min (stream.limit - stream.frames.sum)
          (window.connectionLimit - window.connectionConsumedBytes)) }
      { spec with
        retiredData := spec.retiredData.allow i (min (stream.limit - stream.frames.sum)
          (spec.connectionLimit - spec.heldBytes).toNat) } :=
    ⟨h.limit, h.consumed, h.pending, h.streams, by rw [h.retired, hcredit]⟩
  exact closeStream_shows hallowed i hlookup

theorem call_answers (h : Shows window spec) {next : ReceiveCall}
    (hnext : Admissible window spec next) :
    Answers Shows window (window.call next) (spec.call next) := by
  cases next with
  | openStream i bytes => exact openStream_answers h hnext bytes
  | consume i bytes => exact consume_answers h hnext
  | release i bytes => exact release_answers h hnext
  | closeStream i =>
    simp only [call, ReceiveSpec.call]
    cases hlookup : spec.streams.lookup i with
    | none =>
      have hstream : window.streams.lookup i = none := by
        rw [h.streams, hlookup]
        rfl
      rw [closeStream, hstream]
      exact ⟨rfl, h⟩
    | some stream => exact ⟨rfl, closeStream_shows h i hlookup⟩
  | retireStream i =>
    simp only [call, ReceiveSpec.call]
    cases hlookup : spec.streams.lookup i with
    | none =>
      have hstream : window.streams.lookup i = none := by
        rw [h.streams, hlookup]
        rfl
      rw [retireStream, hstream]
      exact ⟨rfl, h⟩
    | some stream => exact ⟨rfl, retireStream_shows h hlookup⟩
  | consumeRetiredData i bytes =>
    simp only [call, consumeRetiredData, ReceiveSpec.call, h.retired]
    cases hconsume : spec.retiredData.consume i bytes with
    | ok retiredData => exact ⟨rfl, h.limit, h.consumed, h.pending, h.streams, rfl⟩
    | error error => exact answers_refused (RetiredDataBudget.consume_error hconsume)

end InboundFlowWindow

/-- Both windows under the same calls. -/
structure ReceiveWindows where
  gateway : GatewayInboundFlow
  client : InboundFlowWindow
  spec : ReceiveSpec

namespace ReceiveWindows

def start (limit maximumFrames : ℕ) : ReceiveWindows where
  gateway := .new limit maximumFrames
  client := .new limit maximumFrames
  spec := .new limit maximumFrames

def step (s : ReceiveWindows) (call : ReceiveCall) : Option ReceiveWindows :=
  some ⟨(s.gateway.call call).1, (s.client.call call).1, (s.spec.call call).getD s.spec⟩

def guard (s : ReceiveWindows) (call : ReceiveCall) : Prop := Admissible s.client s.spec call

instance (s : ReceiveWindows) (call : ReceiveCall) : Decidable (s.guard call) :=
  inferInstanceAs (Decidable (Admissible _ _ _))

structure Refined (s : ReceiveWindows) : Prop where
  gateway : s.gateway.Shows s.spec
  client : s.client.Shows s.spec
  within : s.spec.Within

theorem start_refined (limit maximumFrames : ℕ) : (start limit maximumFrames).Refined :=
  ⟨GatewayInboundFlow.start_shows limit maximumFrames,
    InboundFlowWindow.start_shows limit maximumFrames, nofun⟩

variable {s s' : ReceiveWindows} {call : ReceiveCall}

theorem step_refined (h : s.Refined) (hguard : s.guard call) (hstep : s.step call = some s') :
    s'.Refined := by
  have hgateway := GatewayInboundFlow.call_answers h.gateway h.within hguard
  have hclient := InboundFlowWindow.call_answers h.client hguard
  cases hstep
  cases hcall : s.spec.call call with
  | none =>
    rw [hcall] at hgateway hclient
    refine ⟨?_, ?_, ?_⟩
    · rw [hgateway.1]
      exact h.gateway
    · rw [hclient.1]
      exact h.client
    · exact h.within
  | some next =>
    rw [hcall] at hgateway hclient
    exact ⟨hgateway.2, hclient.2, ReceiveSpec.call_within h.within hcall⟩

/-- What is left on the one side is the limit less what was consumed on the other. -/
structure Alike (gateway : GatewayInboundFlow) (client : InboundFlowWindow) : Prop where
  connection : (gateway.connectionAvailable : ℤ) =
    client.connectionLimit - client.connectionConsumedBytes
  streams : ∀ i, i ∈ gateway.streams ↔ i ∈ client.streams
  stream : ∀ i credit used, gateway.streams.lookup i = some credit →
    client.streams.lookup i = some used →
      (credit.available : ℤ) = used.limit - used.consumedBytes

theorem Refined.alike (h : s.Refined) : Alike s.gateway s.client := by
  refine ⟨?_, ?_, ?_⟩
  · rw [h.client.limit, h.client.consumed, ← h.gateway.connection]
    ring
  · intro i
    rw [AList.shown_mem h.gateway.streams, AList.shown_mem h.client.streams]
  · intro i credit used hcredit hused
    rw [h.gateway.streams] at hcredit
    rw [h.client.streams] at hused
    obtain ⟨stream, hlookup, rfl⟩ := Option.map_eq_some_iff.1 hcredit
    rw [hlookup] at hused
    obtain rfl := Option.some.inj hused
    have hle := h.within i stream hlookup
    dsimp only [GatewayInboundFlow.credit, InboundFlowWindow.usage]
    omega

theorem Refined.answers_alike (h : s.Refined) (hguard : s.guard call) :
    ((s.gateway.call call).2 = none ↔ (s.client.call call).2 = none) ∧
      ((s.gateway.call call).2 ≠ none →
        (s.gateway.call call).1 = s.gateway ∧ (s.client.call call).1 = s.client) ∧
      ∀ error ∈ GatewayInboundFlow.exceedsMaximum, (s.gateway.call call).2 ≠ some error := by
  have hgateway := GatewayInboundFlow.call_answers h.gateway h.within hguard
  have hclient := InboundFlowWindow.call_answers h.client hguard
  cases hcall : s.spec.call call with
  | none =>
    rw [hcall] at hgateway hclient
    obtain ⟨hflow, error, herror, hother⟩ := hgateway
    obtain ⟨hwindow, refusal, hrefusal, -⟩ := hclient
    refine ⟨?_, fun _ => ⟨hflow, hwindow⟩, ?_⟩
    · rw [herror, hrefusal]
      simp
    · intro broken hbroken hsame
      rw [herror] at hsame
      exact hother (Option.some.inj hsame ▸ hbroken)
  | some next =>
    rw [hcall] at hgateway hclient
    refine ⟨⟨fun _ => hclient.1, fun _ => hgateway.1⟩, fun hrefused => absurd hgateway.1 hrefused, ?_⟩
    intro broken _ hsame
    rw [hgateway.1] at hsame
    cases hsame

/-- The two classes are one receive window: they answer every call alike, a refused call changes
neither, and what the one has left is what the other has not consumed. -/
theorem receive_windows_agree (limit maximumFrames : ℕ) (calls : List ReceiveCall)
    (s : ReceiveWindows) (hguard : Execution.Guarded step guard (start limit maximumFrames) calls)
    (hrun : Execution.run step (start limit maximumFrames) calls = some s) :
    Alike s.gateway s.client ∧ ∀ call, s.guard call →
      ((s.gateway.call call).2 = none ↔ (s.client.call call).2 = none) ∧
        ((s.gateway.call call).2 ≠ none →
          (s.gateway.call call).1 = s.gateway ∧ (s.client.call call).1 = s.client) ∧
        ∀ error ∈ GatewayInboundFlow.exceedsMaximum, (s.gateway.call call).2 ≠ some error := by
  have hnext : ∀ s call s', Refined s → s.guard call → step s call = some s' → Refined s' :=
    fun _ _ _ h hguard hstep => step_refined h hguard hstep
  have hrefined := Execution.invariant_of_guarded hnext (start_refined limit maximumFrames) hguard
    hrun
  exact ⟨hrefined.alike, fun call hcall => hrefined.answers_alike hcall⟩

/-- A stream that is retired with DATA held, and late DATA on it. -/
def retiredStreamCalls : List ReceiveCall :=
  [.openStream 1 8, .consume 1 3, .consume 1 9, .release 1 3, .consume 1 2, .openStream 3 4,
    .consume 3 4, .retireStream 1, .consumeRetiredData 1 4, .release 1 2]

theorem receive_windows_agree_retired :
    ∃ s, Execution.run step (start 10 4) retiredStreamCalls = some s ∧
      s.gateway.connectionAvailable = 6 ∧ Alike s.gateway s.client ∧
      ((s.gateway.call (.release 3 4)).2 = none ↔ (s.client.call (.release 3 4)).2 = none) := by
  have hends : (Execution.run step (start 10 4) retiredStreamCalls).map
      (fun s => (s.gateway.connectionAvailable, decide (s.guard (.release 3 4)))) =
        some (6, true) := by decide +kernel
  obtain ⟨s, hrun, hobserved⟩ := Option.map_eq_some_iff.1 hends
  have hguard : s.guard (.release 3 4) := of_decide_eq_true (congrArg Prod.snd hobserved)
  have hagree := receive_windows_agree 10 4 retiredStreamCalls s (by decide +kernel) hrun
  exact ⟨s, hrun, congrArg Prod.fst hobserved, hagree.1, (hagree.2 _ hguard).1⟩

end ReceiveWindows

end Lotur
