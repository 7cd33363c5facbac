import Lotur.Library.InsertionOrder
import Lotur.Relay.InboundFlow

/-! `RetiredDataBudget` over the life of a carrier: its constructor and its calls with the checks
of their arguments, and what a whole sequence of calls consumes. -/
namespace Lotur

def MAX_SAFE_INTEGER : ℤ := 2 ^ 53 - 1

def IsPositiveSafeInteger (value : ℤ) : Prop := 0 < value ∧ value ≤ MAX_SAFE_INTEGER

instance (value : ℤ) : Decidable (IsPositiveSafeInteger value) :=
  inferInstanceAs (Decidable (_ ∧ _))

inductive RetiredCall where
  | allow (streamId bytes : ℤ)
  | consume (streamId bytes : ℤ)
  deriving DecidableEq, Repr

namespace RetiredDataBudget

def create (maximumBytes maximumFrames : ℤ) : Except JsError RetiredDataBudget :=
  if ¬ IsPositiveSafeInteger maximumBytes then
    .error (.rangeError "maximumBytes must be a positive safe integer")
  else if ¬ IsPositiveSafeInteger maximumFrames then
    .error (.rangeError "maximumFrames must be a positive safe integer")
  else .ok (.new maximumBytes.toNat maximumFrames.toNat)

/-- The budget after a call, and the error if it throws; every check comes before the writes. -/
def call (budget : RetiredDataBudget) : RetiredCall → RetiredDataBudget × Option JsError
  | .allow streamId bytes =>
    if ¬ IsPositiveSafeInteger streamId then
      (budget, some (.rangeError "streamId must be a positive safe integer"))
    else if ¬ (0 ≤ bytes ∧ bytes ≤ MAX_SAFE_INTEGER) then
      (budget, some (.rangeError "retired DATA allowance must be a non-negative safe integer"))
    else (budget.allow streamId.toNat bytes.toNat, none)
  | .consume streamId bytes =>
    if ¬ IsPositiveSafeInteger streamId then
      (budget, some (.rangeError "streamId must be a positive safe integer"))
    else if ¬ IsPositiveSafeInteger bytes then
      (budget, some (.rangeError "retired DATA bytes must be a positive safe integer"))
    else match budget.consume streamId.toNat bytes.toNat with
    | .ok next => (next, none)
    | .error error => (budget, some error)

def run (budget : RetiredDataBudget) : List RetiredCall → RetiredDataBudget
  | [] => budget
  | next :: calls => (budget.call next).1.run calls

/-- The stream and size of a `consume` that succeeds. -/
def entry (budget : RetiredDataBudget) (next : RetiredCall) : List (ℕ × ℕ) :=
  match next, (budget.call next).2 with
  | .consume streamId bytes, none => [(streamId.toNat, bytes.toNat)]
  | _, _ => []

def consumed (budget : RetiredDataBudget) : List RetiredCall → List (ℕ × ℕ)
  | [] => []
  | next :: calls => budget.entry next ++ (budget.call next).1.consumed calls

def total (entries : List (ℕ × ℕ)) : ℕ := (entries.map Prod.snd).sum

def spentOn (i : ℕ) (entries : List (ℕ × ℕ)) : ℕ := total (entries.filter fun entry => entry.1 = i)

def Tracks (budget : RetiredDataBudget) (i : ℕ) : Prop :=
  (budget.streamBytes.lookup i).isSome = true

/-- `allow` drops an allowance to make room. -/
def Evicts (budget : RetiredDataBudget) (next : RetiredCall) : Prop :=
  ∃ streamId bytes i, next = .allow streamId bytes ∧ budget.Tracks i ∧
    ¬ (budget.call next).1.Tracks i

def NeverEvicts (budget : RetiredDataBudget) : List RetiredCall → Prop
  | [] => True
  | next :: calls => ¬ budget.Evicts next ∧ (budget.call next).1.NeverEvicts calls

def IsExhausted (budget : RetiredDataBudget) : Prop :=
  budget.remainingFrames = 0 ∨ budget.remainingBytes = 0

variable {budget next : RetiredDataBudget} {i bytes : ℕ}

theorem allow_cases (budget : RetiredDataBudget) (i bytes : ℕ) :
    budget.allow i bytes = budget ∨
      (0 < bytes ∧ ¬ budget.IsExhausted ∧ budget.streamBytes.lookup i = none ∧
        ∃ tracked, (tracked = budget.streamBytes ∧
            tracked.length < budget.maximumTrackedStreams ∨
          tracked = budget.streamBytes.tail ∧
            budget.maximumTrackedStreams ≤ budget.streamBytes.length) ∧
          budget.allow i bytes = { budget with
            streamBytes := tracked ++ [(i, min bytes budget.maximumBytes)] }) := by
  by_cases hskip : bytes = 0 ∨ budget.remainingFrames = 0 ∨ budget.remainingBytes = 0 ∨
      (budget.streamBytes.lookup i).isSome = true
  · left
    rw [allow, if_pos hskip]
  · right
    have hexhausted : ¬ budget.IsExhausted := by
      unfold IsExhausted
      omega
    have huntracked : budget.streamBytes.lookup i = none := by
      cases hlookup : budget.streamBytes.lookup i with
      | none => rfl
      | some value => simp [hlookup] at hskip
    rw [allow, if_neg hskip]
    refine ⟨by omega, hexhausted, huntracked, ?_⟩
    by_cases hfull : budget.streamBytes.length ≥ budget.maximumTrackedStreams
    · exact ⟨_, Or.inr ⟨rfl, hfull⟩, by rw [if_pos hfull]⟩
    · exact ⟨_, Or.inl ⟨rfl, by omega⟩, by rw [if_neg hfull]⟩

/-- What a successful `consume` found and what it leaves. -/
structure Spends (budget : RetiredDataBudget) (i bytes : ℕ) (next : RetiredDataBudget) : Prop where
  positive : 0 < bytes
  frames : 0 < budget.remainingFrames
  within : bytes ≤ budget.remainingBytes
  allowance : ∃ available, budget.streamBytes.lookup i = some available ∧ bytes ≤ available ∧
    next.streamBytes = if next.remainingFrames = 0 ∨ next.remainingBytes = 0 then []
      else (budget.streamBytes.filter fun entry => entry.1 ≠ i) ++
        if available - bytes > 0 then [(i, available - bytes)] else []
  remaining : next.remainingFrames = budget.remainingFrames - 1 ∧
    next.remainingBytes = budget.remainingBytes - bytes
  maximum : next.maximumBytes = budget.maximumBytes ∧
    next.maximumTrackedStreams = budget.maximumTrackedStreams

theorem consume_spends (h : budget.consume i bytes = .ok next) : budget.Spends i bytes next := by
  unfold consume at h
  dsimp only at h
  split_ifs at h with hid hbytes hframes hover hdone hleft
  all_goals
    obtain ⟨hstream, htotal⟩ := not_or.1 hover
    obtain ⟨available, hlookup⟩ : ∃ available, budget.streamBytes.lookup i = some available := by
      cases hlookup : budget.streamBytes.lookup i with
      | none => simp [hlookup] at hstream; omega
      | some available => exact ⟨available, rfl⟩
    rw [hlookup, Option.getD_some] at hstream
    cases h
  · exact ⟨by omega, by omega, by omega, ⟨available, hlookup, by omega, by rw [if_pos hdone]⟩,
      ⟨rfl, rfl⟩, ⟨rfl, rfl⟩⟩
  · rw [hlookup, Option.getD_some] at hleft
    refine ⟨by omega, by omega, by omega, ⟨available, hlookup, by omega, ?_⟩, ⟨rfl, rfl⟩,
      ⟨rfl, rfl⟩⟩
    rw [if_neg hdone, if_pos hleft, hlookup, Option.getD_some]
  · rw [hlookup, Option.getD_some] at hleft
    refine ⟨by omega, by omega, by omega, ⟨available, hlookup, by omega, ?_⟩, ⟨rfl, rfl⟩,
      ⟨rfl, rfl⟩⟩
    rw [if_neg hdone, if_neg hleft, List.append_nil]

/-- The three things a call can do. -/
theorem call_cases (budget : RetiredDataBudget) (next : RetiredCall) :
    (∃ error, budget.call next = (budget, some error) ∧ budget.entry next = []) ∨
      (∃ streamId bytes, next = .allow streamId bytes ∧ IsPositiveSafeInteger streamId ∧
        budget.call next = (budget.allow streamId.toNat bytes.toNat, none) ∧
          budget.entry next = []) ∨
      ∃ i bytes after, budget.Spends i bytes after ∧ budget.call next = (after, none) ∧
        budget.entry next = [(i, bytes)] := by
  have hthrown : ∀ error, budget.call next = (budget, some error) → budget.entry next = [] := by
    intro error hcall
    rw [entry.eq_def, hcall]
    split
    · rename_i hnone
      cases hnone
    · rfl
  cases next with
  | allow streamId bytes =>
    by_cases hid : IsPositiveSafeInteger streamId
    · by_cases hbytes : 0 ≤ bytes ∧ bytes ≤ MAX_SAFE_INTEGER
      · refine Or.inr (Or.inl ⟨streamId, bytes, rfl, hid, ?_, rfl⟩)
        rw [call, if_neg (not_not.2 hid), if_neg (not_not.2 hbytes)]
      · have hcall : budget.call (.allow streamId bytes) = (budget, some (.rangeError
            "retired DATA allowance must be a non-negative safe integer")) := by
          rw [call, if_neg (not_not.2 hid), if_pos hbytes]
        exact Or.inl ⟨_, hcall, hthrown _ hcall⟩
    · have hcall : budget.call (.allow streamId bytes) = (budget, some (.rangeError
          "streamId must be a positive safe integer")) := by
        rw [call, if_pos hid]
      exact Or.inl ⟨_, hcall, hthrown _ hcall⟩
  | consume streamId bytes =>
    by_cases hid : IsPositiveSafeInteger streamId
    · by_cases hbytes : IsPositiveSafeInteger bytes
      · have hcall : budget.call (.consume streamId bytes) =
            match budget.consume streamId.toNat bytes.toNat with
            | .ok next => (next, none)
            | .error error => (budget, some error) := by
          rw [call, if_neg (not_not.2 hid), if_neg (not_not.2 hbytes)]
        cases hconsume : budget.consume streamId.toNat bytes.toNat with
        | ok after =>
          rw [hconsume] at hcall
          refine Or.inr (Or.inr ⟨streamId.toNat, bytes.toNat, after, consume_spends hconsume,
            hcall, ?_⟩)
          rw [entry.eq_def, hcall]
        | error error =>
          rw [hconsume] at hcall
          exact Or.inl ⟨error, hcall, hthrown _ hcall⟩
      · have hcall : budget.call (.consume streamId bytes) = (budget, some (.rangeError
            "retired DATA bytes must be a positive safe integer")) := by
          rw [call, if_neg (not_not.2 hid), if_pos hbytes]
        exact Or.inl ⟨_, hcall, hthrown _ hcall⟩
    · have hcall : budget.call (.consume streamId bytes) = (budget, some (.rangeError
          "streamId must be a positive safe integer")) := by
        rw [call, if_pos hid]
      exact Or.inl ⟨_, hcall, hthrown _ hcall⟩

/-- The totals of the carrier and what holds of each allowance. -/
structure Kept (maximumBytes maximumFrames : ℕ) (entries : List (ℕ × ℕ))
    (budget : RetiredDataBudget) : Prop where
  bytes : budget.remainingBytes + total entries = maximumBytes
  frames : budget.remainingFrames + entries.length = maximumFrames
  maximum : budget.maximumBytes = maximumBytes ∧ budget.maximumTrackedStreams = maximumFrames
  distinct : (budget.streamBytes.map Prod.fst).Nodup
  tracked : budget.streamBytes.length ≤ maximumFrames
  positive : ∀ entry ∈ budget.streamBytes, 0 < entry.2
  ids : ∀ entry ∈ budget.streamBytes, IsPositiveSafeInteger entry.1

theorem total_append (first second : List (ℕ × ℕ)) :
    total (first ++ second) = total first + total second := by
  rw [total, List.map_append, List.sum_append]
  rfl

theorem create_kept {maximumBytes maximumFrames : ℤ}
    (h : create maximumBytes maximumFrames = .ok budget) :
    IsPositiveSafeInteger maximumBytes ∧ IsPositiveSafeInteger maximumFrames ∧
      Kept maximumBytes.toNat maximumFrames.toNat [] budget := by
  unfold create at h
  by_cases hbytes : IsPositiveSafeInteger maximumBytes
  swap
  · rw [if_pos hbytes] at h
    cases h
  rw [if_neg (not_not.2 hbytes)] at h
  by_cases hframes : IsPositiveSafeInteger maximumFrames
  swap
  · rw [if_pos hframes] at h
    cases h
  rw [if_neg (not_not.2 hframes)] at h
  cases h
  exact ⟨hbytes, hframes, rfl, rfl, ⟨rfl, rfl⟩, List.nodup_nil, Nat.zero_le _, nofun, nofun⟩

section Calls

variable {maximumBytes maximumFrames : ℕ} {entries : List (ℕ × ℕ)}

theorem Kept.allow (h : Kept maximumBytes maximumFrames entries budget) {streamId bytes : ℤ}
    (hid : IsPositiveSafeInteger streamId) :
    Kept maximumBytes maximumFrames entries (budget.allow streamId.toNat bytes.toNat) := by
  rcases allow_cases budget streamId.toNat bytes.toNat with hsame |
    ⟨hbytes, hexhausted, huntracked, tracked, htracked, hallowed⟩
  · rwa [hsame]
  rw [hallowed]
  have hframes := h.frames
  have hmaximum := h.maximum
  have hlength := h.tracked
  have hbudget := h.bytes
  have hsublist : List.Sublist tracked budget.streamBytes := by
    rcases htracked with ⟨rfl, -⟩ | ⟨rfl, -⟩
    · exact List.Sublist.refl _
    · exact List.tail_sublist _
  have hroom : tracked.length + 1 ≤ maximumFrames := by
    have hpositive : 0 < budget.remainingFrames := by
      unfold IsExhausted at hexhausted
      omega
    rcases htracked with ⟨-, hlt⟩ | ⟨rfl, -⟩
    · omega
    · rw [List.length_tail]
      omega
  refine ⟨h.bytes, h.frames, h.maximum, ?_, ?_, ?_, ?_⟩
  · rw [List.map_append, List.nodup_append]
    refine ⟨h.distinct.sublist (hsublist.map _), List.nodup_singleton _, ?_⟩
    intro other hother same hsame heq
    obtain ⟨entry, hentry, rfl⟩ := List.mem_map.1 hother
    refine List.lookup_none_iff.1 huntracked entry (hsublist.subset hentry) ?_
    rw [heq, List.mem_singleton.1 hsame]
  · rw [List.length_append]
    exact hroom
  · intro entry hentry
    rcases List.mem_append.1 hentry with hold | hnew
    · exact h.positive entry (hsublist.subset hold)
    · rw [List.mem_singleton.1 hnew]
      unfold IsExhausted at hexhausted
      dsimp only
      omega
  · intro entry hentry
    rcases List.mem_append.1 hentry with hold | hnew
    · exact h.ids entry (hsublist.subset hold)
    · rw [List.mem_singleton.1 hnew]
      have hnatural : (streamId.toNat : ℤ) = streamId := Int.toNat_of_nonneg hid.1.le
      rwa [← hnatural] at hid

theorem Kept.spends (h : Kept maximumBytes maximumFrames entries budget) {i bytes : ℕ}
    (hspends : budget.Spends i bytes next) :
    Kept maximumBytes maximumFrames (entries ++ [(i, bytes)]) next := by
  have hframes := h.frames
  have hbytes := h.bytes
  have hpositive := hspends.frames
  have hwithin := hspends.within
  obtain ⟨available, hlookup, -, hstreams⟩ := hspends.allowance
  have hmem := List.mem_of_lookup hlookup
  have hothers : List.Sublist (budget.streamBytes.filter fun entry => entry.1 ≠ i)
      budget.streamBytes := List.filter_sublist
  have hfewer : (budget.streamBytes.filter fun entry => entry.1 ≠ i).length <
      budget.streamBytes.length := by
    rw [List.length_filter_lt_length_iff_exists]
    exact ⟨_, hmem, by simp⟩
  have hlength := h.tracked
  refine ⟨?_, ?_, ⟨hspends.maximum.1.trans h.maximum.1, hspends.maximum.2.trans h.maximum.2⟩,
    ?_, ?_, ?_, ?_⟩
  · rw [hspends.remaining.2, total_append]
    show budget.remainingBytes - bytes + (total entries + bytes) = maximumBytes
    omega
  · rw [hspends.remaining.1, List.length_append, List.length_singleton]
    omega
  · rw [hstreams]
    split_ifs
    · exact List.nodup_nil
    · rw [List.map_append, List.nodup_append]
      refine ⟨h.distinct.sublist (hothers.map _), List.nodup_singleton _, ?_⟩
      intro other hother same hsame heq
      obtain ⟨entry, hentry, rfl⟩ := List.mem_map.1 hother
      have hne := (List.mem_filter.1 hentry).2
      rw [List.mem_singleton.1 hsame] at heq
      simp [heq] at hne
    · rw [List.append_nil]
      exact h.distinct.sublist (hothers.map _)
  · rw [hstreams]
    split_ifs
    · exact Nat.zero_le _
    · rw [List.length_append, List.length_singleton]
      omega
    · rw [List.append_nil]
      omega
  · rw [hstreams]
    intro entry hentry
    split_ifs at hentry with hdone hleft
    · cases hentry
    · rcases List.mem_append.1 hentry with hold | hnew
      · exact h.positive entry (hothers.subset hold)
      · rw [List.mem_singleton.1 hnew]
        exact hleft
    · rw [List.append_nil] at hentry
      exact h.positive entry (hothers.subset hentry)
  · rw [hstreams]
    intro entry hentry
    split_ifs at hentry
    · cases hentry
    · rcases List.mem_append.1 hentry with hold | hnew
      · exact h.ids entry (hothers.subset hold)
      · rw [List.mem_singleton.1 hnew]
        exact h.ids (i, available) hmem
    · rw [List.append_nil] at hentry
      exact h.ids entry (hothers.subset hentry)

theorem Kept.call (h : Kept maximumBytes maximumFrames entries budget) (next : RetiredCall) :
    Kept maximumBytes maximumFrames (entries ++ budget.entry next) (budget.call next).1 := by
  rcases call_cases budget next with ⟨error, hcall, hentry⟩ |
    ⟨streamId, bytes, -, hid, hcall, hentry⟩ | ⟨i, bytes, after, hspends, hcall, hentry⟩
  · rw [hcall, hentry, List.append_nil]
    exact h
  · rw [hcall, hentry, List.append_nil]
    exact h.allow hid
  · rw [hcall, hentry]
    exact h.spends hspends

theorem Kept.run (h : Kept maximumBytes maximumFrames entries budget) (calls : List RetiredCall) :
    Kept maximumBytes maximumFrames (entries ++ budget.consumed calls) (budget.run calls) := by
  induction calls generalizing budget entries with
  | nil =>
    rw [consumed, List.append_nil]
    exact h
  | cons next calls ih =>
    have hnext := ih (h.call next)
    rwa [List.append_assoc] at hnext

theorem spentOn_append (i : ℕ) (first second : List (ℕ × ℕ)) :
    spentOn i (first ++ second) = spentOn i first + spentOn i second := by
  rw [spentOn, List.filter_append, total_append]
  rfl

theorem spentOn_own (i bytes : ℕ) : spentOn i [(i, bytes)] = bytes := by
  simp [spentOn, total]

theorem spentOn_other {i j : ℕ} (h : j ≠ i) (bytes : ℕ) : spentOn i [(j, bytes)] = 0 := by
  simp [spentOn, total, h]

/-- After an `allow` a stream has the allowance it had, or it was dropped. -/
theorem Kept.allow_lookup (h : Kept maximumBytes maximumFrames entries budget) {i allowance : ℕ}
    (hlookup : budget.streamBytes.lookup i = some allowance) (streamId bytes : ℕ) :
    (budget.allow streamId bytes).streamBytes.lookup i = some allowance ∨
      (budget.allow streamId bytes).streamBytes.lookup i = none := by
  rcases allow_cases budget streamId bytes with hsame |
    ⟨-, -, huntracked, tracked, htracked, hallowed⟩
  · rw [hsame]
    exact Or.inl hlookup
  rw [hallowed]
  have hother : i ≠ streamId := by
    rintro rfl
    rw [hlookup] at huntracked
    cases huntracked
  dsimp only
  rw [List.lookup_append_new hother]
  rcases htracked with ⟨rfl, -⟩ | ⟨rfl, -⟩
  · exact Or.inl hlookup
  · exact List.lookup_tail hlookup h.distinct

/-- A `consume` leaves the other allowances, unless the carrier's totals are used up. -/
theorem Spends.lookup_other {i j bytes allowance : ℕ} (h : budget.Spends j bytes next)
    (hother : i ≠ j) (hlookup : budget.streamBytes.lookup i = some allowance) :
    next.streamBytes.lookup i = some allowance ∨
      next.streamBytes.lookup i = none ∧ next.IsExhausted := by
  obtain ⟨available, -, -, hstreams⟩ := h.allowance
  rw [hstreams]
  split_ifs with hdone hleft
  · exact Or.inr ⟨rfl, hdone⟩
  · rw [List.lookup_append_new hother, List.lookup_filter_other hother]
    exact Or.inl hlookup
  · rw [List.append_nil, List.lookup_filter_other hother]
    exact Or.inl hlookup

theorem Spends.lookup_own {i bytes allowance : ℕ} (h : budget.Spends i bytes next)
    (hlookup : budget.streamBytes.lookup i = some allowance) :
    bytes ≤ allowance ∧ (next.streamBytes.lookup i = some (allowance - bytes) ∨
      next.streamBytes.lookup i = none ∧ (next.IsExhausted ∨ allowance - bytes = 0)) := by
  obtain ⟨available, hfound, hle, hstreams⟩ := h.allowance
  rw [hlookup] at hfound
  obtain rfl := Option.some.inj hfound
  refine ⟨hle, ?_⟩
  rw [hstreams]
  split_ifs with hdone hleft
  · exact Or.inr ⟨rfl, Or.inl hdone⟩
  · rw [List.lookup_append_own (List.lookup_filter_own i _)]
    exact Or.inl rfl
  · rw [List.append_nil]
    exact Or.inr ⟨List.lookup_filter_own i _, Or.inr (by omega)⟩

/-- What one call does to a tracked stream. -/
theorem Kept.call_lookup (h : Kept maximumBytes maximumFrames entries budget) {i allowance : ℕ}
    (hlookup : budget.streamBytes.lookup i = some allowance) (next : RetiredCall) :
    spentOn i (budget.entry next) ≤ allowance ∧
      ((budget.call next).1.streamBytes.lookup i =
          some (allowance - spentOn i (budget.entry next)) ∨
        (budget.call next).1.streamBytes.lookup i = none ∧
          (budget.Evicts next ∨ (budget.call next).1.IsExhausted ∨
            allowance - spentOn i (budget.entry next) = 0)) := by
  rcases call_cases budget next with ⟨error, hcall, hentry⟩ |
    ⟨streamId, bytes, rfl, -, hcall, hentry⟩ | ⟨j, bytes, after, hspends, hcall, hentry⟩
  · rw [hcall, hentry]
    exact ⟨Nat.zero_le _, Or.inl hlookup⟩
  · rcases h.allow_lookup hlookup streamId.toNat bytes.toNat with hkept | hdropped
    · rw [hcall, hentry]
      exact ⟨Nat.zero_le _, Or.inl hkept⟩
    · refine ⟨by rw [hentry]; exact Nat.zero_le _, Or.inr ⟨by rw [hcall]; exact hdropped, ?_⟩⟩
      refine Or.inl ⟨streamId, bytes, i, rfl, ?_, ?_⟩
      · rw [Tracks, hlookup]
        rfl
      · rw [Tracks, hcall, hdropped]
        simp
  · rw [hcall, hentry]
    rcases eq_or_ne i j with rfl | hother
    · rw [spentOn_own]
      obtain ⟨hle, hleft | ⟨hnone, hwhy⟩⟩ := hspends.lookup_own hlookup
      · exact ⟨hle, Or.inl hleft⟩
      · exact ⟨hle, Or.inr ⟨hnone, Or.inr hwhy⟩⟩
    · rw [spentOn_other hother.symm]
      rcases hspends.lookup_other hother hlookup with hleft | ⟨hnone, hdone⟩
      · exact ⟨Nat.zero_le _, Or.inl hleft⟩
      · exact ⟨Nat.zero_le _, Or.inr ⟨hnone, Or.inr (Or.inl hdone)⟩⟩

/-- As long as a stream is tracked its late DATA stays within its allowance, also with the frame
that ends the tracking. -/
theorem Kept.spent_le (h : Kept maximumBytes maximumFrames entries budget) {i allowance : ℕ}
    (hlookup : budget.streamBytes.lookup i = some allowance) (calls : List RetiredCall)
    (htracked : ∀ k < calls.length, (budget.run (calls.take k)).Tracks i) :
    spentOn i (budget.consumed calls) ≤ allowance := by
  induction calls generalizing budget entries allowance with
  | nil => exact Nat.zero_le _
  | cons next calls ih =>
    obtain ⟨hle, hafter⟩ := h.call_lookup hlookup next
    rw [consumed, spentOn_append]
    rcases hafter with hleft | ⟨hnone, -⟩
    · have hrest := ih (h.call next) hleft fun k hk => htracked (k + 1) (Nat.succ_lt_succ hk)
      omega
    · cases calls with
      | nil => simpa [consumed, spentOn, total] using hle
      | cons second calls =>
        have hsecond : (budget.call next).1.Tracks i := htracked 1 (by simp)
        rw [Tracks, hnone] at hsecond
        cases hsecond

theorem Kept.exhausted_call (h : Kept maximumBytes maximumFrames entries budget)
    (hexhausted : budget.IsExhausted) (next : RetiredCall) : (budget.call next).1.IsExhausted := by
  have hbefore := h.bytes
  have hframes := h.frames
  have hafter := (h.call next).bytes
  have hafterFrames := (h.call next).frames
  rw [total_append] at hafter
  rw [List.length_append] at hafterFrames
  unfold IsExhausted at hexhausted ⊢
  omega

/-- What is left of an allowance of which nothing was dropped. -/
theorem Kept.left_after (h : Kept maximumBytes maximumFrames entries budget) {i allowance : ℕ}
    (hleft : budget.streamBytes.lookup i = some allowance ∨ allowance = 0 ∨ budget.IsExhausted)
    (calls : List RetiredCall) (hnever : budget.NeverEvicts calls) :
    (budget.run calls).streamBytes.lookup i =
        some (allowance - spentOn i (budget.consumed calls)) ∨
      allowance - spentOn i (budget.consumed calls) = 0 ∨ (budget.run calls).IsExhausted := by
  induction calls generalizing budget entries allowance with
  | nil => exact hleft
  | cons next calls ih =>
    rw [consumed, spentOn_append, Nat.sub_add_eq]
    refine ih (h.call next) ?_ hnever.2
    rcases hleft with hlookup | hzero | hexhausted
    · obtain ⟨-, hkept | ⟨-, hevicts | hdone | hspent⟩⟩ := h.call_lookup hlookup next
      · exact Or.inl hkept
      · exact absurd hevicts hnever.1
      · exact Or.inr (Or.inr hdone)
      · exact Or.inr (Or.inl hspent)
    · exact Or.inr (Or.inl (by omega))
    · exact Or.inr (Or.inr (h.exhausted_call hexhausted next))

theorem consume_accepts {i bytes allowance : ℕ} (hid : IsPositiveSafeInteger i)
    (hbytes : IsPositiveSafeInteger bytes)
    (hlookup : budget.streamBytes.lookup i = some allowance) (hle : bytes ≤ allowance)
    (hframes : 0 < budget.remainingFrames) (hwithin : bytes ≤ budget.remainingBytes) :
    (budget.call (.consume i bytes)).2 = none := by
  have hconsume : ∃ after, budget.consume i bytes = .ok after := by
    have hpositive := hid.1
    have hsize := hbytes.1
    unfold consume
    rw [hlookup, Option.getD_some, if_neg (by omega), if_neg (by omega), if_neg (by omega),
      if_neg (by omega)]
    dsimp only
    split_ifs
    · exact ⟨_, rfl⟩
    · exact ⟨_, rfl⟩
    · exact ⟨_, rfl⟩
  obtain ⟨after, hafter⟩ := hconsume
  rw [call, if_neg (not_not.2 hid), if_neg (not_not.2 hbytes), Int.toNat_natCast,
    Int.toNat_natCast, hafter]

theorem run_append (budget : RetiredDataBudget) (before after : List RetiredCall) :
    budget.run (before ++ after) = (budget.run before).run after := by
  induction before generalizing budget with
  | nil => rfl
  | cons next before ih => exact ih (budget.call next).1

theorem consumed_append (budget : RetiredDataBudget) (before after : List RetiredCall) :
    budget.consumed (before ++ after) =
      budget.consumed before ++ (budget.run before).consumed after := by
  induction before generalizing budget with
  | nil => rfl
  | cons next before ih =>
    rw [List.cons_append, consumed, consumed, ih, List.append_assoc]
    rfl

theorem call_thrown (budget : RetiredDataBudget) (next : RetiredCall) {error : JsError}
    (hthrown : (budget.call next).2 = some error) : (budget.call next).1 = budget := by
  rcases call_cases budget next with ⟨_, hcall, -⟩ | ⟨_, _, -, -, hcall, -⟩ |
    ⟨_, _, after, -, hcall, -⟩
  · rw [hcall]
  · rw [hcall] at hthrown
    cases hthrown
  · rw [hcall] at hthrown
    cases hthrown

end Calls

/-- The bounds of the budget over a carrier's life: `before` is what happened, `after` what happens
from then on. -/
theorem retired_data_bounded (maximumBytes maximumFrames : ℤ) (budget : RetiredDataBudget)
    (hnew : create maximumBytes maximumFrames = .ok budget) (before after : List RetiredCall) :
    (total (budget.consumed before) : ℤ) ≤ maximumBytes ∧
      ((budget.consumed before).length : ℤ) ≤ maximumFrames ∧
      ((budget.run before).streamBytes.length : ℤ) ≤ maximumFrames ∧
      (∀ entry ∈ (budget.run before).streamBytes, 0 < entry.2) ∧
      (∀ next error, ((budget.run before).call next).2 = some error →
        ((budget.run before).call next).1 = budget.run before) ∧
      (∀ i allowance, (budget.run before).streamBytes.lookup i = some allowance →
        (∀ k < after.length, ((budget.run before).run (after.take k)).Tracks i) →
          spentOn i ((budget.run before).consumed after) ≤ allowance) ∧
      ∀ i allowance bytes : ℕ, (budget.run before).streamBytes.lookup i = some allowance →
        (budget.run before).NeverEvicts after → 0 < bytes →
          spentOn i ((budget.run before).consumed after) + bytes ≤ allowance →
            (total (budget.consumed (before ++ after)) : ℤ) + bytes ≤ maximumBytes →
              ((budget.consumed (before ++ after)).length : ℤ) < maximumFrames →
                (((budget.run before).run after).call (.consume i bytes)).2 = none := by
  obtain ⟨hbytes, hframes, hstart⟩ := create_kept hnew
  have hlimit : (maximumBytes.toNat : ℤ) = maximumBytes := Int.toNat_of_nonneg hbytes.1.le
  have hcount : (maximumFrames.toNat : ℤ) = maximumFrames := Int.toNat_of_nonneg hframes.1.le
  have hbefore : Kept maximumBytes.toNat maximumFrames.toNat (budget.consumed before)
      (budget.run before) := hstart.run before
  have htotals := hbefore.bytes
  have hnumbers := hbefore.frames
  have htracked := hbefore.tracked
  refine ⟨by omega, by omega, by omega, hbefore.positive, fun next error => call_thrown _ next,
    fun i allowance hlookup => hbefore.spent_le hlookup after, ?_⟩
  intro i allowance bytes hlookup hnever hpositive hwithin htotal hnumber
  have hend : Kept maximumBytes.toNat maximumFrames.toNat (budget.consumed (before ++ after))
      ((budget.run before).run after) := by
    rw [consumed_append]
    exact hbefore.run after
  have hendTotals := hend.bytes
  have hendNumbers := hend.frames
  have hsafe : IsPositiveSafeInteger bytes := ⟨by omega, by have := hbytes.2; omega⟩
  have hid := hbefore.ids _ (List.mem_of_lookup hlookup)
  rcases hbefore.left_after (Or.inl hlookup) after hnever with hleft | hspent | hexhausted
  · exact consume_accepts hid hsafe hleft (by omega) (by omega) (by omega)
  · omega
  · unfold IsExhausted at hexhausted
    omega

/-- Two frames fit, a third does not; the stream that was used up gets a new allowance. -/
def lateFrames : List RetiredCall :=
  [.allow 1 6, .consume 1 4, .allow 1 9, .consume 1 3, .consume 1 2, .allow 1 3]

theorem retired_data_bounded_late :
    ∃ budget, create 20 5 = .ok budget ∧
      budget.consumed lateFrames = [(1, 4), (1, 2)] ∧
      (budget.run lateFrames).streamBytes = [(1, 3)] ∧
      (total (budget.consumed lateFrames) : ℤ) ≤ 20 ∧
      (((budget.run lateFrames).run [.consume 1 1]).call (.consume (1 : ℕ) (2 : ℕ))).2 = none := by
  refine ⟨.new 20 5, rfl, by decide +kernel, by decide +kernel, ?_⟩
  obtain ⟨htotal, -, -, -, -, -, haccepts⟩ :=
    retired_data_bounded 20 5 (.new 20 5) rfl lateFrames [.consume 1 1]
  refine ⟨htotal, haccepts 1 3 2 (by decide +kernel) ⟨?_, trivial⟩ (by decide) (by decide +kernel)
    (by decide +kernel) (by decide +kernel)⟩
  rintro ⟨_, _, _, hcall, -⟩
  cases hcall

end RetiredDataBudget

end Lotur
