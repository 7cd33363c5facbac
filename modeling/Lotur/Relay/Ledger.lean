import Lotur.Relay.Frames
import Mathlib.Data.Finsupp.Weight
import Mathlib.Data.Finsupp.Order

/-! The flow windows as ledgers: the bytes of every stream as a function, and the balance of the
connection with their sum. -/
namespace Lotur

open Finsupp

/-- An amount of every stream of the map, zero outside. -/
noncomputable def amounts {α : Type} (amount : α → ℕ) (streams : StreamMap α) : ℕ →₀ ℕ :=
  onFinset streams.keys.toFinset (fun i => ((streams.lookup i).map amount).getD 0) (by
    intro i hi
    rw [List.mem_toFinset, ← AList.mem_keys, ← AList.lookup_isSome]
    cases hlookup : streams.lookup i with
    | none => simp [hlookup] at hi
    | some value => rfl)

section Amounts

variable {α : Type} {amount : α → ℕ} {streams : StreamMap α}

theorem amounts_of_lookup {i : ℕ} {value : α} (h : streams.lookup i = some value) :
    amounts amount streams i = amount value := by
  simp [amounts, h]

theorem amounts_of_not_mem {i : ℕ} (h : i ∉ streams) : amounts amount streams i = 0 := by
  simp [amounts, AList.lookup_eq_none.mpr h]

theorem amounts_insert_self (i : ℕ) (value : α) :
    amounts amount (streams.insert i value) i = amount value :=
  amounts_of_lookup (AList.lookup_insert streams)

theorem amounts_insert_ne {i j : ℕ} (value : α) (h : j ≠ i) :
    amounts amount (streams.insert i value) j = amounts amount streams j := by
  simp [amounts, AList.lookup_insert_ne h]

theorem amounts_erase (i : ℕ) :
    amounts amount (streams.erase i) = (amounts amount streams).erase i := by
  ext j
  by_cases hj : j = i
  · subst hj
    simp [amounts]
  · simp [amounts, AList.lookup_erase_ne hj, hj]

theorem amounts_insert_new {i : ℕ} {value : α} (h : i ∉ streams) (hzero : amount value = 0) :
    amounts amount (streams.insert i value) = amounts amount streams := by
  ext j
  by_cases hj : j = i
  · subst hj
    rw [amounts_insert_self, hzero, amounts_of_not_mem h]
  · rw [amounts_insert_ne value hj]

theorem amounts_insert_add {i bytes : ℕ} {old new : α} (h : streams.lookup i = some old)
    (hnew : amount new = amount old + bytes) :
    amounts amount (streams.insert i new) = amounts amount streams + single i bytes := by
  ext j
  by_cases hj : j = i
  · subst hj
    rw [amounts_insert_self, Finsupp.add_apply, single_eq_same, amounts_of_lookup h, hnew]
  · rw [amounts_insert_ne new hj, Finsupp.add_apply, single_eq_of_ne hj, add_zero]

theorem amounts_insert_sub {i bytes : ℕ} {old new : α} (h : streams.lookup i = some old)
    (hnew : amount new = amount old - bytes) :
    amounts amount (streams.insert i new) = amounts amount streams - single i bytes := by
  ext j
  by_cases hj : j = i
  · subst hj
    rw [amounts_insert_self, tsub_apply, single_eq_same, amounts_of_lookup h, hnew]
  · rw [amounts_insert_ne new hj, tsub_apply, single_eq_of_ne hj, Nat.sub_zero]

end Amounts

theorem degree_erase (f : ℕ →₀ ℕ) (i : ℕ) : (f.erase i).degree + f i = f.degree := by
  conv_rhs => rw [← erase_add_single i f]
  rw [map_add, degree_single]

theorem degree_sub_single {f : ℕ →₀ ℕ} {i bytes : ℕ} (h : bytes ≤ f i) :
    (f - single i bytes).degree + bytes = f.degree := by
  have hsplit : f - single i bytes + single i bytes = f :=
    tsub_add_cancel_of_le (single_le_iff.mpr h)
  conv_rhs => rw [← hsplit]
  rw [map_add, degree_single]

/-- The bytes of a list of grants. -/
noncomputable def granted (grants : List (ℕ × ℕ)) : ℕ →₀ ℕ :=
  (grants.map fun grant => single grant.1 grant.2).sum

@[simp] theorem granted_nil : granted [] = 0 := rfl

@[simp] theorem granted_cons (grant : ℕ × ℕ) (grants : List (ℕ × ℕ)) :
    granted (grant :: grants) = single grant.1 grant.2 + granted grants := List.sum_cons

@[simp] theorem granted_append (grants grants' : List (ℕ × ℕ)) :
    granted (grants ++ grants') = granted grants + granted grants' := by
  simp [granted]

namespace OutboundFlowWindow

noncomputable def outstanding (window : OutboundFlowWindow) : ℕ →₀ ℕ :=
  amounts StreamCredit.outstanding window.streams

/-- The same for one stream, to be computed. -/
def outstandingBytes (window : OutboundFlowWindow) (i : ℕ) : ℕ :=
  ((window.streams.lookup i).map StreamCredit.outstanding).getD 0

theorem outstanding_apply (window : OutboundFlowWindow) (i : ℕ) :
    window.outstanding i = window.outstandingBytes i := rfl

/-- The connection's credit is what no stream has outstanding, and no stream has more
outstanding than its window. -/
structure Balanced (streamBytes connectionBytes : ℕ) (window : OutboundFlowWindow) : Prop where
  connection : window.connectionAvailable + window.outstanding.degree = connectionBytes
  stream : ∀ i credit, window.streams.lookup i = some credit →
    credit.available + credit.outstanding ≤ streamBytes

variable {streamBytes connectionBytes : ℕ} {window : OutboundFlowWindow}

theorem Balanced.outstanding_le (h : Balanced streamBytes connectionBytes window) (i : ℕ) :
    window.outstanding i ≤ streamBytes := by
  cases hlookup : window.streams.lookup i with
  | none =>
    rw [outstanding, amounts_of_not_mem (AList.lookup_eq_none.mp hlookup)]
    exact Nat.zero_le _
  | some credit =>
    have hcredit := h.stream i credit hlookup
    rw [outstanding, amounts_of_lookup hlookup]
    omega

theorem Balanced.degree_le (h : Balanced streamBytes connectionBytes window) :
    window.outstanding.degree ≤ connectionBytes := by
  have hconnection := h.connection
  omega

/-- What an operation of the window leaves when the streams then have so much outstanding
before its waiters are served. -/
structure Settles (streamBytes connectionBytes : ℕ) (before : ℕ →₀ ℕ) (streams : ℕ → Prop)
    (after : OutboundFlowWindow) (settled : List Settlement) : Prop where
  balanced : Balanced streamBytes connectionBytes after
  outstanding : after.outstanding = before + granted (resolved settled)
  positive : ∀ grant ∈ resolved settled, 0 < grant.2
  streams : ∀ i, i ∈ after.streams ↔ streams i

theorem grant_balanced (h : Balanced streamBytes connectionBytes window) {i bytes : ℕ}
    {credit : StreamCredit} (hlookup : window.streams.lookup i = some credit)
    (hstream : bytes ≤ credit.available) (hconnection : bytes ≤ window.connectionAvailable) :
    Balanced streamBytes connectionBytes (window.grant i bytes credit) ∧
      (window.grant i bytes credit).outstanding = window.outstanding + single i bytes := by
  have houtstanding : (window.grant i bytes credit).outstanding =
      window.outstanding + single i bytes := amounts_insert_add hlookup rfl
  refine ⟨⟨?_, ?_⟩, houtstanding⟩
  · have hbalance := h.connection
    rw [houtstanding, map_add, degree_single]
    show window.connectionAvailable - bytes + _ = _
    omega
  · intro j other hother
    by_cases hj : j = i
    · subst hj
      have hcredit := h.stream j credit hlookup
      have heq : other = ⟨credit.available - bytes, credit.outstanding + bytes⟩ := by
        simpa [grant] using hother.symm
      rw [heq]
      show credit.available - bytes + (credit.outstanding + bytes) ≤ _
      omega
    · refine h.stream j other ?_
      simpa [grant, AList.lookup_insert_ne hj] using hother

theorem drainFrom_settles (h : Balanced streamBytes connectionBytes window)
    (waiters : List CreditWaiter) :
    Settles streamBytes connectionBytes window.outstanding (· ∈ window.streams)
      (window.drainFrom waiters).1 (window.drainFrom waiters).2 := by
  induction waiters generalizing window with
  | nil => exact ⟨h, by simp [drainFrom, resolved], by simp [drainFrom, resolved], fun _ => Iff.rfl⟩
  | cons waiter rest ih =>
    cases hlookup : window.streams.lookup waiter.streamId with
    | none =>
      have hrest := ih h
      simp only [drainFrom, hlookup]
      exact ⟨hrest.balanced, hrest.outstanding, hrest.positive, hrest.streams⟩
    | some credit =>
      simp only [drainFrom, hlookup]
      split_ifs with hzero
      · have hkept : Balanced streamBytes connectionBytes
            { window with waiters := window.waiters ++ [waiter] } := ⟨h.connection, h.stream⟩
        exact ih hkept
      · have hbytes : window.grantable waiter credit ≤ credit.available := by
          unfold grantable
          omega
        have hconnection : window.grantable waiter credit ≤ window.connectionAvailable := by
          unfold grantable
          omega
        obtain ⟨hbalanced, houtstanding⟩ := grant_balanced h hlookup hbytes hconnection
        have hrest := ih hbalanced
        refine ⟨hrest.balanced, ?_, ?_, ?_⟩
        · rw [hrest.outstanding, houtstanding, add_assoc]
          rfl
        · intro grant hgrant
          rcases List.mem_cons.mp hgrant with heq | hmem
          · rw [heq]
            exact Nat.pos_of_ne_zero hzero
          · exact hrest.positive grant hmem
        · intro i
          rw [hrest.streams i]
          have hmem : waiter.streamId ∈ window.streams := by
            rw [← AList.lookup_isSome, hlookup]
            rfl
          simp only [OutboundFlowWindow.grant, AList.mem_insert]
          constructor
          · rintro (rfl | hi)
            · exact hmem
            · exact hi
          · exact Or.inr

theorem drainWaiters_settles (h : Balanced streamBytes connectionBytes window) :
    Settles streamBytes connectionBytes window.outstanding (· ∈ window.streams)
      window.drainWaiters.1 window.drainWaiters.2 := by
  have hemptied : Balanced streamBytes connectionBytes { window with waiters := [] } :=
    ⟨h.connection, h.stream⟩
  exact drainFrom_settles hemptied window.waiters

variable {after : OutboundFlowWindow} {settled : List Settlement}

/-- The same for a window that is named together with what it settled. -/
theorem settles_of_drain (h : Balanced streamBytes connectionBytes window)
    (hafter : window.drainWaiters = (after, settled)) :
    Settles streamBytes connectionBytes window.outstanding (· ∈ window.streams) after settled := by
  have hsettles := drainWaiters_settles h
  rwa [hafter] at hsettles

theorem openStream_settles (h : Balanced streamBytes connectionBytes window)
    {i initialStreamBytes : ℕ} (hinitial : initialStreamBytes ≤ streamBytes)
    (hopen : window.openStream i initialStreamBytes = .ok (after, settled)) :
    Settles streamBytes connectionBytes window.outstanding
      (fun j => j = i ∨ j ∈ window.streams) after settled := by
  unfold openStream at hopen
  split_ifs at hopen with hid hbytes hclosed hmem
  have houtstanding : amounts StreamCredit.outstanding
      (window.streams.insert i ⟨initialStreamBytes, 0⟩) = window.outstanding :=
    amounts_insert_new hmem rfl
  have hopened : Balanced streamBytes connectionBytes { window with
      streams := window.streams.insert i ⟨initialStreamBytes, 0⟩ } := by
    refine ⟨?_, ?_⟩
    · show window.connectionAvailable + (amounts _ _).degree = _
      rw [houtstanding]
      exact h.connection
    · intro j credit hcredit
      by_cases hj : j = i
      · subst hj
        have heq : credit = ⟨initialStreamBytes, 0⟩ := by simpa using hcredit.symm
        simpa [heq] using hinitial
      · refine h.stream j credit ?_
        simpa [AList.lookup_insert_ne hj] using hcredit
  have hsettles := settles_of_drain hopened (Except.ok.inj hopen)
  refine ⟨hsettles.balanced, ?_, hsettles.positive, ?_⟩
  · rw [hsettles.outstanding, ← houtstanding]
    rfl
  · intro j
    rw [hsettles.streams j]
    exact AList.mem_insert window.streams

theorem take_settles (h : Balanced streamBytes connectionBytes window) {i maximumBytes : ℕ}
    (htake : window.take i maximumBytes = .ok (after, settled)) :
    Settles streamBytes connectionBytes window.outstanding (· ∈ window.streams) after settled := by
  unfold take at htake
  split_ifs at htake
  have hwaiting : Balanced streamBytes connectionBytes { window with
      waiters := window.waiters ++ [(⟨i, maximumBytes⟩ : CreditWaiter)] } :=
    ⟨h.connection, h.stream⟩
  have hsettles := settles_of_drain hwaiting (Except.ok.inj htake)
  exact hsettles

theorem update_settles (h : Balanced streamBytes connectionBytes window) {i bytes : ℕ}
    (hupdate : window.update i bytes = .ok (after, settled)) :
    bytes ≤ window.outstanding i ∧
      Settles streamBytes connectionBytes (window.outstanding - single i bytes)
        (· ∈ window.streams) after settled := by
  unfold update at hupdate
  split at hupdate
  · cases hupdate
  · split at hupdate
    · cases hupdate
    · rename_i credit hlookup
      split_ifs at hupdate with hexceeds hmaximum
      have hmem : i ∈ window.streams := by
        rw [← AList.lookup_isSome, hlookup]
        rfl
      have hbytes : bytes ≤ window.outstanding i := by
        rw [outstanding, amounts_of_lookup hlookup]
        omega
      have houtstanding : amounts StreamCredit.outstanding (window.streams.insert i
          ⟨credit.available + bytes, credit.outstanding - bytes⟩) =
          window.outstanding - single i bytes := amounts_insert_sub hlookup rfl
      have hcredited : Balanced streamBytes connectionBytes { window with
          connectionAvailable := window.connectionAvailable + bytes
          streams := window.streams.insert i
            ⟨credit.available + bytes, credit.outstanding - bytes⟩ } := by
        refine ⟨?_, ?_⟩
        · have hbalance := h.connection
          have hdegree := degree_sub_single hbytes
          show window.connectionAvailable + bytes + (amounts _ _).degree = _
          rw [houtstanding]
          omega
        · intro j other hother
          by_cases hj : j = i
          · subst hj
            have hcredit := h.stream j credit hlookup
            have heq : other = ⟨credit.available + bytes, credit.outstanding - bytes⟩ := by
              simpa using hother.symm
            rw [heq]
            show credit.available + bytes + (credit.outstanding - bytes) ≤ _
            omega
          · refine h.stream j other ?_
            simpa [AList.lookup_insert_ne hj] using hother
      have hsettles := settles_of_drain hcredited (Except.ok.inj hupdate)
      refine ⟨hbytes, hsettles.balanced, ?_, hsettles.positive, ?_⟩
      · rw [hsettles.outstanding, ← houtstanding]
        rfl
      · intro j
        rw [hsettles.streams j, AList.mem_insert]
        constructor
        · rintro (rfl | hj)
          · exact hmem
          · exact hj
        · exact Or.inr

theorem resolved_rejected (waiters : List CreditWaiter) (error : JsError)
    (settled : List Settlement) :
    resolved ((waiters.map fun waiter => Settlement.rejected waiter.streamId error) ++ settled) =
      resolved settled := by
  simp [resolved]

theorem closeStream_settles (h : Balanced streamBytes connectionBytes window) (i : ℕ) :
    Settles streamBytes connectionBytes (window.outstanding.erase i)
      (fun j => j ≠ i ∧ j ∈ window.streams) (window.closeStream i).1 (window.closeStream i).2 := by
  unfold closeStream
  split
  · rename_i hlookup
    have hmem : i ∉ window.streams := AList.lookup_eq_none.mp hlookup
    refine ⟨h, ?_, by simp [resolved], ?_⟩
    · have hzero : window.outstanding i = 0 := amounts_of_not_mem hmem
      rw [erase_of_notMem_support (by simpa using hzero)]
      simp [resolved]
    · intro j
      constructor
      · exact fun hj => ⟨fun heq => hmem (heq ▸ hj), hj⟩
      · exact fun hj => hj.2
  · rename_i credit hlookup
    have hclosed : Balanced streamBytes connectionBytes { window with
        streams := window.streams.erase i
        connectionAvailable := window.connectionAvailable + credit.outstanding
        waiters := window.waiters.filter fun waiter => waiter.streamId ≠ i } := by
      refine ⟨?_, ?_⟩
      · have hbalance := h.connection
        have hdegree := degree_erase window.outstanding i
        have hcredit : window.outstanding i = credit.outstanding := amounts_of_lookup hlookup
        show window.connectionAvailable + credit.outstanding +
          (amounts _ (window.streams.erase i)).degree = _
        rw [amounts_erase]
        show _ + (window.outstanding.erase i).degree = _
        omega
      · intro j other hother
        by_cases hj : j = i
        · subst hj
          simp at hother
        · refine h.stream j other ?_
          simpa [AList.lookup_erase_ne hj] using hother
    have hsettles := drainWaiters_settles hclosed
    refine ⟨hsettles.balanced, ?_, ?_, ?_⟩
    · rw [resolved_rejected]
      have houtstanding := hsettles.outstanding
      rw [show outstanding { window with
        streams := window.streams.erase i
        connectionAvailable := window.connectionAvailable + credit.outstanding
        waiters := window.waiters.filter fun waiter => waiter.streamId ≠ i } =
          window.outstanding.erase i from amounts_erase i] at houtstanding
      exact houtstanding
    · rw [resolved_rejected]
      exact hsettles.positive
    · intro j
      rw [hsettles.streams j]
      exact AList.mem_erase

end OutboundFlowWindow

namespace GatewayInboundFlow

noncomputable def held (flow : GatewayInboundFlow) : ℕ →₀ ℕ :=
  amounts StreamCredit.outstanding flow.streams

structure Balanced (streamBytes connectionBytes : ℕ) (flow : GatewayInboundFlow) : Prop where
  connection : flow.connectionAvailable + flow.held.degree = connectionBytes
  stream : ∀ i credit, flow.streams.lookup i = some credit →
    credit.available + credit.outstanding = streamBytes

/-- What an operation of the window leaves. -/
structure Holds (streamBytes connectionBytes : ℕ) (held : ℕ →₀ ℕ) (streams : ℕ → Prop)
    (flow : GatewayInboundFlow) : Prop where
  balanced : Balanced streamBytes connectionBytes flow
  held : flow.held = held
  streams : ∀ i, i ∈ flow.streams ↔ streams i

variable {streamBytes connectionBytes i bytes : ℕ} {flow flow' : GatewayInboundFlow}

theorem mem_of_lookup {credit : StreamCredit} (h : flow.streams.lookup i = some credit) :
    i ∈ flow.streams := by
  rw [← AList.lookup_isSome, h]
  rfl

/-- One stream's credit is replaced, and the connection's follows. -/
theorem holds_insert (h : Balanced streamBytes connectionBytes flow) {credit : StreamCredit}
    {connectionAvailable : ℕ} {held : ℕ →₀ ℕ}
    (hcredit : credit.available + credit.outstanding = streamBytes)
    (hheld : amounts StreamCredit.outstanding (flow.streams.insert i credit) = held)
    (hconnection : connectionAvailable + held.degree = connectionBytes) :
    Holds streamBytes connectionBytes held (fun j => j = i ∨ j ∈ flow.streams)
      { flow with connectionAvailable, streams := flow.streams.insert i credit } where
  balanced := by
    refine ⟨?_, ?_⟩
    · show connectionAvailable + (amounts _ _).degree = _
      rw [hheld]
      exact hconnection
    · intro j other hother
      by_cases hj : j = i
      · subst hj
        have heq : other = credit := by simpa using hother.symm
        rw [heq]
        exact hcredit
      · refine h.stream j other ?_
        simpa [AList.lookup_insert_ne hj] using hother
  held := hheld
  streams := fun _ => AList.mem_insert flow.streams

theorem openStream_holds (h : Balanced streamBytes connectionBytes flow)
    (hopen : flow.openStream i streamBytes = .ok flow') :
    Holds streamBytes connectionBytes flow.held (fun j => j = i ∨ j ∈ flow.streams) flow' := by
  unfold openStream at hopen
  split_ifs at hopen with hid hbytes hmem
  cases hopen
  exact holds_insert h (add_zero _) (amounts_insert_new hmem rfl) h.connection

theorem holds_known {held : ℕ →₀ ℕ} (hmem : i ∈ flow.streams)
    (h : Holds streamBytes connectionBytes held (fun j => j = i ∨ j ∈ flow.streams) flow') :
    Holds streamBytes connectionBytes held (· ∈ flow.streams) flow' where
  balanced := h.balanced
  held := h.held
  streams := by
    intro j
    rw [h.streams j]
    constructor
    · rintro (rfl | hj)
      · exact hmem
      · exact hj
    · exact Or.inr

theorem consume_holds (h : Balanced streamBytes connectionBytes flow)
    (hconsume : flow.consume i bytes = .ok flow') :
    Holds streamBytes connectionBytes (flow.held + single i bytes) (· ∈ flow.streams) flow' := by
  unfold consume at hconsume
  split at hconsume
  · cases hconsume
  · split at hconsume
    · cases hconsume
    · rename_i credit hlookup
      have hcredit := h.stream i credit hlookup
      have hbalance := h.connection
      split_ifs at hconsume with hstream hconnection
      cases hconsume
      refine holds_known (mem_of_lookup hlookup) (holds_insert h ?_
        (amounts_insert_add hlookup rfl) ?_)
      · show credit.available - bytes + (credit.outstanding + bytes) = _
        omega
      · show flow.connectionAvailable - bytes + (flow.held + single i bytes).degree = _
        rw [map_add, degree_single]
        omega

theorem consume_accepts (h : Balanced streamBytes connectionBytes flow) (hmem : i ∈ flow.streams)
    (hbytes : 0 < bytes) (hstream : flow.held i + bytes ≤ streamBytes)
    (hconnection : flow.held.degree + bytes ≤ connectionBytes) :
    ∃ flow', flow.consume i bytes = .ok flow' := by
  obtain ⟨credit, hlookup⟩ := Option.isSome_iff_exists.mp (AList.lookup_isSome.mpr hmem)
  have hcredit := h.stream i credit hlookup
  have hbalance := h.connection
  have hheld : flow.held i = credit.outstanding := amounts_of_lookup hlookup
  unfold consume
  rw [if_neg (by omega), hlookup]
  dsimp only
  rw [if_neg (by omega), if_neg (by omega)]
  exact ⟨_, rfl⟩

theorem release_holds (h : Balanced streamBytes connectionBytes flow)
    (hrelease : flow.release i bytes = .ok flow') :
    bytes ≤ flow.held i ∧ Holds streamBytes connectionBytes (flow.held - single i bytes)
      (· ∈ flow.streams) flow' := by
  unfold release at hrelease
  split at hrelease
  · cases hrelease
  · split at hrelease
    · cases hrelease
    · rename_i credit hlookup
      have hcredit := h.stream i credit hlookup
      have hbalance := h.connection
      have hheld : flow.held i = credit.outstanding := amounts_of_lookup hlookup
      split_ifs at hrelease with hstream hconnection
      cases hrelease
      have hbytes : bytes ≤ flow.held i := by omega
      have hdegree := degree_sub_single hbytes
      refine ⟨hbytes, holds_known (mem_of_lookup hlookup) (holds_insert h ?_
        (amounts_insert_sub hlookup rfl) ?_)⟩
      · show credit.available + bytes + (credit.outstanding - bytes) = _
        omega
      · show flow.connectionAvailable + bytes + (flow.held - single i bytes).degree = _
        omega

theorem closeStream_holds (h : Balanced streamBytes connectionBytes flow)
    (hclose : flow.closeStream i = .ok flow') :
    Holds streamBytes connectionBytes (flow.held.erase i) (fun j => j ≠ i ∧ j ∈ flow.streams)
      flow' := by
  unfold closeStream at hclose
  split at hclose
  · rename_i hlookup
    have hmem : i ∉ flow.streams := AList.lookup_eq_none.mp hlookup
    cases hclose
    refine ⟨h, ?_, ?_⟩
    · have hzero : flow.held i = 0 := amounts_of_not_mem hmem
      rw [erase_of_notMem_support (by simpa using hzero)]
    · intro j
      constructor
      · exact fun hj => ⟨fun heq => hmem (heq ▸ hj), hj⟩
      · exact fun hj => hj.2
  · rename_i credit hlookup
    split_ifs at hclose with hmaximum
    cases hclose
    refine ⟨⟨?_, ?_⟩, amounts_erase i, fun j => AList.mem_erase⟩
    · have hbalance := h.connection
      have hdegree := degree_erase flow.held i
      have hcredit : flow.held i = credit.outstanding := amounts_of_lookup hlookup
      show flow.connectionAvailable + credit.outstanding +
        (amounts _ (flow.streams.erase i)).degree = _
      rw [amounts_erase]
      show _ + (flow.held.erase i).degree = _
      omega
    · intro j other hother
      by_cases hj : j = i
      · subst hj
        simp at hother
      · refine h.stream j other ?_
        simpa [AList.lookup_erase_ne hj] using hother

theorem retireStream_holds (h : Balanced streamBytes connectionBytes flow)
    (hretire : flow.retireStream i = .ok flow') :
    Holds streamBytes connectionBytes (flow.held.erase i) (fun j => j ≠ i ∧ j ∈ flow.streams)
      flow' := by
  unfold retireStream at hretire
  split at hretire
  · rename_i hlookup
    refine closeStream_holds h ?_
    rw [← hretire, closeStream, hlookup]
  · rename_i credit hlookup
    have hallowed : Balanced streamBytes connectionBytes { flow with
        retiredData := flow.retiredData.allow i
          (min credit.available flow.connectionAvailable) } := ⟨h.connection, h.stream⟩
    have hclosed := closeStream_holds hallowed hretire
    exact hclosed

theorem consumeRetiredData_holds (h : Balanced streamBytes connectionBytes flow)
    (hconsume : flow.consumeRetiredData i bytes = .ok flow') :
    Holds streamBytes connectionBytes flow.held (· ∈ flow.streams) flow' := by
  unfold consumeRetiredData at hconsume
  cases hbudget : flow.retiredData.consume i bytes with
  | error error =>
    rw [hbudget] at hconsume
    cases hconsume
  | ok retiredData =>
    rw [hbudget] at hconsume
    cases hconsume
    exact ⟨⟨h.connection, h.stream⟩, rfl, fun _ => Iff.rfl⟩

end GatewayInboundFlow

namespace InboundFlowWindow

noncomputable def held (window : InboundFlowWindow) : ℕ →₀ ℕ :=
  amounts InboundStreamWindow.consumedBytes window.streams

structure Balanced (streamBytes connectionBytes : ℕ) (window : InboundFlowWindow) : Prop where
  limit : window.connectionLimit = connectionBytes
  connection : window.connectionConsumedBytes = window.held.degree
  stream : ∀ i stream, window.streams.lookup i = some stream → stream.limit = streamBytes

structure Holds (streamBytes connectionBytes : ℕ) (held : ℕ →₀ ℕ) (streams : ℕ → Prop)
    (window : InboundFlowWindow) : Prop where
  balanced : Balanced streamBytes connectionBytes window
  held : window.held = held
  streams : ∀ i, i ∈ window.streams ↔ streams i

variable {streamBytes connectionBytes i bytes : ℕ} {window window' : InboundFlowWindow}

theorem mem_of_lookup {stream : InboundStreamWindow} (h : window.streams.lookup i = some stream) :
    i ∈ window.streams := by
  rw [← AList.lookup_isSome, h]
  rfl

theorem holds_insert (h : Balanced streamBytes connectionBytes window)
    {stream : InboundStreamWindow} {connectionConsumedBytes pendingFrames : ℕ} {held : ℕ →₀ ℕ}
    (hstream : stream.limit = streamBytes)
    (hheld : amounts InboundStreamWindow.consumedBytes (window.streams.insert i stream) = held)
    (hconnection : connectionConsumedBytes = held.degree) :
    Holds streamBytes connectionBytes held (fun j => j = i ∨ j ∈ window.streams)
      { window with
        streams := window.streams.insert i stream
        connectionConsumedBytes := connectionConsumedBytes
        pendingFrames := pendingFrames } where
  balanced := by
    refine ⟨h.limit, ?_, ?_⟩
    · show connectionConsumedBytes = (amounts _ _).degree
      rw [hheld]
      exact hconnection
    · intro j other hother
      by_cases hj : j = i
      · subst hj
        have heq : other = stream := by simpa using hother.symm
        rw [heq]
        exact hstream
      · refine h.stream j other ?_
        simpa [AList.lookup_insert_ne hj] using hother
  held := hheld
  streams := fun _ => AList.mem_insert window.streams

theorem openStream_holds (h : Balanced streamBytes connectionBytes window)
    (hopen : window.openStream i streamBytes = .ok window') :
    Holds streamBytes connectionBytes window.held (fun j => j = i ∨ j ∈ window.streams)
      window' := by
  unfold openStream at hopen
  split_ifs at hopen with hid hbytes hmem
  cases hopen
  exact holds_insert h rfl (amounts_insert_new hmem rfl) h.connection

theorem holds_known {held : ℕ →₀ ℕ} (hmem : i ∈ window.streams)
    (h : Holds streamBytes connectionBytes held (fun j => j = i ∨ j ∈ window.streams) window') :
    Holds streamBytes connectionBytes held (· ∈ window.streams) window' where
  balanced := h.balanced
  held := h.held
  streams := by
    intro j
    rw [h.streams j]
    constructor
    · rintro (rfl | hj)
      · exact hmem
      · exact hj
    · exact Or.inr

theorem consume_holds (h : Balanced streamBytes connectionBytes window)
    (hconsume : window.consume i bytes = .ok window') :
    Holds streamBytes connectionBytes (window.held + single i bytes) (· ∈ window.streams)
      window' := by
  unfold consume at hconsume
  split at hconsume
  · cases hconsume
  · split at hconsume
    · cases hconsume
    · rename_i stream hlookup
      split_ifs at hconsume
      cases hconsume
      refine holds_known (mem_of_lookup hlookup) (holds_insert h (h.stream i stream hlookup)
        (amounts_insert_add hlookup rfl) ?_)
      show window.connectionConsumedBytes + bytes = (window.held + single i bytes).degree
      rw [map_add, degree_single, h.connection]

theorem consume_accepts (h : Balanced streamBytes connectionBytes window)
    (hmem : i ∈ window.streams) (hbytes : 0 < bytes)
    (hstream : window.held i + bytes ≤ streamBytes)
    (hconnection : window.held.degree + bytes ≤ connectionBytes)
    (hframes : window.pendingFrames < window.maxPendingFrames) :
    ∃ window', window.consume i bytes = .ok window' := by
  obtain ⟨stream, hlookup⟩ := Option.isSome_iff_exists.mp (AList.lookup_isSome.mpr hmem)
  have hlimit := h.stream i stream hlookup
  have hconsumed := h.connection
  have hconnectionLimit := h.limit
  have hheld : window.held i = stream.consumedBytes := amounts_of_lookup hlookup
  unfold consume
  rw [if_neg (by omega), hlookup]
  dsimp only
  rw [if_neg (by omega), if_neg (by omega), if_neg (by omega)]
  exact ⟨_, rfl⟩

theorem release_holds (h : Balanced streamBytes connectionBytes window)
    (hrelease : window.release i bytes = .ok window') :
    bytes ≤ window.held i ∧ Holds streamBytes connectionBytes (window.held - single i bytes)
      (· ∈ window.streams) window' := by
  unfold release at hrelease
  split at hrelease
  · cases hrelease
  · split at hrelease
    · cases hrelease
    · rename_i stream hlookup
      have hheld : window.held i = stream.consumedBytes := amounts_of_lookup hlookup
      split_ifs at hrelease with hconsumed
      cases hrelease
      have hbytes : bytes ≤ window.held i := by omega
      have hdegree := degree_sub_single hbytes
      refine ⟨hbytes, holds_known (mem_of_lookup hlookup) (holds_insert h
        (h.stream i stream hlookup) (amounts_insert_sub hlookup rfl) ?_)⟩
      have hconnection := h.connection
      show window.connectionConsumedBytes - bytes = (window.held - single i bytes).degree
      omega

theorem closeStream_holds (h : Balanced streamBytes connectionBytes window) (i : ℕ) :
    Holds streamBytes connectionBytes (window.held.erase i) (fun j => j ≠ i ∧ j ∈ window.streams)
      (window.closeStream i) := by
  unfold closeStream
  split
  · rename_i hlookup
    have hmem : i ∉ window.streams := AList.lookup_eq_none.mp hlookup
    refine ⟨h, ?_, ?_⟩
    · have hzero : window.held i = 0 := amounts_of_not_mem hmem
      rw [erase_of_notMem_support (by simpa using hzero)]
    · intro j
      constructor
      · exact fun hj => ⟨fun heq => hmem (heq ▸ hj), hj⟩
      · exact fun hj => hj.2
  · rename_i stream hlookup
    refine ⟨⟨h.limit, ?_, ?_⟩, amounts_erase i, fun j => AList.mem_erase⟩
    · have hconnection := h.connection
      have hdegree := degree_erase window.held i
      have hstream : window.held i = stream.consumedBytes := amounts_of_lookup hlookup
      show window.connectionConsumedBytes - stream.consumedBytes =
        (amounts _ (window.streams.erase i)).degree
      rw [amounts_erase]
      show _ = (window.held.erase i).degree
      omega
    · intro j other hother
      by_cases hj : j = i
      · subst hj
        simp at hother
      · refine h.stream j other ?_
        simpa [AList.lookup_erase_ne hj] using hother

theorem retireStream_holds (h : Balanced streamBytes connectionBytes window) (i : ℕ) :
    Holds streamBytes connectionBytes (window.held.erase i) (fun j => j ≠ i ∧ j ∈ window.streams)
      (window.retireStream i) := by
  unfold retireStream
  split
  · rename_i hlookup
    have hclosed := closeStream_holds h i
    rwa [closeStream, hlookup] at hclosed
  · rename_i stream hlookup
    have hallowed : Balanced streamBytes connectionBytes { window with
        retiredData := window.retiredData.allow i (min (stream.limit - stream.consumedBytes)
          (window.connectionLimit - window.connectionConsumedBytes)) } :=
      ⟨h.limit, h.connection, h.stream⟩
    have hclosed := closeStream_holds hallowed i
    exact hclosed

theorem consumeRetiredData_holds (h : Balanced streamBytes connectionBytes window)
    (hconsume : window.consumeRetiredData i bytes = .ok window') :
    Holds streamBytes connectionBytes window.held (· ∈ window.streams) window' := by
  unfold consumeRetiredData at hconsume
  cases hbudget : window.retiredData.consume i bytes with
  | error error =>
    rw [hbudget] at hconsume
    cases hconsume
  | ok retiredData =>
    rw [hbudget] at hconsume
    cases hconsume
    exact ⟨⟨h.limit, h.connection, h.stream⟩, rfl, fun _ => Iff.rfl⟩

end InboundFlowWindow

end Lotur
