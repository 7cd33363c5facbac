import Mathlib.Data.Finsupp.Weight
import Mathlib.Data.Finsupp.Order
import Mathlib.Tactic

/-! Credit-based flow control between two ports that exchange items over FIFO channels, with a
window for every stream and one for the connection. What a sender has outstanding covers what
its peer holds, so no data meets a full window, if a sender forgets a stream only when nothing
of it is outstanding or by a reset, and credit it has seen was given back before. -/
namespace CreditProtocol

open Finsupp

variable {ι : Type*}

inductive Item (ι : Type*) where
  | data (i : ι) (bytes : ℕ)
  | credit (i : ι) (bytes : ℕ)
  | reset (i : ι)

def Item.id : Item ι → ι
  | .data i _ => i
  | .credit i _ => i
  | .reset i => i

/-- One end of the connection. As a sender it has bytes outstanding and bytes that are granted
and not sent yet; as a receiver it has streams it shut, bytes it holds, and among these bytes
whose credit it announced and still owes to its own window. -/
@[ext]
structure Port (ι : Type*) where
  outstanding : ι →₀ ℕ
  granted : ι →₀ ℕ
  shut : Set ι
  held : ι →₀ ℕ
  owed : ι →₀ ℕ
  outbox : List (Item ι)

noncomputable def Item.pending : Item ι → ι →₀ ℕ
  | .data i bytes => single i bytes
  | _ => 0

noncomputable def Item.credited : Item ι → ι →₀ ℕ
  | .credit i bytes => single i bytes
  | _ => 0

/-- The bytes of data on their way. -/
noncomputable def pending (items : List (Item ι)) : ι →₀ ℕ := (items.map Item.pending).sum

/-- The credit on its way. -/
noncomputable def credits (items : List (Item ι)) : ι →₀ ℕ := (items.map Item.credited).sum

@[simp] theorem pending_nil : pending ([] : List (Item ι)) = 0 := rfl

@[simp] theorem credits_nil : credits ([] : List (Item ι)) = 0 := rfl

@[simp] theorem pending_cons (item : Item ι) (items : List (Item ι)) :
    pending (item :: items) = item.pending + pending items := List.sum_cons

@[simp] theorem credits_cons (item : Item ι) (items : List (Item ι)) :
    credits (item :: items) = item.credited + credits items := List.sum_cons

@[simp] theorem pending_append (items items' : List (Item ι)) :
    pending (items ++ items') = pending items + pending items' := by
  simp [pending]

@[simp] theorem credits_append (items items' : List (Item ι)) :
    credits (items ++ items') = credits items + credits items' := by
  simp [credits]

/-- What a port holds without the bytes whose credit its peer has already seen. -/
noncomputable def Port.counted (p : Port ι) : ι →₀ ℕ := p.held - (p.owed - credits p.outbox)

/-- Every item of the list finds the windows open when the items before it have arrived. -/
def Admissible (window connection : ℕ) : Set ι → (ι →₀ ℕ) → List (Item ι) → Prop
  | _, _, [] => True
  | shut, held, .data i bytes :: rest =>
    0 < bytes ∧ (i ∈ shut → Admissible window connection shut held rest) ∧
      (i ∉ shut → held i + bytes ≤ window ∧ held.degree + bytes ≤ connection ∧
        Admissible window connection shut (held + single i bytes) rest)
  | shut, held, .credit _ _ :: rest => Admissible window connection shut held rest
  | shut, held, .reset i :: rest => Admissible window connection (insert i shut) (held.erase i) rest

theorem erase_mono {f g : ι →₀ ℕ} (h : f ≤ g) (i : ι) : f.erase i ≤ g.erase i := by
  intro j
  by_cases hj : j = i
  · simp [hj]
  · simpa [erase_ne hj] using h j

variable {window connection : ℕ}

theorem Admissible.mono {shut shut' : Set ι} {held held' : ι →₀ ℕ} {items : List (Item ι)}
    (h : Admissible window connection shut held items) (hshut : shut ⊆ shut')
    (hheld : held' ≤ held) : Admissible window connection shut' held' items := by
  induction items generalizing shut shut' held held' with
  | nil => trivial
  | cons item rest ih =>
    cases item with
    | data i bytes =>
      obtain ⟨hpositive, hretired, hlive⟩ := h
      refine ⟨hpositive, ?_, ?_⟩
      · intro hi
        by_cases hold : i ∈ shut
        · exact ih (hretired hold) hshut hheld
        · exact ih (hlive hold).2.2 hshut (hheld.trans le_self_add)
      · intro hi
        obtain ⟨hstream, hconnection, hrest⟩ := hlive fun hold => hi (hshut hold)
        have hdegree : held'.degree ≤ held.degree := degree_mono hheld
        have hbytes : held' i ≤ held i := hheld i
        exact ⟨by omega, by omega, ih hrest hshut (add_le_add_left hheld _)⟩
    | credit i bytes => exact ih h hshut hheld
    | reset i => exact ih h (Set.insert_subset_insert hshut) (erase_mono hheld i)

/-- The receiver's windows when all items have arrived, from above. -/
theorem Admissible.snoc {shut : Set ι} {held : ι →₀ ℕ} {items : List (Item ι)} {item : Item ι}
    (h : Admissible window connection shut held items) (bound : ι →₀ ℕ)
    (hbound : ∀ j ∉ shut, .reset j ∉ items → held j + pending items j ≤ bound j)
    (hshut : ∀ j ∈ shut, held j = 0)
    (hlast : ∀ shut' held', held' ≤ bound → (∀ j, .reset j ∈ items → j ∈ shut') → shut ⊆ shut' →
      Admissible window connection shut' held' [item]) :
    Admissible window connection shut held (items ++ [item]) := by
  induction items generalizing shut held with
  | nil =>
    refine hlast shut held ?_ (by simp) subset_rfl
    intro j
    by_cases hj : j ∈ shut
    · simp [hshut j hj]
    · simpa using hbound j hj (by simp)
  | cons head rest ih =>
    cases head with
    | data i bytes =>
      obtain ⟨hpositive, hretired, hlive⟩ := h
      have hrest : ∀ shut' held', held' ≤ bound → (∀ j, .reset j ∈ rest → j ∈ shut') →
          shut ⊆ shut' → Admissible window connection shut' held' [item] := by
        intro shut' held' hheld' hresets hsub
        exact hlast shut' held' hheld' (by simpa using hresets) hsub
      refine ⟨hpositive, ?_, ?_⟩
      · intro hi
        refine ih (hretired hi) ?_ hshut hrest
        intro j hj hreset
        have hj' := hbound j hj (by simpa using hreset)
        simp only [pending_cons, Finsupp.add_apply] at hj'
        omega
      · intro hi
        obtain ⟨hstream, hconnection, hadmitted⟩ := hlive hi
        refine ⟨hstream, hconnection, ih hadmitted ?_ ?_ hrest⟩
        · intro j hj hreset
          have hj' := hbound j hj (by simpa using hreset)
          simp only [pending_cons, Finsupp.add_apply, Item.pending] at hj' ⊢
          omega
        · intro j hj
          have hne : i ≠ j := fun heq => hi (heq ▸ hj)
          simp [hshut j hj, hne]
    | credit i bytes =>
      refine ih h ?_ hshut ?_
      · intro j hj hreset
        simpa [Item.pending] using hbound j hj (by simpa using hreset)
      · intro shut' held' hheld' hresets hsub
        exact hlast shut' held' hheld' (by simpa using hresets) hsub
    | reset i =>
      refine ih h ?_ ?_ ?_
      · intro j hj hreset
        have hne : j ≠ i := fun heq => hj (heq ▸ Set.mem_insert i shut)
        have hj' := hbound j (fun hmem => hj (Set.mem_insert_of_mem i hmem))
          (by simp [hne, hreset])
        simpa [erase_ne hne, Item.pending] using hj'
      · intro j hj
        rcases hj with rfl | hj
        · simp
        · by_cases hne : j = i
          · simp [hne]
          · simpa [erase_ne hne] using hshut j hj
      · intro shut' held' hheld' hresets hsub
        refine hlast shut' held' hheld' ?_ (fun j hj => hsub (Set.mem_insert_of_mem i hj))
        intro j hj
        rcases List.mem_cons.mp hj with hhead | hmem
        · cases hhead
          exact hsub (Set.mem_insert i shut)
        · exact hresets j hmem

/-- What the sender has outstanding covers all that its receiver has to make room for. -/
structure Covers (window connection : ℕ) (sender receiver : Port ι) : Prop where
  streamRoom : ∀ i, sender.outstanding i ≤ window
  connectionRoom : sender.outstanding.degree ≤ connection
  pledged : ∀ i ∉ receiver.shut, .reset i ∉ sender.outbox →
    receiver.held i + pending sender.outbox i + sender.granted i + credits receiver.outbox i ≤
      sender.outstanding i + receiver.owed i
  owed_le : ∀ i, receiver.owed i ≤ receiver.held i
  shut_held : ∀ i ∈ receiver.shut, receiver.held i = 0
  stopped : ∀ i, .reset i ∈ receiver.outbox → i ∈ receiver.shut
  admissible : Admissible window connection receiver.shut receiver.counted sender.outbox

/-- The moves that a port makes by itself. -/
inductive Act (window connection : ℕ) (p : Port ι) : Port ι → Prop
  | grant (bytes : ι →₀ ℕ) (hstream : ∀ i, (p.outstanding + bytes) i ≤ window)
    (hconnection : (p.outstanding + bytes).degree ≤ connection) : Act window connection p
      { p with outstanding := p.outstanding + bytes, granted := p.granted + bytes }
  | send (i : ι) (bytes : ℕ) (rest : ι →₀ ℕ) (hpositive : 0 < bytes)
    (hgranted : p.granted = single i bytes + rest) : Act window connection p
      { p with granted := rest, outbox := p.outbox ++ [.data i bytes] }
  | reset (i : ι) : Act window connection p
      { p with
        outstanding := p.outstanding.erase i
        shut := insert i p.shut
        held := p.held.erase i
        owed := p.owed.erase i
        outbox := p.outbox ++ [.reset i] }
  | finish (i : ι) (hsettled : p.outstanding i = 0) : Act window connection p
      { p with
        shut := insert i p.shut
        held := p.held.erase i
        owed := p.owed.erase i }
  | widen (shut : Set ι) (hshut : p.shut ⊆ shut) (hheld : ∀ i ∈ shut, p.held i = 0) :
    Act window connection p { p with shut }
  | release (i : ι) (bytes : ℕ) (hheld : p.owed i + bytes ≤ p.held i) : Act window connection p
      { p with held := p.held - single i bytes, outbox := p.outbox ++ [.credit i bytes] }
  | announce (i : ι) (bytes : ℕ) (hheld : p.owed i + bytes ≤ p.held i) : Act window connection p
      { p with owed := p.owed + single i bytes, outbox := p.outbox ++ [.credit i bytes] }
  | announceShut (i : ι) (bytes : ℕ) (hshut : i ∈ p.shut) : Act window connection p
      { p with outbox := p.outbox ++ [.credit i bytes] }
  | repay (i : ι) (bytes : ℕ) (howed : bytes ≤ p.owed i) : Act window connection p
      { p with owed := p.owed - single i bytes, held := p.held - single i bytes }

/-- The moves of a port that handles an item. -/
inductive Receive (p : Port ι) : Item ι → Port ι → Prop
  | data (i : ι) (bytes : ℕ) (hlive : i ∉ p.shut) :
    Receive p (.data i bytes) { p with held := p.held + single i bytes }
  | credit (i : ι) (bytes : ℕ) (hbytes : bytes ≤ p.outstanding i) :
    Receive p (.credit i bytes) { p with outstanding := p.outstanding - single i bytes }
  | reset (i : ι) : Receive p (.reset i)
      { p with
        outstanding := p.outstanding.erase i
        shut := insert i p.shut
        held := p.held.erase i
        owed := p.owed.erase i }
  | retired (item : Item ι) (hshut : item.id ∈ p.shut) : Receive p item p

theorem erase_le (f : ι →₀ ℕ) (i : ι) : f.erase i ≤ f := by
  intro j
  by_cases hj : j = i
  · simp [hj]
  · simp [erase_ne hj]

variable {sender sender' receiver receiver' : Port ι}

/-- The receiver shuts more streams and counts less. -/
theorem Covers.shrink (h : Covers window connection sender receiver)
    (hshut : receiver.shut ⊆ receiver'.shut)
    (hpledged : ∀ i ∉ receiver'.shut, .reset i ∉ sender.outbox →
      receiver'.held i + credits receiver'.outbox i + receiver.owed i ≤
        receiver.held i + credits receiver.outbox i + receiver'.owed i)
    (howed : ∀ i, receiver'.owed i ≤ receiver'.held i)
    (hheld : ∀ i ∈ receiver'.shut, receiver'.held i = 0)
    (hstopped : ∀ i, .reset i ∈ receiver'.outbox → i ∈ receiver'.shut)
    (hcounted : receiver'.counted ≤ receiver.counted) :
    Covers window connection sender receiver' where
  streamRoom := h.streamRoom
  connectionRoom := h.connectionRoom
  pledged := by
    intro i hi hreset
    have hold := h.pledged i (fun hmem => hi (hshut hmem)) hreset
    have hnew := hpledged i hi hreset
    omega
  owed_le := howed
  shut_held := hheld
  stopped := hstopped
  admissible := h.admissible.mono hshut hcounted

theorem counted_apply (p : Port ι) (i : ι) :
    p.counted i = p.held i - (p.owed i - credits p.outbox i) := by
  simp [Port.counted]

/-- A shut stream is not counted any more. -/
theorem Covers.shutStream (h : Covers window connection sender receiver) (i : ι)
    {outstanding granted : ι →₀ ℕ} {items : List (Item ι)}
    (hcredits : credits items = credits receiver.outbox)
    (hstopped : ∀ j, .reset j ∈ items → j = i ∨ .reset j ∈ receiver.outbox) :
    Covers window connection sender
      { outstanding, granted
        shut := insert i receiver.shut
        held := receiver.held.erase i
        owed := receiver.owed.erase i
        outbox := items } := by
  apply h.shrink (Set.subset_insert i receiver.shut)
  · intro j hj _
    have hne : j ≠ i := fun heq => hj (heq ▸ Set.mem_insert i receiver.shut)
    simp [hcredits, erase_ne hne]
  · intro j
    by_cases hj : j = i
    · simp [hj]
    · simpa [erase_ne hj] using h.owed_le j
  · intro j hj
    by_cases hne : j = i
    · simp [hne]
    · rcases hj with heq | hj
      · exact absurd heq hne
      · simpa [erase_ne hne] using h.shut_held j hj
  · intro j hj
    rcases hstopped j hj with heq | hmem
    · exact Or.inl heq
    · exact Or.inr (h.stopped j hmem)
  · intro j
    rw [counted_apply, counted_apply]
    by_cases hj : j = i
    · simp [hj]
    · simp [erase_ne hj, hcredits]

/-- Neither the receiver's windows nor the credit on its way change. -/
theorem Covers.sameReceiver (h : Covers window connection sender receiver)
    {outstanding granted : ι →₀ ℕ} {items : List (Item ι)}
    (hcredits : credits items = credits receiver.outbox)
    (hstopped : ∀ j, .reset j ∈ items → .reset j ∈ receiver.outbox) :
    Covers window connection sender
      { receiver with outstanding := outstanding, granted := granted, outbox := items } := by
  apply h.shrink
  · exact subset_rfl
  · intro j _ _
    simp [hcredits]
  · exact h.owed_le
  · exact h.shut_held
  · exact fun j hj => h.stopped j (hstopped j hj)
  · intro j
    rw [counted_apply, counted_apply]
    simp [hcredits]

theorem credits_snoc_apply (items : List (Item ι)) (i j : ι) (bytes : ℕ) :
    credits (items ++ [.credit i bytes]) j = credits items j + single i bytes j := by
  simp [Item.credited]

theorem reset_mem_snoc_credit {items : List (Item ι)} {i j : ι} {bytes : ℕ}
    (h : Item.reset j ∈ items ++ [.credit i bytes]) : .reset j ∈ items := by
  simpa using h

/-- A port that moves keeps its own windows covered by the peer's. -/
theorem Covers.act_receiver (h : Covers window connection sender receiver)
    (hact : Act window connection receiver receiver') :
    Covers window connection sender receiver' := by
  cases hact with
  | grant bytes hstream hconnection => exact h.sameReceiver rfl fun _ hj => hj
  | send i bytes rest hpositive hgranted =>
    apply h.sameReceiver
    · simp [Item.credited]
    · intro j hj
      simpa using hj
  | reset i =>
    apply h.shutStream i
    · simp [Item.credited]
    · intro j hj
      simpa [or_comm] using hj
  | finish i hsettled => exact h.shutStream i rfl fun _ hj => Or.inr hj
  | widen shut hshut hheld =>
    apply h.shrink hshut
    · intro j _ _
      exact le_rfl
    · exact h.owed_le
    · exact hheld
    · exact fun j hj => hshut (h.stopped j hj)
    · exact le_rfl
  | release i bytes hheld =>
    have hfree : single i bytes ≤ receiver.held - receiver.owed :=
      single_le_iff.mpr (Nat.le_sub_of_add_le' hheld)
    apply h.shrink
    · exact subset_rfl
    · intro j hj _
      have hj' : single i bytes j ≤ receiver.held j - receiver.owed j := hfree j
      have howed := h.owed_le j
      simp only [credits_snoc_apply, tsub_apply]
      omega
    · intro j
      have hj' : single i bytes j ≤ receiver.held j - receiver.owed j := hfree j
      have howed := h.owed_le j
      simp only [tsub_apply]
      omega
    · intro j hj
      simp [h.shut_held j hj]
    · exact fun j hj => h.stopped j (reset_mem_snoc_credit hj)
    · intro j
      rw [counted_apply, counted_apply]
      simp only [credits_snoc_apply, tsub_apply]
      omega
  | announce i bytes hheld =>
    have hfree : single i bytes ≤ receiver.held - receiver.owed :=
      single_le_iff.mpr (Nat.le_sub_of_add_le' hheld)
    apply h.shrink
    · exact subset_rfl
    · intro j hj _
      simp only [credits_snoc_apply, Finsupp.add_apply]
      omega
    · intro j
      have hj' : single i bytes j ≤ receiver.held j - receiver.owed j := hfree j
      have howed := h.owed_le j
      simp only [Finsupp.add_apply]
      omega
    · exact h.shut_held
    · exact fun j hj => h.stopped j (reset_mem_snoc_credit hj)
    · intro j
      rw [counted_apply, counted_apply]
      simp only [credits_snoc_apply, Finsupp.add_apply]
      omega
  | announceShut i bytes hshut =>
    apply h.shrink
    · exact subset_rfl
    · intro j hj _
      have hne : i ≠ j := fun heq => hj (heq ▸ hshut)
      have hnone : single i bytes j = 0 := by simp [hne]
      simp only [credits_snoc_apply]
      omega
    · exact h.owed_le
    · exact h.shut_held
    · exact fun j hj => h.stopped j (reset_mem_snoc_credit hj)
    · intro j
      rw [counted_apply, counted_apply]
      simp only [credits_snoc_apply]
      by_cases hj : i = j
      · subst hj
        rw [h.shut_held i hshut]
        omega
      · simp [hj]
  | repay i bytes howed =>
    have hbytes : single i bytes ≤ receiver.owed := single_le_iff.mpr howed
    apply h.shrink
    · exact subset_rfl
    · intro j hj _
      have hj' := hbytes j
      have howed := h.owed_le j
      simp only [tsub_apply]
      omega
    · intro j
      have howed := h.owed_le j
      simp only [tsub_apply]
      omega
    · intro j hj
      simp [h.shut_held j hj]
    · exact h.stopped
    · intro j
      have hj' := hbytes j
      rw [counted_apply, counted_apply]
      simp only [tsub_apply]
      omega

/-- The sender's outbox grows by an item that finds room behind all others. -/
theorem Covers.admissible_snoc (h : Covers window connection sender receiver) {item : Item ι}
    (bound : ι →₀ ℕ)
    (hbound : ∀ j ∉ receiver.shut, .reset j ∉ sender.outbox →
      receiver.held j + pending sender.outbox j + credits receiver.outbox j ≤
        bound j + receiver.owed j)
    (hlast : ∀ shut' held', held' ≤ bound → (∀ j, .reset j ∈ sender.outbox → j ∈ shut') →
      receiver.shut ⊆ shut' → Admissible window connection shut' held' [item]) :
    Admissible window connection receiver.shut receiver.counted (sender.outbox ++ [item]) := by
  apply h.admissible.snoc bound
  · intro j hj hreset
    have hj' := hbound j hj hreset
    have howed := h.owed_le j
    rw [counted_apply]
    omega
  · intro j hj
    rw [counted_apply, h.shut_held j hj, Nat.zero_sub]
  · exact hlast

/-- Credit and resets need no room. -/
theorem Covers.admissible_other (h : Covers window connection sender receiver) {item : Item ι}
    (hitem : ∀ shut held, Admissible window connection shut held [item]) :
    Admissible window connection receiver.shut receiver.counted (sender.outbox ++ [item]) := by
  apply h.admissible_snoc sender.outstanding
  · intro j hj hreset
    have hold := h.pledged j hj hreset
    omega
  · exact fun shut' held' _ _ _ => hitem shut' held'

/-- Granted data finds room behind all that was sent before. -/
theorem Covers.admissible_data (h : Covers window connection sender receiver) {i : ι} {bytes : ℕ}
    {rest : ι →₀ ℕ} (hpositive : 0 < bytes) (hgranted : sender.granted = single i bytes + rest) :
    Admissible window connection receiver.shut receiver.counted
      (sender.outbox ++ [.data i bytes]) := by
  by_cases hlive : i ∉ receiver.shut ∧ .reset i ∉ sender.outbox
  · have hbytes : bytes ≤ sender.outstanding i := by
      have hold := h.pledged i hlive.1 hlive.2
      have howed := h.owed_le i
      rw [hgranted, Finsupp.add_apply, single_eq_same] at hold
      omega
    have hsplit : sender.outstanding - single i bytes + single i bytes = sender.outstanding :=
      tsub_add_cancel_of_le (single_le_iff.mpr hbytes)
    apply h.admissible_snoc (sender.outstanding - single i bytes)
    · intro j hj hreset
      have hold := h.pledged j hj hreset
      have hj' : single i bytes j ≤ sender.outstanding j := single_le_iff.mpr hbytes j
      rw [hgranted, Finsupp.add_apply] at hold
      rw [tsub_apply]
      omega
    · intro shut' held' hheld' _ _
      refine ⟨hpositive, fun _ => trivial, fun _ => ⟨?_, ?_, trivial⟩⟩
      · have hstream := h.streamRoom i
        have hi : held' i ≤ sender.outstanding i - bytes := by simpa using hheld' i
        omega
      · have hdegree : held'.degree ≤ (sender.outstanding - single i bytes).degree :=
          degree_mono hheld'
        have htotal := congrArg degree hsplit
        have hconnection := h.connectionRoom
        rw [map_add, degree_single] at htotal
        omega
  · apply h.admissible_snoc sender.outstanding
    · intro j hj hreset
      have hold := h.pledged j hj hreset
      omega
    · intro shut' held' _ hresets hsub
      refine ⟨hpositive, fun _ => trivial, fun hi => ?_⟩
      exact absurd ⟨fun hmem => hi (hsub hmem), fun hmem => hi (hresets i hmem)⟩ hlive

/-- Credit for the other direction joins the outbox. -/
theorem Covers.creditSent (h : Covers window connection sender receiver) (i : ι) (bytes : ℕ)
    {shut : Set ι} {held owed : ι →₀ ℕ} :
    Covers window connection
      { sender with
        shut := shut
        held := held
        owed := owed
        outbox := sender.outbox ++ [.credit i bytes] } receiver := by
  refine { h with pledged := ?_, admissible := ?_ }
  · intro j hj hreset
    simpa [Item.pending] using h.pledged j hj (by simpa using hreset)
  · exact h.admissible_other fun _ _ => trivial

/-- A port that moves covers what the peer holds. -/
theorem Covers.act_sender (h : Covers window connection sender receiver)
    (hact : Act window connection sender sender') :
    Covers window connection sender' receiver := by
  cases hact with
  | grant bytes hstream hconnection =>
    refine { h with streamRoom := hstream, connectionRoom := hconnection, pledged := ?_ }
    intro j hj hreset
    have hold := h.pledged j hj hreset
    simp only [Finsupp.add_apply]
    omega
  | send i bytes rest hpositive hgranted =>
    refine { h with pledged := ?_, admissible := ?_ }
    · intro j hj hreset
      have hold := h.pledged j hj (by simpa using hreset)
      simp only [pending_append, pending_cons, pending_nil, Item.pending, add_zero,
        Finsupp.add_apply]
      rw [hgranted, Finsupp.add_apply] at hold
      omega
    · exact h.admissible_data hpositive hgranted
  | reset i =>
    refine { h with streamRoom := ?_, connectionRoom := ?_, pledged := ?_, admissible := ?_ }
    · exact fun j => (erase_le sender.outstanding i j).trans (h.streamRoom j)
    · exact (degree_mono (erase_le sender.outstanding i)).trans h.connectionRoom
    · intro j hj hreset
      have hne : j ≠ i := fun heq => hreset (by simp [heq])
      have hold := h.pledged j hj fun hmem => hreset (List.mem_append_left _ hmem)
      simpa [erase_ne hne, Item.pending] using hold
    · exact h.admissible_other fun _ _ => trivial
  | finish i hsettled => exact { h with }
  | widen shut hshut hheld => exact { h with }
  | release i bytes hheld => exact h.creditSent i bytes
  | announce i bytes hheld => exact h.creditSent i bytes
  | announceShut i bytes hshut => exact h.creditSent i bytes
  | repay i bytes howed => exact { h with }

theorem Covers.acts_receiver (h : Covers window connection sender receiver)
    (hacts : Relation.ReflTransGen (Act window connection) receiver receiver') :
    Covers window connection sender receiver' := by
  induction hacts with
  | refl => exact h
  | tail _ hact ih => exact ih.act_receiver hact

theorem Covers.acts_sender (h : Covers window connection sender receiver)
    (hacts : Relation.ReflTransGen (Act window connection) sender sender') :
    Covers window connection sender' receiver := by
  induction hacts with
  | refl => exact h
  | tail _ hact ih => exact ih.act_sender hact

/-- The sender's first item reaches the receiver. -/
theorem Covers.receive_receiver (h : Covers window connection sender receiver) {item : Item ι}
    {rest : List (Item ι)} (houtbox : sender.outbox = item :: rest)
    (hreceive : Receive receiver item receiver') :
    Covers window connection { sender with outbox := rest } receiver' := by
  have hadmissible := h.admissible
  have hpledged := h.pledged
  rw [houtbox] at hadmissible hpledged
  cases hreceive with
  | data i bytes hlive =>
    refine { h with pledged := ?_, owed_le := ?_, shut_held := ?_, admissible := ?_ }
    · intro j hj hreset
      have hold := hpledged j hj (by simpa using hreset)
      simp only [pending_cons, Item.pending, Finsupp.add_apply] at hold ⊢
      omega
    · intro j
      have howed := h.owed_le j
      simp only [Finsupp.add_apply]
      omega
    · intro j hj
      have hne : i ≠ j := fun heq => hlive (heq ▸ hj)
      simp [h.shut_held j hj, hne]
    · refine (hadmissible.2.2 hlive).2.2.mono subset_rfl ?_
      intro j
      have howed := h.owed_le j
      show (receiver.held + single i bytes - (receiver.owed - credits receiver.outbox)) j ≤
        (receiver.counted + single i bytes) j
      rw [Finsupp.add_apply, counted_apply]
      simp only [tsub_apply, Finsupp.add_apply]
      omega
  | credit i bytes hbytes =>
    have hcovers : Covers window connection { sender with outbox := rest } receiver := by
      refine { h with pledged := ?_, admissible := hadmissible }
      intro j hj hreset
      simpa [Item.pending] using hpledged j hj (by simpa using hreset)
    exact hcovers.sameReceiver rfl fun _ hj => hj
  | reset i =>
    refine ⟨h.streamRoom, h.connectionRoom, ?_, ?_, ?_, ?_, ?_⟩
    · intro j hj hreset
      have hne : j ≠ i := fun heq => hj (heq ▸ Set.mem_insert i receiver.shut)
      have hold := hpledged j (fun hmem => hj (Set.mem_insert_of_mem i hmem))
        (by simp [hne, show Item.reset j ∉ rest from hreset])
      simpa [erase_ne hne, Item.pending] using hold
    · exact (h.shutStream i rfl fun _ hj => Or.inr hj).owed_le
    · exact (h.shutStream i rfl fun _ hj => Or.inr hj).shut_held
    · exact fun j hj => Set.mem_insert_of_mem i (h.stopped j hj)
    · refine Admissible.mono hadmissible subset_rfl ?_
      intro j
      rw [counted_apply]
      by_cases hj : j = i
      · simp [hj]
      · simp [erase_ne hj, counted_apply]
  | retired _ hshut =>
    have hother : ∀ j ∉ receiver.shut, item.pending j = 0 ∧ Item.reset j ≠ item := by
      intro j hj
      have hne : item.id ≠ j := fun heq => hj (heq ▸ hshut)
      cases item with
      | data i bytes => exact ⟨single_eq_of_ne' hne, by simp⟩
      | credit i bytes => exact ⟨rfl, by simp⟩
      | reset i => exact ⟨rfl, fun heq => hne (by cases heq; rfl)⟩
    refine { h with pledged := ?_, admissible := ?_ }
    · intro j hj hreset
      obtain ⟨hnone, hne⟩ := hother j hj
      have hold := hpledged j hj (by simp [hne, show Item.reset j ∉ rest from hreset])
      simpa [hnone] using hold
    · cases item with
      | data i bytes => exact hadmissible.2.1 hshut
      | credit i bytes => exact hadmissible
      | reset i =>
        refine Admissible.mono hadmissible (Set.insert_subset hshut subset_rfl) ?_
        intro j
        by_cases hj : j = i
        · subst hj
          rw [counted_apply, h.shut_held j hshut, Nat.zero_sub]
          exact Nat.zero_le _
        · rw [erase_ne hj]

/-- Credit that is lost on its way does no harm. -/
theorem Covers.pop (h : Covers window connection sender receiver) {item : Item ι}
    {rest : List (Item ι)} (houtbox : receiver.outbox = item :: rest) :
    Covers window connection sender { receiver with outbox := rest } := by
  have hcredits : ∀ j, credits rest j ≤ credits receiver.outbox j := by
    intro j
    rw [houtbox, credits_cons, Finsupp.add_apply]
    omega
  apply h.shrink
  · exact subset_rfl
  · intro j _ _
    have hj := hcredits j
    show receiver.held j + credits rest j + receiver.owed j ≤
      receiver.held j + credits receiver.outbox j + receiver.owed j
    omega
  · exact h.owed_le
  · exact h.shut_held
  · intro j hj
    exact h.stopped j (by rw [houtbox]; exact List.mem_cons_of_mem item hj)
  · intro j
    have hj := hcredits j
    rw [counted_apply, counted_apply]
    show receiver.held j - (receiver.owed j - credits rest j) ≤ _
    omega

/-- The receiver's first item reaches the sender. -/
theorem Covers.receive_sender (h : Covers window connection sender receiver) {item : Item ι}
    {rest : List (Item ι)} (houtbox : receiver.outbox = item :: rest)
    (hreceive : Receive sender item sender') :
    Covers window connection sender' { receiver with outbox := rest } := by
  have hpop := h.pop houtbox
  cases hreceive with
  | data i bytes hlive => exact { hpop with }
  | credit i bytes hbytes =>
    have hsub : sender.outstanding - single i bytes ≤ sender.outstanding := tsub_le_self
    refine { hpop with streamRoom := ?_, connectionRoom := ?_, pledged := ?_ }
    · exact fun j => (hsub j).trans (h.streamRoom j)
    · exact (degree_mono hsub).trans h.connectionRoom
    · intro j hj hreset
      have hold := h.pledged j hj hreset
      have hj' : single i bytes j ≤ sender.outstanding j := single_le_iff.mpr hbytes j
      rw [houtbox, credits_cons, Finsupp.add_apply, Item.credited] at hold
      rw [tsub_apply]
      show receiver.held j + pending sender.outbox j + sender.granted j + credits rest j ≤
        sender.outstanding j - single i bytes j + receiver.owed j
      omega
  | reset i =>
    have hstopped : i ∈ receiver.shut := h.stopped i (by simp [houtbox])
    refine { hpop with streamRoom := ?_, connectionRoom := ?_, pledged := ?_ }
    · exact fun j => (erase_le sender.outstanding i j).trans (h.streamRoom j)
    · exact (degree_mono (erase_le sender.outstanding i)).trans h.connectionRoom
    · intro j hj hreset
      have hne : j ≠ i := fun heq => hj (heq ▸ hstopped)
      rw [erase_ne hne]
      exact hpop.pledged j hj hreset
  | retired _ _ => exact hpop

/-- Data that is about to arrive on a live stream fits both windows, when all credit that the
sender has seen was given back. -/
theorem Covers.accepts (h : Covers window connection sender receiver) {i : ι} {bytes : ℕ}
    {rest : List (Item ι)} (houtbox : sender.outbox = .data i bytes :: rest)
    (hlive : i ∉ receiver.shut) (hrepaid : ∀ j, receiver.owed j ≤ credits receiver.outbox j) :
    0 < bytes ∧ receiver.held i + bytes ≤ window ∧
      receiver.held.degree + bytes ≤ connection := by
  have hadmissible := h.admissible
  have hcounted : receiver.counted = receiver.held := by
    ext j
    have hj := hrepaid j
    rw [counted_apply]
    omega
  rw [houtbox, hcounted] at hadmissible
  obtain ⟨hpositive, -, hroom⟩ := hadmissible
  exact ⟨hpositive, (hroom hlive).1, (hroom hlive).2.1⟩

theorem sum_le_degree (f : ι →₀ ℕ) (live : Finset ι) : ∑ i ∈ live, f i ≤ f.degree := by
  classical
  have hsubset : ∑ i ∈ live, f i = ∑ i ∈ live.filter (· ∈ f.support), f i := by
    rw [Finset.sum_filter]
    refine Finset.sum_congr rfl fun i _ => ?_
    split_ifs with hi
    · rfl
    · simpa using hi
  rw [hsubset, degree_apply]
  refine Finset.sum_le_sum_of_subset fun i hi => ?_
  exact (Finset.mem_filter.mp hi).2

/-- With nothing owed and no reset on its way, the credit that the sender has left, the data and
the credit on their way are within what the receiver has left. -/
theorem Covers.agreement (h : Covers window connection sender receiver) (live : Finset ι)
    (hlive : ∀ i ∈ live, i ∉ receiver.shut) (hheld : receiver.held.support ⊆ live)
    (howed : receiver.owed = 0) (hresets : ∀ i, .reset i ∉ sender.outbox) :
    receiver.held.degree + ∑ i ∈ live, (pending sender.outbox i + credits receiver.outbox i) ≤
      sender.outstanding.degree := by
  have hsum : receiver.held.degree = ∑ i ∈ live, receiver.held i := by
    rw [degree_apply]
    refine Finset.sum_subset hheld fun i _ hi => ?_
    simpa using hi
  rw [hsum, ← Finset.sum_add_distrib]
  refine le_trans (Finset.sum_le_sum fun i hi => ?_) (sum_le_degree sender.outstanding live)
  have hpledged := h.pledged i (hlive i hi) (hresets i)
  rw [howed, Finsupp.zero_apply] at hpledged
  omega

end CreditProtocol
