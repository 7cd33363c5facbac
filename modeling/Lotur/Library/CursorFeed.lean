import Mathlib.Data.List.Sort
import Mathlib.Tactic

/-! Reading a log of numbered items in batches behind a cursor. Items may leave the table they are
read from, up to a mark; a reader at or above the mark misses none. -/
namespace CursorFeed

variable {α : Type*} {id : α → ℕ} {items present : List α} {after upto next limit mark : ℕ}
  {taken batch : List α}

/-- Some of the items after one number and up to another, in order. -/
structure Excerpt (id : α → ℕ) (items : List α) (after upto : ℕ) (taken : List α) : Prop where
  increasing : taken.Pairwise fun earlier later => id earlier < id later
  known : ∀ item ∈ taken, item ∈ items
  lower : ∀ item ∈ taken, after < id item
  upper : ∀ item ∈ taken, id item ≤ upto

/-- All of these items. -/
def Complete (id : α → ℕ) (items : List α) (after upto : ℕ) (taken : List α) : Prop :=
  ∀ item ∈ items, after < id item → id item ≤ upto → item ∈ taken

theorem Excerpt.nil (after upto : ℕ) : Excerpt id items after upto [] :=
  ⟨List.Pairwise.nil, fun _ h => absurd h List.not_mem_nil, fun _ h => absurd h List.not_mem_nil,
    fun _ h => absurd h List.not_mem_nil⟩

theorem Complete.nil (after : ℕ) : Complete id items after after [] :=
  fun _ _ hlower hupper => absurd hlower (by omega)

theorem Excerpt.mono (h : Excerpt id items after upto taken) {items' : List α}
    (hitems : ∀ item ∈ items, item ∈ items') : Excerpt id items' after upto taken :=
  ⟨h.increasing, fun item hitem => hitems item (h.known item hitem), h.lower, h.upper⟩

/-- Later items beyond the last number are none of those asked for. -/
theorem Complete.grow (h : Complete id items after upto taken) {new : List α}
    (hnew : ∀ item ∈ new, after < id item → upto < id item) :
    Complete id (items ++ new) after upto taken := by
  intro item hitem hlower hupper
  rcases List.mem_append.1 hitem with hold | hitem
  · exact h item hold hlower hupper
  · exact absurd (hnew item hitem hlower) (by omega)

/-- The number a reader goes on from. -/
def lastId (id : α → ℕ) (taken : List α) (after : ℕ) : ℕ := (taken.getLast?.map id).getD after

theorem lastId_eq (id : α → ℕ) (taken : List α) (after : ℕ) :
    lastId id taken after = after ∨ ∃ item ∈ taken, id item = lastId id taken after := by
  unfold lastId
  cases hlast : taken.getLast? with
  | none => exact .inl rfl
  | some item => exact .inr ⟨item, List.mem_of_getLast? hlast, rfl⟩

theorem Excerpt.le_lastId (h : Excerpt id items after upto taken) :
    ∀ item ∈ taken, id item ≤ lastId id taken after := by
  intro item hitem
  unfold lastId
  rcases List.eq_nil_or_concat taken with rfl | ⟨init, last, rfl⟩
  · cases hitem
  · rw [List.concat_eq_append] at hitem h ⊢
    rw [List.getLast?_concat, Option.map_some, Option.getD_some]
    rcases List.mem_append.1 hitem with hinit | hlast
    · exact ((List.pairwise_append.1 h.increasing).2.2 item hinit last (List.mem_singleton_self _)).le
    · rw [List.mem_singleton.1 hlast]

theorem Excerpt.after_le_lastId (h : Excerpt id items after upto taken) :
    after ≤ lastId id taken after := by
  rcases lastId_eq id taken after with heq | ⟨item, hitem, heq⟩
  · rw [heq]
  · rw [← heq]
    exact (h.lower item hitem).le

/-- What a reader has taken, and the next batch. -/
theorem Excerpt.append (h : Excerpt id items after upto taken)
    (hbatch : Excerpt id items upto next batch) (hle : upto ≤ next) (hafter : after ≤ upto) :
    Excerpt id items after next (taken ++ batch) := by
  refine ⟨List.pairwise_append.2 ⟨h.increasing, hbatch.increasing, ?_⟩, ?_, ?_, ?_⟩
  · intro earlier hearlier later hlater
    have := h.upper earlier hearlier
    have := hbatch.lower later hlater
    omega
  · intro item hitem
    rcases List.mem_append.1 hitem with hitem | hitem
    · exact h.known item hitem
    · exact hbatch.known item hitem
  · intro item hitem
    rcases List.mem_append.1 hitem with hitem | hitem
    · exact h.lower item hitem
    · have := hbatch.lower item hitem
      omega
  · intro item hitem
    rcases List.mem_append.1 hitem with hitem | hitem
    · have := h.upper item hitem
      omega
    · exact hbatch.upper item hitem

theorem Complete.append (h : Complete id items after upto taken)
    (hbatch : Complete id items upto next batch) : Complete id items after next (taken ++ batch) := by
  intro item hitem hlower hupper
  by_cases hle : id item ≤ upto
  · exact List.mem_append_left _ (h item hitem hlower hle)
  · exact List.mem_append_right _ (hbatch item hitem (by omega) hupper)

/-- The beginning of a batch is one itself, up to its own last item. -/
theorem Excerpt.take (h : Excerpt id items after upto batch) (count : ℕ) :
    Excerpt id items after (lastId id (batch.take count) after) (batch.take count) := by
  have hbegin : Excerpt id items after upto (batch.take count) :=
    ⟨h.increasing.take, fun item hitem => h.known item (List.mem_of_mem_take hitem),
      fun item hitem => h.lower item (List.mem_of_mem_take hitem),
      fun item hitem => h.upper item (List.mem_of_mem_take hitem)⟩
  exact ⟨hbegin.increasing, hbegin.known, hbegin.lower, hbegin.le_lastId⟩

theorem Complete.take (hexcerpt : Excerpt id items after upto batch)
    (h : Complete id items after (lastId id batch after) batch) (count : ℕ) :
    Complete id items after (lastId id (batch.take count) after) (batch.take count) := by
  intro item hitem hlower hupper
  have hfirst := hexcerpt.take count
  rcases lastId_eq id (batch.take count) after with heq | ⟨last, hlast, heq⟩
  · omega
  · have hwhole : item ∈ batch := by
      refine h item hitem hlower ?_
      have := hexcerpt.le_lastId last (List.mem_of_mem_take hlast)
      omega
    rw [← List.take_append_drop count batch] at hwhole
    rcases List.mem_append.1 hwhole with htaken | hdropped
    · exact htaken
    · have hincreasing := hexcerpt.increasing
      rw [← List.take_append_drop count batch] at hincreasing
      have := (List.pairwise_append.1 hincreasing).2.2 last hlast item hdropped
      omega

section Query

/-- The items of the table after a cursor, in the order of their numbers. -/
def sortedAfter (id : α → ℕ) (present : List α) (after : ℕ) : List α :=
  (present.filter fun item => after < id item).insertionSort fun a b => id a ≤ id b

/-- The first of them. -/
def query (id : α → ℕ) (present : List α) (after limit : ℕ) : List α :=
  (sortedAfter id present after).take limit

theorem mem_sortedAfter {item : α} :
    item ∈ sortedAfter id present after ↔ item ∈ present ∧ after < id item := by
  unfold sortedAfter
  rw [List.mem_insertionSort]
  simp

theorem sortedAfter_increasing (hids : present.Pairwise fun a b => id a ≠ id b) (after : ℕ) :
    (sortedAfter id present after).Pairwise fun earlier later => id earlier < id later := by
  have htotal : Std.Total fun a b : α => id a ≤ id b := ⟨fun a b => Nat.le_total _ _⟩
  have htrans : IsTrans α fun a b : α => id a ≤ id b := ⟨fun a b c => Nat.le_trans⟩
  have hsorted := List.pairwise_insertionSort (fun a b : α => id a ≤ id b)
    (present.filter fun item => after < id item)
  have hdistinct : (sortedAfter id present after).Pairwise fun a b => id a ≠ id b :=
    List.Pairwise.perm (hids.filter _) (List.perm_insertionSort _ _).symm fun hne => Ne.symm hne
  exact hsorted.imp₂ (fun _ _ hle hne => Nat.lt_of_le_of_ne hle hne) hdistinct

theorem sortedAfter_excerpt (hids : present.Pairwise fun a b => id a ≠ id b)
    (hknown : ∀ item ∈ present, item ∈ items) :
    Excerpt id items after (lastId id (sortedAfter id present after) after)
      (sortedAfter id present after) := by
  have hexcerpt : ∀ upto, (∀ item ∈ sortedAfter id present after, id item ≤ upto) →
      Excerpt id items after upto (sortedAfter id present after) := fun upto hupper =>
    ⟨sortedAfter_increasing hids after, fun item hitem => hknown item (mem_sortedAfter.1 hitem).1,
      fun item hitem => (mem_sortedAfter.1 hitem).2, hupper⟩
  obtain ⟨bound, hbound⟩ : ∃ bound, ∀ item ∈ sortedAfter id present after, id item ≤ bound :=
    ⟨((sortedAfter id present after).map id).sum,
      fun item hitem => List.single_le_sum (by simp) _ (List.mem_map_of_mem hitem)⟩
  exact hexcerpt _ (hexcerpt bound hbound).le_lastId

/-- A query is an excerpt of what was ever in the table. -/
theorem query_excerpt (hids : present.Pairwise fun a b => id a ≠ id b)
    (hknown : ∀ item ∈ present, item ∈ items) :
    Excerpt id items after (lastId id (query id present after limit) after)
      (query id present after limit) :=
  (sortedAfter_excerpt hids hknown).take limit

/-- It misses nothing of that when all that has left the table is at or below the cursor. -/
theorem query_complete (hids : present.Pairwise fun a b => id a ≠ id b)
    (hknown : ∀ item ∈ present, item ∈ items)
    (hkept : ∀ item ∈ items, item ∈ present ∨ id item ≤ mark) (hmark : mark ≤ after) :
    Complete id items after (lastId id (query id present after limit) after)
      (query id present after limit) := by
  refine Complete.take (sortedAfter_excerpt hids hknown) ?_ limit
  intro item hitem hlower _
  rcases hkept item hitem with hpresent | hle
  · exact mem_sortedAfter.2 ⟨hpresent, hlower⟩
  · omega

end Query

end CursorFeed
