import Mathlib.Data.List.AList
import Mathlib.Tactic

/-! Sums over the values of a finite map, and how they move with `insert` and `erase`; maps that
show another one value by value. -/
namespace AList

variable {κ α M : Type*} [AddCommGroup M] (amount : α → M)

/-- The sum of an amount over all values of the map. -/
def total (m : AList fun _ : κ => α) : M := (m.entries.map fun entry => amount entry.2).sum

@[simp] theorem total_empty : total amount (∅ : AList fun _ : κ => α) = 0 := rfl

variable [DecidableEq κ]

theorem total_erase {m : AList fun _ : κ => α} {key : κ} {value : α}
    (h : m.lookup key = some value) : total amount (m.erase key) + amount value = total amount m := by
  have hmem : key ∈ m.entries.keys := lookup_isSome.1 (Option.isSome_iff_exists.2 ⟨value, h⟩)
  obtain ⟨found, first, last, -, hsplit, herased⟩ := List.exists_of_kerase hmem
  have hfound : found = value := by
    have hentry : (⟨key, found⟩ : Sigma fun _ : κ => α) ∈ m.entries := by
      rw [hsplit]
      simp
    have hlookup : m.lookup key = some found := mem_lookup_iff.2 hentry
    exact Option.some.inj (hlookup.symm.trans h)
  have hleft : total amount (m.erase key) =
      ((first ++ last).map fun entry => amount entry.2).sum := by
    rw [← herased]
    rfl
  rw [hleft, total, hsplit, hfound]
  simp only [List.map_append, List.map_cons, List.sum_append, List.sum_cons]
  abel

theorem total_insert (m : AList fun _ : κ => α) (key : κ) (value : α) :
    total amount (m.insert key value) = amount value + total amount (m.erase key) := by
  have hentries : (m.insert key value).entries = ⟨key, value⟩ :: (m.erase key).entries := rfl
  rw [total, hentries, List.map_cons, List.sum_cons]
  rfl

/-- A value that is replaced takes its amount along. -/
theorem total_replace {m : AList fun _ : κ => α} {key : κ} {old : α} (h : m.lookup key = some old)
    (new : α) : total amount (m.insert key new) = total amount m + (amount new - amount old) := by
  rw [total_insert, ← total_erase amount h]
  abel

theorem total_new {m : AList fun _ : κ => α} {key : κ} (h : key ∉ m) (value : α) :
    total amount (m.insert key value) = total amount m + amount value := by
  have herased : (m.erase key).entries = m.entries := List.kerase_of_notMem_keys h
  rw [total_insert, total, herased, add_comm]
  rfl

theorem total_nonneg [PartialOrder M] [IsOrderedAddMonoid M] {m : AList fun _ : κ => α}
    (h : ∀ key value, m.lookup key = some value → 0 ≤ amount value) : 0 ≤ total amount m := by
  refine List.sum_nonneg fun x hx => ?_
  obtain ⟨entry, hentry, rfl⟩ := List.mem_map.1 hx
  exact h entry.1 entry.2 (mem_lookup_iff.2 hentry)

/-- No value has more than the whole sum. -/
theorem le_total [PartialOrder M] [IsOrderedAddMonoid M] {m : AList fun _ : κ => α} {key : κ}
    {value : α} (h : ∀ key value, m.lookup key = some value → 0 ≤ amount value)
    (hlookup : m.lookup key = some value) : amount value ≤ total amount m := by
  have hrest : 0 ≤ total amount (m.erase key) := by
    refine total_nonneg amount fun other value hother => ?_
    by_cases hsame : other = key
    · subst hsame
      simp at hother
    · exact h other value (by rwa [lookup_erase_ne hsame] at hother)
  rw [← total_erase amount hlookup]
  exact le_add_of_nonneg_left hrest

section Shown

variable {β : Type*} {f : α → β} {m : AList fun _ : κ => α} {m' : AList fun _ : κ => β}

theorem shown_insert (h : ∀ key, m'.lookup key = (m.lookup key).map f) (key : κ) (value : α)
    (other : κ) :
    (m'.insert key (f value)).lookup other = ((m.insert key value).lookup other).map f := by
  rcases eq_or_ne other key with rfl | hother
  · rw [lookup_insert, lookup_insert, Option.map_some]
  · rw [lookup_insert_ne hother, lookup_insert_ne hother, h]

theorem shown_erase (h : ∀ key, m'.lookup key = (m.lookup key).map f) (key other : κ) :
    (m'.erase key).lookup other = ((m.erase key).lookup other).map f := by
  rcases eq_or_ne other key with rfl | hother
  · rw [lookup_erase, lookup_erase, Option.map_none]
  · rw [lookup_erase_ne hother, lookup_erase_ne hother, h]

theorem shown_mem (h : ∀ key, m'.lookup key = (m.lookup key).map f) (key : κ) :
    key ∈ m' ↔ key ∈ m := by
  rw [← lookup_isSome, ← lookup_isSome, h, Option.isSome_map]

end Shown

end AList
