import Mathlib.Data.List.Lookmap
import Mathlib.Tactic

/-! A map kept as the list of its entries in insertion order: what `lookup` says after the usual
ways to take an entry out or to put one in. -/
namespace List

variable {κ α : Type*}

section Lookup
variable [BEq κ] [LawfulBEq κ]

theorem lookup_cons_own (key : κ) (value : α) (entries : List (κ × α)) :
    ((key, value) :: entries).lookup key = some value := by
  rw [lookup_cons, beq_self_eq_true]

theorem lookup_cons_other {key other : κ} (h : other ≠ key) (value : α) (entries : List (κ × α)) :
    ((key, value) :: entries).lookup other = entries.lookup other := by
  rw [lookup_cons, beq_false_of_ne h]

theorem lookup_none_iff {key : κ} {entries : List (κ × α)} :
    entries.lookup key = none ↔ ∀ entry ∈ entries, entry.1 ≠ key := by
  rw [lookup_eq_none_iff]
  refine forall₂_congr fun entry _ => ?_
  rw [bne_iff_ne]
  exact ne_comm

theorem lookup_filter_key (keeps : κ → Bool) (key : κ) (entries : List (κ × α)) :
    (entries.filter fun entry => keeps entry.1).lookup key =
      if keeps key = true then entries.lookup key else none := by
  induction entries with
  | nil => split_ifs <;> rfl
  | cons entry entries ih =>
    obtain ⟨found, value⟩ := entry
    by_cases hfound : keeps found = true
    · rw [filter_cons_of_pos (by simpa using hfound)]
      rcases eq_or_ne key found with rfl | hother
      · rw [lookup_cons_own, if_pos hfound, lookup_cons_own]
      · rw [lookup_cons_other hother, ih, lookup_cons_other hother]
    · rw [filter_cons_of_neg (by simpa using hfound), ih]
      rcases eq_or_ne key found with rfl | hother
      · rw [if_neg hfound, if_neg hfound]
      · rw [lookup_cons_other hother]

theorem lookup_append_new {key other : κ} (h : other ≠ key) (entries : List (κ × α)) (value : α) :
    (entries ++ [(key, value)]).lookup other = entries.lookup other := by
  rw [lookup_append, lookup_cons_other h, lookup_nil, Option.or_none]

theorem lookup_append_own {key : κ} {entries : List (κ × α)} (h : entries.lookup key = none)
    (value : α) : (entries ++ [(key, value)]).lookup key = some value := by
  rw [lookup_append, h, Option.none_or, lookup_cons_own]

theorem mem_of_lookup {key : κ} {value : α} {entries : List (κ × α)}
    (h : entries.lookup key = some value) : (key, value) ∈ entries := by
  obtain ⟨first, last, rfl, -⟩ := lookup_eq_some_iff.1 h
  simp

theorem lookup_of_mem {key : κ} {value : α} {entries : List (κ × α)}
    (hnodup : (entries.map Prod.fst).Nodup) (h : (key, value) ∈ entries) :
    entries.lookup key = some value := by
  induction entries with
  | nil => exact absurd h not_mem_nil
  | cons entry entries ih =>
    rw [map_cons, nodup_cons] at hnodup
    rcases mem_cons.1 h with rfl | hmem
    · exact lookup_cons_own key value entries
    · have hother : key ≠ entry.1 := by
        rintro rfl
        exact hnodup.1 (mem_map.2 ⟨_, hmem, rfl⟩)
      exact (lookup_cons_other hother entry.2 entries).trans (ih hnodup.2 hmem)

/-- Without the oldest entry the others are found as before. -/
theorem lookup_tail {entries : List (κ × α)} {key : κ} {value : α}
    (h : entries.lookup key = some value) (hnodup : (entries.map Prod.fst).Nodup) :
    entries.tail.lookup key = some value ∨ entries.tail.lookup key = none := by
  cases entries with
  | nil => cases h
  | cons entry entries =>
    obtain ⟨found, first⟩ := entry
    rcases eq_or_ne key found with rfl | hother
    · right
      rw [map_cons, nodup_cons] at hnodup
      rw [tail_cons, lookup_none_iff]
      intro other hmem hsame
      exact hnodup.1 (mem_map.2 ⟨other, hmem, hsame⟩)
    · left
      rwa [lookup_cons_other hother] at h

theorem lookup_map_values {β : Type*} (f : α → β) (key : κ) (entries : List (κ × α)) :
    (entries.map (Prod.map id f)).lookup key = (entries.lookup key).map f := by
  induction entries with
  | nil => rfl
  | cons entry entries ih =>
    obtain ⟨found, value⟩ := entry
    rw [map_cons, Prod.map_apply, id_eq]
    rcases eq_or_ne key found with rfl | hother
    · rw [lookup_cons_own, lookup_cons_own, Option.map_some]
    · rw [lookup_cons_other hother, lookup_cons_other hother, ih]

end Lookup

section Filter
variable [DecidableEq κ] [BEq κ] [LawfulBEq κ]

theorem lookup_filter_other {key other : κ} (h : other ≠ key) (entries : List (κ × α)) :
    (entries.filter fun entry => entry.1 ≠ key).lookup other = entries.lookup other := by
  have hlookup := lookup_filter_key (fun found => decide (found ≠ key)) other entries
  rwa [if_pos (decide_eq_true h)] at hlookup

theorem lookup_filter_own (key : κ) (entries : List (κ × α)) :
    (entries.filter fun entry => entry.1 ≠ key).lookup key = none := by
  have hlookup := lookup_filter_key (fun found => decide (found ≠ key)) key entries
  rwa [if_neg (by simp)] at hlookup

end Filter

section Put
variable [DecidableEq κ]

/-- A value is put in the place of an older one, or behind the others. -/
def put (key : κ) (value : α) (entries : List (κ × α)) : List (κ × α) :=
  if entries.any (fun entry => decide (entry.1 = key)) then
    entries.map fun entry => if entry.1 = key then (key, value) else entry
  else entries ++ [(key, value)]

theorem any_key_iff {key : κ} {entries : List (κ × α)} :
    entries.any (fun entry => decide (entry.1 = key)) = true ↔ ∃ entry ∈ entries, entry.1 = key := by
  simp only [any_eq_true, decide_eq_true_eq]

theorem mem_put {key : κ} {value : α} {entries : List (κ × α)} {entry : κ × α}
    (h : entry ∈ put key value entries) : entry ∈ entries ∨ entry = (key, value) := by
  unfold put at h
  split_ifs at h
  · obtain ⟨old, hold, rfl⟩ := mem_map.1 h
    split_ifs
    · exact .inr rfl
    · exact .inl hold
  · exact (mem_append.1 h).imp_right mem_singleton.1

theorem nodup_put {entries : List (κ × α)} (h : (entries.map Prod.fst).Nodup) (key : κ)
    (value : α) : ((put key value entries).map Prod.fst).Nodup := by
  unfold put
  split_ifs with hfound
  · have hkeys : ∀ entry : κ × α, (if entry.1 = key then (key, value) else entry).1 = entry.1 := by
      intro entry
      split_ifs with heq
      · exact heq.symm
      · rfl
    rw [map_map, show Prod.fst ∘ (fun entry : κ × α => if entry.1 = key then (key, value) else entry) =
      Prod.fst from funext hkeys]
    exact h
  · rw [map_append, nodup_append]
    refine ⟨h, nodup_singleton key, ?_⟩
    rintro other hother _ hkey rfl
    obtain ⟨entry, hentry, rfl⟩ := mem_map.1 hother
    exact hfound (any_key_iff.2 ⟨entry, hentry, mem_singleton.1 hkey⟩)

theorem map_put {β : Type*} (f : α → β) (key : κ) (value : α) (entries : List (κ × α)) :
    (put key value entries).map (Prod.map id f) = put key (f value) (entries.map (Prod.map id f)) := by
  unfold put
  have hany : (entries.map (Prod.map id f)).any (fun entry => decide (entry.1 = key)) =
      entries.any fun entry => decide (entry.1 = key) := by
    rw [any_map]
    rfl
  rw [hany]
  split_ifs
  · rw [map_map, map_map]
    refine map_congr_left fun entry _ => ?_
    by_cases heq : entry.1 = key
    · simp [heq]
    · simp [heq]
  · rw [map_append]
    rfl

variable [BEq κ] [LawfulBEq κ]

theorem put_of_new {key : κ} {entries : List (κ × α)} (h : entries.lookup key = none) (value : α) :
    put key value entries = entries ++ [(key, value)] := by
  unfold put
  rw [if_neg]
  rw [any_key_iff]
  rintro ⟨entry, hentry, heq⟩
  exact lookup_none_iff.1 h entry hentry heq

theorem lookup_map_put {key : κ} (other : κ) (value : α) (entries : List (κ × α)) :
    (entries.map fun entry => if entry.1 = key then (key, value) else entry).lookup other =
      if other = key then (entries.lookup key).map fun _ => value else entries.lookup other := by
  induction entries with
  | nil => split_ifs <;> rfl
  | cons entry entries ih =>
    obtain ⟨found, old⟩ := entry
    rw [map_cons]
    by_cases hfound : found = key
    · rw [if_pos hfound]
      by_cases hother : other = key
      · rw [if_pos hother, hother, lookup_cons_own, ← hfound, lookup_cons_own, Option.map_some]
      · rw [if_neg hother] at ih ⊢
        rw [lookup_cons_other hother, ih, lookup_cons_other (hfound ▸ hother)]
    · rw [if_neg hfound]
      by_cases hother : other = key
      · rw [if_pos hother] at ih ⊢
        rw [hother] at ih ⊢
        rw [lookup_cons_other (Ne.symm hfound), ih, lookup_cons_other (Ne.symm hfound)]
      · rw [if_neg hother] at ih ⊢
        rw [lookup_cons, lookup_cons, ih]

theorem lookup_put_own (key : κ) (value : α) (entries : List (κ × α)) :
    (put key value entries).lookup key = some value := by
  cases hfound : entries.lookup key with
  | none =>
    rw [put_of_new hfound]
    exact lookup_append_own hfound value
  | some old =>
    unfold put
    rw [if_pos (any_key_iff.2 ⟨_, mem_of_lookup hfound, rfl⟩), lookup_map_put, if_pos rfl, hfound,
      Option.map_some]

theorem lookup_put_other {key other : κ} (h : other ≠ key) (value : α) (entries : List (κ × α)) :
    (put key value entries).lookup other = entries.lookup other := by
  unfold put
  split_ifs
  · rw [lookup_map_put, if_neg h]
  · exact lookup_append_new h entries value

/-- Values with keys of their own are put one behind the other. -/
theorem foldl_put {entries others : List (κ × α)}
    (h : ((others ++ entries).map Prod.fst).Nodup) :
    entries.foldl (fun found entry => put entry.1 entry.2 found) others = others ++ entries := by
  induction entries generalizing others with
  | nil => exact (append_nil others).symm
  | cons entry entries ih =>
    have hnew : others.lookup entry.1 = none := by
      rw [lookup_none_iff]
      intro other hother heq
      rw [map_append, nodup_append] at h
      exact h.2.2 _ (mem_map_of_mem hother) _ (mem_map_of_mem mem_cons_self) heq
    rw [append_cons] at h
    rw [foldl_cons, put_of_new hnew, ih h, ← append_cons]

end Put

section Firsts
variable [BEq κ] [LawfulBEq κ]

/-- Of equal elements the first one stays. -/
theorem nodup_eraseDups (keys : List κ) : keys.eraseDups.Nodup := by
  induction hlength : keys.length using Nat.strong_induction_on generalizing keys with
  | _ n ih =>
    cases keys with
    | nil => exact nodup_nil
    | cons key rest =>
      rw [eraseDups_cons, nodup_cons]
      constructor
      · rw [mem_eraseDups, mem_filter]
        simp
      · refine ih _ ?_ _ rfl
        have hfilter := length_filter_le (fun other => !other == key) rest
        simp only [length_cons] at hlength
        omega

end Firsts

end List
