import Mathlib.Data.List.Basic
import Mathlib.Order.Basic
import Mathlib.Tactic

/-! Reading an ascending list backwards, some of the newest values before a bound at a time. -/
namespace OlderPages

variable {α κ : Type*} [LinearOrder κ] {key : α → κ}

/-- The values before a bound. -/
def earlier (key : α → κ) (bound : Option κ) (values : List α) : List α :=
  values.filter fun value => bound.all fun b => decide (key value < b)

/-- The newest values before the bound, and whether there may be older ones. -/
structure IsPage (key : α → κ) (values : List α) (bound : Option κ) (items : List α)
    (hasMore : Bool) : Prop where
  newest : ∃ older, earlier key bound values = older ++ items ∧ (hasMore = false → older = [])
  nonempty : hasMore = true → items ≠ []

/-- What was read is the end of the values, all of them when there is nothing more. -/
structure ReadTo (values loaded : List α) (hasMore : Bool) : Prop where
  newest : ∃ older, values = older ++ loaded ∧ (hasMore = false → older = [])
  nonempty : hasMore = true → loaded ≠ []

theorem earlier_none (values : List α) : earlier key none values = values := by
  unfold earlier
  exact List.filter_eq_self.2 fun _ _ => rfl

/-- Before the first of the loaded values are those that are not loaded. -/
theorem earlier_of_append {older newer : List α} {oldest : α}
    (h : (older ++ oldest :: newer).Pairwise fun left right => key left < key right) :
    earlier key (some (key oldest)) (older ++ oldest :: newer) = older := by
  rw [List.pairwise_append, List.pairwise_cons] at h
  obtain ⟨-, ⟨hnewer, -⟩, holder⟩ := h
  unfold earlier
  rw [List.filter_append, List.filter_eq_self.2, List.filter_eq_nil_iff.2, List.append_nil]
  · intro value hvalue hearlier
    have hlt : key value < key oldest := of_decide_eq_true hearlier
    rcases List.mem_cons.1 hvalue with rfl | hvalue
    · exact lt_irrefl _ hlt
    · exact (hnewer value hvalue).not_gt hlt
  · intro value hvalue
    exact decide_eq_true (holder value hvalue oldest List.mem_cons_self)

theorem ReadTo.start {values items : List α} {hasMore : Bool}
    (h : IsPage key values none items hasMore) : ReadTo values items hasMore := by
  refine ⟨?_, h.nonempty⟩
  have hnewest := h.newest
  rwa [earlier_none] at hnewest

/-- One more page. -/
theorem ReadTo.page {values newer items : List α} {oldest : α} {hadMore hasMore : Bool}
    (hread : ReadTo values (oldest :: newer) hadMore)
    (hascending : values.Pairwise fun left right => key left < key right)
    (hpage : IsPage key values (some (key oldest)) items hasMore) :
    ReadTo values (items ++ oldest :: newer) hasMore := by
  obtain ⟨older, rfl, -⟩ := hread.newest
  obtain ⟨rest, heq, hrest⟩ := hpage.newest
  rw [earlier_of_append hascending] at heq
  subst heq
  constructor
  · exact ⟨rest, List.append_assoc rest items _, hrest⟩
  · intro _
    exact List.append_ne_nil_of_right_ne_nil _ (List.cons_ne_nil oldest newer)

theorem ReadTo.sublist {values loaded : List α} {hasMore : Bool}
    (h : ReadTo values loaded hasMore) : loaded.Sublist values := by
  obtain ⟨older, rfl, -⟩ := h.newest
  exact List.sublist_append_right older loaded

/-- A reader that reached a value, or the end, has every later one. -/
theorem ReadTo.mem_of_le {values loaded : List α} {hasMore : Bool}
    (h : ReadTo values loaded hasMore)
    (hascending : values.Pairwise fun left right => key left < key right) {bound : κ}
    (hreached : (∃ value ∈ loaded, key value ≤ bound) ∨ hasMore = false) {value : α}
    (hvalue : value ∈ values) (hlate : bound ≤ key value) : value ∈ loaded := by
  obtain ⟨older, rfl, hall⟩ := h.newest
  rcases List.mem_append.1 hvalue with holder | hloaded
  · rcases hreached with ⟨reached, hmem, hle⟩ | hend
    · have hlt : key value < key reached :=
        (List.pairwise_append.1 hascending).2.2 value holder reached hmem
      exact absurd (hlt.trans_le hle) hlate.not_gt
    · rw [hall hend] at holder
      exact absurd holder List.not_mem_nil
  · exact hloaded

/-- The rounds a reader may still need. -/
def unread (values loaded : List α) (hasMore : Bool) : ℕ :=
  if hasMore then values.length - loaded.length + 1 else 0

theorem IsPage.unread_lt {values newer items : List α} {oldest : α} {hasMore : Bool}
    (hread : ReadTo values (oldest :: newer) true)
    (hascending : values.Pairwise fun left right => key left < key right)
    (hpage : IsPage key values (some (key oldest)) items hasMore) :
    unread values (items ++ oldest :: newer) hasMore < unread values (oldest :: newer) true := by
  have hlength := (hread.page hascending hpage).sublist.length_le
  unfold unread
  rw [if_pos rfl]
  split_ifs with hmore
  · have hpos : 0 < items.length := List.length_pos_iff.2 (hpage.nonempty hmore)
    rw [List.length_append] at hlength ⊢
    omega
  · exact Nat.succ_pos _

end OlderPages
