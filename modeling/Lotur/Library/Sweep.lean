import Mathlib.Data.List.Basic

/-! A loop over a list that was taken before: what a turn settles for its element stays settled
while the loop goes on. -/
namespace Sweep

variable {σ α ε : Type*} {rel : σ → σ → Prop} {settled : α → σ → Prop}

/-- `rel` relates a state to the later ones, and what is settled for an element stays so. -/
structure Monotone (rel : σ → σ → Prop) (settled : α → σ → Prop) : Prop where
  refl : ∀ s, rel s s
  trans : ∀ s s' s'', rel s s' → rel s' s'' → rel s s''
  settled : ∀ a s s', rel s s' → settled a s → settled a s'

/-- No turn of the loop throws, and after it every element of the list is settled. -/
theorem foldlM_settled (h : Monotone rel settled) (inv : σ → Prop) (f : σ → α → Except ε σ)
    (xs : List α)
    (hturn : ∀ s, inv s → ∀ a ∈ xs, ∃ s', f s a = .ok s' ∧ inv s' ∧ rel s s' ∧ settled a s')
    {s : σ} (hinv : inv s) :
    ∃ s', xs.foldlM f s = .ok s' ∧ inv s' ∧ rel s s' ∧ ∀ a ∈ xs, settled a s' := by
  induction xs generalizing s with
  | nil => exact ⟨s, rfl, hinv, h.refl s, by simp⟩
  | cons a xs ih =>
    obtain ⟨next, hnext, hinv', hrel, hsettled⟩ := hturn s hinv a List.mem_cons_self
    obtain ⟨s', hloop, hinv'', hrel', hall⟩ :=
      ih (fun s hs b hb => hturn s hs b (List.mem_cons_of_mem a hb)) hinv'
    refine ⟨s', ?_, hinv'', h.trans _ _ _ hrel hrel', ?_⟩
    · rw [List.foldlM_cons, hnext]
      exact hloop
    · intro b hb
      rcases List.mem_cons.1 hb with rfl | hb
      · exact h.settled b _ _ hrel' hsettled
      · exact hall b hb

theorem foldl_settled (h : Monotone rel settled) (inv : σ → Prop) (f : σ → α → σ) (xs : List α)
    (hturn : ∀ s, inv s → ∀ a ∈ xs, inv (f s a) ∧ rel s (f s a) ∧ settled a (f s a))
    {s : σ} (hinv : inv s) :
    inv (xs.foldl f s) ∧ rel s (xs.foldl f s) ∧ ∀ a ∈ xs, settled a (xs.foldl f s) := by
  induction xs generalizing s with
  | nil => exact ⟨hinv, h.refl s, by simp⟩
  | cons a xs ih =>
    obtain ⟨hinv', hrel, hsettled⟩ := hturn s hinv a List.mem_cons_self
    obtain ⟨hinv'', hrel', hall⟩ :=
      ih (fun s hs b hb => hturn s hs b (List.mem_cons_of_mem a hb)) hinv'
    refine ⟨hinv'', h.trans _ _ _ hrel hrel', ?_⟩
    intro b hb
    rcases List.mem_cons.1 hb with rfl | hb
    · exact h.settled b _ _ hrel' hsettled
    · exact hall b hb

end Sweep
