import Mathlib.Data.List.Basic
import Mathlib.Logic.Function.Basic
import Mathlib.Tactic

/-! Items that start at version 1 and are changed by commands that name the version they expect. The
log holds the item and the expected version of every command that succeeded, oldest first. -/
namespace OptimisticVersions

variable {ι : Type*} [DecidableEq ι] {version version' : ι → Option ℕ} {log : List (ι × ℕ)}

/-- The versions at which an item was changed. -/
def accepted (log : List (ι × ℕ)) (item : ι) : List ℕ :=
  (log.filter fun entry => entry.1 = item).map Prod.snd

@[simp] theorem accepted_nil (item : ι) : accepted [] item = [] := rfl

theorem accepted_append (log later : List (ι × ℕ)) (item : ι) :
    accepted (log ++ later) item = accepted log item ++ accepted later item := by
  simp [accepted]

theorem accepted_single_self (item : ι) (v : ℕ) : accepted [(item, v)] item = [v] := by
  simp [accepted]

theorem accepted_single_ne {item other : ι} (v : ℕ) (h : item ≠ other) :
    accepted [(item, v)] other = [] := by
  simp [accepted, h]

/-- The log tells the whole past of every item: each version below its own was expected once. -/
def Recorded (version : ι → Option ℕ) (log : List (ι × ℕ)) : Prop :=
  ∀ item, match version item with
    | none => accepted log item = []
    | some n => 1 ≤ n ∧ accepted log item = List.range' 1 (n - 1)

theorem recorded_nil (h : ∀ item, version item = none) : Recorded version [] := by
  intro item
  simp [h item]

theorem Recorded.congr (h : Recorded version log) (hsame : ∀ item, version' item = version item) :
    Recorded version' log := by
  intro item
  rw [hsame]
  exact h item

theorem Recorded.create (h : Recorded version log) {item : ι} (hnone : version item = none) :
    Recorded (Function.update version item (some 1)) log := by
  intro other
  by_cases hother : other = item
  · subst hother
    have hpast := h other
    simp only [hnone] at hpast
    simp [hpast]
  · rw [Function.update_of_ne hother]
    exact h other

theorem Recorded.change (h : Recorded version log) {item : ι} {n : ℕ} (hn : version item = some n) :
    Recorded (Function.update version item (some (n + 1))) (log ++ [(item, n)]) := by
  intro other
  rw [accepted_append]
  by_cases hother : other = item
  · subst hother
    have hpast := h other
    simp only [hn] at hpast
    obtain ⟨hpos, hpast⟩ := hpast
    simp only [Function.update_self, accepted_single_self, hpast]
    refine ⟨by omega, ?_⟩
    obtain ⟨m, rfl⟩ : ∃ m, n = m + 1 := ⟨n - 1, by omega⟩
    rw [Nat.add_sub_cancel, Nat.add_sub_cancel, List.range'_concat, Nat.one_mul, Nat.add_comm 1 m]
  · rw [Function.update_of_ne hother, accepted_single_ne _ (Ne.symm hother), List.append_nil]
    exact h other

theorem mem_accepted {item : ι} {v : ℕ} : v ∈ accepted log item ↔ (item, v) ∈ log := by
  simp [accepted]

/-- Of the commands that expect one version of an item at most one succeeded. -/
theorem Recorded.nodup (h : Recorded version log) : log.Nodup := by
  have hpast : ∀ item, (accepted log item).Nodup := by
    intro item
    have hitem := h item
    cases hn : version item with
    | none =>
      simp only [hn] at hitem
      rw [hitem]
      exact List.nodup_nil
    | some n =>
      simp only [hn] at hitem
      rw [hitem.2]
      exact List.nodup_range'
  rw [List.nodup_iff_count_le_one]
  rintro ⟨item, v⟩
  have hcount : log.count (item, v) = (accepted log item).count v := by
    unfold accepted
    rw [List.count_eq_countP, List.count_eq_countP, List.countP_map, List.countP_filter]
    refine List.countP_congr fun entry _ => ?_
    simp [Prod.ext_iff, and_comm]
  rw [hcount]
  exact List.nodup_iff_count_le_one.1 (hpast item) v

/-- The version counts the changes. -/
theorem Recorded.version_eq (h : Recorded version log) {item : ι} {n : ℕ}
    (hn : version item = some n) : n = 1 + (accepted log item).length := by
  have hpast := h item
  simp only [hn] at hpast
  rw [hpast.2, List.length_range']
  omega

/-- An item that kept its version was not changed. -/
theorem Recorded.accepted_eq (h : Recorded version log) {later : List (ι × ℕ)}
    (hlater : Recorded version' later) {item : ι} (hsome : (version item).isSome)
    (hsame : version' item = version item) : accepted later item = accepted log item := by
  obtain ⟨n, hn⟩ := Option.isSome_iff_exists.1 hsome
  have hpast := h item
  have hpresent := hlater item
  rw [hsame] at hpresent
  simp only [hn] at hpast hpresent
  rw [hpast.2, hpresent.2]

end OptimisticVersions
