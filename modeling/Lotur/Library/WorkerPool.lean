import Mathlib.Data.List.Basic
import Mathlib.Tactic

/-! Workers that share a counter: each takes the next job when its last one has ended, until none is
left. A list may be cut into slices for them. -/
namespace WorkerPool

variable {κ ρ : Type*}

/-- The shared counter, the jobs under way with what is known of them, and the results so far, the
latest first. -/
structure Pool (κ ρ : Type*) where
  next : ℕ
  running : List (ℕ × κ)
  done : List (ℕ × ρ)

/-- Every worker has taken its first job. -/
def start (workers jobs : ℕ) (tag : ℕ → κ) : Pool κ ρ where
  next := min workers jobs
  running := (List.range (min workers jobs)).map fun job => (job, tag job)
  done := []

variable (jobs : ℕ)

/-- The worker at a position ends its job and takes the next one. -/
def finish (s : Pool κ ρ) (position : ℕ) (result : ρ) (tag : κ) : Option (Pool κ ρ) :=
  match s.running[position]? with
  | none => none
  | some (job, _) =>
    some (if s.next < jobs then
      ⟨s.next + 1, s.running.set position (s.next, tag), (job, result) :: s.done⟩
    else ⟨s.next, s.running.eraseIdx position, (job, result) :: s.done⟩)

/-- Every job is taken once, in order, and no worker leaves before all are taken. -/
structure Fair (workers : ℕ) (s : Pool κ ρ) : Prop where
  taken : (s.running.map Prod.fst ++ s.done.map Prod.fst).Perm (List.range s.next)
  next_le : s.next ≤ jobs
  running_le : s.running.length ≤ workers
  busy : s.next < jobs → s.running.length = workers

variable {jobs} {workers : ℕ} {s s' : Pool κ ρ}

theorem fair_start (tag : ℕ → κ) : Fair jobs workers (start (ρ := ρ) workers jobs tag) := by
  constructor
  · simp [start, Function.comp_def]
  · exact min_le_right workers jobs
  · simp [start]
  · intro hnext
    simp only [start, List.length_map, List.length_range] at hnext ⊢
    omega

theorem finish_eq_some {position : ℕ} {result : ρ} {tag : κ}
    (h : finish jobs s position result tag = some s') :
    ∃ job old, s.running[position]? = some (job, old) ∧ s'.done = (job, result) :: s.done ∧
      (s.next < jobs ∧ s'.next = s.next + 1 ∧ s'.running = s.running.set position (s.next, tag) ∨
        jobs ≤ s.next ∧ s'.next = s.next ∧ s'.running = s.running.eraseIdx position) := by
  unfold finish at h
  split at h
  · cases h
  · next job old hjob =>
    cases h
    refine ⟨job, old, hjob, ?_⟩
    split_ifs with hnext
    · exact ⟨rfl, .inl ⟨hnext, rfl, rfl⟩⟩
    · exact ⟨rfl, .inr ⟨not_lt.1 hnext, rfl, rfl⟩⟩

theorem perm_set {α : Type*} {xs : List α} {position : ℕ} {old : α} (h : xs[position]? = some old)
    (value : α) : (old :: xs.set position value).Perm (value :: xs) := by
  induction xs generalizing position with
  | nil => cases h
  | cons x xs ih =>
    cases position with
    | zero =>
      cases h
      exact List.Perm.swap value old xs
    | succ position =>
      rw [List.getElem?_cons_succ] at h
      rw [List.set_cons_succ]
      calc (old :: x :: xs.set position value).Perm (x :: old :: xs.set position value) :=
            List.Perm.swap x old _
        _ |>.Perm (x :: value :: xs) := (ih h).cons x
        _ |>.Perm (value :: x :: xs) := List.Perm.swap value x xs

theorem perm_eraseIdx {α : Type*} {xs : List α} {position : ℕ} {old : α}
    (h : xs[position]? = some old) : (old :: xs.eraseIdx position).Perm xs := by
  induction xs generalizing position with
  | nil => cases h
  | cons x xs ih =>
    cases position with
    | zero =>
      cases h
      exact .refl _
    | succ position => exact (List.Perm.swap x old _).trans ((ih h).cons x)

theorem Fair.finish {position : ℕ} {result : ρ} {tag : κ} (hfair : Fair jobs workers s)
    (h : finish jobs s position result tag = some s') : Fair jobs workers s' := by
  obtain ⟨job, old, hjob, hdone, ⟨hnext, hnext', hrunning⟩ | ⟨hnext, hnext', hrunning⟩⟩ :=
    finish_eq_some h
  · have hmove := (perm_set hjob (s.next, tag)).map Prod.fst
    constructor
    · rw [hrunning, hdone, hnext', List.range_succ, List.map_cons]
      refine List.perm_middle.trans ?_
      rw [← List.cons_append]
      refine ((hmove.append_right _).trans ?_).trans List.perm_append_comm
      exact hfair.taken.cons s.next
    · omega
    · rw [hrunning, List.length_set]
      exact hfair.running_le
    · intro _
      rw [hrunning, List.length_set]
      exact hfair.busy hnext
  · have hmove := (perm_eraseIdx hjob).map Prod.fst
    constructor
    · rw [hrunning, hdone, hnext', List.map_cons]
      refine List.perm_middle.trans ?_
      rw [← List.cons_append]
      exact (hmove.append_right _).trans hfair.taken
    · rw [hnext']
      exact hfair.next_le
    · rw [hrunning]
      exact (List.length_eraseIdx_le _ _).trans hfair.running_le
    · omega

/-- Once no worker is left, every job has ended once. -/
theorem Fair.ended (hfair : Fair jobs workers s) (hworkers : 0 < workers) (h : s.running = []) :
    (s.done.map Prod.fst).Perm (List.range jobs) := by
  have htaken := hfair.taken
  have hall : s.next = jobs := by
    by_contra hne
    have hbusy := hfair.busy (lt_of_le_of_ne hfair.next_le hne)
    rw [h] at hbusy
    exact absurd hbusy hworkers.ne
  rwa [h, List.map_nil, List.nil_append, hall] at htaken

/-- As many jobs have ended as are not under way or still to be taken. -/
theorem Fair.length_done (hfair : Fair jobs workers s) :
    s.running.length + s.done.length = s.next := by
  have hlength := hfair.taken.length_eq
  rwa [List.length_append, List.length_map, List.length_map, List.length_range] at hlength

section Slices
variable {α : Type*}

/-- `xs` cut into slices of a size; the last one may be shorter. -/
def slices (size : ℕ) (xs : List α) : List (List α) :=
  (List.range ((xs.length + size - 1) / size)).map fun index => (xs.drop (index * size)).take size

theorem flatten_slices {size : ℕ} (hsize : 0 < size) (xs : List α) :
    (slices size xs).flatten = xs := by
  have htake : ∀ count, ((List.range count).map fun index =>
      (xs.drop (index * size)).take size).flatten = xs.take (count * size) := by
    intro count
    induction count with
    | zero => simp
    | succ count ih =>
      rw [List.range_succ, List.map_append, List.flatten_append, ih, Nat.succ_mul, List.take_add]
      simp
  unfold slices
  rw [htake, List.take_of_length_le]
  have hdiv := Nat.div_add_mod (xs.length + size - 1) size
  have hmod := Nat.mod_lt (xs.length + size - 1) hsize
  rw [Nat.mul_comm] at hdiv
  omega

theorem mem_zip_map {β : Type*} {f : α → β} {xs : List α} {entry : α × β}
    (h : entry ∈ xs.zip (xs.map f)) : entry.1 ∈ xs ∧ entry.2 = f entry.1 := by
  induction xs with
  | nil => cases h
  | cons x xs ih =>
    rw [List.map_cons, List.zip_cons_cons, List.mem_cons] at h
    rcases h with rfl | h
    · exact ⟨List.mem_cons_self, rfl⟩
    · exact (ih h).imp_left (List.mem_cons_of_mem x)

/-- What occurs once in the list lies in one slice. -/
theorem countP_mem_of_nodup [BEq α] [LawfulBEq α] {parts : List (List α)} (h : parts.flatten.Nodup)
    {x : α} (hx : x ∈ parts.flatten) : parts.countP (x ∈ ·) = 1 := by
  induction parts with
  | nil => exact absurd hx List.not_mem_nil
  | cons part parts ih =>
    rw [List.flatten_cons, List.nodup_append] at h
    rw [List.flatten_cons, List.mem_append] at hx
    rw [List.countP_cons]
    by_cases hpart : x ∈ part
    · have hlater : parts.countP (x ∈ ·) = 0 := by
        rw [List.countP_eq_zero]
        intro later hlater hmem
        exact h.2.2 x hpart x (List.mem_flatten.2 ⟨later, hlater, of_decide_eq_true hmem⟩) rfl
      simp [hpart, hlater]
    · simp [hpart, ih h.2.1 (hx.resolve_left hpart)]

end Slices

end WorkerPool
