import Mathlib.Data.List.Count
import Mathlib.Tactic

/-! Events counted in windows of a fixed width, newest first. The windows start where they like, but
not before the one before has ended. -/
namespace FixedWindows

variable {α : Type*}

structure Window (α : Type*) where
  start : ℕ
  members : List α

/-- The events of the windows, newest first. -/
def events (windows : List (Window α)) : List α := windows.flatMap Window.members

/-- Every event lies in its window, and the windows do not meet. -/
structure Spaced (time : α → ℕ) (width : ℕ) (windows : List (Window α)) : Prop where
  apart : windows.Pairwise fun newer older => older.start + width ≤ newer.start
  within : ∀ window ∈ windows, ∀ event ∈ window.members,
    window.start ≤ time event ∧ time event < window.start + width

variable {time : α → ℕ} {width : ℕ}

theorem Spaced.tail {window : Window α} {windows : List (Window α)}
    (h : Spaced time width (window :: windows)) : Spaced time width windows :=
  ⟨(List.pairwise_cons.1 h.apart).2, fun other hother =>
    h.within other (List.mem_cons_of_mem window hother)⟩

theorem countP_eq_zero_of_earlier {windows : List (Window α)} (h : Spaced time width windows)
    {selects : α → Bool} {start : ℕ} (hstart : ∀ window ∈ windows, window.start + width ≤ start)
    (hlate : ∀ event, selects event = true → start ≤ time event) :
    (events windows).countP selects = 0 := by
  rw [List.countP_eq_zero]
  intro event hevent hselected
  obtain ⟨window, hwindow, hmem⟩ := List.mem_flatMap.1 hevent
  have hbefore := (h.within window hwindow event hmem).2
  have hend := hstart window hwindow
  have hafter := hlate event hselected
  omega

/-- An interval shorter than a window meets at most two of them. -/
theorem countP_interval {windows : List (Window α)} (h : Spaced time width windows)
    {selects : α → Bool} {limit first last : ℕ} (hinterval : last < first + width)
    (hlimit : ∀ window ∈ windows, window.members.countP selects ≤ limit)
    (hselects : ∀ event, selects event = true → first ≤ time event ∧ time event ≤ last) :
    (events windows).countP selects ≤ 2 * limit := by
  induction windows with
  | nil => exact Nat.zero_le _
  | cons newest windows ih =>
    rw [List.forall_mem_cons] at hlimit
    have hsplit : (events (newest :: windows)).countP selects =
        newest.members.countP selects + (events windows).countP selects := List.countP_append
    by_cases hnone : newest.members.countP selects = 0
    · rw [hsplit, hnone, zero_add]
      exact ih h.tail hlimit.2
    -- The newest window that is met started within the interval, so only one before it is met.
    obtain ⟨event, hevent, hselected⟩ := List.countP_pos_iff.1 (Nat.pos_of_ne_zero hnone)
    have hnewest := (h.within newest List.mem_cons_self event hevent).1
    have hlast := (hselects event hselected).2
    have hapart := (List.pairwise_cons.1 h.apart).1
    cases windows with
    | nil =>
      rw [hsplit]
      exact (Nat.add_le_add_right hlimit.1 0).trans (by omega)
    | cons older windows =>
      have hrest : (events windows).countP selects = 0 := by
        refine countP_eq_zero_of_earlier h.tail.tail (fun window hwindow => ?_)
          fun event hselected => (hselects event hselected).1
        have holder := (List.pairwise_cons.1 h.tail.apart).1 window hwindow
        have hstart := hapart older List.mem_cons_self
        omega
      have hsecond : (events (older :: windows)).countP selects =
          older.members.countP selects + (events windows).countP selects := List.countP_append
      have holder := hlimit.2 older List.mem_cons_self
      rw [hsplit, hsecond, hrest]
      omega

/-- An event in the window that is open. -/
theorem Spaced.add {window : Window α} {windows : List (Window α)}
    (h : Spaced time width (window :: windows)) {event : α} (hlow : window.start ≤ time event)
    (hhigh : time event < window.start + width) :
    Spaced time width (⟨window.start, event :: window.members⟩ :: windows) where
  apart := List.pairwise_cons.2 (List.pairwise_cons.1 h.apart)
  within other hother member hmember := by
    rcases List.mem_cons.1 hother with rfl | hother
    · rcases List.mem_cons.1 hmember with rfl | hmember
      · exact ⟨hlow, hhigh⟩
      · exact h.within window List.mem_cons_self member hmember
    · exact h.within other (List.mem_cons_of_mem window hother) member hmember

/-- A new window after the last. -/
theorem Spaced.open_window {window : Window α} {windows : List (Window α)}
    (h : Spaced time width (window :: windows)) {start : ℕ} (hstart : window.start + width ≤ start) :
    Spaced time width (⟨start, []⟩ :: window :: windows) where
  apart := by
    refine List.pairwise_cons.2 ⟨fun other hother => ?_, h.apart⟩
    rcases List.mem_cons.1 hother with rfl | hother
    · exact hstart
    · have hbefore := (List.pairwise_cons.1 h.apart).1 other hother
      dsimp only
      omega
  within other hother member hmember := by
    rcases List.mem_cons.1 hother with rfl | hother
    · exact absurd hmember List.not_mem_nil
    · exact h.within other hother member hmember

end FixedWindows
