import Mathlib.Data.List.Basic
import Mathlib.Tactic

/-! Words cut at every occurrence of a two-letter separator, and the word obtained by
writing such pieces one after another with the separator between them. -/
namespace Separated

section First
variable {α : Type*}

/-- Puts a letter in front of the first piece. -/
def pushFirst (x : α) : List (List α) → List (List α)
  | [] => [[x]]
  | piece :: pieces => (x :: piece) :: pieces

@[simp] theorem pushFirst_length (x : α) {pieces : List (List α)} (h : pieces ≠ []) :
    (pushFirst x pieces).length = pieces.length := by
  cases pieces with
  | nil => exact absurd rfl h
  | cons piece pieces => rfl

theorem pushFirst_append (x : α) {pieces : List (List α)} (h : pieces ≠ [])
    (more : List (List α)) : pushFirst x (pieces ++ more) = pushFirst x pieces ++ more := by
  cases pieces with
  | nil => exact absurd rfl h
  | cons piece pieces => rfl

end First

variable {α : Type*} [DecidableEq α]

/-- The pieces of a word between the occurrences of `a` directly followed by `b`. -/
def split (a b : α) : List α → List (List α)
  | [] => [[]]
  | [x] => [[x]]
  | x :: y :: rest =>
      if x = a ∧ y = b then [] :: split a b rest else pushFirst x (split a b (y :: rest))

/-- The separator occurs in the word. -/
def Occurs (a b : α) : List α → Prop
  | [] => False
  | [_] => False
  | x :: y :: rest => (x = a ∧ y = b) ∨ Occurs a b (y :: rest)

instance decidableOccurs (a b : α) : (word : List α) → Decidable (Occurs a b word)
  | [] => isFalse id
  | [_] => isFalse id
  | x :: y :: rest =>
      have := decidableOccurs a b (y :: rest)
      inferInstanceAs (Decidable ((x = a ∧ y = b) ∨ Occurs a b (y :: rest)))

/-- The pieces written one after another with the separator between neighbours. -/
def join (a b : α) : List (List α) → List α
  | [] => []
  | [piece] => piece
  | piece :: pieces => piece ++ a :: b :: join a b pieces

theorem split_ne_nil (a b : α) (word : List α) : split a b word ≠ [] := by
  fun_induction split a b word with
  | case1 => simp
  | case2 => simp
  | case3 => simp
  | case4 x y rest _ ih => cases h : split a b (y :: rest) <;> simp_all [pushFirst]

theorem one_le_split_length (a b : α) (word : List α) : 1 ≤ (split a b word).length :=
  List.length_pos_iff.mpr (split_ne_nil a b word)

/-- A separator written between two words is a cut: no occurrence straddles it. -/
theorem split_append_separator {a b : α} (hab : a ≠ b) (left right : List α) :
    split a b (left ++ a :: b :: right) = split a b left ++ split a b right := by
  induction left using split.induct a b with
  | case1 => simp [split]
  | case2 x => simp [split, hab, pushFirst]
  | case3 x y rest h ih => simp [split, h, ih]
  | case4 x y rest h ih =>
    have hcons : x :: y :: rest ++ a :: b :: right =
        x :: y :: (rest ++ a :: b :: right) := rfl
    rw [hcons, split, if_neg h, split, if_neg h]
    rw [List.cons_append] at ih
    rw [ih, pushFirst_append x (split_ne_nil a b _)]

/-- A word without the separator is one piece. -/
theorem split_of_not_occurs {a b : α} (word : List α) (h : ¬ Occurs a b word) :
    split a b word = [word] := by
  fun_induction split a b word with
  | case1 => rfl
  | case2 x => rfl
  | case3 x y rest hxy => exact absurd (Or.inl hxy) h
  | case4 x y rest _ ih => rw [ih (fun hrest => h (Or.inr hrest))]; rfl

/-- An occurrence of the separator makes at least two pieces. -/
theorem two_le_split_length {a b : α} (word : List α) (h : Occurs a b word) :
    2 ≤ (split a b word).length := by
  fun_induction split a b word with
  | case1 => exact absurd h id
  | case2 => exact absurd h id
  | case3 x y rest _ =>
    have := one_le_split_length a b rest
    simp only [List.length_cons]
    omega
  | case4 x y rest hxy ih =>
    rw [pushFirst_length x (split_ne_nil a b _)]
    exact ih (h.resolve_left hxy)

/-- The pieces of a joined word are the pieces of its parts, one part after another. -/
theorem split_join {a b : α} (hab : a ≠ b) (pieces : List (List α)) (h : pieces ≠ []) :
    split a b (join a b pieces) = (pieces.map (split a b)).flatten := by
  fun_induction join a b pieces with
  | case1 => exact absurd rfl h
  | case2 piece => simp
  | case3 piece pieces hne ih =>
    have hpieces : pieces ≠ [] := by
      rintro rfl
      exact hne rfl
    rw [split_append_separator hab, ih hpieces]
    rfl

theorem length_le_split_join_length {a b : α} (pieces : List (List α)) :
    pieces.length ≤ ((pieces.map (split a b)).flatten).length := by
  induction pieces with
  | nil => simp
  | cons piece pieces ih =>
    have := one_le_split_length a b piece
    simp only [List.map_cons, List.flatten_cons, List.length_append, List.length_cons]
    omega

/-- Splitting gives back exactly as many pieces as were joined only if no piece holds
the separator. -/
theorem not_occurs_of_split_length {a b : α} (pieces : List (List α))
    (h : ((pieces.map (split a b)).flatten).length = pieces.length) :
    ∀ piece ∈ pieces, ¬ Occurs a b piece := by
  induction pieces with
  | nil => simp
  | cons piece pieces ih =>
    have hone := one_le_split_length a b piece
    have hrest := length_le_split_join_length (a := a) (b := b) pieces
    simp only [List.map_cons, List.flatten_cons, List.length_append, List.length_cons] at h
    intro part hpart hocc
    rcases List.mem_cons.mp hpart with rfl | hmem
    · have := two_le_split_length part hocc
      omega
    · exact ih (by omega) part hmem hocc

/-- Splitting undoes joining when no piece holds the separator. -/
theorem split_join_of_not_occurs {a b : α} (hab : a ≠ b) (pieces : List (List α))
    (hne : pieces ≠ []) (h : ∀ piece ∈ pieces, ¬ Occurs a b piece) :
    split a b (join a b pieces) = pieces := by
  rw [split_join hab pieces hne]
  have hmap : pieces.map (split a b) = pieces.map (fun piece => [piece]) :=
    List.map_congr_left fun piece hpiece => split_of_not_occurs piece (h piece hpiece)
  rw [hmap, ← List.flatMap_def]
  exact List.flatMap_singleton' pieces

/-- A separator inside `left ++ right` lies in one of the two words or across their border. -/
theorem occurs_append {a b : α} (left right : List α) (h : Occurs a b (left ++ right)) :
    Occurs a b left ∨ Occurs a b right ∨ left.getLast? = some a := by
  induction left using split.induct a b with
  | case1 => exact Or.inr (Or.inl h)
  | case2 x =>
    cases right with
    | nil => exact absurd h id
    | cons y rest =>
      rcases h with ⟨rfl, -⟩ | hrest
      · exact Or.inr (Or.inr rfl)
      · exact Or.inr (Or.inl hrest)
  | case3 x y rest hxy _ => exact Or.inl (Or.inl hxy)
  | case4 x y rest hxy ih =>
    rcases h with hhead | hrest
    · exact absurd hhead hxy
    rcases ih hrest with hl | hr | hlast
    · exact Or.inl (Or.inr hl)
    · exact Or.inr (Or.inl hr)
    · exact Or.inr (Or.inr (by simpa using hlast))

/-- The separator cannot occur in a word without its first letter. -/
theorem not_occurs_of_not_mem {a b : α} (word : List α) (h : a ∉ word) : ¬ Occurs a b word := by
  induction word using split.induct a b with
  | case1 => exact id
  | case2 x => exact id
  | case3 x y rest hxy _ => exact absurd (by simp [hxy.1]) h
  | case4 x y rest hxy ih =>
    rintro (hhead | hrest)
    · exact hxy hhead
    · exact ih (fun hmem => h (List.mem_cons_of_mem _ hmem)) hrest

/-- A word grown to the left by letters other than `a` holds the separator only where it
did before. -/
theorem occurs_append_left_iff {a b : α} (left right : List α) (h : a ∉ left) :
    Occurs a b (left ++ right) ↔ Occurs a b right := by
  constructor
  · intro hocc
    rcases occurs_append left right hocc with hl | hr | hlast
    · exact absurd hl (not_occurs_of_not_mem left h)
    · exact hr
    · exact absurd (List.mem_of_getLast? hlast) h
  · intro hocc
    induction left with
    | nil => exact hocc
    | cons x left ih =>
      have hrest := ih (fun hmem => h (List.mem_cons_of_mem _ hmem))
      cases hword : left ++ right with
      | nil => rw [hword] at hrest; exact absurd hrest id
      | cons y rest =>
        rw [hword] at hrest
        rw [List.cons_append, hword]
        exact Or.inr hrest

end Separated
