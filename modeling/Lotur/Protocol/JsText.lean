import Lotur.Protocol.JavaScript
import Mathlib.Data.List.DropRight

/-! What `trim`, `split` and `join` of a string do to each other. -/
namespace Lotur.JsString

theorem trim_eq_rdropWhile (text : JsString) :
    text.trim = (text.dropWhile isWhiteSpace).rdropWhile isWhiteSpace := rfl

theorem trim_cons_space (text : JsString) : trim (0x20 :: text) = trim text := by
  have hspace : isWhiteSpace 0x20 = true := by decide
  simp [trim, hspace]

theorem trim_sublist (text : JsString) : text.trim.Sublist text :=
  (List.rdropWhile_prefix _ _).sublist.trans (List.dropWhile_suffix _).sublist

theorem trim_eq_self {text : JsString} (hfirst : ∀ unit ∈ text.head?, isWhiteSpace unit = false)
    (hlast : ∀ unit ∈ text.getLast?, isWhiteSpace unit = false) : text.trim = text := by
  have hdrop : text.dropWhile isWhiteSpace = text := by
    cases text with
    | nil => rfl
    | cons unit rest => rw [List.dropWhile_cons_of_neg (by simp [hfirst unit rfl])]
  rw [trim_eq_rdropWhile, hdrop, List.rdropWhile_eq_self_iff]
  intro hne
  simp [hlast _ (List.getLast?_eq_getLast_of_ne_nil hne)]

theorem dropWhile_head (text : JsString) :
    ∀ unit ∈ (text.dropWhile isWhiteSpace).head?, isWhiteSpace unit = false := by
  intro unit hunit
  cases hdrop : text.dropWhile isWhiteSpace with
  | nil =>
    rw [hdrop] at hunit
    cases hunit
  | cons first rest =>
    rw [hdrop] at hunit
    cases hunit
    have hnot := List.head_dropWhile_not isWhiteSpace (l := text) (by simp [hdrop])
    simpa [hdrop] using hnot

theorem trim_head (text : JsString) : ∀ unit ∈ text.trim.head?, isWhiteSpace unit = false := by
  intro unit hunit
  obtain ⟨rest, hrest⟩ : text.trim <+: text.dropWhile isWhiteSpace :=
    List.rdropWhile_prefix _ _
  apply dropWhile_head text
  rw [← hrest]
  cases htrim : text.trim with
  | nil =>
    rw [htrim] at hunit
    cases hunit
  | cons first tail =>
    rw [htrim] at hunit
    exact hunit

theorem trim_last (text : JsString) : ∀ unit ∈ text.trim.getLast?, isWhiteSpace unit = false := by
  intro unit hunit
  obtain ⟨hne, rfl⟩ := List.mem_getLast?_eq_getLast hunit
  simpa [trim_eq_rdropWhile] using List.rdropWhile_last_not isWhiteSpace _ hne

theorem trim_dropWhile (text : JsString) : trim (text.dropWhile isWhiteSpace) = text.trim := by
  rw [trim_eq_rdropWhile, trim_eq_rdropWhile, List.dropWhile_idempotent]

/-- Only white space is cut off. -/
theorem mem_trim {text : JsString} {unit : UInt16} (h : unit ∈ text)
    (hunit : isWhiteSpace unit = false) : unit ∈ text.trim := by
  rw [← List.takeWhile_append_dropWhile (p := isWhiteSpace) (l := text)] at h
  rcases List.mem_append.1 h with h | h
  · rw [List.mem_takeWhile_imp h] at hunit
    cases hunit
  · have hdrop : trim text ++ (text.dropWhile isWhiteSpace).rtakeWhile isWhiteSpace =
        text.dropWhile isWhiteSpace := List.rdropWhile_append_rtakeWhile
    rw [← hdrop] at h
    rcases List.mem_append.1 h with h | h
    · exact h
    · rw [List.mem_rtakeWhile_imp h] at hunit
      cases hunit

theorem trim_trim (text : JsString) : text.trim.trim = text.trim :=
  trim_eq_self (trim_head text) (trim_last text)

theorem startsWith_iff {text start : JsString} : text.startsWith start = true ↔ start <+: text :=
  List.isPrefixOf_iff_prefix

theorem prefix_rdropWhile_append {start : JsString}
    (hlast : ∀ unit ∈ start.getLast?, isWhiteSpace unit = false) (rest : JsString) :
    start <+: (start ++ rest).rdropWhile isWhiteSpace := by
  induction rest using List.reverseRecOn with
  | nil =>
    have hself : start.rdropWhile isWhiteSpace = start := by
      rw [List.rdropWhile_eq_self_iff]
      intro hne
      simp [hlast _ (List.getLast?_eq_getLast_of_ne_nil hne)]
    rw [List.append_nil, hself]
  | append_singleton rest unit ih =>
    rw [← List.append_assoc, List.rdropWhile_concat]
    split_ifs
    · exact ih
    · exact ⟨rest ++ [unit], by rw [List.append_assoc]⟩

/-- White space behind a text does not bear on what the text starts with. -/
theorem prefix_trim_iff {text start : JsString}
    (hlast : ∀ unit ∈ start.getLast?, isWhiteSpace unit = false) :
    start <+: text.trim ↔ start <+: text.dropWhile isWhiteSpace := by
  refine ⟨fun h => h.trans (List.rdropWhile_prefix _ _), ?_⟩
  rintro ⟨rest, hrest⟩
  rw [trim_eq_rdropWhile, ← hrest]
  exact prefix_rdropWhile_append hlast rest

theorem rdropWhile_append_of_pos {keeps : UInt16 → Bool} {right : JsString}
    (h : ∀ unit ∈ right, keeps unit = true) (left : JsString) :
    (left ++ right).rdropWhile keeps = left.rdropWhile keeps := by
  have hreverse : ∀ unit ∈ right.reverse, keeps unit = true := by simpa using h
  rw [List.rdropWhile, List.reverse_append, List.dropWhile_append_of_pos hreverse]
  rfl

/-- Nothing is dropped from the first unit on that is to be kept. -/
theorem dropWhile_append_stop {drops : UInt16 → Bool} {right : JsString}
    (h : ∀ unit ∈ right.head?, drops unit = false) (left : JsString) :
    (left ++ right).dropWhile drops = left.dropWhile drops ++ right := by
  rw [List.dropWhile_append]
  split_ifs with hnil
  · have hleft : left.dropWhile drops = [] := by simpa using hnil
    rw [hleft, List.nil_append]
    cases right with
    | nil => rfl
    | cons unit rest => rw [List.dropWhile_cons_of_neg (by simp [h unit rfl])]
  · rfl

theorem trim_append_white (text : JsString) {white : JsString}
    (h : ∀ unit ∈ white, isWhiteSpace unit = true) : trim (text ++ white) = text.trim := by
  rw [trim_eq_rdropWhile, trim_eq_rdropWhile, List.dropWhile_append]
  split_ifs with hnil
  · have htext : text.dropWhile isWhiteSpace = [] := by simpa using hnil
    have hwhite : white.dropWhile isWhiteSpace = [] := List.dropWhile_eq_nil_iff.2 h
    rw [htext, hwhite]
  · exact rdropWhile_append_of_pos h _

/-- White space behind a text adds nothing to what it starts with. -/
theorem prefix_dropWhile_append_iff {text white start : JsString}
    (hlast : ∀ unit ∈ start.getLast?, isWhiteSpace unit = false)
    (h : ∀ unit ∈ white, isWhiteSpace unit = true) :
    start <+: (text ++ white).dropWhile isWhiteSpace ↔ start <+: text.dropWhile isWhiteSpace := by
  rw [← prefix_trim_iff hlast, ← prefix_trim_iff hlast, trim_append_white text h]

/-- The parts of a text hold no separator. -/
theorem not_mem_of_mem_split {separator : UInt16} {text part : JsString}
    (h : part ∈ text.split separator) : separator ∉ part := by
  induction text generalizing part with
  | nil =>
    simp only [split, List.splitOn_nil, List.mem_singleton] at h
    rw [h]
    exact List.not_mem_nil
  | cons unit rest ih =>
    rw [split, List.splitOn_cons_eq_if_modifyHead] at h
    split_ifs at h with hunit
    · rcases List.mem_cons.1 h with rfl | h
      · exact List.not_mem_nil
      · exact ih h
    · cases hrest : rest.splitOn separator with
      | nil => exact absurd hrest (List.splitOn_ne_nil _ _)
      | cons first others =>
        rw [hrest, List.modifyHead_cons] at h
        have hmem : ∀ other ∈ first :: others, separator ∉ other := by
          intro other hother
          apply ih
          rw [split, hrest]
          exact hother
        rcases List.mem_cons.1 h with rfl | h
        · intro hsep
          rcases List.mem_cons.1 hsep with rfl | hsep
          · simp at hunit
          · exact hmem first List.mem_cons_self hsep
        · exact hmem part (List.mem_cons_of_mem _ h)

theorem split_cons_ne {separator unit : UInt16} (hne : unit ≠ separator) (rest : JsString) :
    split separator (unit :: rest) = (split separator rest).modifyHead (unit :: ·) := by
  rw [split, List.splitOn_cons_eq_if_modifyHead, if_neg (by simpa using hne)]
  rfl

/-- Parts joined by the separator and a space come apart again, each but the first with the space. -/
theorem map_trim_split_join {separator : UInt16} (hspace : separator ≠ 0x20) {parts : List JsString}
    (hne : parts ≠ []) (hparts : ∀ part ∈ parts, separator ∉ part) :
    ((join [separator, 0x20] parts).split separator).map trim = parts.map trim := by
  induction parts with
  | nil => exact absurd rfl hne
  | cons part rest ih =>
    have hpart := hparts part List.mem_cons_self
    cases rest with
    | nil =>
      simp only [join, List.intercalate_singleton, split]
      rw [List.splitOn_eq_singleton hpart]
    | cons next rest =>
      have hjoin : join [separator, 0x20] (part :: next :: rest) =
          part ++ separator :: (0x20 :: join [separator, 0x20] (next :: rest)) := by
        simp [join, List.intercalate, List.intersperse]
      have hrest := ih (List.cons_ne_nil _ _) fun other hother =>
        hparts other (List.mem_cons_of_mem _ hother)
      rw [hjoin, split, List.splitOn_append_cons_self_of_not_mem hpart, List.map_cons, List.map_cons]
      congr 1
      rw [← hrest]
      change (split separator (0x20 :: _)).map trim = _
      rw [split_cons_ne (Ne.symm hspace)]
      cases hsplit : split separator (join [separator, 0x20] (next :: rest)) with
      | nil => rfl
      | cons first others => rw [List.modifyHead_cons, List.map_cons, List.map_cons, trim_cons_space]

theorem before_eq_some {separator : UInt16} {text name : JsString}
    (h : text.before separator = some name) :
    ∃ rest : JsString, text = name ++ separator :: rest ∧ separator ∉ name := by
  unfold before at h
  split_ifs at h with hmem
  cases h
  have hnot : separator ∉ text.takeWhile (· ≠ separator) := fun hsep => by
    simpa using List.mem_takeWhile_imp hsep
  have hrest : text.dropWhile (· ≠ separator) ≠ [] := by
    rw [Ne, List.dropWhile_eq_nil_iff]
    intro hall
    simpa using hall separator hmem
  refine ⟨(text.dropWhile (· ≠ separator)).tail, ?_, hnot⟩
  have hhead : (text.dropWhile (· ≠ separator)).head hrest = separator := by
    simpa using List.head_dropWhile_not (· ≠ separator) hrest
  conv_lhs => rw [← List.takeWhile_append_dropWhile (p := (· ≠ separator)) (l := text)]
  rw [← List.cons_head_tail hrest, hhead]
  rfl

/-- A text that starts with a name and the separator has the name before its first separator. -/
theorem before_of_prefix {separator : UInt16} {name text : JsString} (hname : separator ∉ name)
    (h : name ++ [separator] <+: text) : text.before separator = some name := by
  obtain ⟨rest, rfl⟩ := h
  have hmem : separator ∈ name ++ [separator] ++ rest := by simp
  rw [before, if_pos hmem, List.append_assoc, List.singleton_append]
  congr 1
  induction name with
  | nil => simp
  | cons unit name ih =>
    have hunit : unit ≠ separator := fun heq => hname (heq ▸ List.mem_cons_self)
    have hrest := ih (fun h => hname (List.mem_cons_of_mem _ h)) (by simp)
    rw [List.cons_append, List.takeWhile_cons_of_pos (by simpa using hunit), hrest]

end Lotur.JsString
