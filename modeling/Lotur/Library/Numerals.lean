import Mathlib.Data.Nat.Digits.Lemmas
import Mathlib.Tactic

/-! Numerals in a base up to sixteen, on UTF-16 code units with lower-case letters, and numbers
that are put together from fields of a fixed width. -/
namespace Numerals

section Digits

def digit (d : ℕ) : UInt16 := if d < 10 then (0x30 + d).toUInt16 else (0x57 + d).toUInt16

def digitValue (unit : UInt16) : ℕ :=
  if unit ≤ 0x39 then unit.toNat - 0x30 else unit.toNat - 0x57

/-- The numeral without leading zeros. -/
def print (base n : ℕ) : List UInt16 :=
  if n = 0 then [0x30] else (Nat.digits base n).reverse.map digit

def read (base : ℕ) (text : List UInt16) : ℕ :=
  text.foldl (fun n unit => base * n + digitValue unit) 0

theorem digitValue_digit {d : ℕ} (h : d < 16) : digitValue (digit d) = d := by
  revert h
  revert d
  decide

variable {base n : ℕ}

theorem read_print (hbase : 1 < base) (hle : base ≤ 16) : read base (print base n) = n := by
  have hfold : ∀ digits : List ℕ, (∀ d ∈ digits, d < base) →
      digits.foldr (fun d n => base * n + digitValue (digit d)) 0 = Nat.ofDigits base digits := by
    intro digits hdigits
    induction digits with
    | nil => rfl
    | cons d digits ih =>
      rw [List.forall_mem_cons] at hdigits
      rw [List.foldr_cons, ih hdigits.2, Nat.ofDigits_cons, digitValue_digit (by omega)]
      exact Nat.add_comm _ _
  unfold read print
  split_ifs with hzero
  · rw [hzero]
    rfl
  · rw [List.foldl_map, List.foldl_reverse, hfold, Nat.ofDigits_digits]
    exact fun d hd => Nat.digits_lt_base hbase hd

theorem mem_print (hbase : 1 < base) {unit : UInt16} (h : unit ∈ print base n) :
    ∃ d < base, unit = digit d := by
  unfold print at h
  split_ifs at h
  · exact ⟨0, by omega, List.mem_singleton.1 h⟩
  · obtain ⟨d, hd, rfl⟩ := List.mem_map.1 h
    exact ⟨d, Nat.digits_lt_base hbase (List.mem_reverse.1 hd), rfl⟩

theorem print_ne_nil (base n : ℕ) : print base n ≠ [] := by
  unfold print
  split_ifs with hzero
  · simp
  · simp [hzero, Nat.digits_ne_nil_iff_ne_zero]

theorem length_print_le {width : ℕ} (hbase : 1 < base) (hwidth : 0 < width)
    (h : n < base ^ width) : (print base n).length ≤ width := by
  unfold print
  split_ifs with hzero
  · exact hwidth
  · rw [List.length_map, List.length_reverse]
    exact (Nat.digits_length_le_iff hbase n).2 h

/-- A numeral of more than one digit does not start with a zero. -/
theorem print_head (hbase : 1 < base) (hle : base ≤ 16) (n : ℕ) :
    (print base n).length = 1 ∨ (print base n).head? ≠ some 0x30 := by
  unfold print
  split_ifs with hzero
  · exact Or.inl rfl
  · right
    have hne : Nat.digits base n ≠ [] := Nat.digits_ne_nil_iff_ne_zero.2 hzero
    have hlast := Nat.getLast_digit_ne_zero base hzero
    have hlt := Nat.digits_lt_base hbase (List.getLast_mem hne)
    rw [List.head?_map, List.head?_reverse, List.getLast?_eq_getLast_of_ne_nil hne, Option.map_some]
    intro hdigit
    have hvalue := congrArg digitValue (Option.some.inj hdigit)
    rw [digitValue_digit (hlt.trans_le hle)] at hvalue
    exact hlast hvalue

theorem foldl_lt {text : List UInt16} (h : ∀ unit ∈ text, digitValue unit < base) (start : ℕ) :
    text.foldl (fun n unit => base * n + digitValue unit) start <
      (start + 1) * base ^ text.length := by
  induction text generalizing start with
  | nil => simp
  | cons unit text ih =>
    rw [List.forall_mem_cons] at h
    rw [List.foldl_cons, List.length_cons, pow_succ']
    calc text.foldl (fun n unit => base * n + digitValue unit) (base * start + digitValue unit) <
          (base * start + digitValue unit + 1) * base ^ text.length := ih h.2 _
      _ ≤ (base * (start + 1)) * base ^ text.length :=
          Nat.mul_le_mul_right _ (by rw [Nat.mul_add, Nat.mul_one]; omega)
      _ = (start + 1) * (base * base ^ text.length) := by ring

theorem read_lt {text : List UInt16} (h : ∀ unit ∈ text, digitValue unit < base) :
    read base text < base ^ text.length := by
  have hlt := foldl_lt h 0
  rwa [Nat.zero_add, Nat.one_mul] at hlt

end Digits

section Fields

variable {width : ℕ}

/-- The fields of a number, the most significant one first. -/
def pack (width : ℕ) (fields : List ℕ) : ℕ :=
  fields.foldl (fun result field => result <<< width ||| field) 0

theorem pack_append_singleton {fields : List ℕ} {field : ℕ} (h : field < 2 ^ width) :
    pack width (fields ++ [field]) = pack width fields * 2 ^ width + field := by
  unfold pack
  rw [List.foldl_append, List.foldl_cons, List.foldl_nil, ← Nat.shiftLeft_add_eq_or_of_lt h,
    Nat.shiftLeft_eq]

/-- Fields of their width are found again. -/
theorem pack_inj {fields fields' : List ℕ} (hlength : fields.length = fields'.length)
    (h : ∀ field ∈ fields, field < 2 ^ width) (h' : ∀ field ∈ fields', field < 2 ^ width)
    (hpack : pack width fields = pack width fields') : fields = fields' := by
  induction fields using List.reverseRecOn generalizing fields' with
  | nil =>
    symm
    simpa using hlength.symm
  | append_singleton fields field ih =>
    rcases List.eq_nil_or_concat fields' with rfl | ⟨fields', field', rfl⟩
    · simp at hlength
    · simp only [List.concat_eq_append] at *
      simp only [List.forall_mem_append, List.forall_mem_singleton] at h h'
      rw [pack_append_singleton h.2, pack_append_singleton h'.2] at hpack
      have hlow : field = field' := by
        have hmod := congrArg (· % 2 ^ width) hpack
        simpa [Nat.mod_eq_of_lt h.2, Nat.mod_eq_of_lt h'.2, Nat.mul_add_mod'] using hmod
      subst hlow
      have hhigh : pack width fields = pack width fields' :=
        Nat.eq_of_mul_eq_mul_right (Nat.two_pow_pos width) (Nat.add_right_cancel hpack)
      rw [ih (by simpa using hlength) h.1 h'.1 hhigh]

theorem pack_lt {fields : List ℕ} (h : ∀ field ∈ fields, field < 2 ^ width) :
    pack width fields < 2 ^ (width * fields.length) := by
  induction fields using List.reverseRecOn with
  | nil => simp [pack]
  | append_singleton fields field ih =>
    simp only [List.forall_mem_append, List.forall_mem_singleton] at h
    have hrest := ih h.1
    rw [pack_append_singleton h.2, List.length_append, List.length_singleton, Nat.mul_add,
      Nat.mul_one, pow_add]
    calc pack width fields * 2 ^ width + field < pack width fields * 2 ^ width + 2 ^ width :=
          Nat.add_lt_add_left h.2 _
      _ = (pack width fields + 1) * 2 ^ width := by ring
      _ ≤ 2 ^ (width * fields.length) * 2 ^ width := Nat.mul_le_mul_right _ hrest

/-- The upper fields of a number. -/
theorem pack_append {upper lower : List ℕ} (h : ∀ field ∈ lower, field < 2 ^ width) :
    pack width (upper ++ lower) = pack width upper * 2 ^ (width * lower.length) +
      pack width lower := by
  induction lower using List.reverseRecOn with
  | nil => simp [pack]
  | append_singleton lower field ih =>
    simp only [List.forall_mem_append, List.forall_mem_singleton] at h
    rw [← List.append_assoc, pack_append_singleton h.2, pack_append_singleton h.2, ih h.1,
      List.length_append, List.length_singleton, Nat.mul_add, Nat.mul_one, pow_add]
    ring

end Fields

end Numerals
