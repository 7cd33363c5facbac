import Mathlib.Data.List.TakeWhile
import Lotur.Review.JsonRoundTrip

/-! A number format that prints and reads the integers as doubles are printed and read. -/
namespace Lotur.Review
open JsString OpenHttp

section Integers

def decimal (digits : JsString) : ℕ :=
  digits.foldl (fun n unit => 10 * n + (unit.toNat - 0x30)) 0

theorem decimal_ofNat (n : ℕ) : decimal (JsString.ofNat n) = n := by
  have hdigits : ∀ digits : List ℕ, (∀ d ∈ digits, d < 10) →
      digits.foldr (fun d n => 10 * n + ((0x30 + d.toUInt16).toNat - 0x30)) 0 =
        Nat.ofDigits 10 digits := by
    intro digits hdigits
    induction digits with
    | nil => rfl
    | cons d digits ih =>
      rw [List.forall_mem_cons] at hdigits
      have hd := decimal_digit d
      rw [Nat.mod_eq_of_lt hdigits.1] at hd
      rw [List.foldr_cons, ih hdigits.2, Nat.ofDigits_cons, hd]
      omega
  unfold decimal JsString.ofNat
  split_ifs with hzero
  · rw [hzero]
    rfl
  · rw [List.foldl_map, List.foldl_reverse, hdigits, Nat.ofDigits_digits]
    exact fun d hd => Nat.digits_lt_base (by norm_num) hd

theorem isDecimal_ofNat (n : ℕ) : ∀ unit ∈ JsString.ofNat n, isDecimal unit = true := by
  intro unit hunit
  obtain ⟨hlow, hhigh⟩ := JsString.ofNat_units n unit hunit
  unfold isDecimal
  rw [decide_eq_true hlow, decide_eq_true hhigh]
  rfl

theorem afterInteger_ofNat (n : ℕ) : afterInteger (JsString.ofNat n) = some [] := by
  by_cases hzero : n = 0
  · rw [hzero]
    rfl
  have hall := isDecimal_ofNat n
  have hnonempty : JsString.ofNat n ≠ [] := by
    unfold JsString.ofNat
    rw [if_neg hzero, ne_eq, List.map_eq_nil_iff, List.reverse_eq_nil_iff]
    exact Nat.digits_ne_nil_iff_ne_zero.2 hzero
  have hfirst : readUnit 0x30 (JsString.ofNat n) = none := by
    have hlast := Nat.getLast_digit_ne_zero 10 hzero
    have hne : Nat.digits 10 n ≠ [] := Nat.digits_ne_nil_iff_ne_zero.2 hzero
    have hlt : (Nat.digits 10 n).getLast hne < 10 :=
      Nat.digits_lt_base (by norm_num) (List.getLast_mem hne)
    unfold JsString.ofNat
    rw [if_neg hzero]
    obtain ⟨init, last, heq⟩ : ∃ init last, Nat.digits 10 n = init ++ [last] :=
      ⟨_, _, (List.dropLast_append_getLast hne).symm⟩
    have hlastEq : (Nat.digits 10 n).getLast hne = last := by
      simp [heq]
    rw [heq, List.reverse_append, List.reverse_singleton, List.singleton_append, List.map_cons]
    refine Json.readUnit_of_ne ?_ _
    rw [hlastEq] at hlast hlt
    interval_cases last <;> first | exact absurd rfl hlast | decide
  unfold afterInteger
  rw [hfirst]
  unfold afterDigits
  dsimp only [Option.orElse]
  rw [List.takeWhile_eq_self_iff.2 hall, if_neg hnonempty, List.dropWhile_eq_nil_iff.2 hall]

theorem readUnit_minus_ofNat (n : ℕ) : readUnit 0x2d (JsString.ofNat n) = none := by
  cases htext : JsString.ofNat n with
  | nil => rfl
  | cons unit rest =>
    refine Json.readUnit_of_ne ?_ rest
    rintro rfl
    have hunit := isDecimal_ofNat n 0x2d (by rw [htext]; exact List.mem_cons_self)
    revert hunit
    decide

def printInteger (value : ℚ) : JsString :=
  if value.den = 1 then
    (if value.num < 0 then [0x2d] else []) ++ JsString.ofNat value.num.natAbs
  else [0x30]

def readInteger (literal : JsString) : JsNumber :=
  match readUnit 0x2d literal with
  | some digits => .finite (-(decimal digits : ℤ) : ℤ)
  | none => .finite ((decimal literal : ℤ) : ℚ)

theorem isNumberLiteral_integer (n : ℕ) : isNumberLiteral (JsString.ofNat n) = true ∧
    isNumberLiteral (0x2d :: JsString.ofNat n) = true := by
  have hall : (JsString.ofNat n).all isNumberUnit = true := by
    rw [List.all_eq_true]
    intro unit hunit
    unfold isNumberUnit
    rw [isDecimal_ofNat n unit hunit]
    rfl
  constructor
  · unfold isNumberLiteral
    rw [hall, readUnit_minus_ofNat, Option.getD_none, afterInteger_ofNat]
    rfl
  · unfold isNumberLiteral
    rw [List.all_cons, hall, readUnit_self, Option.getD_some, afterInteger_ofNat]
    rfl

theorem isNumberLiteral_printInteger (value : ℚ) :
    isNumberLiteral (printInteger value) = true := by
  unfold printInteger
  split_ifs
  · exact (isNumberLiteral_integer _).2
  · exact (isNumberLiteral_integer _).1
  · rfl

theorem read_printInteger {value : ℚ} (h : value.den = 1) :
    readInteger (printInteger value) = .finite value := by
  have hvalue : ((value.num : ℤ) : ℚ) = value := Rat.coe_int_num_of_den_eq_one h
  unfold readInteger printInteger
  rw [if_pos h]
  split_ifs with hneg
  · rw [List.singleton_append, readUnit_self]
    dsimp only
    rw [decimal_ofNat, show -((value.num.natAbs : ℕ) : ℤ) = value.num by omega, hvalue]
  · rw [List.nil_append, readUnit_minus_ofNat]
    dsimp only
    rw [decimal_ofNat, show ((value.num.natAbs : ℕ) : ℤ) = value.num by omega, hvalue]

theorem printInteger_int (n : ℤ) :
    printInteger n = (if n < 0 then [0x2d] else []) ++ JsString.ofNat n.natAbs := by
  unfold printInteger
  rw [if_pos (Rat.den_intCast n), Rat.num_intCast]

theorem isDouble_int {n : ℤ} (h : n.natAbs ≤ 2 ^ 53) :
    (n : ℚ).den = 1 ∧ (n : ℚ).num.natAbs ≤ 2 ^ 53 :=
  ⟨Rat.den_intCast n, by rwa [Rat.num_intCast]⟩

/-- A format of the integers, as doubles are printed and read. -/
def integerFormat : NumberFormat where
  print := printInteger
  read := readInteger
  ofText _ := .nan
  isDouble value := value.den = 1 ∧ value.num.natAbs ≤ 2 ^ 53
  isNumberLiteral_print := isNumberLiteral_printInteger
  read_print _ h := read_printInteger h.1
  isDouble_integer _ h := isDouble_int h
  print_integer n _ := printInteger_int n

theorem length_print {n k : ℕ} (hn : n ≤ 2 ^ 53) (hlow : 10 ^ k ≤ n) (hhigh : n < 10 ^ (k + 1)) :
    (integerFormat.print (n : ℚ)).length = k + 1 := by
  have hprint := integerFormat.print_integer n (by rwa [Int.natAbs_natCast])
  rw [if_neg (by omega), List.nil_append, Int.natAbs_natCast, Int.cast_natCast] at hprint
  have hpos : n ≠ 0 := by
    have hpow : 0 < 10 ^ k := Nat.pow_pos (by norm_num)
    omega
  rw [hprint]
  unfold JsString.ofNat
  rw [if_neg hpos, List.length_map, List.length_reverse]
  exact le_antisymm ((Nat.digits_length_le_iff (by norm_num) n).2 hhigh)
    ((Nat.lt_digits_length_iff (by norm_num) n).2 hlow)

end Integers

end Lotur.Review
