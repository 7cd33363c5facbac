import Mathlib.Data.List.Basic
import Mathlib.Tactic

/-! Base64 with the URL alphabet and without padding, on UTF-16 code units. -/
namespace Base64Url

def digit (n : ℕ) : UInt16 :=
  if n < 26 then (0x41 + n).toUInt16
  else if n < 52 then (0x61 + (n - 26)).toUInt16
  else if n < 62 then (0x30 + (n - 52)).toUInt16
  else if n = 62 then 0x2d
  else 0x5f

def isDigit (unit : UInt16) : Bool :=
  (0x41 ≤ unit && unit ≤ 0x5a) || (0x61 ≤ unit && unit ≤ 0x7a) || (0x30 ≤ unit && unit ≤ 0x39) ||
    unit = 0x2d || unit = 0x5f

def value (unit : UInt16) : ℕ :=
  if 0x41 ≤ unit ∧ unit ≤ 0x5a then unit.toNat - 0x41
  else if 0x61 ≤ unit ∧ unit ≤ 0x7a then unit.toNat - 0x61 + 26
  else if 0x30 ≤ unit ∧ unit ≤ 0x39 then unit.toNat - 0x30 + 52
  else if unit = 0x2d then 62
  else 63

def encode : List UInt8 → List UInt16
  | a :: b :: c :: rest =>
    digit (a.toNat / 4) :: digit (a.toNat % 4 * 16 + b.toNat / 16) ::
      digit (b.toNat % 16 * 4 + c.toNat / 64) :: digit (c.toNat % 64) :: encode rest
  | [a, b] =>
    [digit (a.toNat / 4), digit (a.toNat % 4 * 16 + b.toNat / 16), digit (b.toNat % 16 * 4)]
  | [a] => [digit (a.toNat / 4), digit (a.toNat % 4 * 16)]
  | [] => []

/-- A last group of a single digit holds no byte, and left-over bits are dropped. -/
def decode : List UInt16 → List UInt8
  | p :: q :: r :: s :: rest =>
    (value p * 4 + value q / 16).toUInt8 :: (value q % 16 * 16 + value r / 4).toUInt8 ::
      (value r % 4 * 64 + value s).toUInt8 :: decode rest
  | [p, q, r] => [(value p * 4 + value q / 16).toUInt8, (value q % 16 * 16 + value r / 4).toUInt8]
  | [p, q] => [(value p * 4 + value q / 16).toUInt8]
  | _ => []

theorem value_digit {n : ℕ} (h : n < 64) : value (digit n) = n := by
  revert h
  revert n
  decide

theorem isDigit_digit (n : ℕ) : isDigit (digit n) = true := by
  by_cases h : n < 64
  · revert h
    revert n
    decide
  · have hlast : digit n = 0x5f := by
      unfold digit
      rw [if_neg (by omega), if_neg (by omega), if_neg (by omega), if_neg (by omega)]
    rw [hlast]
    rfl

theorem isDigit_of_mem_encode (bytes : List UInt8) : ∀ unit ∈ encode bytes, isDigit unit = true := by
  induction bytes using encode.induct with
  | case1 a b c rest ih =>
    simp only [encode, List.forall_mem_cons, isDigit_digit, true_and]
    exact ih
  | case2 a b => simp [encode, isDigit_digit]
  | case3 a => simp [encode, isDigit_digit]
  | case4 => simp [encode]

theorem length_encode (bytes : List UInt8) :
    (encode bytes).length = (bytes.length * 4 + 2) / 3 := by
  induction bytes using encode.induct with
  | case1 a b c rest ih =>
    simp only [encode, List.length_cons, ih]
    omega
  | case2 a b => simp [encode]
  | case3 a => simp [encode]
  | case4 => rfl

/-- The bits of three bytes, taken apart into digits and put together. -/
theorem byte_of_bits {n : ℕ} (byte : UInt8) (h : n = byte.toNat) : n.toUInt8 = byte := by
  rw [h]
  exact UInt8.ofNat_toNat

theorem decode_encode (bytes : List UInt8) : decode (encode bytes) = bytes := by
  induction bytes using encode.induct with
  | case1 a b c rest ih =>
    have ha := a.toNat_lt
    have hb := b.toNat_lt
    have hc := c.toNat_lt
    rw [encode, decode, value_digit (by omega), value_digit (by omega), value_digit (by omega),
      value_digit (by omega), ih, byte_of_bits a (by omega),
      byte_of_bits b (by omega), byte_of_bits c (by omega)]
  | case2 a b =>
    have ha := a.toNat_lt
    have hb := b.toNat_lt
    rw [encode, decode, value_digit (by omega), value_digit (by omega), value_digit (by omega),
      byte_of_bits a (by omega), byte_of_bits b (by omega)]
  | case3 a =>
    have ha := a.toNat_lt
    rw [encode, decode, value_digit (by omega), value_digit (by omega),
      byte_of_bits a (by omega)]
  | case4 => rfl

end Base64Url
