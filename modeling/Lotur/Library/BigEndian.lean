import Mathlib.Data.List.Basic
import Mathlib.Tactic

/-! Unsigned integers in fields of a fixed number of bytes, the most significant first. -/
namespace BigEndian

/-- The low `width` bytes of a number. -/
def encode : ℕ → ℕ → List UInt8
  | 0, _ => []
  | width + 1, n => (n / 256 ^ width).toUInt8 :: encode width n

def decode : List UInt8 → ℕ
  | [] => 0
  | byte :: bytes => byte.toNat * 256 ^ bytes.length + decode bytes

@[simp] theorem length_encode (width n : ℕ) : (encode width n).length = width := by
  induction width with
  | zero => rfl
  | succ width ih => simp [encode, ih]

theorem decode_lt (bytes : List UInt8) : decode bytes < 256 ^ bytes.length := by
  induction bytes with
  | nil => exact Nat.one_pos
  | cons byte bytes ih =>
    have hbyte : byte.toNat + 1 ≤ 256 := byte.toNat_lt
    calc decode (byte :: bytes) < byte.toNat * 256 ^ bytes.length + 256 ^ bytes.length :=
          Nat.add_lt_add_left ih _
      _ = (byte.toNat + 1) * 256 ^ bytes.length := by ring
      _ ≤ 256 * 256 ^ bytes.length := Nat.mul_le_mul_right _ hbyte
      _ = 256 ^ (byte :: bytes).length := by rw [List.length_cons, pow_succ']

theorem decode_encode_mod (width n : ℕ) : decode (encode width n) = n % 256 ^ width := by
  induction width with
  | zero => simp [encode, decode, Nat.mod_one]
  | succ width ih =>
    have hbyte : ((n / 256 ^ width).toUInt8).toNat = n / 256 ^ width % 256 := by simp
    rw [encode, decode, length_encode, ih, hbyte, pow_succ, Nat.mod_mul]
    ring

theorem decode_encode {width n : ℕ} (h : n < 256 ^ width) : decode (encode width n) = n := by
  rw [decode_encode_mod, Nat.mod_eq_of_lt h]

/-- What lies above the field is cut off. -/
theorem encode_add (width k n : ℕ) : encode width (k * 256 ^ width + n) = encode width n := by
  induction width generalizing k with
  | zero => rfl
  | succ width ih =>
    have hpos : 0 < 256 ^ width := Nat.pow_pos (by norm_num)
    have hshift : k * 256 ^ (width + 1) + n = n + k * 256 * 256 ^ width := by ring
    have hbyte : (n / 256 ^ width + k * 256).toUInt8 = (n / 256 ^ width).toUInt8 := by
      apply UInt8.toNat_inj.mp
      simp
    rw [encode, encode, hshift, Nat.add_mul_div_right _ _ hpos, hbyte, Nat.add_comm n, ih]

theorem encode_decode (bytes : List UInt8) : encode bytes.length (decode bytes) = bytes := by
  induction bytes with
  | nil => rfl
  | cons byte bytes ih =>
    have hpos : 0 < 256 ^ bytes.length := Nat.pow_pos (by norm_num)
    have hhead : (byte.toNat * 256 ^ bytes.length + decode bytes) / 256 ^ bytes.length =
        byte.toNat := by
      rw [Nat.add_comm, Nat.add_mul_div_right _ _ hpos, Nat.div_eq_of_lt (decode_lt bytes)]
      exact Nat.zero_add _
    rw [List.length_cons, decode, encode, hhead, encode_add, ih]
    simp

end BigEndian
