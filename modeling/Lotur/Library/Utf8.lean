import Mathlib.Tactic

/-! The decoder of UTF-8 to UTF-16 code units; bytes that are no character become U+FFFD. -/
namespace Utf8

/-- The character that is being read: its bits so far, how many bytes it still needs, and the bounds
of the next one. -/
structure Pending where
  bits : ℕ
  needed : ℕ
  lower : ℕ
  upper : ℕ

def codeUnits (scalar : ℕ) : List UInt16 :=
  if scalar < 0x10000 then [scalar.toUInt16]
  else [(0xd800 + (scalar - 0x10000) / 0x400).toUInt16,
    (0xdc00 + (scalar - 0x10000) % 0x400).toUInt16]

def firstByte (byte : ℕ) : List UInt16 × Option Pending :=
  if byte < 0x80 then ([byte.toUInt16], none)
  else if 0xc2 ≤ byte ∧ byte ≤ 0xdf then ([], some ⟨byte - 0xc0, 1, 0x80, 0xbf⟩)
  else if 0xe0 ≤ byte ∧ byte ≤ 0xef then
    ([], some ⟨byte - 0xe0, 2, if byte = 0xe0 then 0xa0 else 0x80,
      if byte = 0xed then 0x9f else 0xbf⟩)
  else if 0xf0 ≤ byte ∧ byte ≤ 0xf4 then
    ([], some ⟨byte - 0xf0, 3, if byte = 0xf0 then 0x90 else 0x80,
      if byte = 0xf4 then 0x8f else 0xbf⟩)
  else ([0xfffd], none)

/-- A byte that does not continue the character ends it and is read anew. -/
def nextByte (pending : Option Pending) (byte : ℕ) : List UInt16 × Option Pending :=
  match pending with
  | none => firstByte byte
  | some pending =>
    if pending.lower ≤ byte ∧ byte ≤ pending.upper then
      let bits := pending.bits * 0x40 + (byte - 0x80)
      if pending.needed = 1 then (codeUnits bits, none)
      else ([], some ⟨bits, pending.needed - 1, 0x80, 0xbf⟩)
    else
      let read := firstByte byte
      (0xfffd :: read.1, read.2)

def decodeFrom (pending : Option Pending) : List UInt8 → List UInt16
  | [] => if pending.isSome then [0xfffd] else []
  | byte :: bytes =>
    let read := nextByte pending byte.toNat
    read.1 ++ decodeFrom read.2 bytes

def decode (bytes : List UInt8) : List UInt16 := decodeFrom none bytes

theorem decode_ascii {text : List UInt16} (h : ∀ unit ∈ text, unit < 0x80) :
    decode (text.map UInt16.toUInt8) = text := by
  unfold decode
  induction text with
  | nil => rfl
  | cons unit text ih =>
    rw [List.forall_mem_cons] at h
    have hlt : unit.toNat < 0x80 := h.1
    have hbyte : unit.toUInt8.toNat = unit.toNat := by
      rw [UInt16.toNat_toUInt8]
      omega
    have hunit : unit.toUInt8.toNat.toUInt16 = unit := by
      rw [hbyte]
      exact UInt16.ofNat_toNat
    have hread : nextByte none unit.toUInt8.toNat = ([unit], none) := by
      unfold nextByte firstByte
      dsimp only
      rw [if_pos (hbyte.trans_lt hlt), hunit]
    rw [List.map_cons, decodeFrom, hread]
    dsimp only
    rw [ih h.2]
    rfl

example : decode [0x41, 0xe2, 0x82, 0xac, 0xf0, 0x9f, 0x98, 0x80, 0xe2, 0x82, 0x42] =
    [0x41, 0x20ac, 0xd83d, 0xde00, 0xfffd, 0x42] := by decide

end Utf8
