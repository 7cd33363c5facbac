import Mathlib.Data.Nat.Digits.Lemmas
import Mathlib.Data.Rat.Defs
import Mathlib.Tactic

/-! The JavaScript values the packages work on: errors with their class and message,
strings as lists of UTF-16 code units, parsed JSON, and the `latin1` encoding of Node
buffers. -/
namespace Lotur

/-- A thrown error: the class that threw it and its message. -/
inductive JsError where
  | error (message : String)
  | rangeError (message : String)
  | typeError (message : String)
  | flowWindowError (message : String)
  | retiredDataBudgetError (message : String)
  | gatewayInboundFlowError (message : String)
  | inboundFlowError (message : String)
  | remoteStreamLifecycleError (message : String)
  | gatewayStreamIdError (message : String)
  deriving DecidableEq, Repr

theorem of_bind_eq_ok {ε α β : Type} {x : Except ε α} {f : α → Except ε β} {result : β}
    (h : (x >>= f) = .ok result) : ∃ value, x = .ok value ∧ f value = .ok result := by
  cases x with
  | ok value => exact ⟨value, rfl, h⟩
  | error error => cases h

abbrev JsString := List UInt16

instance : LawfulBEq JsString := inferInstance

namespace JsString

/-- The code units of an ASCII literal. -/
def ofAscii (text : String) : JsString := text.toList.map fun c => c.toNat.toUInt16

/-- `WhiteSpace` and `LineTerminator` of ECMAScript, the units `trim` removes. -/
def isWhiteSpace (unit : UInt16) : Bool :=
  unit ∈ [0x09, 0x0a, 0x0b, 0x0c, 0x0d, 0x20, 0xa0, 0x1680, 0x2028, 0x2029, 0x202f, 0x205f,
    0x3000, 0xfeff] || (0x2000 ≤ unit && unit ≤ 0x200a)

def trim (text : JsString) : JsString :=
  ((text.dropWhile isWhiteSpace).reverse.dropWhile isWhiteSpace).reverse

/-- `toLowerCase` on one unit of a token. The callers apply it to header names, which
`headerNamePattern` restricts to ASCII, so only `A`-`Z` change. -/
def lowerUnit (unit : UInt16) : UInt16 :=
  if 0x41 ≤ unit ∧ unit ≤ 0x5a then unit + 0x20 else unit

def toLowerCase (text : JsString) : JsString := text.map lowerUnit

def split (separator : UInt16) (text : JsString) : List JsString := text.splitOn separator

def join (separator : JsString) (parts : List JsString) : JsString := separator.intercalate parts

def startsWith (text start : JsString) : Bool := start.isPrefixOf text

/-- The part before the first `separator`, or `none` when `indexOf` returns `-1`. -/
def before (separator : UInt16) (text : JsString) : Option JsString :=
  if separator ∈ text then some (text.takeWhile (· ≠ separator)) else none

/-- A template literal's rendering of a non-negative integer. -/
def ofNat (n : ℕ) : JsString :=
  if n = 0 then [0x30] else (Nat.digits 10 n).reverse.map fun d => 0x30 + d.toUInt16

/-- `Buffer.from(text, "latin1")`: every code unit keeps its low byte. -/
def latin1 (text : JsString) : List UInt8 := text.map UInt16.toUInt8

/-- `buffer.toString("latin1")`: every byte becomes the code unit of the same value. -/
def ofLatin1 (bytes : List UInt8) : JsString := bytes.map UInt8.toUInt16

@[simp] theorem latin1_append (left right : JsString) :
    latin1 (left ++ right) = latin1 left ++ latin1 right := List.map_append

/-- A rendered number consists of decimal digits. -/
theorem ofNat_units (n : ℕ) : ∀ unit ∈ ofNat n, 0x30 ≤ unit ∧ unit ≤ 0x39 := by
  intro unit hunit
  unfold ofNat at hunit
  split_ifs at hunit with hzero
  · rw [List.mem_singleton] at hunit
    subst hunit
    decide
  simp only [List.mem_map, List.mem_reverse] at hunit
  obtain ⟨d, hd, rfl⟩ := hunit
  have hlt : d < 10 := Nat.digits_lt_base (by norm_num) hd
  interval_cases d <;> decide

end JsString

/-- What `JSON.parse` returns. A finite double is an exact rational; a literal too large
for a double parses to an infinity. -/
inductive JsonValue where
  | null
  | bool (value : Bool)
  | number (value : ℚ)
  | infinity (negative : Bool)
  | string (text : JsString)
  | array (items : List JsonValue)
  | object (fields : List (String × JsonValue))

namespace JsonValue

/-- Property access on a parsed object; `none` stands for `undefined`. -/
def field (name : String) (fields : List (String × JsonValue)) : Option JsonValue :=
  fields.lookup name

/-- `Number.isInteger(value)` together with the bounds the metadata checks put on it. -/
def integerBetween (low high : ℕ) : Option JsonValue → Option ℕ
  | some (.number value) =>
      if value.den = 1 ∧ (low : ℤ) ≤ value.num ∧ value.num ≤ (high : ℤ) then
        some value.num.toNat
      else none
  | _ => none

end JsonValue

end Lotur
