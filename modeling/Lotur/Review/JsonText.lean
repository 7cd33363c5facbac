import Lotur.Protocol.Envelope
import Lotur.Review.PageCursor

/-! `JSON.stringify` and `JSON.parse` on any value. How numbers are written and read is a parameter. -/
namespace Lotur
open JsString OpenHttp Review

inductive Json where
  | null
  | bool (value : Bool)
  | number (value : JsNumber)
  | string (text : JsString)
  | array (items : List Json)
  | object (fields : List (JsString × Json))

section Literals

def isNumberUnit (unit : UInt16) : Bool :=
  isDecimal unit || unit = 0x2d || unit = 0x2b || unit = 0x2e || unit = 0x65 || unit = 0x45

/-- What is left behind some digits. -/
def afterDigits (text : JsString) : Option JsString :=
  if text.takeWhile isDecimal = [] then none else some (text.dropWhile isDecimal)

def afterInteger (text : JsString) : Option JsString :=
  (readUnit 0x30 text).orElse fun _ => afterDigits text

def afterFraction (text : JsString) : Option JsString :=
  match readUnit 0x2e text with
  | some digits => afterDigits digits
  | none => some text

def afterExponent (text : JsString) : Option JsString :=
  match (readUnit 0x65 text).orElse fun _ => readUnit 0x45 text with
  | some rest =>
    afterDigits (((readUnit 0x2b rest).orElse fun _ => readUnit 0x2d rest).getD rest)
  | none => some text

def isNumberLiteral (text : JsString) : Bool :=
  text.all isNumberUnit &&
    ((afterInteger ((readUnit 0x2d text).getD text)).bind afterFraction).bind afterExponent = some []

end Literals

/-- How the platform writes and reads numbers. -/
structure NumberFormat where
  print : ℚ → JsString
  /-- The value of a literal of JSON. -/
  read : JsString → JsNumber
  /-- The number a string is taken for. -/
  ofText : JsString → JsNumber
  isDouble : ℚ → Prop
  isNumberLiteral_print : ∀ value, isNumberLiteral (print value) = true
  read_print : ∀ value, isDouble value → read (print value) = .finite value
  isDouble_integer : ∀ n : ℤ, n.natAbs ≤ 2 ^ 53 → isDouble n
  print_integer : ∀ n : ℤ, n.natAbs ≤ 2 ^ 53 →
    print n = (if n < 0 then [0x2d] else []) ++ JsString.ofNat n.natAbs

namespace Json
variable (format : NumberFormat)

section Stringify

mutual

/-- `JSON.stringify`. -/
def stringify : Json → JsString
  | .null => ofAscii "null"
  | .bool value => ofAscii (if value then "true" else "false")
  | .number (.finite value) => format.print value
  | .number _ => ofAscii "null"
  | .string text => quoteJsonString text
  | .array items => 0x5b :: join [0x2c] (stringifyItems items) ++ [0x5d]
  | .object fields => 0x7b :: join [0x2c] (stringifyFields fields) ++ [0x7d]

def stringifyItems : List Json → List JsString
  | [] => []
  | item :: items => item.stringify :: stringifyItems items

def stringifyFields : List (JsString × Json) → List JsString
  | [] => []
  | (name, value) :: fields =>
    (quoteJsonString name ++ 0x3a :: value.stringify) :: stringifyFields fields

end

mutual

/-- `String(value)`; `none` where an object hides its `toString` and it throws. -/
def toText : Json → Option JsString
  | .null => some (ofAscii "null")
  | .bool value => some (ofAscii (if value then "true" else "false"))
  | .number (.finite value) => some (format.print value)
  | .number (.infinity negative) => some (ofAscii (if negative then "-Infinity" else "Infinity"))
  | .number .nan => some (ofAscii "NaN")
  | .string text => some text
  | .array items => (itemTexts items).map (join [0x2c])
  | .object fields =>
    if fields.any (fun field => decide (field.1 = ofAscii "toString")) then none
    else some (ofAscii "[object Object]")

/-- Inside an array `null` is empty. -/
def itemTexts : List Json → Option (List JsString)
  | [] => some []
  | .null :: items => (itemTexts items).map ([] :: ·)
  | item :: items => item.toText.bind fun text => (itemTexts items).map (text :: ·)

end

/-- `Number(value)`; `none` where it throws. -/
def toNumber : Json → Option JsNumber
  | .null => some (.finite 0)
  | .bool value => some (.finite (if value then 1 else 0))
  | .number value => some value
  | value => (value.toText format).map format.ofText

end Stringify

section Objects

/-- The index that a property name stands for. -/
def arrayIndex (name : JsString) : Option ℕ :=
  let n := name.foldl (fun n unit => 10 * n + (unit.toNat - 0x30)) 0
  if name ≠ [] ∧ name.all isDecimal = true ∧ (name = [0x30] ∨ name.head? ≠ some 0x30) ∧
      n < 2 ^ 32 - 1 then some n
  else none

/-- A property is set: indices come first in their order, then the other names as they were first
set. -/
def setField (fields : List (JsString × Json)) (field : JsString × Json) :
    List (JsString × Json) :=
  if fields.any (fun other => decide (other.1 = field.1)) then
    fields.map fun other => if other.1 = field.1 then field else other
  else
    match arrayIndex field.1 with
    | none => fields ++ [field]
    | some index =>
      let smaller := fun other : JsString × Json => (arrayIndex other.1).any fun n => decide (n < index)
      fields.takeWhile smaller ++ field :: fields.dropWhile smaller

def ofFields (fields : List (JsString × Json)) : List (JsString × Json) :=
  fields.foldl setField []

end Objects

section Parse

def parseWord (text : JsString) : Option (Json × JsString) :=
  if startsWith text (ofAscii "null") then some (.null, text.drop 4)
  else if startsWith text (ofAscii "true") then some (.bool true, text.drop 4)
  else if startsWith text (ofAscii "false") then some (.bool false, text.drop 5)
  else none

def parseNumber (text : JsString) : Option (Json × JsString) :=
  let literal := text.takeWhile isNumberUnit
  if isNumberLiteral literal then
    some (.number (format.read literal), text.dropWhile isNumberUnit)
  else none

/-- The name of a field, up to its colon. -/
def parseName (text : JsString) : Option (JsString × JsString) := do
  let (name, rest) ← readItem text
  let rest ← readUnit 0x3a (skipSpace rest)
  return (name, rest)

mutual

/-- A value and the text behind it; the fuel bounds the depth and the number of the items. -/
def parseValue : ℕ → JsString → Option (Json × JsString)
  | 0, _ => none
  | fuel + 1, text =>
    let text := skipSpace text
    match readUnit 0x22 text with
    | some content => (readString content).map fun (content, rest) => (.string content, rest)
    | none =>
      match readUnit 0x5b text with
      | some inside =>
        match readUnit 0x5d (skipSpace inside) with
        | some rest => some (.array [], rest)
        | none => (parseItems fuel inside).map fun (items, rest) => (.array items, rest)
      | none =>
        match readUnit 0x7b text with
        | some inside =>
          match readUnit 0x7d (skipSpace inside) with
          | some rest => some (.object [], rest)
          | none => (parseFields fuel inside).map fun (fields, rest) =>
              (.object (ofFields fields), rest)
        | none => (parseWord text).orElse fun _ => parseNumber format text

def parseItems : ℕ → JsString → Option (List Json × JsString)
  | 0, _ => none
  | fuel + 1, text => do
    let (item, rest) ← parseValue fuel text
    match readUnit 0x2c (skipSpace rest) with
    | some rest => (parseItems fuel rest).map fun (items, rest) => (item :: items, rest)
    | none => (readUnit 0x5d (skipSpace rest)).map fun rest => ([item], rest)

def parseFields : ℕ → JsString → Option (List (JsString × Json) × JsString)
  | 0, _ => none
  | fuel + 1, text => do
    let (name, rest) ← parseName text
    let (value, rest) ← parseValue fuel rest
    match readUnit 0x2c (skipSpace rest) with
    | some rest => (parseFields fuel rest).map fun (fields, rest) => ((name, value) :: fields, rest)
    | none => (readUnit 0x7d (skipSpace rest)).map fun rest => ([(name, value)], rest)

end

/-- `JSON.parse`; `none` where it throws. -/
def parse (text : JsString) : Option Json := do
  let (value, rest) ← parseValue format (text.length + 1) text
  if skipSpace rest = [] then some value else none

end Parse

mutual

/-- What the text of a value is read as. -/
def normal : Json → Json
  | .null => .null
  | .bool value => .bool value
  | .number (.finite value) => .number (format.read (format.print value))
  | .number _ => .null
  | .string text => .string text
  | .array items => .array (normalItems items)
  | .object fields => .object (ofFields (normalFields fields))

def normalItems : List Json → List Json
  | [] => []
  | item :: items => item.normal :: normalItems items

def normalFields : List (JsString × Json) → List (JsString × Json)
  | [] => []
  | (name, value) :: fields => (name, value.normal) :: normalFields fields

end

mutual

/-- JSON data: its numbers are doubles and its properties lie in the order they are listed in. -/
def IsData : Json → Prop
  | .null => True
  | .bool _ => True
  | .number (.finite value) => format.isDouble value
  | .number _ => False
  | .string _ => True
  | .array items => AreData items
  | .object fields => ofFields fields = fields ∧ AreFields fields

def AreData : List Json → Prop
  | [] => True
  | item :: items => item.IsData ∧ AreData items

def AreFields : List (JsString × Json) → Prop
  | [] => True
  | (_, value) :: fields => value.IsData ∧ AreFields fields

end

section Data

mutual

theorem normal_of_isData : ∀ value : Json, value.IsData format → value.normal format = value
  | .null, _ => rfl
  | .number (.infinity _), h => h.elim
  | .number .nan, h => h.elim
  | .bool _, _ => rfl
  | .number (.finite value), h => by
    rw [normal, format.read_print value h]
  | .string _, _ => rfl
  | .array items, h => by rw [normal, normalItems_of_areData items h]
  | .object fields, h => by rw [normal, normalFields_of_areFields fields h.2, h.1]

theorem normalItems_of_areData : ∀ items : List Json, AreData format items →
    normalItems format items = items
  | [], _ => rfl
  | item :: items, h => by
    rw [normalItems, normal_of_isData item h.1, normalItems_of_areData items h.2]

theorem normalFields_of_areFields : ∀ fields : List (JsString × Json), AreFields format fields →
    normalFields format fields = fields
  | [], _ => rfl
  | (name, value) :: fields, h => by
    rw [normalFields, normal_of_isData value h.1, normalFields_of_areFields fields h.2]

end

end Data

end Json

end Lotur
