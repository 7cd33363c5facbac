import Lotur.Review.Model
import Lotur.Protocol.JavaScript
import Mathlib.Algebra.Order.Round
import Mathlib.Data.Rat.Floor

/-! Region anchors of comments: `normalizeRegionAnchor`, before an anchor is stored and when it is
read back. Numbers are exact. -/
namespace Lotur.Review
open JsString

inductive RegionSelection where
  | point
  | rect
  deriving DecidableEq, Repr

inductive ElementAttribute where
  | dataReviewId
  | id
  deriving DecidableEq, Repr

structure ReviewElementAnchor where
  attributeName : ElementAttribute
  value : JsString
  x : ℚ
  y : ℚ
  width : ℚ
  height : ℚ
  deriving DecidableEq

structure CaptureDimensions where
  width : ℚ
  height : ℚ
  deriving DecidableEq

structure RegionReviewAnchorV1 where
  selection : RegionSelection
  x : ℚ
  y : ℚ
  width : ℚ
  height : ℚ
  document : CaptureDimensions
  viewport : CaptureDimensions
  element : Option ReviewElementAnchor
  deriving DecidableEq

def maxCaptureDimension : ℚ := 1000000
def regionCoordinatePrecision : ℚ := 1000000

def invalidInput {α : Type} (message : String) : Except ReviewError α :=
  .error ⟨.invalidInput, message⟩

def requireRecord (name : String) : Option JsonValue → Except ReviewError (List (String × JsonValue))
  | some (.object fields) => .ok fields
  | _ => invalidInput (name ++ " is invalid")

def requireExactKeys (fields : List (String × JsonValue)) (expected : List String) (name : String) :
    Except ReviewError Unit :=
  if fields.length ≠ expected.length ∨ fields.any fun field => field.1 ∉ expected then
    invalidInput (name ++ " fields are invalid")
  else .ok ()

/-- `Math.round(value * precision) / precision`. -/
def roundTo (precision value : ℚ) : ℚ := round (value * precision) / precision

def normalizeUnitCoordinate (name : String) : Option JsonValue → Except ReviewError ℚ
  | some (.number value) =>
    if value < 0 ∨ 1 < value then invalidInput (name ++ " is invalid")
    else .ok (roundTo regionCoordinatePrecision value)
  | _ => invalidInput (name ++ " is invalid")

def normalizeDimension (name : String) : Option JsonValue → Except ReviewError ℚ
  | some (.number value) =>
    if value ≤ 0 ∨ maxCaptureDimension < value then invalidInput (name ++ " dimensions are invalid")
    else .ok (roundTo 1000 value)
  | _ => invalidInput (name ++ " dimensions are invalid")

def normalizeCaptureDimensions (name : String) (value : Option JsonValue) :
    Except ReviewError CaptureDimensions := do
  let dimensions ← requireRecord name value
  requireExactKeys dimensions ["width", "height"] name
  let width ← normalizeDimension name (JsonValue.field "width" dimensions)
  let height ← normalizeDimension name (JsonValue.field "height" dimensions)
  .ok ⟨width, height⟩

/-- The geometry that both checks refuse. -/
def invalidGeometry (selection : RegionSelection) (x y width height : ℚ) : Prop :=
  (selection = .point ∧ (width ≠ 0 ∨ height ≠ 0)) ∨
    (selection = .rect ∧ (width = 0 ∨ height = 0)) ∨ 1 < x + width ∨ 1 < y + height

instance (selection : RegionSelection) (x y width height : ℚ) :
    Decidable (invalidGeometry selection x y width height) := by
  unfold invalidGeometry
  infer_instance

def parseElementAttribute : Option JsonValue → Option ElementAttribute
  | some (.string text) =>
    if text = ofAscii "data-review-id" then some .dataReviewId
    else if text = ofAscii "id" then some .id
    else none
  | _ => none

def parseElementValue : Option JsonValue → Option JsString
  | some (.string text) =>
    if text.trim.length = 0 ∨ 256 < text.length ∨
      text.any fun unit => unit < 32 ∨ unit = 127 then none
    else some text
  | _ => none

def normalizeElementAnchor (value : Option JsonValue) (selection : RegionSelection) :
    Except ReviewError ReviewElementAnchor := do
  let element ← requireRecord "review element anchor" value
  requireExactKeys element ["attribute", "value", "x", "y", "width", "height"]
    "review element anchor"
  match parseElementAttribute (JsonValue.field "attribute" element),
      parseElementValue (JsonValue.field "value" element) with
  | some attributeName, some value => do
    let x ← normalizeUnitCoordinate "review element x" (JsonValue.field "x" element)
    let y ← normalizeUnitCoordinate "review element y" (JsonValue.field "y" element)
    let width ← normalizeUnitCoordinate "review element width" (JsonValue.field "width" element)
    let height ← normalizeUnitCoordinate "review element height" (JsonValue.field "height" element)
    if invalidGeometry selection x y width height then
      invalidInput "review element geometry is invalid"
    else .ok { attributeName, value, x, y, width, height }
  | _, _ => invalidInput "review element identity is invalid"

/-- The element part is there exactly when the anchor has the key. -/
def normalizeElementPart (selection : RegionSelection) :
    Option JsonValue → Except ReviewError (Option ReviewElementAnchor)
  | none => .ok none
  | some value => (normalizeElementAnchor (some value) selection).map some

def parseSelection : Option JsonValue → Option RegionSelection
  | some (.string text) =>
    if text = ofAscii "POINT" then some .point
    else if text = ofAscii "RECT" then some .rect
    else none
  | _ => none

def hasRegionType : Option JsonValue → Bool
  | some (.string text) => text = ofAscii "REGION_V1"
  | _ => false

def regionKeys (hasElement : Bool) : List String :=
  ["type", "selection", "x", "y", "width", "height", "document", "viewport"] ++
    if hasElement then ["element"] else []

def normalizeRegionAnchor (value : JsonValue) : Except ReviewError RegionReviewAnchorV1 := do
  let anchor ← requireRecord "review region anchor" (some value)
  requireExactKeys anchor (regionKeys (JsonValue.field "element" anchor).isSome)
    "review region anchor"
  if hasRegionType (JsonValue.field "type" anchor) = false then
    invalidInput "review region anchor type is invalid"
  else match parseSelection (JsonValue.field "selection" anchor) with
  | none => invalidInput "review region selection is invalid"
  | some selection => do
    let x ← normalizeUnitCoordinate "review region x" (JsonValue.field "x" anchor)
    let y ← normalizeUnitCoordinate "review region y" (JsonValue.field "y" anchor)
    let width ← normalizeUnitCoordinate "review region width" (JsonValue.field "width" anchor)
    let height ← normalizeUnitCoordinate "review region height" (JsonValue.field "height" anchor)
    if invalidGeometry selection x y width height then
      invalidInput "review region geometry is invalid"
    else do
      let document ← normalizeCaptureDimensions "review document" (JsonValue.field "document" anchor)
      let viewport ← normalizeCaptureDimensions "review viewport" (JsonValue.field "viewport" anchor)
      let element ← normalizeElementPart selection (JsonValue.field "element" anchor)
      .ok { selection, x, y, width, height, document, viewport, element }

/-! What an anchor is stored as. -/

def RegionSelection.text : RegionSelection → JsString
  | point => ofAscii "POINT"
  | rect => ofAscii "RECT"

def ElementAttribute.text : ElementAttribute → JsString
  | dataReviewId => ofAscii "data-review-id"
  | id => ofAscii "id"

def CaptureDimensions.json (dimensions : CaptureDimensions) : JsonValue :=
  .object [("width", .number dimensions.width), ("height", .number dimensions.height)]

def ReviewElementAnchor.json (element : ReviewElementAnchor) : JsonValue :=
  .object [("attribute", .string element.attributeName.text), ("value", .string element.value),
    ("x", .number element.x), ("y", .number element.y), ("width", .number element.width),
    ("height", .number element.height)]

def RegionReviewAnchorV1.json (anchor : RegionReviewAnchorV1) : JsonValue :=
  .object ([("type", .string (ofAscii "REGION_V1")), ("selection", .string anchor.selection.text),
    ("x", .number anchor.x), ("y", .number anchor.y), ("width", .number anchor.width),
    ("height", .number anchor.height), ("document", anchor.document.json),
    ("viewport", anchor.viewport.json)] ++
      (anchor.element.map fun element => ("element", element.json)).toList)

end Lotur.Review
