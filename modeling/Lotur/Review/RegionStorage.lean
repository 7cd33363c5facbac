import Lotur.Review.RegionAnchor

/-! Which anchors can be read back after they have been accepted. -/
namespace Lotur.Review
open JsString

section Rounding

variable {precision value : ℚ} {limit : ℕ}

theorem roundTo_nonneg (hprecision : 0 < precision) (h : 0 ≤ value) :
    0 ≤ roundTo precision value := by
  have hround : (0 : ℤ) ≤ round (value * precision) := by
    rw [round_eq, Int.le_floor]
    have := mul_nonneg h hprecision.le
    push_cast
    linarith
  unfold roundTo
  have hcast : (0 : ℚ) ≤ round (value * precision) := by exact_mod_cast hround
  positivity

theorem roundTo_le (hprecision : 0 < precision) {bound : ℤ}
    (h : value * precision ≤ bound) : roundTo precision value ≤ bound / precision := by
  have hround : round (value * precision) ≤ bound := by
    rw [round_eq, ← Int.lt_add_one_iff, Int.floor_lt]
    push_cast
    linarith
  unfold roundTo
  gcongr

theorem roundTo_roundTo (hprecision : precision ≠ 0) (value : ℚ) :
    roundTo precision (roundTo precision value) = roundTo precision value := by
  unfold roundTo
  rw [div_mul_cancel₀ _ hprecision, round_intCast]

/-- A value rounds to nothing exactly below half a step. -/
theorem roundTo_pos_iff (hprecision : 0 < precision) :
    0 < roundTo precision value ↔ 1 / 2 ≤ value * precision := by
  have hpos : 0 < roundTo precision value ↔ 0 < round (value * precision) := by
    unfold roundTo
    rw [div_pos_iff_of_pos_right hprecision, Int.cast_pos]
  rw [hpos, round_eq, ← Int.add_one_le_iff, zero_add, Int.le_floor]
  constructor
  · intro h
    push_cast at h
    linarith
  · intro h
    push_cast
    linarith

end Rounding

/-- A coordinate that has been normalized. -/
structure Coordinate (value : ℚ) : Prop where
  nonneg : 0 ≤ value
  le_one : value ≤ 1
  rounded : roundTo regionCoordinatePrecision value = value

theorem normalizeUnitCoordinate_eq_ok {name : String} {value : Option JsonValue} {x : ℚ}
    (h : normalizeUnitCoordinate name value = .ok x) : Coordinate x := by
  unfold normalizeUnitCoordinate at h
  split at h
  · next value =>
    split_ifs at h with hbounds
    · cases h
    obtain ⟨hnonneg, hle⟩ := not_or.1 hbounds
    obtain rfl := Except.ok.inj h
    refine ⟨roundTo_nonneg (by norm_num [regionCoordinatePrecision]) (not_lt.1 hnonneg), ?_,
      roundTo_roundTo (by norm_num [regionCoordinatePrecision]) value⟩
    have hscaled : value * regionCoordinatePrecision ≤ (1000000 : ℤ) := by
      have hone := not_lt.1 hle
      unfold regionCoordinatePrecision
      push_cast
      linarith
    refine (roundTo_le (by norm_num [regionCoordinatePrecision]) hscaled).trans ?_
    norm_num [regionCoordinatePrecision]
  · cases h

theorem Coordinate.normalize {x : ℚ} (h : Coordinate x) (name : String) :
    normalizeUnitCoordinate name (some (.number x)) = .ok x := by
  have hbounds : ¬ (x < 0 ∨ 1 < x) := not_or.2 ⟨not_lt.2 h.nonneg, not_lt.2 h.le_one⟩
  simp only [normalizeUnitCoordinate, if_neg hbounds, h.rounded]

/-- A dimension that has been normalized may have been rounded to nothing. -/
structure Dimension (value : ℚ) : Prop where
  nonneg : 0 ≤ value
  le_max : value ≤ maxCaptureDimension
  rounded : roundTo 1000 value = value

theorem normalizeDimension_eq_ok {name : String} {value : Option JsonValue} {dimension : ℚ}
    (h : normalizeDimension name value = .ok dimension) :
    ∃ number, value = some (.number number) ∧ Dimension dimension ∧
      (0 < dimension ↔ 1 / 2000 ≤ number) := by
  unfold normalizeDimension at h
  split at h
  · next number =>
    split_ifs at h with hbounds
    · cases h
    obtain ⟨hpos, hle⟩ := not_or.1 hbounds
    obtain rfl := Except.ok.inj h
    refine ⟨number, rfl, ⟨roundTo_nonneg (by norm_num) (not_le.1 hpos).le, ?_,
      roundTo_roundTo (by norm_num) number⟩, ?_⟩
    · have hscaled : number * 1000 ≤ (1000000000 : ℤ) := by
        have hmax := not_lt.1 hle
        unfold maxCaptureDimension at hmax
        push_cast
        linarith
      refine (roundTo_le (by norm_num) hscaled).trans ?_
      norm_num [maxCaptureDimension]
    · rw [roundTo_pos_iff (by norm_num)]
      constructor
      · intro h
        linarith
      · intro h
        linarith
  · cases h

theorem Dimension.normalize_iff {value : ℚ} (h : Dimension value) (name : String) :
    normalizeDimension name (some (.number value)) = .ok value ↔ 0 < value := by
  simp only [normalizeDimension, h.rounded]
  constructor
  · intro hok
    split_ifs at hok with hbounds
    · cases hok
    · exact not_le.1 (not_or.1 hbounds).1
  · intro hpos
    exact if_neg (not_or.2 ⟨not_le.2 hpos, not_lt.2 h.le_max⟩)

/-- The numbers of a document or viewport as they come in. -/
def JsonValue.dimensions (value : Option JsonValue) : List ℚ :=
  match value with
  | some (.object fields) => ["width", "height"].filterMap fun name =>
      match Lotur.JsonValue.field name fields with
      | some (.number number) => some number
      | _ => none
  | _ => []

/-- The dimensions that an anchor was captured with. -/
def capturedDimensions (value : JsonValue) : List ℚ :=
  match value with
  | .object fields => ["document", "viewport"].flatMap fun name =>
      JsonValue.dimensions (Lotur.JsonValue.field name fields)
  | _ => []

def CaptureDimensions.Positive (dimensions : CaptureDimensions) : Prop :=
  0 < dimensions.width ∧ 0 < dimensions.height

theorem normalizeCaptureDimensions_eq_ok {name : String} {value : Option JsonValue}
    {dimensions : CaptureDimensions} (h : normalizeCaptureDimensions name value = .ok dimensions) :
    Dimension dimensions.width ∧ Dimension dimensions.height ∧
      (dimensions.Positive ↔ ∀ number ∈ JsonValue.dimensions value, 1 / 2000 ≤ number) := by
  obtain ⟨fields, hrecord, h⟩ := of_bind_eq_ok h
  obtain ⟨-, -, h⟩ := of_bind_eq_ok h
  obtain ⟨width, hwidth, h⟩ := of_bind_eq_ok h
  obtain ⟨height, hheight, h⟩ := of_bind_eq_ok h
  obtain rfl := Except.ok.inj h
  obtain ⟨first, hfirst, hwidth, hwide⟩ := normalizeDimension_eq_ok hwidth
  obtain ⟨second, hsecond, hheight, hhigh⟩ := normalizeDimension_eq_ok hheight
  refine ⟨hwidth, hheight, ?_⟩
  unfold requireRecord at hrecord
  split at hrecord
  · next fields =>
    obtain rfl := Except.ok.inj hrecord
    simp only [CaptureDimensions.Positive, JsonValue.dimensions, List.filterMap_cons, hfirst,
      hsecond, List.filterMap_nil, List.forall_mem_cons, List.not_mem_nil, IsEmpty.forall_iff,
      implies_true, and_true, hwide, hhigh]
  · cases hrecord

theorem normalizeCaptureDimensions_json_iff {dimensions : CaptureDimensions}
    (hwidth : Dimension dimensions.width) (hheight : Dimension dimensions.height) (name : String) :
    normalizeCaptureDimensions name (some dimensions.json) = .ok dimensions ↔
      dimensions.Positive := by
  have hunfold : normalizeCaptureDimensions name (some dimensions.json) =
      (normalizeDimension name (some (.number dimensions.width)) >>= fun width =>
        normalizeDimension name (some (.number dimensions.height)) >>= fun height =>
          .ok ⟨width, height⟩) := rfl
  rw [hunfold]
  constructor
  · intro h
    obtain ⟨width, hw, h⟩ := of_bind_eq_ok h
    obtain ⟨height, hh, h⟩ := of_bind_eq_ok h
    obtain rfl := Except.ok.inj h
    exact ⟨(hwidth.normalize_iff name).1 hw, (hheight.normalize_iff name).1 hh⟩
  · rintro ⟨hwide, hhigh⟩
    rw [(hwidth.normalize_iff name).2 hwide, (hheight.normalize_iff name).2 hhigh]
    rfl

/-- The part of an anchor, or of its element, that is checked after rounding. -/
structure Placed (selection : RegionSelection) (x y width height : ℚ) : Prop where
  left : Coordinate x
  top : Coordinate y
  wide : Coordinate width
  high : Coordinate height
  valid : ¬ invalidGeometry selection x y width height

/-- A point has no size and a rectangle has two. -/
theorem Placed.geometry {selection : RegionSelection} {x y width height : ℚ}
    (h : Placed selection x y width height) :
    x + width ≤ 1 ∧ y + height ≤ 1 ∧ (selection = .point ↔ width = 0 ∧ height = 0) := by
  have hvalid := h.valid
  simp only [invalidGeometry, not_or, not_and, not_lt, not_not] at hvalid
  obtain ⟨hpoint, hrect, hx, hy⟩ := hvalid
  refine ⟨hx, hy, hpoint, fun hzero => ?_⟩
  cases selection with
  | point => rfl
  | rect => exact absurd hzero.1 (hrect rfl).1

structure ReviewElementAnchor.Normal (selection : RegionSelection) (element : ReviewElementAnchor) :
    Prop where
  placed : Placed selection element.x element.y element.width element.height
  value : parseElementValue (some (.string element.value)) = some element.value

structure RegionReviewAnchorV1.Normal (anchor : RegionReviewAnchorV1) : Prop where
  placed : Placed anchor.selection anchor.x anchor.y anchor.width anchor.height
  document : Dimension anchor.document.width ∧ Dimension anchor.document.height
  viewport : Dimension anchor.viewport.width ∧ Dimension anchor.viewport.height
  element : ∀ element ∈ anchor.element, element.Normal anchor.selection

theorem parseElementValue_eq_some {value : Option JsonValue} {text : JsString}
    (h : parseElementValue value = some text) :
    parseElementValue (some (.string text)) = some text := by
  unfold parseElementValue at h
  split at h
  · next found =>
    split_ifs at h with hinvalid
    cases h
    exact if_neg hinvalid
  · cases h

theorem normalizeElementAnchor_eq_ok {value : Option JsonValue} {selection : RegionSelection}
    {element : ReviewElementAnchor} (h : normalizeElementAnchor value selection = .ok element) :
    element.Normal selection := by
  obtain ⟨fields, -, h⟩ := of_bind_eq_ok h
  obtain ⟨-, -, h⟩ := of_bind_eq_ok h
  split at h
  · next attributeName text _ htext =>
    obtain ⟨x, hx, h⟩ := of_bind_eq_ok h
    obtain ⟨y, hy, h⟩ := of_bind_eq_ok h
    obtain ⟨width, hwidth, h⟩ := of_bind_eq_ok h
    obtain ⟨height, hheight, h⟩ := of_bind_eq_ok h
    split_ifs at h with hvalid
    · cases h
    · obtain rfl := Except.ok.inj h
      exact ⟨⟨normalizeUnitCoordinate_eq_ok hx, normalizeUnitCoordinate_eq_ok hy,
        normalizeUnitCoordinate_eq_ok hwidth, normalizeUnitCoordinate_eq_ok hheight, hvalid⟩,
        parseElementValue_eq_some htext⟩
  · cases h

theorem normalizeElementPart_eq_ok {selection : RegionSelection} {value : Option JsonValue}
    {part : Option ReviewElementAnchor} (h : normalizeElementPart selection value = .ok part)
    {element : ReviewElementAnchor} (hmem : element ∈ part) : element.Normal selection := by
  cases value with
  | none => cases h; cases hmem
  | some value =>
    simp only [normalizeElementPart] at h
    cases helement : normalizeElementAnchor (some value) selection with
    | error _ => rw [helement] at h; cases h
    | ok found =>
      rw [helement] at h
      cases h
      cases hmem
      exact normalizeElementAnchor_eq_ok helement

/-- An accepted anchor, with the numbers its dimensions come from. -/
theorem normalizeRegionAnchor_eq_ok {value : JsonValue} {anchor : RegionReviewAnchorV1}
    (h : normalizeRegionAnchor value = .ok anchor) :
    anchor.Normal ∧ (anchor.document.Positive ∧ anchor.viewport.Positive ↔
      ∀ number ∈ capturedDimensions value, 1 / 2000 ≤ number) := by
  obtain ⟨fields, hrecord, h⟩ := of_bind_eq_ok h
  obtain ⟨-, -, h⟩ := of_bind_eq_ok h
  split_ifs at h
  · cases h
  split at h
  · cases h
  next selection _ =>
    obtain ⟨x, hx, h⟩ := of_bind_eq_ok h
    obtain ⟨y, hy, h⟩ := of_bind_eq_ok h
    obtain ⟨width, hwidth, h⟩ := of_bind_eq_ok h
    obtain ⟨height, hheight, h⟩ := of_bind_eq_ok h
    split_ifs at h with hvalid
    · cases h
    obtain ⟨document, hdocument, h⟩ := of_bind_eq_ok h
    obtain ⟨viewport, hviewport, h⟩ := of_bind_eq_ok h
    obtain ⟨hdw, hdh, hdpos⟩ := normalizeCaptureDimensions_eq_ok hdocument
    obtain ⟨hvw, hvh, hvpos⟩ := normalizeCaptureDimensions_eq_ok hviewport
    have hplaced : Placed selection x y width height :=
      ⟨normalizeUnitCoordinate_eq_ok hx, normalizeUnitCoordinate_eq_ok hy,
        normalizeUnitCoordinate_eq_ok hwidth, normalizeUnitCoordinate_eq_ok hheight, hvalid⟩
    have hcaptured : (document.Positive ∧ viewport.Positive ↔
        ∀ number ∈ capturedDimensions value, 1 / 2000 ≤ number) := by
      cases value with
      | object found =>
        obtain rfl := Except.ok.inj hrecord
        rw [hdpos, hvpos]
        simp only [capturedDimensions, List.flatMap_cons, List.flatMap_nil, List.append_nil,
          List.forall_mem_append]
      | _ => cases hrecord
    obtain ⟨element, helement, h⟩ := of_bind_eq_ok h
    obtain rfl := Except.ok.inj h
    refine ⟨⟨hplaced, ⟨hdw, hdh⟩, ⟨hvw, hvh⟩, ?_⟩, hcaptured⟩
    intro _ hmem
    exact normalizeElementPart_eq_ok helement hmem

theorem parseElementAttribute_text (attributeName : ElementAttribute) :
    parseElementAttribute (some (.string attributeName.text)) = some attributeName := by
  cases attributeName <;> decide

theorem parseSelection_text (selection : RegionSelection) :
    parseSelection (some (.string selection.text)) = some selection := by
  cases selection <;> decide

/-- The element part is always read back. -/
theorem normalizeElementAnchor_json {element : ReviewElementAnchor} {selection : RegionSelection}
    (h : element.Normal selection) :
    normalizeElementAnchor (some element.json) selection = .ok element := by
  have hread : normalizeElementAnchor (some element.json) selection = (do
      let x ← normalizeUnitCoordinate "review element x" (some (.number element.x))
      let y ← normalizeUnitCoordinate "review element y" (some (.number element.y))
      let width ← normalizeUnitCoordinate "review element width" (some (.number element.width))
      let height ← normalizeUnitCoordinate "review element height" (some (.number element.height))
      if invalidGeometry selection x y width height then
        invalidInput "review element geometry is invalid"
      else .ok { element with x, y, width, height }) := by
    have hrecord : requireRecord "review element anchor" (some element.json) = .ok
        [("attribute", .string element.attributeName.text), ("value", .string element.value),
          ("x", .number element.x), ("y", .number element.y), ("width", .number element.width),
          ("height", .number element.height)] := rfl
    unfold normalizeElementAnchor
    rw [hrecord]
    dsimp only [bind, Except.bind]
    rw [show JsonValue.field "attribute" _ = some (.string element.attributeName.text) from rfl,
      show JsonValue.field "value" _ = some (.string element.value) from rfl,
      parseElementAttribute_text, h.value]
    rfl
  rw [hread, h.placed.left.normalize, h.placed.top.normalize, h.placed.wide.normalize,
    h.placed.high.normalize]
  exact if_neg h.placed.valid

theorem normalizeElementPart_json {selection : RegionSelection}
    {part : Option ReviewElementAnchor} (h : ∀ element ∈ part, element.Normal selection) :
    normalizeElementPart selection (part.map ReviewElementAnchor.json) = .ok part := by
  cases part with
  | none => rfl
  | some element =>
    have hread := normalizeElementAnchor_json (h element rfl)
    simp only [normalizeElementPart, Option.map_some, hread]
    rfl

/-- An anchor whose coordinates are rounded passes the coordinate checks. -/
theorem normalizeRegionAnchor_of_coordinates {anchor : RegionReviewAnchorV1}
    (hx : Coordinate anchor.x) (hy : Coordinate anchor.y) (hwidth : Coordinate anchor.width)
    (hheight : Coordinate anchor.height) :
    normalizeRegionAnchor anchor.json =
      (if invalidGeometry anchor.selection anchor.x anchor.y anchor.width anchor.height then
        invalidInput "review region geometry is invalid"
      else do
        let document ← normalizeCaptureDimensions "review document" (some anchor.document.json)
        let viewport ← normalizeCaptureDimensions "review viewport" (some anchor.viewport.json)
        let element ← normalizeElementPart anchor.selection
          (anchor.element.map ReviewElementAnchor.json)
        .ok { anchor with document, viewport, element }) := by
  obtain ⟨selection, x, y, width, height, document, viewport, part⟩ := anchor
  have hread : normalizeRegionAnchor
        (RegionReviewAnchorV1.mk selection x y width height document viewport part).json = (do
      let left ← normalizeUnitCoordinate "review region x" (some (.number x))
      let top ← normalizeUnitCoordinate "review region y" (some (.number y))
      let wide ← normalizeUnitCoordinate "review region width" (some (.number width))
      let high ← normalizeUnitCoordinate "review region height" (some (.number height))
      if invalidGeometry selection left top wide high then
        invalidInput "review region geometry is invalid"
      else do
        let document ← normalizeCaptureDimensions "review document" (some document.json)
        let viewport ← normalizeCaptureDimensions "review viewport" (some viewport.json)
        let element ← normalizeElementPart selection (part.map ReviewElementAnchor.json)
        .ok ⟨selection, left, top, wide, high, document, viewport, element⟩) := by
    cases part <;> cases selection <;> rfl
  rw [hread, hx.normalize, hy.normalize, hwidth.normalize, hheight.normalize]
  rfl

/-- What is read back of an anchor depends on its two dimensions only. -/
theorem normalizeRegionAnchor_json {anchor : RegionReviewAnchorV1} (h : anchor.Normal) :
    normalizeRegionAnchor anchor.json =
      (normalizeCaptureDimensions "review document" (some anchor.document.json) >>= fun document =>
        normalizeCaptureDimensions "review viewport" (some anchor.viewport.json) >>= fun viewport =>
          .ok { anchor with document, viewport }) := by
  rw [normalizeRegionAnchor_of_coordinates h.placed.left h.placed.top h.placed.wide h.placed.high,
    normalizeElementPart_json h.element]
  exact if_neg h.placed.valid

/-- A place inside the document: it has no size exactly when it is a point. -/
def LiesWithin (selection : RegionSelection) (x y width height : ℚ) : Prop :=
  0 ≤ x ∧ 0 ≤ y ∧ 0 ≤ width ∧ 0 ≤ height ∧ x + width ≤ 1 ∧ y + height ≤ 1 ∧
    (selection = .point ↔ width = 0 ∧ height = 0)

theorem Placed.within {selection : RegionSelection} {x y width height : ℚ}
    (h : Placed selection x y width height) : LiesWithin selection x y width height :=
  ⟨h.left.nonneg, h.top.nonneg, h.wide.nonneg, h.high.nonneg, h.geometry⟩

/-- The anchor can be stored: reading it back gives the same anchor. -/
structure RegionReviewAnchorV1.Storable (anchor : RegionReviewAnchorV1) : Prop where
  stable : normalizeRegionAnchor anchor.json = .ok anchor
  region : LiesWithin anchor.selection anchor.x anchor.y anchor.width anchor.height
  element : ∀ element ∈ anchor.element,
    LiesWithin anchor.selection element.x element.y element.width element.height
  document : anchor.document.Positive
  viewport : anchor.viewport.Positive

/-- The dimensions are checked before they are rounded to thousandths, so an accepted anchor can be
stored exactly when none of them rounds to nothing. -/
theorem region_anchor_storable {value : JsonValue} {anchor : RegionReviewAnchorV1}
    (h : normalizeRegionAnchor value = .ok anchor) :
    anchor.Storable ↔ ∀ number ∈ capturedDimensions value, 1 / 2000 ≤ number := by
  obtain ⟨hnormal, hpositive⟩ := normalizeRegionAnchor_eq_ok h
  rw [← hpositive]
  constructor
  · intro hstorable
    exact ⟨hstorable.document, hstorable.viewport⟩
  · rintro ⟨hdocument, hviewport⟩
    have hstable : normalizeRegionAnchor anchor.json = .ok anchor := by
      rw [normalizeRegionAnchor_json hnormal,
        (normalizeCaptureDimensions_json_iff hnormal.document.1 hnormal.document.2 _).2 hdocument,
        (normalizeCaptureDimensions_json_iff hnormal.viewport.1 hnormal.viewport.2 _).2 hviewport]
      rfl
    exact ⟨hstable, hnormal.placed.within,
      fun element hmem => (hnormal.element element hmem).placed.within, hdocument, hviewport⟩

/-- A rectangle with the given document width. -/
def capturedRectangle (documentWidth : ℚ) : JsonValue :=
  .object [("type", .string (ofAscii "REGION_V1")), ("selection", .string (ofAscii "RECT")),
    ("x", .number (1 / 4)), ("y", .number 0), ("width", .number (1 / 2)), ("height", .number 1),
    ("document", .object [("width", .number documentWidth), ("height", .number 2000)]),
    ("viewport", .object [("width", .number 1280), ("height", .number 720)])]

def storedRectangle (documentWidth : ℚ) : RegionReviewAnchorV1 :=
  { selection := .rect, x := 1 / 4, y := 0, width := 1 / 2, height := 1,
    document := ⟨documentWidth, 2000⟩, viewport := ⟨1280, 720⟩, element := none }

theorem region_anchor_storable_page : (storedRectangle 1280).Storable := by
  have haccepted : normalizeRegionAnchor (capturedRectangle 1280) = .ok (storedRectangle 1280) := by
    decide +kernel
  exact (region_anchor_storable haccepted).2 (by decide +kernel)

/-- A document `0.0004` wide is accepted and stored with no width at all. -/
theorem accepted_region_unreadable :
    normalizeRegionAnchor (capturedRectangle (4 / 10000)) = .ok (storedRectangle 0) ∧
      normalizeRegionAnchor (storedRectangle 0).json =
        .error ⟨.invalidInput, "review document dimensions are invalid"⟩ ∧
      ¬ (storedRectangle 0).document.Positive := by
  refine ⟨by decide +kernel, by decide +kernel, ?_⟩
  rintro ⟨hwide, -⟩
  exact lt_irrefl 0 hwide

end Lotur.Review
