import Lotur.Review.RegionStorage

/-! The anchors that the review interface makes out of a pointer selection. Numbers are exact. -/
namespace Lotur.Review

/-- What the window reports about the page that is shown. -/
structure ReviewPage where
  documentScrollWidth : ℚ
  documentScrollHeight : ℚ
  bodyScrollWidth : Option ℚ
  bodyScrollHeight : Option ℚ
  innerWidth : ℚ
  innerHeight : ℚ

structure PageScroll where
  scrollX : ℚ
  scrollY : ℚ

structure DocumentGeometry where
  width : ℚ
  height : ℚ
  viewportWidth : ℚ
  viewportHeight : ℚ

structure DocumentPoint where
  x : ℚ
  y : ℚ
  clientX : ℚ
  clientY : ℚ
  geometry : DocumentGeometry

def documentGeometry (page : ReviewPage) : DocumentGeometry :=
  { width := max page.documentScrollWidth (max (page.bodyScrollWidth.getD 0) page.innerWidth)
    height := max page.documentScrollHeight (max (page.bodyScrollHeight.getD 0) page.innerHeight)
    viewportWidth := page.innerWidth
    viewportHeight := page.innerHeight }

def canonicalCoordinate (value : ℚ) : ℚ := roundTo 1000000 value

def documentPoint (page : ReviewPage) (scroll : PageScroll) (clientX clientY : ℚ) :
    DocumentPoint :=
  let geometry := documentGeometry page
  { x := max 0 (min geometry.width (clientX + scroll.scrollX))
    y := max 0 (min geometry.height (clientY + scroll.scrollY))
    clientX, clientY, geometry }

/-- `Math.hypot(dx, dy) >= 6`. -/
def dragged (start finish : DocumentPoint) : Bool :=
  36 ≤ (finish.clientX - start.clientX) ^ 2 + (finish.clientY - start.clientY) ^ 2

/-- `element` is what `elementAnchorFromSelection` finds on the page. -/
def anchorFromSelection (start finish : DocumentPoint) (element : Option ReviewElementAnchor) :
    RegionReviewAnchorV1 :=
  let geometry := finish.geometry
  if dragged start finish = false then
    { selection := .point
      x := canonicalCoordinate (finish.x / geometry.width)
      y := canonicalCoordinate (finish.y / geometry.height)
      width := 0
      height := 0
      document := ⟨geometry.width, geometry.height⟩
      viewport := ⟨geometry.viewportWidth, geometry.viewportHeight⟩
      element }
  else
    let left := min start.x finish.x
    let top := min start.y finish.y
    let right := max start.x finish.x
    let bottom := max start.y finish.y
    { selection := .rect
      x := canonicalCoordinate (left / geometry.width)
      y := canonicalCoordinate (top / geometry.height)
      width := canonicalCoordinate ((right - left) / geometry.width)
      height := canonicalCoordinate ((bottom - top) / geometry.height)
      document := ⟨geometry.width, geometry.height⟩
      viewport := ⟨geometry.viewportWidth, geometry.viewportHeight⟩
      element }

/-- Two numbers rounded apart exceed a whole bound only when they reach it and both are halves. -/
theorem lt_round_add_round_iff {a b : ℚ} {bound : ℤ} (h : a + b ≤ bound) :
    bound < round a + round b ↔ a + b = bound ∧ Int.fract a = 1 / 2 := by
  rw [round_eq, round_eq]
  have ha := Int.floor_le (a + 1 / 2)
  have hb := Int.floor_le (b + 1 / 2)
  constructor
  · intro hlt
    have hle : (bound : ℚ) + 1 ≤ ⌊a + 1 / 2⌋ + ⌊b + 1 / 2⌋ := by exact_mod_cast hlt
    refine ⟨by linarith, Int.fract_eq_iff.2 ⟨by norm_num, by norm_num, ⌊a + 1 / 2⌋ - 1, ?_⟩⟩
    push_cast
    linarith
  · rintro ⟨hsum, hhalf⟩
    obtain ⟨-, -, z, hz⟩ := Int.fract_eq_iff.1 hhalf
    have hfirst : a + 1 / 2 = (z + 1 : ℤ) := by
      push_cast
      linarith
    have hsecond : b + 1 / 2 = (bound - z : ℤ) := by
      push_cast
      linarith
    rw [hfirst, hsecond, Int.floor_intCast, Int.floor_intCast]
    omega

/-- A selection from `near` to `far` reaches the far edge, and `near` falls halfway between two
steps. -/
def splitsStep (extent near far : ℚ) : Prop :=
  far = extent ∧ Int.fract (near / extent * 1000000) = 1 / 2

section Extent

variable {extent near far : ℚ}

/-- The two rounded sides overrun the page exactly in that case. -/
theorem one_lt_canonicalCoordinate_add_iff (hextent : 0 < extent) (hfar : far ≤ extent) :
    1 < canonicalCoordinate (near / extent) + canonicalCoordinate ((far - near) / extent) ↔
      splitsStep extent near far := by
  have hscaled : near / extent * 1000000 + (far - near) / extent * 1000000 =
      far / extent * 1000000 := by
    field_simp
    ring
  have hbound : near / extent * 1000000 + (far - near) / extent * 1000000 ≤ (1000000 : ℤ) := by
    have hone : far / extent ≤ 1 := (div_le_one hextent).2 hfar
    rw [hscaled]
    push_cast
    linarith
  have hreach : near / extent * 1000000 + (far - near) / extent * 1000000 = (1000000 : ℤ) ↔
      far = extent := by
    rw [hscaled, ← div_eq_one_iff_eq hextent.ne']
    push_cast
    constructor
    · intro h
      linarith
    · intro h
      rw [h, one_mul]
  unfold splitsStep
  rw [← hreach, ← lt_round_add_round_iff hbound]
  unfold canonicalCoordinate roundTo
  rw [← add_div, lt_div_iff₀ (by norm_num), one_mul]
  norm_cast

theorem canonicalCoordinate_coordinate (hextent : 0 < extent) (hnonneg : 0 ≤ near)
    (hle : near ≤ extent) : Coordinate (canonicalCoordinate (near / extent)) := by
  have hbounds : ¬ (near / extent < 0 ∨ 1 < near / extent) :=
    not_or.2 ⟨not_lt.2 (div_nonneg hnonneg hextent.le), not_lt.2 ((div_le_one hextent).2 hle)⟩
  have hok : normalizeUnitCoordinate "" (some (.number (near / extent))) =
      .ok (canonicalCoordinate (near / extent)) := if_neg hbounds
  exact normalizeUnitCoordinate_eq_ok hok

end Extent

def CaptureDimensions.Capturable (dimensions : CaptureDimensions) : Prop :=
  0 < dimensions.width ∧ dimensions.width ≤ maxCaptureDimension ∧
    0 < dimensions.height ∧ dimensions.height ≤ maxCaptureDimension

theorem normalizeDimension_isOk_iff (name : String) (value : ℚ) :
    (∃ result, normalizeDimension name (some (.number value)) = .ok result) ↔
      0 < value ∧ value ≤ maxCaptureDimension := by
  constructor
  · rintro ⟨result, h⟩
    simp only [normalizeDimension] at h
    split_ifs at h with hbounds
    · cases h
    obtain ⟨hpos, hle⟩ := not_or.1 hbounds
    exact ⟨not_le.1 hpos, not_lt.1 hle⟩
  · rintro ⟨hpos, hle⟩
    exact ⟨_, if_neg (not_or.2 ⟨not_le.2 hpos, not_lt.2 hle⟩)⟩

theorem normalizeCaptureDimensions_isOk_iff (name : String) (dimensions : CaptureDimensions) :
    (∃ result, normalizeCaptureDimensions name (some dimensions.json) = .ok result) ↔
      dimensions.Capturable := by
  have hwidth := normalizeDimension_isOk_iff name dimensions.width
  have hheight := normalizeDimension_isOk_iff name dimensions.height
  have hunfold : normalizeCaptureDimensions name (some dimensions.json) =
      (normalizeDimension name (some (.number dimensions.width)) >>= fun width =>
        normalizeDimension name (some (.number dimensions.height)) >>= fun height =>
          .ok ⟨width, height⟩) := rfl
  rw [hunfold]
  constructor
  · rintro ⟨result, h⟩
    obtain ⟨first, hfirst, h⟩ := of_bind_eq_ok h
    obtain ⟨second, hsecond, -⟩ := of_bind_eq_ok h
    obtain ⟨hw, hwle⟩ := hwidth.1 ⟨first, hfirst⟩
    obtain ⟨hh, hhle⟩ := hheight.1 ⟨second, hsecond⟩
    exact ⟨hw, hwle, hh, hhle⟩
  · rintro ⟨hw, hwle, hh, hhle⟩
    obtain ⟨first, hfirst⟩ := hwidth.2 ⟨hw, hwle⟩
    obtain ⟨second, hsecond⟩ := hheight.2 ⟨hh, hhle⟩
    refine ⟨⟨first, second⟩, ?_⟩
    rw [hfirst, hsecond]
    rfl

/-- The server takes the anchor. -/
def RegionReviewAnchorV1.Accepted (anchor : RegionReviewAnchorV1) : Prop :=
  ∃ stored, normalizeRegionAnchor anchor.json = .ok stored

theorem accepted_iff_of_coordinates {anchor : RegionReviewAnchorV1} (hx : Coordinate anchor.x)
    (hy : Coordinate anchor.y) (hwidth : Coordinate anchor.width)
    (hheight : Coordinate anchor.height) (helement : anchor.element = none) :
    anchor.Accepted ↔
      ¬ invalidGeometry anchor.selection anchor.x anchor.y anchor.width anchor.height ∧
        anchor.document.Capturable ∧ anchor.viewport.Capturable := by
  unfold RegionReviewAnchorV1.Accepted
  rw [normalizeRegionAnchor_of_coordinates hx hy hwidth hheight,
    ← normalizeCaptureDimensions_isOk_iff "review document",
    ← normalizeCaptureDimensions_isOk_iff "review viewport", helement]
  by_cases hinvalid :
      invalidGeometry anchor.selection anchor.x anchor.y anchor.width anchor.height
  · rw [if_pos hinvalid]
    constructor
    · rintro ⟨_, h⟩
      cases h
    · rintro ⟨hvalid, -⟩
      exact absurd hinvalid hvalid
  · rw [if_neg hinvalid]
    constructor
    · rintro ⟨_, h⟩
      obtain ⟨document, hdocument, h⟩ := of_bind_eq_ok h
      obtain ⟨viewport, hviewport, -⟩ := of_bind_eq_ok h
      exact ⟨hinvalid, ⟨document, hdocument⟩, ⟨viewport, hviewport⟩⟩
    · rintro ⟨-, ⟨document, hdocument⟩, ⟨viewport, hviewport⟩⟩
      rw [hdocument, hviewport]
      exact ⟨_, rfl⟩

/-- A page between one and a million units wide and high. -/
structure DocumentGeometry.Bounded (geometry : DocumentGeometry) : Prop where
  one_le_width : 1 ≤ geometry.width
  width_le : geometry.width ≤ 1000000
  one_le_height : 1 ≤ geometry.height
  height_le : geometry.height ≤ 1000000

theorem documentGeometry_capturable (page : ReviewPage) (h : (documentGeometry page).Bounded) :
    CaptureDimensions.Capturable
      ⟨(documentGeometry page).width, (documentGeometry page).height⟩ ∧
    (CaptureDimensions.Capturable
        ⟨(documentGeometry page).viewportWidth, (documentGeometry page).viewportHeight⟩ ↔
      0 < page.innerWidth ∧ 0 < page.innerHeight) := by
  have hwidth : page.innerWidth ≤ (documentGeometry page).width :=
    (le_max_right _ _).trans (le_max_right _ _)
  have hheight : page.innerHeight ≤ (documentGeometry page).height :=
    (le_max_right _ _).trans (le_max_right _ _)
  refine ⟨⟨one_pos.trans_le h.one_le_width, h.width_le, one_pos.trans_le h.one_le_height,
    h.height_le⟩, ?_⟩
  constructor
  · rintro ⟨hw, -, hh, -⟩
    exact ⟨hw, hh⟩
  · rintro ⟨hw, hh⟩
    exact ⟨hw, hwidth.trans h.width_le, hh, hheight.trans h.height_le⟩

/-- A position is clamped into the page. -/
structure DocumentPoint.Inside (point : DocumentPoint) : Prop where
  x_nonneg : 0 ≤ point.x
  x_le : point.x ≤ point.geometry.width
  y_nonneg : 0 ≤ point.y
  y_le : point.y ≤ point.geometry.height

theorem documentPoint_inside {page : ReviewPage} (h : (documentGeometry page).Bounded)
    (scroll : PageScroll) (clientX clientY : ℚ) :
    (documentPoint page scroll clientX clientY).Inside where
  x_nonneg := le_max_left _ _
  x_le := max_le (zero_le_one.trans h.one_le_width) (min_le_left _ _)
  y_nonneg := le_max_left _ _
  y_le := max_le (zero_le_one.trans h.one_le_height) (min_le_left _ _)

section Selection

variable {page : ReviewPage} {start finish : DocumentPoint}

/-- A pinned point stays on the page. -/
theorem point_accepted_iff (hbounded : (documentGeometry page).Bounded)
    (hgeometry : finish.geometry = documentGeometry page) (hfinish : finish.Inside)
    (hpoint : dragged start finish = false) :
    (anchorFromSelection start finish none).Accepted ↔
      0 < page.innerWidth ∧ 0 < page.innerHeight := by
  have hwidth : 0 < finish.geometry.width := hgeometry ▸ one_pos.trans_le hbounded.one_le_width
  have hheight : 0 < finish.geometry.height := hgeometry ▸ one_pos.trans_le hbounded.one_le_height
  have hx := canonicalCoordinate_coordinate hwidth hfinish.x_nonneg hfinish.x_le
  have hy := canonicalCoordinate_coordinate hheight hfinish.y_nonneg hfinish.y_le
  have hzero : Coordinate 0 := ⟨le_rfl, zero_le_one, by norm_num [roundTo]⟩
  have hvalid : ¬ invalidGeometry .point (canonicalCoordinate (finish.x / finish.geometry.width))
      (canonicalCoordinate (finish.y / finish.geometry.height)) 0 0 := by
    simp only [invalidGeometry, ne_eq, not_true_eq_false, or_self, and_false, reduceCtorEq,
      false_and, add_zero, false_or, not_or, not_lt]
    exact ⟨hx.le_one, hy.le_one⟩
  obtain ⟨hdocument, hviewport⟩ := documentGeometry_capturable page hbounded
  unfold anchorFromSelection
  rw [if_pos hpoint, accepted_iff_of_coordinates hx hy hzero hzero rfl]
  dsimp only
  rw [← hviewport, hgeometry] at *
  constructor
  · rintro ⟨-, -, h⟩
    exact h
  · intro h
    exact ⟨hvalid, hdocument, h⟩

/-- A rectangle stays on the page unless a side that reaches the far edge starts halfway between
two steps. -/
theorem rect_accepted_iff (hbounded : (documentGeometry page).Bounded)
    (hsame : start.geometry = documentGeometry page)
    (hgeometry : finish.geometry = documentGeometry page) (hstart : start.Inside)
    (hfinish : finish.Inside) (hrect : dragged start finish = true)
    (hsized : (anchorFromSelection start finish none).width ≠ 0 ∧
      (anchorFromSelection start finish none).height ≠ 0) :
    (anchorFromSelection start finish none).Accepted ↔
      (0 < page.innerWidth ∧ 0 < page.innerHeight) ∧
        ¬ splitsStep (documentGeometry page).width (min start.x finish.x) (max start.x finish.x) ∧
        ¬ splitsStep (documentGeometry page).height (min start.y finish.y)
          (max start.y finish.y) := by
  have hwidth : 0 < (documentGeometry page).width := one_pos.trans_le hbounded.one_le_width
  have hheight : 0 < (documentGeometry page).height := one_pos.trans_le hbounded.one_le_height
  obtain ⟨hsx, hsxle, hsy, hsyle⟩ := hstart
  obtain ⟨hfx, hfxle, hfy, hfyle⟩ := hfinish
  rw [hsame] at hsxle hsyle
  rw [hgeometry] at hfxle hfyle
  have hright := max_le hsxle hfxle
  have hbottom := max_le hsyle hfyle
  have hwide := sub_nonneg.2 (min_le_max (a := start.x) (b := finish.x))
  have hhigh := sub_nonneg.2 (min_le_max (a := start.y) (b := finish.y))
  have hleft : 0 ≤ min start.x finish.x := le_min hsx hfx
  have htop : 0 ≤ min start.y finish.y := le_min hsy hfy
  have hx := canonicalCoordinate_coordinate hwidth hleft ((min_le_left _ _).trans hsxle)
  have hy := canonicalCoordinate_coordinate hheight htop ((min_le_left _ _).trans hsyle)
  have hw := canonicalCoordinate_coordinate hwidth hwide ((sub_le_self _ hleft).trans hright)
  have hh := canonicalCoordinate_coordinate hheight hhigh ((sub_le_self _ htop).trans hbottom)
  obtain ⟨hdocument, hviewport⟩ := documentGeometry_capturable page hbounded
  rw [← one_lt_canonicalCoordinate_add_iff hwidth hright,
    ← one_lt_canonicalCoordinate_add_iff hheight hbottom, ← hviewport]
  unfold anchorFromSelection at hsized ⊢
  have hdragged : ¬ dragged start finish = false := by
    rw [hrect]
    exact Bool.noConfusion
  rw [if_neg hdragged, hgeometry] at hsized ⊢
  rw [accepted_iff_of_coordinates hx hy hw hh rfl]
  dsimp only at hsized ⊢
  simp only [invalidGeometry, reduceCtorEq, false_and, false_or, true_and, not_or]
  constructor
  · rintro ⟨⟨-, hxok, hyok⟩, -, hview⟩
    exact ⟨hview, hxok, hyok⟩
  · rintro ⟨hview, hxok, hyok⟩
    exact ⟨⟨hsized, hxok, hyok⟩, hdocument, hview⟩

end Selection

/-- The server takes what is selected on a page, unless the left edge and the width, which are
rounded apart, add up to more than the page. -/
theorem region_selection_accepted (page : ReviewPage) (hbounded : (documentGeometry page).Bounded)
    (before after : PageScroll) (fromX fromY toX toY : ℚ) :
    let start := documentPoint page before fromX fromY
    let finish := documentPoint page after toX toY
    let anchor := anchorFromSelection start finish none
    (dragged start finish = true → anchor.width ≠ 0 ∧ anchor.height ≠ 0) →
      (anchor.Accepted ↔ (0 < page.innerWidth ∧ 0 < page.innerHeight) ∧
        (dragged start finish = true →
          ¬ splitsStep (documentGeometry page).width (min start.x finish.x)
            (max start.x finish.x) ∧
          ¬ splitsStep (documentGeometry page).height (min start.y finish.y)
            (max start.y finish.y))) := by
  intro start finish anchor hsized
  have hstart : start.Inside := documentPoint_inside hbounded before fromX fromY
  have hfinish : finish.Inside := documentPoint_inside hbounded after toX toY
  cases hdragged : dragged start finish with
  | false =>
    have hpoint : anchor.Accepted ↔ 0 < page.innerWidth ∧ 0 < page.innerHeight :=
      point_accepted_iff hbounded rfl hfinish hdragged
    rw [hpoint]
    simp only [Bool.false_eq_true, IsEmpty.forall_iff, and_true]
  | true =>
    rw [show anchor.Accepted ↔ _ from
      rect_accepted_iff hbounded rfl rfl hstart hfinish hdragged (hsized hdragged)]
    simp only [forall_const]

/-- A page 1280 wide in a window of the same width, without scroll bars. -/
def widePage : ReviewPage :=
  { documentScrollWidth := 1280, documentScrollHeight := 2000, bodyScrollWidth := some 1280
    bodyScrollHeight := some 2000, innerWidth := 1280, innerHeight := 720 }

/-- A drag on that page from `(2, 10)`. -/
def wideDrag (toX toY : ℚ) : RegionReviewAnchorV1 :=
  anchorFromSelection (documentPoint widePage ⟨0, 0⟩ 2 10) (documentPoint widePage ⟨0, 0⟩ toX toY)
    none

theorem widePage_bounded : (documentGeometry widePage).Bounded :=
  ⟨by decide +kernel, by decide +kernel, by decide +kernel, by decide +kernel⟩

theorem region_selection_accepted_inner : (wideDrag 640 700).Accepted := by
  have hsized : (wideDrag 640 700).width ≠ 0 ∧ (wideDrag 640 700).height ≠ 0 := by decide +kernel
  refine (region_selection_accepted widePage widePage_bounded ⟨0, 0⟩ ⟨0, 0⟩ 2 10 640 700
    fun _ => hsized).2 ⟨by decide +kernel, fun _ => ⟨?_, ?_⟩⟩
  · rintro ⟨hreach, -⟩
    revert hreach
    decide +kernel
  · rintro ⟨hreach, -⟩
    revert hreach
    decide +kernel

/-- Dragged to the right edge, the same rectangle is refused. -/
theorem far_edge_selection_refused :
    dragged (documentPoint widePage ⟨0, 0⟩ 2 10) (documentPoint widePage ⟨0, 0⟩ 1280 700) = true ∧
      (wideDrag 1280 700).width ≠ 0 ∧ (wideDrag 1280 700).height ≠ 0 ∧
      ¬ (wideDrag 1280 700).Accepted := by
  refine ⟨by decide +kernel, by decide +kernel, by decide +kernel, ?_⟩
  rintro ⟨stored, h⟩
  have hrefused : normalizeRegionAnchor (wideDrag 1280 700).json =
      .error ⟨.invalidInput, "review region geometry is invalid"⟩ := by decide +kernel
  rw [hrefused] at h
  cases h

end Lotur.Review
