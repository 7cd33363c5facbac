import Lotur.Library.Base64Url
import Lotur.Library.CivilDate
import Lotur.Library.Utf8
import Lotur.Protocol.OpenHttp
import Lotur.Review.Model

/-! The cursor of a page of comments or replies and its text, from `packages/review/src/model.ts`. -/
namespace Lotur.Review
open JsString OpenHttp

section Text

/-- A number in decimal digits, with leading zeros. -/
def padded : ℕ → ℕ → JsString
  | 0, _ => []
  | width + 1, n => padded width (n / 10) ++ [0x30 + (n % 10).toUInt16]

def isDecimal (unit : UInt16) : Bool := 0x30 ≤ unit && unit ≤ 0x39

def readNumber (width : ℕ) (text : JsString) : Option (ℕ × JsString) :=
  let digits := text.take width
  if digits.length = width ∧ digits.all isDecimal = true then
    some (digits.foldl (fun n unit => 10 * n + (unit.toNat - 0x30)) 0, text.drop width)
  else none

def readUnit (unit : UInt16) : JsString → Option JsString
  | first :: rest => if first = unit then some rest else none
  | [] => none

/-- The texts of `JSON.parse`: the rest of a string behind its quotation mark. -/
def escaped (unit : UInt16) : Option UInt16 :=
  if unit = 0x22 ∨ unit = 0x5c ∨ unit = 0x2f then some unit
  else if unit = 0x62 then some 0x08
  else if unit = 0x66 then some 0x0c
  else if unit = 0x6e then some 0x0a
  else if unit = 0x72 then some 0x0d
  else if unit = 0x74 then some 0x09
  else none

def hexValue (unit : UInt16) : Option ℕ :=
  if 0x30 ≤ unit ∧ unit ≤ 0x39 then some (unit.toNat - 0x30)
  else if 0x41 ≤ unit ∧ unit ≤ 0x46 then some (unit.toNat - 0x37)
  else if 0x61 ≤ unit ∧ unit ≤ 0x66 then some (unit.toNat - 0x57)
  else none

def hexUnit (digits : JsString) : Option UInt16 :=
  (digits.mapM hexValue).map fun values => (values.foldl (fun n d => 16 * n + d) 0).toUInt16

def readString : JsString → Option (JsString × JsString)
  | [] => none
  | 0x22 :: rest => some ([], rest)
  | 0x5c :: 0x75 :: a :: b :: c :: d :: rest => do
    let unit ← hexUnit [a, b, c, d]
    let (text, rest) ← readString rest
    return (unit :: text, rest)
  | 0x5c :: escape :: rest => do
    let unit ← escaped escape
    let (text, rest) ← readString rest
    return (unit :: text, rest)
  | unit :: rest => do
    if unit < 0x20 ∨ unit = 0x5c then none
    let (text, rest) ← readString rest
    return (unit :: text, rest)

def skipSpace (text : JsString) : JsString :=
  text.dropWhile fun unit => unit = 0x20 || unit = 0x09 || unit = 0x0a || unit = 0x0d

def readItem (text : JsString) : Option (JsString × JsString) :=
  (readUnit 0x22 (skipSpace text)).bind readString

/-- The items of an array and the text behind it; `fuel` bounds their number. -/
def readItems : ℕ → JsString → Option (List JsString × JsString)
  | 0, _ => none
  | fuel + 1, text => do
    let (item, rest) ← readItem text
    match skipSpace rest with
    | 0x2c :: rest =>
      let (items, rest) ← readItems fuel rest
      return (item :: items, rest)
    | 0x5d :: rest => return ([item], rest)
    | _ => none

/-- `JSON.parse` of an array of strings. The callers refuse every other value, as they do a text that
is no JSON. -/
def parseTexts (text : JsString) : Option (List JsString) := do
  let inside ← readUnit 0x5b (skipSpace text)
  match readUnit 0x5d (skipSpace inside) with
  | some rest => if skipSpace rest = [] then some [] else none
  | none =>
    let (items, rest) ← readItems inside.length inside
    if skipSpace rest = [] then some items else none

end Text

section Dates

/-- The time values a `Date` can hold. -/
def isTimeValue (time : ℤ) : Bool := -8640000000000000 ≤ time && time ≤ 8640000000000000

def yearText (year : ℤ) : JsString :=
  if 0 ≤ year ∧ year ≤ 9999 then padded 4 year.toNat
  else (if year < 0 then 0x2d else 0x2b) :: padded 6 year.natAbs

/-- The fields behind the year: the unit before each and its width. -/
def dateFields : List (UInt16 × ℕ) :=
  [(0x2d, 2), (0x2d, 2), (0x54, 2), (0x3a, 2), (0x3a, 2), (0x2e, 3)]

def writeFields : List (UInt16 × ℕ) → List ℕ → JsString
  | (mark, width) :: fields, n :: values => mark :: padded width n ++ writeFields fields values
  | _, _ => []

def toISOString (time : ℤ) : JsString :=
  let date := CivilDate.ofDays (time / 86400000)
  let clock := (time % 86400000).toNat
  yearText date.year ++ writeFields dateFields [date.month.toNat, date.day.toNat, clock / 3600000,
    clock / 60000 % 60, clock / 1000 % 60, clock % 1000] ++ [0x5a]

def readFields : List (UInt16 × ℕ) → JsString → Option (List ℕ × JsString)
  | [], text => some ([], text)
  | (mark, width) :: fields, text => do
    let (n, rest) ← readNumber width (← readUnit mark text)
    let (values, rest) ← readFields fields rest
    return (n :: values, rest)

def readYear : JsString → Option (ℤ × JsString)
  | [] => none
  | first :: rest =>
    if first = 0x2b then (readNumber 6 rest).map fun (year, rest) => ((year : ℤ), rest)
    else if first = 0x2d then (readNumber 6 rest).map fun (year, rest) => (-(year : ℤ), rest)
    else (readNumber 4 (first :: rest)).map fun (year, rest) => ((year : ℤ), rest)

/-- The time value of a date and a clock time that are in their bounds. -/
def timeOf (year : ℤ) : List ℕ → Option ℤ
  | [month, day, hour, minute, second, millisecond] =>
    let time := CivilDate.toDays ⟨year, month, day⟩ * 86400000 +
      (hour * 3600000 + minute * 60000 + second * 1000 + millisecond : ℕ)
    if 1 ≤ month ∧ month ≤ 12 ∧ 1 ≤ day ∧ day ≤ 31 ∧ hour ≤ 23 ∧ minute ≤ 59 ∧ second ≤ 59 ∧
        isTimeValue time = true then some time
    else none
  | _ => none

/-- `new Date(text).getTime()` for the format of `toISOString`. The callers refuse every text that
`toISOString` does not write. -/
def parseDate (text : JsString) : Option ℤ := do
  let (year, text) ← readYear text
  let (fields, text) ← readFields dateFields text
  if text = [0x5a] then timeOf year fields else none

end Dates

structure ReviewPageCursor where
  createdAt : ℤ
  id : JsString
  scope : Option JsString
  deriving DecidableEq, Repr

def isOpaqueReviewId (value : JsString) : Bool :=
  value.length ≠ 0 && value.length ≤ 128 && value.all Base64Url.isDigit

def normalizeOpaqueReviewId (value : JsString) (name : String) : Except ReviewError JsString :=
  if isOpaqueReviewId value then .ok value else .error ⟨.invalidInput, name ++ " is invalid"⟩

def isScope (scope : JsString) : Bool :=
  scope.length = 64 && scope.all fun unit => isDecimal unit || (0x61 ≤ unit && unit ≤ 0x66)

def encodeReviewPageCursor (value : ReviewPageCursor) : Except ReviewError JsString := do
  let id ← normalizeOpaqueReviewId value.id "review page cursor id"
  if isTimeValue value.createdAt = false then
    .error ⟨.invalidInput, "review page cursor timestamp is invalid"⟩
  else if value.scope.any (fun scope => !isScope scope) = true then
    .error ⟨.invalidInput, "review page cursor scope is invalid"⟩
  else .ok (Base64Url.encode (encodeText (jsonArray
    ((toISOString value.createdAt :: id :: value.scope.toList).map quoteJsonString))))

def invalidCursor : ReviewError := ⟨.invalidInput, "review page cursor is invalid"⟩

def isCursorText (value : JsString) : Bool :=
  1 ≤ value.length && value.length ≤ 384 && value.all Base64Url.isDigit

/-- The fields of the cursor: two or three texts, the third of them a scope. -/
def cursorFields : List JsString → Option (JsString × JsString × Option JsString)
  | [time, id] => some (time, id, none)
  | [time, id, scope] => if isScope scope then some (time, id, some scope) else none
  | _ => none

def normalizeReviewPageCursor : Option JsString → Except ReviewError (Option ReviewPageCursor)
  | none => .ok none
  | some value => do
    if isCursorText value = false then .error invalidCursor else
    let decoded := Base64Url.decode value
    if Base64Url.encode decoded ≠ value then .error invalidCursor else
    match (parseTexts (Utf8.decode decoded)).bind cursorFields with
    | none => .error invalidCursor
    | some (time, text, scope) =>
      match parseDate time with
      | none => .error invalidCursor
      | some createdAt =>
        if toISOString createdAt ≠ time then .error invalidCursor else
        let id ← normalizeOpaqueReviewId text "review page cursor id"
        let cursor : ReviewPageCursor := ⟨createdAt, id, scope⟩
        let encoded ← encodeReviewPageCursor cursor
        if encoded ≠ value then .error invalidCursor else .ok (some cursor)

section Numbers

theorem length_padded (width n : ℕ) : (padded width n).length = width := by
  induction width generalizing n with
  | zero => rfl
  | succ width ih => rw [padded, List.length_append, ih, List.length_singleton]

theorem decimal_digit (n : ℕ) : (0x30 + (n % 10).toUInt16).toNat = 0x30 + n % 10 := by
  have hlt : n % 10 < 10 := Nat.mod_lt n (by norm_num)
  interval_cases n % 10 <;> rfl

theorem isDecimal_digit (n : ℕ) : isDecimal (0x30 + (n % 10).toUInt16) = true := by
  have hlt : n % 10 < 10 := Nat.mod_lt n (by norm_num)
  interval_cases n % 10 <;> rfl

theorem isDecimal_padded (width n : ℕ) : (padded width n).all isDecimal = true := by
  induction width generalizing n with
  | zero => rfl
  | succ width ih => rw [padded, List.all_append, ih, List.all_cons, isDecimal_digit]; rfl

theorem readNumber_padded {width n : ℕ} (h : n < 10 ^ width) (rest : JsString) :
    readNumber width (padded width n ++ rest) = some (n, rest) := by
  have hvalue : ∀ width n, n < 10 ^ width →
      (padded width n).foldl (fun n unit => 10 * n + (unit.toNat - 0x30)) 0 = n := by
    intro width
    induction width with
    | zero =>
      intro n hn
      rw [pow_zero] at hn
      exact (Nat.lt_one_iff.1 hn).symm
    | succ width ih =>
      intro n hn
      have hdiv : n / 10 < 10 ^ width := by
        rw [Nat.div_lt_iff_lt_mul (by norm_num)]
        exact hn
      rw [padded, List.foldl_append, ih _ hdiv, List.foldl_cons, List.foldl_nil, decimal_digit]
      omega
  unfold readNumber
  rw [List.take_left' (length_padded width n), List.drop_left' (length_padded width n)]
  rw [if_pos ⟨length_padded width n, isDecimal_padded width n⟩, hvalue width n h]

end Numbers

section Instants

theorem readUnit_self (unit : UInt16) (rest : JsString) : readUnit unit (unit :: rest) = some rest :=
  if_pos rfl

/-- The year of a time value has six digits at most. -/
theorem year_bounds {time : ℤ} (h : isTimeValue time = true) :
    -999999 ≤ (CivilDate.ofDays (time / 86400000)).year ∧
      (CivilDate.ofDays (time / 86400000)).year ≤ 999999 := by
  unfold isTimeValue at h
  rw [Bool.and_eq_true, decide_eq_true_eq, decide_eq_true_eq] at h
  have hday : -100000000 ≤ time / 86400000 ∧ time / 86400000 ≤ 100000000 := by omega
  have hyear := CivilDate.year_near (time / 86400000)
  unfold CivilDate.epoch CivilDate.eraDays at hyear
  omega

theorem readYear_yearText {year : ℤ} (hlow : -999999 ≤ year) (hhigh : year ≤ 999999)
    (rest : JsString) : readYear (yearText year ++ rest) = some (year, rest) := by
  unfold yearText
  split_ifs with hshort hneg
  · have hread : readNumber 4 (padded 4 year.toNat ++ rest) = some (year.toNat, rest) :=
      readNumber_padded (by omega) rest
    obtain ⟨first, others, heq⟩ : ∃ first others, padded 4 year.toNat = first :: others :=
      List.exists_cons_of_length_eq_add_one (length_padded 4 year.toNat)
    have hfirst : isDecimal first = true := by
      have hall := isDecimal_padded 4 year.toNat
      rw [heq, List.all_cons, Bool.and_eq_true] at hall
      exact hall.1
    have hplus : first ≠ 0x2b := by rintro rfl; revert hfirst; decide
    have hminus : first ≠ 0x2d := by rintro rfl; revert hfirst; decide
    rw [heq, List.cons_append] at hread ⊢
    rw [readYear, if_neg hplus, if_neg hminus, hread, Option.map_some]
    simp only [Int.toNat_of_nonneg hshort.1]
  · rw [List.cons_append, readYear, if_neg (by decide), if_pos rfl,
      readNumber_padded (by omega) rest, Option.map_some]
    simp only [Option.some.injEq, Prod.mk.injEq, and_true]
    omega
  · rw [List.cons_append, readYear, if_pos rfl, readNumber_padded (by omega) rest,
      Option.map_some]
    simp only [Option.some.injEq, Prod.mk.injEq, and_true]
    omega

theorem readFields_writeFields {fields : List (UInt16 × ℕ)} {values : List ℕ}
    (h : List.Forall₂ (fun field n => n < 10 ^ field.2) fields values) (rest : JsString) :
    readFields fields (writeFields fields values ++ rest) = some (values, rest) := by
  induction h with
  | nil => rfl
  | @cons field n fields values hlt _ ih =>
    rw [writeFields, List.append_assoc, List.cons_append, readFields, readUnit_self,
      Option.bind_eq_bind, Option.bind_some, readNumber_padded hlt, Option.bind_eq_bind,
      Option.bind_some]
    dsimp only
    rw [ih]
    rfl

theorem timeOf_clock {year : ℤ} {month day clock : ℕ} (hmonth : 1 ≤ month ∧ month ≤ 12)
    (hday : 1 ≤ day ∧ day ≤ 31) (hclock : clock < 86400000)
    (htime : isTimeValue (CivilDate.toDays ⟨year, month, day⟩ * 86400000 + clock) = true) :
    timeOf year [month, day, clock / 3600000, clock / 60000 % 60, clock / 1000 % 60,
      clock % 1000] = some (CivilDate.toDays ⟨year, month, day⟩ * 86400000 + clock) := by
  have hparts : clock / 3600000 * 3600000 + clock / 60000 % 60 * 60000 +
      clock / 1000 % 60 * 1000 + clock % 1000 = clock := by omega
  have hbounds : clock / 3600000 ≤ 23 ∧ clock / 60000 % 60 ≤ 59 ∧ clock / 1000 % 60 ≤ 59 := by
    omega
  unfold timeOf
  dsimp only
  rw [hparts, if_pos ⟨hmonth.1, hmonth.2, hday.1, hday.2, hbounds.1, hbounds.2.1, hbounds.2.2,
    htime⟩]

theorem parseDate_toISOString {time : ℤ} (h : isTimeValue time = true) :
    parseDate (toISOString time) = some time := by
  obtain ⟨hlow, hhigh⟩ := year_bounds h
  obtain ⟨hmonth, hmonth', hday, hday'⟩ := CivilDate.ofDays_bounds (time / 86400000)
  have hdays := CivilDate.toDays_ofDays (time / 86400000)
  obtain ⟨clock, hclock⟩ := Int.eq_ofNat_of_zero_le (Int.emod_nonneg time (b := 86400000) (by decide))
  have hclockLt : clock < 86400000 := by omega
  have htime : time / 86400000 * 86400000 + clock = time := by omega
  unfold toISOString parseDate
  rw [hclock]
  generalize CivilDate.ofDays (time / 86400000) = date at *
  obtain ⟨month, hmonthEq⟩ := Int.eq_ofNat_of_zero_le (show 0 ≤ date.month by omega)
  obtain ⟨day, hdayEq⟩ := Int.eq_ofNat_of_zero_le (show 0 ≤ date.day by omega)
  have hdate : CivilDate.toDays ⟨date.year, month, day⟩ * 86400000 + clock = time := by
    rw [← hmonthEq, ← hdayEq, hdays]
    exact htime
  have hfields : List.Forall₂ (fun field n => n < 10 ^ field.2) dateFields [month, day,
      clock / 3600000, clock / 60000 % 60, clock / 1000 % 60, clock % 1000] := by
    unfold dateFields
    simp only [List.forall₂_cons, List.Forall₂.nil, and_true]
    omega
  dsimp only
  rw [hmonthEq, hdayEq, Int.toNat_natCast, Int.toNat_natCast, Int.toNat_natCast, List.append_assoc,
    readYear_yearText hlow hhigh, Option.bind_eq_bind, Option.bind_some]
  rw [readFields_writeFields hfields, Option.bind_eq_bind, Option.bind_some]
  dsimp only
  rw [if_pos rfl, timeOf_clock (by omega) (by omega) hclockLt (by rw [hdate]; exact h), hdate]

theorem length_toISOString (time : ℤ) : (toISOString time).length ≤ 27 := by
  have hyear : ∀ year, (yearText year).length ≤ 7 := by
    intro year
    unfold yearText
    split_ifs
    · rw [length_padded]
      norm_num
    · rw [List.length_cons, length_padded]
    · rw [List.length_cons, length_padded]
  have hlength := hyear (CivilDate.ofDays (time / 86400000)).year
  unfold toISOString dateFields
  simp only [writeFields, List.length_append, List.length_cons, length_padded, List.length_nil]
  omega

end Instants

section Quoted

/-- A unit that `JSON.stringify` and UTF-8 leave as it is. -/
def isPlain (unit : UInt16) : Bool := 0x20 ≤ unit && unit < 0x80 && unit ≠ 0x22 && unit ≠ 0x5c

theorem isPlain_of_decimal {unit : UInt16} (h : isDecimal unit = true) : isPlain unit = true := by
  unfold isDecimal at h
  unfold isPlain
  simp only [Bool.and_eq_true, decide_eq_true_eq, UInt16.le_iff_toNat_le, UInt16.lt_iff_toNat_lt,
    ne_eq, ← UInt16.toNat_inj, UInt16.reduceToNat] at h ⊢
  omega

theorem isPlain_of_digit {unit : UInt16} (h : Base64Url.isDigit unit = true) :
    isPlain unit = true := by
  unfold Base64Url.isDigit at h
  unfold isPlain
  simp only [Bool.and_eq_true, Bool.or_eq_true, decide_eq_true_eq, UInt16.le_iff_toNat_le,
    UInt16.lt_iff_toNat_lt, ne_eq, ← UInt16.toNat_inj, UInt16.reduceToNat] at h ⊢
  omega

theorem isPlain_padded (width n : ℕ) : (padded width n).all isPlain = true := by
  rw [List.all_eq_true]
  intro unit hunit
  exact isPlain_of_decimal (List.all_eq_true.1 (isDecimal_padded width n) unit hunit)

theorem isPlain_toISOString (time : ℤ) : (toISOString time).all isPlain = true := by
  have hyear : ∀ year, (yearText year).all isPlain = true := by
    intro year
    unfold yearText
    split_ifs
    · exact isPlain_padded _ _
    · rw [List.all_cons, isPlain_padded]
      rfl
    · rw [List.all_cons, isPlain_padded]
      rfl
  unfold toISOString dateFields
  simp only [writeFields, List.all_append, List.all_cons, List.all_nil, hyear, isPlain_padded]
  decide

theorem isPlain_scope {scope : JsString} (h : isScope scope = true) : scope.all isPlain = true := by
  unfold isScope at h
  rw [Bool.and_eq_true] at h
  rw [List.all_eq_true] at h ⊢
  intro unit hunit
  have hhex := h.2 unit hunit
  unfold isDecimal at hhex
  unfold isPlain
  simp only [Bool.and_eq_true, Bool.or_eq_true, decide_eq_true_eq, UInt16.le_iff_toNat_le,
    UInt16.lt_iff_toNat_lt, ne_eq, ← UInt16.toNat_inj, UInt16.reduceToNat] at hhex ⊢
  omega

theorem isPlain_iff {unit : UInt16} : isPlain unit = true ↔
    0x20 ≤ unit.toNat ∧ unit.toNat < 0x80 ∧ unit ≠ 0x22 ∧ unit ≠ 0x5c := by
  unfold isPlain
  simp only [Bool.and_eq_true, decide_eq_true_eq, UInt16.le_iff_toNat_le, UInt16.lt_iff_toNat_lt,
    UInt16.reduceToNat, ne_eq, and_assoc]

theorem surrogate_ascii {unit : UInt16} (h : unit.toNat < 0x80) :
    isLeadingSurrogate unit = false ∧ isTrailingSurrogate unit = false := by
  unfold isLeadingSurrogate isTrailingSurrogate
  simp only [Bool.and_eq_false_iff, decide_eq_false_iff_not, UInt16.le_iff_toNat_le,
    UInt16.reduceToNat]
  omega

theorem quoteUnit_plain {unit : UInt16} (h : isPlain unit = true) : quoteUnit unit = [unit] := by
  obtain ⟨hlow, hhigh, hquote, hescape⟩ := isPlain_iff.1 h
  obtain ⟨hleading, htrailing⟩ := surrogate_ascii hhigh
  have hne : ∀ control : UInt16, control.toNat < 0x20 → unit ≠ control := by
    rintro control hcontrol rfl
    omega
  have hlt : ¬ unit < 0x20 := by
    rw [UInt16.lt_iff_toNat_lt]
    exact hlow.not_gt
  unfold quoteUnit
  rw [if_neg (hne _ (by decide)), if_neg (hne _ (by decide)), if_neg (hne _ (by decide)),
    if_neg (hne _ (by decide)), if_neg (hne _ (by decide)), if_neg hquote, if_neg hescape,
    hleading, htrailing, decide_eq_false hlt]
  rfl

theorem quoteUnits_plain {text : JsString} (h : text.all isPlain = true) :
    quoteUnits text = text := by
  induction text using quoteUnits.induct with
  | case1 => rfl
  | case2 unit =>
    rw [List.all_cons, Bool.and_eq_true] at h
    exact quoteUnit_plain h.1
  | case3 high low rest hpair =>
    rw [List.all_cons, Bool.and_eq_true] at h
    rw [(surrogate_ascii (isPlain_iff.1 h.1).2.1).1] at hpair
    cases hpair
  | case4 high low rest hpair ih =>
    rw [List.all_cons, Bool.and_eq_true] at h
    rw [quoteUnits, if_neg hpair, quoteUnit_plain h.1, ih h.2]
    rfl

theorem encodeUnit_ascii {unit : UInt16} (h : unit.toNat < 0x80) :
    encodeUnit unit = [unit.toUInt8] := by
  obtain ⟨hleading, htrailing⟩ := surrogate_ascii h
  unfold encodeUnit
  rw [hleading, htrailing, Bool.or_self, if_neg Bool.false_ne_true]
  unfold encodeScalar
  rw [if_pos h]
  rfl

theorem encodeText_ascii {text : JsString} (h : ∀ unit ∈ text, unit.toNat < 0x80) :
    encodeText text = text.map UInt16.toUInt8 := by
  induction text using encodeText.induct with
  | case1 => rfl
  | case2 unit => exact encodeUnit_ascii (h unit List.mem_cons_self)
  | case3 high low rest hpair =>
    rw [(surrogate_ascii (h high List.mem_cons_self)).1] at hpair
    cases hpair
  | case4 high low rest hpair ih =>
    rw [List.forall_mem_cons] at h
    rw [encodeText, if_neg hpair, encodeUnit_ascii h.1, ih h.2]
    rfl

theorem readString_plain {text : JsString} (h : text.all isPlain = true) (rest : JsString) :
    readString (text ++ 0x22 :: rest) = some (text, rest) := by
  induction text with
  | nil => rfl
  | cons unit text ih =>
    rw [List.all_cons, Bool.and_eq_true] at h
    obtain ⟨hlow, -, hquote, hescape⟩ := isPlain_iff.1 h.1
    have hlt : ¬ unit < 0x20 := by
      rw [UInt16.lt_iff_toNat_lt]
      exact hlow.not_gt
    rw [List.cons_append, readString, ih h.2]
    · simp [hlt, hescape]
    · exact hquote
    · intro a b c d rest heq
      exact absurd heq hescape
    · intro escape rest heq
      exact absurd heq hescape

theorem quoteJsonString_plain {text : JsString} (h : text.all isPlain = true) :
    quoteJsonString text = 0x22 :: text ++ [0x22] := by
  unfold quoteJsonString
  rw [quoteUnits_plain h]

theorem readItem_plain {item : JsString} (h : item.all isPlain = true) (rest : JsString) :
    readItem (0x22 :: (item ++ 0x22 :: rest)) = some (item, rest) :=
  readString_plain h rest

theorem readItems_plain {items : List JsString} (hsome : items ≠ [])
    (h : ∀ item ∈ items, item.all isPlain = true) {fuel : ℕ} (hfuel : items.length ≤ fuel)
    (rest : JsString) :
    readItems fuel (join [0x2c] (items.map quoteJsonString) ++ 0x5d :: rest) =
      some (items, rest) := by
  unfold join
  induction items generalizing fuel with
  | nil => exact absurd rfl hsome
  | cons item items ih =>
    obtain ⟨fuel, rfl⟩ := Nat.exists_eq_succ_of_ne_zero (Nat.ne_of_gt (Nat.zero_lt_of_lt hfuel))
    rw [List.forall_mem_cons] at h
    have hquoted := quoteJsonString_plain h.1
    cases items with
    | nil =>
      have hjoin : List.intercalate [0x2c] ([item].map quoteJsonString) ++ 0x5d :: rest =
          0x22 :: (item ++ 0x22 :: 0x5d :: rest) := by
        rw [List.map_singleton, List.intercalate_singleton, hquoted]
        simp
      rw [hjoin, readItems, readItem_plain h.1]
      rfl
    | cons second items =>
      have hjoin : List.intercalate [0x2c] ((item :: second :: items).map quoteJsonString) ++
          0x5d :: rest = 0x22 :: (item ++ 0x22 :: 0x2c ::
            (List.intercalate [0x2c] ((second :: items).map quoteJsonString) ++ 0x5d :: rest)) := by
        rw [List.map_cons, List.map_cons, List.intercalate_cons_cons, hquoted]
        simp
      have hrest := ih (List.cons_ne_nil second items) h.2 (Nat.le_of_succ_le_succ hfuel)
      rw [hjoin, readItems, readItem_plain h.1, Option.bind_eq_bind, Option.bind_some]
      have hcomma : ∀ text, skipSpace (0x2c :: text) = 0x2c :: text := fun _ => rfl
      dsimp only
      rw [hcomma]
      change (readItems fuel _ >>= fun read => some (item :: read.1, read.2)) = _
      rw [hrest]
      rfl

theorem length_le_join (items : List JsString) :
    items.length ≤ (join [0x2c] (items.map quoteJsonString)).length := by
  unfold join
  induction items with
  | nil => exact Nat.zero_le _
  | cons item items ih =>
    cases items with
    | nil => simp [quoteJsonString]
    | cons second items =>
      rw [List.map_cons, List.map_cons, List.intercalate_cons_cons, List.length_append,
        List.length_append, List.length_singleton, List.length_cons]
      rw [List.map_cons] at ih
      omega

theorem ascii_join {items : List JsString} (h : ∀ item ∈ items, item.all isPlain = true) :
    ∀ unit ∈ join [0x2c] (items.map quoteJsonString), unit.toNat < 0x80 := by
  have hquoted : ∀ item, item.all isPlain = true → ∀ unit ∈ quoteJsonString item,
      unit.toNat < 0x80 := by
    intro item hitem unit hunit
    rw [quoteJsonString_plain hitem, List.cons_append, List.mem_cons, List.mem_append,
      List.mem_singleton] at hunit
    rcases hunit with rfl | hunit | rfl
    · decide
    · exact (isPlain_iff.1 (List.all_eq_true.1 hitem unit hunit)).2.1
    · decide
  unfold join
  induction items with
  | nil => exact fun _ hunit => absurd hunit List.not_mem_nil
  | cons item items ih =>
    rw [List.forall_mem_cons] at h
    cases items with
    | nil =>
      rw [List.map_singleton, List.intercalate_singleton]
      exact hquoted item h.1
    | cons second items =>
      intro unit hunit
      rw [List.map_cons, List.map_cons, List.intercalate_cons_cons, List.mem_append,
        List.mem_append, List.mem_singleton] at hunit
      rcases hunit with (hunit | rfl) | hunit
      · exact hquoted item h.1 unit hunit
      · decide
      · exact ih h.2 unit hunit

theorem parseTexts_plain {first : JsString} {items : List JsString}
    (h : ∀ item ∈ first :: items, item.all isPlain = true) :
    parseTexts (jsonArray ((first :: items).map quoteJsonString)) = some (first :: items) := by
  have hstart : ∃ rest, join [0x2c] ((first :: items).map quoteJsonString) ++ [0x5d] =
      0x22 :: rest := by
    unfold join
    cases items with
    | nil =>
      rw [List.map_singleton, List.intercalate_singleton]
      exact ⟨_, rfl⟩
    | cons second items =>
      rw [List.map_cons, List.map_cons, List.intercalate_cons_cons]
      exact ⟨_, rfl⟩
  obtain ⟨rest, hrest⟩ := hstart
  have hfuel : (first :: items).length ≤ (0x22 :: rest).length := by
    rw [← hrest, List.length_append]
    exact (length_le_join (first :: items)).trans (Nat.le_add_right _ _)
  have hitems := readItems_plain (List.cons_ne_nil first items) h hfuel []
  rw [hrest] at hitems
  have harray : jsonArray ((first :: items).map quoteJsonString) = 0x5b :: 0x22 :: rest := by
    unfold jsonArray
    rw [List.cons_append, hrest]
  have hinside : readUnit 0x5b (skipSpace (0x5b :: 0x22 :: rest)) = some (0x22 :: rest) := rfl
  have hnonempty : readUnit 0x5d (skipSpace (0x22 :: rest)) = none := rfl
  rw [harray, parseTexts, hinside, Option.bind_eq_bind, Option.bind_some]
  dsimp only
  rw [hnonempty]
  dsimp only
  rw [hitems]
  rfl

end Quoted

/-- A cursor that can be encoded. -/
structure ReviewPageCursor.Valid (cursor : ReviewPageCursor) : Prop where
  id : isOpaqueReviewId cursor.id = true
  time : isTimeValue cursor.createdAt = true
  scope : ∀ scope, cursor.scope = some scope → isScope scope = true

def ReviewPageCursor.texts (cursor : ReviewPageCursor) : List JsString :=
  toISOString cursor.createdAt :: cursor.id :: cursor.scope.toList

/-- The bytes of the JSON text of a cursor. -/
def ReviewPageCursor.bytes (cursor : ReviewPageCursor) : List UInt8 :=
  encodeText (jsonArray (cursor.texts.map quoteJsonString))

section Cursors
variable {cursor : ReviewPageCursor}

theorem encodeReviewPageCursor_eq_ok {text : JsString} :
    encodeReviewPageCursor cursor = .ok text ↔
      cursor.Valid ∧ text = Base64Url.encode cursor.bytes := by
  constructor
  · intro h
    unfold encodeReviewPageCursor normalizeOpaqueReviewId at h
    by_cases hid : isOpaqueReviewId cursor.id = true
    · rw [if_pos hid] at h
      change (if isTimeValue cursor.createdAt = false then _ else _) = _ at h
      split_ifs at h with htime hscope
      refine ⟨⟨hid, Bool.not_eq_false _ ▸ htime, fun scope hsome => ?_⟩, (Except.ok.inj h).symm⟩
      rw [hsome, Option.any_some, Bool.not_eq_true', Bool.not_eq_false] at hscope
      exact hscope
    · rw [if_neg hid] at h
      cases h
  · rintro ⟨hvalid, rfl⟩
    have hscope : cursor.scope.any (fun scope => !isScope scope) = false := by
      cases hsome : cursor.scope with
      | none => rfl
      | some scope => rw [Option.any_some, hvalid.scope scope hsome]; rfl
    unfold encodeReviewPageCursor normalizeOpaqueReviewId
    rw [if_pos hvalid.id]
    change (if isTimeValue cursor.createdAt = false then _ else _) = _
    rw [if_neg (by rw [hvalid.time]; decide), if_neg (by rw [hscope]; decide)]
    rfl

theorem ReviewPageCursor.Valid.plain (h : cursor.Valid) :
    ∀ text ∈ cursor.texts, text.all isPlain = true := by
  unfold ReviewPageCursor.texts
  rw [List.forall_mem_cons, List.forall_mem_cons]
  refine ⟨isPlain_toISOString _, ?_, fun scope hscope => ?_⟩
  · have hid := h.id
    unfold isOpaqueReviewId at hid
    rw [Bool.and_eq_true] at hid
    rw [List.all_eq_true] at hid ⊢
    exact fun unit hunit => isPlain_of_digit (hid.2 unit hunit)
  · exact isPlain_scope (h.scope scope (Option.mem_toList.1 hscope))

theorem ReviewPageCursor.Valid.ascii (h : cursor.Valid) :
    ∀ unit ∈ jsonArray (cursor.texts.map quoteJsonString), unit.toNat < 0x80 := by
  intro unit hunit
  unfold jsonArray at hunit
  rw [List.cons_append, List.mem_cons, List.mem_append, List.mem_singleton] at hunit
  rcases hunit with rfl | hunit | rfl
  · decide
  · exact ascii_join h.plain unit hunit
  · decide

theorem ReviewPageCursor.Valid.parse (h : cursor.Valid) :
    parseTexts (Utf8.decode cursor.bytes) = some cursor.texts := by
  unfold ReviewPageCursor.bytes
  rw [encodeText_ascii h.ascii, Utf8.decode_ascii h.ascii]
  exact parseTexts_plain h.plain

theorem ReviewPageCursor.Valid.length (h : cursor.Valid) : cursor.bytes.length ≤ 229 := by
  have hquoted : ∀ text ∈ cursor.texts, (quoteJsonString text).length = text.length + 2 := by
    intro text htext
    rw [quoteJsonString_plain (h.plain text htext), List.length_append, List.length_cons,
      List.length_singleton]
  have htime := length_toISOString cursor.createdAt
  have hid : cursor.id.length ≤ 128 := by
    have hid := h.id
    unfold isOpaqueReviewId at hid
    rw [Bool.and_eq_true, Bool.and_eq_true] at hid
    exact of_decide_eq_true hid.1.2
  unfold ReviewPageCursor.bytes
  rw [encodeText_ascii h.ascii, List.length_map]
  unfold jsonArray join
  unfold ReviewPageCursor.texts at *
  rw [List.forall_mem_cons, List.forall_mem_cons] at hquoted
  cases hscope : cursor.scope with
  | none =>
    simp only [Option.toList_none, List.map_cons, List.map_nil, List.intercalate_cons_cons,
      List.intercalate_singleton, List.length_append, List.length_cons, List.length_nil,
      hquoted.1, hquoted.2.1]
    omega
  | some scope =>
    have hlength : scope.length = 64 := by
      have hvalid := h.scope scope hscope
      unfold isScope at hvalid
      rw [Bool.and_eq_true] at hvalid
      exact of_decide_eq_true hvalid.1
    rw [hscope] at hquoted
    have hthird := hquoted.2.2 scope (Option.mem_toList.2 rfl)
    simp only [Option.toList_some, List.map_cons, List.map_nil, List.intercalate_cons_cons,
      List.intercalate_singleton, List.length_append, List.length_cons, List.length_nil,
      hquoted.1, hquoted.2.1, hthird]
    omega

theorem ReviewPageCursor.Valid.isCursorText (h : cursor.Valid) :
    isCursorText (Base64Url.encode cursor.bytes) = true := by
  have hpos : 1 ≤ cursor.bytes.length := by
    unfold ReviewPageCursor.bytes
    rw [encodeText_ascii h.ascii, List.length_map]
    exact Nat.le_add_left 1 _
  have hlength := h.length
  unfold Review.isCursorText
  rw [Bool.and_eq_true, Bool.and_eq_true, decide_eq_true_eq, decide_eq_true_eq,
    Base64Url.length_encode, List.all_eq_true]
  refine ⟨by omega, Base64Url.isDigit_of_mem_encode cursor.bytes⟩

theorem ReviewPageCursor.Valid.fields (h : cursor.Valid) :
    cursorFields cursor.texts = some (toISOString cursor.createdAt, cursor.id, cursor.scope) := by
  unfold ReviewPageCursor.texts
  cases hscope : cursor.scope with
  | none => rfl
  | some scope => exact if_pos (h.scope scope hscope)

/-- A cursor comes back from its text as it was. -/
theorem normalize_encodeReviewPageCursor {text : JsString}
    (h : encodeReviewPageCursor cursor = .ok text) :
    normalizeReviewPageCursor (some text) = .ok (some cursor) := by
  have hencode := h
  obtain ⟨hvalid, rfl⟩ := encodeReviewPageCursor_eq_ok.1 h
  have hid : normalizeOpaqueReviewId cursor.id "review page cursor id" = .ok cursor.id :=
    if_pos hvalid.id
  unfold normalizeReviewPageCursor
  dsimp only
  rw [if_neg (by rw [hvalid.isCursorText]; decide), Base64Url.decode_encode,
    if_neg (not_not.2 rfl), hvalid.parse, Option.bind_some, hvalid.fields]
  dsimp only
  rw [parseDate_toISOString hvalid.time]
  dsimp only
  rw [if_neg (not_not.2 rfl), hid]
  change (encodeReviewPageCursor cursor >>= fun encoded => _) = _
  rw [hencode]
  exact if_neg (not_not.2 rfl)

end Cursors

end Lotur.Review
