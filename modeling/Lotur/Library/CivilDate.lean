import Mathlib.Tactic

/-! Dates of the proleptic Gregorian calendar and the number of days since 1970-01-01. Years are
counted from March, so that the day of a leap year is the last one. -/
namespace CivilDate

structure Date where
  year : ℤ
  month : ℤ
  day : ℤ
  deriving DecidableEq, Repr

/-- Days from 0000-03-01 to 1970-01-01, and the days of 400 years. -/
def epoch : ℤ := 719468
def eraDays : ℤ := 146097

def century (dayOfEra : ℤ) : ℤ := min (dayOfEra / 36524) 3
def cycle (dayOfEra : ℤ) : ℤ := (dayOfEra - 36524 * century dayOfEra) / 1461
def dayOfCycle (dayOfEra : ℤ) : ℤ :=
  dayOfEra - 36524 * century dayOfEra - 1461 * cycle dayOfEra
def yearOfCycle (dayOfEra : ℤ) : ℤ := min (dayOfCycle dayOfEra / 365) 3
def yearOfEra (dayOfEra : ℤ) : ℤ :=
  100 * century dayOfEra + 4 * cycle dayOfEra + yearOfCycle dayOfEra
def dayOfYear (dayOfEra : ℤ) : ℤ := dayOfCycle dayOfEra - 365 * yearOfCycle dayOfEra

/-- The date in a year and a month counted from March. -/
def ofMarch (year month day : ℤ) : Date :=
  if month < 10 then ⟨year, month + 3, day⟩ else ⟨year + 1, month - 9, day⟩

def Date.marchYear (date : Date) : ℤ := if date.month ≤ 2 then date.year - 1 else date.year
def Date.marchMonth (date : Date) : ℤ :=
  if date.month ≤ 2 then date.month + 9 else date.month - 3

def ofDays (days : ℤ) : Date :=
  let dayOfEra := (days + epoch) % eraDays
  let month := (5 * dayOfYear dayOfEra + 2) / 153
  ofMarch (yearOfEra dayOfEra + 400 * ((days + epoch) / eraDays)) month
    (dayOfYear dayOfEra - (153 * month + 2) / 5 + 1)

def toDays (date : Date) : ℤ :=
  let yearOfEra := date.marchYear % 400
  let dayOfYear := (153 * date.marchMonth + 2) / 5 + date.day - 1
  eraDays * (date.marchYear / 400) +
    (365 * yearOfEra + yearOfEra / 4 - yearOfEra / 100 + dayOfYear) - epoch

theorem ofMarch_march {year month day : ℤ} (hlow : 0 ≤ month) (hhigh : month ≤ 11) :
    (ofMarch year month day).marchYear = year ∧ (ofMarch year month day).marchMonth = month ∧
      (ofMarch year month day).day = day ∧ 1 ≤ (ofMarch year month day).month ∧
      (ofMarch year month day).month ≤ 12 := by
  unfold ofMarch Date.marchYear Date.marchMonth
  split_ifs with hlate hspring hspring <;> dsimp only at * <;> omega

section Era
variable {dayOfEra : ℤ}

theorem century_bounds (hlow : 0 ≤ dayOfEra) (hhigh : dayOfEra < eraDays) :
    0 ≤ century dayOfEra ∧ century dayOfEra ≤ 3 ∧ 36524 * century dayOfEra ≤ dayOfEra ∧
      (dayOfEra < 36524 * century dayOfEra + 36524 ∨
        century dayOfEra = 3 ∧ dayOfEra ≤ 36524 * 3 + 36524) := by
  unfold century
  unfold eraDays at hhigh
  omega

theorem cycle_bounds (hlow : 0 ≤ dayOfEra) (hhigh : dayOfEra < eraDays) :
    0 ≤ cycle dayOfEra ∧ cycle dayOfEra ≤ 24 ∧ 0 ≤ dayOfCycle dayOfEra ∧
      dayOfCycle dayOfEra ≤ 1460 := by
  obtain ⟨_, _, hstart, hend⟩ := century_bounds hlow hhigh
  unfold dayOfCycle cycle
  omega

theorem yearOfEra_bounds (hlow : 0 ≤ dayOfEra) (hhigh : dayOfEra < eraDays) :
    0 ≤ yearOfEra dayOfEra ∧ yearOfEra dayOfEra < 400 ∧
      yearOfEra dayOfEra / 4 = 25 * century dayOfEra + cycle dayOfEra ∧
      yearOfEra dayOfEra / 100 = century dayOfEra := by
  obtain ⟨hcentury, hcentury', _, _⟩ := century_bounds hlow hhigh
  obtain ⟨hcycle, hcycle', hday, hday'⟩ := cycle_bounds hlow hhigh
  have hyear : 0 ≤ yearOfCycle dayOfEra ∧ yearOfCycle dayOfEra ≤ 3 := by
    unfold yearOfCycle
    omega
  unfold yearOfEra
  omega

theorem dayOfYear_bounds (hlow : 0 ≤ dayOfEra) (hhigh : dayOfEra < eraDays) :
    0 ≤ dayOfYear dayOfEra ∧ dayOfYear dayOfEra ≤ 365 := by
  obtain ⟨-, -, hday, hday'⟩ := cycle_bounds hlow hhigh
  unfold dayOfYear yearOfCycle
  omega

/-- The days before a year of the era, and the day of that year. -/
theorem dayOfEra_eq (hlow : 0 ≤ dayOfEra) (hhigh : dayOfEra < eraDays) :
    365 * yearOfEra dayOfEra + yearOfEra dayOfEra / 4 - yearOfEra dayOfEra / 100 +
      dayOfYear dayOfEra = dayOfEra := by
  obtain ⟨-, -, hquarter, hcentury⟩ := yearOfEra_bounds hlow hhigh
  rw [hquarter, hcentury]
  unfold dayOfYear yearOfEra dayOfCycle
  ring

end Era

theorem eraDays_pos : (0 : ℤ) < eraDays := by decide

theorem month_bounds {dayOfYear : ℤ} (h : 0 ≤ dayOfYear ∧ dayOfYear ≤ 365) :
    0 ≤ (5 * dayOfYear + 2) / 153 ∧ (5 * dayOfYear + 2) / 153 ≤ 11 := by
  omega

theorem ofDays_bounds (days : ℤ) : 1 ≤ (ofDays days).month ∧ (ofDays days).month ≤ 12 ∧
    1 ≤ (ofDays days).day ∧ (ofDays days).day ≤ 31 := by
  have hday := dayOfYear_bounds (Int.emod_nonneg (days + epoch) eraDays_pos.ne')
    (Int.emod_lt_of_pos (days + epoch) eraDays_pos)
  have hmonth := month_bounds hday
  unfold ofDays
  obtain ⟨-, -, hdate, hlow, hhigh⟩ := ofMarch_march hmonth.1 hmonth.2
  refine ⟨hlow, hhigh, ?_⟩
  rw [hdate]
  omega

/-- The year is one of the era, or the first of the next. -/
theorem year_near (days : ℤ) : 400 * ((days + epoch) / eraDays) ≤ (ofDays days).year ∧
    (ofDays days).year ≤ 400 * ((days + epoch) / eraDays) + 400 := by
  have hlow := Int.emod_nonneg (days + epoch) eraDays_pos.ne'
  have hhigh := Int.emod_lt_of_pos (days + epoch) eraDays_pos
  obtain ⟨hyear, hyear', -, -⟩ := yearOfEra_bounds hlow hhigh
  unfold ofDays ofMarch
  dsimp only
  split_ifs <;> dsimp only <;> omega

theorem toDays_ofDays (days : ℤ) : toDays (ofDays days) = days := by
  have hlow : 0 ≤ (days + epoch) % eraDays := Int.emod_nonneg _ eraDays_pos.ne'
  have hhigh : (days + epoch) % eraDays < eraDays := Int.emod_lt_of_pos _ eraDays_pos
  have hdays : eraDays * ((days + epoch) / eraDays) + (days + epoch) % eraDays = days + epoch :=
    Int.mul_ediv_add_emod (days + epoch) eraDays
  have hyear := yearOfEra_bounds hlow hhigh
  have hmonth := month_bounds (dayOfYear_bounds hlow hhigh)
  have heq := dayOfEra_eq hlow hhigh
  unfold ofDays toDays
  obtain ⟨hmarchYear, hmarchMonth, hdate, -, -⟩ := ofMarch_march hmonth.1 hmonth.2
  dsimp only
  rw [hmarchYear, hmarchMonth, hdate, Int.add_mul_ediv_left _ _ (by norm_num),
    Int.add_mul_emod_self_left, Int.ediv_eq_zero_of_lt hyear.1 hyear.2.1,
    Int.emod_eq_of_lt hyear.1 hyear.2.1]
  linarith

end CivilDate
