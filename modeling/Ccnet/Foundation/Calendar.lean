import Mathlib.Algebra.Group.Int.Defs

namespace Ccnet.Calendar

/-! The proleptic Gregorian calendar, with astronomical years. -/

def IsLeap (year : Int) : Prop :=
  year % 4 = 0 ∧ (year % 100 ≠ 0 ∨ year % 400 = 0)

instance (year : Int) : Decidable (IsLeap year) := inferInstanceAs (Decidable (_ ∧ _))

def leapDay (year : Int) : Int := if IsLeap year then 1 else 0

def monthLength (year month : Int) : Int :=
  if month = 2 then 28 + leapDay year
  else if month = 4 ∨ month = 6 ∨ month = 9 ∨ month = 11 then 30
  else 31

@[ext] structure Date where
  year : Int
  month : Int
  day : Int
  month_pos : 1 ≤ month
  month_le : month ≤ 12
  day_pos : 1 ≤ day
  day_le : day ≤ monthLength year month
  deriving DecidableEq

theorem leapDay_bounds (year : Int) : 0 ≤ leapDay year ∧ leapDay year ≤ 1 := by
  unfold leapDay
  split <;> omega

theorem monthLength_bounds (year month : Int) :
    1 ≤ monthLength year month ∧ monthLength year month ≤ 31 := by
  have leap := leapDay_bounds year
  unfold monthLength
  split
  · omega
  · split <;> omega

namespace Date

/-- The day after. -/
def next (date : Date) : Date :=
  if inMonth : date.day < monthLength date.year date.month then
    { date with
      day := date.day + 1
      day_pos := by
        have positive := date.day_pos
        omega
      day_le := by omega }
  else if inYear : date.month < 12 then
    { year := date.year
      month := date.month + 1
      day := 1
      month_pos := by
        have positive := date.month_pos
        omega
      month_le := by omega
      day_pos := by omega
      day_le := (monthLength_bounds _ _).1 }
  else
    { year := date.year + 1
      month := 1
      day := 1
      month_pos := by omega
      month_le := by omega
      day_pos := by omega
      day_le := (monthLength_bounds _ _).1 }

end Date

/-! ## Counting days -/

/-- The days from the first of January of the year 1 to that of the given year. -/
def daysBeforeYear (year : Int) : Int :=
  365 * (year - 1) + (year - 1) / 4 - (year - 1) / 100 + (year - 1) / 400

/-- The days of the first months of a year. -/
def daysInMonths (year : Int) : Nat → Int
  | 0 => 0
  | months + 1 => daysInMonths year months + monthLength year (months + 1)

/-- The days since the first of January. -/
def Date.dayOfYear (date : Date) : Int :=
  daysInMonths date.year (date.month - 1).toNat + date.day - 1

/-- The days since the first of January of the year 1. -/
def Date.ordinal (date : Date) : Int :=
  daysBeforeYear date.year + date.dayOfYear

/-- The leap day of a year counted with the years before. -/
theorem daysBeforeYear_add_leapDay (year : Int) :
    daysBeforeYear year + leapDay year =
      365 * (year - 1) + year / 4 - year / 100 + year / 400 := by
  unfold daysBeforeYear leapDay
  split
  · rename_i leap
    unfold IsLeap at leap
    omega
  · rename_i common
    unfold IsLeap at common
    omega

theorem daysBeforeYear_succ (year : Int) :
    daysBeforeYear (year + 1) = daysBeforeYear year + 365 + leapDay year := by
  have leap := daysBeforeYear_add_leapDay year
  rw [daysBeforeYear, daysBeforeYear] at *
  omega

theorem daysBeforeYear_mono {year later : Int} (before : year ≤ later) :
    daysBeforeYear year ≤ daysBeforeYear later := by
  unfold daysBeforeYear
  omega

theorem daysInMonths_twelve (year : Int) : daysInMonths year 12 = 365 + leapDay year := by
  simp [daysInMonths, monthLength]
  omega

theorem daysInMonths_mono (year : Int) {months more : Nat} (fewer : months ≤ more) :
    daysInMonths year months ≤ daysInMonths year more := by
  induction fewer with
  | refl => exact Int.le_refl _
  | @step more _ induction =>
      have positive := (monthLength_bounds year (more + 1)).1
      rw [daysInMonths]
      omega

namespace Date

theorem dayOfYear_nonneg (date : Date) : 0 ≤ date.dayOfYear := by
  have earlier := daysInMonths_mono date.year (Nat.zero_le (date.month - 1).toNat)
  have positive := date.day_pos
  rw [daysInMonths] at earlier
  unfold dayOfYear
  omega

/-- The days up to the end of a date's month. -/
theorem daysInMonths_month (date : Date) :
    daysInMonths date.year date.month.toNat =
      daysInMonths date.year (date.month - 1).toNat + monthLength date.year date.month := by
  have positive := date.month_pos
  have months : date.month.toNat = (date.month - 1).toNat + 1 := by omega
  have month : ((date.month - 1).toNat : Int) + 1 = date.month := by omega
  rw [months, daysInMonths, month]

theorem dayOfYear_lt_month (date : Date) :
    date.dayOfYear < daysInMonths date.year date.month.toNat := by
  have bound := date.day_le
  rw [daysInMonths_month]
  unfold dayOfYear
  omega

theorem dayOfYear_lt (date : Date) : date.dayOfYear < 365 + leapDay date.year := by
  have last := date.month_le
  have inMonth := date.dayOfYear_lt_month
  have inYear := daysInMonths_mono date.year (show date.month.toNat ≤ 12 by omega)
  rw [daysInMonths_twelve] at inYear
  omega

theorem ordinal_next (date : Date) : date.next.ordinal = date.ordinal + 1 := by
  have last := date.month_le
  have bound := date.day_le
  have endOfMonth := date.daysInMonths_month
  unfold next
  split
  · simp only [ordinal, dayOfYear]
    omega
  · split
    · simp only [ordinal, dayOfYear, Int.add_sub_cancel, endOfMonth]
      omega
    · have december : date.month = 12 := by omega
      have year := daysInMonths_twelve date.year
      have begins := daysBeforeYear_succ date.year
      have months : date.month.toNat = 12 := by omega
      rw [months, year] at endOfMonth
      simp only [ordinal, dayOfYear, Int.sub_self, Int.toNat_zero, daysInMonths]
      omega

/-- The first of January. -/
def startOfYear (year : Int) : Date where
  year := year
  month := 1
  day := 1
  month_pos := by omega
  month_le := by omega
  day_pos := by omega
  day_le := (monthLength_bounds _ _).1

theorem ordinal_startOfYear (date : Date) :
    date.ordinal = (startOfYear date.year).ordinal + date.dayOfYear := by
  have none : (startOfYear date.year).dayOfYear = 0 := rfl
  rw [ordinal, ordinal, none, Int.add_zero]
  rfl

theorem ordinal_lt_of_year_lt {date other : Date} (earlier : date.year < other.year) :
    date.ordinal < other.ordinal := by
  have inYear := date.dayOfYear_lt
  have years := daysBeforeYear_mono (show date.year + 1 ≤ other.year by omega)
  have later := other.dayOfYear_nonneg
  rw [daysBeforeYear_succ] at years
  unfold ordinal
  omega

theorem ordinal_lt_of_month_lt {date other : Date} (same : date.year = other.year)
    (earlier : date.month < other.month) : date.ordinal < other.ordinal := by
  have inMonth := date.dayOfYear_lt_month
  have positive := other.day_pos
  have months := daysInMonths_mono date.year
    (show date.month.toNat ≤ (other.month - 1).toNat by omega)
  have later : other.dayOfYear =
      daysInMonths date.year (other.month - 1).toNat + other.day - 1 := by
    rw [dayOfYear, same]
  unfold ordinal
  rw [← same]
  omega

theorem ordinal_injective {date other : Date} (same : date.ordinal = other.ordinal) :
    date = other := by
  have years : date.year = other.year := by
    rcases Int.lt_trichotomy date.year other.year with earlier | equal | later
    · have less := ordinal_lt_of_year_lt earlier
      omega
    · exact equal
    · have less := ordinal_lt_of_year_lt later
      omega
  have months : date.month = other.month := by
    rcases Int.lt_trichotomy date.month other.month with earlier | equal | later
    · have less := ordinal_lt_of_month_lt years earlier
      omega
    · exact equal
    · have less := ordinal_lt_of_month_lt years.symm later
      omega
  have days : date.day = other.day := by
    unfold ordinal dayOfYear at same
    rw [years, months] at same
    omega
  exact Date.ext years months days

end Date

/-! ## Years that begin in March

With February at the end, the leap day is the last of its year, and the lengths of
the months before are those of a straight line through 153 days in five months. -/

/-- The days before a month of a year that begins in March, both counted from 0. -/
def daysBeforeMarchMonth (year month : Int) : Int :=
  365 * year + year / 4 - year / 100 + year / 400 + (153 * month + 2) / 5 - 306

/-- The year whose March was the last before a date, and the months since. -/
def Date.marchYear (date : Date) : Int := date.year - (14 - date.month) / 12

def Date.marchMonth (date : Date) : Int := date.month + 12 * ((14 - date.month) / 12) - 3

theorem Date.marchMonth_bounds (date : Date) : 0 ≤ date.marchMonth ∧ date.marchMonth ≤ 11 := by
  have first := date.month_pos
  have last := date.month_le
  unfold marchMonth
  omega

/-- A year that begins in March has at most 366 days. -/
theorem Date.day_le_marchYear (date : Date) :
    date.day + (153 * date.marchMonth + 2) / 5 ≤ 366 := by
  have months := date.marchMonth_bounds
  have bound := date.day_le
  by_cases february : date.month = 2
  · have length : monthLength date.year date.month = 28 + leapDay date.year := if_pos february
    have leap := leapDay_bounds date.year
    omega
  · have length := (monthLength_bounds date.year date.month).2
    have earlier : date.marchMonth ≤ 10 := by
      have first := date.month_pos
      have last := date.month_le
      unfold marchMonth
      omega
    omega

theorem monthLength_march (year : Int) {month : Int} (march : 3 ≤ month) (november : month ≤ 11) :
    monthLength year month = (153 * (month - 2) + 2) / 5 - (153 * (month - 3) + 2) / 5 := by
  have months : month = 3 ∨ month = 4 ∨ month = 5 ∨ month = 6 ∨ month = 7 ∨ month = 8 ∨
      month = 9 ∨ month = 10 ∨ month = 11 := by omega
  rcases months with rfl | rfl | rfl | rfl | rfl | rfl | rfl | rfl | rfl <;> rfl

theorem daysInMonths_march (year : Int) {months : Nat} (february : 2 ≤ months)
    (november : months ≤ 11) :
    daysInMonths year months = 59 + leapDay year + (153 * ((months : Int) - 2) + 2) / 5 := by
  induction months with
  | zero => omega
  | succ months induction =>
      by_cases january : months = 1
      · subst january
        have days : daysInMonths year 2 = 0 + 31 + (28 + leapDay year) := rfl
        rw [days]
        omega
      · have length := monthLength_march year (show 3 ≤ (months : Int) + 1 by omega) (by omega)
        have before : (months : Int) + 1 - 3 = months - 2 := by omega
        have after : ((months + 1 : Nat) : Int) - 2 = months + 1 - 2 := by omega
        rw [daysInMonths, induction (by omega) (by omega), length, before, after]
        omega

theorem Date.ordinal_march (date : Date) :
    date.ordinal = daysBeforeMarchMonth date.marchYear date.marchMonth + date.day - 1 := by
  have first := date.month_pos
  have last := date.month_le
  have leap := daysBeforeYear_add_leapDay date.year
  unfold ordinal dayOfYear daysBeforeMarchMonth marchYear marchMonth
  by_cases march : 3 ≤ date.month
  · rw [daysInMonths_march date.year (by omega) (by omega)]
    have months : ((date.month - 1).toNat : Int) = date.month - 1 := by omega
    rw [months]
    omega
  · rcases (show date.month = 1 ∨ date.month = 2 by omega) with month | month
    · simp only [month, daysBeforeYear, Int.sub_self, Int.toNat_zero, daysInMonths]
      omega
    · have january : daysInMonths date.year (date.month - 1).toNat = 31 := by
        rw [month]
        rfl
      rw [january, month, daysBeforeYear]
      omega

end Ccnet.Calendar
