import Ccnet.Foundation.Calendar
import Ccnet.Foundation.Fault

namespace Ccnet.Base

/-! `base/date.cc` and `base/date.h`: dates are kept as Julian day numbers. Values of
type `int` are integers, each operation on them is checked for overflow, and division
truncates. -/

structure YearMonthDay where
  year : Int
  month : Int
  day : Int
  deriving DecidableEq, Repr

def getJulianDayNumber (year month day : Int) : Checked Int := do
  let a := (← checkInt32 (14 - month)).tdiv 12
  let y ← checkInt32 ((← checkInt32 (year + 4800)) - a)
  let m ← checkInt32 ((← checkInt32 (month + (← checkInt32 (12 * a)))) - 3)
  let months := (← checkInt32 ((← checkInt32 (153 * m)) + 2)).tdiv 5
  let days ← checkInt32 (day + months)
  let days ← checkInt32 (days + (← checkInt32 (y * 365)))
  let days ← checkInt32 (days + y.tdiv 4)
  let days ← checkInt32 (days - y.tdiv 100)
  let days ← checkInt32 (days + y.tdiv 400)
  checkInt32 (days - 32045)

def getYearMonthDay (julianDayNumber : Int) : Checked YearMonthDay := do
  let a ← checkInt32 (julianDayNumber + 32044)
  let b := (← checkInt32 ((← checkInt32 (4 * a)) + 3)).tdiv 146097
  let c ← checkInt32 (a - (← checkInt32 (b * 146097)).tdiv 4)
  let d := (← checkInt32 ((← checkInt32 (4 * c)) + 3)).tdiv 1461
  let e ← checkInt32 (c - (← checkInt32 (1461 * d)).tdiv 4)
  let m := (← checkInt32 ((← checkInt32 (5 * e)) + 2)).tdiv 153
  let months := (← checkInt32 ((← checkInt32 (153 * m)) + 2)).tdiv 5
  let day ← checkInt32 ((← checkInt32 (e - months)) + 1)
  let month ← checkInt32 ((← checkInt32 (m + 3)) - (← checkInt32 (12 * m.tdiv 10)))
  let year ← checkInt32 ((← checkInt32 (b * 100)) + d)
  let year ← checkInt32 ((← checkInt32 (year - 4800)) + m.tdiv 10)
  return { year, month, day }

def kDaysPerWeek : Int := 7

def weekDay (julianDayNumber : Int) : Checked Int := do
  return (← checkInt32 (julianDayNumber + 1)).tmod kDaysPerWeek

/-- The day numbers that `getYearMonthDay` can convert. -/
def InRange (julianDayNumber : Int) : Prop :=
  0 ≤ julianDayNumber + 32044 ∧ 4 * (julianDayNumber + 32044) + 3 ≤ 2147483647

instance (julianDayNumber : Int) : Decidable (InRange julianDayNumber) :=
  inferInstanceAs (Decidable (_ ∧ _))

def YearMonthDay.ofDate (date : Calendar.Date) : YearMonthDay where
  year := date.year
  month := date.month
  day := date.day

/-- The day number of a date of the calendar, in which the first of January of the year 1
is the day 1721426. -/
def julianDay (date : Calendar.Date) : Int := date.ordinal + 1721426

theorem julianDay_march (date : Calendar.Date) :
    julianDay date = date.day + (153 * date.marchMonth + 2) / 5 + 365 * (date.marchYear + 4800) +
      (date.marchYear + 4800) / 4 - (date.marchYear + 4800) / 100 +
      (date.marchYear + 4800) / 400 - 32045 := by
  rw [julianDay, Calendar.Date.ordinal_march, Calendar.daysBeforeMarchMonth]
  omega

/-- The sum that counts the days, for a year that begins in March. -/
theorem getJulianDayNumber_eq {year month y m : Int} (day : Int) (first : 1 ≤ month)
    (last : month ≤ 12) (isYear : year + 4800 - (14 - month) / 12 = y)
    (isMonth : month + 12 * ((14 - month) / 12) - 3 = m) (years : 0 ≤ y ∧ y ≤ 1500000)
    (days : 1 ≤ day ∧ day ≤ 31) :
    getJulianDayNumber year month day =
      .ok (day + (153 * m + 2) / 5 + y * 365 + y / 4 - y / 100 + y / 400 - 32045) := by
  have carry : 0 ≤ (14 - month) / 12 ∧ (14 - month) / 12 ≤ 1 := by omega
  have months : 0 ≤ m ∧ m ≤ 11 := by omega
  have early : (14 - month).tdiv 12 = (14 - month) / 12 :=
    Int.tdiv_eq_ediv_of_nonneg (by omega)
  unfold getJulianDayNumber
  rw [Checked.checkInt32_bind_of (by omega), early, Checked.checkInt32_bind_of (by omega),
    Checked.checkInt32_bind_of (by omega), isYear, Checked.checkInt32_bind_of (by omega),
    Checked.checkInt32_bind_of (by omega), isMonth]
  clear isYear isMonth early carry first last
  simp (disch := omega) only [checkInt32_of, Checked.ok_bind, Int.tdiv_eq_ediv_of_nonneg]

/-- The years of the dates whose day numbers can be converted. -/
theorem InRange.marchYear_bounds {date : Calendar.Date} (inRange : InRange (julianDay date)) :
    0 ≤ date.marchYear + 4800 ∧ date.marchYear + 4800 ≤ 1500000 := by
  have day := julianDay_march date
  have month := date.marchMonth_bounds
  have positive := date.day_pos
  have inYear := date.day_le_marchYear
  rcases inRange with ⟨low, high⟩
  generalize date.marchYear + 4800 = year at day ⊢
  constructor
  · by_cases early : year < 0
    · have leaps : year / 4 ≤ year / 100 ∧ year / 400 ≤ -1 := by omega
      omega
    · exact Int.not_lt.mp early
  · omega

theorem getJulianDayNumber_ok {date : Calendar.Date} (inRange : InRange (julianDay date)) :
    getJulianDayNumber date.year date.month date.day = .ok (julianDay date) := by
  have bound := date.day_le
  have length := (Calendar.monthLength_bounds date.year date.month).2
  have isYear : date.year + 4800 - (14 - date.month) / 12 = date.marchYear + 4800 := by
    unfold Calendar.Date.marchYear
    omega
  rw [getJulianDayNumber_eq date.day date.month_pos date.month_le isYear rfl
    inRange.marchYear_bounds ⟨date.day_pos, by omega⟩, julianDay_march, Int.mul_comm 365]
  rfl

/-! ## From day numbers to dates -/

/-- The numbers that `getYearMonthDay` computes on the way: the century, the day in it,
the year of the century, the day in it and its month. Years begin in March. -/
structure Decomposed (a b c d e m : Int) : Prop where
  century : b = (4 * a + 3) / 146097
  inCentury : c = a - b * 146097 / 4
  year : d = (4 * c + 3) / 1461
  inYear : e = c - 1461 * d / 4
  month : m = (5 * e + 2) / 153

theorem centuries_days (b : Int) : b * 146097 / 4 = 36524 * b + b / 4 := by
  omega

theorem years_days (d : Int) : 1461 * d / 4 = 365 * d + d / 4 := by
  omega

namespace Decomposed

variable {a b c d e m : Int}

theorem century_bounds (decomposed : Decomposed a b c d e m) :
    0 ≤ c ∧ c ≤ 36524 ∧ (c = 36524 → b % 4 = 3) := by
  have century := decomposed.century
  have inCentury := decomposed.inCentury
  rw [centuries_days] at inCentury
  have rest : 4 * c + 3 = (4 * a + 3) % 146097 + b % 4 := by omega
  have low := Int.emod_nonneg (4 * a + 3) (show (146097 : Int) ≠ 0 by decide)
  have high := Int.emod_lt_of_pos (4 * a + 3) (show (0 : Int) < 146097 by decide)
  generalize (4 * a + 3) % 146097 = remainder at rest low high
  clear century inCentury
  omega

theorem year_bounds (decomposed : Decomposed a b c d e m) :
    0 ≤ d ∧ d ≤ 99 ∧ 0 ≤ e ∧ e ≤ 365 ∧ (e = 365 → d % 4 = 3 ∧ (d = 99 → b % 4 = 3)) := by
  have century := decomposed.century_bounds
  have year := decomposed.year
  have inYear := decomposed.inYear
  rw [years_days] at inYear
  omega

theorem month_bounds (decomposed : Decomposed a b c d e m) :
    0 ≤ m ∧ m ≤ 11 ∧ (153 * m + 2) / 5 ≤ e ∧ e < (153 * (m + 1) + 2) / 5 := by
  have year := decomposed.year_bounds
  have month := decomposed.month
  omega

/-- The days of the centuries and years add up. -/
theorem total (decomposed : Decomposed a b c d e m) :
    a = e + 365 * (b * 100 + d) + (b * 100 + d) / 4 - (b * 100 + d) / 100 +
      (b * 100 + d) / 400 := by
  have year := decomposed.year_bounds
  have inCentury := decomposed.inCentury
  have inYear := decomposed.inYear
  rw [centuries_days] at inCentury
  rw [years_days] at inYear
  have fours : (b * 100 + d) / 4 = 25 * b + d / 4 := by omega
  have hundreds : (b * 100 + d) / 100 = b := by omega
  have fourHundreds : (b * 100 + d) / 400 = b / 4 := by omega
  rw [fours, hundreds, fourHundreds]
  omega

/-- The last day of a year that begins in March is a leap day. -/
theorem isLeap (decomposed : Decomposed a b c d e m) (last : e = 365) :
    Calendar.IsLeap (b * 100 + d - 4800 + 1) := by
  have year := decomposed.year_bounds
  unfold Calendar.IsLeap
  omega

theorem day_le (decomposed : Decomposed a b c d e m) :
    e - (153 * m + 2) / 5 + 1 ≤
      Calendar.monthLength (b * 100 + d - 4800 + m / 10) (m + 3 - 12 * (m / 10)) := by
  have month := decomposed.month_bounds
  have year := decomposed.year_bounds
  rcases (show m ≤ 8 ∨ m = 9 ∨ m = 10 ∨ m = 11 by omega) with early | rfl | rfl | rfl
  · have noCarry : m / 10 = 0 := by omega
    rw [noCarry, Int.mul_zero, Int.sub_zero,
      Calendar.monthLength_march _ (by omega) (by omega)]
    have this : m + 3 - 3 = m := by omega
    have next : m + 3 - 2 = m + 1 := by omega
    rw [this, next]
    omega
  · have december : Calendar.monthLength (b * 100 + d - 4800 + 9 / 10) 12 = 31 := rfl
    exact Int.le_trans (by omega) (Int.le_of_eq december.symm)
  · have january : Calendar.monthLength (b * 100 + d - 4800 + 10 / 10) 1 = 31 := rfl
    exact Int.le_trans (by omega) (Int.le_of_eq january.symm)
  · have february : Calendar.monthLength (b * 100 + d - 4800 + 11 / 10) 2 =
        28 + Calendar.leapDay (b * 100 + d - 4800 + 1) := rfl
    refine Int.le_trans ?_ (Int.le_of_eq february.symm)
    have leap := Calendar.leapDay_bounds (b * 100 + d - 4800 + 1)
    by_cases last : e = 365
    · have isLeap := decomposed.isLeap last
      rw [Calendar.leapDay, if_pos isLeap]
      omega
    · omega

/-- The date that the code puts together. -/
def date (decomposed : Decomposed a b c d e m) : Calendar.Date where
  year := b * 100 + d - 4800 + m / 10
  month := m + 3 - 12 * (m / 10)
  day := e - (153 * m + 2) / 5 + 1
  month_pos := by
    have month := decomposed.month_bounds
    omega
  month_le := by
    have month := decomposed.month_bounds
    omega
  day_pos := by
    have month := decomposed.month_bounds
    omega
  day_le := decomposed.day_le

theorem date_march (decomposed : Decomposed a b c d e m) :
    (decomposed.date).marchYear + 4800 = b * 100 + d ∧
      (decomposed.date).marchMonth = m := by
  have month := decomposed.month_bounds
  have carry : (14 - (m + 3 - 12 * (m / 10))) / 12 = m / 10 := by omega
  simp only [Calendar.Date.marchYear, Calendar.Date.marchMonth, date, carry]
  omega

theorem julianDay_date (decomposed : Decomposed a b c d e m) :
    julianDay (decomposed.date) = a - 32044 := by
  have total := decomposed.total
  rcases decomposed.date_march with ⟨year, month⟩
  rw [julianDay_march, year, month]
  simp only [date]
  omega

/-- No operation of `getYearMonthDay` overflows. -/
theorem getYearMonthDay_eq {julianDayNumber : Int}
    (decomposed : Decomposed (julianDayNumber + 32044) b c d e m)
    (inRange : InRange julianDayNumber) :
    getYearMonthDay julianDayNumber = .ok {
      year := b * 100 + d - 4800 + m / 10
      month := m + 3 - 12 * (m / 10)
      day := e - (153 * m + 2) / 5 + 1 } := by
  rcases inRange with ⟨positive, small⟩
  rcases decomposed.century_bounds with ⟨inCentury, inCentury_le, -⟩
  rcases decomposed.year_bounds with ⟨years, years_le, inYear, inYear_le, -⟩
  have centuries : 0 ≤ b := by
    rw [decomposed.century]
    exact Int.ediv_nonneg (by omega) (by decide)
  rcases decomposed.month_bounds with ⟨months, months_le, first, -⟩
  have product : b * 146097 ≤ 2147483647 := by
    have century := decomposed.century
    omega
  have isB : (4 * (julianDayNumber + 32044) + 3).tdiv 146097 = b := by
    rw [Int.tdiv_eq_ediv_of_nonneg (by omega), ← decomposed.century]
  have isC : julianDayNumber + 32044 - (b * 146097).tdiv 4 = c := by
    rw [Int.tdiv_eq_ediv_of_nonneg (by omega), ← decomposed.inCentury]
  have isD : (4 * c + 3).tdiv 1461 = d := by
    rw [Int.tdiv_eq_ediv_of_nonneg (by omega), ← decomposed.year]
  have isE : c - (1461 * d).tdiv 4 = e := by
    rw [Int.tdiv_eq_ediv_of_nonneg (by omega), ← decomposed.inYear]
  have isM : (5 * e + 2).tdiv 153 = m := by
    rw [Int.tdiv_eq_ediv_of_nonneg (by omega), ← decomposed.month]
  have days : (153 * m + 2).tdiv 5 = (153 * m + 2) / 5 :=
    Int.tdiv_eq_ediv_of_nonneg (by omega)
  have carry : m.tdiv 10 = m / 10 := Int.tdiv_eq_ediv_of_nonneg months
  have carry_le : 0 ≤ m / 10 ∧ m / 10 ≤ 1 := by omega
  have first_pos : 0 ≤ (153 * m + 2) / 5 := by omega
  unfold getYearMonthDay
  rw [Checked.checkInt32_bind_of (by omega), Checked.checkInt32_bind_of (by omega),
    Checked.checkInt32_bind_of (by omega), isB]
  dsimp only
  rw [Checked.checkInt32_bind_of (by omega), isC, Checked.checkInt32_bind_of (by omega),
    Checked.checkInt32_bind_of (by omega), Checked.checkInt32_bind_of (by omega), isD,
    Checked.checkInt32_bind_of (by omega), isE, Checked.checkInt32_bind_of (by omega),
    Checked.checkInt32_bind_of (by omega), Checked.checkInt32_bind_of (by omega), isM]
  clear isB isC isD isE isM decomposed
  rw [Checked.checkInt32_bind_of (by omega), Checked.checkInt32_bind_of (by omega), days, carry,
    Checked.checkInt32_bind_of (by omega), Checked.checkInt32_bind_of (by omega),
    Checked.checkInt32_bind_of (by omega), Checked.checkInt32_bind_of (by omega),
    Checked.checkInt32_bind_of (by omega), Checked.checkInt32_bind_of (by omega),
    Checked.checkInt32_bind_of (by omega), Checked.checkInt32_bind_of (by omega),
    Checked.checkInt32_bind_of (by omega)]
  rfl

end Decomposed

/-- The date of a day number. -/
def dateOf (julianDayNumber : Int) : Calendar.Date :=
  have decomposed : Decomposed (julianDayNumber + 32044) _ _ _ _ _ := ⟨rfl, rfl, rfl, rfl, rfl⟩
  decomposed.date

theorem julianDay_dateOf (julianDayNumber : Int) :
    julianDay (dateOf julianDayNumber) = julianDayNumber := by
  rw [dateOf, Decomposed.julianDay_date]
  omega

theorem getYearMonthDay_ok {julianDayNumber : Int} (inRange : InRange julianDayNumber) :
    ∃ date, getYearMonthDay julianDayNumber = .ok (.ofDate date) ∧
      julianDay date = julianDayNumber := by
  have decomposed : Decomposed (julianDayNumber + 32044) _ _ _ _ _ := ⟨rfl, rfl, rfl, rfl, rfl⟩
  exact ⟨dateOf julianDayNumber, decomposed.getYearMonthDay_eq inRange, julianDay_dateOf _⟩

/-- From the day number on, the date is determined. -/
theorem getYearMonthDay_julianDay {date : Calendar.Date} (inRange : InRange (julianDay date)) :
    getYearMonthDay (julianDay date) = .ok (.ofDate date) := by
  rcases getYearMonthDay_ok inRange with ⟨found, converted, same⟩
  have isDate : found = date := by
    apply Calendar.Date.ordinal_injective
    unfold julianDay at same
    omega
  rw [converted, isDate]

theorem weekDay_ok {julianDayNumber : Int} (positive : 0 ≤ julianDayNumber)
    (small : julianDayNumber ≤ 2147483646) :
    weekDay julianDayNumber = .ok ((julianDayNumber + 1) % 7) := by
  rw [weekDay, Checked.checkInt32_bind_of (by omega), kDaysPerWeek,
    Int.tmod_eq_emod_of_nonneg (by omega)]
  rfl

/-- Dates on or after the first of March of the year -4800. -/
def Representable (date : Calendar.Date) : Prop :=
  -4800 < date.year ∨ date.year = -4800 ∧ 3 ≤ date.month

theorem Representable.inRange {date : Calendar.Date} (representable : Representable date)
    (small : 4 * (julianDay date + 32044) + 3 ≤ 2147483647) : InRange (julianDay date) := by
  have first := date.month_pos
  have last := date.month_le
  have year : 0 ≤ date.marchYear + 4800 := by
    unfold Representable at representable
    unfold Calendar.Date.marchYear
    omega
  have day := julianDay_march date
  have month := date.marchMonth_bounds
  have positive := date.day_pos
  constructor
  · omega
  · exact small

/-- Day numbers and dates of the calendar correspond, next to next, and the day of the
week advances with the day number. -/
theorem calendar_isomorphism :
    (∀ julianDayNumber, InRange julianDayNumber → ∃ date : Calendar.Date,
      getYearMonthDay julianDayNumber = .ok (.ofDate date) ∧
      getJulianDayNumber date.year date.month date.day = .ok julianDayNumber ∧
      (InRange (julianDayNumber + 1) →
        getYearMonthDay (julianDayNumber + 1) = .ok (.ofDate date.next))) ∧
    (∀ date : Calendar.Date, Representable date →
      4 * (julianDay date + 32044) + 3 ≤ 2147483647 →
      ∃ julianDayNumber, getJulianDayNumber date.year date.month date.day = .ok julianDayNumber ∧
        getYearMonthDay julianDayNumber = .ok (.ofDate date)) ∧
    (∀ julianDayNumber, 0 ≤ julianDayNumber → julianDayNumber + 1 ≤ 2147483646 →
      ∃ day, weekDay julianDayNumber = .ok day ∧ 0 ≤ day ∧ day ≤ 6 ∧
        weekDay (julianDayNumber + 1) = .ok ((day + 1) % 7)) := by
  refine ⟨?_, ?_, ?_⟩
  · intro julianDayNumber inRange
    rcases getYearMonthDay_ok inRange with ⟨date, converted, rfl⟩
    refine ⟨date, converted, getJulianDayNumber_ok inRange, ?_⟩
    intro nextInRange
    have next : julianDay date + 1 = julianDay date.next := by
      rw [julianDay, julianDay, Calendar.Date.ordinal_next]
      omega
    rw [next] at nextInRange ⊢
    exact getYearMonthDay_julianDay nextInRange
  · intro date representable small
    have inRange := representable.inRange small
    exact ⟨julianDay date, getJulianDayNumber_ok inRange, getYearMonthDay_julianDay inRange⟩
  · intro julianDayNumber positive small
    refine ⟨_, weekDay_ok positive (by omega), by omega, by omega, ?_⟩
    rw [weekDay_ok (by omega) small]
    congr 1
    omega

/-- The day after a leap day. -/
theorem calendar_isomorphism_leap :
    InRange 2451604 ∧ ∃ date : Calendar.Date, getYearMonthDay 2451604 = .ok (.ofDate date) ∧
      getYearMonthDay (2451604 + 1) = .ok (.ofDate date.next) := by
  rcases calendar_isomorphism.1 2451604 (by decide) with ⟨date, converted, _, next⟩
  exact ⟨by decide, date, converted, next (by decide)⟩

example : getYearMonthDay 2451604 = .ok ⟨2000, 2, 29⟩ := rfl

end Ccnet.Base
