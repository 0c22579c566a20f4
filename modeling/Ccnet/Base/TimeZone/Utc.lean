import Ccnet.Base.Date

namespace Ccnet.Base

/-! The conversion between `time_t` and broken-down universal time of
`base/time_zone.cc`. -/

def kSecondsPerDay : Int := 24 * 60 * 60

/-- `Date::kJulianDayOf1970_01_01` -/
def kJulianDayOf1970_01_01 : Int :=
  match getJulianDayNumber 1970 1 1 with
  | .ok julianDayNumber => julianDayNumber
  | .error _ => 0

/-- A conversion to `int`, modulo its number of values. -/
def castInt32 (value : Int) : Int := (value + 2147483648) % 4294967296 - 2147483648

/-- A conversion to `unsigned`. -/
def castUInt32 (value : Int) : Int := value % 4294967296

/-- `struct tm`, with the text that `tm_zone` points to. -/
structure Tm where
  sec : Int
  min : Int
  hour : Int
  mday : Int
  mon : Int
  year : Int
  wday : Int
  yday : Int
  isdst : Int
  gmtoff : Int
  zone : List UInt8
  deriving DecidableEq, Repr

/-- What `bzero` leaves. -/
def Tm.zero : Tm where
  sec := 0
  min := 0
  hour := 0
  mday := 0
  mon := 0
  year := 0
  wday := 0
  yday := 0
  isdst := 0
  gmtoff := 0
  zone := []

def fillHMS (seconds : Int) (utc : Tm) : Tm :=
  let minutes := seconds / 60
  { utc with sec := seconds % 60, min := minutes % 60, hour := minutes / 60 }

namespace TimeZone

def kGmt : List UInt8 := "GMT".toList.map fun character => UInt8.ofNat character.toNat

/-- The second of the day and the day since the epoch. -/
def splitDay (secondsSinceEpoch : Int) : Checked (Int × Int) :=
  let seconds := castInt32 (secondsSinceEpoch.tmod kSecondsPerDay)
  let days := castInt32 (secondsSinceEpoch.tdiv kSecondsPerDay)
  if seconds < 0 then do
    return (← checkInt32 (seconds + kSecondsPerDay), ← checkInt32 (days - 1))
  else
    return (seconds, days)

def toUtcTime (secondsSinceEpoch : Int) (yday : Bool) : Checked Tm := do
  let (seconds, days) ← splitDay secondsSinceEpoch
  let utc := fillHMS (castUInt32 seconds) { Tm.zero with zone := kGmt }
  let date ← checkInt32 (days + kJulianDayOf1970_01_01)
  let ymd ← getYearMonthDay date
  let year ← checkInt32 (ymd.year - 1900)
  let mon ← checkInt32 (ymd.month - 1)
  let wday ← weekDay date
  let utc := { utc with year, mon, mday := ymd.day, wday }
  if yday then do
    let startOfYear ← getJulianDayNumber ymd.year 1 1
    return { utc with yday := ← checkInt32 (date - startOfYear) }
  else
    return utc

/-- `fromUtcTime` of the six numbers. -/
def fromUtcNumbers (year month day hour minute seconds : Int) : Checked Int := do
  let date ← getJulianDayNumber year month day
  let minutes ← checkInt32 ((← checkInt32 (hour * 3600)) + (← checkInt32 (minute * 60)))
  let secondsInDay ← checkInt32 (minutes + seconds)
  let days ← checkInt32 (date - kJulianDayOf1970_01_01)
  checkInt64 ((← checkInt64 (days * kSecondsPerDay)) + secondsInDay)

def fromUtcTime (utc : Tm) : Checked Int := do
  fromUtcNumbers (← checkInt32 (utc.year + 1900)) (← checkInt32 (utc.mon + 1)) utc.mday
    utc.hour utc.min utc.sec

theorem castInt32_of {value : Int} (fits : -2147483648 ≤ value ∧ value ≤ 2147483647) :
    castInt32 value = value := by
  unfold castInt32
  omega

theorem kJulianDayOf1970_01_01_eq : kJulianDayOf1970_01_01 = 2440588 := by decide

/-! ## Days and seconds -/

/-- Truncating division, corrected for negative times, is division that rounds down. -/
theorem splitDay_ok {secondsSinceEpoch : Int}
    (low : -2147483647 ≤ secondsSinceEpoch / 86400)
    (high : secondsSinceEpoch / 86400 ≤ 2147483646) :
    splitDay secondsSinceEpoch =
      .ok (secondsSinceEpoch % 86400, secondsSinceEpoch / 86400) := by
  have positive := Int.emod_nonneg secondsSinceEpoch (show (86400 : Int) ≠ 0 by decide)
  have bound := Int.emod_lt_of_pos secondsSinceEpoch (show (0 : Int) < 86400 by decide)
  have size : ((86400 : Int).natAbs : Int) = 86400 ∧ (86400 : Int).sign = 1 := ⟨rfl, rfl⟩
  unfold splitDay
  rw [show kSecondsPerDay = 86400 from rfl]
  by_cases exact : 0 ≤ secondsSinceEpoch ∨ 86400 ∣ secondsSinceEpoch
  · have seconds : secondsSinceEpoch.tmod 86400 = secondsSinceEpoch % 86400 := by
      rw [Int.tmod_eq_emod, if_pos exact]
      exact Int.sub_zero _
    have days : secondsSinceEpoch.tdiv 86400 = secondsSinceEpoch / 86400 := by
      rw [Int.tdiv_eq_ediv, if_pos exact, Int.add_zero]
    rw [seconds, days, castInt32_of (by omega), castInt32_of (by omega), if_neg (by omega)]
    rfl
  · -- A negative time that is not a whole number of days.
    have seconds : secondsSinceEpoch.tmod 86400 = secondsSinceEpoch % 86400 - 86400 := by
      rw [Int.tmod_eq_emod, if_neg exact, size.1]
    have days : secondsSinceEpoch.tdiv 86400 = secondsSinceEpoch / 86400 + 1 := by
      rw [Int.tdiv_eq_ediv, if_neg exact, size.2]
    rw [seconds, days, castInt32_of (by omega), castInt32_of (by omega), if_pos (by omega),
      Checked.checkInt32_bind_of (by omega), Checked.checkInt32_bind_of (by omega),
      Int.sub_add_cancel, Int.add_sub_cancel]
    rfl

/-! ## Conversion -/

/-- The broken-down time of a second of a date. -/
def utc (date : Calendar.Date) (second : Int) : Tm where
  sec := second % 60
  min := second / 60 % 60
  hour := second / 60 / 60
  mday := date.day
  mon := date.month - 1
  year := date.year - 1900
  wday := (julianDay date + 1) % 7
  yday := date.dayOfYear
  isdst := 0
  gmtoff := 0
  zone := kGmt

variable {secondsSinceEpoch : Int} {date : Calendar.Date}

theorem year_bounds (inRange : InRange (julianDay date)) :
    -4800 ≤ date.year ∧ date.year ≤ 1500000 := by
  have bounds := inRange.marchYear_bounds
  have first := date.month_pos
  have last := date.month_le
  unfold Calendar.Date.marchYear at bounds
  omega

theorem startOfYear_ok (inRange : InRange (julianDay date)) (positive : 0 ≤ julianDay date) :
    getJulianDayNumber date.year 1 1 = .ok (julianDay date - date.dayOfYear) := by
  have inYear := date.dayOfYear_lt
  have leap := Calendar.leapDay_bounds date.year
  have notBefore := date.dayOfYear_nonneg
  have start : julianDay (Calendar.Date.startOfYear date.year) =
      julianDay date - date.dayOfYear := by
    rw [julianDay, julianDay, date.ordinal_startOfYear]
    omega
  have startInRange : InRange (julianDay (Calendar.Date.startOfYear date.year)) := by
    have small := inRange.2
    rw [start]
    constructor <;> omega
  rw [← start]
  exact getJulianDayNumber_ok startInRange

theorem toUtcTime_eq (day : julianDay date = secondsSinceEpoch / 86400 + 2440588)
    (inRange : InRange (julianDay date)) (positive : 0 ≤ julianDay date) :
    toUtcTime secondsSinceEpoch true = .ok (utc date (secondsSinceEpoch % 86400)) := by
  have small := inRange.2
  have years := year_bounds inRange
  have first := date.month_pos
  have last := date.month_le
  have inYear := date.dayOfYear_lt
  have leap := Calendar.leapDay_bounds date.year
  have notBefore := date.dayOfYear_nonneg
  have seconds := Int.emod_nonneg secondsSinceEpoch (show (86400 : Int) ≠ 0 by decide)
  have bound := Int.emod_lt_of_pos secondsSinceEpoch (show (0 : Int) < 86400 by decide)
  have unsigned : castUInt32 (secondsSinceEpoch % 86400) = secondsSinceEpoch % 86400 :=
    Int.emod_eq_of_lt seconds (by omega)
  unfold toUtcTime
  rw [splitDay_ok (by omega) (by omega), Checked.ok_bind]
  dsimp only
  rw [unsigned, kJulianDayOf1970_01_01_eq, ← day, Checked.checkInt32_bind_of (by omega),
    getYearMonthDay_julianDay inRange, Checked.ok_bind]
  dsimp only [YearMonthDay.ofDate]
  rw [Checked.checkInt32_bind_of (by omega), Checked.checkInt32_bind_of (by omega),
    weekDay_ok positive (by omega), Checked.ok_bind, if_pos rfl,
    startOfYear_ok inRange positive, Checked.ok_bind, Checked.checkInt32_bind_of (by omega),
    Int.sub_sub_self]
  rfl

theorem fromUtcTime_eq {utc : Tm} (year : utc.year + 1900 = date.year)
    (month : utc.mon + 1 = date.month) (day : utc.mday = date.day)
    (hour : 0 ≤ utc.hour ∧ utc.hour ≤ 23) (minute : 0 ≤ utc.min ∧ utc.min ≤ 59)
    (second : 0 ≤ utc.sec ∧ utc.sec ≤ 59) (inRange : InRange (julianDay date)) :
    fromUtcTime utc = .ok ((julianDay date - 2440588) * 86400 +
      (utc.hour * 3600 + utc.min * 60 + utc.sec)) := by
  have years := year_bounds inRange
  have first := date.month_pos
  have last := date.month_le
  rcases inRange with ⟨low, high⟩
  unfold fromUtcTime
  rw [year, month, day, Checked.checkInt32_bind_of (by omega),
    Checked.checkInt32_bind_of (by omega), fromUtcNumbers, getJulianDayNumber_ok ⟨low, high⟩,
    Checked.ok_bind, Checked.checkInt32_bind_of (by omega),
    Checked.checkInt32_bind_of (by omega), Checked.checkInt32_bind_of (by omega),
    Checked.checkInt32_bind_of (by omega), kJulianDayOf1970_01_01_eq,
    Checked.checkInt32_bind_of (by omega), show kSecondsPerDay = 86400 from rfl,
    checkInt64_of (by omega), Checked.ok_bind, checkInt64_of (by omega)]

/-- The broken-down time of every second whose day can be converted is that of a date of
the calendar, and converts back; so does every broken-down time. -/
theorem utc_round_trip :
    (∀ secondsSinceEpoch, 0 ≤ secondsSinceEpoch / 86400 + kJulianDayOf1970_01_01 →
      InRange (secondsSinceEpoch / 86400 + kJulianDayOf1970_01_01) →
      ∃ utc, ∃ date : Calendar.Date, toUtcTime secondsSinceEpoch true = .ok utc ∧
        (0 ≤ utc.sec ∧ utc.sec ≤ 59) ∧ (0 ≤ utc.min ∧ utc.min ≤ 59) ∧
        (0 ≤ utc.hour ∧ utc.hour ≤ 23) ∧
        utc.year + 1900 = date.year ∧ utc.mon + 1 = date.month ∧ utc.mday = date.day ∧
        utc.wday = (secondsSinceEpoch / 86400 + 4) % 7 ∧ utc.yday = date.dayOfYear ∧
        fromUtcTime utc = .ok secondsSinceEpoch) ∧
    (∀ (utc : Tm) (date : Calendar.Date), utc.year + 1900 = date.year →
      utc.mon + 1 = date.month → utc.mday = date.day → 0 ≤ utc.hour ∧ utc.hour ≤ 23 →
      0 ≤ utc.min ∧ utc.min ≤ 59 → 0 ≤ utc.sec ∧ utc.sec ≤ 59 →
      0 ≤ julianDay date → InRange (julianDay date) →
      ∃ secondsSinceEpoch back, fromUtcTime utc = .ok secondsSinceEpoch ∧
        toUtcTime secondsSinceEpoch true = .ok back ∧ back.year = utc.year ∧
        back.mon = utc.mon ∧ back.mday = utc.mday ∧ back.hour = utc.hour ∧
        back.min = utc.min ∧ back.sec = utc.sec) := by
  rw [kJulianDayOf1970_01_01_eq]
  constructor
  · intro secondsSinceEpoch positive inRange
    rcases getYearMonthDay_ok inRange with ⟨date, _, day⟩
    rw [← day] at positive inRange
    have converted := toUtcTime_eq day inRange positive
    have low := Int.emod_nonneg secondsSinceEpoch (show (86400 : Int) ≠ 0 by decide)
    have high := Int.emod_lt_of_pos secondsSinceEpoch (show (0 : Int) < 86400 by decide)
    have total := Int.mul_ediv_add_emod secondsSinceEpoch 86400
    generalize secondsSinceEpoch % 86400 = second at converted low high total
    have hour : 0 ≤ second / 60 / 60 ∧ second / 60 / 60 ≤ 23 := by omega
    have minute : 0 ≤ second / 60 % 60 ∧ second / 60 % 60 ≤ 59 := by omega
    have sec : 0 ≤ second % 60 ∧ second % 60 ≤ 59 := by omega
    refine ⟨_, date, converted, sec, minute, hour, Int.sub_add_cancel _ _,
      Int.sub_add_cancel _ _, rfl, ?_, rfl, ?_⟩
    · simp only [utc, day]
      omega
    · rw [fromUtcTime_eq (Int.sub_add_cancel _ _) (Int.sub_add_cancel _ _) rfl hour minute sec
        inRange]
      congr 1
      simp only [utc]
      omega
  · intro utc date year month day hour minute second positive inRange
    have dayOf : julianDay date = ((julianDay date - 2440588) * 86400 +
        (utc.hour * 3600 + utc.min * 60 + utc.sec)) / 86400 + 2440588 := by omega
    have inDay : ((julianDay date - 2440588) * 86400 +
        (utc.hour * 3600 + utc.min * 60 + utc.sec)) % 86400 =
          utc.hour * 3600 + utc.min * 60 + utc.sec := by omega
    have back := toUtcTime_eq dayOf inRange positive
    rw [inDay] at back
    refine ⟨_, _, fromUtcTime_eq year month day hour minute second inRange, back, ?_⟩
    simp only [TimeZone.utc]
    omega

/-- One second before the epoch, and its broken-down time. -/
theorem utc_round_trip_before_epoch :
    ∃ utc, toUtcTime (-1) true = .ok utc ∧ utc.wday = 3 ∧ fromUtcTime utc = .ok (-1) := by
  rcases utc_round_trip.1 (-1) (by decide) (by decide) with
    ⟨utc, _, converted, _, _, _, _, _, _, wday, _, back⟩
  exact ⟨utc, converted, wday, back⟩

example : toUtcTime (-1) true = .ok {
    sec := 59, min := 59, hour := 23, mday := 31, mon := 11, year := 69, wday := 3, yday := 364,
    isdst := 0, gmtoff := 0, zone := kGmt } := rfl

end TimeZone

end Ccnet.Base
