import Ccnet.Foundation.Machine
import Ccnet.Base.LogStream.LogStream
import Ccnet.Base.TimeZone.LocalTime

namespace Ccnet.Base

/-! The time of a log record, as `Logger::Impl::formatTime` writes it. The text of a second is
kept in `t_time`, for the statements that follow in the same second. -/

/-- `"%4d"`, for any width. -/
def printSpaces (width : Nat) (value : Int) : List Char :=
  List.replicate (width - (decimal value).length) ' ' ++ decimal value

/-- `"%02d"`, for any width. -/
def printZeros (width : Nat) (value : Int) : List Char :=
  decimalSign value ++ List.replicate (width - (decimal value).length) '0' ++
    (numeral 10 value.natAbs).map Nat.digitChar

/-- What is printed of a broken-down time. -/
def dateTime (tm : Tm) : Checked (List Char) := do
  let year ← checkInt32 (tm.year + 1900)
  let month ← checkInt32 (tm.mon + 1)
  return printSpaces 4 year ++ printZeros 2 month ++ printZeros 2 tm.mday ++
    ' ' :: printZeros 2 tm.hour ++ ':' :: printZeros 2 tm.min ++ ':' :: printZeros 2 tm.sec

/-- `tm_time`: the local time, or universal time if no zone is set. -/
def brokenDown (civil : CivilTime) (zone : TimeZone) (seconds : Int) : Checked Tm :=
  if zone.valid then zone.toLocalTime civil seconds else return civil.gmtimeR seconds

def formatSecond (civil : CivilTime) (zone : TimeZone) (seconds : Int) :
    Checked (List Char) := do
  dateTime (← brokenDown civil zone seconds)

/-- `".%06d "` or `".%06dZ "` -/
def fraction (zone : TimeZone) (microseconds : Int) : List Char :=
  '.' :: printZeros 6 microseconds ++ if zone.valid then [' '] else ['Z', ' ']

/-- Inserting a `T`: a C string and the length that it is asserted to have. -/
def LogStream.insertT (stream : LogStream) (str : List Char) (len : Nat) :
    Checked LogStream := do
  check ((str.takeWhile (· ≠ nul)).length = len)
  stream.append (str.take len)

structure LogClock where
  /-- `g_logTimeZone` -/
  logTimeZone : TimeZone
  /-- `t_time` -/
  time : Vector Char 32
  /-- `t_lastSecond` -/
  lastSecond : Int
  /-- The time zone in which `t_time` was last filled. -/
  filledIn : Option TimeZone
  deriving DecidableEq, Repr

namespace LogClock

/-- `t_time` and `t_lastSecond` of a thread are zero at first. -/
def create : LogClock where
  logTimeZone := ⟨none⟩
  time := Vector.replicate 32 nul
  lastSecond := 0
  filledIn := none

def setTimeZone (clock : LogClock) (zone : TimeZone) : LogClock :=
  { clock with logTimeZone := zone }

def refresh (civil : CivilTime) (clock : LogClock) (seconds : Int) : Checked LogClock :=
  if seconds ≠ clock.lastSecond then do
    let printed ← formatSecond civil clock.logTimeZone seconds
    let (time, len) ← snprintf clock.time 0 32 printed
    check (len = 17)
    return { clock with
      time
      lastSecond := seconds
      filledIn := some clock.logTimeZone }
  else
    return clock

/-- The end of `formatTime`, in either branch. -/
def writeTime (clock : LogClock) (stream : LogStream) (printed : List Char) (len : Nat) :
    Checked LogStream := do
  let us ← Fmt.create printed
  check (us.printed.length = len)
  let stream ← stream.insertT clock.time.toList 17
  stream.insertT (us.printed ++ [nul]) len

def formatTime (civil : CivilTime) (clock : LogClock) (microSecondsSinceEpoch : Int)
    (stream : LogStream) : Checked (LogClock × LogStream) := do
  let seconds := microSecondsSinceEpoch.tdiv 1000000
  let microseconds := castInt32 (microSecondsSinceEpoch.tmod 1000000)
  let clock ← clock.refresh civil seconds
  let stream ← clock.writeTime stream (fraction clock.logTimeZone microseconds)
    (if clock.logTimeZone.valid then 8 else 9)
  return (clock, stream)

end LogClock

/-- The text of a second, which is asserted to have 17 characters. -/
def secondText (civil : CivilTime) (zone : TimeZone) (seconds : Int) : Checked (List Char) := do
  let printed ← formatSecond civil zone seconds
  check (printed.length = 17)
  return printed

/-- The text without a cache: the statement's own time in the given zone. -/
def formatUncached (civil : CivilTime) (zone : TimeZone) (microSecondsSinceEpoch : Int) :
    Checked (List Char) := do
  let printed ← secondText civil zone (microSecondsSinceEpoch.tdiv 1000000)
  return printed ++ fraction zone (microSecondsSinceEpoch.tmod 1000000)

/-! ## Texts -/

theorem nul_not_mem_numeral (number : Nat) :
    nul ∉ (numeral 10 number).map Nat.digitChar := by
  intro member
  rcases List.mem_map.mp member with ⟨digit, inside, shown⟩
  have below := (numeral_isNumeral (by decide) number).below digit inside
  have printable : ∀ digit < 10, Nat.digitChar digit ≠ nul := by decide
  exact printable digit below shown

theorem nul_not_mem_decimalSign (value : Int) : nul ∉ decimalSign value := by
  unfold decimalSign
  split <;> decide

theorem nul_not_mem_replicate (count : Nat) {fill : Char} (visible : nul ≠ fill) :
    nul ∉ List.replicate count fill :=
  fun member => visible (List.eq_of_mem_replicate member)

theorem nul_not_mem_printSpaces (width : Nat) (value : Int) : nul ∉ printSpaces width value := by
  rw [printSpaces, decimal, List.mem_append, List.mem_append]
  rintro (fill | sign | digits)
  · exact nul_not_mem_replicate _ (by decide) fill
  · exact nul_not_mem_decimalSign value sign
  · exact nul_not_mem_numeral _ digits

theorem nul_not_mem_printZeros (width : Nat) (value : Int) : nul ∉ printZeros width value := by
  rw [printZeros, List.mem_append, List.mem_append]
  rintro ((sign | fill) | digits)
  · exact nul_not_mem_decimalSign value sign
  · exact nul_not_mem_replicate _ (by decide) fill
  · exact nul_not_mem_numeral _ digits

theorem nul_not_mem_dateTime {tm : Tm} {printed : List Char}
    (formatted : dateTime tm = .ok printed) : nul ∉ printed := by
  rcases Checked.bind_eq_ok_iff.mp formatted with ⟨year, -, rest⟩
  rcases Checked.bind_eq_ok_iff.mp rest with ⟨month, -, returned⟩
  cases returned
  have space : nul ≠ ' ' := by decide
  have colon : nul ≠ ':' := by decide
  simp only [List.mem_append, List.mem_cons, nul_not_mem_printSpaces, nul_not_mem_printZeros,
    space, colon, or_self, not_false_iff]

theorem nul_not_mem_formatSecond {civil : CivilTime} {zone : TimeZone} {seconds : Int}
    {printed : List Char} (formatted : formatSecond civil zone seconds = .ok printed) :
    nul ∉ printed := by
  rcases Checked.bind_eq_ok_iff.mp formatted with ⟨tm, -, shown⟩
  exact nul_not_mem_dateTime shown

theorem nul_not_mem_fraction (zone : TimeZone) (microseconds : Int) :
    nul ∉ fraction zone microseconds := by
  have mark : nul ∉ if zone.valid then [' '] else ['Z', ' '] := by split <;> decide
  have dot : nul ≠ '.' := by decide
  simp only [fraction, List.mem_append, List.mem_cons, nul_not_mem_printZeros, mark, dot, or_self,
    not_false_iff]

theorem printZeros_length {width value : Nat} (positive : 0 < width)
    (bound : value < 10 ^ width) : (printZeros width value).length = width := by
  have length := numeral_length_le (by decide) positive bound
  have unsigned : decimalSign value = [] := if_neg (by omega)
  rw [printZeros, decimal, unsigned, Int.natAbs_natCast]
  simp only [List.nil_append, List.length_append, List.length_replicate, List.length_map]
  omega

theorem fraction_length (zone : TimeZone) {microseconds : Int}
    (range : 0 ≤ microseconds ∧ microseconds < 1000000) :
    (fraction zone microseconds).length = if zone.valid then 8 else 9 := by
  have digits : (printZeros 6 microseconds).length = 6 := by
    have padded := printZeros_length (by decide : 0 < 6)
      (show microseconds.toNat < 10 ^ 6 by omega)
    rwa [Int.toNat_of_nonneg range.1] at padded
  rw [fraction, List.length_append, List.length_cons, digits]
  split <;> rfl

/-- A time whose numbers have the width that they are printed in. -/
structure Tm.Printable (tm : Tm) : Prop where
  year : -900 ≤ tm.year ∧ tm.year ≤ 8099
  mon : 0 ≤ tm.mon ∧ tm.mon ≤ 11
  mday : 0 ≤ tm.mday ∧ tm.mday ≤ 31
  hour : 0 ≤ tm.hour ∧ tm.hour ≤ 23
  min : 0 ≤ tm.min ∧ tm.min ≤ 59
  sec : 0 ≤ tm.sec ∧ tm.sec ≤ 60

theorem printZeros_two {value : Int} (range : 0 ≤ value ∧ value ≤ 99) :
    (printZeros 2 value).length = 2 := by
  have padded := printZeros_length (by decide : 0 < 2) (show value.toNat < 10 ^ 2 by omega)
  rwa [Int.toNat_of_nonneg range.1] at padded

theorem printSpaces_four {value : Int} (range : 0 ≤ value ∧ value ≤ 9999) :
    (printSpaces 4 value).length = 4 := by
  have length : (numeral 10 value.natAbs).length ≤ 4 :=
    numeral_length_le (by decide) (by decide) (by omega)
  have unsigned : decimalSign value = [] := if_neg (by omega)
  rw [printSpaces, decimal, unsigned]
  simp only [List.nil_append, List.length_append, List.length_replicate, List.length_map]
  omega

theorem dateTime_ok {tm : Tm} (printable : tm.Printable) :
    ∃ printed, dateTime tm = .ok printed ∧ printed.length = 17 := by
  rcases printable with ⟨year, mon, mday, hour, min, sec⟩
  rw [dateTime, Checked.checkInt32_bind_of (by omega), Checked.checkInt32_bind_of (by omega)]
  refine ⟨_, rfl, ?_⟩
  simp only [List.length_append, List.length_cons]
  rw [printSpaces_four (by omega), printZeros_two (by omega), printZeros_two (by omega),
    printZeros_two (by omega), printZeros_two (by omega), printZeros_two (by omega)]

/-! ## Inserting the texts -/

/-- A C string of the right length is appended. -/
theorem LogStream.insertT_ok {stream : LogStream} (isOpen : stream.Open) {text : List Char}
    (terminated : nul ∉ text) (rest : List Char)
    (fits : stream.buffer.length + text.length < kSmallBuffer) :
    ∃ next, stream.insertT (text ++ nul :: rest) text.length = .ok next ∧ next.Open ∧
      next.content = stream.content ++ text ∧
      next.buffer.length = stream.buffer.length + text.length := by
  have strlen : (text ++ nul :: rest).takeWhile (· ≠ nul) = text := by
    rw [List.takeWhile_append_of_pos]
    · simp
    · intro character member
      have different : character ≠ nul := by
        rintro rfl
        exact terminated member
      exact decide_eq_true different
  rcases append_ok isOpen text with ⟨next, appended, effect⟩
  rcases effect.made fits with ⟨content, length⟩
  refine ⟨next, ?_, effect.isOpen, content, length⟩
  rw [insertT, strlen, Checked.check_bind_of rfl, List.take_left, appended]

theorem LogStream.Open.insertT {stream next : LogStream} {str : List Char} {len : Nat}
    (isOpen : stream.Open) (ran : stream.insertT str len = .ok next) : next.Open := by
  rcases Checked.check_bind_eq_ok_iff.mp ran with ⟨-, appended⟩
  exact isOpen.append appended

namespace LogClock

variable {civil : CivilTime} {clock next : LogClock}

/-- `t_time` holds the text, as a C string. -/
def Shows (clock : LogClock) (text : List Char) : Prop :=
  ∃ rest, clock.time.toList = text ++ nul :: rest

/-- `t_time` is the text of the last second in the zone in which it was filled. -/
def Coherent (civil : CivilTime) (clock : LogClock) : Prop :=
  ∀ zone, clock.filledIn = some zone →
    ∃ printed, secondText civil zone clock.lastSecond = .ok printed ∧ clock.Shows printed

theorem secondText_eq_ok_iff {zone : TimeZone} {seconds : Int} {printed : List Char} :
    secondText civil zone seconds = .ok printed ↔
      formatSecond civil zone seconds = .ok printed ∧ printed.length = 17 := by
  unfold secondText
  cases formatSecond civil zone seconds with
  | error fault => simp
  | ok text =>
      rw [Checked.ok_bind, Checked.check_bind_eq_ok_iff]
      constructor
      · rintro ⟨length, returned⟩
        cases returned
        exact ⟨rfl, length⟩
      · rintro ⟨same, length⟩
        cases same
        exact ⟨length, rfl⟩

/-- `t_time` after a text was printed to it. -/
def fill (clock : LogClock) (seconds : Int) (printed : List Char) : LogClock :=
  { clock with
    time := place clock.time 0 (printed ++ [nul])
    lastSecond := seconds
    filledIn := some clock.logTimeZone }

theorem fill_shows (clock : LogClock) (seconds : Int) {printed : List Char}
    (length : printed.length = 17) : (clock.fill seconds printed).Shows printed := by
  refine ⟨clock.time.toList.drop (0 + (printed ++ [nul]).length), ?_⟩
  rw [fill, place_toList_eq _ (by simp; omega)]
  simp

/-- A new second is formatted and kept. -/
theorem refresh_new {seconds : Int} (new : seconds ≠ clock.lastSecond) :
    clock.refresh civil seconds = do
      let printed ← secondText civil clock.logTimeZone seconds
      return clock.fill seconds printed := by
  unfold refresh secondText
  rw [if_pos new]
  cases formatSecond civil clock.logTimeZone seconds with
  | error fault => rfl
  | ok printed =>
      rw [Checked.ok_bind, snprintf_ok _ _ (by decide) (by decide), Checked.ok_bind,
        Checked.ok_bind]
      by_cases length : printed.length = 17
      · have whole : printed.take (32 - 1) = printed := List.take_of_length_le (by omega)
        rw [Checked.check_bind_of length, whole]
        dsimp only
        rw [Checked.check_bind_of length]
        rfl
      · have failed : check (printed.length = 17) = .error .assertion := if_neg length
        dsimp only
        rw [failed]
        rfl

theorem Coherent.refresh {seconds : Int} (coherent : clock.Coherent civil)
    (ran : clock.refresh civil seconds = .ok next) : next.Coherent civil := by
  by_cases new : seconds = clock.lastSecond
  · rw [LogClock.refresh, if_neg (not_not.mpr new)] at ran
    cases ran
    exact coherent
  · rw [refresh_new new] at ran
    rcases Checked.bind_eq_ok_iff.mp ran with ⟨printed, text, returned⟩
    cases returned
    intro zone filled
    cases filled
    exact ⟨printed, text, fill_shows clock seconds (secondText_eq_ok_iff.mp text).2⟩

/-- Where the cache, if it is used, was filled in the current zone, refreshing it gives the text
that the second has in that zone. -/
theorem refresh_ok {seconds : Int} (coherent : clock.Coherent civil)
    (filled : seconds = clock.lastSecond → clock.filledIn = some clock.logTimeZone)
    {printed : List Char} (text : secondText civil clock.logTimeZone seconds = .ok printed) :
    ∃ next, clock.refresh civil seconds = .ok next ∧
      next.logTimeZone = clock.logTimeZone ∧ next.Shows printed := by
  by_cases same : seconds = clock.lastSecond
  · rcases coherent _ (filled same) with ⟨kept, keptText, shows⟩
    rw [← same, text] at keptText
    cases keptText
    exact ⟨clock, if_neg (not_not.mpr same), rfl, shows⟩
  · rw [refresh_new same, text]
    exact ⟨_, rfl, rfl, fill_shows clock seconds (secondText_eq_ok_iff.mp text).2⟩

theorem refresh_fault {seconds : Int} (coherent : clock.Coherent civil)
    (filled : seconds = clock.lastSecond → clock.filledIn = some clock.logTimeZone)
    {fault : Fault} (failed : secondText civil clock.logTimeZone seconds = .error fault) :
    clock.refresh civil seconds = .error fault := by
  by_cases same : seconds = clock.lastSecond
  · rcases coherent _ (filled same) with ⟨kept, keptText, -⟩
    rw [← same, failed] at keptText
    cases keptText
  · rw [refresh_new same, failed]
    rfl

theorem writeTime_ok {stream : LogStream} (isOpen : stream.Open)
    (fits : stream.buffer.length + 32 < kSmallBuffer) {printed suffix : List Char}
    (shows : clock.Shows printed) (length : printed.length = 17) (terminated : nul ∉ printed)
    (short : suffix.length ≤ 9) (suffixTerminated : nul ∉ suffix) :
    ∃ next, clock.writeTime stream suffix suffix.length = .ok next ∧
      next.content = stream.content ++ (printed ++ suffix) := by
  rcases shows with ⟨rest, time⟩
  rcases LogStream.insertT_ok isOpen terminated rest (by omega) with
    ⟨middle, first, middleOpen, middleContent, middleLength⟩
  rcases LogStream.insertT_ok middleOpen suffixTerminated [] (by omega) with
    ⟨next, second, -, content, -⟩
  have created : Fmt.create suffix = .ok ⟨suffix, by omega⟩ := dif_pos (by omega)
  refine ⟨next, ?_, ?_⟩
  · rw [writeTime, created, Checked.ok_bind, Checked.check_bind_of rfl, time, ← length, first,
      Checked.ok_bind, second]
  · rw [content, middleContent, List.append_assoc]

theorem formatTime_open {stream written : LogStream} {now : Int} (isOpen : stream.Open)
    (ran : clock.formatTime civil now stream = .ok (next, written)) : written.Open := by
  rcases Checked.bind_eq_ok_iff.mp ran with ⟨refreshed, -, rest⟩
  rcases Checked.bind_eq_ok_iff.mp rest with ⟨written, wrote, returned⟩
  cases returned
  rcases Checked.bind_eq_ok_iff.mp wrote with ⟨us, -, checked⟩
  rcases Checked.check_bind_eq_ok_iff.mp checked with ⟨-, inserts⟩
  rcases Checked.bind_eq_ok_iff.mp inserts with ⟨middle, first, second⟩
  exact (isOpen.insertT first).insertT second

/-! ## Sequences of statements -/

inductive Action
  | log (microSecondsSinceEpoch : Int) (data : Vector Char kSmallBuffer)
  | setTimeZone (zone : TimeZone)

/-- Times of the years from 1970 to 9999. -/
def InYears (microSecondsSinceEpoch : Int) : Prop :=
  0 ≤ microSecondsSinceEpoch ∧ microSecondsSinceEpoch < 253402300800000000

def machine (civil : CivilTime) : Machine LogClock Action where
  initial clock := clock = create
  allowed _ action :=
    match action with
    | .log microSecondsSinceEpoch _ => InYears microSecondsSinceEpoch
    | .setTimeZone _ => True
  step clock action :=
    match action with
    | .log microSecondsSinceEpoch data => do
        return (← clock.formatTime civil microSecondsSinceEpoch (.create data)).1
    | .setTimeZone zone => return clock.setTimeZone zone

theorem formatUncached_ok {zone : TimeZone} {microSecondsSinceEpoch : Int} {tm : Tm}
    (known : brokenDown civil zone (microSecondsSinceEpoch.tdiv 1000000) = .ok tm)
    (printable : tm.Printable) :
    ∃ printed, formatUncached civil zone microSecondsSinceEpoch = .ok printed := by
  rcases dateTime_ok printable with ⟨printed, formatted, length⟩
  have text : secondText civil zone (microSecondsSinceEpoch.tdiv 1000000) = .ok printed := by
    refine secondText_eq_ok_iff.mpr ⟨?_, length⟩
    rw [formatSecond, known, Checked.ok_bind, formatted]
  rw [formatUncached, text]
  exact ⟨_, rfl⟩

theorem formatTime_eq (coherent : clock.Coherent civil) {microSecondsSinceEpoch : Int}
    (years : InYears microSecondsSinceEpoch)
    (filled : microSecondsSinceEpoch.tdiv 1000000 = clock.lastSecond →
      clock.filledIn = some clock.logTimeZone)
    (data : Vector Char kSmallBuffer) :
    (fun result => result.2.content) <$>
        clock.formatTime civil microSecondsSinceEpoch (.create data) =
      formatUncached civil clock.logTimeZone microSecondsSinceEpoch := by
  have range : 0 ≤ microSecondsSinceEpoch.tmod 1000000 ∧
      microSecondsSinceEpoch.tmod 1000000 < 1000000 :=
    ⟨Int.tmod_nonneg _ years.1, Int.tmod_lt_of_pos _ (by decide)⟩
  have cast : castInt32 (microSecondsSinceEpoch.tmod 1000000) = _ :=
    TimeZone.castInt32_of (by omega)
  unfold formatTime formatUncached
  dsimp only
  cases text : secondText civil clock.logTimeZone (microSecondsSinceEpoch.tdiv 1000000) with
  | error fault =>
      rw [refresh_fault coherent filled text]
      rfl
  | ok printed =>
      rcases secondText_eq_ok_iff.mp text with ⟨formatted, length⟩
      rcases refresh_ok coherent filled text with ⟨next, refreshed, zone, shows⟩
      have suffix := fraction_length clock.logTimeZone range
      have room : (LogStream.create data).buffer.length + 32 < kSmallBuffer :=
        show 0 + 32 < kSmallBuffer by decide
      rcases writeTime_ok (LogStream.create_open data) room shows length
        (nul_not_mem_formatSecond formatted) (suffix.trans_le (by split <;> decide))
        (nul_not_mem_fraction clock.logTimeZone _) with ⟨stream, written, content⟩
      rw [refreshed, Checked.ok_bind, zone, cast, ← suffix, written]
      exact congrArg Except.ok content

theorem coherent_of_reachable (reachable : (machine civil).Reachable clock) :
    clock.Coherent civil := by
  refine reachable.invariant (Coherent civil) ?_ ?_
  · intro first initial
    cases initial
    intro zone filled
    cases filled
  · intro current action next coherent allowed stepped
    cases action with
    | setTimeZone zone =>
        cases stepped
        exact coherent
    | log microSecondsSinceEpoch data =>
        rcases Checked.bind_eq_ok_iff.mp stepped with ⟨⟨after, stream⟩, formatted, returned⟩
        cases returned
        rcases Checked.bind_eq_ok_iff.mp formatted with ⟨refreshed, ran, rest⟩
        rcases Checked.bind_eq_ok_iff.mp rest with ⟨written, -, returned⟩
        cases returned
        exact coherent.refresh ran

/-- `gmtime_r` and `timegm` as the library's own conversions. -/
def universalTime : CivilTime where
  gmtimeR seconds := (TimeZone.toUtcTime seconds true).toOption.getD Tm.zero
  timegm tm := (TimeZone.fromUtcTime tm).toOption.getD 0

/-- One hour east of Greenwich. -/
def hourEast : TimeZone where
  data := some { transitions := [], localtimes := [⟨3600, false, 0⟩], abbreviation := [] }

instance (civil : CivilTime) (clock : LogClock) (action : Action) :
    Decidable ((machine civil).allowed clock action) :=
  match action with
  | .log _ _ => inferInstanceAs (Decidable (_ ∧ _))
  | .setTimeZone _ => inferInstanceAs (Decidable True)

/-- A statement prints its own time in the current zone, unless it finds a text in the cache
that was filled in another zone, or never. -/
theorem formatTime_uncached (reachable : (machine civil).Reachable clock)
    (microSecondsSinceEpoch : Int) (years : InYears microSecondsSinceEpoch)
    (filled : microSecondsSinceEpoch.tdiv 1000000 = clock.lastSecond →
      clock.filledIn = some clock.logTimeZone)
    (data : Vector Char kSmallBuffer) :
    (fun result => result.2.content) <$>
        clock.formatTime civil microSecondsSinceEpoch (.create data) =
      formatUncached civil clock.logTimeZone microSecondsSinceEpoch ∧
    ∀ tm, brokenDown civil clock.logTimeZone (microSecondsSinceEpoch.tdiv 1000000) = .ok tm →
      tm.Printable →
      ∃ printed, formatUncached civil clock.logTimeZone microSecondsSinceEpoch = .ok printed :=
  ⟨formatTime_eq (coherent_of_reachable reachable) years filled data,
    fun _ => formatUncached_ok⟩

/-- The second statement of a second, from the cache. -/
theorem formatTime_uncached_same_second :
    ∃ clock, (machine universalTime).Reachable clock ∧ clock.lastSecond = 1 ∧
      (fun result => result.2.content) <$>
          clock.formatTime universalTime 1500000 (.create (Vector.replicate kSmallBuffer ' ')) =
        .ok "19700101 00:00:01.500000Z ".toList := by
  have run := Machine.exists_reachable (machine universalTime)
    (fun clock => clock.lastSecond = 1 ∧ clock.logTimeZone = ⟨none⟩ ∧
      clock.filledIn = some ⟨none⟩)
    rfl [.log 1000000 (Vector.replicate kSmallBuffer ' ')] (by decide +kernel)
  rcases run with ⟨clock, reachable, second, zone, filled⟩
  refine ⟨clock, reachable, second, ?_⟩
  have uncached := formatTime_uncached reachable 1500000
    ⟨by decide, by decide⟩ (fun _ => by rw [filled, zone]) (Vector.replicate kSmallBuffer ' ')
  rw [uncached.1, zone]
  decide +kernel

/-- The cache is used before it was filled, where the assertion on its length fails, and after
the time zone was changed, where the text is that of the old zone. -/
theorem formatTime_cached_differs :
    (create.formatTime universalTime 0 (.create (Vector.replicate kSmallBuffer ' ')) =
        .error .assertion ∧
      formatUncached universalTime create.logTimeZone 0 =
        .ok "19700101 00:00:00.000000Z ".toList) ∧
    ∃ clock, (machine universalTime).Reachable clock ∧
      (fun result => result.2.content) <$>
          clock.formatTime universalTime 1500000 (.create (Vector.replicate kSmallBuffer ' ')) =
        .ok "19700101 00:00:01.500000 ".toList ∧
      formatUncached universalTime clock.logTimeZone 1500000 =
        .ok "19700101 01:00:01.500000 ".toList := by
  refine ⟨by decide +kernel, ?_⟩
  exact Machine.exists_reachable (machine universalTime)
    (fun clock => (fun result => result.2.content) <$>
          clock.formatTime universalTime 1500000 (.create (Vector.replicate kSmallBuffer ' ')) =
        .ok "19700101 00:00:01.500000 ".toList ∧
      formatUncached universalTime clock.logTimeZone 1500000 =
        .ok "19700101 01:00:01.500000 ".toList)
    rfl [.log 1000000 (Vector.replicate kSmallBuffer ' '), .setTimeZone hourEast]
    (by decide +kernel)

end LogClock

end Ccnet.Base
