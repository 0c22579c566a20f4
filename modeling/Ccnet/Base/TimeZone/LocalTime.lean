import Ccnet.Base.TimeZone.Utc
import Ccnet.Foundation.LowerBound
import Mathlib.Data.List.Chain

namespace Ccnet.Base

/-! Local time of `base/time_zone.cc`. A zone is a list of transitions, each to a type of
local time; the type in force is found by bisection. Times are integers, of which
`time_t` holds the ones that matter. -/

structure Transition where
  gmttime : Int
  localtime : Int
  localtimeIdx : Nat
  deriving DecidableEq, Repr

structure Comp where
  compareGmt : Bool
  deriving DecidableEq, Repr

namespace Comp

def key (comp : Comp) (transition : Transition) : Int :=
  if comp.compareGmt then transition.gmttime else transition.localtime

def less (comp : Comp) (lhs rhs : Transition) : Bool := comp.key lhs < comp.key rhs

def equal (comp : Comp) (lhs rhs : Transition) : Bool := comp.key lhs = comp.key rhs

end Comp

structure Localtime where
  gmtOffset : Int
  isDst : Bool
  arrbIdx : Nat
  deriving DecidableEq, Repr

/-- `TimeZone::Data` -/
structure ZoneData where
  transitions : List Transition
  localtimes : List Localtime
  abbreviation : List UInt8
  deriving DecidableEq, Repr

def findLocaltime (data : ZoneData) (sentry : Transition) (comp : Comp) :
    Checked Localtime :=
  if data.transitions.head?.all (comp.less sentry) then
    element data.localtimes 0
  else do
    let transI ← lowerBound (comp.less · sentry) data.transitions
    if transI < data.transitions.length then do
      let transition ← element data.transitions transI
      if comp.equal sentry transition then
        element data.localtimes transition.localtimeIdx
      else do
        check (transI ≠ 0)
        let previous ← element data.transitions (transI - 1)
        element data.localtimes previous.localtimeIdx
    else do
      let back ← element data.transitions (data.transitions.length - 1)
      element data.localtimes back.localtimeIdx

/-- `gmtime_r` and `timegm` of the C library. -/
structure CivilTime where
  gmtimeR : Int → Tm
  timegm : Tm → Int

/-- `timegm` gives back what `gmtime_r` was given, and does not look at the zone. -/
def CivilTime.Inverse (civil : CivilTime) : Prop :=
  ∀ seconds isdst gmtoff zone,
    civil.timegm { civil.gmtimeR seconds with isdst, gmtoff, zone } = seconds

/-- `data_` of a `TimeZone`. -/
structure TimeZone where
  data : Option ZoneData
  deriving DecidableEq, Repr

namespace TimeZone

def valid (zone : TimeZone) : Bool := zone.data.isSome

/-- `assert(data_ != NULL)` -/
def getData (zone : TimeZone) : Checked ZoneData :=
  match zone.data with
  | some data => .ok data
  | none => .error .assertion

/-- The text at a position of `abbreviation`, up to its end. A string may be indexed at
its size, where the final zero is. -/
def zoneText (data : ZoneData) (arrbIdx : Nat) : Checked (List UInt8) := do
  checkIndex arrbIdx (data.abbreviation.length + 1)
  return (data.abbreviation.drop arrbIdx).takeWhile (· ≠ 0)

def toLocalTime (civil : CivilTime) (zone : TimeZone) (seconds : Int) : Checked Tm := do
  let data ← zone.getData
  let localtime ← findLocaltime data ⟨seconds, 0, 0⟩ ⟨true⟩
  let localSeconds := seconds + localtime.gmtOffset
  let zoneText ← zoneText data localtime.arrbIdx
  return { civil.gmtimeR localSeconds with
    isdst := if localtime.isDst then 1 else 0
    gmtoff := localtime.gmtOffset
    zone := zoneText }

def fromLocalTime (civil : CivilTime) (zone : TimeZone) (localTm : Tm) : Checked Int := do
  let data ← zone.getData
  let seconds := civil.timegm localTm
  let localtime ← findLocaltime data ⟨0, seconds, 0⟩ ⟨false⟩
  if localTm.isdst ≠ 0 then do
    let tryTm ← zone.toLocalTime civil (seconds - localtime.gmtOffset)
    if tryTm.isdst = 0 ∧ tryTm.hour = localTm.hour ∧ tryTm.min = localTm.min then
      return seconds - 3600 - localtime.gmtOffset
    else
      return seconds - localtime.gmtOffset
  else
    return seconds - localtime.gmtOffset

end TimeZone

/-! ## The type in force -/

/-- The type of the last transition that a time has reached. -/
def inForce (key : Transition → Int) (typeOf : Transition → Localtime) :
    Localtime → List Transition → Int → Localtime
  | current, [], _ => current
  | current, transition :: later, time =>
      if time < key transition then current
      else inForce key typeOf (typeOf transition) later time

/-- With increasing keys, the type in force is that of the last transition before the
first one that was not reached. -/
theorem inForce_eq {key : Transition → Int} {typeOf : Transition → Localtime}
    {current : Localtime} {transitions : List Transition} {time : Int} {count : Nat}
    (sorted : transitions.Pairwise (key · < key ·)) (inside : count ≤ transitions.length)
    (before : ∀ transition ∈ (transitions.take count).getLast?, key transition ≤ time)
    (after : ∀ transition ∈ transitions[count]?, time < key transition) :
    inForce key typeOf current transitions time =
      ((transitions.take count).getLast?.map typeOf).getD current := by
  induction transitions generalizing current count with
  | nil =>
      rw [List.take_nil]
      rfl
  | cons transition later induction =>
      rcases List.pairwise_cons.mp sorted with ⟨first, laterSorted⟩
      cases count with
      | zero =>
          rw [inForce, if_pos (after transition rfl)]
          rfl
      | succ count =>
          rw [List.take_succ_cons, List.getLast?_cons] at before
          have reached : key transition ≤ time := by
            have last := before _ rfl
            cases isLast : (later.take count).getLast? with
            | none => rwa [isLast] at last
            | some found =>
                rw [isLast] at last
                have member := List.mem_of_mem_take (List.mem_of_getLast? isLast)
                exact Int.le_trans (Int.le_of_lt (first found member)) last
          rw [inForce, if_neg (Int.not_lt.mpr reached),
            induction laterSorted (Nat.le_of_succ_le_succ inside) ?_ after,
            List.take_succ_cons, List.getLast?_cons]
          · cases (later.take count).getLast? <;> rfl
          · intro found isLast
            rw [Option.mem_def.mp isLast] at before
            exact before found rfl

/-! ## What `findLocaltime` finds -/

/-- The type of the last of the first transitions. -/
def ZoneData.typeAfter (data : ZoneData) (count : Nat) : Checked Localtime :=
  match (data.transitions.take count).getLast? with
  | none => element data.localtimes 0
  | some transition => element data.localtimes transition.localtimeIdx

/-- Sorted or not, the bisection never leaves the transitions, and the assertion holds.
It ends behind a transition that was reached, and ahead of one that was not unless the
time is exactly that of the former. -/
theorem findLocaltime_eq (data : ZoneData) (sentry : Transition) (comp : Comp) :
    ∃ count, count ≤ data.transitions.length ∧
      findLocaltime data sentry comp = data.typeAfter count ∧
      (∀ transition ∈ (data.transitions.take count).getLast?,
        comp.key transition ≤ comp.key sentry) ∧
      ∀ transition ∈ data.transitions[count]?, comp.key sentry < comp.key transition ∨
        ∃ last ∈ (data.transitions.take count).getLast?, comp.key last = comp.key sentry := by
  unfold findLocaltime
  cases early : data.transitions.head?.all (comp.less sentry) with
  | true =>
      refine ⟨0, Nat.zero_le _, rfl, ?_, ?_⟩
      · intro transition member
        cases member
      · intro transition member
        rw [← List.head?_eq_getElem?] at member
        rw [Option.mem_def.mp member] at early
        exact .inl (of_decide_eq_true early)
  | false =>
      rcases lowerBound_ok (comp.less · sentry) data.transitions with ⟨found, ran, brackets⟩
      rw [if_neg Bool.false_ne_true, ran, Checked.ok_bind]
      by_cases isEnd : found < data.transitions.length
      · have present := List.getElem?_eq_getElem isEnd
        generalize data.transitions[found] = transition at present
        have notBelow := of_decide_eq_false (brackets.after transition present)
        rw [if_pos isEnd, element_of present, Checked.ok_bind]
        cases same : comp.equal sentry transition with
        | true =>
            have last := getLast?_take_of_getElem? present
            have equal : comp.key sentry = comp.key transition := of_decide_eq_true same
            refine ⟨found + 1, isEnd, ?_, ?_, ?_⟩
            · rw [ZoneData.typeAfter, last]
              rfl
            · intro other member
              cases last.symm.trans member
              exact Int.le_of_eq equal.symm
            · intro other _
              exact .inr ⟨transition, last, equal.symm⟩
        | false =>
            have different : comp.key sentry ≠ comp.key transition := of_decide_eq_false same
            have positive : found ≠ 0 := by
              rintro rfl
              rw [← List.head?_eq_getElem?] at present
              rw [present] at early
              have notBefore := of_decide_eq_false early
              omega
            rcases brackets.exists_last (Nat.pos_of_ne_zero positive) with
              ⟨previous, isPrevious, last, isBelow⟩
            refine ⟨found, Nat.le_of_lt isEnd, ?_, ?_, ?_⟩
            · rw [if_neg Bool.false_ne_true, Checked.check_bind_of positive,
                element_of isPrevious, Checked.ok_bind, ZoneData.typeAfter, last]
            · intro other member
              cases last.symm.trans member
              exact Int.le_of_lt (of_decide_eq_true isBelow)
            · intro other member
              cases present.symm.trans member
              exact .inl (by omega)
      · have atEnd : found = data.transitions.length :=
          Nat.le_antisymm brackets.inside (Nat.le_of_not_lt isEnd)
        have positive : 0 < found := by
          rw [atEnd, List.length_pos_iff]
          intro empty
          rw [empty] at early
          cases early
        rcases brackets.exists_last positive with ⟨previous, isPrevious, last, isBelow⟩
        refine ⟨found, brackets.inside, ?_, ?_, ?_⟩
        · rw [if_neg isEnd, ← atEnd, element_of isPrevious, Checked.ok_bind,
            ZoneData.typeAfter, last]
        · intro other member
          cases last.symm.trans member
          exact Int.le_of_lt (of_decide_eq_true isBelow)
        · intro other member
          rw [atEnd, List.getElem?_eq_none (Nat.le_refl _)] at member
          cases member

/-- Where the transitions are sorted, none was reached behind the one that was found. -/
theorem findLocaltime_sorted {data : ZoneData} {comp : Comp}
    (sorted : data.transitions.Pairwise (comp.key · < comp.key ·)) (sentry : Transition) :
    ∃ count, count ≤ data.transitions.length ∧
      findLocaltime data sentry comp = data.typeAfter count ∧
      (∀ transition ∈ (data.transitions.take count).getLast?,
        comp.key transition ≤ comp.key sentry) ∧
      ∀ transition ∈ data.transitions[count]?, comp.key sentry < comp.key transition := by
  rcases findLocaltime_eq data sentry comp with ⟨count, inside, found, before, after⟩
  refine ⟨count, inside, found, before, ?_⟩
  intro transition member
  rcases after transition member with later | ⟨last, isLast, same⟩
  · exact later
  · rw [← List.take_append_drop count data.transitions, List.pairwise_append] at sorted
    have dropped : transition ∈ data.transitions.drop count := by
      apply List.mem_of_getElem? (i := 0)
      rw [List.getElem?_drop]
      exact member
    rw [← same]
    exact sorted.2.2 last (List.mem_of_getLast? isLast) transition dropped

/-! ## Sound zones -/

/-- Every index of the data is that of an element. -/
structure ZoneData.Sound (data : ZoneData) : Prop where
  localtimes : data.localtimes ≠ []
  localtimeIdx : ∀ transition ∈ data.transitions,
    transition.localtimeIdx < data.localtimes.length
  arrbIdx : ∀ localtime ∈ data.localtimes, localtime.arrbIdx < data.abbreviation.length

namespace ZoneData

/-- The type of a transition whose index is valid. -/
def typeOf (data : ZoneData) (transition : Transition) : Localtime :=
  data.localtimes.getD transition.localtimeIdx ⟨0, false, 0⟩

/-- The type before the first transition. -/
def firstType (data : ZoneData) : Localtime := data.localtimes.getD 0 ⟨0, false, 0⟩

theorem element_localtimes (data : ZoneData) {index : Nat}
    (inside : index < data.localtimes.length) :
    element data.localtimes index = .ok (data.localtimes.getD index ⟨0, false, 0⟩) := by
  rw [List.getD_eq_getElem?_getD, List.getElem?_eq_getElem inside]
  exact element_of (List.getElem?_eq_getElem inside)

/-- Where the transitions are sorted, the bisection finds the type in force. -/
theorem Sound.findLocaltime_eq_inForce {data : ZoneData} (sound : data.Sound) {comp : Comp}
    (sorted : data.transitions.Pairwise (comp.key · < comp.key ·)) (sentry : Transition) :
    findLocaltime data sentry comp = .ok (inForce comp.key data.typeOf data.firstType
      data.transitions (comp.key sentry)) := by
  rcases findLocaltime_sorted sorted sentry with ⟨count, inside, found, before, notReached⟩
  rw [found, inForce_eq sorted inside before notReached, ZoneData.typeAfter]
  cases isLast : (data.transitions.take count).getLast? with
  | none => exact element_localtimes data (List.length_pos_iff.mpr sound.localtimes)
  | some transition =>
      exact element_localtimes data (sound.localtimeIdx transition
        (List.mem_of_mem_take (List.mem_of_getLast? isLast)))

end ZoneData

/-! ## Regular zones -/

/-- A transition follows another after more than an hour, on both clocks. -/
def Spaced (transition next : Transition) : Prop :=
  transition.gmttime + 3600 < next.gmttime ∧ transition.localtime + 3600 < next.localtime

instance : IsTrans Transition Spaced where
  trans first second third before after := by
    unfold Spaced at *
    omega

/-- Each transition's local time is that of its type, and where clocks are set back, they
are from summer time and by an hour. -/
def Changes (typeOf : Transition → Localtime) : Localtime → List Transition → Prop
  | _, [] => True
  | current, transition :: later =>
      transition.localtime = transition.gmttime + (typeOf transition).gmtOffset ∧
      ((typeOf transition).gmtOffset < current.gmtOffset →
        current.isDst = true ∧ (typeOf transition).isDst = false ∧
        (typeOf transition).gmtOffset = current.gmtOffset - 3600) ∧
      Changes typeOf (typeOf transition) later

structure ZoneData.Regular (data : ZoneData) : Prop extends data.Sound where
  spaced : data.transitions.IsChain Spaced
  changes : Changes data.typeOf data.firstType data.transitions

namespace ZoneData.Regular

variable {data : ZoneData}

theorem pairwise (regular : data.Regular) : data.transitions.Pairwise Spaced :=
  List.isChain_iff_pairwise.mp regular.spaced

theorem sorted (regular : data.Regular) (comp : Comp) :
    data.transitions.Pairwise (comp.key · < comp.key ·) := by
  refine regular.pairwise.imp ?_
  intro transition next spaced
  unfold Spaced at spaced
  unfold Comp.key
  split <;> omega

theorem findLocaltime_inForce (regular : data.Regular) (sentry : Transition) (comp : Comp) :
    findLocaltime data sentry comp = .ok (inForce comp.key data.typeOf data.firstType
      data.transitions (comp.key sentry)) :=
  regular.toSound.findLocaltime_eq_inForce (regular.sorted comp) sentry

end ZoneData.Regular

/-! ## The two searches -/

section Searches

variable {typeOf : Transition → Localtime} {current : Localtime}
  {transitions later : List Transition} {transition : Transition} {seconds : Int}

/-- Before the first transition that was not reached, nothing changes. -/
theorem inForce_of_before {key : Transition → Int} {time : Int}
    (before : ∀ next ∈ transitions, time < key next) :
    inForce key typeOf current transitions time = current := by
  cases transitions with
  | nil => rfl
  | cons next later => rw [inForce, if_pos (before next List.mem_cons_self)]

/-- After a transition, the local clock shows its local time or later. -/
theorem localtime_le (isLocal : transition.localtime =
      transition.gmttime + (typeOf transition).gmtOffset)
    (changes : Changes typeOf (typeOf transition) later)
    (spaced : (transition :: later).Pairwise Spaced) (reached : transition.gmttime ≤ seconds) :
    transition.localtime ≤ seconds +
      (inForce Transition.gmttime typeOf (typeOf transition) later seconds).gmtOffset := by
  induction later generalizing transition with
  | nil =>
      rw [inForce]
      omega
  | cons next later induction =>
      rw [inForce]
      split
      · omega
      · rename_i passed
        rcases List.pairwise_cons.mp spaced with ⟨first, laterSpaced⟩
        have apart := (first next List.mem_cons_self).2
        have nextReached := induction changes.1 changes.2.2 laterSpaced (Int.not_lt.mp passed)
        omega

/-- The search by local time finds the type in force, or, in the last hour of summer time,
the one that follows it and is in force an hour later. -/
theorem searches_agree (changes : Changes typeOf current transitions)
    (spaced : transitions.Pairwise Spaced) (seconds : Int) :
    let here := inForce Transition.gmttime typeOf current transitions seconds
    let there := inForce Transition.localtime typeOf current transitions
      (seconds + here.gmtOffset)
    there = here ∨ here.isDst = true ∧ there.isDst = false ∧
      there.gmtOffset = here.gmtOffset - 3600 ∧
      inForce Transition.gmttime typeOf current transitions (seconds + 3600) = there := by
  induction transitions generalizing current with
  | nil => exact .inl rfl
  | cons transition later induction =>
      rcases changes with ⟨isLocal, backward, laterChanges⟩
      rcases List.pairwise_cons.mp spaced with ⟨first, laterSpaced⟩
      by_cases reached : seconds < transition.gmttime
      · simp only [inForce, if_pos reached]
        by_cases shown : seconds + current.gmtOffset < transition.localtime
        · rw [if_pos shown]
          exact .inl rfl
        · -- The clock already shows the time of the transition, so it is set back there.
          rcases backward (by omega) with ⟨summer, winter, hour⟩
          have localNext : inForce Transition.localtime typeOf (typeOf transition) later
              (seconds + current.gmtOffset) = typeOf transition :=
            inForce_of_before fun next member => by
              have apart := (first next member).2
              omega
          have gmtNext : inForce Transition.gmttime typeOf (typeOf transition) later
              (seconds + 3600) = typeOf transition :=
            inForce_of_before fun next member => by
              have apart := (first next member).1
              omega
          rw [if_neg shown, localNext, if_neg (by omega), gmtNext]
          exact .inr ⟨summer, winter, hour, rfl⟩
      · have shown := localtime_le isLocal laterChanges spaced (Int.not_lt.mp reached)
        have next := induction laterChanges laterSpaced
        simp only [inForce, if_neg reached, if_neg (Int.not_lt.mpr shown)]
        rw [if_neg (by omega)]
        exact next

end Searches

/-! ## Round trips -/

namespace TimeZone

variable {civil : CivilTime} {data : ZoneData}

/-- What `toLocalTime` shows when a type is in force. -/
def shown (civil : CivilTime) (data : ZoneData) (localtime : Localtime) (localSeconds : Int) :
    Tm :=
  { civil.gmtimeR localSeconds with
    isdst := if localtime.isDst then 1 else 0
    gmtoff := localtime.gmtOffset
    zone := (data.abbreviation.drop localtime.arrbIdx).takeWhile (· ≠ 0) }

/-- The type in force, by universal time. -/
def typeAt (data : ZoneData) (seconds : Int) : Localtime :=
  inForce Transition.gmttime data.typeOf data.firstType data.transitions seconds

theorem findLocaltime_mem {sentry : Transition} {comp : Comp} {localtime : Localtime}
    (found : findLocaltime data sentry comp = .ok localtime) :
    localtime ∈ data.localtimes := by
  rcases findLocaltime_eq data sentry comp with ⟨count, _, same, _⟩
  rw [same, ZoneData.typeAfter] at found
  split at found
  · exact mem_of_element found
  · exact mem_of_element found

/-- The type found for a local time. -/
def typeShown (data : ZoneData) (localSeconds : Int) : Localtime :=
  inForce Transition.localtime data.typeOf data.firstType data.transitions localSeconds

theorem findLocaltime_gmt (regular : data.Regular) (seconds : Int) :
    findLocaltime data ⟨seconds, 0, 0⟩ ⟨true⟩ = .ok (typeAt data seconds) :=
  regular.findLocaltime_inForce ⟨seconds, 0, 0⟩ ⟨true⟩

theorem findLocaltime_local (regular : data.Regular) (localSeconds : Int) :
    findLocaltime data ⟨0, localSeconds, 0⟩ ⟨false⟩ = .ok (typeShown data localSeconds) :=
  regular.findLocaltime_inForce ⟨0, localSeconds, 0⟩ ⟨false⟩

theorem toLocalTime_eq (civil : CivilTime) (regular : data.Regular) (seconds : Int) :
    toLocalTime civil ⟨some data⟩ seconds = .ok (shown civil data (typeAt data seconds)
      (seconds + (typeAt data seconds).gmtOffset)) := by
  have found := findLocaltime_gmt regular seconds
  have inside := regular.arrbIdx _ (findLocaltime_mem found)
  rw [toLocalTime, getData]
  dsimp only
  rw [Checked.ok_bind, found, Checked.ok_bind, zoneText,
    checkIndex_of (Nat.lt_succ_of_lt inside)]
  rfl

theorem typeShown_cases (regular : data.Regular) {seconds localSeconds : Int}
    (isLocal : seconds + (typeAt data seconds).gmtOffset = localSeconds) :
    typeShown data localSeconds = typeAt data seconds ∨
    (typeAt data seconds).isDst = true ∧ (typeShown data localSeconds).isDst = false ∧
      (typeShown data localSeconds).gmtOffset = (typeAt data seconds).gmtOffset - 3600 ∧
      typeAt data (seconds + 3600) = typeShown data localSeconds := by
  subst isLocal
  exact searches_agree regular.changes regular.pairwise seconds

/-- Both searches on one broken-down time lead back to the seconds it was made from. -/
theorem fromLocalTime_shown (inverse : civil.Inverse) (regular : data.Regular)
    {seconds localSeconds : Int}
    (isLocal : seconds + (typeAt data seconds).gmtOffset = localSeconds) :
    fromLocalTime civil ⟨some data⟩ (shown civil data (typeAt data seconds) localSeconds) =
      .ok seconds := by
  have read : civil.timegm (shown civil data (typeAt data seconds) localSeconds) =
      localSeconds := inverse _ _ _ _
  rw [fromLocalTime, getData]
  dsimp only
  rw [Checked.ok_bind, read, findLocaltime_local regular, Checked.ok_bind]
  rcases typeShown_cases regular isLocal with same | ⟨summer, winter, hour, later⟩
  · have back : localSeconds - (typeAt data seconds).gmtOffset = seconds := by omega
    rw [same, back, toLocalTime_eq civil regular, isLocal, Checked.ok_bind]
    cases isDst : (typeAt data seconds).isDst <;> simp [shown, isDst] <;> rfl
  · -- An hour later the clock shows the same, without summer time.
    have back : localSeconds - (typeShown data localSeconds).gmtOffset = seconds + 3600 := by
      omega
    have again : seconds + 3600 + (typeShown data localSeconds).gmtOffset = localSeconds := by
      omega
    have corrected : localSeconds - 3600 - (typeShown data localSeconds).gmtOffset = seconds := by
      omega
    rw [back, corrected, toLocalTime_eq civil regular, later, again, Checked.ok_bind]
    simp [shown, summer, winter]
    rfl

/-- Two times that the local clock shows alike differ in whether it is summer time. -/
theorem eq_of_isDst (regular : data.Regular) {seconds other localSeconds : Int}
    (isLocal : seconds + (typeAt data seconds).gmtOffset = localSeconds)
    (otherLocal : other + (typeAt data other).gmtOffset = localSeconds)
    (same : (typeAt data seconds).isDst = (typeAt data other).isDst) : seconds = other := by
  rcases typeShown_cases regular isLocal with here | ⟨summer, winter, hour, _⟩
  · rcases typeShown_cases regular otherLocal with there | ⟨summer, winter, _, _⟩
    · rw [← here, there] at isLocal
      omega
    · rw [here, same, summer] at winter
      cases winter
  · rcases typeShown_cases regular otherLocal with there | ⟨_, _, otherHour, _⟩
    · rw [there, ← same, summer] at winter
      cases winter
    · omega

/-- On a regular zone every time converts to local time and back, and the fields of the
local time with `tm_isdst` tell two times apart. -/
theorem local_round_trip (civil : CivilTime) (data : ZoneData) (inverse : civil.Inverse)
    (regular : data.Regular) :
    (∀ seconds, ∃ localTm, toLocalTime civil ⟨some data⟩ seconds = .ok localTm ∧
      fromLocalTime civil ⟨some data⟩ localTm = .ok seconds) ∧
    (∀ seconds other localTm otherTm,
      toLocalTime civil ⟨some data⟩ seconds = .ok localTm →
      toLocalTime civil ⟨some data⟩ other = .ok otherTm →
      { localTm with gmtoff := 0, zone := [] } = { otherTm with gmtoff := 0, zone := [] } →
      seconds = other) := by
  constructor
  · intro seconds
    exact ⟨_, toLocalTime_eq civil regular seconds, fromLocalTime_shown inverse regular rfl⟩
  · intro seconds other localTm otherTm converted otherConverted same
    rw [toLocalTime_eq civil regular] at converted otherConverted
    cases converted
    cases otherConverted
    have read := congrArg civil.timegm same
    have isLocal : seconds + (typeAt data seconds).gmtOffset =
        other + (typeAt data other).gmtOffset :=
      (inverse _ _ _ _).symm.trans (read.trans (inverse _ _ _ _))
    have isdst := congrArg Tm.isdst same
    refine eq_of_isDst regular isLocal rfl ?_
    cases here : (typeAt data seconds).isDst <;> cases there : (typeAt data other).isDst <;>
      simp_all [shown]

/-- The calendar without leap seconds. As in the C library, months may carry into the year. -/
def calendarTime : CivilTime where
  gmtimeR seconds := utc (dateOf (seconds / 86400 + kJulianDayOf1970_01_01)) (seconds % 86400)
  timegm tm :=
    let year := tm.year + 1900 + tm.mon / 12
    let days := Calendar.daysBeforeYear year + Calendar.daysInMonths year (tm.mon % 12).toNat +
      tm.mday - 1 - Calendar.daysBeforeYear 1970
    days * 86400 + tm.hour * 3600 + tm.min * 60 + tm.sec

theorem calendarTime_inverse : calendarTime.Inverse := by
  intro seconds isdst gmtoff zone
  have day := julianDay_dateOf (seconds / 86400 + kJulianDayOf1970_01_01)
  simp only [calendarTime, utc]
  generalize dateOf (seconds / 86400 + kJulianDayOf1970_01_01) = date at day
  have first := date.month_pos
  have last := date.month_le
  have carry : (date.month - 1) / 12 = 0 ∧ (date.month - 1) % 12 = date.month - 1 := by omega
  have epoch : Calendar.daysBeforeYear 1970 = 719162 := rfl
  rw [kJulianDayOf1970_01_01_eq, julianDay, Calendar.Date.ordinal, Calendar.Date.dayOfYear] at day
  rw [carry.1, carry.2, Int.sub_add_cancel, Int.add_zero, epoch]
  omega

example : calendarTime.gmtimeR 106200 = {
    sec := 0, min := 30, hour := 5, mday := 2, mon := 0, year := 70, wday := 5, yday := 1,
    isdst := 0, gmtoff := 0, zone := kGmt } := rfl

/-- Summer time, two hours ahead, that ends at the second 100000. -/
def autumn : ZoneData where
  transitions := [⟨100000, 103600, 1⟩]
  localtimes := [⟨7200, true, 0⟩, ⟨3600, false, 4⟩]
  abbreviation := [67, 69, 83, 84, 0, 67, 69, 84, 0]

theorem autumn_regular : autumn.Regular where
  localtimes := by decide
  localtimeIdx := by decide
  arrbIdx := by decide
  spaced := by simp [autumn]
  changes := by simp [autumn, Changes, ZoneData.typeOf, ZoneData.firstType]

/-- The repeated hour, the first time and the second. -/
theorem local_round_trip_repeated :
    ∃ first second, toLocalTime calendarTime ⟨some autumn⟩ 99000 = .ok first ∧
      fromLocalTime calendarTime ⟨some autumn⟩ first = .ok 99000 ∧
      toLocalTime calendarTime ⟨some autumn⟩ 102600 = .ok second ∧
      fromLocalTime calendarTime ⟨some autumn⟩ second = .ok 102600 := by
  rcases local_round_trip calendarTime autumn calendarTime_inverse autumn_regular with ⟨back, _⟩
  rcases back 99000 with ⟨first, shownFirst, backFirst⟩
  rcases back 102600 with ⟨second, shownSecond, backSecond⟩
  exact ⟨first, second, shownFirst, backFirst, shownSecond, backSecond⟩

end TimeZone

end Ccnet.Base
