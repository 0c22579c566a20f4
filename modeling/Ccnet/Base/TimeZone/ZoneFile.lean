import Ccnet.Base.TimeZone.LocalTime
import Ccnet.Foundation.Attempt

namespace Ccnet.Base

open Attempt

/-! `readTimeZoneFile` and the constructor of `TimeZone` that calls it. The file is read
field by field into the zone's data; an exception is caught, and leaves what was read. -/

/-- What is left of the file, and the data read so far. -/
structure Reader where
  rest : List UInt8
  data : ZoneData
  deriving DecidableEq, Repr

namespace Reader

/-- `fread` and the comparison of what it returns. -/
def readExactly (n : Nat) (what : String) : Attempt Reader (List UInt8) := do
  let reader ← get
  modify fun reader => { reader with rest := reader.rest.drop n }
  require ((reader.rest.take n).length = n) what
  return reader.rest.take n

/-- A buffer on the stack cannot have a negative size. -/
def readBytes (n : Int) : Attempt Reader (List UInt8) := do
  lift (if 0 ≤ n then .ok () else .error .outOfRange)
  readExactly n.toNat "no enough data"

/-- The signed 32-bit number with these bytes, the highest first. -/
def be32toh (bytes : List UInt8) : Int :=
  Int.bmod (bytes.foldl (fun value byte => 256 * value + byte.toNat) 0) 4294967296

def readInt32 : Attempt Reader Int := do
  let bytes ← readExactly 4 "bad int32_t data"
  return be32toh bytes

def readUInt8 : Attempt Reader UInt8 := do
  let bytes ← readExactly 1 "bad uint8_t data"
  return bytes.getD 0 0

/-- `"TZif"` -/
def magic : List UInt8 := [0x54, 0x5A, 0x69, 0x66]

/-- The counts that are used after the head was read. -/
structure Counts where
  timecnt : Int
  typecnt : Int
  charcnt : Int

def readHead : Attempt Reader Counts := do
  let head ← readBytes 4
  require (head = magic) "bad head"
  let _version ← readBytes 1
  let _ ← readBytes 15
  let _isgmtcnt ← readInt32
  let _isstdcnt ← readInt32
  let _leapcnt ← readInt32
  let timecnt ← readInt32
  let typecnt ← readInt32
  let charcnt ← readInt32
  return ⟨timecnt, typecnt, charcnt⟩

def pushLocaltime (localtime : Localtime) (reader : Reader) : Reader :=
  { reader with data.localtimes := reader.data.localtimes ++ [localtime] }

def readLocaltime : Attempt Reader Unit := do
  let gmtoff ← readInt32
  let isdst ← readUInt8
  let abbrind ← readUInt8
  modify (pushLocaltime ⟨gmtoff, isdst ≠ 0, abbrind.toNat⟩)

def pushTransition (transition : Transition) (reader : Reader) : Reader :=
  { reader with data.transitions := reader.data.transitions ++ [transition] }

def addTransition (trans : List Int) (localtimes : List UInt8) (i : Nat) :
    Attempt Reader Unit := do
  let localIdx ← lift (element localtimes i)
  let time ← lift (element trans i)
  let reader ← get
  let localtime ← lift (element reader.data.localtimes localIdx.toNat)
  modify (pushTransition ⟨time, time + localtime.gmtOffset, localIdx.toNat⟩)

/-- The body of the `try` block. A negative argument of `reserve` is a `length_error`,
which is a `logic_error`. The loop over the leap seconds reads nothing. -/
def readZone : Attempt Reader Unit := do
  let counts ← readHead
  require (0 ≤ counts.timecnt) "vector::reserve"
  let trans ← loop counts.timecnt.toNat fun _ => readInt32
  let localtimes ← loop counts.timecnt.toNat fun _ => readUInt8
  let _ ← loop counts.typecnt.toNat fun _ => readLocaltime
  let _ ← loop counts.timecnt.toNat (addTransition trans localtimes)
  let abbreviation ← readBytes counts.charcnt
  modify fun reader => { reader with data.abbreviation := abbreviation }

end Reader

/-- The content of the file is `none` where it cannot be opened. -/
def readTimeZoneFile (content : Option (List UInt8)) (data : ZoneData) :
    Checked (Bool × ZoneData) :=
  match content with
  | none => return (true, data)
  | some bytes => do
      let (_, reader) ← Reader.readZone ⟨bytes, data⟩
      return (true, reader.data)

/-- `TimeZone::TimeZone(const char*)` -/
def TimeZone.load (content : Option (List UInt8)) : Checked TimeZone := do
  let (ok, data) ← readTimeZoneFile content ⟨[], [], []⟩
  if ok then
    return ⟨some data⟩
  else
    return ⟨none⟩

/-! ## Fields by their place in the file -/

namespace ZoneFile

def byteAt (bytes : List UInt8) (offset : Nat) : UInt8 := bytes.getD offset 0

def wordAt (bytes : List UInt8) (offset : Nat) : Int :=
  Reader.be32toh ((bytes.drop offset).take 4)

def timecnt (bytes : List UInt8) : Int := wordAt bytes 32

def typecnt (bytes : List UInt8) : Int := wordAt bytes 36

def charcnt (bytes : List UInt8) : Int := wordAt bytes 40

/-- Where the indices of the transitions, the types and the texts begin. -/
def indices (bytes : List UInt8) : Nat := 44 + 4 * (timecnt bytes).toNat

def types (bytes : List UInt8) : Nat := indices bytes + (timecnt bytes).toNat

def texts (bytes : List UInt8) : Nat := types bytes + 6 * (typecnt bytes).toNat

/-- The index of a transition's type. -/
def localIdx (bytes : List UInt8) (i : Nat) : Nat := (byteAt bytes (indices bytes + i)).toNat

def localtimeAt (bytes : List UInt8) (i : Nat) : Localtime :=
  ⟨wordAt bytes (types bytes + 6 * i), byteAt bytes (types bytes + 6 * i + 4) ≠ 0,
    (byteAt bytes (types bytes + 6 * i + 5)).toNat⟩

def localtimes (bytes : List UInt8) : List Localtime :=
  (List.range (typecnt bytes).toNat).map (localtimeAt bytes)

def transitionAt (bytes : List UInt8) (i : Nat) : Transition :=
  ⟨wordAt bytes (44 + 4 * i), wordAt bytes (44 + 4 * i) +
    ((localtimes bytes).getD (localIdx bytes i) ⟨0, false, 0⟩).gmtOffset, localIdx bytes i⟩

def times (bytes : List UInt8) : List Int :=
  (List.range (timecnt bytes).toNat).map fun i => wordAt bytes (44 + 4 * i)

def localIdxs (bytes : List UInt8) : List UInt8 :=
  (List.range (timecnt bytes).toNat).map fun i => byteAt bytes (indices bytes + i)

/-- What the file says. -/
def data (bytes : List UInt8) : ZoneData where
  transitions := (List.range (timecnt bytes).toNat).map (transitionAt bytes)
  localtimes := localtimes bytes
  abbreviation := (bytes.drop (texts bytes)).take (charcnt bytes).toNat

/-- A file that is read to its end. -/
structure Complete (bytes : List UInt8) : Prop where
  magic : bytes.take 4 = Reader.magic
  timecnt : 0 ≤ timecnt bytes
  charcnt : 0 ≤ charcnt bytes
  length : texts bytes + (ZoneFile.charcnt bytes).toNat ≤ bytes.length
  localIdx : ∀ i < (ZoneFile.timecnt bytes).toNat, localIdx bytes i < (typecnt bytes).toNat

/-- A complete file with a type, and whose types name texts of the file. -/
structure WellFormed (bytes : List UInt8) : Prop extends Complete bytes where
  typecnt : 1 ≤ typecnt bytes
  arrbIdx : ∀ i < (ZoneFile.typecnt bytes).toNat,
    (localtimeAt bytes i).arrbIdx < (ZoneFile.charcnt bytes).toNat

/-! ## What a read returns -/

/-- The reader at a place in the file. -/
def reading (bytes : List UInt8) (offset : Nat) (data : ZoneData) : Reader :=
  ⟨bytes.drop offset, data⟩

variable (bytes : List UInt8) (offset : Nat) (data : ZoneData)

theorem readExactly_succeeds (n : Nat) (what : String) :
    (Reader.readExactly n what).Succeeds (reading bytes offset data)
      (n ≤ bytes.length - offset) ((bytes.drop offset).take n)
      (reading bytes (offset + n) data) := by
  have advanced : { reading bytes offset data with
      rest := (reading bytes offset data).rest.drop n } = reading bytes (offset + n) data := by
    rw [reading, reading, List.drop_drop]
  have all : (Reader.readExactly n what).Succeeds (reading bytes offset data)
      (True ∧ True ∧ ((bytes.drop offset).take n).length = n ∧ True)
      ((bytes.drop offset).take n) (reading bytes (offset + n) data) := by
    rw [← advanced]
    exact (Succeeds.get _).bind fun _ => (Succeeds.modify _ _).bind fun _ =>
      (Succeeds.require _ _ _).bind fun _ => Succeeds.pure _ _
  refine all.congr ?_
  simp only [true_and, and_true, List.length_take, List.length_drop]
  omega

theorem readBytes_succeeds (n : Int) :
    (Reader.readBytes n).Succeeds (reading bytes offset data)
      (0 ≤ n ∧ n.toNat ≤ bytes.length - offset) ((bytes.drop offset).take n.toNat)
      (reading bytes (offset + n.toNat) data) := by
  have size : ∀ result, (if 0 ≤ n then .ok () else .error .outOfRange : Checked Unit) =
      .ok result ↔ 0 ≤ n ∧ result = () := by
    intro result
    split <;> simp_all
  exact (Succeeds.lift size _).bind fun _ => readExactly_succeeds bytes offset data _ _

theorem readInt32_succeeds :
    Reader.readInt32.Succeeds (reading bytes offset data) (4 ≤ bytes.length - offset)
      (wordAt bytes offset) (reading bytes (offset + 4) data) :=
  (readExactly_succeeds bytes offset data _ _).map Reader.be32toh

theorem readUInt8_succeeds :
    Reader.readUInt8.Succeeds (reading bytes offset data) (1 ≤ bytes.length - offset)
      (byteAt bytes offset) (reading bytes (offset + 1) data) := by
  have same : ((bytes.drop offset).take 1).getD 0 0 = byteAt bytes offset := by
    simp [byteAt, List.getD_eq_getElem?_getD]
  rw [← same]
  exact (readExactly_succeeds bytes offset data _ _).map (·.getD 0 0)

theorem readHead_succeeds :
    Reader.readHead.Succeeds (reading bytes 0 data)
      (bytes.take 4 = Reader.magic ∧ 44 ≤ bytes.length)
      ⟨timecnt bytes, typecnt bytes, charcnt bytes⟩ (reading bytes 44 data) := by
  have all : Reader.readHead.Succeeds (reading bytes 0 data) _
      ⟨timecnt bytes, typecnt bytes, charcnt bytes⟩ (reading bytes 44 data) :=
    (readBytes_succeeds bytes 0 data 4).bind fun _ =>
    (Succeeds.require _ _ _).bind fun _ =>
    (readBytes_succeeds bytes 4 data 1).bind fun _ =>
    (readBytes_succeeds bytes 5 data 15).bind fun _ =>
    (readInt32_succeeds bytes 20 data).bind fun _ =>
    (readInt32_succeeds bytes 24 data).bind fun _ =>
    (readInt32_succeeds bytes 28 data).bind fun _ =>
    (readInt32_succeeds bytes 32 data).bind fun _ =>
    (readInt32_succeeds bytes 36 data).bind fun _ =>
    (readInt32_succeeds bytes 40 data).map _
  refine all.congr ?_
  constructor
  · rintro ⟨magic, length⟩
    refine ⟨⟨by decide, ?_⟩, magic, ⟨by decide, ?_⟩, ⟨by decide, ?_⟩, ?_, ?_, ?_, ?_, ?_, ?_⟩
    all_goals omega
  · rintro ⟨-, magic, -, -, -, -, -, -, -, last⟩
    exact ⟨magic, by omega⟩

/-- A loop of reads of one size. -/
theorem loop_succeeds {body : Nat → Attempt Reader α} {size count : Nat}
    (datas : Nat → ZoneData) {values : Nat → α} (positive : 0 < size)
    (round : ∀ i, (body i).Succeeds (reading bytes (offset + size * i) (datas i))
      (size ≤ bytes.length - (offset + size * i)) (values i)
      (reading bytes (offset + size * i + size) (datas (i + 1)))) :
    (loop count body).Succeeds (reading bytes offset (datas 0))
      (size * count ≤ bytes.length - offset) ((List.range count).map values)
      (reading bytes (offset + size * count) (datas count)) := by
  have stepped : ∀ i < count, (body i).Succeeds (reading bytes (offset + size * i) (datas i))
      (size ≤ bytes.length - (offset + size * i)) (values i)
      (reading bytes (offset + size * (i + 1)) (datas (i + 1))) := by
    intro i _
    rw [Nat.mul_succ, ← Nat.add_assoc]
    exact round i
  refine (Succeeds.loop (fun i => reading bytes (offset + size * i) (datas i))
    stepped).congr ?_
  constructor
  · intro enough i inside
    have upTo : size * (i + 1) ≤ size * count := Nat.mul_le_mul_left size inside
    rw [Nat.mul_succ] at upTo
    omega
  · intro every
    cases count with
    | zero => exact Nat.zero_le _
    | succ count =>
        have last := every count (Nat.lt_succ_self count)
        rw [Nat.mul_succ]
        omega

theorem readLocaltime_succeeds :
    Reader.readLocaltime.Succeeds (reading bytes offset data) (6 ≤ bytes.length - offset) ()
      ((reading bytes (offset + 6) data).pushLocaltime ⟨wordAt bytes offset,
        byteAt bytes (offset + 4) ≠ 0, (byteAt bytes (offset + 5)).toNat⟩) := by
  have all : Reader.readLocaltime.Succeeds (reading bytes offset data) _ ()
      ((reading bytes (offset + 6) data).pushLocaltime ⟨wordAt bytes offset,
        byteAt bytes (offset + 4) ≠ 0, (byteAt bytes (offset + 5)).toNat⟩) :=
    (readInt32_succeeds bytes offset data).bind fun _ =>
    (readUInt8_succeeds bytes (offset + 4) data).bind fun _ =>
    (readUInt8_succeeds bytes (offset + 5) data).bind fun _ => Succeeds.modify _ _
  refine all.congr ?_
  rw [and_true]
  omega

theorem addTransition_succeeds {trans : List Int} {indices : List UInt8} {i : Nat}
    (reader : Reader) :
    (Reader.addTransition trans indices i).Succeeds reader
      (i < indices.length ∧ i < trans.length ∧
        (indices.getD i 0).toNat < reader.data.localtimes.length) ()
      (reader.pushTransition ⟨trans.getD i 0, trans.getD i 0 +
        (reader.data.localtimes.getD (indices.getD i 0).toNat ⟨0, false, 0⟩).gmtOffset,
        (indices.getD i 0).toNat⟩) := by
  have all : (Reader.addTransition trans indices i).Succeeds reader _ ()
      (reader.pushTransition ⟨trans.getD i 0, trans.getD i 0 +
        (reader.data.localtimes.getD (indices.getD i 0).toNat ⟨0, false, 0⟩).gmtOffset,
        (indices.getD i 0).toNat⟩) :=
    (Succeeds.lift (fun _ => element_eq_ok_iff 0) reader).bind fun _ =>
    (Succeeds.lift (fun _ => element_eq_ok_iff 0) reader).bind fun _ =>
    (Succeeds.get reader).bind fun _ =>
    (Succeeds.lift (fun _ => element_eq_ok_iff (Localtime.mk 0 false 0)) reader).bind fun _ =>
    Succeeds.modify _ _
  refine all.congr ?_
  rw [true_and, and_true]

/-! ## What the file is read to -/

theorem times_succeed :
    (loop (timecnt bytes).toNat fun _ => Reader.readInt32).Succeeds (reading bytes 44 data)
      (4 * (timecnt bytes).toNat ≤ bytes.length - 44) (times bytes)
      (reading bytes (indices bytes) data) :=
  loop_succeeds bytes 44 (fun _ => data) (by decide) fun i =>
    readInt32_succeeds bytes (44 + 4 * i) data

theorem localIdxs_succeed :
    (loop (timecnt bytes).toNat fun _ => Reader.readUInt8).Succeeds
      (reading bytes (indices bytes) data)
      (1 * (timecnt bytes).toNat ≤ bytes.length - indices bytes) (localIdxs bytes)
      (reading bytes (types bytes) data) := by
  have all : (loop (timecnt bytes).toNat fun _ => Reader.readUInt8).Succeeds
      (reading bytes (indices bytes) data) _ _ _ :=
    loop_succeeds bytes (indices bytes) (fun _ => data) (by decide) fun i =>
      readUInt8_succeeds bytes (indices bytes + 1 * i) data
  simp only [Nat.one_mul] at all ⊢
  exact all

theorem localtimes_succeed :
    (loop (typecnt bytes).toNat fun _ => Reader.readLocaltime).Succeeds
      (reading bytes (types bytes) ⟨[], [], []⟩)
      (6 * (typecnt bytes).toNat ≤ bytes.length - types bytes)
      ((List.range (typecnt bytes).toNat).map fun _ => ())
      (reading bytes (texts bytes) ⟨[], localtimes bytes, []⟩) := by
  refine loop_succeeds bytes (types bytes)
    (fun i => ⟨[], (List.range i).map (localtimeAt bytes), []⟩) (by decide) ?_
  intro i
  rw [List.range_succ, List.map_append]
  exact readLocaltime_succeeds bytes (types bytes + 6 * i) _

theorem transitions_succeed :
    (loop (timecnt bytes).toNat (Reader.addTransition (times bytes) (localIdxs bytes))).Succeeds
      (reading bytes (texts bytes) ⟨[], localtimes bytes, []⟩)
      (∀ i < (timecnt bytes).toNat, localIdx bytes i < (typecnt bytes).toNat)
      ((List.range (timecnt bytes).toNat).map fun _ => ())
      (reading bytes (texts bytes) ⟨(List.range (timecnt bytes).toNat).map
        (transitionAt bytes), localtimes bytes, []⟩) := by
  refine Succeeds.loop (fun i => reading bytes (texts bytes)
    ⟨(List.range i).map (transitionAt bytes), localtimes bytes, []⟩) ?_
  intro i inside
  have time : (times bytes).getD i 0 = wordAt bytes (44 + 4 * i) := by
    simp [times, List.getD_eq_getElem?_getD, inside]
  have index : ((localIdxs bytes).getD i 0).toNat = localIdx bytes i := by
    simp [localIdxs, localIdx, List.getD_eq_getElem?_getD, inside]
  have added : (Reader.addTransition (times bytes) (localIdxs bytes) i).Succeeds _ _ _ _ :=
    addTransition_succeeds (reading bytes (texts bytes)
      ⟨(List.range i).map (transitionAt bytes), localtimes bytes, []⟩)
  rw [time, index] at added
  rw [List.range_succ, List.map_append]
  refine added.congr ?_
  simp only [reading, times, localIdxs, localtimes, List.length_map, List.length_range, inside,
    true_and]

theorem readZone_succeeds :
    Reader.readZone.Succeeds ⟨bytes, ⟨[], [], []⟩⟩ (Complete bytes) ()
      (reading bytes (texts bytes + (charcnt bytes).toNat) (ZoneFile.data bytes)) := by
  have all : Reader.readZone.Succeeds (reading bytes 0 ⟨[], [], []⟩) _ ()
      (reading bytes (texts bytes + (charcnt bytes).toNat) (ZoneFile.data bytes)) :=
    (readHead_succeeds bytes _).bind fun _ => (Succeeds.require _ _ _).bind fun _ =>
    (times_succeed bytes _).bind fun _ => (localIdxs_succeed bytes _).bind fun _ =>
    (localtimes_succeed bytes).bind fun _ => (transitions_succeed bytes).bind fun _ =>
    (readBytes_succeeds bytes (texts bytes) _ (charcnt bytes)).bind fun _ =>
    Succeeds.modify _ _
  refine all.congr ?_
  constructor
  · rintro ⟨magic, timecnt, charcnt, length, localIdx⟩
    unfold texts types indices at *
    exact ⟨⟨magic, by omega⟩, timecnt, by omega, by omega, by omega, localIdx,
      ⟨charcnt, by omega⟩, trivial⟩
  · rintro ⟨⟨magic, head⟩, timecnt, forTimes, forIndices, forTypes, localIdx,
      ⟨charcnt, forTexts⟩, -⟩
    refine ⟨magic, timecnt, charcnt, ?_, localIdx⟩
    unfold texts types indices at *
    omega

/-! ## What is left where a read throws -/

def Textless (reader : Reader) : Prop := reader.data.abbreviation = []

theorem readExactly_keeps (n : Nat) (what : String) :
    (Reader.readExactly n what).Keeps Textless := by
  refine Keeps.get.bind fun reader => Keeps.bind ?_ fun _ =>
    (Keeps.require _ _).bind fun _ => .pure _
  exact .modify fun _ textless => textless

theorem readBytes_keeps (n : Int) : (Reader.readBytes n).Keeps Textless :=
  (Keeps.lift _).bind fun _ => readExactly_keeps _ _

theorem readInt32_keeps : Reader.readInt32.Keeps Textless :=
  (readExactly_keeps _ _).bind fun _ => .pure _

theorem readUInt8_keeps : Reader.readUInt8.Keeps Textless :=
  (readExactly_keeps _ _).bind fun _ => .pure _

theorem readHead_keeps : Reader.readHead.Keeps Textless :=
  (readBytes_keeps _).bind fun _ => (Keeps.require _ _).bind fun _ =>
  (readBytes_keeps _).bind fun _ => (readBytes_keeps _).bind fun _ =>
  readInt32_keeps.bind fun _ => readInt32_keeps.bind fun _ => readInt32_keeps.bind fun _ =>
  readInt32_keeps.bind fun _ => readInt32_keeps.bind fun _ => readInt32_keeps.bind fun _ =>
  .pure _

theorem readLocaltime_keeps : Reader.readLocaltime.Keeps Textless :=
  readInt32_keeps.bind fun _ => readUInt8_keeps.bind fun _ => readUInt8_keeps.bind fun _ =>
  .modify fun _ textless => textless

theorem addTransition_keeps (trans : List Int) (localtimes : List UInt8) (i : Nat) :
    (Reader.addTransition trans localtimes i).Keeps Textless :=
  (Keeps.lift _).bind fun _ => (Keeps.lift _).bind fun _ => Keeps.get.bind fun _ =>
  (Keeps.lift _).bind fun _ => .modify fun _ textless => textless

/-- The texts are stored last, by a step that does not throw. -/
theorem readZone_throws : Reader.readZone.ThrowsKeeping Textless :=
  .bind readHead_keeps fun _ => .bind (.require _ _) fun _ =>
  .bind (.loop (fun _ => readInt32_keeps) _) fun _ =>
  .bind (.loop (fun _ => readUInt8_keeps) _) fun _ =>
  .bind (.loop (fun _ => readLocaltime_keeps) _) fun _ =>
  .bind (.loop (addTransition_keeps _ _) _) fun _ =>
  .bind (readBytes_keeps _) fun _ => .modify _

end ZoneFile

/-! ## Conversions on sound data -/

namespace ZoneData.Sound

variable {data : ZoneData}

theorem findLocaltime_ok (sound : data.Sound) (sentry : Transition) (comp : Comp) :
    ∃ localtime ∈ data.localtimes, findLocaltime data sentry comp = .ok localtime := by
  have present : ∀ index < data.localtimes.length,
      ∃ localtime ∈ data.localtimes, element data.localtimes index = .ok localtime := by
    intro index inside
    exact ⟨_, List.getElem_mem inside, element_of (List.getElem?_eq_getElem inside)⟩
  rcases findLocaltime_eq data sentry comp with ⟨count, -, found, -, -⟩
  rw [found, typeAfter]
  split
  · exact present 0 (List.length_pos_iff.mpr sound.localtimes)
  · rename_i transition isLast
    exact present _ (sound.localtimeIdx transition
      (List.mem_of_mem_take (List.mem_of_getLast? isLast)))

theorem toLocalTime_ok (sound : data.Sound) (civil : CivilTime) (seconds : Int) :
    ∃ localTime, TimeZone.toLocalTime civil ⟨some data⟩ seconds = .ok localTime := by
  rcases sound.findLocaltime_ok ⟨seconds, 0, 0⟩ ⟨true⟩ with ⟨localtime, member, found⟩
  have inside : localtime.arrbIdx < data.abbreviation.length + 1 :=
    Nat.lt_succ_of_lt (sound.arrbIdx localtime member)
  rw [TimeZone.toLocalTime, TimeZone.getData, Checked.ok_bind, found, Checked.ok_bind,
    TimeZone.zoneText, checkIndex_of inside]
  exact ⟨_, rfl⟩

theorem fromLocalTime_ok (sound : data.Sound) (civil : CivilTime) (localTm : Tm) :
    ∃ seconds, TimeZone.fromLocalTime civil ⟨some data⟩ localTm = .ok seconds := by
  rcases sound.findLocaltime_ok ⟨0, civil.timegm localTm, 0⟩ ⟨false⟩ with
    ⟨localtime, -, found⟩
  rcases sound.toLocalTime_ok civil (civil.timegm localTm - localtime.gmtOffset) with
    ⟨tryTm, tried⟩
  rw [TimeZone.fromLocalTime, TimeZone.getData, Checked.ok_bind]
  dsimp only
  rw [found, Checked.ok_bind]
  by_cases summer : localTm.isdst ≠ 0
  · rw [if_pos summer, tried, Checked.ok_bind]
    split
    · exact ⟨_, rfl⟩
    · exact ⟨_, rfl⟩
  · rw [if_neg summer]
    exact ⟨_, rfl⟩

end ZoneData.Sound

/-- The data of the zone is sound, and times are converted without a fault. -/
structure TimeZone.Usable (zone : TimeZone) : Prop where
  sound : ∃ data, zone.data = some data ∧ data.Sound
  toLocalTime : ∀ civil seconds, ∃ localTime, zone.toLocalTime civil seconds = .ok localTime
  fromLocalTime : ∀ civil localTm, ∃ seconds, zone.fromLocalTime civil localTm = .ok seconds

theorem ZoneData.Sound.usable {data : ZoneData} (sound : data.Sound) :
    TimeZone.Usable ⟨some data⟩ where
  sound := ⟨data, rfl, sound⟩
  toLocalTime := sound.toLocalTime_ok
  fromLocalTime := sound.fromLocalTime_ok

namespace ZoneFile

/-- The data of a complete file is sound where the file is well formed. -/
theorem sound_iff {bytes : List UInt8} (complete : Complete bytes) :
    (ZoneFile.data bytes).Sound ↔ WellFormed bytes := by
  have length := complete.length
  have size : (ZoneFile.data bytes).abbreviation.length = (charcnt bytes).toNat := by
    rw [ZoneFile.data, List.length_take, List.length_drop]
    omega
  have count : (ZoneFile.data bytes).localtimes.length = (typecnt bytes).toNat := by
    rw [ZoneFile.data, localtimes, List.length_map, List.length_range]
  constructor
  · rintro ⟨nonempty, -, arrbIdx⟩
    refine ⟨complete, ?_, ?_⟩
    · have positive := List.length_pos_iff.mpr nonempty
      omega
    · intro i inside
      rw [← size]
      exact arrbIdx _ (List.mem_map_of_mem (List.mem_range.mpr inside))
  · intro formed
    have typecnt := formed.typecnt
    refine ⟨List.ne_nil_of_length_pos (by omega), ?_, ?_⟩
    · intro transition member
      rcases List.mem_map.mp member with ⟨i, inside, rfl⟩
      rw [count]
      exact complete.localIdx i (List.mem_range.mp inside)
    · intro localtime member
      rcases List.mem_map.mp member with ⟨i, inside, rfl⟩
      rw [size]
      exact formed.arrbIdx i (List.mem_range.mp inside)

end ZoneFile

/-- Whatever the content, the zone is valid. What it holds is what the file says, or
has no types with a text. -/
theorem TimeZone.load_cases {content : Option (List UInt8)} {zone : TimeZone}
    (loaded : load content = .ok zone) :
    ∃ data, zone = ⟨some data⟩ ∧
      ((∃ bytes, content = some bytes ∧ ZoneFile.Complete bytes ∧
        data = ZoneFile.data bytes) ∨ data.abbreviation = []) := by
  rcases Checked.bind_eq_ok_iff.mp loaded with ⟨⟨ok, data⟩, read, returned⟩
  cases content with
  | none =>
      cases read
      cases returned
      exact ⟨_, rfl, .inr rfl⟩
  | some bytes =>
      rcases Checked.bind_eq_ok_iff.mp read with ⟨⟨result, reader⟩, ran, ended⟩
      cases ended
      cases returned
      refine ⟨reader.data, rfl, ?_⟩
      cases result with
      | ok _ =>
          rcases (ZoneFile.readZone_succeeds bytes _ _).mp ran with ⟨complete, -, rfl⟩
          exact .inl ⟨bytes, rfl, complete, rfl⟩
      | error what =>
          have textless : ZoneFile.Textless ⟨bytes, ⟨[], [], []⟩⟩ := rfl
          exact .inr (ZoneFile.readZone_throws _ _ _ textless ran)

theorem TimeZone.load_complete {bytes : List UInt8} (complete : ZoneFile.Complete bytes) :
    load (some bytes) = .ok ⟨some (ZoneFile.data bytes)⟩ := by
  have ran := (ZoneFile.readZone_succeeds bytes _ _).mpr ⟨complete, rfl, rfl⟩
  rw [load, readTimeZoneFile, ran]
  rfl

/-- A zone that is valid is usable just where its file was well formed: no other file is
refused, and neither is one that cannot be read. -/
theorem TimeZone.load_usable_iff (content : Option (List UInt8)) :
    (∃ zone, load content = .ok zone ∧ (zone.valid = true → zone.Usable)) ↔
      ∃ bytes, content = some bytes ∧ ZoneFile.WellFormed bytes := by
  constructor
  · rintro ⟨zone, loaded, usable⟩
    rcases load_cases loaded with ⟨data, rfl, held⟩
    rcases (usable rfl).sound with ⟨found, same, sound⟩
    cases same
    rcases held with ⟨bytes, rfl, complete, rfl⟩ | textless
    · exact ⟨bytes, rfl, (ZoneFile.sound_iff complete).mp sound⟩
    · -- A type would need a text.
      rcases List.exists_mem_of_ne_nil _ sound.localtimes with ⟨localtime, member⟩
      have inside := sound.arrbIdx localtime member
      rw [textless] at inside
      exact absurd inside (Nat.not_lt_zero _)
  · rintro ⟨bytes, rfl, formed⟩
    exact ⟨_, load_complete formed.toComplete, fun _ =>
      ((ZoneFile.sound_iff formed.toComplete).mpr formed).usable⟩

/-- One transition at 256 seconds before the epoch, one type, an hour ahead, and `"CET"`. -/
def centralEurope : List UInt8 :=
  Reader.magic ++ List.replicate 28 0 ++ [0, 0, 0, 1, 0, 0, 0, 1, 0, 0, 0, 4] ++
    [255, 255, 255, 0] ++ [0] ++ [0, 0, 14, 16, 0, 0] ++ [67, 69, 84, 0]

theorem TimeZone.load_usable_iff_central_europe :
    ZoneFile.WellFormed centralEurope ∧
      ∃ zone, load (some centralEurope) = .ok zone ∧ (zone.valid = true → zone.Usable) := by
  have formed : ZoneFile.WellFormed centralEurope := by
    refine ⟨⟨?_, ?_, ?_, ?_, ?_⟩, ?_, ?_⟩ <;> decide
  exact ⟨formed, (TimeZone.load_usable_iff (some centralEurope)).mpr ⟨_, rfl, formed⟩⟩

/-- A zone whose file cannot be opened is valid, and has no type to convert a time with. -/
theorem TimeZone.load_unreadable :
    ∃ zone, load none = .ok zone ∧ zone.valid = true ∧
      zone.data = some ⟨[], [], []⟩ ∧
      ∀ civil seconds, zone.toLocalTime civil seconds = .error .outOfRange :=
  ⟨_, rfl, rfl, rfl, fun _ _ => rfl⟩

end Ccnet.Base
