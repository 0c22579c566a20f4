import Ccnet.Base.TimeZone.ZoneFile
import Ccnet.Foundation.ByteOrder
import Ccnet.Foundation.Slice

namespace Ccnet.Base

/-! From the fields of a zone file to local times: what is written to a file is what
`readTimeZoneFile` reads, and `toLocalTime` uses the type that a linear scan finds. -/

/-- An entry of the table of transitions. -/
structure TzEntry where
  time : Int
  localIdx : UInt8
  deriving DecidableEq, Repr

/-- An entry of the table of types. -/
structure TzType where
  gmtoff : Int
  isdst : UInt8
  abbrind : UInt8
  deriving DecidableEq, Repr

/-- The fields of a well-formed file of version 1. Of the head only the counts of the
three tables matter; the bytes between the magic and them are arbitrary. -/
structure TzFile where
  head : List UInt8
  entries : List TzEntry
  types : List TzType
  abbreviations : List UInt8
  trailer : List UInt8
  head_length : head.length = 28
  timecnt : entries.length < 2 ^ 31
  typecnt : types.length < 2 ^ 31
  charcnt : abbreviations.length < 2 ^ 31
  times : ∀ entry ∈ entries, InSigned 4 entry.time
  increasing : entries.Pairwise (·.time < ·.time)
  localIdx : ∀ entry ∈ entries, entry.localIdx.toNat < types.length
  types_nonempty : types ≠ []
  gmtoffs : ∀ type ∈ types, InSigned 4 type.gmtoff
  abbrinds : ∀ type ∈ types, type.abbrind.toNat < abbreviations.length

/-- A 32-bit number as it stands in the file. -/
def tzWord (value : Int) : List UInt8 := bigEndian 4 (toUnsigned 4 value)

def TzType.bytes (type : TzType) : List UInt8 :=
  tzWord type.gmtoff ++ [type.isdst] ++ [type.abbrind]

def TzType.localtime (type : TzType) : Localtime :=
  ⟨type.gmtoff, type.isdst ≠ 0, type.abbrind.toNat⟩

namespace TzFile

/-- Where the tables begin: the magic, the skipped bytes and the three counts. -/
def front (file : TzFile) : List UInt8 :=
  Reader.magic ++ file.head ++ tzWord file.entries.length ++ tzWord file.types.length ++
    tzWord file.abbreviations.length

def withTimes (file : TzFile) : List UInt8 :=
  file.front ++ file.entries.flatMap (fun entry => tzWord entry.time)

def withIndices (file : TzFile) : List UInt8 :=
  file.withTimes ++ file.entries.flatMap (fun entry => [entry.localIdx])

def withTypes (file : TzFile) : List UInt8 :=
  file.withIndices ++ file.types.flatMap TzType.bytes

def encode (file : TzFile) : List UInt8 :=
  file.withTypes ++ file.abbreviations ++ file.trailer

/-- The type an index names. -/
def typeAt (file : TzFile) (index : Nat) : TzType := file.types.getD index ⟨0, 0, 0⟩

def transition (file : TzFile) (entry : TzEntry) : Transition :=
  ⟨entry.time, entry.time + (file.typeAt entry.localIdx.toNat).gmtoff, entry.localIdx.toNat⟩

/-- What the file says. -/
def data (file : TzFile) : ZoneData where
  transitions := file.entries.map file.transition
  localtimes := file.types.map TzType.localtime
  abbreviation := file.abbreviations

/-- A linear scan for the last transition that a time has reached. -/
def lastReached (file : TzFile) (seconds : Int) : Option TzEntry :=
  (file.entries.filter (·.time ≤ seconds)).getLast?

def typeInForce (file : TzFile) (seconds : Int) : TzType :=
  match file.lastReached seconds with
  | none => file.typeAt 0
  | some entry => file.typeAt entry.localIdx.toNat

/-- The local time that the type in force gives. -/
def localTime (file : TzFile) (civil : CivilTime) (seconds : Int) : Tm :=
  let type := file.typeInForce seconds
  { civil.gmtimeR (seconds + type.gmtoff) with
    isdst := if type.isdst ≠ 0 then 1 else 0
    gmtoff := type.gmtoff
    zone := (file.abbreviations.drop type.abbrind.toNat).takeWhile (· ≠ 0) }

end TzFile

/-! ## Fields at their places -/

theorem be32toh_eq (bytes : List UInt8) :
    Reader.be32toh bytes = toSigned 4 (ofBigEndian bytes) := by
  rw [Reader.be32toh, foldl_eq_ofBigEndian, toSigned]
  rfl

@[simp] theorem tzWord_length (value : Int) : (tzWord value).length = 4 := bigEndian_length _ _

@[simp] theorem TzType.bytes_length (type : TzType) : type.bytes.length = 6 := by
  simp [TzType.bytes]

theorem be32toh_tzWord {value : Int} (inside : InSigned 4 value) :
    Reader.be32toh (tzWord value) = value := by
  rw [be32toh_eq, tzWord, ofBigEndian_bigEndian, Nat.mod_eq_of_lt (toUnsigned_lt _ _),
    toSigned_toUnsigned (by decide) inside]

namespace ZoneFile

variable {bytes front part : List UInt8}

theorem take_drop_of_prefix (placed : front ++ part <+: bytes) :
    (bytes.drop front.length).take part.length = part := by
  rcases placed with ⟨back, rfl⟩
  rw [List.append_assoc, List.drop_left, List.take_left]

theorem wordAt_of_prefix {value : Int} (placed : front ++ tzWord value <+: bytes)
    (inside : InSigned 4 value) : wordAt bytes front.length = value := by
  have part := take_drop_of_prefix placed
  rw [tzWord_length] at part
  rw [wordAt, part, be32toh_tzWord inside]

theorem byteAt_of_prefix {value : UInt8} (placed : front ++ [value] <+: bytes) :
    byteAt bytes front.length = value := by
  rcases placed with ⟨back, rfl⟩
  simp [byteAt]

end ZoneFile

theorem inSigned_of_lt {count : Nat} (small : count < 2 ^ 31) : InSigned 4 count := by
  unfold InSigned
  omega

/-- Reading all fields of a table gives the table. -/
theorem map_range_eq_map {items : List α} {read : Nat → β} {value : α → β}
    (reads : ∀ index item, items[index]? = some item → read index = value item) :
    (List.range items.length).map read = items.map value := by
  apply List.ext_getElem?
  intro index
  rw [List.getElem?_map, List.getElem?_map]
  by_cases inside : index < items.length
  · have present := List.getElem?_eq_getElem inside
    rw [List.getElem?_range inside, present, Option.map_some, Option.map_some,
      reads index _ present]
  · rw [List.getElem?_eq_none (by simpa using inside),
      List.getElem?_eq_none (by simpa using inside)]
    rfl

namespace TzFile

variable (file : TzFile)

theorem front_length : file.front.length = 44 := by
  simp only [front, List.length_append, tzWord_length, file.head_length]
  rfl

theorem texts_prefix : file.withTypes ++ file.abbreviations <+: file.encode :=
  List.prefix_append _ _

theorem types_prefix : file.withTypes <+: file.encode :=
  (List.prefix_append _ _).trans file.texts_prefix

theorem indices_prefix : file.withIndices <+: file.encode :=
  (List.prefix_append _ _).trans file.types_prefix

theorem times_prefix : file.withTimes <+: file.encode :=
  (List.prefix_append _ _).trans file.indices_prefix

theorem front_prefix : file.front <+: file.encode :=
  (List.prefix_append _ _).trans file.times_prefix

theorem timecnt_encode : ZoneFile.timecnt file.encode = file.entries.length := by
  have placed : Reader.magic ++ file.head ++ tzWord file.entries.length <+: file.front :=
    (List.prefix_append _ _).trans (List.prefix_append _ _)
  have word := ZoneFile.wordAt_of_prefix (placed.trans file.front_prefix)
    (inSigned_of_lt file.timecnt)
  rwa [List.length_append, file.head_length] at word

theorem typecnt_encode : ZoneFile.typecnt file.encode = file.types.length := by
  have placed : Reader.magic ++ file.head ++ tzWord file.entries.length ++
      tzWord file.types.length <+: file.front := List.prefix_append _ _
  have word := ZoneFile.wordAt_of_prefix (placed.trans file.front_prefix)
    (inSigned_of_lt file.typecnt)
  rwa [List.length_append, List.length_append, file.head_length, tzWord_length] at word

theorem charcnt_encode : ZoneFile.charcnt file.encode = file.abbreviations.length := by
  have word := ZoneFile.wordAt_of_prefix file.front_prefix (inSigned_of_lt file.charcnt)
  rwa [List.length_append, List.length_append, List.length_append, file.head_length,
    tzWord_length, tzWord_length] at word

theorem indices_encode : ZoneFile.indices file.encode = file.withTimes.length := by
  rw [ZoneFile.indices, timecnt_encode, withTimes, List.length_append, front_length,
    flatMap_length_of_width (fun _ => tzWord_length _), Int.toNat_natCast]

theorem types_encode : ZoneFile.types file.encode = file.withIndices.length := by
  rw [ZoneFile.types, indices_encode, timecnt_encode, withIndices, List.length_append,
    flatMap_length_of_width (fun _ => List.length_singleton), Int.toNat_natCast, Nat.one_mul]

theorem texts_encode : ZoneFile.texts file.encode = file.withTypes.length := by
  rw [ZoneFile.texts, types_encode, typecnt_encode, withTypes, List.length_append,
    flatMap_length_of_width TzType.bytes_length, Int.toNat_natCast]

variable {file} {index : Nat}

theorem time_encode {entry : TzEntry} (present : file.entries[index]? = some entry) :
    ZoneFile.wordAt file.encode (44 + 4 * index) = entry.time := by
  have placed := record_prefix file.times_prefix present
  have word := ZoneFile.wordAt_of_prefix placed
    (file.times entry (List.mem_of_getElem? present))
  rwa [record_front_length (fun _ => tzWord_length _) _ present, front_length] at word

theorem localIdx_encode {entry : TzEntry} (present : file.entries[index]? = some entry) :
    ZoneFile.localIdx file.encode index = entry.localIdx.toNat := by
  have placed := record_prefix file.indices_prefix present
  have byte := ZoneFile.byteAt_of_prefix placed
  rw [record_front_length (fun _ => List.length_singleton) _ present, Nat.one_mul,
    ← indices_encode] at byte
  rw [ZoneFile.localIdx, byte]

theorem localtimeAt_encode {type : TzType} (present : file.types[index]? = some type) :
    ZoneFile.localtimeAt file.encode index = type.localtime := by
  have placed := record_prefix file.types_prefix present
  have start := record_front_length TzType.bytes_length file.withIndices present
  rw [← types_encode] at start
  rw [TzType.bytes, ← List.append_assoc, ← List.append_assoc] at placed
  have upToDst := (List.prefix_append _ _).trans placed
  have gmtoff := ZoneFile.wordAt_of_prefix ((List.prefix_append _ _).trans upToDst)
    (file.gmtoffs type (List.mem_of_getElem? present))
  have isdst := ZoneFile.byteAt_of_prefix upToDst
  have abbrind := ZoneFile.byteAt_of_prefix placed
  rw [start] at gmtoff
  rw [List.length_append, start, tzWord_length] at isdst
  rw [List.length_append, List.length_append, start, tzWord_length] at abbrind
  rw [ZoneFile.localtimeAt, gmtoff, isdst]
  change Localtime.mk _ _ (ZoneFile.byteAt _ (_ + 4 + 1)).toNat = _
  rw [List.length_singleton] at abbrind
  rw [abbrind]
  rfl

variable (file)

theorem localtimes_encode : ZoneFile.localtimes file.encode = file.data.localtimes := by
  rw [ZoneFile.localtimes, typecnt_encode, Int.toNat_natCast]
  exact map_range_eq_map fun _ _ present => localtimeAt_encode present

theorem gmtOffset_getD (index : Nat) :
    (file.data.localtimes.getD index ⟨0, false, 0⟩).gmtOffset = (file.typeAt index).gmtoff := by
  rw [data, typeAt, List.getD_eq_getElem?_getD, List.getD_eq_getElem?_getD, List.getElem?_map]
  cases file.types[index]? <;> rfl

theorem data_encode : ZoneFile.data file.encode = file.data := by
  have transitions : (List.range (ZoneFile.timecnt file.encode).toNat).map
      (ZoneFile.transitionAt file.encode) = file.data.transitions := by
    rw [timecnt_encode, Int.toNat_natCast]
    refine map_range_eq_map ?_
    intro index entry present
    rw [ZoneFile.transitionAt, time_encode present, localIdx_encode present,
      localtimes_encode, gmtOffset_getD]
    rfl
  have abbreviation : (file.encode.drop (ZoneFile.texts file.encode)).take
      (ZoneFile.charcnt file.encode).toNat = file.abbreviations := by
    rw [texts_encode, charcnt_encode, Int.toNat_natCast]
    exact ZoneFile.take_drop_of_prefix file.texts_prefix
  rw [ZoneFile.data, transitions, localtimes_encode, abbreviation]
  rfl

theorem complete_encode : ZoneFile.Complete file.encode where
  magic := by
    have placed : [] ++ Reader.magic <+: file.front := by
      simp only [front, List.nil_append, List.append_assoc]
      exact List.prefix_append _ _
    exact ZoneFile.take_drop_of_prefix (placed.trans file.front_prefix)
  timecnt := by
    rw [timecnt_encode]
    exact Int.natCast_nonneg _
  charcnt := by
    rw [charcnt_encode]
    exact Int.natCast_nonneg _
  length := by
    have length := file.texts_prefix.length_le
    rwa [List.length_append, ← texts_encode, ← Int.toNat_natCast file.abbreviations.length,
      ← charcnt_encode] at length
  localIdx := by
    intro index inside
    rw [timecnt_encode, Int.toNat_natCast] at inside
    have present := List.getElem?_eq_getElem inside
    rw [localIdx_encode present, typecnt_encode, Int.toNat_natCast]
    exact file.localIdx _ (List.mem_of_getElem? present)

theorem sound_data : file.data.Sound where
  localtimes := by
    rw [data, ne_eq, List.map_eq_nil_iff]
    exact file.types_nonempty
  localtimeIdx := by
    intro transition member
    rcases List.mem_map.mp member with ⟨entry, isEntry, rfl⟩
    rw [data, List.length_map]
    exact file.localIdx entry isEntry
  arrbIdx := by
    intro localtime member
    rcases List.mem_map.mp member with ⟨type, isType, rfl⟩
    exact file.abbrinds type isType

end TzFile

/-! ## The linear scan -/

/-- With increasing keys, the type in force is that of the last transition whose key a
time has reached. -/
theorem inForce_eq_filter {key : Transition → Int} {typeOf : Transition → Localtime}
    {current : Localtime} {transitions : List Transition} {time : Int}
    (sorted : transitions.Pairwise (key · < key ·)) :
    inForce key typeOf current transitions time =
      ((transitions.filter (key · ≤ time)).getLast?.map typeOf).getD current := by
  induction transitions generalizing current with
  | nil => rfl
  | cons transition later induction =>
      rcases List.pairwise_cons.mp sorted with ⟨first, laterSorted⟩
      rw [inForce]
      by_cases early : time < key transition
      · have none : (transition :: later).filter (key · ≤ time) = [] := by
          rw [List.filter_eq_nil_iff]
          intro other member
          rcases List.mem_cons.mp member with rfl | isLater
          · simpa using early
          · have after := first other isLater
            simp only [decide_eq_true_eq, Int.not_le]
            omega
        rw [if_pos early, none]
        rfl
      · have reached : decide (key transition ≤ time) = true := by
          simpa using early
        rw [if_neg early, induction laterSorted, List.filter_cons, if_pos reached,
          List.getLast?_cons]
        cases (later.filter (key · ≤ time)).getLast? <;> rfl

namespace TzFile

variable (file : TzFile)

theorem typeAt_localtime {index : Nat} (inside : index < file.types.length) :
    file.data.localtimes.getD index ⟨0, false, 0⟩ = (file.typeAt index).localtime := by
  rw [data, typeAt, List.getD_eq_getElem?_getD, List.getD_eq_getElem?_getD, List.getElem?_map,
    List.getElem?_eq_getElem inside]
  rfl

theorem sorted_data :
    file.data.transitions.Pairwise ((Comp.mk true).key · < (Comp.mk true).key ·) :=
  List.pairwise_map.mpr file.increasing

/-- The bisection agrees with the linear scan. -/
theorem findLocaltime_data (seconds : Int) :
    findLocaltime file.data ⟨seconds, 0, 0⟩ ⟨true⟩ =
      .ok (file.typeInForce seconds).localtime := by
  have filtered : file.data.transitions.filter ((Comp.mk true).key · ≤ seconds) =
      (file.entries.filter (·.time ≤ seconds)).map file.transition := by
    rw [data, List.filter_map]
    rfl
  rw [file.sound_data.findLocaltime_eq_inForce file.sorted_data,
    inForce_eq_filter file.sorted_data]
  change Except.ok (((file.data.transitions.filter
    ((Comp.mk true).key · ≤ seconds)).getLast?.map _).getD _) = _
  rw [filtered, List.getLast?_map, typeInForce, lastReached]
  cases isLast : (file.entries.filter (·.time ≤ seconds)).getLast? with
  | none =>
      exact congrArg _ (file.typeAt_localtime (List.length_pos_iff.mpr file.types_nonempty))
  | some entry =>
      have member := List.mem_of_mem_filter (List.mem_of_getLast? isLast)
      exact congrArg _ (file.typeAt_localtime (file.localIdx entry member))

theorem toLocalTime_data (civil : CivilTime) (seconds : Int) :
    TimeZone.toLocalTime civil ⟨some file.data⟩ seconds =
      .ok (file.localTime civil seconds) := by
  have member : (file.typeInForce seconds).localtime ∈ file.data.localtimes := by
    rcases file.sound_data.findLocaltime_ok ⟨seconds, 0, 0⟩ ⟨true⟩ with ⟨localtime, isType, found⟩
    rw [file.findLocaltime_data] at found
    cases found
    exact isType
  have inside : (file.typeInForce seconds).localtime.arrbIdx <
      file.data.abbreviation.length + 1 :=
    Nat.lt_succ_of_lt (file.sound_data.arrbIdx _ member)
  rw [TimeZone.toLocalTime, TimeZone.getData, Checked.ok_bind, file.findLocaltime_data,
    Checked.ok_bind, TimeZone.zoneText, checkIndex_of inside]
  simp [localTime, TzType.localtime, data]

end TzFile

/-- What a well-formed file says is read from it, and every time is converted with the
type of the last transition it has reached, or the first type. -/
theorem TimeZone.lookup_exact (file : TzFile) :
    load (some file.encode) = .ok ⟨some file.data⟩ ∧
    (∀ transition ∈ file.data.transitions, transition.localtime =
      transition.gmttime + (file.typeAt transition.localtimeIdx).gmtoff) ∧
    ∀ (civil : CivilTime) (seconds : Int), toLocalTime civil ⟨some file.data⟩ seconds =
      .ok (file.localTime civil seconds) := by
  refine ⟨?_, ?_, file.toLocalTime_data⟩
  · rw [load_complete file.complete_encode, file.data_encode]
  · intro transition member
    rcases List.mem_map.mp member with ⟨entry, -, rfl⟩
    rfl

/-- Summer time, an hour more than winter time, from the second transition on. -/
def summerFile : TzFile where
  head := List.replicate 28 0
  entries := [⟨-256, 0⟩, ⟨1000, 1⟩]
  types := [⟨3600, 0, 0⟩, ⟨7200, 1, 4⟩]
  abbreviations := [67, 69, 84, 0, 67, 69, 83, 84, 0]
  trailer := []
  head_length := rfl
  timecnt := by decide
  typecnt := by decide
  charcnt := by decide
  times := by decide
  increasing := by decide
  localIdx := by decide
  types_nonempty := by decide
  gmtoffs := by decide
  abbrinds := by decide

theorem TimeZone.lookup_exact_summer :
    load (some summerFile.encode) = .ok ⟨some summerFile.data⟩ ∧
      summerFile.typeInForce 999 = ⟨3600, 0, 0⟩ ∧ summerFile.typeInForce 1000 = ⟨7200, 1, 4⟩ ∧
      ∀ civil, toLocalTime civil ⟨some summerFile.data⟩ 1000 =
        .ok (summerFile.localTime civil 1000) :=
  ⟨(lookup_exact summerFile).1, by decide, by decide,
    fun civil => (lookup_exact summerFile).2.2 civil 1000⟩

end Ccnet.Base
