import Ccnet.Foundation.ByteOrder
import Ccnet.Net.Buffer

namespace Ccnet.Net.Buffer

/-! The integers of `net/buffer.h`, which travel in network byte order. The conversions
`hostToNetwork64`, … of `net/endian.h` are the machine's `htobe64`, …, so the order in
which the machine keeps its own words is a parameter. -/

variable (host : ByteOrder)

/-- A variable of `count` bytes in memory. -/
def objectBytes (count : Nat) (x : Int) : List UInt8 :=
  host.store count (toUnsigned count x)

/-- The variable `be64`, `be32` or `be16`. The conversion works on unsigned words. -/
def networkOrder (count : Nat) (x : Int) : Int :=
  toSigned count (host.htobe count (toUnsigned count x))

/-! ## Append -/

def appendNetwork (count : Nat) (buffer : Buffer) (x : Int) : Checked Buffer :=
  buffer.append (objectBytes host count (networkOrder host count x))

def appendInt64 (buffer : Buffer) (x : Int) : Checked Buffer := appendNetwork host 8 buffer x

def appendInt32 (buffer : Buffer) (x : Int) : Checked Buffer := appendNetwork host 4 buffer x

def appendInt16 (buffer : Buffer) (x : Int) : Checked Buffer := appendNetwork host 2 buffer x

def appendInt8 (buffer : Buffer) (x : Int) : Checked Buffer :=
  buffer.append (objectBytes host 1 x)

/-! ## Peek, retrieve and read -/

def peekNetwork (count : Nat) (buffer : Buffer) : Checked Int := do
  check (count ≤ buffer.readableBytes)
  let be := toSigned count
    (host.load (slice buffer.buffer buffer.peek (buffer.peek + count)))
  return toSigned count (host.betoh count (toUnsigned count be))

def peekInt64 (buffer : Buffer) : Checked Int := peekNetwork host 8 buffer

def peekInt32 (buffer : Buffer) : Checked Int := peekNetwork host 4 buffer

def peekInt16 (buffer : Buffer) : Checked Int := peekNetwork host 2 buffer

def peekInt8 (buffer : Buffer) : Checked Int := do
  check (1 ≤ buffer.readableBytes)
  let x ← element buffer.buffer buffer.peek
  return toSigned 1 x.toNat

def retrieveInt64 (buffer : Buffer) : Checked Buffer := buffer.retrieve 8

def retrieveInt32 (buffer : Buffer) : Checked Buffer := buffer.retrieve 4

def retrieveInt16 (buffer : Buffer) : Checked Buffer := buffer.retrieve 2

def retrieveInt8 (buffer : Buffer) : Checked Buffer := buffer.retrieve 1

def readWith (peekInt : Buffer → Checked Int) (retrieveInt : Buffer → Checked Buffer)
    (buffer : Buffer) : Checked (Int × Buffer) := do
  let result ← peekInt buffer
  let rest ← retrieveInt buffer
  return (result, rest)

def readInt64 : Buffer → Checked (Int × Buffer) := readWith (peekInt64 host) retrieveInt64

def readInt32 : Buffer → Checked (Int × Buffer) := readWith (peekInt32 host) retrieveInt32

def readInt16 : Buffer → Checked (Int × Buffer) := readWith (peekInt16 host) retrieveInt16

def readInt8 : Buffer → Checked (Int × Buffer) := readWith peekInt8 retrieveInt8

/-! ## Prepend -/

def prependNetwork (count : Nat) (buffer : Buffer) (x : Int) : Checked Buffer :=
  buffer.prepend (objectBytes host count (networkOrder host count x))

def prependInt64 (buffer : Buffer) (x : Int) : Checked Buffer := prependNetwork host 8 buffer x

def prependInt32 (buffer : Buffer) (x : Int) : Checked Buffer := prependNetwork host 4 buffer x

def prependInt16 (buffer : Buffer) (x : Int) : Checked Buffer := prependNetwork host 2 buffer x

def prependInt8 (buffer : Buffer) (x : Int) : Checked Buffer :=
  buffer.prepend (objectBytes host 1 x)

/-! ## The four widths together -/

inductive Width
  | int8
  | int16
  | int32
  | int64
  deriving DecidableEq, Repr

def Width.size : Width → Nat
  | .int8 => 1
  | .int16 => 2
  | .int32 => 4
  | .int64 => 8

theorem Width.size_pos (width : Width) : 0 < width.size := by
  cases width <;> decide

def appendInt : Width → Buffer → Int → Checked Buffer
  | .int8 => appendInt8 host
  | .int16 => appendInt16 host
  | .int32 => appendInt32 host
  | .int64 => appendInt64 host

def peekInt : Width → Buffer → Checked Int
  | .int8 => peekInt8
  | .int16 => peekInt16 host
  | .int32 => peekInt32 host
  | .int64 => peekInt64 host

def readInt : Width → Buffer → Checked (Int × Buffer)
  | .int8 => readInt8
  | .int16 => readInt16 host
  | .int32 => readInt32 host
  | .int64 => readInt64 host

def prependInt : Width → Buffer → Int → Checked Buffer
  | .int8 => prependInt8 host
  | .int16 => prependInt16 host
  | .int32 => prependInt32 host
  | .int64 => prependInt64 host

/-- The two's-complement bytes of an integer, the highest first. -/
def wireBytes (width : Width) (x : Int) : List UInt8 :=
  bigEndian width.size (toUnsigned width.size x)

/-- The integer with these bytes. -/
def wireValue (width : Width) (bytes : List UInt8) : Int :=
  toSigned width.size (ofBigEndian bytes)

@[simp] theorem wireBytes_length (width : Width) (x : Int) :
    (wireBytes width x).length = width.size := bigEndian_length _ _

theorem wireValue_wireBytes {width : Width} {x : Int} (inRange : InSigned width.size x) :
    wireValue width (wireBytes width x) = x := by
  rw [wireValue, wireBytes, ofBigEndian_bigEndian, Nat.mod_eq_of_lt (toUnsigned_lt _ _),
    toSigned_toUnsigned width.size_pos inRange]

theorem wireBytes_wireValue {width : Width} {bytes : List UInt8}
    (length : bytes.length = width.size) : wireBytes width (wireValue width bytes) = bytes := by
  have bound := ofBigEndian_lt bytes
  rw [length] at bound
  rw [wireBytes, wireValue, toUnsigned_toSigned bound, ← length, bigEndian_ofBigEndian]

theorem objectBytes_networkOrder (count : Nat) (x : Int) :
    objectBytes host count (networkOrder host count x) =
      bigEndian count (toUnsigned count x) := by
  rw [objectBytes, networkOrder,
    toUnsigned_toSigned (host.htobe_lt (toUnsigned_lt count x)), host.store_htobe]

/-- A single byte needs no conversion. -/
theorem objectBytes_one (x : Int) : objectBytes host 1 x = bigEndian 1 (toUnsigned 1 x) := by
  cases host with
  | little => rfl
  | big => rfl

theorem appendInt_eq (width : Width) (buffer : Buffer) (x : Int) :
    appendInt host width buffer x = buffer.append (wireBytes width x) := by
  cases width with
  | int8 => exact congrArg buffer.append (objectBytes_one host x)
  | int16 | int32 | int64 => exact congrArg buffer.append (objectBytes_networkOrder host _ x)

theorem prependInt_eq (width : Width) (buffer : Buffer) (x : Int) :
    prependInt host width buffer x = buffer.prepend (wireBytes width x) := by
  cases width with
  | int8 => exact congrArg buffer.prepend (objectBytes_one host x)
  | int16 | int32 | int64 => exact congrArg buffer.prepend (objectBytes_networkOrder host _ x)

theorem peekNetwork_ok {count : Nat} {buffer : Buffer} (wellFormed : buffer.WellFormed)
    (available : count ≤ buffer.readableBytes) :
    peekNetwork host count buffer =
      .ok (toSigned count (ofBigEndian (buffer.content.take count))) := by
  have length : (buffer.content.take count).length = count := by
    rw [List.length_take, wellFormed.content_length]
    omega
  have bound := host.load_lt (buffer.content.take count)
  have converted := host.betoh_load (buffer.content.take count)
  rw [length] at bound converted
  rw [peekNetwork, Checked.check_bind_of available, peek,
    slice_take _ _ buffer.writerIndex count available]
  change Except.ok (toSigned count (host.betoh count
    (toUnsigned count (toSigned count (host.load (buffer.content.take count)))))) = _
  rw [toUnsigned_toSigned bound, converted]

theorem peekInt8_ok {buffer : Buffer} (wellFormed : buffer.WellFormed)
    (available : 1 ≤ buffer.readableBytes) :
    buffer.peekInt8 = .ok (toSigned 1 (ofBigEndian (buffer.content.take 1))) := by
  have bounded := wellFormed.bounded
  have inside : buffer.peek < buffer.buffer.length := by
    rw [readableBytes] at available
    rw [peek]
    omega
  have first : buffer.content.take 1 = [buffer.buffer[buffer.peek]] := by
    rw [content, ← slice_take _ _ _ _ available, slice, Nat.add_sub_cancel_left]
    exact List.take_one_drop_eq_of_lt_length inside
  rw [peekInt8, Checked.check_bind_of available, element_of (List.getElem?_eq_getElem inside),
    first]
  rfl

theorem peekInt_ok {width : Width} {buffer : Buffer} (wellFormed : buffer.WellFormed)
    (available : width.size ≤ buffer.readableBytes) :
    peekInt host width buffer = .ok (wireValue width (buffer.content.take width.size)) := by
  cases width with
  | int8 => exact peekInt8_ok wellFormed available
  | int16 | int32 | int64 => exact peekNetwork_ok host wellFormed available

theorem readInt_eq (width : Width) (buffer : Buffer) :
    readInt host width buffer =
      readWith (peekInt host width) (fun buffer => buffer.retrieve width.size) buffer := by
  cases width <;> rfl

theorem readInt_ok {width : Width} {buffer : Buffer} (wellFormed : buffer.WellFormed)
    (available : width.size ≤ buffer.readableBytes) :
    ∃ rest, readInt host width buffer =
        .ok (wireValue width (buffer.content.take width.size), rest) ∧
      rest.WellFormed ∧ rest.content = buffer.content.drop width.size := by
  rcases retrieve_ok wellFormed available with ⟨rest, retrieved, kept, content⟩
  refine ⟨rest, ?_, kept, content⟩
  rw [readInt_eq, readWith, peekInt_ok host wellFormed available, Checked.ok_bind, retrieved]
  rfl

/-- The integer at the front of the content is read, and only its bytes are taken. -/
theorem readInt_wireBytes {width : Width} {buffer : Buffer} {x : Int} {more : List UInt8}
    (wellFormed : buffer.WellFormed) (inRange : InSigned width.size x)
    (content : buffer.content = wireBytes width x ++ more) :
    ∃ rest, readInt host width buffer = .ok (x, rest) ∧ rest.WellFormed ∧
      rest.content = more := by
  have length := wireBytes_length width x
  have available : width.size ≤ buffer.readableBytes := by
    rw [← wellFormed.content_length, content, List.length_append, length]
    omega
  rcases readInt_ok host wellFormed available with ⟨rest, read, kept, left⟩
  refine ⟨rest, ?_, kept, ?_⟩
  · rw [read, content, List.take_left' length, wireValue_wireBytes inRange]
  · rw [left, content, List.drop_left' length]

/-! ## Lists of integers -/

/-- An integer with the width it travels with. -/
structure Tagged where
  width : Width
  value : Int
  inRange : InSigned width.size value

def Tagged.bytes (item : Tagged) : List UInt8 := wireBytes item.width item.value

def appendInts (buffer : Buffer) : List Tagged → Checked Buffer
  | [] => return buffer
  | item :: items => do
      let next ← appendInt host item.width buffer item.value
      next.appendInts items

def readInts (buffer : Buffer) : List Width → Checked (List Int × Buffer)
  | [] => return ([], buffer)
  | width :: widths => do
      let (value, next) ← readInt host width buffer
      let (values, rest) ← next.readInts widths
      return (value :: values, rest)

theorem appendInts_ok {buffer : Buffer} (wellFormed : buffer.WellFormed)
    (items : List Tagged) :
    ∃ filled, appendInts host buffer items = .ok filled ∧ filled.WellFormed ∧
      filled.content = buffer.content ++ items.flatMap Tagged.bytes := by
  induction items generalizing buffer with
  | nil => exact ⟨buffer, rfl, wellFormed, (List.append_nil _).symm⟩
  | cons item items induction =>
      rcases append_ok wellFormed item.bytes with ⟨next, appended, kept, content⟩
      rcases induction kept with ⟨filled, done, filledWellFormed, filledContent⟩
      refine ⟨filled, ?_, filledWellFormed, ?_⟩
      · rw [appendInts, appendInt_eq]
        change (buffer.append item.bytes >>= _) = _
        rw [appended]
        exact done
      · rw [filledContent, content, List.flatMap_cons, List.append_assoc]

theorem readInts_ok {buffer : Buffer} (wellFormed : buffer.WellFormed) {items : List Tagged}
    {more : List UInt8} (content : buffer.content = items.flatMap Tagged.bytes ++ more) :
    ∃ rest, readInts host buffer (items.map Tagged.width) =
        .ok (items.map Tagged.value, rest) ∧
      rest.WellFormed ∧ rest.content = more := by
  induction items generalizing buffer with
  | nil => exact ⟨buffer, rfl, wellFormed, content⟩
  | cons item items induction =>
      rw [List.flatMap_cons, List.append_assoc] at content
      rcases readInt_wireBytes host wellFormed item.inRange content with
        ⟨next, read, kept, left⟩
      rcases induction kept left with ⟨rest, done, restWellFormed, restContent⟩
      refine ⟨rest, ?_, restWellFormed, restContent⟩
      rw [List.map_cons, readInts, read]
      dsimp only [Checked.ok_bind]
      rw [done]
      rfl

theorem appendInts_retrieve_readInts {buffer : Buffer} (wellFormed : buffer.WellFormed)
    (items : List Tagged) :
    ∃ filled front rest, appendInts host buffer items = .ok filled ∧ filled.WellFormed ∧
      filled.content = buffer.content ++ items.flatMap Tagged.bytes ∧
      filled.retrieve buffer.readableBytes = .ok front ∧
      readInts host front (items.map Tagged.width) = .ok (items.map Tagged.value, rest) ∧
      rest.WellFormed ∧ rest.content = [] := by
  rcases appendInts_ok host wellFormed items with ⟨filled, appended, filledWellFormed, content⟩
  have available : buffer.readableBytes ≤ filled.readableBytes := by
    rw [← wellFormed.content_length, ← filledWellFormed.content_length, content,
      List.length_append]
    exact Nat.le_add_right _ _
  rcases retrieve_ok filledWellFormed available with
    ⟨front, retrieved, frontWellFormed, frontContent⟩
  rw [content, List.drop_left' wellFormed.content_length,
    ← List.append_nil (items.flatMap Tagged.bytes)] at frontContent
  rcases readInts_ok host frontWellFormed frontContent with ⟨rest, read, kept, empty⟩
  exact ⟨filled, front, rest, appended, filledWellFormed, content, retrieved, read, kept, empty⟩

theorem prependInt_readInt {buffer : Buffer} (wellFormed : buffer.WellFormed) {width : Width}
    {x : Int} (inRange : InSigned width.size x)
    (available : width.size ≤ buffer.prependableBytes) :
    ∃ longer rest, prependInt host width buffer x = .ok longer ∧
      longer.content = wireBytes width x ++ buffer.content ∧
      readInt host width longer = .ok (x, rest) ∧ rest.WellFormed ∧
      rest.content = buffer.content := by
  rw [← wireBytes_length width x] at available
  rcases prepend_ok wellFormed available with ⟨longer, prepended, kept, content⟩
  rcases readInt_wireBytes host kept inRange content with ⟨rest, read, restKept, restored⟩
  rw [prependInt_eq]
  exact ⟨longer, rest, prepended, content, read, restKept, restored⟩

theorem readInt_appendInt {buffer : Buffer} (wellFormed : buffer.WellFormed) {width : Width}
    (available : width.size ≤ buffer.readableBytes) :
    ∃ x rest, readInt host width buffer = .ok (x, rest) ∧ InSigned width.size x ∧
      rest.content = buffer.content.drop width.size ∧
      ∀ target : Buffer, target.WellFormed → ∃ next, appendInt host width target x = .ok next ∧
        next.content = target.content ++ buffer.content.take width.size := by
  rcases readInt_ok host wellFormed available with ⟨rest, read, -, left⟩
  have length : (buffer.content.take width.size).length = width.size := by
    rw [List.length_take, wellFormed.content_length]
    exact Nat.min_eq_left available
  refine ⟨_, rest, read, toSigned_inSigned width.size_pos _, left, ?_⟩
  intro target targetWellFormed
  rw [appendInt_eq, wireBytes_wireValue length]
  rcases append_ok targetWellFormed (buffer.content.take width.size) with
    ⟨next, appended, -, content⟩
  exact ⟨next, appended, content⟩

/-- Integers survive the buffer, whatever its layout and the machine's byte order: those
appended are read back, one that is prepended is read back and leaves the content as it
was, and appending what was read writes the same bytes. -/
theorem integers_round_trip {buffer : Buffer} (wellFormed : buffer.WellFormed) :
    (∀ items : List Tagged, ∃ filled front rest,
      appendInts host buffer items = .ok filled ∧ filled.WellFormed ∧
      filled.content = buffer.content ++ items.flatMap Tagged.bytes ∧
      filled.retrieve buffer.readableBytes = .ok front ∧
      readInts host front (items.map Tagged.width) = .ok (items.map Tagged.value, rest) ∧
      rest.WellFormed ∧ rest.content = []) ∧
    (∀ (items : List Tagged) (more : List UInt8),
      buffer.content = items.flatMap Tagged.bytes ++ more →
      ∃ rest, readInts host buffer (items.map Tagged.width) =
          .ok (items.map Tagged.value, rest) ∧
        rest.WellFormed ∧ rest.content = more) ∧
    (∀ (width : Width) (x : Int), InSigned width.size x →
      width.size ≤ buffer.prependableBytes →
      ∃ longer rest, prependInt host width buffer x = .ok longer ∧
        longer.content = wireBytes width x ++ buffer.content ∧
        readInt host width longer = .ok (x, rest) ∧ rest.WellFormed ∧
        rest.content = buffer.content) ∧
    (∀ width : Width, width.size ≤ buffer.readableBytes →
      ∃ x rest, readInt host width buffer = .ok (x, rest) ∧ InSigned width.size x ∧
        rest.content = buffer.content.drop width.size ∧
        ∀ target : Buffer, target.WellFormed →
          ∃ next, appendInt host width target x = .ok next ∧
            next.content = target.content ++ buffer.content.take width.size) :=
  ⟨appendInts_retrieve_readInts host wellFormed,
    fun _ _ content => readInts_ok host wellFormed content,
    fun _ _ inRange available => prependInt_readInt host wellFormed inRange available,
    fun _ available => readInt_appendInt host wellFormed available⟩

theorem integers_round_trip_little :
    ∃ start longer rest, create 0 = .ok start ∧
      prependInt64 .little start (-3) = .ok longer ∧
      longer.content = [255, 255, 255, 255, 255, 255, 255, 253] ∧
      readInt64 .little longer = .ok (-3, rest) ∧ rest.content = [] := by
  have wellFormed := (create_wellFormed (create_eq_ok 0)).1
  rcases (integers_round_trip .little wellFormed).2.2.1 .int64 (-3) (by decide) (by decide) with
    ⟨longer, rest, prepended, content, read, -, restored⟩
  exact ⟨_, longer, rest, create_eq_ok 0, prepended, content, read, restored⟩

end Ccnet.Net.Buffer
