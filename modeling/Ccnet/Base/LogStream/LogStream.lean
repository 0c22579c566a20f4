import Ccnet.Foundation.ByteOrder
import Ccnet.Base.LogStream.Convert

namespace Ccnet.Base

/-! `FixedBuffer` and `LogStream` of `base/log_stream.h`. Text is inserted where it leaves
room, numbers where there is room for any number. -/

def kSmallBuffer : Nat := 4000

structure FixedBuffer (size : Nat) where
  data : Vector Char size
  /-- `cur_ - data_` -/
  cur : Nat
  deriving DecidableEq, Repr

namespace FixedBuffer

variable {size : Nat}

def length (buffer : FixedBuffer size) : Nat := buffer.cur

def current (buffer : FixedBuffer size) : Nat := buffer.cur

def avail (buffer : FixedBuffer size) : Int := size - buffer.cur

/-- The comparison is made at `size_t`. -/
def append (buffer : FixedBuffer size) (buf : List Char) : Checked (FixedBuffer size) :=
  if buf.length < toUnsigned 8 buffer.avail then do
    let data ← storeAll buffer.data buffer.cur buf
    return { data, cur := buffer.cur + buf.length }
  else
    return buffer

def add (buffer : FixedBuffer size) (len : Nat) : FixedBuffer size :=
  { buffer with cur := buffer.cur + len }

def reset (buffer : FixedBuffer size) : FixedBuffer size := { buffer with cur := 0 }

/-- The text of `toStringPiece`, or `toString`. -/
def text (buffer : FixedBuffer size) : List Char := buffer.data.toList.take buffer.length

end FixedBuffer

/-- A C string, without its terminating zero. -/
structure CString where
  characters : List Char
  terminated : nul ∉ characters

/-- `snprintf` of a text that is printed in full where it fits. -/
def snprintf {size : Nat} (memory : Vector Char size) (position limit : Nat)
    (printed : List Char) : Checked (Vector Char size × Nat) := do
  let memory ← storeAll memory position (printed.take (limit - 1) ++ [nul])
  return (memory, printed.length)

/-- What `"%.12g"` prints of a `double`. -/
structure DoubleText where
  printed : List Char
  bounded : printed.length ≤ 31

/-- A number that was formatted by itself, into an array of 32. -/
structure Fmt where
  printed : List Char
  bounded : printed.length < 32

/-- The constructor asserts that the text was not cut. -/
def Fmt.create (printed : List Char) : Checked Fmt :=
  if bounded : printed.length < 32 then .ok ⟨printed, bounded⟩ else .error .assertion

/-- The operands of `operator<<`. A `StringPiece` and a `string` are their characters. -/
inductive Insertion
  | bool (v : Bool)
  | short (v : Int) (holds : -32768 ≤ v ∧ v ≤ 32767)
  | unsignedShort (v : Int) (holds : 0 ≤ v ∧ v ≤ 65535)
  | integer (type : IntegerType) (v : Int) (holds : type.Holds v)
  | pointer (p : Nat) (bound : p < 2 ^ 64)
  | double (v : DoubleText)
  | char (v : Char)
  | cString (str : Option CString)
  | string (v : List Char)
  | stringPiece (v : List Char)
  | buffer (v : FixedBuffer kSmallBuffer) (inside : v.length < kSmallBuffer)
  | fmt (v : Fmt)

structure LogStream where
  buffer : FixedBuffer kSmallBuffer
  deriving DecidableEq, Repr

namespace LogStream

def kMaxNumericSize : Int := 32

/-- A new stream; its array is not initialised. -/
def create (data : Vector Char kSmallBuffer) : LogStream := { buffer := { data, cur := 0 } }

def append (stream : LogStream) (data : List Char) : Checked LogStream := do
  return { buffer := ← stream.buffer.append data }

def resetBuffer (stream : LogStream) : LogStream := { buffer := stream.buffer.reset }

def formatInteger (stream : LogStream) (type : IntegerType) (v : Int) : Checked LogStream :=
  if stream.buffer.avail ≥ kMaxNumericSize then do
    let (data, len) ← convert type stream.buffer.data stream.buffer.current v
    return { buffer := { stream.buffer with data }.add len }
  else
    return stream

def insertPointer (stream : LogStream) (p : Nat) : Checked LogStream :=
  if stream.buffer.avail ≥ kMaxNumericSize then do
    let buf := stream.buffer.current
    let data ← store stream.buffer.data buf '0'
    let data ← store data (buf + 1) 'x'
    let (data, len) ← convertHex data (buf + 2) p
    return { buffer := { stream.buffer with data }.add (len + 2) }
  else
    return stream

def insertDouble (stream : LogStream) (printed : List Char) : Checked LogStream :=
  if stream.buffer.avail ≥ kMaxNumericSize then do
    let (data, len) ← snprintf stream.buffer.data stream.buffer.current
      kMaxNumericSize.toNat printed
    return { buffer := { stream.buffer with data }.add len }
  else
    return stream

/-- `operator<<` -/
def insert (stream : LogStream) : Insertion → Checked LogStream
  | .bool v => stream.append (if v then ['1'] else ['0'])
  | .short v _ => stream.formatInteger .int32 v
  | .unsignedShort v _ => stream.formatInteger .uint32 v
  | .integer type v _ => stream.formatInteger type v
  | .pointer p _ => stream.insertPointer p
  | .double v => stream.insertDouble v.printed
  | .char v => stream.append [v]
  | .cString (some str) => stream.append str.characters
  | .cString none => stream.append "(null)".toList
  | .string v => stream.append v
  | .stringPiece v => stream.append v
  | .buffer v _ => stream.append v.text
  | .fmt v => stream.append v.printed

/-- The text in the stream. -/
def content (stream : LogStream) : List Char := stream.buffer.text

/-- The array is never written to its end. -/
def Open (stream : LogStream) : Prop := stream.buffer.length < kSmallBuffer

end LogStream

namespace Insertion

def text : Insertion → List Char
  | .bool v => if v then ['1'] else ['0']
  | .short v _ => decimal v
  | .unsignedShort v _ => decimal v
  | .integer _ v _ => decimal v
  | .pointer p _ => "0x".toList ++ upperHex p
  | .double v => v.printed
  | .char v => [v]
  | .cString (some str) => str.characters
  | .cString none => "(null)".toList
  | .string v => v
  | .stringPiece v => v
  | .buffer v _ => v.text
  | .fmt v => v.printed

@[simp] theorem text_char (v : Char) : (Insertion.char v).text = [v] := rfl

@[simp] theorem text_string (v : List Char) : (Insertion.string v).text = v := rfl

def isNumber : Insertion → Bool
  | .short _ _ | .unsignedShort _ _ | .integer _ _ _ | .pointer _ _ | .double _ => true
  | .bool _ | .char _ | .cString _ | .string _ | .stringPiece _ | .buffer _ _ | .fmt _ => false

/-- How much must be left for the insertion to be made. -/
def room (insertion : Insertion) : Nat :=
  if insertion.isNumber then 32 else insertion.text.length + 1

/-- Whether the insertion is made in a stream of the given length. -/
def Accepted (insertion : Insertion) (length : Nat) : Prop :=
  length + insertion.room ≤ kSmallBuffer

instance (insertion : Insertion) (length : Nat) : Decidable (insertion.Accepted length) :=
  inferInstanceAs (Decidable (_ ≤ _))

/-- The insertions of a list that are made. -/
def accepted : Nat → List Insertion → List Insertion
  | _, [] => []
  | length, insertion :: rest =>
      if insertion.Accepted length then
        insertion :: accepted (length + insertion.text.length) rest
      else
        accepted length rest

theorem accepted_cons_of {insertion : Insertion} {length : Nat}
    (fits : insertion.Accepted length) (rest : List Insertion) :
    accepted length (insertion :: rest) =
      insertion :: accepted (length + insertion.text.length) rest := if_pos fits

theorem accepted_cons_of_not {insertion : Insertion} {length : Nat}
    (full : ¬insertion.Accepted length) (rest : List Insertion) :
    accepted length (insertion :: rest) = accepted length rest := if_neg full

theorem accepted_append (length : Nat) (first second : List Insertion) :
    accepted length (first ++ second) = accepted length first ++
      accepted (length + ((accepted length first).flatMap text).length) second := by
  induction first generalizing length with
  | nil => rfl
  | cons insertion rest induction =>
      by_cases fits : insertion.Accepted length
      · rw [List.cons_append, accepted_cons_of fits, accepted_cons_of fits, induction,
          List.flatMap_cons, List.length_append, Nat.add_assoc, List.cons_append]
      · rw [List.cons_append, accepted_cons_of_not fits, accepted_cons_of_not fits, induction]

theorem accepted_of_refused {length : Nat} {insertions : List Insertion}
    (refused : ∀ insertion ∈ insertions, ¬insertion.Accepted length) :
    accepted length insertions = [] := by
  induction insertions with
  | nil => rfl
  | cons insertion rest induction =>
      rw [accepted_cons_of_not (refused insertion List.mem_cons_self)]
      exact induction fun other member => refused other (List.mem_cons_of_mem _ member)

end Insertion

/-! ## One insertion -/

theorem snprintf_ok {size : Nat} (memory : Vector Char size) {position limit : Nat}
    (printed : List Char) (positive : 0 < limit) (inside : position + limit ≤ size) :
    snprintf memory position limit printed =
      .ok (place memory position (printed.take (limit - 1) ++ [nul]), printed.length) := by
  have fits : position + (printed.take (limit - 1) ++ [nul]).length ≤ size := by
    rw [List.length_append, List.length_take, List.length_singleton]
    omega
  rw [snprintf, storeAll_ok _ fits]
  rfl

/-- What the insertion of a text that needs `room` does to a stream. -/
structure LogStream.Inserts (text : List Char) (room : Nat) (stream next : LogStream) :
    Prop where
  isOpen : next.Open
  made : stream.buffer.length + room ≤ kSmallBuffer →
    next.content = stream.content ++ text ∧
      next.buffer.length = stream.buffer.length + text.length
  refused : ¬stream.buffer.length + room ≤ kSmallBuffer → next = stream

namespace LogStream

variable {stream next : LogStream}

theorem create_open (data : Vector Char kSmallBuffer) : (create data).Open :=
  show 0 < kSmallBuffer by decide

@[simp] theorem create_content (data : Vector Char kSmallBuffer) : (create data).content = [] := rfl

theorem Open.avail (isOpen : stream.Open) :
    stream.buffer.avail = ((kSmallBuffer - stream.buffer.length : Nat) : Int) := by
  unfold Open FixedBuffer.length at isOpen
  unfold FixedBuffer.avail FixedBuffer.length
  omega

theorem Open.content_length (isOpen : stream.Open) :
    stream.content.length = stream.buffer.length := by
  rw [LogStream.content, FixedBuffer.text, List.length_take, Vector.length_toList]
  exact Nat.min_eq_left (Nat.le_of_lt isOpen)

theorem Inserts.refuse {text : List Char} {room : Nat} (isOpen : stream.Open)
    (full : ¬stream.buffer.length + room ≤ kSmallBuffer) : Inserts text room stream stream where
  isOpen := isOpen
  made fits := absurd fits full
  refused _ := rfl

/-- A text is placed at the end, perhaps with something behind it. -/
theorem Inserts.place {text : List Char} (back : List Char) {room : Nat}
    (enough : stream.buffer.length + text.length < kSmallBuffer)
    (fits : stream.buffer.cur + (text ++ back).length ≤ kSmallBuffer)
    (roomy : stream.buffer.length + room ≤ kSmallBuffer) :
    Inserts text room stream { buffer := {
      data := Ccnet.place stream.buffer.data stream.buffer.cur (text ++ back)
      cur := stream.buffer.cur + text.length } } where
  isOpen := enough
  made _ := ⟨place_take stream.buffer.data fits, rfl⟩
  refused full := absurd roomy full

theorem append_ok (isOpen : stream.Open) (data : List Char) :
    ∃ next, stream.append data = .ok next ∧ Inserts data (data.length + 1) stream next := by
  have bound : toUnsigned 8 stream.buffer.avail = kSmallBuffer - stream.buffer.length := by
    have limit : kSmallBuffer < 256 ^ 8 := by decide
    rw [isOpen.avail, toUnsigned]
    omega
  rw [LogStream.append, FixedBuffer.append, bound]
  by_cases fits : data.length < kSmallBuffer - stream.buffer.length
  · have inside : stream.buffer.cur + data.length ≤ kSmallBuffer := by
      unfold FixedBuffer.length at fits
      omega
    rw [if_pos fits, storeAll_ok _ inside]
    refine ⟨_, rfl, ?_⟩
    have placed : Inserts data (data.length + 1) stream _ :=
      .place [] (by omega) (by simpa using inside) (by omega)
    rwa [List.append_nil] at placed
  · rw [if_neg fits]
    exact ⟨stream, rfl, .refuse isOpen (by unfold Open at isOpen; omega)⟩

theorem Open.append {data : List Char} (isOpen : stream.Open)
    (ran : stream.append data = .ok next) : next.Open := by
  rcases append_ok isOpen data with ⟨found, appended, effect⟩
  rw [appended] at ran
  cases ran
  exact effect.isOpen

/-- What the insertions of numbers have in common: where there is room for 32 characters, the
text and a terminating zero are placed at the end. -/
theorem insertNumber_ok (isOpen : stream.Open) {text : List Char} (short : text.length < 32)
    {write : Checked LogStream}
    (writes : stream.buffer.cur + 32 ≤ kSmallBuffer → write = .ok { buffer := {
      data := place stream.buffer.data stream.buffer.cur (text ++ [nul])
      cur := stream.buffer.cur + text.length } }) :
    ∃ next, (if stream.buffer.avail ≥ kMaxNumericSize then write else return stream) =
      .ok next ∧ Inserts text 32 stream next := by
  unfold Open FixedBuffer.length at isOpen
  by_cases fits : stream.buffer.cur + 32 ≤ kSmallBuffer
  · have enough : stream.buffer.avail ≥ kMaxNumericSize := by
      unfold FixedBuffer.avail kMaxNumericSize
      omega
    rw [if_pos enough, writes fits]
    refine ⟨_, rfl, .place [nul] ?_ ?_ fits⟩
    · unfold FixedBuffer.length
      omega
    · rw [List.length_append, List.length_singleton]
      omega
  · have few : ¬stream.buffer.avail ≥ kMaxNumericSize := by
      unfold FixedBuffer.avail kMaxNumericSize
      omega
    rw [if_neg few]
    exact ⟨stream, rfl, .refuse isOpen fits⟩

theorem formatInteger_ok (isOpen : stream.Open) {type : IntegerType} {v : Int}
    (holds : type.Holds v) :
    ∃ next, stream.formatInteger type v = .ok next ∧ Inserts (decimal v) 32 stream next := by
  have length := decimal_length holds
  refine insertNumber_ok isOpen (by omega) ?_
  intro fits
  have converted := convert_ok stream.buffer.data stream.buffer.cur holds (by omega)
  rw [FixedBuffer.current, converted, Checked.ok_bind]
  rfl

theorem insertPointer_ok (isOpen : stream.Open) {p : Nat} (bound : p < 2 ^ 64) :
    ∃ next, stream.insertPointer p = .ok next ∧
      Inserts ("0x".toList ++ upperHex p) 32 stream next := by
  have length := upperHex_length bound
  refine insertNumber_ok isOpen ?_ ?_
  · rw [List.length_append]
    exact Nat.lt_of_le_of_lt (Nat.add_le_add_left length _) (by decide)
  · intro fits
    have first := place_append stream.buffer.data stream.buffer.cur ['0'] ['x']
    have second := place_append stream.buffer.data stream.buffer.cur ['0', 'x']
      (upperHex p ++ [nul])
    have converted := convertHex_ok (place stream.buffer.data stream.buffer.cur ['0', 'x'])
      (stream.buffer.cur + 2) bound (by omega)
    rw [List.length_singleton, List.singleton_append] at first
    dsimp only
    rw [FixedBuffer.current, store_ok _ _ (by omega), Checked.ok_bind, store_ok _ _ (by omega),
      first, Checked.ok_bind, converted, Checked.ok_bind]
    change Except.ok _ = _
    rw [show "0x".toList = ['0', 'x'] from rfl, List.append_assoc, ← second, List.length_append,
      Nat.add_comm ['0', 'x'].length]
    rfl

theorem insertDouble_ok (isOpen : stream.Open) (v : DoubleText) :
    ∃ next, stream.insertDouble v.printed = .ok next ∧ Inserts v.printed 32 stream next := by
  have bounded := v.bounded
  refine insertNumber_ok isOpen (by omega) ?_
  intro fits
  have whole : v.printed.take (kMaxNumericSize.toNat - 1) = v.printed :=
    List.take_of_length_le bounded
  have written : snprintf stream.buffer.data stream.buffer.current kMaxNumericSize.toNat
      v.printed = _ := snprintf_ok _ _ (by decide) fits
  rw [written, whole]
  rfl

/-- Every insertion succeeds; it is made in full or not at all. -/
theorem insert_ok (isOpen : stream.Open) (insertion : Insertion) :
    ∃ next, stream.insert insertion = .ok next ∧
      Inserts insertion.text insertion.room stream next := by
  cases insertion with
  | short v holds =>
      have range : IntegerType.int32.Holds v := by
        simp only [IntegerType.Holds, IntegerType.minimum, IntegerType.maximum]
        omega
      exact formatInteger_ok isOpen range
  | unsignedShort v holds =>
      have range : IntegerType.uint32.Holds v := by
        simp only [IntegerType.Holds, IntegerType.minimum, IntegerType.maximum]
        omega
      exact formatInteger_ok isOpen range
  | integer type v holds => exact formatInteger_ok isOpen holds
  | pointer p bound => exact insertPointer_ok isOpen bound
  | double v => exact insertDouble_ok isOpen v
  | cString str => cases str <;> exact append_ok isOpen _
  | bool _ | char _ | string _ | stringPiece _ | buffer _ _ | fmt _ => exact append_ok isOpen _

/-! ## Many insertions -/

def insertAll (stream : LogStream) (insertions : List Insertion) : Checked LogStream :=
  insertions.foldlM insert stream

theorem insertAll_ok (isOpen : stream.Open) (insertions : List Insertion) :
    ∃ final, stream.insertAll insertions = .ok final ∧ final.Open ∧
      final.content = stream.content ++
        (Insertion.accepted stream.buffer.length insertions).flatMap Insertion.text := by
  induction insertions generalizing stream with
  | nil => exact ⟨stream, rfl, isOpen, (List.append_nil _).symm⟩
  | cons insertion rest induction =>
      rcases insert_ok isOpen insertion with ⟨next, inserted, effect⟩
      rcases induction effect.isOpen with ⟨final, ran, finalOpen, content⟩
      have all : stream.insertAll (insertion :: rest) = .ok final := by
        rw [insertAll, List.foldlM_cons, inserted]
        exact ran
      refine ⟨final, all, finalOpen, ?_⟩
      by_cases fits : insertion.Accepted stream.buffer.length
      · rcases effect.made fits with ⟨added, length⟩
        rw [Insertion.accepted_cons_of fits, content, added, length, List.flatMap_cons,
          List.append_assoc]
      · rw [Insertion.accepted_cons_of_not fits, content, effect.refused fits]

theorem Open.insertAll {insertions : List Insertion} (isOpen : stream.Open)
    (ran : stream.insertAll insertions = .ok next) : next.Open := by
  rcases insertAll_ok isOpen insertions with ⟨found, inserted, finalOpen, -⟩
  rw [inserted] at ran
  cases ran
  exact finalOpen

/-- From a fresh or a reset stream on, the content is the concatenation of the texts that were
accepted, each by what was left at its turn. -/
theorem insertions_exact (start : LogStream)
    (empty : (∃ data, start = create data) ∨ ∃ earlier : LogStream, start = earlier.resetBuffer)
    (insertions : List Insertion) :
    ∃ final, start.insertAll insertions = .ok final ∧ final.buffer.length < kSmallBuffer ∧
      final.content = (Insertion.accepted 0 insertions).flatMap Insertion.text ∧
      ∀ insertion : Insertion, ∃ next, final.insert insertion = .ok next ∧
        (insertion.Accepted final.buffer.length →
          next.content = final.content ++ insertion.text) ∧
        (¬insertion.Accepted final.buffer.length → next = final) := by
  obtain ⟨data, rfl⟩ : ∃ data, start = create data := by
    rcases empty with fresh | ⟨earlier, rfl⟩
    · exact fresh
    · exact ⟨earlier.buffer.data, rfl⟩
  rcases insertAll_ok (create_open data) insertions with ⟨final, ran, finalOpen, content⟩
  rw [create_content, List.nil_append] at content
  refine ⟨final, ran, finalOpen, content, ?_⟩
  intro insertion
  rcases insert_ok finalOpen insertion with ⟨next, inserted, effect⟩
  exact ⟨next, inserted, fun fits => (effect.made fits).1, effect.refused⟩

/-- A text that would fill the array is refused, and the number after it is not. -/
theorem insertions_exact_refused :
    ∃ final, (create (Vector.replicate kSmallBuffer ' ')).insertAll
        [.string (List.replicate 4000 'a'), .integer .int32 (-7) (by decide), .cString none] =
          .ok final ∧
      final.content = "-7(null)".toList := by
  rcases insertions_exact (create (Vector.replicate kSmallBuffer ' ')) (.inl ⟨_, rfl⟩)
    [.string (List.replicate 4000 'a'), .integer .int32 (-7) (by decide), .cString none] with
    ⟨final, ran, -, content, -⟩
  refine ⟨final, ran, content.trans ?_⟩
  decide +kernel

end LogStream

end Ccnet.Base
