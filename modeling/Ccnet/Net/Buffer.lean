import Ccnet.Foundation.Machine
import Ccnet.Foundation.Slice
import Ccnet.Foundation.Framing

namespace Ccnet.Net

/-! The application buffer of `net/buffer.h`. -/

/-- `size_t` values are natural numbers, which agree with the machine's as long
as all sizes stay below its limit. Pointers into the vector are positions. -/
structure Buffer where
  buffer : List UInt8
  readerIndex : Nat
  writerIndex : Nat
  deriving DecidableEq, Repr

namespace Buffer

def kCheapPrepend : Nat := 8

def kInitialSize : Nat := 1024

def readableBytes (buffer : Buffer) : Nat :=
  buffer.writerIndex - buffer.readerIndex

def writableBytes (buffer : Buffer) : Nat :=
  buffer.buffer.length - buffer.writerIndex

def prependableBytes (buffer : Buffer) : Nat :=
  buffer.readerIndex

def peek (buffer : Buffer) : Nat :=
  buffer.readerIndex

def beginWrite (buffer : Buffer) : Nat :=
  buffer.writerIndex

/-- The bytes between `readerIndex_` and `writerIndex_`. -/
def content (buffer : Buffer) : List UInt8 :=
  slice buffer.buffer buffer.readerIndex buffer.writerIndex

def carriageReturn : UInt8 := 13

def lineFeed : UInt8 := 10

/-- Where the first `kCRLF` of the content starts. -/
def findCRLF (buffer : Buffer) : Option Nat :=
  (Framing.searchPair carriageReturn lineFeed buffer.content).map (buffer.peek + ·)

def create (initialSize : Nat) : Checked Buffer := do
  let buffer : Buffer := {
    buffer := List.replicate (kCheapPrepend + initialSize) 0
    readerIndex := kCheapPrepend
    writerIndex := kCheapPrepend }
  check (buffer.readableBytes = 0)
  check (buffer.writableBytes = initialSize)
  check (buffer.prependableBytes = kCheapPrepend)
  return buffer

def retrieveAll (buffer : Buffer) : Buffer :=
  { buffer with readerIndex := kCheapPrepend, writerIndex := kCheapPrepend }

def retrieve (buffer : Buffer) (len : Nat) : Checked Buffer := do
  check (len ≤ buffer.readableBytes)
  if len < buffer.readableBytes then
    return { buffer with readerIndex := buffer.readerIndex + len }
  else
    return buffer.retrieveAll

def retrieveUntil (buffer : Buffer) (finish : Nat) : Checked Buffer := do
  check (buffer.peek ≤ finish)
  check (finish ≤ buffer.beginWrite)
  buffer.retrieve (finish - buffer.peek)

def retrieveAsString (buffer : Buffer) (len : Nat) :
    Checked (List UInt8 × Buffer) := do
  check (len ≤ buffer.readableBytes)
  let result := slice buffer.buffer buffer.peek (buffer.peek + len)
  let rest ← buffer.retrieve len
  return (result, rest)

def makeSpace (buffer : Buffer) (len : Nat) : Checked Buffer :=
  if buffer.writableBytes + buffer.prependableBytes < len + kCheapPrepend then
    return { buffer with buffer := resize buffer.buffer (buffer.writerIndex + len) }
  else do
    check (kCheapPrepend < buffer.readerIndex)
    let readable := buffer.readableBytes
    let moved : Buffer := {
      buffer := copyForward buffer.buffer buffer.readerIndex kCheapPrepend
        (buffer.writerIndex - buffer.readerIndex)
      readerIndex := kCheapPrepend
      writerIndex := kCheapPrepend + readable }
    check (readable = moved.readableBytes)
    return moved

def ensureWritableBytes (buffer : Buffer) (len : Nat) : Checked Buffer := do
  let enlarged ←
    if buffer.writableBytes < len then buffer.makeSpace len else pure buffer
  check (len ≤ enlarged.writableBytes)
  return enlarged

def hasWritten (buffer : Buffer) (len : Nat) : Checked Buffer := do
  check (len ≤ buffer.writableBytes)
  return { buffer with writerIndex := buffer.writerIndex + len }

def append (buffer : Buffer) (data : List UInt8) : Checked Buffer := do
  let enlarged ← buffer.ensureWritableBytes data.length
  let filled : Buffer :=
    { enlarged with buffer := copyInto enlarged.buffer enlarged.beginWrite data }
  filled.hasWritten data.length

def unwrite (buffer : Buffer) (len : Nat) : Checked Buffer := do
  check (len ≤ buffer.readableBytes)
  return { buffer with writerIndex := buffer.writerIndex - len }

def prepend (buffer : Buffer) (data : List UInt8) : Checked Buffer := do
  check (data.length ≤ buffer.prependableBytes)
  let readerIndex := buffer.readerIndex - data.length
  return { buffer with
    buffer := copyInto buffer.buffer readerIndex data
    readerIndex := readerIndex }

/-- `sizeof extrabuf` in `readFd`. -/
def kExtraSize : Nat := 65536

/-- How much `readFd` offers to `readv`. -/
def readLimit (buffer : Buffer) : Nat :=
  if buffer.writableBytes < kExtraSize then buffer.writableBytes + kExtraSize
  else buffer.writableBytes

/-- `readFd` when `readv` delivers `data`. -/
def readFd (buffer : Buffer) (data : List UInt8) : Checked Buffer :=
  let writable := buffer.writableBytes
  let filled := copyInto buffer.buffer buffer.writerIndex (data.take writable)
  if data.length ≤ writable then
    return { buffer with
      buffer := filled
      writerIndex := buffer.writerIndex + data.length }
  else
    { buffer with
      buffer := filled
      writerIndex := buffer.buffer.length }.append (data.drop writable)

/-! ## Invariant and effect of each operation -/

structure WellFormed (buffer : Buffer) : Prop where
  reserved : kCheapPrepend ≤ buffer.buffer.length
  ordered : buffer.readerIndex ≤ buffer.writerIndex
  bounded : buffer.writerIndex ≤ buffer.buffer.length

theorem WellFormed.content_length {buffer : Buffer}
    (wellFormed : buffer.WellFormed) :
    buffer.content.length = buffer.readableBytes :=
  slice_length wellFormed.bounded

theorem content_eq_nil_iff {buffer : Buffer} (wellFormed : buffer.WellFormed) :
    buffer.content = [] ↔ buffer.readableBytes = 0 := by
  rw [← wellFormed.content_length, List.length_eq_zero_iff]

theorem create_eq_ok (initialSize : Nat) :
    create initialSize = .ok {
      buffer := List.replicate (kCheapPrepend + initialSize) 0
      readerIndex := kCheapPrepend
      writerIndex := kCheapPrepend } := by
  simp [create, readableBytes, writableBytes, prependableBytes, check_of]

theorem create_wellFormed {initialSize : Nat} {buffer : Buffer}
    (created : create initialSize = .ok buffer) :
    buffer.WellFormed ∧ buffer.content = [] := by
  rw [create_eq_ok] at created
  cases created
  refine ⟨⟨by simp, by simp, by simp⟩, ?_⟩
  simp [content]

@[simp] theorem retrieveAll_content (buffer : Buffer) :
    buffer.retrieveAll.content = [] := by
  simp [retrieveAll, content]

theorem WellFormed.retrieveAll {buffer : Buffer}
    (wellFormed : buffer.WellFormed) : buffer.retrieveAll.WellFormed where
  reserved := wellFormed.reserved
  ordered := Nat.le_refl _
  bounded := wellFormed.reserved

theorem retrieve_ok {buffer : Buffer} {len : Nat}
    (wellFormed : buffer.WellFormed) (available : len ≤ buffer.readableBytes) :
    ∃ next, buffer.retrieve len = .ok next ∧ next.WellFormed ∧
      next.content = buffer.content.drop len := by
  unfold retrieve
  rw [Checked.check_bind_of available]
  have ordered := wellFormed.ordered
  unfold readableBytes at available ⊢
  by_cases shorter : len < buffer.writerIndex - buffer.readerIndex
  · rw [if_pos shorter]
    refine ⟨_, rfl, ⟨wellFormed.reserved, ?_, wellFormed.bounded⟩, ?_⟩
    · simp only
      omega
    · exact slice_drop _ _ _ _
  · rw [if_neg shorter]
    refine ⟨_, rfl, wellFormed.retrieveAll, ?_⟩
    have length := wellFormed.content_length
    unfold readableBytes at length
    rw [retrieveAll_content, List.drop_eq_nil_of_le (by omega)]

theorem retrieveUntil_ok {buffer : Buffer} {len : Nat}
    (wellFormed : buffer.WellFormed) (available : len ≤ buffer.readableBytes) :
    ∃ next, buffer.retrieveUntil (buffer.peek + len) = .ok next ∧
      next.WellFormed ∧ next.content = buffer.content.drop len := by
  have ordered := wellFormed.ordered
  have inside : buffer.peek + len ≤ buffer.beginWrite := by
    unfold readableBytes at available
    unfold peek beginWrite
    omega
  unfold retrieveUntil
  rw [Checked.check_bind_of (Nat.le_add_right _ _), Checked.check_bind_of inside,
    Nat.add_sub_cancel_left]
  exact retrieve_ok wellFormed available

theorem retrieveAsString_ok {buffer : Buffer} {len : Nat}
    (wellFormed : buffer.WellFormed) (available : len ≤ buffer.readableBytes) :
    ∃ next, buffer.retrieveAsString len = .ok (buffer.content.take len, next) ∧
      next.WellFormed ∧ next.content = buffer.content.drop len := by
  rcases retrieve_ok wellFormed available with ⟨next, retrieved, kept, content⟩
  refine ⟨next, ?_, kept, content⟩
  unfold retrieveAsString
  rw [Checked.check_bind_of available, retrieved]
  simp only [Checked.ok_bind]
  rw [peek, slice_take _ _ buffer.writerIndex len available]
  rfl

/-- Both paths of `makeSpace` keep the content. The move happens only when the
free bytes at both ends suffice, and then the content starts past its target. -/
theorem makeSpace_ok {buffer : Buffer} {len : Nat}
    (wellFormed : buffer.WellFormed) (tooSmall : buffer.writableBytes < len) :
    ∃ next, buffer.makeSpace len = .ok next ∧ next.WellFormed ∧
      next.content = buffer.content ∧ len ≤ next.writableBytes := by
  have reserved := wellFormed.reserved
  have ordered := wellFormed.ordered
  have bounded := wellFormed.bounded
  unfold writableBytes at tooSmall
  unfold makeSpace
  by_cases grow : buffer.writableBytes + buffer.prependableBytes < len + kCheapPrepend
  · rw [if_pos grow]
    refine ⟨_, rfl, ⟨?_, ordered, ?_⟩, ?_, ?_⟩
    · simp only [resize_length]
      omega
    · simp
    · exact slice_resize _ bounded (by omega)
    · simp [writableBytes]
  · rw [if_neg grow]
    unfold writableBytes prependableBytes at grow
    have movesDown : kCheapPrepend < buffer.readerIndex := by omega
    rw [Checked.check_bind_of movesDown]
    simp only
    rw [Checked.check_bind_of (by simp [readableBytes])]
    refine ⟨_, rfl, ⟨?_, ?_, ?_⟩, ?_, ?_⟩
    · simpa using reserved
    · simp
    · simp only [copyForward_length, readableBytes]
      omega
    · unfold content readableBytes
      simp only
      rw [slice_copyForward _ _ _ _ (by omega) (by omega),
        Nat.add_sub_cancel' ordered]
    · simp only [writableBytes, copyForward_length, readableBytes]
      omega

theorem ensureWritableBytes_of_le {buffer : Buffer} {len : Nat}
    (enough : len ≤ buffer.writableBytes) : buffer.ensureWritableBytes len = .ok buffer := by
  rw [ensureWritableBytes, if_neg (by omega)]
  change (check (len ≤ buffer.writableBytes) >>= _) = _
  rw [Checked.check_bind_of enough]
  rfl

theorem ensureWritableBytes_ok {buffer : Buffer}
    (wellFormed : buffer.WellFormed) (len : Nat) :
    ∃ next, buffer.ensureWritableBytes len = .ok next ∧ next.WellFormed ∧
      next.content = buffer.content ∧ len ≤ next.writableBytes := by
  by_cases tooSmall : buffer.writableBytes < len
  · rcases makeSpace_ok wellFormed tooSmall with
      ⟨next, made, kept, content, enough⟩
    refine ⟨next, ?_, kept, content, enough⟩
    rw [ensureWritableBytes, if_pos tooSmall, made, Checked.ok_bind]
    simp only
    rw [Checked.check_bind_of enough]
    rfl
  · have enough : len ≤ buffer.writableBytes := by omega
    exact ⟨buffer, ensureWritableBytes_of_le enough, wellFormed, rfl, enough⟩

theorem hasWritten_ok {buffer : Buffer} {len : Nat}
    (wellFormed : buffer.WellFormed) (available : len ≤ buffer.writableBytes) :
    ∃ next, buffer.hasWritten len = .ok next ∧ next.WellFormed ∧
      next.content = buffer.content ++
        slice buffer.buffer buffer.writerIndex (buffer.writerIndex + len) := by
  unfold hasWritten
  rw [Checked.check_bind_of available]
  unfold writableBytes at available
  have ordered := wellFormed.ordered
  have bounded := wellFormed.bounded
  refine ⟨_, rfl, ⟨wellFormed.reserved, ?_, ?_⟩, ?_⟩
  · simp only
    omega
  · simp only
    omega
  · exact (slice_append_slice _ ordered (Nat.le_add_right _ _)).symm

/-- The line at the front of the buffer is found and taken out. -/
theorem retrieveLine_ok {buffer : Buffer} {line more : List UInt8}
    (wellFormed : buffer.WellFormed)
    (content : buffer.content =
      Framing.terminated carriageReturn lineFeed line ++ more)
    (oneLine : ¬[carriageReturn, lineFeed] <:+: line) :
    buffer.findCRLF = some (buffer.peek + line.length) ∧
    slice buffer.buffer buffer.peek (buffer.peek + line.length) = line ∧
    ∃ next, buffer.retrieveUntil (buffer.peek + line.length + 2) = .ok next ∧
      next.WellFormed ∧ next.content = more := by
  have available : line.length + 2 ≤ buffer.readableBytes := by
    rw [← wellFormed.content_length, content, List.length_append, Framing.terminated_length]
    omega
  constructor
  · rw [findCRLF, content, Framing.searchPair_terminated (by decide) _ _ oneLine]
    rfl
  constructor
  · rw [peek, slice_take _ _ buffer.writerIndex _ (by
      rw [readableBytes] at available
      omega)]
    rw [Buffer.content] at content
    rw [content]
    simp [Framing.terminated]
  · rcases retrieveUntil_ok wellFormed available with ⟨next, retrieved, kept, rest⟩
    refine ⟨next, retrieved, kept, ?_⟩
    rw [rest, content, ← Framing.terminated_length carriageReturn lineFeed, List.drop_left]

theorem WellFormed.writerIndex_add {buffer : Buffer}
    (wellFormed : buffer.WellFormed) :
    buffer.writerIndex + buffer.writableBytes = buffer.buffer.length := by
  have bounded := wellFormed.bounded
  unfold writableBytes
  omega

/-- Bytes that fit into the free space follow the content once `writerIndex_` has passed
them. -/
theorem received_ok {buffer : Buffer} (wellFormed : buffer.WellFormed)
    {data : List UInt8} (short : data.length ≤ buffer.writableBytes) :
    let next : Buffer := { buffer with
      buffer := copyInto buffer.buffer buffer.writerIndex data
      writerIndex := buffer.writerIndex + data.length }
    next.WellFormed ∧ next.content = buffer.content ++ data := by
  intro next
  have total := wellFormed.writerIndex_add
  have ordered := wellFormed.ordered
  have fits : buffer.writerIndex + data.length ≤ buffer.buffer.length := by omega
  refine ⟨⟨?_, Nat.le_trans ordered (Nat.le_add_right _ _), ?_⟩, ?_⟩
  · simpa [next] using wellFormed.reserved
  · simpa [next] using fits
  · have front : slice next.buffer buffer.readerIndex buffer.writerIndex = buffer.content :=
      slice_copyInto_of_disjoint _ _ _ fits (.inl (Nat.le_refl _))
    have back : slice next.buffer buffer.writerIndex (buffer.writerIndex + data.length) = data :=
      slice_copyInto_self _ _ _ fits
    rw [content, ← slice_append_slice _ ordered (Nat.le_add_right _ data.length), front, back]

theorem append_of_ensured {buffer enlarged : Buffer} {data : List UInt8}
    (ensured : buffer.ensureWritableBytes data.length = .ok enlarged)
    (enough : data.length ≤ enlarged.writableBytes) :
    buffer.append data = .ok { enlarged with
      buffer := copyInto enlarged.buffer enlarged.writerIndex data
      writerIndex := enlarged.writerIndex + data.length } := by
  rw [append, ensured, Checked.ok_bind]
  dsimp only
  rw [hasWritten, Checked.check_bind_of (by simpa [writableBytes] using enough)]
  rfl

theorem append_ok {buffer : Buffer} (wellFormed : buffer.WellFormed)
    (data : List UInt8) :
    ∃ next, buffer.append data = .ok next ∧ next.WellFormed ∧
      next.content = buffer.content ++ data := by
  rcases ensureWritableBytes_ok wellFormed data.length with
    ⟨enlarged, ensured, kept, content, enough⟩
  have filled := received_ok kept enough
  rw [content] at filled
  exact ⟨_, append_of_ensured ensured enough, filled⟩

theorem unwrite_ok {buffer : Buffer} {len : Nat}
    (wellFormed : buffer.WellFormed) (available : len ≤ buffer.readableBytes) :
    ∃ next, buffer.unwrite len = .ok next ∧ next.WellFormed ∧
      next.content = buffer.content.take (buffer.content.length - len) := by
  have length := wellFormed.content_length
  have ordered := wellFormed.ordered
  have bounded := wellFormed.bounded
  unfold unwrite
  rw [Checked.check_bind_of available]
  unfold readableBytes at available length
  refine ⟨_, rfl, ⟨wellFormed.reserved, ?_, ?_⟩, ?_⟩
  · simp only
    omega
  · simp only
    omega
  · unfold content at length ⊢
    rw [← slice_take _ _ _ _ (by omega)]
    simp only
    congr 1
    omega

theorem prepend_ok {buffer : Buffer} {data : List UInt8}
    (wellFormed : buffer.WellFormed)
    (available : data.length ≤ buffer.prependableBytes) :
    ∃ next, buffer.prepend data = .ok next ∧ next.WellFormed ∧
      next.content = data ++ buffer.content := by
  have ordered := wellFormed.ordered
  have bounded := wellFormed.bounded
  unfold prepend
  rw [Checked.check_bind_of available]
  unfold prependableBytes at available
  have fits : buffer.readerIndex - data.length + data.length ≤
      buffer.buffer.length := by omega
  have front := slice_copyInto_self buffer.buffer
    (buffer.readerIndex - data.length) data fits
  have back : slice (copyInto buffer.buffer
      (buffer.readerIndex - data.length) data) buffer.readerIndex
        buffer.writerIndex = buffer.content :=
    slice_copyInto_of_disjoint _ _ _ fits (.inr (by omega))
  rw [Nat.sub_add_cancel available] at front
  refine ⟨_, rfl, ⟨?_, ?_, ?_⟩, ?_⟩
  · simpa using wellFormed.reserved
  · simp only
    omega
  · simpa using bounded
  · change slice _ (buffer.readerIndex - data.length) buffer.writerIndex = _
    rw [← slice_append_slice _ (Nat.sub_le _ data.length) ordered, front, back]

/-! ## The buffer as a byte queue -/

/-- A call of the buffer's interface. `retrieveUntil` is given by the distance
of its argument from `peek()`. -/
inductive Call
  | append (data : List UInt8)
  | prepend (data : List UInt8)
  | retrieve (len : Nat)
  | retrieveUntil (len : Nat)
  | retrieveAsString (len : Nat)
  | retrieveAll
  | unwrite (len : Nat)
  | ensureWritableBytes (len : Nat)
  | hasWritten (len : Nat)

/-- What a caller has to make sure before the call. -/
def Call.Permitted (buffer : Buffer) : Call → Prop
  | .append _ | .retrieveAll | .ensureWritableBytes _ => True
  | .prepend data => data.length ≤ buffer.prependableBytes
  | .retrieve len | .retrieveUntil len | .retrieveAsString len | .unwrite len =>
      len ≤ buffer.readableBytes
  | .hasWritten len => len ≤ buffer.writableBytes

instance (buffer : Buffer) : (call : Call) → Decidable (call.Permitted buffer)
  | .append _ | .retrieveAll | .ensureWritableBytes _ => inferInstanceAs (Decidable True)
  | .prepend data => inferInstanceAs (Decidable (data.length ≤ buffer.prependableBytes))
  | .retrieve len | .retrieveUntil len | .retrieveAsString len | .unwrite len =>
      inferInstanceAs (Decidable (len ≤ buffer.readableBytes))
  | .hasWritten len => inferInstanceAs (Decidable (len ≤ buffer.writableBytes))

/-- Runs one call; the first component is the string it returns, if any. -/
def perform (buffer : Buffer) : Call → Checked (List UInt8 × Buffer)
  | .append data => do return ([], ← buffer.append data)
  | .prepend data => do return ([], ← buffer.prepend data)
  | .retrieve len => do return ([], ← buffer.retrieve len)
  | .retrieveUntil len => do return ([], ← buffer.retrieveUntil (buffer.peek + len))
  | .retrieveAsString len => buffer.retrieveAsString len
  | .retrieveAll => return ([], buffer.retrieveAll)
  | .unwrite len => do return ([], ← buffer.unwrite len)
  | .ensureWritableBytes len => do return ([], ← buffer.ensureWritableBytes len)
  | .hasWritten len => do return ([], ← buffer.hasWritten len)

/-- The plain byte queue: what each call returns and leaves, whatever the
layout of the bytes in memory. -/
def QueueStep (queue : List UInt8) : Call → List UInt8 → List UInt8 → Prop
  | .append data, returned, next => returned = [] ∧ next = queue ++ data
  | .prepend data, returned, next => returned = [] ∧ next = data ++ queue
  | .retrieve len, returned, next
  | .retrieveUntil len, returned, next => returned = [] ∧ next = queue.drop len
  | .retrieveAsString len, returned, next =>
      returned = queue.take len ∧ next = queue.drop len
  | .retrieveAll, returned, next => returned = [] ∧ next = []
  | .unwrite len, returned, next =>
      returned = [] ∧ next = queue.take (queue.length - len)
  | .ensureWritableBytes _, returned, next => returned = [] ∧ next = queue
  | .hasWritten len, returned, next =>
      returned = [] ∧ ∃ written, written.length = len ∧ next = queue ++ written

theorem perform_ok {buffer : Buffer} {call : Call}
    (wellFormed : buffer.WellFormed) (permitted : call.Permitted buffer) :
    ∃ returned next, buffer.perform call = .ok (returned, next) ∧
      next.WellFormed ∧ QueueStep buffer.content call returned next.content ∧
      ∀ len, call = .ensureWritableBytes len → len ≤ next.writableBytes := by
  cases call with
  | append data =>
      rcases append_ok wellFormed data with ⟨next, done, kept, content⟩
      exact ⟨[], next, by simp [perform, done], kept, ⟨rfl, content⟩, by simp⟩
  | prepend data =>
      rcases prepend_ok wellFormed permitted with ⟨next, done, kept, content⟩
      exact ⟨[], next, by simp [perform, done], kept, ⟨rfl, content⟩, by simp⟩
  | retrieve len =>
      rcases retrieve_ok wellFormed permitted with ⟨next, done, kept, content⟩
      exact ⟨[], next, by simp [perform, done], kept, ⟨rfl, content⟩, by simp⟩
  | retrieveUntil len =>
      rcases retrieveUntil_ok wellFormed permitted with ⟨next, done, kept, content⟩
      exact ⟨[], next, by simp [perform, done], kept, ⟨rfl, content⟩, by simp⟩
  | retrieveAsString len =>
      rcases retrieveAsString_ok wellFormed permitted with ⟨next, done, kept, content⟩
      exact ⟨_, next, done, kept, ⟨rfl, content⟩, by simp⟩
  | retrieveAll =>
      exact ⟨[], _, rfl, wellFormed.retrieveAll, ⟨rfl, by simp⟩, by simp⟩
  | unwrite len =>
      rcases unwrite_ok wellFormed permitted with ⟨next, done, kept, content⟩
      exact ⟨[], next, by simp [perform, done], kept, ⟨rfl, content⟩, by simp⟩
  | ensureWritableBytes len =>
      rcases ensureWritableBytes_ok wellFormed len with
        ⟨next, done, kept, content, enough⟩
      refine ⟨[], next, by simp [perform, done], kept, ⟨rfl, content⟩, ?_⟩
      intro requested equal
      cases equal
      exact enough
  | hasWritten len =>
      rcases hasWritten_ok wellFormed permitted with ⟨next, done, kept, content⟩
      refine ⟨[], next, by simp [perform, done], kept, ⟨rfl, _, ?_, content⟩,
        by simp⟩
      have bounded := wellFormed.bounded
      have fits : buffer.writerIndex + len ≤ buffer.buffer.length := by
        unfold Call.Permitted writableBytes at permitted
        omega
      rw [slice_length fits, Nat.add_sub_cancel_left]

/-- The buffers reachable from the constructor by permitted calls. -/
def machine (initialSize : Nat) : Machine Buffer Call where
  initial buffer := create initialSize = .ok buffer
  allowed buffer call := call.Permitted buffer
  step buffer call := do return (← buffer.perform call).2

theorem machine_step_ok {initialSize : Nat} {buffer : Buffer} {call : Call}
    (wellFormed : buffer.WellFormed) (permitted : call.Permitted buffer) :
    ∃ next, (machine initialSize).step buffer call = .ok next ∧
      next.WellFormed := by
  rcases perform_ok wellFormed permitted with ⟨returned, next, done, kept, _, _⟩
  exact ⟨next, by simp [machine, done], kept⟩

theorem reachable_wellFormed {initialSize : Nat} {buffer : Buffer}
    (reachable : (machine initialSize).Reachable buffer) :
    buffer.WellFormed :=
  (Machine.safe_of_invariant WellFormed
    (fun _ created => (create_wellFormed created).1)
    (fun _ _ wellFormed permitted =>
      machine_step_ok wellFormed permitted)).2 buffer reachable

/-- Every buffer a client can reach is well formed, no `assert` of a permitted
call fails, and the content follows the byte queue. -/
theorem refines_byteQueue (initialSize : Nat) :
    (∃ start, create initialSize = .ok start ∧ start.content = []) ∧
    ∀ buffer, (machine initialSize).Reachable buffer →
      8 ≤ buffer.buffer.length ∧ buffer.readerIndex ≤ buffer.writerIndex ∧
      buffer.writerIndex ≤ buffer.buffer.length ∧
      ∀ call : Call, call.Permitted buffer →
        ∃ returned next, buffer.perform call = .ok (returned, next) ∧
          (machine initialSize).Reachable next ∧
          QueueStep buffer.content call returned next.content ∧
          ∀ len, call = .ensureWritableBytes len → len ≤ next.writableBytes := by
  constructor
  · exact ⟨_, create_eq_ok initialSize, (create_wellFormed (create_eq_ok initialSize)).2⟩
  · intro buffer reachable
    have wellFormed := reachable_wellFormed reachable
    refine ⟨wellFormed.reserved, wellFormed.ordered, wellFormed.bounded, ?_⟩
    intro call permitted
    rcases perform_ok wellFormed permitted with
      ⟨returned, next, done, _, step, enough⟩
    refine ⟨returned, next, done, .step reachable permitted ?_, step, enough⟩
    simp [machine, done]

theorem refines_byteQueue_prepend :
    ∃ start returned next, create 0 = .ok start ∧
      start.perform (.prepend [7, 9]) = .ok (returned, next) ∧
      next.content = [7, 9] := by
  rcases (refines_byteQueue 0).2 _ (.initial (create_eq_ok 0)) with ⟨_, _, _, calls⟩
  rcases calls (.prepend [7, 9]) (by decide) with ⟨returned, next, done, _, step, _⟩
  exact ⟨_, returned, next, create_eq_ok 0, done, step.2⟩

end Buffer

end Ccnet.Net
