import Ccnet.Foundation.ByteOrder
import Ccnet.Net.Buffer

namespace Ccnet.Net

/-! `Buffer::shrink`, which copies the content through a `StringPiece`. -/

/-- A piece of an array: where it starts, and its length, which is an `int`. -/
structure StringPiece where
  ptr : Nat
  length : Int
  deriving DecidableEq, Repr

namespace StringPiece

def data (piece : StringPiece) : Nat := piece.ptr

def size (piece : StringPiece) : Int := piece.length

end StringPiece

namespace Buffer

/-- The length of the content is cast to an `int`. -/
def toStringPiece (buffer : Buffer) : StringPiece :=
  ⟨buffer.peek, toSigned 4 buffer.readableBytes⟩

/-- `append` of `len` bytes that start at `data` in the array of another buffer. -/
def appendFrom (buffer source : Buffer) (data len : Nat) : Checked Buffer := do
  let enlarged ← buffer.ensureWritableBytes len
  if data + len ≤ source.buffer.length then
    let filled : Buffer := { enlarged with
      buffer := copyInto enlarged.buffer enlarged.beginWrite
        (slice source.buffer data (data + len)) }
    filled.hasWritten len
  else
    .error .outOfRange

/-- `append` of a piece of another buffer. Its size becomes a `size_t` again. -/
def appendPiece (buffer source : Buffer) (str : StringPiece) : Checked Buffer :=
  buffer.appendFrom source str.data (toUnsigned 8 str.size)

/-- The new buffer takes the place of the old one by `swap`. -/
def shrink (buffer : Buffer) (reserve : Nat) : Checked Buffer := do
  let fresh ← create kInitialSize
  let other ← fresh.ensureWritableBytes ((buffer.readableBytes + reserve) % 256 ^ 8)
  other.appendPiece buffer buffer.toStringPiece

/-! ## What a piece keeps of a length -/

/-- A length survives the `int` where it is one, and where the sign bits it gets back are those
it had. -/
theorem toUnsigned_toSigned_iff {length : Nat} (bounded : length < 2 ^ 64) :
    toUnsigned 8 (toSigned 4 length) = length ↔ length < 2 ^ 31 ∨ 2 ^ 64 - 2 ^ 31 ≤ length := by
  simp only [toSigned, toUnsigned, Int.bmod]
  split <;> omega

/-- A buffer of which nothing was retrieved since its content was last moved grows at its
end. -/
theorem ensureWritableBytes_at_front {buffer : Buffer} (wellFormed : buffer.WellFormed)
    (front : buffer.readerIndex = kCheapPrepend) (len : Nat) :
    ∃ enlarged, buffer.ensureWritableBytes len = .ok enlarged ∧ enlarged.WellFormed ∧
      enlarged.content = buffer.content ∧ enlarged.readerIndex = kCheapPrepend ∧
      len ≤ enlarged.writableBytes := by
  rcases ensureWritableBytes_ok wellFormed len with ⟨enlarged, ensured, kept, content, enough⟩
  refine ⟨enlarged, ensured, kept, content, ?_, enough⟩
  by_cases tooSmall : buffer.writableBytes < len
  · rw [ensureWritableBytes, if_pos tooSmall, makeSpace, if_pos (by
      rw [prependableBytes, front]
      omega)] at ensured
    rcases Checked.bind_eq_ok_iff.mp ensured with ⟨grown, made, checked⟩
    cases made
    rcases Checked.check_bind_eq_ok_iff.mp checked with ⟨-, returned⟩
    cases returned
    exact front
  · rw [ensureWritableBytes_of_le (by omega)] at ensured
    cases ensured
    exact front

theorem appendFrom_eq {buffer source : Buffer} {data len : Nat}
    (present : data + len ≤ source.buffer.length) :
    buffer.appendFrom source data len =
      buffer.append (slice source.buffer data (data + len)) := by
  have length : (slice source.buffer data (data + len)).length = len := by
    rw [slice_length present, Nat.add_sub_cancel_left]
  simp only [appendFrom, append, length, if_pos present]

/-- What `shrink` copies are the first bytes of the content, as many as the piece still
says. -/
theorem shrink_takes {buffer : Buffer} (wellFormed : buffer.WellFormed) (reserve : Nat)
    {len : Nat} (noOverflow : buffer.readableBytes + reserve + 8 < 2 ^ 64)
    (piece : toUnsigned 8 (toSigned 4 buffer.readableBytes) = len)
    (within : len ≤ buffer.readableBytes) :
    ∃ next, buffer.shrink reserve = .ok next ∧ next.WellFormed ∧
      next.content = buffer.content.take len ∧ next.prependableBytes = kCheapPrepend ∧
      reserve ≤ next.writableBytes := by
  have ordered := wellFormed.ordered
  have bounded := wellFormed.bounded
  have sum : (buffer.readableBytes + reserve) % 256 ^ 8 = buffer.readableBytes + reserve :=
    Nat.mod_eq_of_lt (by omega)
  have present : buffer.peek + len ≤ buffer.buffer.length := by
    unfold readableBytes at within
    unfold peek
    omega
  have length : (slice buffer.buffer buffer.peek (buffer.peek + len)).length = len := by
    rw [slice_length present, Nat.add_sub_cancel_left]
  obtain ⟨fresh, created, atFront⟩ : ∃ fresh, create kInitialSize = .ok fresh ∧
      fresh.readerIndex = kCheapPrepend := ⟨_, create_eq_ok kInitialSize, rfl⟩
  rcases create_wellFormed created with ⟨freshWellFormed, empty⟩
  rcases ensureWritableBytes_at_front freshWellFormed atFront (buffer.readableBytes + reserve)
    with ⟨other, ensured, kept, content, front, enough⟩
  have fits : (slice buffer.buffer buffer.peek (buffer.peek + len)).length ≤
      other.writableBytes := by omega
  rcases received_ok kept fits with ⟨filledWellFormed, filled⟩
  refine ⟨_, ?_, filledWellFormed, ?_, front, ?_⟩
  · rw [shrink, created, Checked.ok_bind, sum, ensured, Checked.ok_bind, appendPiece,
      toStringPiece, StringPiece.data, StringPiece.size]
    dsimp only
    rw [piece, appendFrom_eq present,
      append_of_ensured (ensureWritableBytes_of_le fits) fits]
  · rw [filled, content, empty, List.nil_append, peek,
      slice_take _ _ buffer.writerIndex len within]
    rfl
  · have total := kept.writerIndex_add
    change reserve ≤ (copyInto _ _ _).length - (other.writerIndex + _)
    rw [copyInto_length, length]
    omega

/-- Where `shrink` succeeds, it has copied as many bytes as the piece still says. -/
theorem shrink_length {buffer next : Buffer} {reserve : Nat}
    (shrunk : buffer.shrink reserve = .ok next) :
    next.content.length = toUnsigned 8 (toSigned 4 buffer.readableBytes) := by
  rcases Checked.bind_eq_ok_iff.mp shrunk with ⟨fresh, created, rest⟩
  rcases Checked.bind_eq_ok_iff.mp rest with ⟨other, ensured, appended⟩
  rcases create_wellFormed created with ⟨wellFormed, empty⟩
  rcases ensureWritableBytes_ok wellFormed ((buffer.readableBytes + reserve) % 256 ^ 8) with
    ⟨found, isFound, kept, content, -⟩
  rw [ensured] at isFound
  cases isFound
  rw [appendPiece, toStringPiece, StringPiece.data, StringPiece.size] at appended
  dsimp only at appended
  by_cases present : buffer.peek + toUnsigned 8 (toSigned 4 buffer.readableBytes) ≤
      buffer.buffer.length
  · rw [appendFrom_eq present] at appended
    rcases append_ok kept (slice buffer.buffer buffer.peek
      (buffer.peek + toUnsigned 8 (toSigned 4 buffer.readableBytes))) with
      ⟨filled, isFilled, -, copied⟩
    rw [appended] at isFilled
    cases isFilled
    rw [copied, content, empty, List.nil_append, slice_length present, Nat.add_sub_cancel_left]
  · rcases Checked.bind_eq_ok_iff.mp appended with ⟨enlarged, -, refused⟩
    rw [if_neg present] at refused
    cases refused

/-- A buffer keeps its content when it shrinks exactly if the content's length survives the
`int`. -/
theorem shrink_ok {buffer : Buffer} (wellFormed : buffer.WellFormed) (reserve : Nat)
    (noOverflow : buffer.readableBytes + reserve + 8 < 2 ^ 64) :
    (∃ next, buffer.shrink reserve = .ok next ∧ next.WellFormed ∧
      next.content = buffer.content ∧ next.prependableBytes = kCheapPrepend ∧
      reserve ≤ next.writableBytes) ↔
    buffer.readableBytes < 2 ^ 31 ∨ 2 ^ 64 - 2 ^ 31 ≤ buffer.readableBytes := by
  rw [← toUnsigned_toSigned_iff (show buffer.readableBytes < 2 ^ 64 by omega)]
  constructor
  · rintro ⟨next, shrunk, -, content, -, -⟩
    rw [← shrink_length shrunk, content, wellFormed.content_length]
  · intro survives
    rcases shrink_takes wellFormed reserve noOverflow survives (Nat.le_refl _) with
      ⟨next, shrunk, kept, content, front, enough⟩
    rw [← wellFormed.content_length, List.take_length] at content
    exact ⟨next, shrunk, kept, content, front, enough⟩

theorem shrink_ok_line :
    ∃ start filled next, create 0 = .ok start ∧ start.append [72, 105] = .ok filled ∧
      filled.shrink 100 = .ok next ∧ next.content = [72, 105] ∧ 100 ≤ next.writableBytes := by
  have filled : (⟨List.replicate 8 0, 8, 8⟩ : Buffer).append [72, 105] =
    .ok ⟨List.replicate 8 0 ++ [72, 105], 8, 10⟩ := by decide
  have wellFormed : (⟨List.replicate 8 0 ++ [72, 105], 8, 10⟩ : Buffer).WellFormed :=
    ⟨by decide, by decide, by decide⟩
  rcases (shrink_ok wellFormed 100 (by decide)).mpr (by decide) with
    ⟨next, shrunk, -, content, -, enough⟩
  exact ⟨_, _, next, create_eq_ok 0, filled, shrunk, content, enough⟩

/-- Four gibibytes of content are none as an `int`. -/
theorem shrink_loses_content :
    ∃ buffer next, (machine 0).Reachable buffer ∧ buffer.readableBytes = 2 ^ 32 ∧
      buffer.readableBytes + 0 + 8 < 2 ^ 64 ∧ buffer.content ≠ [] ∧
      buffer.shrink 0 = .ok next ∧ next.content = [] := by
  have created := create_eq_ok 0
  rcases create_wellFormed created with ⟨wellFormed, empty⟩
  obtain ⟨data, length⟩ : ∃ data : List UInt8, data.length = 2 ^ 32 :=
    ⟨List.replicate (2 ^ 32) 0, List.length_replicate⟩
  rcases append_ok wellFormed data with ⟨buffer, appended, kept, content⟩
  rw [empty, List.nil_append] at content
  have size : buffer.readableBytes = 2 ^ 32 := by
    rw [← kept.content_length, content, length]
  have nothing : toUnsigned 8 (toSigned 4 buffer.readableBytes) = 0 := by
    rw [size]
    decide
  have noOverflow : buffer.readableBytes + 0 + 8 < 2 ^ 64 := by omega
  rcases shrink_takes kept 0 noOverflow nothing (Nat.zero_le _) with
    ⟨next, shrunk, -, lost, -, -⟩
  have permitted : (machine 0).allowed
      ⟨List.replicate (kCheapPrepend + 0) 0, kCheapPrepend, kCheapPrepend⟩
      (.append data) := trivial
  have reachable : (machine 0).Reachable buffer := by
    refine .step (.initial created) permitted ?_
    change (do return (← perform _ (.append data)).2) = _
    rw [perform, appended]
    rfl
  refine ⟨buffer, next, reachable, size, noOverflow, ?_, shrunk, lost⟩
  intro nothingLeft
  have length := kept.content_length
  rw [nothingLeft, size] at length
  exact absurd length (by decide)

end Buffer

end Ccnet.Net
