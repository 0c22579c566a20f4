import Ccnet.Net.Buffer

namespace Ccnet.Net.Buffer

/-! `Buffer::readFd` with the memory that `readv` fills: the free space of the buffer, and
an array on the stack whose bytes are appended afterwards. -/

/-- What `readv` reports: an error, or the bytes it took from the stream. -/
inductive ReadvResult
  | failed (errno : Int)
  | received (data : List UInt8)
  deriving DecidableEq, Repr

/-- What `readFd` returns, and what it leaves. -/
structure ReadFdResult where
  n : Int
  buffer : Buffer
  savedErrno : Int
  deriving DecidableEq, Repr

/-- The areas of `vec`, of which `iovcnt` are passed on. -/
def iovecs (buffer : Buffer) (extrabuf : List UInt8) : List (List UInt8) :=
  let free := buffer.buffer.drop buffer.writerIndex
  if buffer.writableBytes < extrabuf.length then [free, extrabuf] else [free]

/-- The total length that is offered to `readv`. -/
def offered (buffer : Buffer) (extrabuf : List UInt8) : Nat :=
  (buffer.iovecs extrabuf).flatten.length

/-- `readFd` on a stack array that holds whatever was there before. -/
def readFdFrom (buffer : Buffer) (extrabuf : List UInt8) (savedErrno : Int) :
    ReadvResult → Checked ReadFdResult
  | .failed errno => return ⟨-1, buffer, errno⟩
  | .received data => do
      let writable := buffer.writableBytes
      let areas := scatter (buffer.iovecs extrabuf) data
      let filled : Buffer :=
        { buffer with buffer := buffer.buffer.take buffer.writerIndex ++ areas.getD 0 [] }
      let extra := areas.getD 1 extrabuf
      if data.length ≤ writable then
        return ⟨data.length, { filled with writerIndex := filled.writerIndex + data.length },
          savedErrno⟩
      else
        let full : Buffer := { filled with writerIndex := filled.buffer.length }
        -- The copy must not run past the end of the array.
        if data.length - writable ≤ extra.length then
          let next ← full.append (extra.take (data.length - writable))
          return ⟨data.length, next, savedErrno⟩
        else
          .error .outOfRange

variable {buffer : Buffer}

theorem free_length (buffer : Buffer) :
    (buffer.buffer.drop buffer.writerIndex).length = buffer.writableBytes := by
  rw [List.length_drop, writableBytes]

theorem offered_eq {extrabuf : List UInt8} (size : extrabuf.length = kExtraSize) :
    buffer.offered extrabuf = buffer.readLimit := by
  rw [offered, iovecs, readLimit, size]
  split <;> simp [writableBytes, size]

/-- Even a full buffer offers the whole array on the stack. -/
theorem le_readLimit (buffer : Buffer) : kExtraSize ≤ buffer.readLimit := by
  unfold readLimit
  split <;> omega

/-- The free space after `readv` is the target of a plain copy. -/
theorem filled_eq (wellFormed : buffer.WellFormed) (data : List UInt8) :
    buffer.buffer.take buffer.writerIndex ++ copyInto (buffer.buffer.drop buffer.writerIndex) 0
        (data.take buffer.writableBytes) =
      copyInto buffer.buffer buffer.writerIndex (data.take buffer.writableBytes) := by
  have total := wellFormed.writerIndex_add
  have fits : (data.take buffer.writableBytes).length ≤ buffer.writableBytes :=
    List.length_take_le _ _
  have free := buffer.free_length
  rw [copyInto_eq _ 0 _ (by omega), copyInto_eq buffer.buffer buffer.writerIndex _ (by omega)]
  simp [List.drop_drop]

/-- The bytes that came in two parts are those of a plain `readFd`. -/
theorem readFdFrom_received (wellFormed : buffer.WellFormed) {extrabuf : List UInt8}
    (size : extrabuf.length = kExtraSize) (savedErrno : Int) {data : List UInt8}
    (within : data.length ≤ buffer.offered extrabuf) :
    buffer.readFdFrom extrabuf savedErrno (.received data) =
      (buffer.readFd data).map fun next => ⟨data.length, next, savedErrno⟩ := by
  have free := buffer.free_length
  have filled := filled_eq wellFormed data
  have first : (scatter (buffer.iovecs extrabuf) data).getD 0 [] =
      copyInto (buffer.buffer.drop buffer.writerIndex) 0 (data.take buffer.writableBytes) := by
    unfold iovecs
    split <;> simp [scatter, free]
  rw [readFdFrom, readFd]
  dsimp only
  rw [first, filled]
  by_cases inside : data.length ≤ buffer.writableBytes
  · rw [if_pos inside, if_pos inside]
    rfl
  · rw [if_neg inside, if_neg inside]
    have two : buffer.writableBytes < extrabuf.length := by
      rw [offered_eq size, readLimit] at within
      split at within
      · omega
      · omega
    have rest : (data.drop buffer.writableBytes).length ≤ extrabuf.length := by
      rw [offered_eq size, readLimit, if_pos (by omega)] at within
      rw [List.length_drop]
      omega
    have second : (scatter (buffer.iovecs extrabuf) data).getD 1 extrabuf =
        data.drop buffer.writableBytes ++
          extrabuf.drop (data.drop buffer.writableBytes).length := by
      rw [iovecs, if_pos two]
      simp only [scatter, List.getD_cons_succ, List.getD_cons_zero, free]
      rw [List.take_of_length_le rest, copyInto_eq _ 0 _ (by omega)]
      simp
    have length : data.length - buffer.writableBytes =
        (data.drop buffer.writableBytes).length := List.length_drop.symm
    rw [second, length, List.take_left, if_pos (by simp), copyInto_length]
    cases appended : Buffer.append _ (data.drop buffer.writableBytes) <;> rfl

theorem readFd_ok (wellFormed : buffer.WellFormed) (data : List UInt8) :
    ∃ next, buffer.readFd data = .ok next ∧ next.WellFormed ∧
      next.content = buffer.content ++ data := by
  have total := wellFormed.writerIndex_add
  rw [readFd]
  by_cases inside : data.length ≤ buffer.writableBytes
  · rw [if_pos inside, List.take_of_length_le inside]
    exact ⟨_, rfl, received_ok wellFormed inside⟩
  · rw [if_neg inside]
    have length : (data.take buffer.writableBytes).length = buffer.writableBytes :=
      List.length_take_of_le (by omega)
    rcases received_ok wellFormed (Nat.le_of_eq length) with ⟨kept, front⟩
    rw [length, total] at kept front
    rcases append_ok kept (data.drop buffer.writableBytes) with ⟨next, appended, formed, both⟩
    refine ⟨next, appended, formed, ?_⟩
    rw [both, front, List.append_assoc, List.take_append_drop]

/-- A read leaves what a plain `append` of the received bytes would leave as content. -/
theorem readFdFrom_appends (wellFormed : buffer.WellFormed) {extrabuf : List UInt8}
    (size : extrabuf.length = kExtraSize) (savedErrno : Int) :
    65536 ≤ buffer.offered extrabuf ∧
    (∀ errno, buffer.readFdFrom extrabuf savedErrno (.failed errno) =
      .ok ⟨-1, buffer, errno⟩) ∧
    ∀ data : List UInt8, data.length ≤ buffer.offered extrabuf →
      ∃ next, buffer.readFdFrom extrabuf savedErrno (.received data) =
          .ok ⟨data.length, next, savedErrno⟩ ∧
        next.content = buffer.content ++ data ∧
        next.readerIndex ≤ next.writerIndex ∧ next.writerIndex ≤ next.buffer.length ∧
        next.WellFormed := by
  refine ⟨?_, fun _ => rfl, ?_⟩
  · rw [offered_eq size]
    exact buffer.le_readLimit
  · intro data within
    rcases readFd_ok wellFormed data with ⟨next, read, kept, content⟩
    refine ⟨next, ?_, content, kept.ordered, kept.bounded, kept⟩
    rw [readFdFrom_received wellFormed size savedErrno within, read]
    rfl

theorem readFdFrom_appends_full :
    ∃ start next, create 0 = .ok start ∧ start.writableBytes = 0 ∧
      start.readFdFrom (List.replicate kExtraSize 0) 0 (.received [1, 2, 3]) =
        .ok ⟨3, next, 0⟩ ∧
      next.content = [1, 2, 3] := by
  have wellFormed := (create_wellFormed (create_eq_ok 0)).1
  have size : (List.replicate kExtraSize (0 : UInt8)).length = kExtraSize :=
    List.length_replicate
  have all := readFdFrom_appends wellFormed size 0
  have within := Nat.le_trans (by decide : [1, 2, 3].length ≤ 65536) all.1
  rcases all.2.2 [1, 2, 3] within with ⟨next, read, content, -⟩
  exact ⟨_, next, create_eq_ok 0, rfl, read, content⟩

end Ccnet.Net.Buffer
