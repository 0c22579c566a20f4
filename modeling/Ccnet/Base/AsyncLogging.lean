import Ccnet.Foundation.Machine
import Ccnet.Base.LogStream.LogStream

namespace Ccnet.Base

/-! `base/async_logging.acc`: records are collected in buffers by any number of threads, and
written to a file by one. What a thread does from getting the lock to releasing it, or to blocking
in `waitForSeconds`, is one step; so is what the writing thread does to its own buffers. -/

/-- A `FixedBuffer`, with the records that were handed to it since it was empty. -/
structure LogBuffer (size : Nat) where
  buffer : FixedBuffer size
  records : List (List Char)
  deriving DecidableEq, Repr

namespace LogBuffer

variable {size : Nat}

/-- `new Buffer`; zeros stand for what is in its array. -/
def create (size : Nat) : LogBuffer size where
  buffer := { data := Vector.replicate size nul, cur := 0 }
  records := []

def append (buffer : LogBuffer size) (logline : List Char) : Checked (LogBuffer size) := do
  return { buffer := ← buffer.buffer.append logline, records := buffer.records ++ [logline] }

def reset (buffer : LogBuffer size) : LogBuffer size where
  buffer := buffer.buffer.reset
  records := []

end LogBuffer

/-- A `BufferPtr`, which may be null. -/
abbrev BufferPtr (size : Nat) := Option (LogBuffer size)

namespace BufferPtr

variable {size : Nat}

def deref : BufferPtr size → Checked (LogBuffer size)
  | none => .error .nullPointer
  | some buffer => return buffer

/-- `pointer && pointer->length() == 0` -/
def isBlank (pointer : BufferPtr size) : Bool :=
  pointer.any fun buffer => buffer.buffer.length == 0

def records (pointer : BufferPtr size) : List (List Char) :=
  pointer.elim [] LogBuffer.records

end BufferPtr

/-- Where the thread is that runs `threadFunc`. -/
inductive BackendPhase
  /-- `start` has not been called. -/
  | absent
  | starting
  /-- Before `running_` is read at the head of the loop. -/
  | testing
  /-- Before it has the lock. -/
  | locking
  /-- In `waitForSeconds`. -/
  | waiting
  /-- Woken there, before it has the lock again. -/
  | woken
  /-- With the buffers to write, and without the lock. -/
  | writing
  | finished
  deriving DecidableEq, Repr

/-- Where the thread is that calls `start` and `stop`. -/
inductive OwnerPhase
  | created
  /-- In `start`, at `latch_.wait()`. -/
  | starting
  | running
  /-- In `stop`, before `cond_.notify()`. -/
  | stopping
  /-- In `stop`, at `thread_.join()`. -/
  | joining
  | stopped
  deriving DecidableEq, Repr

/-- A round of the loop in `threadFunc`: the records of the buffers it has taken, and the text
that it prints if they are too many. -/
structure Round where
  notice : List Char
  buffers : List (List (List Char))
  deriving DecidableEq, Repr

/-- `newBuffer1`, `newBuffer2` and `buffersToWrite` belong to `threadFunc`. `output` are the texts
appended to the file, `appended` the records for which `append` was called. -/
structure AsyncLogging (size : Nat) where
  running : Bool
  /-- `count_` of `latch_` -/
  latch : Nat
  currentBuffer : BufferPtr size
  nextBuffer : BufferPtr size
  buffers : List (BufferPtr size)
  newBuffer1 : BufferPtr size
  newBuffer2 : BufferPtr size
  buffersToWrite : List (BufferPtr size)
  backend : BackendPhase
  owner : OwnerPhase
  output : List (List Char)
  appended : List (List Char)
  rounds : List Round
  deriving DecidableEq, Repr

namespace AsyncLogging

variable {size : Nat}

def create (size : Nat) : AsyncLogging size where
  running := false
  latch := 1
  currentBuffer := some (.create size)
  nextBuffer := some (.create size)
  buffers := []
  newBuffer1 := none
  newBuffer2 := none
  buffersToWrite := []
  backend := .absent
  owner := .created
  output := []
  appended := []
  rounds := []

/-- `cond_.notify()`: only `threadFunc` waits. -/
def notify (logging : AsyncLogging size) : AsyncLogging size :=
  if logging.backend = .waiting then { logging with backend := .woken } else logging

def append (logging : AsyncLogging size) (logline : List Char) :
    Checked (AsyncLogging size) := do
  let current ← logging.currentBuffer.deref
  let logging := { logging with appended := logging.appended ++ [logline] }
  if current.buffer.avail > logline.length then
    return { logging with currentBuffer := some (← current.append logline) }
  else
    let fresh := logging.nextBuffer.getD (.create size)
    let current ← fresh.append logline
    return notify { logging with
      buffers := logging.buffers ++ [logging.currentBuffer]
      currentBuffer := some current
      nextBuffer := none }

/-! ## The writing thread -/

/-- `threadFunc` up to its loop. -/
def enter (logging : AsyncLogging size) : Checked (AsyncLogging size) := do
  check (logging.running = true)
  return { logging with
    latch := logging.latch - 1
    newBuffer1 := some (.create size)
    newBuffer2 := some (.create size)
    buffersToWrite := []
    backend := .testing }

def test (logging : AsyncLogging size) : Checked (AsyncLogging size) :=
  if logging.running then do
    check (logging.newBuffer1.isBlank = true)
    check (logging.newBuffer2.isBlank = true)
    check (logging.buffersToWrite = [])
    return { logging with backend := .locking }
  else
    return { logging with backend := .finished }

/-- From `buffers_.push_back` to the end of the locked region. -/
def exchange (logging : AsyncLogging size) : AsyncLogging size :=
  { logging with
    buffersToWrite := logging.buffers ++ [logging.currentBuffer]
    buffers := logging.buffersToWrite
    currentBuffer := logging.newBuffer1
    newBuffer1 := none
    nextBuffer := if logging.nextBuffer = none then logging.newBuffer2 else logging.nextBuffer
    newBuffer2 := if logging.nextBuffer = none then none else logging.newBuffer2
    backend := .writing }

def lock (logging : AsyncLogging size) : AsyncLogging size :=
  if logging.buffers = [] then { logging with backend := .waiting } else logging.exchange

/-- The text in `buf`, of 256 characters, when `count` buffers are to be written. -/
def noticeText (now : List Char) (count : Nat) : List Char :=
  ("Dropped log messages at ".toList ++ now ++ ", ".toList ++ decimal (count - 2 : Nat) ++
    " larger buffers\n".toList).take 255

/-- A buffer is given back to `newBuffer1` or `newBuffer2`, if it is null. -/
def refill (pointer : BufferPtr size) (buffersToWrite : List (BufferPtr size)) :
    Checked (BufferPtr size × List (BufferPtr size)) :=
  match pointer with
  | some buffer => return (some buffer, buffersToWrite)
  | none => do
      check (buffersToWrite ≠ [])
      let back ← BufferPtr.deref (buffersToWrite.getLastD none)
      return (some back.reset, buffersToWrite.dropLast)

/-- What is left of the buffers when there are too many of them. -/
def kept {Buffer : Type} (buffers : List Buffer) : List Buffer :=
  if buffers.length > 25 then buffers.take 2 else buffers

/-- The round of the loop after the locked region, where `now` is the time. -/
def write (logging : AsyncLogging size) (now : List Char) : Checked (AsyncLogging size) := do
  check (logging.buffersToWrite ≠ [])
  let notice := noticeText now logging.buffersToWrite.length
  let dropped := if logging.buffersToWrite.length > 25 then [notice] else []
  let written ← (kept logging.buffersToWrite).mapM fun pointer =>
    return (← pointer.deref).buffer.text
  let spare := (kept logging.buffersToWrite).take 2
  let (newBuffer1, spare) ← refill logging.newBuffer1 spare
  let (newBuffer2, _) ← refill logging.newBuffer2 spare
  return { logging with
    newBuffer1
    newBuffer2
    buffersToWrite := []
    backend := .testing
    output := logging.output ++ (dropped ++ written)
    rounds := logging.rounds ++ [⟨notice, logging.buffersToWrite.map BufferPtr.records⟩] }

/-! ## Runs -/

inductive Action
  /-- Any thread appends a record. -/
  | append (logline : List Char)
  /-- `start`, up to `latch_.wait()`, and its return. -/
  | start
  | returnStart
  | enter
  | test
  | lock
  /-- `waitForSeconds` times out, or returns for no reason. -/
  | wake
  | relock
  | write (now : List Char)
  /-- The three statements of `stop`. -/
  | stop
  | notifyStop
  | join
  deriving Repr

/-- `start` and `stop` are called once. -/
def Allowed (logging : AsyncLogging size) : Action → Prop
  | .append _ => True
  | .start => logging.owner = .created
  | .returnStart => logging.owner = .starting ∧ logging.latch = 0
  | .enter => logging.backend = .starting
  | .test => logging.backend = .testing
  | .lock => logging.backend = .locking
  | .wake => logging.backend = .waiting
  | .relock => logging.backend = .woken
  | .write _ => logging.backend = .writing
  | .stop => logging.owner = .running
  | .notifyStop => logging.owner = .stopping
  | .join => logging.owner = .joining ∧ logging.backend = .finished

def step (logging : AsyncLogging size) : Action → Checked (AsyncLogging size)
  | .append logline => logging.append logline
  | .start => return { logging with running := true, owner := .starting, backend := .starting }
  | .returnStart => return { logging with owner := .running }
  | .enter => logging.enter
  | .test => logging.test
  | .lock => return logging.lock
  | .wake => return { logging with backend := .woken }
  | .relock => return logging.exchange
  | .write now => logging.write now
  | .stop => return { logging with running := false, owner := .stopping }
  | .notifyStop => return { logging.notify with owner := .joining }
  | .join => return { logging with owner := .stopped }

/-- A logger whose buffers have the given size, which is `kLargeBuffer`. -/
def machine (size : Nat) : Machine (AsyncLogging size) Action where
  initial logging := logging = create size
  allowed := Allowed
  step := step

instance (logging : AsyncLogging size) : (action : Action) → Decidable (logging.Allowed action)
  | .append _ => inferInstanceAs (Decidable True)
  | .returnStart | .join => inferInstanceAs (Decidable (_ ∧ _))
  | .start | .stop | .notifyStop | .enter | .test | .lock | .wake | .relock | .write _ =>
      inferInstanceAs (Decidable (_ = _))

instance (logging : AsyncLogging size) (action : Action) :
    Decidable ((machine size).allowed logging action) :=
  inferInstanceAs (Decidable (logging.Allowed action))

end AsyncLogging

/-! ## Buffers -/

section Buffers

variable {size : Nat}

/-- The records that a buffer of the given size has room for. -/
def fitting (size : Nat) (records : List (List Char)) : List (List Char) :=
  records.filter fun logline => logline.length < size

theorem fitting_append (first second : List (List Char)) :
    fitting size (first ++ second) = fitting size first ++ fitting size second :=
  List.filter_append _ _

/-- The buffer holds its records, one after the other. -/
structure LogBuffer.Exact (buffer : LogBuffer size) : Prop where
  within : buffer.buffer.cur ≤ size
  text : buffer.buffer.text = (fitting size buffer.records).flatten

structure LogBuffer.Blank (buffer : LogBuffer size) : Prop where
  start : buffer.buffer.cur = 0
  records : buffer.records = []

def BufferPtr.Exact (pointer : BufferPtr size) : Prop :=
  ∃ buffer, pointer = some buffer ∧ buffer.Exact

def BufferPtr.Blank (pointer : BufferPtr size) : Prop :=
  ∃ buffer, pointer = some buffer ∧ buffer.Blank

theorem LogBuffer.create_blank (size : Nat) : (create size).Blank := ⟨rfl, rfl⟩

theorem LogBuffer.reset_blank (buffer : LogBuffer size) : buffer.reset.Blank := ⟨rfl, rfl⟩

theorem LogBuffer.Blank.exact {buffer : LogBuffer size} (blank : buffer.Blank) :
    buffer.Exact where
  within := by
    rw [blank.start]
    exact Nat.zero_le _
  text := by
    rw [FixedBuffer.text, FixedBuffer.length, blank.start, blank.records]
    rfl

theorem BufferPtr.Blank.exact {pointer : BufferPtr size} (blank : pointer.Blank) :
    pointer.Exact := by
  rcases blank with ⟨buffer, isBuffer, blank⟩
  exact ⟨buffer, isBuffer, blank.exact⟩

theorem BufferPtr.Blank.isBlank {pointer : BufferPtr size} (blank : pointer.Blank) :
    pointer.isBlank = true := by
  rcases blank with ⟨buffer, rfl, blank⟩
  exact beq_iff_eq.mpr blank.start

theorem BufferPtr.Blank.records_eq {pointer : BufferPtr size} (blank : pointer.Blank) :
    pointer.records = [] := by
  rcases blank with ⟨buffer, rfl, blank⟩
  exact blank.records

theorem FixedBuffer.append_room {buffer : FixedBuffer size} (bounded : size < 2 ^ 31)
    {text : List Char} (room : buffer.cur + text.length < size) :
    ∃ next, buffer.append text = .ok next ∧ next.cur = buffer.cur + text.length ∧
      next.text = buffer.text ++ text := by
  have free : text.length < toUnsigned 8 buffer.avail := by
    unfold toUnsigned avail
    omega
  have inside : buffer.cur + text.length ≤ size := Nat.le_of_lt room
  have placed : (place buffer.data buffer.cur (text ++ [])).toList.take
      (buffer.cur + text.length) = buffer.data.toList.take buffer.cur ++ text :=
    place_take buffer.data (by rwa [List.append_nil])
  rw [List.append_nil] at placed
  rw [append, if_pos free, storeAll_ok _ inside]
  exact ⟨_, rfl, rfl, placed⟩

theorem FixedBuffer.append_full {buffer : FixedBuffer size} (within : buffer.cur ≤ size)
    (bounded : size < 2 ^ 31) {text : List Char} (full : ¬buffer.cur + text.length < size) :
    buffer.append text = .ok buffer := by
  have used : ¬text.length < toUnsigned 8 buffer.avail := by
    unfold toUnsigned avail
    omega
  rw [append, if_neg used]
  rfl

/-- A record is appended where it fits, or where nothing but its length can be in the way. -/
theorem LogBuffer.Exact.append {buffer : LogBuffer size} (exact : buffer.Exact)
    (bounded : size < 2 ^ 31) (logline : List Char)
    (room : buffer.buffer.cur + logline.length < size ∨ buffer.buffer.cur = 0) :
    ∃ next, buffer.append logline = .ok next ∧ next.Exact ∧
      next.records = buffer.records ++ [logline] := by
  by_cases fits : buffer.buffer.cur + logline.length < size
  · rcases FixedBuffer.append_room bounded fits with ⟨next, appended, cur, text⟩
    have single : fitting size [logline] = [logline] :=
      List.filter_cons_of_pos (decide_eq_true (by omega))
    refine ⟨⟨next, buffer.records ++ [logline]⟩, ?_, ⟨?_, ?_⟩, rfl⟩
    · rw [LogBuffer.append, appended]
      rfl
    · rw [cur]
      exact Nat.le_of_lt fits
    · rw [text, exact.text, fitting_append, single, List.flatten_append, List.flatten_singleton]
  · have long : ¬logline.length < size := by omega
    have single : fitting size [logline] = [] :=
      List.filter_cons_of_neg (by simpa using Nat.le_of_not_lt long)
    refine ⟨⟨buffer.buffer, buffer.records ++ [logline]⟩, ?_, ⟨exact.within, ?_⟩, rfl⟩
    · rw [LogBuffer.append, FixedBuffer.append_full exact.within bounded fits]
      rfl
    · rw [exact.text, fitting_append, single, List.append_nil]

end Buffers

/-! ## What a round leaves in the file -/

namespace Round

/-- The records that the round has disposed of, in one way or the other. -/
def records (round : Round) : List (List Char) := round.buffers.flatten

/-- The texts that the round appends to the file: those of all buffers, or a notice and those
of the first two. -/
def file (size : Nat) (round : Round) : List (List Char) :=
  (if round.buffers.length > 25 then [round.notice] else []) ++
    (AsyncLogging.kept round.buffers).map fun records => (fitting size records).flatten

end Round

/-- In the loop, and not writing. -/
def BackendPhase.isReady : BackendPhase → Bool
  | .testing | .locking | .waiting | .woken => true
  | .absent | .starting | .writing | .finished => false

theorem BackendPhase.isReady_cases {phase : BackendPhase} (isReady : phase.isReady = true) :
    phase ≠ .absent ∧ phase ≠ .finished ∧ phase ≠ .writing := by
  cases phase with
  | testing | locking | waiting | woken => exact ⟨nofun, nofun, nofun⟩
  | absent | starting | writing | finished => cases isReady

namespace AsyncLogging

variable {size : Nat} {logging next : AsyncLogging size}

/-- The records that no round has disposed of yet. -/
def outstanding (logging : AsyncLogging size) : List (List Char) :=
  (logging.buffersToWrite ++ logging.buffers ++ [logging.currentBuffer]).flatMap
    BufferPtr.records

/-- The buffers of the writing thread while it writes: `newBuffer1` has been handed over, and
`newBuffer2` only if there are two buffers to replace them. -/
structure Writing (logging : AsyncLogging size) : Prop where
  newBuffer1 : logging.newBuffer1 = none
  newBuffer2 : logging.newBuffer2 = none ∧ 2 ≤ logging.buffersToWrite.length ∨
    logging.newBuffer2.Blank
  nonempty : logging.buffersToWrite ≠ []
  exact : ∀ pointer ∈ logging.buffersToWrite, pointer.Exact

/-- The thread does not get to its assertion before `running_` is set, nor after it is cleared. -/
structure Started (logging : AsyncLogging size) : Prop where
  created : logging.owner = .created → logging.backend = .absent ∧ logging.latch = 1
  starting : logging.backend = .starting →
    logging.running = true ∧ logging.owner = .starting ∧ logging.latch = 1
  stopped : logging.owner = .stopped → logging.backend = .finished

structure Sound (logging : AsyncLogging size) : Prop where
  current : logging.currentBuffer.Exact
  next : logging.nextBuffer = none ∧ logging.buffers ≠ [] ∨ logging.nextBuffer.Blank
  full : ∀ pointer ∈ logging.buffers, pointer.Exact
  ready : logging.backend.isReady = true →
    logging.newBuffer1.Blank ∧ logging.newBuffer2.Blank
  taken : logging.backend ≠ .writing → logging.buffersToWrite = []
  writing : logging.backend = .writing → logging.Writing
  started : logging.Started
  accounted : logging.appended = logging.rounds.flatMap Round.records ++ logging.outstanding
  written : logging.output = logging.rounds.flatMap (Round.file size)

theorem create_sound (size : Nat) : (create size).Sound where
  current := ⟨_, rfl, (LogBuffer.create_blank size).exact⟩
  next := .inr ⟨_, rfl, LogBuffer.create_blank size⟩
  full _ member := nomatch member
  ready := nofun
  taken _ := rfl
  writing := nofun
  started := ⟨fun _ => ⟨rfl, rfl⟩, nofun, nofun⟩
  accounted := rfl
  written := rfl

/-! ## What a step can do -/

/-- The round in which the buffers are written that the thread has taken. -/
def round (logging : AsyncLogging size) (now : List Char) : Round where
  notice := noticeText now logging.buffersToWrite.length
  buffers := logging.buffersToWrite.map BufferPtr.records

inductive Step (logging : AsyncLogging size) : AsyncLogging size → Prop
  /-- There is room for the record in the current buffer. -/
  | appendRoom {logline : List Char} {current : LogBuffer size} : current.Exact →
      current.records = logging.currentBuffer.records ++ [logline] →
      Step logging { logging with
        appended := logging.appended ++ [logline]
        currentBuffer := some current }
  /-- The current buffer is full, and another takes its place. -/
  | appendFull {logline : List Char} {current : LogBuffer size} : current.Exact →
      current.records = [logline] →
      Step logging (notify { logging with
        appended := logging.appended ++ [logline]
        buffers := logging.buffers ++ [logging.currentBuffer]
        currentBuffer := some current
        nextBuffer := none })
  | start : logging.owner = .created →
      Step logging { logging with running := true, owner := .starting, backend := .starting }
  | returnStart : logging.latch = 0 → Step logging { logging with owner := .running }
  | enter : logging.backend = .starting → Step logging { logging with
      latch := logging.latch - 1
      newBuffer1 := some (.create size)
      newBuffer2 := some (.create size)
      buffersToWrite := []
      backend := .testing }
  | test : logging.backend = .testing → Step logging { logging with backend := .locking }
  | finish : logging.backend = .testing → Step logging { logging with backend := .finished }
  | wait : logging.backend = .locking → logging.buffers = [] →
      Step logging { logging with backend := .waiting }
  | exchange : logging.backend = .locking ∨ logging.backend = .woken →
      Step logging logging.exchange
  | wake : logging.backend = .waiting → Step logging { logging with backend := .woken }
  | write (now : List Char) {newBuffer1 newBuffer2 : BufferPtr size} :
      logging.backend = .writing → newBuffer1.Blank → newBuffer2.Blank →
      Step logging { logging with
        newBuffer1
        newBuffer2
        buffersToWrite := []
        backend := .testing
        output := logging.output ++ (logging.round now).file size
        rounds := logging.rounds ++ [logging.round now] }
  | stop : logging.owner = .running →
      Step logging { logging with running := false, owner := .stopping }
  | notifyStop : logging.owner = .stopping →
      Step logging { logging.notify with owner := .joining }
  | join : logging.backend = .finished → Step logging { logging with owner := .stopped }

theorem append_cases (sound : logging.Sound) (bounded : size < 2 ^ 31) (logline : List Char) :
    ∃ next, logging.append logline = .ok next ∧ logging.Step next := by
  rcases sound.current with ⟨current, isCurrent, exact⟩
  have within := exact.within
  unfold append
  rw [isCurrent, BufferPtr.deref]
  by_cases room : current.buffer.avail > logline.length
  · have fits : current.buffer.cur + logline.length < size := by
      unfold FixedBuffer.avail at room
      omega
    rcases exact.append bounded logline (.inl fits) with ⟨appended, ran, exact, records⟩
    refine ⟨_, ?_, .appendRoom exact (by rw [records, isCurrent]; rfl)⟩
    simp only [pure_bind, Checked.ok_bind, if_pos room, ran]
    rfl
  · have blank : (logging.nextBuffer.getD (.create size)).Blank := by
      rcases sound.next with ⟨isNone, _⟩ | ⟨buffer, isBuffer, blank⟩
      · rw [isNone]
        exact LogBuffer.create_blank size
      · rw [isBuffer]
        exact blank
    rcases blank.exact.append bounded logline (.inr blank.start) with
      ⟨appended, ran, exact, records⟩
    refine ⟨_, ?_, .appendFull exact (by rw [records, blank.records]; rfl)⟩
    simp only [pure_bind, Checked.ok_bind, if_neg room, ran, isCurrent]
    rfl

theorem test_cases (sound : logging.Sound) (isTesting : logging.backend = .testing) :
    ∃ next, logging.test = .ok next ∧ logging.Step next := by
  have none := sound.taken (by rw [isTesting]; nofun)
  have ready := sound.ready (by rw [isTesting]; rfl)
  unfold test
  split
  · rw [Checked.check_bind_of ready.1.isBlank, Checked.check_bind_of ready.2.isBlank,
      Checked.check_bind_of none]
    exact ⟨_, rfl, .test isTesting⟩
  · exact ⟨_, rfl, .finish isTesting⟩

section Kept

variable {Buffer Text : Type} {buffers : List Buffer}

theorem kept_map (transform : Buffer → Text) (buffers : List Buffer) :
    kept (buffers.map transform) = (kept buffers).map transform := by
  unfold kept
  rw [List.length_map]
  split
  · rw [List.map_take]
  · rfl

theorem mem_of_mem_kept {buffer : Buffer} (member : buffer ∈ kept buffers) :
    buffer ∈ buffers := by
  unfold kept at member
  split at member
  · exact List.mem_of_mem_take member
  · exact member

theorem kept_take_length (buffers : List Buffer) :
    ((kept buffers).take 2).length = min 2 buffers.length := by
  unfold kept
  split
  · rw [List.take_take, List.length_take, Nat.min_self]
  · rw [List.length_take]

end Kept

/-- The texts of buffers that hold their records. -/
theorem mapM_text {pointers : List (BufferPtr size)}
    (exact : ∀ pointer ∈ pointers, pointer.Exact) :
    (pointers.mapM fun pointer => do return (← pointer.deref).buffer.text) =
      (.ok ((pointers.map BufferPtr.records).map fun records =>
        (fitting size records).flatten) : Checked (List (List Char))) := by
  induction pointers with
  | nil => rfl
  | cons pointer rest induction =>
      rcases exact pointer List.mem_cons_self with ⟨buffer, rfl, holds⟩
      rw [List.mapM_cons, induction fun other member =>
        exact other (List.mem_cons_of_mem _ member)]
      change Except.ok (buffer.buffer.text :: _) = _
      rw [holds.text]
      rfl

theorem refill_blank {pointer : BufferPtr size} (blank : pointer.Blank)
    (spare : List (BufferPtr size)) : refill pointer spare = .ok (pointer, spare) := by
  rcases blank with ⟨buffer, rfl, -⟩
  rfl

theorem refill_none {spare : List (BufferPtr size)} (nonempty : spare ≠ [])
    (exact : ∀ pointer ∈ spare, pointer.Exact) :
    ∃ pointer : BufferPtr size, refill none spare = .ok (pointer, spare.dropLast) ∧
      pointer.Blank := by
  rcases exact _ (List.getLast_mem nonempty) with ⟨buffer, isLast, -⟩
  refine ⟨some buffer.reset, ?_, _, rfl, buffer.reset_blank⟩
  rw [refill, Checked.check_bind_of nonempty, List.getLastD_eq_getLast?,
    List.getLast?_eq_some_getLast nonempty, isLast]
  rfl

/-- Both buffers are given back, empty. -/
theorem Writing.refill (writing : logging.Writing) :
    ∃ newBuffer1 newBuffer2 : BufferPtr size, ∃ spare left,
      AsyncLogging.refill logging.newBuffer1 ((kept logging.buffersToWrite).take 2) =
        .ok (newBuffer1, spare) ∧
      AsyncLogging.refill logging.newBuffer2 spare = .ok (newBuffer2, left) ∧
      newBuffer1.Blank ∧ newBuffer2.Blank := by
  have length := kept_take_length logging.buffersToWrite
  have positive := List.length_pos_iff.mpr writing.nonempty
  have exact : ∀ pointer ∈ (kept logging.buffersToWrite).take 2, pointer.Exact :=
    fun pointer member =>
      writing.exact pointer (mem_of_mem_kept (List.mem_of_mem_take member))
  have nonempty : (kept logging.buffersToWrite).take 2 ≠ [] := by
    apply List.ne_nil_of_length_pos
    omega
  rcases refill_none nonempty exact with ⟨newBuffer1, first, blank1⟩
  rw [writing.newBuffer1, first]
  rcases writing.newBuffer2 with ⟨isNone, two⟩ | blank2
  · have more : ((kept logging.buffersToWrite).take 2).dropLast ≠ [] := by
      apply List.ne_nil_of_length_pos
      rw [List.length_dropLast]
      omega
    rcases refill_none more fun pointer member =>
      exact pointer (List.mem_of_mem_dropLast member) with ⟨newBuffer2, second, blank2⟩
    rw [isNone]
    exact ⟨newBuffer1, newBuffer2, _, _, rfl, second, blank1, blank2⟩
  · exact ⟨newBuffer1, logging.newBuffer2, _, _, rfl, refill_blank blank2 _, blank1, blank2⟩

theorem write_cases (sound : logging.Sound) (isWriting : logging.backend = .writing)
    (now : List Char) : ∃ next, logging.write now = .ok next ∧ logging.Step next := by
  have writing := sound.writing isWriting
  have texts := mapM_text fun pointer member => writing.exact pointer (mem_of_mem_kept member)
  have file : (logging.round now).file size =
      (if logging.buffersToWrite.length > 25 then
        [noticeText now logging.buffersToWrite.length] else []) ++
      ((kept logging.buffersToWrite).map BufferPtr.records).map fun records =>
        (fitting size records).flatten := by
    rw [Round.file, round, kept_map, List.length_map]
  rcases writing.refill with ⟨newBuffer1, newBuffer2, spare, left, first, second, blank1, blank2⟩
  refine ⟨_, ?_, .write now isWriting blank1 blank2⟩
  unfold write
  simp only [Checked.check_bind_of writing.nonempty, texts, first, second, Checked.ok_bind, file]
  rfl

/-- Each allowed step succeeds, and is one of these. -/
theorem step_cases (sound : logging.Sound) (bounded : size < 2 ^ 31) {action : Action}
    (allowed : logging.Allowed action) :
    ∃ next, logging.step action = .ok next ∧ logging.Step next := by
  cases action with
  | append logline => exact append_cases sound bounded logline
  | start => exact ⟨_, rfl, .start allowed⟩
  | returnStart => exact ⟨_, rfl, .returnStart allowed.2⟩
  | enter =>
      have running := (sound.started.starting allowed).1
      refine ⟨_, ?_, .enter allowed⟩
      exact Checked.check_bind_of running _
  | test => exact test_cases sound allowed
  | lock =>
      refine ⟨_, rfl, ?_⟩
      unfold lock
      split
      · rename_i empty
        exact .wait allowed empty
      · exact .exchange (.inl allowed)
  | wake => exact ⟨_, rfl, .wake allowed⟩
  | relock => exact ⟨_, rfl, .exchange (.inr allowed)⟩
  | write now => exact write_cases sound allowed now
  | stop => exact ⟨_, rfl, .stop allowed⟩
  | notifyStop => exact ⟨_, rfl, .notifyStop allowed⟩
  | join => exact ⟨_, rfl, .join allowed.2⟩

/-! ## Every step is sound -/

/-- The owner is between `start` and the end of `stop`. -/
theorem Started.alive (started : logging.Started) (entered : logging.backend ≠ .absent)
    (unfinished : logging.backend ≠ .finished) :
    logging.owner ≠ .created ∧ logging.owner ≠ .stopped :=
  ⟨fun isCreated => entered (started.created isCreated).1,
    fun isStopped => unfinished (started.stopped isStopped)⟩

/-- The thread goes on in its loop, or leaves it. -/
theorem Sound.advance (sound : logging.Sound) (isReady : logging.backend.isReady = true)
    {phase : BackendPhase} (goesOn : phase.isReady = true ∨ phase = .finished) :
    Sound { logging with backend := phase } := by
  rcases BackendPhase.isReady_cases isReady with ⟨entered, unfinished, notWriting⟩
  have alive := sound.started.alive entered unfinished
  have other : phase ≠ .writing ∧ phase ≠ .starting := by
    constructor <;> rintro rfl <;> simp [BackendPhase.isReady] at goesOn
  exact { sound with
    ready _ := sound.ready isReady
    taken _ := sound.taken notWriting
    writing isWriting := absurd isWriting other.1
    started := ⟨(absurd · alive.1), (absurd · other.2), (absurd · alive.2)⟩ }

theorem Sound.notify (sound : logging.Sound) : logging.notify.Sound := by
  unfold AsyncLogging.notify
  split
  · rename_i isWaiting
    exact sound.advance (by rw [isWaiting]; rfl) (.inl rfl)
  · exact sound

/-- The owner goes on in `start` or `stop`. -/
theorem Sound.setOwner (sound : logging.Sound) {running : Bool} {owner : OwnerPhase}
    (called : owner ≠ .created) (entered : logging.backend ≠ .starting)
    (stopped : owner = .stopped → logging.backend = .finished) :
    Sound { logging with running, owner } :=
  { sound with
    writing isWriting := { sound.writing isWriting with }
    started := ⟨(absurd · called), (absurd · entered), stopped⟩ }

/-- The locked region. If `nextBuffer_` is null, a full buffer is there beside the current one, so
that two will be given back. -/
theorem Sound.exchange (sound : logging.Sound) (isReady : logging.backend.isReady = true) :
    logging.exchange.Sound := by
  rcases BackendPhase.isReady_cases isReady with ⟨entered, unfinished, notWriting⟩
  have alive := sound.started.alive entered unfinished
  have none := sound.taken notWriting
  rcases sound.ready isReady with ⟨first, second⟩
  have exact : ∀ pointer ∈ logging.buffers ++ [logging.currentBuffer], pointer.Exact := by
    intro pointer member
    rcases List.mem_append.mp member with old | last
    · exact sound.full pointer old
    · rw [List.mem_singleton.mp last]
      exact sound.current
  have nonempty : logging.buffers ++ [logging.currentBuffer] ≠ [] :=
    List.append_ne_nil_of_right_ne_nil _ (List.cons_ne_nil _ _)
  have started : logging.exchange.Started := ⟨(absurd · alive.1), nofun, (absurd · alive.2)⟩
  have accounted : logging.exchange.appended =
      logging.exchange.rounds.flatMap Round.records ++ logging.exchange.outstanding := by
    simp [AsyncLogging.exchange, sound.accounted, outstanding, none, first.records_eq]
  have full : ∀ pointer ∈ logging.exchange.buffers, pointer.Exact := by
    change ∀ pointer ∈ logging.buffersToWrite, _
    rw [none]
    nofun
  have given : logging.exchange.nextBuffer.Blank ∧
      (logging.exchange.newBuffer2 = Option.none ∧
        2 ≤ (logging.buffers ++ [logging.currentBuffer]).length ∨
      logging.exchange.newBuffer2.Blank) := by
    unfold AsyncLogging.exchange
    rcases sound.next with ⟨isNone, more⟩ | blank
    · have positive := List.length_pos_iff.mpr more
      rw [if_pos isNone, if_pos isNone, List.length_append, List.length_singleton]
      exact ⟨second, .inl ⟨rfl, by omega⟩⟩
    · have isSome : logging.nextBuffer ≠ Option.none := by
        rcases blank with ⟨buffer, isSome, -⟩
        rw [isSome]
        nofun
      rw [if_neg isSome, if_neg isSome]
      exact ⟨blank, .inr second⟩
  exact { sound with
    current := first.exact, next := .inr given.1, full, ready := nofun
    taken := (absurd rfl ·), writing _ := ⟨rfl, given.2, nonempty, exact⟩
    started, accounted }

theorem Sound.step (sound : logging.Sound) (step : logging.Step next) : next.Sound := by
  cases step with
  | appendRoom exact records =>
      exact { sound with
        current := ⟨_, rfl, exact⟩
        writing isWriting := { sound.writing isWriting with }
        started := { sound.started with }
        accounted := by
          change _ = _ ++ List.flatMap _ (_ ++ [some _])
          simp [sound.accounted, outstanding, BufferPtr.records, records] }
  | @appendFull logline current exact records =>
      have filled : Sound { logging with
          appended := logging.appended ++ [logline]
          buffers := logging.buffers ++ [logging.currentBuffer]
          currentBuffer := some current
          nextBuffer := none } :=
        { sound with
          current := ⟨_, rfl, exact⟩
          next := .inl ⟨rfl, List.append_ne_nil_of_right_ne_nil _ (List.cons_ne_nil _ _)⟩
          full := by
            intro pointer member
            rcases List.mem_append.mp member with old | new
            · exact sound.full pointer old
            · rw [List.mem_singleton.mp new]
              exact sound.current
          writing isWriting := { sound.writing isWriting with }
          started := { sound.started with }
          accounted := by
            simp [sound.accounted, outstanding, BufferPtr.records, records] }
      exact filled.notify
  | start isCreated =>
      rcases sound.started.created isCreated with ⟨isAbsent, latch⟩
      have none := sound.taken (by rw [isAbsent]; nofun)
      exact { sound with
        ready := nofun
        taken _ := none
        writing := nofun
        started := ⟨nofun, fun _ => ⟨rfl, rfl, latch⟩, nofun⟩ }
  | returnStart down =>
      refine sound.setOwner nofun (fun isStarting => ?_) nofun
      cases down.symm.trans (sound.started.starting isStarting).2.2
  | enter isStarting =>
      have none := sound.taken (by rw [isStarting]; nofun)
      have alive := sound.started.alive (by rw [isStarting]; nofun) (by rw [isStarting]; nofun)
      have blank := LogBuffer.create_blank size
      exact { sound with
        ready _ := ⟨⟨_, rfl, blank⟩, ⟨_, rfl, blank⟩⟩
        taken _ := rfl
        writing := nofun
        started := ⟨(absurd · alive.1), nofun, (absurd · alive.2)⟩
        accounted := by simp [sound.accounted, outstanding, none] }
  | test isTesting => exact sound.advance (by rw [isTesting]; rfl) (.inl rfl)
  | finish isTesting => exact sound.advance (by rw [isTesting]; rfl) (.inr rfl)
  | wait isLocking empty => exact sound.advance (by rw [isLocking]; rfl) (.inl rfl)
  | exchange awake =>
      apply sound.exchange
      rcases awake with isLocking | isWoken
      · rw [isLocking]
        rfl
      · rw [isWoken]
        rfl
  | wake isWaiting => exact sound.advance (by rw [isWaiting]; rfl) (.inl rfl)
  | write now isWriting blank1 blank2 =>
      have alive := sound.started.alive (by rw [isWriting]; nofun) (by rw [isWriting]; nofun)
      exact { sound with
        ready _ := ⟨blank1, blank2⟩
        taken _ := rfl
        writing := nofun
        started := ⟨(absurd · alive.1), nofun, (absurd · alive.2)⟩
        accounted := by
          simp [sound.accounted, outstanding, round, Round.records, List.flatMap]
        written := by simp [sound.written] }
  | stop isRunning =>
      refine sound.setOwner nofun (fun isStarting => ?_) nofun
      cases isRunning.symm.trans (sound.started.starting isStarting).2.1
  | notifyStop isStopping =>
      have owner : logging.notify.owner = .stopping := by
        unfold AsyncLogging.notify
        split <;> exact isStopping
      refine sound.notify.setOwner nofun (fun isStarting => ?_) nofun
      cases owner.symm.trans (sound.notify.started.starting isStarting).2.1
  | join isFinished =>
      exact sound.setOwner nofun (by rw [isFinished]; nofun) (fun _ => isFinished)

theorem notify_backend (logging : AsyncLogging size) : logging.notify.backend ≠ .waiting := by
  unfold AsyncLogging.notify
  split
  · nofun
  · assumption

/-- The thread does not wait while a full buffer is there. -/
def Signalled (logging : AsyncLogging size) : Prop :=
  logging.backend = .waiting → logging.buffers = []

theorem Signalled.step (signalled : logging.Signalled) (step : logging.Step next) :
    next.Signalled := by
  cases step with
  | appendRoom _ _ | returnStart _ | stop _ | join _ => exact signalled
  | appendFull _ _ | notifyStop _ => exact fun isWaiting => absurd isWaiting (notify_backend _)
  | wait _ empty => exact fun _ => empty
  | start _ | enter _ | test _ | finish _ | exchange _ | wake _ | write _ _ _ _ => exact nofun

/-! ## Every run -/

theorem reachable_sound (bounded : size < 2 ^ 31) : (machine size).Safe ∧
    ∀ logging, (machine size).Reachable logging → logging.Sound ∧ logging.Signalled := by
  refine Machine.safe_of_invariant
    (fun logging : AsyncLogging size => logging.Sound ∧ logging.Signalled) ?_ ?_
  · rintro _ rfl
    exact ⟨create_sound size, nofun⟩
  · rintro logging action ⟨sound, signalled⟩ allowed
    rcases step_cases sound bounded allowed with ⟨next, ran, step⟩
    exact ⟨next, ran, sound.step step, signalled.step step⟩

/-- The texts of the buffers that are not written yet. -/
def pendingText (logging : AsyncLogging size) : List Char :=
  (logging.buffersToWrite ++ logging.buffers ++ [logging.currentBuffer]).flatMap
    fun pointer => pointer.elim [] fun buffer => buffer.buffer.text

theorem Sound.exact (sound : logging.Sound) : ∀ pointer ∈
    logging.buffersToWrite ++ logging.buffers ++ [logging.currentBuffer], pointer.Exact := by
  intro pointer member
  rcases List.mem_append.mp member with earlier | current
  · rcases List.mem_append.mp earlier with taken | full
    · by_cases isWriting : logging.backend = .writing
      · exact (sound.writing isWriting).exact pointer taken
      · rw [sound.taken isWriting] at taken
        cases taken
    · exact sound.full pointer full
  · rw [List.mem_singleton.mp current]
    exact sound.current

theorem fitting_flatMap {Item : Type} (records : Item → List (List Char)) (items : List Item) :
    (fitting size (items.flatMap records)).flatten =
      items.flatMap fun item => (fitting size (records item)).flatten := by
  induction items with
  | nil => rfl
  | cons item items induction =>
      rw [List.flatMap_cons, List.flatMap_cons, fitting_append, List.flatten_append, induction]

theorem Sound.pendingText_eq (sound : logging.Sound) :
    logging.pendingText = (fitting size logging.outstanding).flatten := by
  rw [pendingText, outstanding, fitting_flatMap]
  apply List.flatMap_congr
  intro pointer member
  rcases sound.exact pointer member with ⟨buffer, rfl, exact⟩
  exact exact.text

/-- A round with few buffers writes all of its records. -/
theorem Round.file_flatten {round : Round} (few : round.buffers.length ≤ 25) :
    (round.file size).flatten = (fitting size round.records).flatten := by
  have isKept : kept round.buffers = round.buffers := if_neg (Nat.not_lt.mpr few)
  have quiet : ¬round.buffers.length > 25 := Nat.not_lt.mpr few
  have whole : (fitting size (round.buffers.flatMap id)).flatten = _ :=
    fitting_flatMap id round.buffers
  rw [List.flatMap_id] at whole
  rw [Round.file, if_neg quiet, isKept, List.nil_append, ← List.flatMap_def, Round.records, whole]
  rfl

/-- No assertion fails and no null pointer is followed. In the order in which they were appended,
the records are those of the rounds and those that are still in memory; a round writes its
buffers, or a notice and the first two if they are more than 25; and the thread never waits for a
full buffer that is there. As long as no round is that long, the file and the memory hold all
records but those that fit in no buffer. -/
theorem records_accounted (bounded : size < 2 ^ 31) (reachable : (machine size).Reachable logging) :
    (∀ action, logging.Allowed action → ∃ next, logging.step action = .ok next) ∧
    logging.appended = logging.rounds.flatMap Round.records ++ logging.outstanding ∧
    logging.output = logging.rounds.flatMap (Round.file size) ∧
    (logging.backend = .waiting → logging.buffers = []) ∧
    ((∀ round ∈ logging.rounds, round.buffers.length ≤ 25) →
      logging.output.flatten ++ logging.pendingText =
        (fitting size logging.appended).flatten) := by
  rcases (reachable_sound bounded).2 logging reachable with ⟨sound, signalled⟩
  refine ⟨(reachable_sound bounded).1 logging reachable, sound.accounted, sound.written,
    signalled, ?_⟩
  intro few
  have written : logging.output.flatten =
      (fitting size (logging.rounds.flatMap Round.records)).flatten := by
    rw [sound.written, fitting_flatMap, List.flatMap_def, List.flatten_flatten, List.map_map,
      ← List.flatMap_def]
    exact List.flatMap_congr fun round member => Round.file_flatten (few round member)
  rw [written, sound.pendingText_eq, sound.accounted, fitting_append, List.flatten_append]

/-- Twenty-seven records that need a buffer each: the first two are written, behind a notice, and
the others are dropped. -/
theorem records_accounted_dropped :
    ∃ logging, (machine 3).Reachable logging ∧
      logging.output.drop 1 = [['a', 'b'], ['a', 'b']] ∧ logging.output.length = 3 ∧
      logging.appended = logging.rounds.flatMap Round.records ++ logging.outstanding ∧
      logging.appended.length = 27 := by
  have run := Machine.exists_reachable (machine 3)
    (fun logging => logging.output.drop 1 = [['a', 'b'], ['a', 'b']] ∧
      logging.output.length = 3 ∧ logging.appended.length = 27)
    rfl
    ([.start, .enter, .returnStart] ++ List.replicate 27 (.append ['a', 'b']) ++
      [.test, .lock, .write ['t']])
    (by decide +kernel)
  rcases run with ⟨logging, reachable, written, length, appended⟩
  rcases records_accounted (by decide) reachable with ⟨_, accounted, _⟩
  exact ⟨logging, reachable, written, length, accounted, appended⟩

/-! ## Stopping -/

/-- The records that the thread disposes of before it can finish. On its way to the locked region
it is bound to take all there are. -/
def committed (logging : AsyncLogging size) : List (List Char) :=
  match logging.backend with
  | .locking | .waiting | .woken => logging.appended
  | .writing => logging.rounds.flatMap Round.records ++
      logging.buffersToWrite.flatMap BufferPtr.records
  | .absent | .starting | .testing | .finished => logging.rounds.flatMap Round.records

theorem committed_notify (logging : AsyncLogging size) :
    logging.notify.committed = logging.committed := by
  unfold notify
  split
  · rename_i isWaiting
    simp only [committed, isWaiting]
  · rfl

/-- Only a record that is appended changes nothing else. -/
theorem committed_prefix_of_appended {logline : List Char}
    (backend : next.backend = logging.backend) (rounds : next.rounds = logging.rounds)
    (taken : next.buffersToWrite = logging.buffersToWrite)
    (appended : next.appended = logging.appended ++ [logline]) :
    logging.committed <+: next.committed := by
  unfold committed
  rw [backend, rounds, taken, appended]
  cases logging.backend with
  | locking | waiting | woken => exact List.prefix_append _ _
  | absent | starting | testing | writing | finished => exact List.prefix_rfl

theorem Step.committed (sound : logging.Sound) (step : logging.Step next) :
    logging.committed <+: next.committed := by
  cases step with
  | appendRoom exact records => exact committed_prefix_of_appended rfl rfl rfl rfl
  | appendFull exact records =>
      rw [committed_notify]
      exact committed_prefix_of_appended rfl rfl rfl rfl
  | start isCreated =>
      have isAbsent := (sound.started.created isCreated).1
      simp only [AsyncLogging.committed, isAbsent]
      exact List.prefix_rfl
  | returnStart _ | stop _ | join _ => exact List.prefix_rfl
  | test isTesting =>
      simp only [AsyncLogging.committed, isTesting]
      rw [sound.accounted]
      exact List.prefix_append _ _
  | enter phase | finish phase | wait phase _ | wake phase =>
      simp only [AsyncLogging.committed, phase]
      exact List.prefix_rfl
  | exchange awake =>
      have before : logging.committed = logging.appended := by
        rcases awake with phase | phase <;> simp only [AsyncLogging.committed, phase]
      have none : logging.buffersToWrite = [] := by
        apply sound.taken
        rcases awake with phase | phase <;> rw [phase] <;> nofun
      have after : logging.exchange.committed = logging.appended := by
        rw [sound.accounted, outstanding, none]
        rfl
      rw [before, after]
  | write now isWriting blank1 blank2 =>
      simp only [AsyncLogging.committed, isWriting]
      simp [round, Round.records, List.flatMap]
  | notifyStop isStopping =>
      change _ <+: logging.notify.committed
      rw [committed_notify]

/-- What has been appended by a time at which the thread has read `running_` and not yet taken the
buffers has been written or dropped when `stop` returns, whenever `stop` is called. -/
theorem stop_disposes (bounded : size < 2 ^ 31) (reachable : (machine size).Reachable logging)
    (onTheWay : logging.backend = .locking ∨ logging.backend = .waiting ∨
      logging.backend = .woken) {later : AsyncLogging size}
    (continued : ((machine size).startingAt logging).Reachable later)
    (stopped : later.owner = .stopped) :
    logging.appended <+: later.rounds.flatMap Round.records := by
  have invariant : later.Sound ∧ logging.committed <+: later.committed := by
    refine continued.invariant
      (fun later : AsyncLogging size => later.Sound ∧ logging.committed <+: later.committed) ?_ ?_
    · intro first starts
      rw [show first = logging from starts]
      exact ⟨((reachable_sound bounded).2 logging reachable).1, List.prefix_rfl⟩
    · rintro current action next ⟨sound, before⟩ allowed ran
      rcases step_cases sound bounded allowed with ⟨found, foundRan, step⟩
      cases foundRan.symm.trans ran
      exact ⟨sound.step step, before.trans (step.committed sound)⟩
  have finished := invariant.1.started.stopped stopped
  have disposed := invariant.2
  have all : logging.committed = logging.appended := by
    rcases onTheWay with phase | phase | phase <;> simp only [committed, phase]
  rw [all] at disposed
  simp only [committed, finished] at disposed
  exact disposed

/-- The thread waits, and times out only after `stop` has cleared `running_` and notified it. -/
theorem stop_disposes_waiting :
    ∃ logging later, (machine 8).Reachable logging ∧
      ((machine 8).startingAt logging).Reachable later ∧ logging.backend = .waiting ∧
      later.owner = .stopped ∧ logging.appended = [['a', 'b']] ∧
      logging.appended <+: later.rounds.flatMap Round.records := by
  have first := Machine.exists_reachable (machine 8)
    (fun logging => logging.backend = .waiting ∧ logging.appended = [['a', 'b']] ∧
      (((machine 8).startingAt logging).execute logging
        [.stop, .append ['c'], .notifyStop, .relock, .write [], .append ['d'], .test,
          .join]).any (fun later => later.owner = .stopped) = true)
    rfl
    [.start, .enter, .returnStart, .test, .lock, .append ['a', 'b']]
    (by decide +kernel)
  rcases first with ⟨logging, reachable, isWaiting, appended, runs⟩
  rcases Machine.exists_reachable ((machine 8).startingAt logging)
    (fun later => later.owner = .stopped) rfl _ runs with ⟨later, continued, stopped⟩
  exact ⟨logging, later, reachable, continued, isWaiting, stopped, appended,
    stop_disposes (by decide) reachable (.inr (.inl isWaiting)) continued stopped⟩

end AsyncLogging

end Ccnet.Base
