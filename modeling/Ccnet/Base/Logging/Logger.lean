import Ccnet.Base.Logging.FormatTime

namespace Ccnet.Base

/-! A log record, from the constructor of `Logger` to its destructor. -/

inductive LogLevel
  | trace
  | debug
  | info
  | warn
  | error
  | fatal
  deriving DecidableEq, Repr

/-- `LogLevelName` -/
def LogLevel.name : LogLevel → List Char
  | .trace => "TRACE ".toList
  | .debug => "DEBUG ".toList
  | .info => "INFO  ".toList
  | .warn => "WARN  ".toList
  | .error => "ERROR ".toList
  | .fatal => "FATAL ".toList

/-- A value of type `int`. -/
abbrev Int32Value := { value : Int // IntegerType.int32.Holds value }

def Int32Value.insertion (number : Int32Value) : Insertion :=
  .integer .int32 number.1 number.2

/-- `strrchr`: where the last such character is. -/
def strrchr (character : Char) : List Char → Option Nat
  | [] => none
  | first :: rest =>
      match strrchr character rest with
      | some index => some (index + 1)
      | none => if first = character then some 0 else none

structure SourceFile where
  data : List Char
  size : Nat
  sized : size = data.length
  deriving DecidableEq, Repr

namespace SourceFile

/-- From a literal, whose length the compiler knows. -/
def ofArray (arr : CString) : SourceFile :=
  match strrchr '/' arr.characters with
  | some slash =>
      ⟨arr.characters.drop (slash + 1), arr.characters.length - (slash + 1), by simp⟩
  | none => ⟨arr.characters, arr.characters.length, rfl⟩

/-- `operator<<` appends the name. -/
def insertion (file : SourceFile) : Insertion := .stringPiece (file.data.take file.size)

end SourceFile

/-- What the calling thread keeps. -/
structure LogThread where
  clock : LogClock
  cachedTid : Int
  tidString : Vector Char 32
  tidStringLength : Nat
  deriving DecidableEq, Repr

/-- What the system answers to a statement. -/
structure LogSystem where
  civil : CivilTime
  now : Int
  gettid : Int
  strerror : Int → CString
  /-- The array of the stream, which is not initialised. -/
  data : Vector Char kSmallBuffer

/-- `current_thread::tid` -/
def LogThread.tid (thread : LogThread) (system : LogSystem) : Checked LogThread :=
  if thread.cachedTid = 0 then do
    let (tidString, tidStringLength) ←
      snprintf thread.tidString 0 32 (printSpaces 5 system.gettid ++ [' '])
    return { thread with cachedTid := system.gettid, tidString, tidStringLength }
  else
    return thread

/-- `Logger::Impl` -/
structure LoggerImpl where
  stream : LogStream
  level : LogLevel
  line : Int32Value
  basename : SourceFile

namespace LoggerImpl

def create (system : LogSystem) (thread : LogThread) (level : LogLevel)
    (savedErrno : Int32Value) (file : SourceFile) (line : Int32Value) :
    Checked (LogThread × LoggerImpl) := do
  let (clock, stream) ← thread.clock.formatTime system.civil system.now (.create system.data)
  let thread ← { thread with clock }.tid system
  let stream ← stream.insertT thread.tidString.toList thread.tidStringLength
  let stream ← stream.insertT (level.name ++ [nul]) 6
  let stream ← stream.insertAll (if savedErrno.1 ≠ 0 then
    [.cString (some (system.strerror savedErrno.1)),
      .cString (some ⟨" (errno=".toList, by decide⟩), savedErrno.insertion,
      .cString (some ⟨") ".toList, by decide⟩)]
    else [])
  return (thread, { stream, level, line, basename := file })

/-- What `finish` inserts. -/
def trailer (impl : LoggerImpl) : List Insertion :=
  [.cString (some ⟨" - ".toList, by decide⟩), impl.basename.insertion, .char ':',
    impl.line.insertion, .char '\n']

def finish (impl : LoggerImpl) : Checked LoggerImpl := do
  return { impl with stream := ← impl.stream.insertAll impl.trailer }

/-- `~Logger`: what is passed to `g_output`, and whether `abort` is called after it. -/
def destroy (impl : LoggerImpl) : Checked (List Char × Bool) := do
  let impl ← impl.finish
  return (impl.stream.buffer.text, decide (impl.level = .fatal))

end LoggerImpl

/-- The constructors of `Logger`. -/
inductive LogCall
  | plain
  | withFunction (level : LogLevel) (func : CString)
  | withLevel (level : LogLevel)
  | system (toAbort : Bool) (errno : Int32Value)

def LogCall.create (system : LogSystem) (thread : LogThread) (file : SourceFile)
    (line : Int32Value) : LogCall → Checked (LogThread × LoggerImpl)
  | .plain => LoggerImpl.create system thread .info ⟨0, by decide⟩ file line
  | .withFunction level func => do
      let (thread, impl) ← LoggerImpl.create system thread level ⟨0, by decide⟩ file line
      let stream ← impl.stream.insertAll [.cString (some func), .char ' ']
      return (thread, { impl with stream })
  | .withLevel level => LoggerImpl.create system thread level ⟨0, by decide⟩ file line
  | .system toAbort errno =>
      LoggerImpl.create system thread (if toAbort then .fatal else .error) errno file line

/-! ## The stream is never full -/

theorem LoggerImpl.create_open {system : LogSystem} {thread after : LogThread}
    {level : LogLevel} {savedErrno : Int32Value} {file : SourceFile} {line : Int32Value}
    {impl : LoggerImpl}
    (created : LoggerImpl.create system thread level savedErrno file line = .ok (after, impl)) :
    impl.stream.Open := by
  rcases Checked.bind_eq_ok_iff.mp created with ⟨⟨clock, timed⟩, formatted, rest⟩
  rcases Checked.bind_eq_ok_iff.mp rest with ⟨known, -, rest⟩
  rcases Checked.bind_eq_ok_iff.mp rest with ⟨withTid, insertedTid, rest⟩
  rcases Checked.bind_eq_ok_iff.mp rest with ⟨withLevel, insertedLevel, rest⟩
  rcases Checked.bind_eq_ok_iff.mp rest with ⟨withErrno, insertedErrno, returned⟩
  cases returned
  have timedOpen := LogClock.formatTime_open (LogStream.create_open system.data) formatted
  exact ((timedOpen.insertT insertedTid).insertT insertedLevel).insertAll insertedErrno

theorem LogCall.create_open {system : LogSystem} {thread after : LogThread} {file : SourceFile}
    {line : Int32Value} {call : LogCall} {impl : LoggerImpl}
    (created : call.create system thread file line = .ok (after, impl)) : impl.stream.Open := by
  cases call with
  | plain | withLevel level | system toAbort errno => exact LoggerImpl.create_open created
  | withFunction level func =>
      rcases Checked.bind_eq_ok_iff.mp created with ⟨⟨known, begun⟩, made, rest⟩
      rcases Checked.bind_eq_ok_iff.mp rest with ⟨withName, inserted, returned⟩
      cases returned
      exact (LoggerImpl.create_open made).insertAll inserted

/-! ## The end of a record -/

namespace LoggerImpl

theorem destroy_ok (impl : LoggerImpl) (isOpen : impl.stream.Open) :
    ∃ aborted, impl.destroy = .ok (impl.stream.content ++
      (Insertion.accepted impl.stream.buffer.length impl.trailer).flatMap Insertion.text,
      aborted) := by
  rcases LogStream.insertAll_ok isOpen impl.trailer with ⟨final, ran, -, content⟩
  refine ⟨decide (impl.level = .fatal), ?_⟩
  rw [destroy, finish, ran, ← content]
  rfl

/-- The line feed is accepted whether the line number is or not. -/
theorem accepted_line {length : Nat} (room : length + 2 ≤ kSmallBuffer) (line : Int32Value)
    (front : List Insertion) :
    ((front ++ Insertion.accepted length [line.insertion, .char '\n']).flatMap
      Insertion.text).getLast? = some '\n' := by
  by_cases number : line.insertion.Accepted length
  · have digits := decimal_length line.2
    have feed : (Insertion.char '\n').Accepted (length + line.insertion.text.length) := by
      change length + 32 ≤ kSmallBuffer at number
      change length + (decimal line.1).length + 2 ≤ kSmallBuffer
      omega
    rw [Insertion.accepted_cons_of number, Insertion.accepted_cons_of feed]
    simp [Insertion.accepted]
  · have feed : (Insertion.char '\n').Accepted length := room
    rw [Insertion.accepted_cons_of_not number, Insertion.accepted_cons_of feed]
    simp [Insertion.accepted]

/-- What `append` of so many characters leaves of `avail()`. -/
def availAfter (avail : Int) (len : Nat) : Int := if len < avail then avail - len else avail

/-- `avail()` when `finish` comes to the colon, and to the line number. -/
def availAtColon (avail : Int) (file : SourceFile) : Int :=
  availAfter (availAfter avail 3) file.size

def availAtLine (avail : Int) (file : SourceFile) : Int := availAfter (availAtColon avail file) 1

/-- What `finish` inserts before the colon. -/
def separator (impl : LoggerImpl) : List Insertion := impl.trailer.take 2

theorem availAfter_eq (length : Nat) {insertion : Insertion}
    (appends : insertion.room = insertion.text.length + 1) :
    (kSmallBuffer : Int) -
        (length + ((Insertion.accepted length [insertion]).flatMap Insertion.text).length : Nat) =
      availAfter (kSmallBuffer - length) insertion.text.length := by
  unfold availAfter
  by_cases fits : insertion.Accepted length
  · rw [Insertion.accepted_cons_of fits]
    unfold Insertion.Accepted at fits
    rw [if_pos (by omega)]
    simp [Insertion.accepted]
    omega
  · rw [Insertion.accepted_cons_of_not fits]
    unfold Insertion.Accepted at fits
    rw [if_neg (by omega)]
    simp [Insertion.accepted]

theorem availAtColon_eq (impl : LoggerImpl) (length : Nat) :
    (kSmallBuffer : Int) - (length + ((Insertion.accepted length impl.separator).flatMap
      Insertion.text).length : Nat) = availAtColon (kSmallBuffer - length) impl.basename := by
  have size : impl.basename.insertion.text.length = impl.basename.size := by
    simp [SourceFile.insertion, Insertion.text, impl.basename.sized]
  rw [separator, trailer, List.take_succ_cons, ← List.singleton_append, Insertion.accepted_append,
    List.flatMap_append, List.length_append, ← Nat.add_assoc]
  rw [List.take_succ_cons, List.take_zero, availAfter_eq _ rfl, availAfter_eq _ rfl, size]
  rfl

theorem accepted_line_refused {length : Nat} (full : kSmallBuffer < length + 2)
    (line : Int32Value) : Insertion.accepted length [line.insertion, .char '\n'] = [] := by
  refine Insertion.accepted_of_refused ?_
  simp only [List.mem_cons, List.not_mem_nil, or_false, forall_eq_or_imp, forall_eq]
  constructor
  · change ¬length + 32 ≤ kSmallBuffer
    omega
  · change ¬length + 2 ≤ kSmallBuffer
    omega

/-- What follows the separator ends with a line feed, or with the colon, or is nothing. -/
theorem accepted_trailer (impl : LoggerImpl) (length : Nat) :
    ((Insertion.accepted length impl.trailer).flatMap Insertion.text).getLast? = some '\n' ∧
        1 < availAtLine (kSmallBuffer - length) impl.basename ∨
      ((Insertion.accepted length impl.trailer).flatMap Insertion.text).getLast? = some ':' ∧
        ¬1 < availAtLine (kSmallBuffer - length) impl.basename ∧
        1 < availAtColon (kSmallBuffer - length) impl.basename ∨
      Insertion.accepted length impl.trailer = Insertion.accepted length impl.separator ∧
        ¬1 < availAtLine (kSmallBuffer - length) impl.basename ∧
        ¬1 < availAtColon (kSmallBuffer - length) impl.basename := by
  have split : impl.trailer = impl.separator ++ [.char ':', impl.line.insertion, .char '\n'] := rfl
  have left := impl.availAtColon_eq length
  rw [availAtLine, availAfter, ← left, split, Insertion.accepted_append]
  generalize length + ((Insertion.accepted length impl.separator).flatMap
    Insertion.text).length = begun
  by_cases colon : (Insertion.char ':').Accepted begun
  · rw [Insertion.accepted_cons_of colon]
    change begun + 2 ≤ kSmallBuffer at colon
    rw [if_pos (by omega)]
    by_cases room : begun + 3 ≤ kSmallBuffer
    · refine .inl ⟨?_, by omega⟩
      rw [List.append_cons]
      exact accepted_line room impl.line _
    · refine .inr (.inl ⟨?_, by omega, by omega⟩)
      have full : kSmallBuffer < begun + (Insertion.char ':').text.length + 2 :=
        Nat.lt_of_not_le room
      rw [accepted_line_refused full]
      simp
  · rw [Insertion.accepted_cons_of_not colon]
    change ¬begun + 2 ≤ kSmallBuffer at colon
    rw [accepted_line_refused (by omega), List.append_nil]
    refine .inr (.inr ⟨rfl, ?_, by omega⟩)
    rw [if_neg (by omega)]
    omega

/-- Either the line feed is accepted, or not even the colon is, and what comes before it ends
with a line feed. -/
def EndsLine (impl : LoggerImpl) : Prop :=
  1 < availAtLine impl.stream.buffer.avail impl.basename ∨
    ¬1 < availAtColon impl.stream.buffer.avail impl.basename ∧
      (impl.stream.content ++ (Insertion.accepted impl.stream.buffer.length
        impl.separator).flatMap Insertion.text).getLast? = some '\n'

instance (impl : LoggerImpl) : Decidable impl.EndsLine :=
  inferInstanceAs (Decidable (_ ∨ _))

theorem endsLine_iff (impl : LoggerImpl) (isOpen : impl.stream.Open) :
    (impl.stream.content ++ (Insertion.accepted impl.stream.buffer.length impl.trailer).flatMap
      Insertion.text).getLast? = some '\n' ↔ impl.EndsLine := by
  have avail : impl.stream.buffer.avail = kSmallBuffer - impl.stream.buffer.length := by
    rw [isOpen.avail]
    unfold LogStream.Open at isOpen
    omega
  rw [EndsLine, avail]
  rcases impl.accepted_trailer impl.stream.buffer.length with
    ⟨feed, line⟩ | ⟨feed, line, colon⟩ | ⟨same, line, colon⟩
  · simp [List.getLast?_append, feed, line]
  · simp [List.getLast?_append, feed, line, colon]
  · simp [same, line, colon]

end LoggerImpl

/-- A statement one second after the epoch, in a new thread. -/
def sampleSystem : LogSystem where
  civil := LogClock.universalTime
  now := 1000000
  gettid := 1234
  strerror _ := ⟨[], by decide⟩
  data := Vector.replicate kSmallBuffer ' '

def sampleThread : LogThread := ⟨LogClock.create, 0, Vector.replicate 32 nul, 6⟩

def sampleFile : SourceFile := .ofArray ⟨"src/a.cc".toList, by decide⟩

def sampleLine : Int32Value := ⟨7, by decide⟩

/-- The statement's header has 38 characters. -/
theorem sample_created :
    ∃ after impl, LogCall.plain.create sampleSystem sampleThread sampleFile sampleLine =
        .ok (after, impl) ∧
      impl.stream.buffer.length = 38 ∧ impl.basename = ⟨"a.cc".toList, 4, rfl⟩ ∧
      impl.line = sampleLine := by
  have made : (LogCall.plain.create sampleSystem sampleThread sampleFile sampleLine).toOption.any
      (fun result => result.2.stream.buffer.length = 38 ∧
        result.2.basename = ⟨"a.cc".toList, 4, rfl⟩ ∧ result.2.line = sampleLine) = true := by
    decide +kernel
  rw [Option.any_eq_true] at made
  rcases made with ⟨⟨after, impl⟩, found, header⟩
  exact ⟨after, impl, Checked.eq_ok_of_mem_toOption found, of_decide_eq_true header⟩

/-- A message that fits is put behind the header. -/
theorem sample_filled (message : List Char) (fits : message.length < 3962) :
    ∃ after impl stream,
      LogCall.plain.create sampleSystem sampleThread sampleFile sampleLine = .ok (after, impl) ∧
      impl.basename = ⟨"a.cc".toList, 4, rfl⟩ ∧ impl.line = sampleLine ∧
      impl.stream.insertAll [.string message] = .ok stream ∧ stream.Open ∧
      stream.content = impl.stream.content ++ message ∧
      stream.buffer.length = 38 + message.length := by
  rcases sample_created with ⟨after, impl, created, header, basename, line⟩
  have isOpen := LogCall.create_open created
  rcases LogStream.insertAll_ok isOpen [.string message] with ⟨stream, inserted, filled, content⟩
  have accepted : (Insertion.string message).Accepted impl.stream.buffer.length := by
    change impl.stream.buffer.length + (message.length + 1) ≤ 4000
    omega
  rw [Insertion.accepted_cons_of accepted, Insertion.accepted, List.flatMap_singleton,
    Insertion.text_string] at content
  refine ⟨after, impl, stream, created, basename, line, inserted, filled, content, ?_⟩
  rw [← filled.content_length, content, List.length_append, isOpen.content_length, header]

/-- Whether a record ends with a line feed is decided by what is left when the destructor
runs. -/
theorem record_ends_line {system : LogSystem} {thread after : LogThread} {file : SourceFile}
    {line : Int32Value} {call : LogCall} {impl : LoggerImpl}
    (created : call.create system thread file line = .ok (after, impl))
    (insertions : List Insertion) :
    ∃ stream, impl.stream.insertAll insertions = .ok stream ∧
      ∃ output aborted, { impl with stream }.destroy = .ok (output, aborted) ∧
        (output.getLast? = some '\n' ↔ LoggerImpl.EndsLine { impl with stream }) := by
  rcases LogStream.insertAll_ok (LogCall.create_open created) insertions with
    ⟨stream, inserted, isOpen, -⟩
  rcases LoggerImpl.destroy_ok { impl with stream } isOpen with ⟨aborted, destroyed⟩
  exact ⟨stream, inserted, _, aborted, destroyed, LoggerImpl.endsLine_iff _ isOpen⟩

/-- A short record. -/
theorem record_ends_line_short :
    ∃ after impl stream output aborted,
      LogCall.plain.create sampleSystem sampleThread sampleFile sampleLine = .ok (after, impl) ∧
      impl.stream.insertAll [.string "hello".toList] = .ok stream ∧
      LoggerImpl.destroy { impl with stream } = .ok (output, aborted) ∧
      output.getLast? = some '\n' := by
  rcases sample_filled "hello".toList (by decide) with
    ⟨after, impl, filled, created, basename, -, inserted, isOpen, -, length⟩
  rcases record_ends_line created [.string "hello".toList] with
    ⟨stream, ran, output, aborted, destroyed, ends⟩
  rw [inserted] at ran
  cases ran
  refine ⟨after, impl, filled, output, aborted, created, inserted, destroyed, ends.mpr (.inl ?_)⟩
  rw [isOpen.avail, length, basename]
  decide

/-- With one character left, nothing of the trailer is accepted. -/
theorem record_without_line_feed :
    ∃ after impl stream output aborted,
      LogCall.plain.create sampleSystem sampleThread sampleFile sampleLine = .ok (after, impl) ∧
      impl.stream.insertAll [.string (List.replicate 3961 'a')] = .ok stream ∧
      LoggerImpl.destroy { impl with stream } = .ok (output, aborted) ∧
      output.getLast? = some 'a' := by
  rcases sample_filled (List.replicate 3961 'a') (by rw [List.length_replicate]; decide) with
    ⟨after, impl, stream, created, basename, line, inserted, isOpen, content, length⟩
  rcases LoggerImpl.destroy_ok { impl with stream } isOpen with ⟨aborted, destroyed⟩
  refine ⟨after, impl, stream, _, aborted, created, inserted, destroyed, ?_⟩
  rw [List.length_replicate] at length
  have refused : ∀ insertion ∈ LoggerImpl.trailer { impl with stream },
      ¬insertion.Accepted 3999 := by
    rw [LoggerImpl.trailer, basename, line]
    decide
  have refused : Insertion.accepted stream.buffer.length
      (LoggerImpl.trailer { impl with stream }) = [] := by
    rw [length]
    exact Insertion.accepted_of_refused refused
  rw [refused, List.flatMap_nil, List.append_nil, content, List.getLast?_append,
    List.getLast?_replicate]
  rfl

end Ccnet.Base
