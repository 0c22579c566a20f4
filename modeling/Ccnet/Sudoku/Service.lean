import Ccnet.Base.Monitor
import Ccnet.Net.Connection.Link
import Ccnet.Sudoku.Client

namespace Ccnet.Sudoku

open Ccnet.Net
open Ccnet.Base
open Ccnet.Framing

/-! One connection of `net/sudoku/server_threadpool.cc` with the pool that solves its puzzles.
The loop thread takes requests out of the input buffer and hands them to the pool, whose threads
send the replies. The pool's other users are the loops of other connections. The server object
lives as long as the process. -/

/-- The id and the puzzle of a request. -/
abbrev Content := List UInt8 × List UInt8

/-- What a thread of the pool still has to do. -/
inductive SudokuTask
  | solve (content : Content)
  /-- The end of a task after its `send`, or a task of another connection. -/
  | other
  deriving DecidableEq, Repr

def SudokuTask.content? : SudokuTask → Option Content
  | .solve content => some content
  | .other => none

inductive Reply
  | answer (content : Content)
  | error (reply : ErrorReply)
  deriving DecidableEq, Repr

namespace Reply

def content? : Reply → Option Content
  | .answer content => some content
  | .error _ => none

/-- What is passed to `send`. -/
def message : Reply → Checked (List UInt8)
  | .answer content => do
      let result ← solveSudoku content.2
      return terminated Buffer.carriageReturn Buffer.lineFeed (responseText content.1 result)
  | .error reply => return reply.text.toList.map fun character => character.toNat.toUInt8

end Reply

/-- Where the loop thread is in `onMessage`. -/
inductive ReaderPhase
  | outside
  /-- At the test of the `while`. -/
  | looping
  /-- In `threadPool_.run`. -/
  | submitting (content : Content)
  | rejecting (reply : ErrorReply)
  /-- Before `shutdown`. -/
  | closing
  deriving DecidableEq, Repr

namespace ReaderPhase

def content? : ReaderPhase → Option Content
  | .submitting content => some content
  | .outside | .looping | .rejecting _ | .closing => none

def error? : ReaderPhase → Option ErrorReply
  | .rejecting reply => some reply
  | .outside | .looping | .submitting _ | .closing => none

end ReaderPhase

/-- What one round of the loop in `onMessage` comes to, with the number of bytes it retrieves. -/
inductive Round
  | finished
  | request (content : Content) (len : Nat)
  | badRequest (len : Nat)
  | idTooLong
  deriving DecidableEq, Repr

/-- `LOG_FATAL` aborts. -/
def round (buf : Buffer) : Checked Round :=
  if kCells + 2 ≤ buf.readableBytes then
    match buf.findCRLF with
    | some crlf =>
        let content := SudokuServer.splitRequest (slice buf.buffer buf.peek crlf)
        let len := crlf + 2 - buf.peek
        if content.2.length = kCells then
          return .request content len
        else
          return .badRequest len
    | none => if 100 < buf.readableBytes then return .idTooLong else .error .abort
  else
    return .finished

theorem retrieveUntil_of_findCRLF {buf : Buffer} {crlf : Nat} (found : buf.findCRLF = some crlf) :
    buf.retrieveUntil (crlf + 2) = buf.retrieve (crlf + 2 - buf.peek) := by
  rcases Option.map_eq_some_iff.mp found with ⟨position, _, rfl⟩
  unfold Buffer.retrieveUntil
  rw [Checked.check_bind_of (show buf.peek ≤ buf.peek + position + 2 by omega)]
  by_cases inside : buf.peek + position + 2 ≤ buf.beginWrite
  · rw [Checked.check_bind_of inside]
  · have beyond : ¬buf.peek + position + 2 - buf.peek ≤ buf.readableBytes := by
      unfold Buffer.readableBytes Buffer.peek Buffer.beginWrite at *
      omega
    unfold Buffer.retrieve check
    rw [if_neg inside, if_neg beyond]
    rfl

/-- The rounds are those of the loop that handles what one connection receives. -/
theorem handleRequests_round (fuel : Nat) (server : SudokuServer) :
    server.handleRequests (fuel + 1) = (do
      match ← round server.inputBuffer with
      | .finished => return server
      | .request content len => do
          let inputBuffer ← server.inputBuffer.retrieve len
          { server with inputBuffer, handed := server.handed ++ [content] }.handleRequests fuel
      | .badRequest len => do
          let inputBuffer ← server.inputBuffer.retrieve len
          return { server with inputBuffer }.reject .badRequest
      | .idTooLong => return server.reject .idTooLong) := by
  rw [SudokuServer.handleRequests, round]
  split
  · cases found : server.inputBuffer.findCRLF with
    | some crlf =>
        dsimp only
        rw [retrieveUntil_of_findCRLF found]
        by_cases good : (SudokuServer.splitRequest (slice server.inputBuffer.buffer
            server.inputBuffer.peek crlf)).2.length = kCells
        · simp [SudokuServer.processRequest, good]
        · simp [SudokuServer.processRequest, good]
    | none =>
        dsimp only
        split <;> rfl
  · rfl

/-- `handed` are the requests that were passed to `run`, `outgoing` the replies that `send`
passed on, and `dropped` the requests whose reply came too late for that. -/
structure SudokuService where
  connection : ConnectionSystem
  pool : ThreadPool SudokuTask
  reader : ReaderPhase
  handed : List Content
  outgoing : List (Reply × Caller × List UInt8)
  dropped : List Content

namespace SudokuService

/-- `conn->send`, in the loop thread or in one of the pool. -/
def send (service : SudokuService) (caller : Caller) (reply : Reply) (result : WriteResult) :
    Checked SudokuService := do
  let message ← reply.message
  let connection ← service.connection.step (.call caller (.send message) result)
  if service.connection.connection.state = .kConnected then
    return { service with
      connection
      outgoing := service.outgoing ++ [(reply, caller, message)] }
  else
    return { service with
      connection
      dropped := service.dropped ++ reply.content?.toList }

/-- One round of the loop in `onMessage`, up to the lock in `run`. -/
def loop (service : SudokuService) : Checked SudokuService := do
  match ← round service.connection.connection.inputBuffer with
  | .finished =>
      let connection ← service.connection.step .returnCallback
      return { service with connection, reader := .outside }
  | .request content len =>
      let connection ← service.connection.step (.retrieveInput len)
      let pool ← service.pool.step (.call 0 (.solve content))
      return { service with
        connection
        pool
        reader := .submitting content
        handed := service.handed ++ [content] }
  | .badRequest len =>
      let connection ← service.connection.step (.retrieveInput len)
      return { service with connection, reader := .rejecting .badRequest }
  | .idTooLong => return { service with reader := .rejecting .idTooLong }

/-- `run` of the pool, which has no bound. Without threads it runs the task at once. -/
def submit (service : SudokuService) (content : Content) (notified : Option Nat)
    (result : WriteResult) : Checked SudokuService := do
  let pool ← service.pool.step (.run 0 notified)
  let submitted := { service with pool, reader := .looping }
  if service.pool.workers.isEmpty then
    submitted.send none (.answer content) result
  else
    return submitted

/-- The request that a thread of the pool is at. -/
def solving (service : SudokuService) (worker : Nat) : Option Content :=
  (service.pool.workers[worker]?.bind WorkerPhase.held).bind SudokuTask.content?

/-- `SudokuServer::solve` in a thread of the pool, up to the lock in `queueInLoop`. -/
def answer (service : SudokuService) (worker : Nat) (result : WriteResult) :
    Checked SudokuService :=
  match service.solving worker with
  | some content =>
      let left := service.pool.setWorker worker (.holding .other)
      { service with pool := left }.send (some worker) (.answer content) result
  | none => return service

def reject (service : SudokuService) (reply : ErrorReply) (result : WriteResult) :
    Checked SudokuService :=
  { service with reader := .closing }.send none (.error reply) result

def shutdown (service : SudokuService) (result : WriteResult) : Checked SudokuService := do
  let closed ← service.connection.step (.call none .shutdown result)
  let connection ← closed.step .returnCallback
  return { service with connection, reader := .outside }

/-! ## Runs -/

inductive Action
  /-- A step of the library. -/
  | connection (action : ConnectionSystem.Action)
  /-- `messageCallback_` is called. -/
  | onMessage
  | loop
  | submit (notified : Option Nat) (result : WriteResult)
  | reject (result : WriteResult)
  | shutdown (result : WriteResult)
  | pool (action : ThreadPool.Action SudokuTask)
  | answer (worker : Nat) (result : WriteResult)

def inOnMessage (service : SudokuService) : Prop :=
  service.connection.removed = false ∧
    service.connection.stack.head? = some .messageCallback

/-- The library runs user code only in the message callback. -/
def isLibrary (service : SudokuService) : ConnectionSystem.Action → Bool
  | .returnCallback => service.connection.stack.head? ≠ some .messageCallback
  | .handleRead _ => true
  | .destroyServer _ => false
  | action => action.isInternal

/-- The loop thread of this connection is the pool's first producer. A task ends when its `send`
has returned. What `send` left to the loop is no longer followed once the channel is removed. -/
def isPools (service : SudokuService) : ThreadPool.Action SudokuTask → Bool
  | .call producer task => producer ≠ 0 ∧ task = .other
  | .run producer _ => producer ≠ 0
  | .execute worker => service.pool.workers[worker]? = some (.holding .other) ∧
      (service.connection.removed = true ∨ service.connection.pushing worker = none)
  | .test _ | .take _ _ | .wakeWorker _ | .wakeProducer _ => true
  | .stop | .join => false

/-- The kernel takes no more than it is offered. -/
def Takes (reply : Reply) (result : WriteResult) : Prop :=
  ∀ message ∈ reply.message.toOption, result.count ≤ message.length

def Allowed (service : SudokuService) : Action → Prop
  | .connection action => service.connection.Allowed action ∧ service.isLibrary action = true
  | .onMessage => service.inOnMessage ∧ service.reader = .outside
  | .loop => service.inOnMessage ∧ service.reader = .looping
  | .submit notified result => service.inOnMessage ∧ service.pool.Allowed (.run 0 notified) ∧
      ∃ content ∈ service.reader.content?, Takes (.answer content) result
  | .reject result => service.inOnMessage ∧
      ∃ reply ∈ service.reader.error?, Takes (.error reply) result
  | .shutdown result => service.inOnMessage ∧ service.reader = .closing ∧ result.count = 0
  | .pool action => service.pool.Allowed action ∧ service.isPools action = true
  | .answer worker result => service.connection.MayCall (some worker) ∧
      ∃ content ∈ service.solving worker, Takes (.answer content) result

def step (service : SudokuService) : Action → Checked SudokuService
  | .connection action => do
      let connection ← service.connection.step action
      return { service with connection }
  | .onMessage => return { service with reader := .looping }
  | .loop => service.loop
  | .submit notified result =>
      match service.reader.content? with
      | some content => service.submit content notified result
      | none => return service
  | .reject result =>
      match service.reader.error? with
      | some reply => service.reject reply result
      | none => return service
  | .shutdown result => service.shutdown result
  | .pool action => do
      let pool ← service.pool.step action
      return { service with pool }
  | .answer worker result => service.answer worker result

/-- A new connection of a server with so many threads in its pool, which so many other loops
use. -/
def create (connection : ConnectionSystem) (numThreads numLoops : Nat) : SudokuService where
  connection
  pool := .create 0 numThreads (numLoops + 1)
  reader := .outside
  handed := []
  outgoing := []
  dropped := []

def machine : Machine SudokuService Action where
  initial service := ∃ connection numThreads numLoops, connection.Initial ∧
    service = create connection numThreads numLoops
  allowed := Allowed
  step := step

/-! ## Evaluation -/

instance (service : SudokuService) : Decidable service.inOnMessage :=
  inferInstanceAs (Decidable (_ ∧ _))

instance (reply : Reply) (result : WriteResult) : Decidable (Takes reply result) :=
  inferInstanceAs (Decidable (∀ message ∈ reply.message.toOption, result.count ≤ message.length))

instance (service : SudokuService) : (action : Action) → Decidable (service.Allowed action)
  | .connection _ | .onMessage | .loop | .submit _ _ | .reject _ | .shutdown _ | .pool _
  | .answer _ _ => inferInstanceAs (Decidable (_ ∧ _))

instance (service : SudokuService) (action : Action) :
    Decidable (machine.allowed service action) :=
  inferInstanceAs (Decidable (service.Allowed action))

end SudokuService

end Ccnet.Sudoku
