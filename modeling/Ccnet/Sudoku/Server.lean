import Ccnet.Net.Buffer
import Ccnet.Sudoku.Solver

namespace Ccnet.Sudoku

open Ccnet.Net
open Ccnet.Framing

/-! The request handling of `net/sudoku/server_threadpool.cc`: request lines
arrive in pieces of any size. -/

def colon : UInt8 := 58

inductive ErrorReply
  | badRequest
  | idTooLong
  deriving DecidableEq, Repr

def ErrorReply.text : ErrorReply → String
  | .badRequest => "Bad Request!\r\n"
  | .idTooLong => "Id too long!\r\n"

/-- The server's side of one connection: the input buffer, the pairs of id and
puzzle that were handed to the solver, the error replies and whether the
connection was shut down. -/
structure SudokuServer where
  inputBuffer : Buffer
  handed : List (List UInt8 × List UInt8)
  replies : List ErrorReply
  shutDown : Bool
  deriving DecidableEq, Repr

namespace SudokuServer

def create (inputBuffer : Buffer) : SudokuServer where
  inputBuffer := inputBuffer
  handed := []
  replies := []
  shutDown := false

/-- The id and the puzzle of a request, which the first colon separates. -/
def splitRequest (request : List UInt8) : List UInt8 × List UInt8 :=
  match request.findIdx? (· = colon) with
  | some position => (request.take position, request.drop (position + 1))
  | none => ([], request)

def processRequest (server : SudokuServer) (request : List UInt8) :
    SudokuServer × Bool :=
  let content := splitRequest request
  if content.2.length = kCells then
    ({ server with handed := server.handed ++ [content] }, true)
  else
    (server, false)

def reject (server : SudokuServer) (reply : ErrorReply) : SudokuServer :=
  { server with replies := server.replies ++ [reply], shutDown := true }

/-- The loop of `onMessage`. `LOG_FATAL` aborts. -/
def handleRequests : Nat → SudokuServer → Checked SudokuServer
  | 0, _ => .error .outOfFuel
  | fuel + 1, server =>
      if kCells + 2 ≤ server.inputBuffer.readableBytes then
        match server.inputBuffer.findCRLF with
        | some crlf => do
            let request := slice server.inputBuffer.buffer server.inputBuffer.peek crlf
            let inputBuffer ← server.inputBuffer.retrieveUntil (crlf + 2)
            let processed := { server with inputBuffer }.processRequest request
            if processed.2 then
              handleRequests fuel processed.1
            else
              return processed.1.reject .badRequest
        | none =>
            if 100 < server.inputBuffer.readableBytes then
              return server.reject .idTooLong
            else
              .error .abort
      else
        return server

/-- Every round of the loop takes at least the two bytes of a terminator. -/
def onMessage (server : SudokuServer) : Checked SudokuServer :=
  handleRequests (server.inputBuffer.readableBytes + 1) server

/-- The connection appends what it has read and calls `onMessage`. -/
def receive (server : SudokuServer) (chunk : List UInt8) : Checked SudokuServer := do
  let inputBuffer ← server.inputBuffer.append chunk
  { server with inputBuffer }.onMessage

def deliver (server : SudokuServer) : List (List UInt8) → Checked SudokuServer
  | [] => .ok server
  | chunk :: chunks => do
      let next ← server.receive chunk
      next.deliver chunks

/-- A new connection that receives the chunks one after the other. -/
def serve (chunks : List (List UInt8)) : Checked SudokuServer := do
  let inputBuffer ← Buffer.create Buffer.kInitialSize
  (create inputBuffer).deliver chunks

end SudokuServer

/-! ## Requests -/

/-- A request line: an optional id and a puzzle. -/
def requestText (id : Option (List UInt8)) (puzzle : List UInt8) : List UInt8 :=
  match id with
  | some id => id ++ colon :: puzzle
  | none => puzzle

structure Request where
  id : Option (List UInt8)
  puzzle : List UInt8
  puzzle_length : puzzle.length = kCells
  id_colon : ∀ text ∈ id, colon ∉ text
  one_line : ¬[Buffer.carriageReturn, Buffer.lineFeed] <:+: requestText id puzzle
  short : (requestText id puzzle).length ≤ 98

namespace Request

def text (request : Request) : List UInt8 :=
  requestText request.id request.puzzle

/-- What the solver should be given. -/
def content (request : Request) : List UInt8 × List UInt8 :=
  (request.id.getD [], request.puzzle)

/-- Without an id the first colon would be taken for the end of one. -/
def Readable (request : Request) : Prop :=
  request.id = none → colon ∉ request.puzzle

instance (request : Request) : Decidable request.Readable :=
  inferInstanceAs (Decidable (_ → _))

end Request

def wire (requests : List Request) : List UInt8 :=
  stream Buffer.carriageReturn Buffer.lineFeed (requests.map Request.text)

/-- No chunk ends when as much of an unfinished line has arrived as the shortest
line has bytes. -/
def CutsSafely (requests : List Request) (chunks : List (List UInt8)) : Prop :=
  ∀ count, pending (requests.map Request.text) (chunks.take count).flatten.length <
    kCells + 2

/-- Without an abort or an error reply the solver is given the requests. -/
def Served (requests : List Request) (chunks : List (List UInt8)) : Prop :=
  ∃ server, SudokuServer.serve chunks = .ok server ∧ server.replies = [] ∧
    server.handed = requests.map Request.content

/-- What has arrived is some whole requests and the beginning of another. -/
theorem exists_split_wire {requests : List Request} {received future : List UInt8}
    (cut : received ++ future = wire requests) :
    ∃ finished rest begun, requests = finished ++ rest ∧
      received = wire finished ++ begun ∧ begun ++ future = wire rest ∧
      Unfinished Buffer.carriageReturn (rest.map Request.text) begun := by
  rcases exists_split cut with
    ⟨finishedLines, restLines, begun, lines, received_eq, begun_eq, unfinished⟩
  rcases List.map_eq_append_iff.mp lines with ⟨finished, rest, same, rfl, rfl⟩
  exact ⟨finished, rest, begun, same, received_eq, begun_eq, unfinished⟩

namespace Request

variable {request : Request}

theorem text_length (request : Request) : kCells ≤ request.text.length := by
  have length := request.puzzle_length
  cases id : request.id with
  | none => simp [text, requestText, id, length]
  | some name =>
      simp [text, requestText, id, length]
      omega

theorem findIdx?_colon {name puzzle : List UInt8} (free : colon ∉ name) :
    (name ++ colon :: puzzle).findIdx? (· = colon) = some name.length := by
  induction name with
  | nil => simp [List.findIdx?_cons]
  | cons byte name induction =>
      simp only [List.mem_cons, not_or] at free
      simp [List.findIdx?_cons, Ne.symm free.1, induction free.2]

theorem split_text (readable : request.Readable) :
    SudokuServer.splitRequest request.text = request.content := by
  unfold SudokuServer.splitRequest text requestText content
  cases id : request.id with
  | some name =>
      simp [findIdx?_colon (request.id_colon name id)]
  | none =>
      have absent : request.puzzle.findIdx? (· = colon) = none := by
        simp only [List.findIdx?_eq_none_iff, decide_eq_false_iff_not]
        rintro byte member rfl
        exact readable id member
      simp [absent]

/-- An unreadable request leaves too short a puzzle. -/
theorem split_text_of_not (unreadable : ¬request.Readable) :
    (SudokuServer.splitRequest request.text).2.length ≠ kCells := by
  simp only [Readable, Classical.not_imp, not_not] at unreadable
  rcases unreadable with ⟨id, member⟩
  have text : request.text = request.puzzle := by simp [text, requestText, id]
  unfold SudokuServer.splitRequest
  rw [text]
  cases found : request.puzzle.findIdx? (· = colon) with
  | none =>
      rw [List.findIdx?_eq_none_iff] at found
      simpa using found colon member
  | some position =>
      simp only [List.length_drop, request.puzzle_length, kCells]
      omega

end Request

/-! ## One call of `onMessage` -/

namespace SudokuServer

variable {server : SudokuServer} {requests : List Request} {begun more : List UInt8}

structure Holds (server : SudokuServer) (content : List UInt8) : Prop where
  wellFormed : server.inputBuffer.WellFormed
  content : server.inputBuffer.content = content

theorem Holds.readableBytes {content : List UInt8} (holds : server.Holds content) :
    server.inputBuffer.readableBytes = content.length := by
  rw [← holds.content, holds.wellFormed.content_length]

theorem handleRequests_short (fuel : Nat) (short : server.inputBuffer.readableBytes < kCells + 2) :
    handleRequests (fuel + 1) server = .ok server := by
  rw [handleRequests, if_neg (Nat.not_le.mpr short)]
  rfl

/-- The loop takes a whole line out of the buffer. -/
theorem handleRequests_line (fuel : Nat) (request : Request)
    (holds : server.Holds
      (terminated Buffer.carriageReturn Buffer.lineFeed request.text ++ more)) :
    ∃ inputBuffer, { server with inputBuffer }.Holds more ∧
      handleRequests (fuel + 1) server =
        let processed := { server with inputBuffer }.processRequest request.text
        if processed.2 then handleRequests fuel processed.1
        else return processed.1.reject .badRequest := by
  have readable := holds.readableBytes
  have length := request.text_length
  have enough : kCells + 2 ≤ server.inputBuffer.readableBytes := by
    rw [readable, List.length_append, terminated_length]
    omega
  rcases Buffer.retrieveLine_ok holds.wellFormed holds.content request.one_line with
    ⟨found, line, inputBuffer, retrieved, wellFormed, content⟩
  refine ⟨inputBuffer, ⟨wellFormed, content⟩, ?_⟩
  rw [handleRequests, if_pos enough, found]
  simp only [line, retrieved, Checked.ok_bind]

theorem processRequest_readable (server : SudokuServer) {request : Request}
    (readable : request.Readable) :
    server.processRequest request.text =
      ({ server with handed := server.handed ++ [request.content] }, true) := by
  have length : request.content.2.length = kCells := request.puzzle_length
  rw [processRequest, Request.split_text readable]
  simp only [length, if_true]

theorem processRequest_unreadable (server : SudokuServer) {request : Request}
    (unreadable : ¬request.Readable) :
    server.processRequest request.text = (server, false) := by
  simp only [processRequest, if_neg (Request.split_text_of_not unreadable)]

theorem handleRequests_readable (fuel : Nat) {request : Request}
    (holds : server.Holds
      (terminated Buffer.carriageReturn Buffer.lineFeed request.text ++ more))
    (readable : request.Readable) :
    ∃ next, handleRequests (fuel + 1) server = handleRequests fuel next ∧
      next.Holds more ∧ next.handed = server.handed ++ [request.content] ∧
      next.replies = server.replies := by
  rcases handleRequests_line fuel request holds with ⟨inputBuffer, kept, handled⟩
  rw [handled, processRequest_readable _ readable]
  exact ⟨_, rfl, ⟨kept.wellFormed, kept.content⟩, rfl, rfl⟩

theorem handleRequests_unreadable (fuel : Nat) {request : Request}
    (holds : server.Holds
      (terminated Buffer.carriageReturn Buffer.lineFeed request.text ++ more))
    (unreadable : ¬request.Readable) :
    ∃ next, handleRequests (fuel + 1) server = .ok next ∧
      next.replies = server.replies ++ [.badRequest] := by
  rcases handleRequests_line fuel request holds with ⟨inputBuffer, _, handled⟩
  rw [handled, processRequest_unreadable _ unreadable]
  exact ⟨_, rfl, rfl⟩

/-- An unfinished line of a request is waited for while it is short. Once it is as
long as the shortest line could be, the process is aborted. -/
theorem handleRequests_unfinished (fuel : Nat) (holds : server.Holds begun)
    (unfinished : Unfinished Buffer.carriageReturn (requests.map Request.text) begun) :
    handleRequests (fuel + 1) server =
      if begun.length < kCells + 2 then .ok server else .error .abort := by
  have readable := holds.readableBytes
  split
  · apply handleRequests_short
    omega
  · have missing : server.inputBuffer.findCRLF = none := by
      rw [Buffer.findCRLF, holds.content]
      rw [searchPair_unfinished (by decide) _ unfinished]
      · rfl
      · intro line member
        rcases List.mem_map.mp member with ⟨request, _, rfl⟩
        exact request.one_line
    have short : begun.length ≤ 99 := by
      cases requests with
      | nil => simp [Unfinished] at unfinished; simp [unfinished]
      | cons request requests =>
          have bound := List.IsPrefix.length_le unfinished
          have limit := request.short
          simp only [List.length_append, List.length_singleton] at bound
          unfold Request.text at bound
          omega
    rw [handleRequests, if_pos (by omega), missing]
    simp only
    rw [if_neg (by omega)]

/-- The loop when all finished lines are readable. -/
theorem handleRequests_finished {fuel : Nat} {finished : List Request}
    (enough : finished.length < fuel) (holds : server.Holds (wire finished ++ begun))
    (unfinished : Unfinished Buffer.carriageReturn (requests.map Request.text) begun)
    (readable : ∀ request ∈ finished, request.Readable) :
    (begun.length < kCells + 2 → ∃ next, handleRequests fuel server = .ok next ∧
      next.Holds begun ∧ next.handed = server.handed ++ finished.map Request.content ∧
      next.replies = server.replies) ∧
    (kCells + 2 ≤ begun.length → handleRequests fuel server = .error .abort) := by
  induction finished generalizing server fuel with
  | nil =>
      cases fuel with
      | zero => exact absurd enough (Nat.not_lt_zero _)
      | succ fuel =>
          have begunHolds : server.Holds begun := holds
          rw [handleRequests_unfinished fuel begunHolds unfinished]
          constructor
          · intro short
            rw [if_pos short]
            exact ⟨server, rfl, holds, by simp, rfl⟩
          · intro long
            rw [if_neg (Nat.not_lt.mpr long)]
  | cons request finished induction =>
      cases fuel with
      | zero => exact absurd enough (Nat.not_lt_zero _)
      | succ fuel =>
          have line : server.Holds (terminated Buffer.carriageReturn Buffer.lineFeed
              request.text ++ (wire finished ++ begun)) := by
            simpa [wire] using holds
          rcases handleRequests_readable fuel line (readable request List.mem_cons_self) with
            ⟨after, handled, kept, handed, replies⟩
          have later := induction (Nat.lt_of_succ_lt_succ enough) kept
            (fun other member => readable other (List.mem_cons_of_mem _ member))
          rw [handled]
          constructor
          · intro short
            rcases later.1 short with ⟨next, ran, nextKept, nextHanded, nextReplies⟩
            refine ⟨next, ran, nextKept, ?_, nextReplies.trans replies⟩
            rw [nextHanded, handed, List.map_cons, List.append_assoc, List.singleton_append]
          · exact later.2

/-- The loop when some finished line is unreadable. -/
theorem handleRequests_rejects {fuel : Nat} {finished : List Request}
    {next : SudokuServer} (holds : server.Holds (wire finished ++ begun))
    (unreadable : ∃ request ∈ finished, ¬request.Readable)
    (handled : handleRequests fuel server = .ok next) : next.replies ≠ [] := by
  induction finished generalizing server fuel with
  | nil => simp at unreadable
  | cons request finished induction =>
      cases fuel with
      | zero => cases handled
      | succ fuel =>
          have line : server.Holds (terminated Buffer.carriageReturn Buffer.lineFeed
              request.text ++ (wire finished ++ begun)) := by
            simpa [wire] using holds
          by_cases readable : request.Readable
          · rcases handleRequests_readable fuel line readable with ⟨after, same, kept, _⟩
            rw [same] at handled
            apply induction kept _ handled
            simpa [readable] using unreadable
          · rcases handleRequests_unreadable fuel line readable with ⟨after, same, replies⟩
            rw [same] at handled
            cases handled
            simp [replies]

theorem processRequest_replies (server : SudokuServer) (request : List UInt8) :
    (server.processRequest request).1.replies = server.replies := by
  simp only [processRequest]
  split <;> rfl

/-- The loop never withdraws a reply. -/
theorem handleRequests_replies {fuel : Nat} {next : SudokuServer}
    (handled : handleRequests fuel server = .ok next) :
    server.replies <+: next.replies := by
  induction fuel generalizing server with
  | zero => cases handled
  | succ fuel induction =>
      rw [handleRequests] at handled
      split at handled
      · split at handled
        · rcases Checked.bind_eq_ok_iff.mp handled with ⟨inputBuffer, _, processing⟩
          dsimp only at processing
          split at processing
          · have kept := induction processing
            rwa [processRequest_replies] at kept
          · cases processing
            rw [reject, processRequest_replies]
            exact List.prefix_append _ _
        · split at handled
          · cases handled
            exact List.prefix_append _ _
          · cases handled
      · cases handled
        exact List.prefix_rfl

theorem receive_replies {chunk : List UInt8} {next : SudokuServer}
    (received : server.receive chunk = .ok next) : server.replies <+: next.replies := by
  rcases Checked.bind_eq_ok_iff.mp received with ⟨inputBuffer, _, handled⟩
  have kept := handleRequests_replies handled
  exact kept

/-! ## All chunks -/

theorem deliver_replies {chunks : List (List UInt8)} {final : SudokuServer}
    (delivered : server.deliver chunks = .ok final) : server.replies <+: final.replies := by
  induction chunks generalizing server with
  | nil =>
      cases delivered
      exact List.prefix_rfl
  | cons chunk chunks induction =>
      rcases Checked.bind_eq_ok_iff.mp delivered with ⟨next, received, later⟩
      exact (receive_replies received).trans (induction later)

/-- `onMessage` with a new chunk in the buffer has fuel enough. -/
theorem receive_eq (holds : server.Holds begun) (chunk : List UInt8) :
    ∃ inputBuffer, { server with inputBuffer }.Holds (begun ++ chunk) ∧
      server.receive chunk =
        handleRequests ((begun ++ chunk).length + 1) { server with inputBuffer } := by
  rcases Buffer.append_ok holds.wellFormed chunk with
    ⟨inputBuffer, appended, wellFormed, content⟩
  have kept : { server with inputBuffer }.Holds (begun ++ chunk) :=
    ⟨wellFormed, by rw [content, holds.content]⟩
  refine ⟨inputBuffer, kept, ?_⟩
  rw [receive, appended, Checked.ok_bind, onMessage, kept.readableBytes]

theorem length_le_wire (requests : List Request) :
    requests.length ≤ (wire requests).length := by
  induction requests with
  | nil => simp
  | cons request requests induction =>
      simp only [wire, List.map_cons, stream_cons, List.length_append, terminated_length,
        List.length_cons] at induction ⊢
      omega

/-- One chunk: the whole requests in what has arrived are handled, and the
beginning of another stays in the buffer. -/
theorem receive_ok {finished : List Request} {chunk next : List UInt8}
    (holds : server.Holds begun) (arrived : begun ++ chunk = wire finished ++ next)
    (unfinished : Unfinished Buffer.carriageReturn (requests.map Request.text) next)
    (readable : ∀ request ∈ finished, request.Readable) :
    (next.length < kCells + 2 → ∃ after, server.receive chunk = .ok after ∧
      after.Holds next ∧ after.handed = server.handed ++ finished.map Request.content ∧
      after.replies = server.replies) ∧
    (kCells + 2 ≤ next.length → server.receive chunk = .error .abort) := by
  rcases receive_eq holds chunk with ⟨inputBuffer, kept, received⟩
  rw [received]
  rw [arrived] at kept ⊢
  have counted := length_le_wire finished
  apply handleRequests_finished _ kept unfinished readable
  rw [List.length_append]
  omega

theorem receive_rejects {finished : List Request} {chunk next : List UInt8}
    {after : SudokuServer} (holds : server.Holds begun)
    (arrived : begun ++ chunk = wire finished ++ next)
    (unreadable : ∃ request ∈ finished, ¬request.Readable)
    (received : server.receive chunk = .ok after) : after.replies ≠ [] := by
  rcases receive_eq holds chunk with ⟨inputBuffer, kept, handled⟩
  rw [handled] at received
  rw [arrived] at kept
  exact handleRequests_rejects kept unreadable received

/-- After a chunk the same is pending, counted from the first request of the rest. -/
theorem pending_after_chunk {finished : List Request} {chunk next : List UInt8}
    (rest : List Request) (chunks : List (List UInt8))
    (arrived : begun ++ chunk = wire finished ++ next) (count : Nat) :
    pending ((finished ++ rest).map Request.text)
        (begun.length + ((chunk :: chunks).take (count + 1)).flatten.length) =
      pending (rest.map Request.text) (next.length + (chunks.take count).flatten.length) := by
  have counted : begun.length + ((chunk :: chunks).take (count + 1)).flatten.length =
      (wire finished).length + (next.length + (chunks.take count).flatten.length) := by
    have lengths := congrArg List.length arrived
    simp only [List.length_append] at lengths
    simp only [List.take_succ_cons, List.flatten_cons, List.length_append]
    omega
  rw [List.map_append, counted]
  exact pending_finished _ _ _

/-- The chunks to come, when `begun` has arrived of the requests. -/
theorem deliver_iff {chunks : List (List UInt8)} (holds : server.Holds begun)
    (unfinished : Unfinished Buffer.carriageReturn (requests.map Request.text) begun)
    (short : begun.length < kCells + 2) (silent : server.replies = [])
    (cut : begun ++ chunks.flatten = wire requests) :
    (∃ final, server.deliver chunks = .ok final ∧ final.replies = [] ∧
      final.handed = server.handed ++ requests.map Request.content) ↔
    (∀ count, pending (requests.map Request.text)
      (begun.length + (chunks.take count).flatten.length) < kCells + 2) ∧
    ∀ request ∈ requests, request.Readable := by
  induction chunks generalizing server requests begun with
  | nil =>
      have whole : begun = wire requests := by simpa using cut
      have served : requests = [] := by
        rw [whole] at unfinished
        simpa using unfinished.eq_nil
      subst served
      constructor
      · intro _
        simpa [pending] using short
      · intro _
        exact ⟨server, rfl, silent, by simp⟩
  | cons chunk chunks induction =>
      have arrival : begun ++ chunk ++ chunks.flatten = wire requests := by
        simpa using cut
      rcases exists_split_wire arrival with
        ⟨finished, rest, next, rfl, arrived, later, nextUnfinished⟩
      have shifted := fun count => pending_after_chunk rest chunks arrived count
      by_cases readable : ∀ request ∈ finished, request.Readable
      · have received := receive_ok holds arrived nextUnfinished readable
        by_cases nextShort : next.length < kCells + 2
        · rcases received.1 nextShort with ⟨after, ran, kept, handed, replies⟩
          have step := induction kept nextUnfinished nextShort (replies.trans silent) later
          have delivers : server.deliver (chunk :: chunks) = after.deliver chunks := by
            rw [deliver, ran, Checked.ok_bind]
          rw [delivers, List.map_append, ← List.append_assoc, ← handed, step]
          constructor
          · rintro ⟨safe, restReadable⟩
            constructor
            · intro count
              cases count with
              | zero =>
                  simp only [List.take_zero, List.flatten_nil, List.length_nil, Nat.add_zero]
                  rwa [unfinished.pending]
              | succ count =>
                  rw [shifted]
                  exact safe count
            · intro request member
              exact (List.mem_append.mp member).elim (readable request) (restReadable request)
          · rintro ⟨safe, allReadable⟩
            constructor
            · intro count
              rw [← shifted]
              exact safe (count + 1)
            · intro request member
              exact allReadable request (List.mem_append_right _ member)
        · have aborts := received.2 (Nat.le_of_not_lt nextShort)
          constructor
          · rintro ⟨final, delivered, _⟩
            rw [deliver, aborts] at delivered
            cases delivered
          · rintro ⟨safe, _⟩
            have here := safe 1
            rw [shifted 0] at here
            simp only [List.take_zero, List.flatten_nil, List.length_nil, Nat.add_zero,
              nextUnfinished.pending] at here
            exact absurd here nextShort
      · have unreadable : ∃ request ∈ finished, ¬request.Readable := by
          simpa using readable
        constructor
        · rintro ⟨final, delivered, noReply, _⟩
          rcases Checked.bind_eq_ok_iff.mp delivered with ⟨after, received, remaining⟩
          have kept := deliver_replies remaining
          rw [noReply, List.prefix_nil] at kept
          exact absurd kept (receive_rejects holds arrived unreadable received)
        · rintro ⟨_, all⟩
          apply absurd _ readable
          intro request member
          exact all request (List.mem_append_left _ member)

/-- The requests are served, however they are cut into chunks, exactly when each
can be told from its id and no chunk leaves as much of an unfinished line as the
shortest request has bytes. -/
theorem served_iff (requests : List Request) (chunks : List (List UInt8))
    (cut : chunks.flatten = wire requests) :
    Served requests chunks ↔
      CutsSafely requests chunks ∧ ∀ request ∈ requests, request.Readable := by
  have started := Buffer.create_eq_ok Buffer.kInitialSize
  have fresh := Buffer.create_wellFormed started
  have holds : (create _).Holds [] := ⟨fresh.1, fresh.2⟩
  have unfinished :
      Unfinished Buffer.carriageReturn (requests.map Request.text) [] := by
    cases requests with
    | nil => rfl
    | cons request requests => exact List.nil_prefix
  have delivered := deliver_iff holds unfinished (by decide) rfl cut
  unfold Served CutsSafely serve
  rw [started, Checked.ok_bind]
  simpa [create] using delivered

/-- The request for the empty puzzle with the id 1. -/
def emptyPuzzle : Request where
  id := some [49]
  puzzle := List.replicate kCells 48
  puzzle_length := by decide
  id_colon := by simp [colon]
  one_line := by decide +kernel
  short := by decide

/-- A line that arrives with its terminator, and one cut after 40 bytes. -/
theorem served_iff_halves : Served [emptyPuzzle, emptyPuzzle]
    [wire [emptyPuzzle] ++ emptyPuzzle.text.take 40,
      emptyPuzzle.text.drop 40 ++ [Buffer.carriageReturn, Buffer.lineFeed]] := by
  apply (served_iff _ _ (by decide +kernel)).mpr
  constructor
  · intro count
    rcases count with _ | _ | count
    · decide +kernel
    · decide +kernel
    · rw [List.take_of_length_le (by simp)]
      decide +kernel
  · simp [Request.Readable, emptyPuzzle]

/-- The line arrives before its terminator: the process is aborted. -/
theorem abort_before_terminator :
    [emptyPuzzle.text, [Buffer.carriageReturn, Buffer.lineFeed]].flatten =
        wire [emptyPuzzle] ∧
      serve [emptyPuzzle.text, [Buffer.carriageReturn, Buffer.lineFeed]] =
        .error .abort ∧
      ¬Served [emptyPuzzle] [emptyPuzzle.text, [Buffer.carriageReturn, Buffer.lineFeed]] := by
  have aborts : serve [emptyPuzzle.text, [Buffer.carriageReturn, Buffer.lineFeed]] =
      .error .abort := by decide +kernel
  refine ⟨by decide +kernel, aborts, ?_⟩
  rintro ⟨server, served, _⟩
  rw [aborts] at served
  cases served

end SudokuServer

end Ccnet.Sudoku
