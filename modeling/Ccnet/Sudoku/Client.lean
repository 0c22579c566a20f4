import Ccnet.Sudoku.Correctness
import Ccnet.Sudoku.Server

namespace Ccnet.Sudoku

open Ccnet.Net
open Ccnet.Framing

/-! The response handling of `net/sudoku/batch.cc`: the client counts response
lines, which arrive in pieces of any size, until it has one for each request. -/

def verify (_ : List UInt8) : Bool := true

/-- One client: the input buffer, the size of `input_`, the responses counted, the
counts that `cb_` was called with and whether the connection was shut down. -/
structure SudokuClient where
  inputBuffer : Buffer
  requests : Nat
  count : Nat
  completions : List Nat
  shutDown : Bool
  deriving DecidableEq, Repr

namespace SudokuClient

def create (requests : Nat) (inputBuffer : Buffer) : SudokuClient where
  inputBuffer := inputBuffer
  requests := requests
  count := 0
  completions := []
  shutDown := false

/-- The loop of `onMessage`. -/
def handleResponses : Nat → SudokuClient → Checked SudokuClient
  | 0, _ => .error .outOfFuel
  | fuel + 1, client =>
      if kCells + 2 ≤ client.inputBuffer.readableBytes then
        match client.inputBuffer.findCRLF with
        | some crlf => do
            let response := slice client.inputBuffer.buffer client.inputBuffer.peek crlf
            let inputBuffer ← client.inputBuffer.retrieveUntil (crlf + 2)
            let counted := { client with inputBuffer, count := client.count + 1 }
            if verify response then
              handleResponses fuel counted
            else
              return { counted with shutDown := true }
        | none =>
            if 100 < client.inputBuffer.readableBytes then
              return { client with shutDown := true }
            else
              return client
      else
        return client

/-- The end of `onMessage`: with all responses counted, the caller is told. -/
def tellDone (client : SudokuClient) : SudokuClient :=
  if client.count = client.requests then
    { client with
      completions := client.completions ++ [client.count]
      shutDown := true }
  else
    client

def onMessage (client : SudokuClient) : Checked SudokuClient := do
  let handled ← handleResponses (client.inputBuffer.readableBytes + 1) client
  return handled.tellDone

/-- The connection appends what it has read and calls `onMessage`. -/
def receive (client : SudokuClient) (chunk : List UInt8) : Checked SudokuClient := do
  let inputBuffer ← client.inputBuffer.append chunk
  { client with inputBuffer }.onMessage

def deliver (client : SudokuClient) : List (List UInt8) → Checked SudokuClient
  | [] => .ok client
  | chunk :: chunks => do
      let next ← client.receive chunk
      next.deliver chunks

/-- A client with so many requests that receives the chunks one after the other. -/
def collect (requests : Nat) (chunks : List (List UInt8)) : Checked SudokuClient := do
  let inputBuffer ← Buffer.create Buffer.kInitialSize
  (create requests inputBuffer).deliver chunks

end SudokuClient

/-! ## Responses -/

/-- What `SudokuServer::solve` sends, up to the terminator. -/
def responseText (id result : List UInt8) : List UInt8 :=
  if id = [] then result else id ++ colon :: result

/-- A response of the server. The id was part of a line. -/
structure Response where
  id : List UInt8
  result : List UInt8
  result_form : DigitString result ∨ result = kNoSolution
  one_line : ¬[Buffer.carriageReturn, Buffer.lineFeed] <:+: responseText id result
  short : (responseText id result).length ≤ 98

namespace Response

def text (response : Response) : List UInt8 :=
  responseText response.id response.result

def bytes (responses : List Response) : List UInt8 :=
  stream Buffer.carriageReturn Buffer.lineFeed (responses.map Response.text)

@[simp] theorem bytes_cons (response : Response) (responses : List Response) :
    bytes (response :: responses) =
      terminated Buffer.carriageReturn Buffer.lineFeed response.text ++ bytes responses := by
  simp [bytes]

theorem bytes_append (responses later : List Response) :
    bytes (responses ++ later) = bytes responses ++ bytes later := by
  simp [bytes, stream]

theorem length_le_bytes (responses : List Response) :
    responses.length ≤ (bytes responses).length := by
  induction responses with
  | nil => simp
  | cons response responses induction =>
      rw [bytes_cons, List.length_append, terminated_length, List.length_cons]
      omega

theorem exists_split_bytes {responses : List Response} {received future : List UInt8}
    (cut : received ++ future = bytes responses) :
    ∃ finished rest begun, responses = finished ++ rest ∧
      received = bytes finished ++ begun ∧ begun ++ future = bytes rest ∧
      Unfinished Buffer.carriageReturn (rest.map Response.text) begun := by
  rcases exists_split cut with
    ⟨finishedLines, restLines, begun, lines, received_eq, begun_eq, unfinished⟩
  rcases List.map_eq_append_iff.mp lines with ⟨finished, rest, same, rfl, rfl⟩
  exact ⟨finished, rest, begun, same, received_eq, begun_eq, unfinished⟩

/-- The whole responses that stay in the buffer, with so much of another behind
them: the loop stops when fewer bytes are left than a solved puzzle takes. -/
def unread : List Response → Nat → List Response
  | [], _ => []
  | response :: responses, begun =>
      if kCells + 2 ≤ (bytes (response :: responses)).length + begun then
        unread responses begun
      else
        response :: responses

theorem unread_suffix (responses : List Response) (begun : Nat) :
    unread responses begun <:+ responses := by
  induction responses with
  | nil => exact List.suffix_rfl
  | cons response responses induction =>
      rw [unread]
      split
      · exact induction.trans (List.suffix_cons _ _)
      · exact List.suffix_rfl

/-- With nothing behind it, the last response is read exactly when it is as long as
a solved puzzle. -/
theorem unread_concat_eq_nil_iff (responses : List Response) (last : Response) :
    unread (responses ++ [last]) 0 = [] ↔ kCells ≤ last.text.length := by
  induction responses with
  | nil => simp [unread, bytes]
  | cons response responses induction =>
      rw [List.cons_append, unread]
      split
      · exact induction
      · rename_i short
        simp only [bytes_cons, bytes_append, List.length_append, terminated_length] at short
        simp only [List.cons_ne_nil, false_iff]
        omega

end Response

/-- The last chunk, and no other, makes the client call `cb_`, once and with the
number of responses, which it has then counted. -/
def Collected (responses : List Response) (chunks : List (List UInt8)) : Prop :=
  ∃ earlier lastChunk client final, chunks = earlier ++ [lastChunk] ∧
    SudokuClient.collect responses.length earlier = .ok client ∧
    client.completions = [] ∧ client.receive lastChunk = .ok final ∧
    final.count = responses.length ∧ final.completions = [responses.length]

/-! ## One call of `onMessage` -/

namespace SudokuClient

open Response

variable {client : SudokuClient} {responses finished rest : List Response}
  {begun more chunk future : List UInt8}

structure Holds (client : SudokuClient) (content : List UInt8) : Prop where
  wellFormed : client.inputBuffer.WellFormed
  content : client.inputBuffer.content = content

theorem Holds.readableBytes {content : List UInt8} (holds : client.Holds content) :
    client.inputBuffer.readableBytes = content.length := by
  rw [← holds.content, holds.wellFormed.content_length]

/-- A whole line is counted when enough bytes follow it. -/
theorem handleResponses_line (fuel : Nat) (response : Response)
    (holds : client.Holds
      (terminated Buffer.carriageReturn Buffer.lineFeed response.text ++ more))
    (enough : kCells + 2 ≤ client.inputBuffer.readableBytes) :
    ∃ inputBuffer, { client with inputBuffer }.Holds more ∧
      handleResponses (fuel + 1) client =
        handleResponses fuel { client with inputBuffer, count := client.count + 1 } := by
  rcases Buffer.retrieveLine_ok holds.wellFormed holds.content response.one_line with
    ⟨found, _, inputBuffer, retrieved, wellFormed, content⟩
  refine ⟨inputBuffer, ⟨wellFormed, content⟩, ?_⟩
  rw [handleResponses, if_pos enough, found]
  simp only [retrieved, Checked.ok_bind, verify, if_true]

/-- An unfinished line of a response is waited for. -/
theorem handleResponses_unfinished (fuel : Nat) (holds : client.Holds begun)
    (unfinished : Unfinished Buffer.carriageReturn (rest.map Response.text) begun) :
    handleResponses (fuel + 1) client = .ok client := by
  rw [handleResponses]
  split
  · have missing : client.inputBuffer.findCRLF = none := by
      rw [Buffer.findCRLF, holds.content]
      rw [searchPair_unfinished (by decide) _ unfinished]
      · rfl
      · intro line member
        rcases List.mem_map.mp member with ⟨response, _, rfl⟩
        exact response.one_line
    have short : client.inputBuffer.readableBytes ≤ 99 := by
      rw [holds.readableBytes]
      cases rest with
      | nil =>
          rw [List.map_nil, Unfinished] at unfinished
          simp [unfinished]
      | cons response rest =>
          have bound := List.IsPrefix.length_le unfinished
          have limit : response.text.length ≤ 98 := response.short
          rw [List.length_append, List.length_singleton] at bound
          omega
    rw [missing]
    simp only
    rw [if_neg (by omega)]
    rfl
  · rfl

/-- The loop reads what `unread` leaves. -/
theorem handleResponses_ok {fuel : Nat} (enough : finished.length < fuel)
    (holds : client.Holds (bytes finished ++ begun))
    (unfinished : Unfinished Buffer.carriageReturn (rest.map Response.text) begun) :
    ∃ next, handleResponses fuel client = .ok next ∧
      next.Holds (bytes (unread finished begun.length) ++ begun) ∧
      next.count + (unread finished begun.length).length =
        client.count + finished.length ∧
      next.requests = client.requests ∧ next.completions = client.completions := by
  induction finished generalizing client fuel with
  | nil =>
      cases fuel with
      | zero => exact absurd enough (Nat.not_lt_zero _)
      | succ fuel =>
          have begunHolds : client.Holds begun := holds
          exact ⟨client, handleResponses_unfinished fuel begunHolds unfinished, holds, rfl,
            rfl, rfl⟩
  | cons response finished induction =>
      cases fuel with
      | zero => exact absurd enough (Nat.not_lt_zero _)
      | succ fuel =>
          have readable := holds.readableBytes
          rw [List.length_append] at readable
          rw [unread]
          split
          · rename_i long
            have line : client.Holds (terminated Buffer.carriageReturn Buffer.lineFeed
                response.text ++ (bytes finished ++ begun)) := by
              simpa using holds
            rcases handleResponses_line fuel response line (by omega) with
              ⟨inputBuffer, kept, handled⟩
            have counted : { client with inputBuffer, count := client.count + 1 }.Holds
                (bytes finished ++ begun) := ⟨kept.wellFormed, kept.content⟩
            rcases induction (Nat.lt_of_succ_lt_succ enough) counted with
              ⟨next, ran, nextHolds, count, requests, completions⟩
            refine ⟨next, handled.trans ran, nextHolds, ?_, requests, completions⟩
            rw [count, List.length_cons, Nat.add_right_comm, Nat.add_assoc]
          · rename_i short
            refine ⟨client, ?_, holds, rfl, rfl, rfl⟩
            rw [handleResponses, if_neg (by omega)]
            rfl

@[simp] theorem tellDone_inputBuffer (client : SudokuClient) :
    client.tellDone.inputBuffer = client.inputBuffer := by
  rw [tellDone]
  split <;> rfl

@[simp] theorem tellDone_requests (client : SudokuClient) :
    client.tellDone.requests = client.requests := by
  rw [tellDone]
  split <;> rfl

@[simp] theorem tellDone_count (client : SudokuClient) :
    client.tellDone.count = client.count := by
  rw [tellDone]
  split <;> rfl

theorem tellDone_completions (client : SudokuClient) :
    client.tellDone.completions = client.completions ++
      if client.count = client.requests then [client.requests] else [] := by
  rw [tellDone]
  split
  · rename_i all
    rw [all]
  · exact (List.append_nil _).symm

/-! ## All chunks -/

/-- What a client still has to count, with the bytes to come: whole responses that
it holds already, and others of which it holds a beginning. -/
structure Awaits (client : SudokuClient) (responses : List Response)
    (future : List UInt8) : Prop where
  held : ∃ kept rest begun, responses = kept ++ rest ∧
    client.Holds (bytes kept ++ begun) ∧ begun ++ future = bytes rest
  counted : client.count + responses.length = client.requests

theorem Awaits.ne_nil (awaits : client.Awaits responses future) (more : future ≠ []) :
    responses ≠ [] := by
  rcases awaits.held with ⟨kept, rest, begun, rfl, _, cut⟩
  intro none
  rw [(List.append_eq_nil_iff.mp none).2] at cut
  exact more (List.append_eq_nil_iff.mp cut).2

/-- One chunk: some of the awaited responses are counted, and `cb_` is called when
none is left. -/
theorem receive_ok (awaits : client.Awaits responses (chunk ++ future)) :
    ∃ next left, client.receive chunk = .ok next ∧ left <:+ responses ∧
      next.Awaits left future ∧ next.requests = client.requests ∧
      (future = [] → left = unread responses 0) ∧
      next.completions = client.completions ++
        if left = [] then [client.requests] else [] := by
  rcases awaits.held with ⟨kept, rest, begun, rfl, holds, cut⟩
  rw [← List.append_assoc] at cut
  rcases exists_split_bytes cut with
    ⟨finished, later, nextBegun, rfl, arrived, nextCut, unfinished⟩
  rcases Buffer.append_ok holds.wellFormed chunk with
    ⟨inputBuffer, appended, wellFormed, content⟩
  have filled : { client with inputBuffer }.Holds (bytes (kept ++ finished) ++ nextBegun) := by
    refine ⟨wellFormed, ?_⟩
    rw [content, holds.content, List.append_assoc, arrived, bytes_append, List.append_assoc]
  have enough : (kept ++ finished).length <
      { client with inputBuffer }.inputBuffer.readableBytes + 1 := by
    have bound := length_le_bytes (kept ++ finished)
    have whole : (bytes (kept ++ finished)).length ≤
        (bytes (kept ++ finished) ++ nextBegun).length := by simp
    rw [filled.readableBytes]
    omega
  rcases handleResponses_ok enough filled unfinished with
    ⟨handled, ran, handledHolds, count, requests, completions⟩
  have received : client.receive chunk = .ok handled.tellDone := by
    rw [receive, appended, Checked.ok_bind, onMessage, ran, Checked.ok_bind]
    rfl
  have counted := awaits.counted
  simp only [List.length_append] at count counted requests completions
  have all : handled.count = handled.requests ↔
      unread (kept ++ finished) nextBegun.length ++ later = [] := by
    rw [← List.length_eq_zero_iff, List.length_append]
    omega
  refine ⟨_, unread (kept ++ finished) nextBegun.length ++ later, received, ?_, ?_, ?_, ?_, ?_⟩
  · rcases unread_suffix (kept ++ finished) nextBegun.length with ⟨read, same⟩
    exact ⟨read, by rw [← List.append_assoc, same, List.append_assoc]⟩
  · refine ⟨⟨_, later, nextBegun, rfl, ⟨?_, ?_⟩, nextCut⟩, ?_⟩
    · rw [tellDone_inputBuffer]
      exact handledHolds.wellFormed
    · rw [tellDone_inputBuffer]
      exact handledHolds.content
    · rw [tellDone_count, tellDone_requests, List.length_append]
      omega
  · rw [tellDone_requests, requests]
  · intro last
    rw [last, List.append_nil] at nextCut
    rw [nextCut] at unfinished
    have ended : later = [] := by simpa using unfinished.eq_nil
    rw [nextCut, ended]
    simp [bytes]
  · rw [tellDone_completions, completions, requests]
    simp only [← requests, all]

/-- The chunks before the last leave some response to count. -/
theorem deliver_ok {chunks : List (List UInt8)}
    (awaits : client.Awaits responses (chunks.flatten ++ future)) (more : future ≠ []) :
    ∃ next left, client.deliver chunks = .ok next ∧ left <:+ responses ∧
      next.Awaits left future ∧ next.requests = client.requests ∧
      next.completions = client.completions := by
  induction chunks generalizing client responses with
  | nil => exact ⟨client, responses, rfl, List.suffix_rfl, awaits, rfl, rfl⟩
  | cons chunk chunks induction =>
      rw [List.flatten_cons, List.append_assoc] at awaits
      rcases receive_ok awaits with
        ⟨after, left, received, suffix, afterAwaits, requests, _, completions⟩
      rw [if_neg (afterAwaits.ne_nil (by simp [more])), List.append_nil] at completions
      rcases induction afterAwaits with
        ⟨next, nextLeft, delivered, nextSuffix, nextAwaits, nextRequests, nextCompletions⟩
      refine ⟨next, nextLeft, ?_, nextSuffix.trans suffix, nextAwaits,
        nextRequests.trans requests, nextCompletions.trans completions⟩
      rw [deliver, received, Checked.ok_bind, delivered]

theorem deliver_concat {chunks : List (List UInt8)} {next final : SudokuClient}
    (delivered : client.deliver chunks = .ok next) (received : next.receive chunk = .ok final) :
    client.deliver (chunks ++ [chunk]) = .ok final := by
  induction chunks generalizing client with
  | nil =>
      cases delivered
      rw [List.nil_append, deliver, received, Checked.ok_bind, deliver]
  | cons first chunks induction =>
      rcases Checked.bind_eq_ok_iff.mp delivered with ⟨after, ran, later⟩
      rw [List.cons_append, deliver, ran, Checked.ok_bind, induction later]

theorem counted_of_collected {chunks : List (List UInt8)} (collected : Collected responses chunks) :
    ∃ final, collect responses.length chunks = .ok final ∧
      final.count = responses.length := by
  rcases collected with ⟨earlier, lastChunk, client, final, rfl, ran, _, ended, count, _⟩
  rcases Checked.bind_eq_ok_iff.mp ran with ⟨inputBuffer, created, delivered⟩
  refine ⟨final, ?_, count⟩
  rw [collect, created, Checked.ok_bind, deliver_concat delivered ended]

/-- However the responses are cut into chunks, all of them are counted and `cb_` is
called once, when the last has arrived, exactly when the last response is at least
as long as a solved puzzle. -/
theorem collected_iff (responses : List Response) (last : Response)
    (chunks : List (List UInt8)) (nonempty : ∀ chunk ∈ chunks, chunk ≠ [])
    (cut : chunks.flatten = bytes (responses ++ [last])) :
    Collected (responses ++ [last]) chunks ↔ kCells ≤ last.text.length := by
  have started := Buffer.create_eq_ok Buffer.kInitialSize
  have fresh := Buffer.create_wellFormed started
  rcases List.eq_nil_or_concat chunks with rfl | ⟨earlier, lastChunk, rfl⟩
  · have bound := length_le_bytes (responses ++ [last])
    rw [← cut] at bound
    simp at bound
  rw [List.concat_eq_append] at nonempty cut ⊢
  have some : lastChunk ≠ [] := nonempty lastChunk (by simp)
  have awaits : (create (responses ++ [last]).length _).Awaits (responses ++ [last])
      (earlier.flatten ++ lastChunk) :=
    ⟨⟨[], _, [], rfl, ⟨fresh.1, fresh.2⟩, by simpa using cut⟩, Nat.zero_add _⟩
  rcases deliver_ok awaits some with
    ⟨client, left, delivered, suffix, clientAwaits, requests, completions⟩
  have left_ne := clientAwaits.ne_nil some
  rw [← List.append_nil lastChunk] at clientAwaits
  rcases receive_ok clientAwaits with
    ⟨final, unreadLeft, received, _, finalAwaits, finalRequests, unread_eq, finalCompletions⟩
  have remaining : unreadLeft = [] ↔ kCells ≤ last.text.length := by
    rcases (List.suffix_concat_iff.mp suffix).resolve_left left_ne with ⟨front, rfl, _⟩
    rw [unread_eq rfl, unread_concat_eq_nil_iff]
  have counted := finalAwaits.counted
  have collected : collect (responses ++ [last]).length earlier = .ok client := by
    rw [collect, started, Checked.ok_bind, delivered]
  have total : final.requests = (responses ++ [last]).length := finalRequests.trans requests
  rw [total] at counted
  rw [← remaining]
  constructor
  · rintro ⟨earlier', lastChunk', client', final', same, ran, _, ended, count, _⟩
    rcases List.append_inj' same rfl with ⟨rfl, lastSame⟩
    cases lastSame
    cases collected.symm.trans ran
    cases received.symm.trans ended
    rw [← List.length_eq_zero_iff]
    omega
  · intro none
    rw [if_pos none, completions, requests] at finalCompletions
    refine ⟨earlier, lastChunk, client, final, rfl, collected, completions, received, ?_,
      finalCompletions⟩
    rw [none] at counted
    exact counted

/-- A response of 81 digits, with the id 1. -/
def solved : Response where
  id := [49]
  result := List.replicate kCells 49
  result_form := .inl ⟨List.length_replicate, fun _ digit =>
    List.eq_of_mem_replicate digit ▸ by decide⟩
  one_line := by decide +kernel
  short := by decide

def unsolved : Response where
  id := []
  result := kNoSolution
  result_form := .inr rfl
  one_line := by decide +kernel
  short := by decide

/-- A short response ahead of a long one, which is cut after 40 bytes. -/
theorem collected_iff_solved_last : Collected ([unsolved] ++ [solved])
    [bytes [unsolved] ++ solved.text.take 40,
      solved.text.drop 40 ++ [Buffer.carriageReturn, Buffer.lineFeed]] :=
  (collected_iff [unsolved] solved _ (by decide +kernel) (by decide +kernel)).mpr (by decide)

/-- A last response without a solution stays in the buffer: it is never counted and
`cb_` is never called. -/
theorem unsolved_last_uncounted :
    [bytes [solved], bytes [unsolved]].flatten = bytes [solved, unsolved] ∧
    (∃ client, collect 2 [bytes [solved], bytes [unsolved]] = .ok client ∧
      client.count = 1 ∧ client.completions = [] ∧
      client.inputBuffer.content = bytes [unsolved]) ∧
    ¬Collected [solved, unsolved] [bytes [solved], bytes [unsolved]] := by
  have outcome : (collect 2 [bytes [solved], bytes [unsolved]]).map
      (fun client => (client.count, client.completions, client.inputBuffer.content)) =
        .ok (1, [], bytes [unsolved]) := by decide +kernel
  cases ran : collect 2 [bytes [solved], bytes [unsolved]] with
  | error fault =>
      rw [ran] at outcome
      cases outcome
  | ok client =>
      rw [ran] at outcome
      simp only [Except.map, Except.ok.injEq, Prod.mk.injEq] at outcome
      refine ⟨by decide +kernel, ⟨client, rfl, outcome⟩, ?_⟩
      intro collected
      rcases counted_of_collected collected with ⟨final, same, count⟩
      cases ran.symm.trans same
      rw [outcome.1] at count
      cases count

end SudokuClient

end Ccnet.Sudoku
