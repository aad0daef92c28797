import SeriesCatalog.Service.Basic
import SeriesCatalog.Transport.Arrival

/-!
# Sessions

Input: lines with one request each.  Output: one answer on a line for each of them.

A session has four parts that move independently: the reader, which starts a task for each
request; the tasks, which finish in any order; a channel, in which a bounded number of
tasks wait in the order of their requests; and the writer, which takes one task after the
other, waits for its answer and writes it.  The output takes an answer in pieces of any
size, and may refuse to take more at any time.

* `Move`, `State.step`: what the parts can do, and what comes of it.
* `Reaches`: the states after any number of moves.
* `State.result?`: what a session comes to.
* `serve`: the session in which every part moves as soon as it can.
-/

namespace SeriesCatalog
namespace Transport

/-- The number of tasks that may wait in the channel. -/
def channelCapacity : Nat := 64

def answerLine (e : Envelope) : String :=
  e.line ++ "\n"

/-- What a task comes to. -/
inductive TaskResult
  | answered (e : Envelope)
  | brokeOff (b : Breakdown)

namespace TaskResult

/-- The answer that is written for a task. -/
def envelope : TaskResult → Envelope
  | answered e => e
  | brokeOff b => .ofError (.task b)

/-- The octets that are written for a task. -/
def octets (r : TaskResult) : List UInt8 :=
  Text.Utf8.encode (answerLine r.envelope)

theorem octets_ne_nil (r : TaskResult) : r.octets ≠ [] := by
  apply List.ne_nil_of_length_pos
  have hbreak : 0 < "\n".utf8ByteSize := by decide
  simp only [octets, answerLine, Text.Utf8.length_encode, String.utf8ByteSize_append]
  omega

end TaskResult

/-- What the reader is doing. -/
inductive ReaderState
  | reading
  /-- It has read the last line. -/
  | ended
  /-- It found that the channel takes no more tasks. -/
  | turnedAway
  /-- It met a line that cannot be read. -/
  | failed (complaint : String)
deriving DecidableEq, Repr

/-- What the writer is doing. -/
inductive WriterState
  /-- It has no task. -/
  | idle
  /-- It waits for the answer of a task. -/
  | awaiting (task : Nat)
  /-- It has these octets of an answer left. -/
  | writing (rest : List UInt8)
  | ended
  | failed (complaint : String)
deriving DecidableEq, Repr

/-- A session.  Tasks are numbered in the order of their requests. -/
structure State where
  /-- The lines not yet read. -/
  unread : List Arrival
  /-- The requests of the tasks started. -/
  requests : List String
  /-- What each task has come to. -/
  results : List (Option TaskResult)
  /-- The task that waits for room in the channel. -/
  offered? : Option Nat
  /-- The tasks in the channel. -/
  channel : List Nat
  /-- The pieces of answers that the output has taken. -/
  pieces : List (List UInt8)
  /-- The number of answers written to their end. -/
  answered : Nat
  reader : ReaderState
  writer : WriterState

/-- A session in which nothing has happened. -/
def State.start (unread : List Arrival) : State :=
  { unread := unread, requests := [], results := [], offered? := none, channel := []
    pieces := [], answered := 0, reader := .reading, writer := .idle }

/-- A move of one part of a session. -/
inductive Move
  /-- The reader reads a line. -/
  | read
  /-- The reader hands over a task. -/
  | send
  | finish (task : Nat) (result : TaskResult)
  /-- The writer takes a task. -/
  | receive
  /-- The writer gets the answer it waits for. -/
  | compose
  /-- The output takes a number of octets. -/
  | write (count : Nat)
  /-- The output takes no more octets. -/
  | refuse (complaint : String)
  /-- The writer ends, unless the output complains. -/
  | flush (complaint? : Option String)

/-- What the output complains about in a move. -/
def Move.complaint? : Move → Option String
  | .refuse c => some c
  | .flush c => c
  | _ => none

namespace State

/-- The octets that the output has taken. -/
def output (s : State) : List UInt8 :=
  s.pieces.flatten

def read? (s : State) : Option State :=
  match s.reader, s.offered? with
  | .reading, none =>
      match s.unread with
      | [] => some { s with reader := .ended }
      | .unreadable complaint :: _ => some { s with reader := .failed complaint }
      | .line t :: l =>
          if Text.isBlankText t then some { s with unread := l }
          else some
            { s with
              unread := l
              requests := s.requests ++ [t]
              results := s.results ++ [none]
              offered? := some s.requests.length }
  | _, _ => none

/-- Hands over the task that is offered, if there is room or nobody to take it. -/
def send? (s : State) : Option State :=
  match s.reader, s.offered? with
  | .reading, some task =>
      match s.writer with
      | .failed _ => some { s with offered? := none, reader := .turnedAway }
      | _ =>
          if s.channel.length < channelCapacity then
            some { s with offered? := none, channel := s.channel ++ [task] }
          else none
  | _, _ => none

def finish? (task : Nat) (result : TaskResult) (s : State) : Option State :=
  match s.results[task]? with
  | some none => some { s with results := s.results.set task (some result) }
  | _ => none

/-- Takes the next task out of the channel. -/
def receive? (s : State) : Option State :=
  match s.writer, s.channel with
  | .idle, task :: l => some { s with writer := .awaiting task, channel := l }
  | _, _ => none

/-- Begins the answer of the task that the writer waits for. -/
def compose? (s : State) : Option State :=
  match s.writer with
  | .awaiting task =>
      match s.results[task]? with
      | some (some result) => some { s with writer := .writing result.octets }
      | _ => none
  | _ => none

/-- Takes octets of the answer that is being written, some or all that are left. -/
def write? (count : Nat) (s : State) : Option State :=
  match s.writer with
  | .writing rest =>
      if count = 0 ∨ rest.length < count then none
      else if count = rest.length then
        some
          { s with
            pieces := s.pieces ++ [rest]
            answered := s.answered + 1
            writer := .idle }
      else
        some
          { s with
            pieces := s.pieces ++ [rest.take count]
            writer := .writing (rest.drop count) }
  | _ => none

/-- Breaks off the answer that is being written. -/
def refuse? (complaint : String) (s : State) : Option State :=
  match s.writer with
  | .writing _ => some { s with writer := .failed complaint }
  | _ => none

/-- Ends the writer when no task can come any more. -/
def flush? (complaint? : Option String) (s : State) : Option State :=
  match s.writer, s.channel with
  | .idle, [] =>
      if s.reader = .reading then none
      else match complaint? with
        | none => some { s with writer := .ended }
        | some c => some { s with writer := .failed c }
  | _, _ => none

/-- The state after a move, if the move is possible. -/
def step (s : State) : Move → Option State
  | .read => s.read?
  | .send => s.send?
  | .finish task result => s.finish? task result
  | .receive => s.receive?
  | .compose => s.compose?
  | .write count => s.write? count
  | .refuse c => s.refuse? c
  | .flush c => s.flush? c

/-- What the session comes to: the number of answers or the complaint of the reader or the
output. -/
def result? (s : State) : Option (Except String Nat) :=
  match s.reader, s.writer with
  | .failed c, _ => some (.error c)
  | .reading, _ => none
  | _, .ended => some (.ok s.answered)
  | _, .failed c => some (.error c)
  | _, _ => none

end State

/-- The states that a session reaches by moves. -/
inductive Reaches : State → List Move → State → Prop
  | refl (s : State) : Reaches s [] s
  | move {s t u : State} {moves : List Move} {m : Move} :
      Reaches s moves t → t.step m = some u → Reaches s (moves ++ [m]) u

/-- How a session is carried out: what comes of a request, and the complaint of an output
that takes nothing. -/
structure Conduct where
  /-- What comes of a request. -/
  answer : String → TaskResult
  /-- The complaint of an output that takes nothing. -/
  refusal? : Option String

/-- The moves of the writer and of the task that it waits for. -/
def Conduct.writerMoves (c : Conduct) (s : State) : List Move :=
  match s.writer with
  | .idle => [.receive]
  | .awaiting task =>
      match s.requests[task]? with
      | some t => [.finish task (c.answer t), .compose]
      | none => []
  | .writing rest =>
      match c.refusal? with
      | none => [.write rest.length]
      | some complaint => [.refuse complaint]
  | _ => []

/-- The moves to be tried one after the other, where writing comes before reading. -/
def Conduct.moves (c : Conduct) (s : State) : List Move :=
  c.writerMoves s ++ [.send, .read, .flush none]

/-- Makes up to a number of moves. -/
def drive (c : Conduct) : Nat → State → State
  | 0, s => s
  | n + 1, s =>
      match (c.moves s).findSome? s.step with
      | some s => drive c n s
      | none => s

/-- A bound of the moves of a session: six for each line and two at its end. -/
def moveBound (lines : Nat) : Nat :=
  6 * lines + 2

/-- The session over lines in which every part moves as soon as it can. -/
def serve (c : Conduct) (lines : List Arrival) : State :=
  drive c (moveBound lines.length) (.start lines)

end Transport
end SeriesCatalog
