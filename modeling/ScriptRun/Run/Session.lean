import ScriptRun.Child
import ScriptRun.Status.Engine

/-!
# Sessions

A session is one process of the test tool with the engine that its output drives. A reader for each
connected stream hands the chunks of that stream over to one queue and then tells that the stream
has ended; a pump takes from the queue, in order. When the pump has seen the end of every stream it
waits for the process and hands its exit code to the engine, so that the last unfinished lines are
handled before the run is complete.

Readers and pump go on after the session was stopped, and what they deliver then has no effect.
-/

namespace ScriptRun.Run

open Status

/-- What a reader puts into the queue. -/
inductive Item where
  | chunk (stream : Stream) (bytes : List UInt8)
  | ended (stream : Stream)
  deriving DecidableEq, Repr

/-- One process of the test tool with its engine. -/
structure Session where
  /-- What is run: a script, or a label for something else. -/
  file : Text
  argv : List Text
  process : Nat
  engine : Engine
  /-- The chunks that the reader of the output has left to hand over; none if it is not running. -/
  unreadOut : Option (List (List UInt8))
  /-- The same for the diagnostic output. -/
  unreadErr : Option (List (List UInt8))
  queue : List Item := []
  /-- How many streams the pump has not seen the end of. -/
  openStreams : Nat
  /-- Whether the session was stopped or its exit was handled. -/
  isDone : Bool := false

namespace Session

/-- The size of the chunks in which a stream is read. -/
def chunkSize : Nat := 4096

/-- Bytes in chunks of a size, the last one possibly shorter. -/
def chunks (size : Nat) (bytes : List UInt8) : List (List UInt8) :=
  if size = 0 ∨ bytes = [] then []
  else bytes.take size :: chunks size (bytes.drop size)
termination_by bytes.length
decreasing_by
  have : bytes.length ≠ 0 := by
    intro h
    simp_all [List.length_eq_zero_iff.mp h]
  simp only [List.length_drop]
  omega

/-- A session whose readers and pump have done nothing yet. -/
def begun (file : Text) (argv : List Text) (number : Nat) (p : Child) (engine : Engine) :
    Session :=
  { file, argv, engine
    process := number
    unreadOut := p.stdout.map (chunks chunkSize)
    unreadErr := p.stderr.map (chunks chunkSize)
    openStreams := (if p.stdout.isSome then 1 else 0) + if p.stderr.isSome then 1 else 0 }

def unread (s : Session) : Stream → Option (List (List UInt8))
  | .stdout => s.unreadOut
  | .stderr => s.unreadErr

def setUnread (s : Session) (stream : Stream) (left : Option (List (List UInt8))) : Session :=
  match stream with
  | .stdout => { s with unreadOut := left }
  | .stderr => { s with unreadErr := left }

/-- The reader of a stream puts its next chunk into the queue, or tells that the stream has
ended. -/
def read (stream : Stream) (s : Session) : Session :=
  match s.unread stream with
  | none => s
  | some [] => { s.setUnread stream none with queue := s.queue ++ [.ended stream] }
  | some (bytes :: rest) =>
    { s.setUnread stream (some rest) with queue := s.queue ++ [.chunk stream bytes] }

variable {ω : Type}

/-- The pump takes the next item of the queue. A chunk with a line that is refused is dropped from
that line on. -/
def pump (l : Listener ω) (s : Session) (heard : ω) : Session × ω :=
  match s.queue with
  | [] => (s, heard)
  | .chunk stream bytes :: rest =>
    let live := ((⟨s.engine, heard⟩ : Live ω).feed l stream (.bytes bytes)).2
    ({ s with engine := live.engine, queue := rest }, live.heard)
  | .ended _ :: rest => ({ s with queue := rest, openStreams := s.openStreams - 1 }, heard)

/-- The pump, having seen the end of every stream, hands over the exit code, once. After a stop there
is nobody to take it. -/
def deliverExit (l : Listener ω) (code : Int) (s : Session) (heard : ω) : Session × ω :=
  if s.openStreams = 0 ∧ s.queue = [] ∧ s.isDone = false then
    let live := ((⟨s.engine, heard⟩ : Live ω).processExited l code).2
    ({ s with engine := live.engine, isDone := true }, live.heard)
  else (s, heard)

/-- Ends the run without waiting for the process; the answer tells whether it was active. -/
def stop (l : Listener ω) (s : Session) (heard : ω) : Bool × Session × ω :=
  let (stopped, live) := (⟨s.engine, heard⟩ : Live ω).stop l
  (stopped, { s with engine := live.engine, isDone := true }, live.heard)

def isActive (s : Session) : Bool := s.engine.isActive

/-- How the run has ended, once the session is done. -/
def outcome? (s : Session) : Option Outcome := if s.isDone then s.engine.outcome else none

/-- The reader of a stream hands over everything that is left. -/
def readAll (stream : Stream) (s : Session) : Session :=
  match s.unread stream with
  | none => s
  | some left => Nat.repeat (read stream) (left.length + 1) s

/-- The pump takes everything that is in the queue. -/
def pumpAll (l : Listener ω) (s : Session) (heard : ω) : Session × ω :=
  Nat.repeat (fun now : Session × ω => now.1.pump l now.2) s.queue.length (s, heard)

/-- Both readers run to the end, the one of the output first, and then the pump. -/
def drain (l : Listener ω) (s : Session) (heard : ω) : Session × ω :=
  ((s.readAll .stdout).readAll .stderr).pumpAll l heard

end Session

end ScriptRun.Run
