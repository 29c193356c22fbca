import ScriptRun.Status.Classification
import ScriptRun.Status.Event
import ScriptRun.Status.Noise
import ScriptRun.Text.LineBuffer

/-!
# The status engine of one run

The engine frames the two output streams of the test tool into lines, classifies every line, keeps
the status table, and publishes events to a listener. It ends once: when the tool exits, when the
run is stopped, when the tool could not be started, or when its port did not become ready. After
that nothing that arrives has any effect.

A listener keeps a state of its own and may ask for the run to be stopped while it hears an event.
The lines that a chunk has completed are all handled even then, and an exit that is being handled
goes on to its end.
-/

namespace ScriptRun.Status

inductive Outcome where
  | completed
  | aborted
  | spawnFailed
  | readinessTimedOut
  deriving DecidableEq, Repr

def Outcome.word : Outcome → Text
  | .completed => "completed".toList
  | .aborted => "aborted".toList
  | .spawnFailed => "spawn_failed".toList
  | .readinessTimedOut => "readiness_timed_out".toList

structure Engine where
  table : Table
  stdout : LineBuffer
  stderr : LineBuffer
  /-- One more than the index of the last command that passed. -/
  currentIndex : Nat := 0
  outcome : Option Outcome := none
  exitCode : Option Int := none
  linesSeen : Nat := 0
  /-- How many lines were kept out of the log as build chatter. -/
  linesSuppressed : Nat := 0

def Engine.new (file : Text) (lineLimit : Nat) : Engine :=
  { table := { file }, stdout := { limit := lineLimit }, stderr := { limit := lineLimit } }

def Engine.isActive (e : Engine) : Bool := e.outcome.isNone

/-- Hears events one at a time; the answer to an event tells whether the run is to be stopped. -/
structure Listener (σ : Type) where
  hear : σ → Event → σ × Bool

def Listener.recorder : Listener (Array Event) := ⟨fun heard e => (heard.push e, false)⟩

def Listener.observing {σ : Type} (observe : Event → σ → σ) : Listener σ :=
  ⟨fun heard e => (observe e heard, false)⟩

/-- An engine together with the state of what listens to it. -/
structure Live (σ : Type) where
  engine : Engine
  heard : σ

namespace Live

variable {σ : Type}

/-- Publishes the event that ends the run; a wish to stop it has no effect any more. -/
def conclude (l : Listener σ) (s : Live σ) (outcome : Outcome) (exitCode : Option Int)
    (event : Event) : Live σ :=
  { engine := { s.engine with outcome := some outcome, exitCode }
    heard := (l.hear s.heard event).1 }

/-- Stops the run and drops what is buffered; the answer tells whether it was active. -/
def stop (l : Listener σ) (s : Live σ) : Bool × Live σ :=
  if s.engine.isActive then
    let engine :=
      { s.engine with stdout := s.engine.stdout.clear, stderr := s.engine.stderr.clear }
    (true, conclude l { s with engine } .aborted s.engine.exitCode .runAborted)
  else (false, s)

def publish (l : Listener σ) (s : Live σ) (event : Event) : Live σ :=
  let (heard, stops) := l.hear s.heard event
  let s := { s with heard }
  if stops then (s.stop l).2 else s

/-- Records the state of a command and publishes the table if it was admitted. -/
def setStatus (l : Listener σ) (s : Live σ) (index : Nat) (state : CommandState) (message : Text)
    (durationMs : Option Int) : Live σ :=
  match s.engine.table.apply index state (some message) durationMs with
  | (true, table) => { s with engine := { s.engine with table } }.publish l (.statusChange table)
  | (false, _) => s

def act (l : Listener σ) (s : Live σ) : Reading → Live σ
  | .running index name => s.setStatus l index .running ("Running: ".toList ++ name) none
  | .passed index name ms =>
    let s := s.setStatus l index .passed ("Passed: ".toList ++ name) (some ms)
    { s with engine := { s.engine with currentIndex := index + 1 } }
  | .failed index name => s.setStatus l index .failed ("Failed: ".toList ++ name) none
  | .locationStarted points => s.publish l (.mockLocationStarted points)
  | .locationStopped => s.publish l .mockLocationStopped
  | .unmatched => s

/-- Counts a line and publishes it, unless it is build chatter. -/
def report (l : Listener σ) (s : Live σ) (stream : Stream) (line : Text) : Live σ :=
  let s := { s with engine := { s.engine with linesSeen := s.engine.linesSeen + 1 } }
  if stream = .stderr && isNoise line then
    { s with engine := { s.engine with linesSuppressed := s.engine.linesSuppressed + 1 } }
  else s.publish l (.logLine stream.name line)

/-- Handles one line. Build chatter is classified too. -/
def handleLine (l : Listener σ) (s : Live σ) (stream : Stream) (line : Text) :
    Except NumeralTooLong Unit × Live σ :=
  let s := s.report l stream line
  match classify line with
  | .ok found => (.ok (), s.act l found.reading)
  | .error e => (.error e, s)

/-- Handles lines in order, up to one that is refused. -/
def handleLines (l : Listener σ) (s : Live σ) (stream : Stream) :
    List Text → Except NumeralTooLong Unit × Live σ
  | [] => (.ok (), s)
  | line :: rest =>
    match s.handleLine l stream line with
    | (.ok (), s) => s.handleLines l stream rest
    | (.error e, s) => (.error e, s)

def feed (l : Listener σ) (s : Live σ) (stream : Stream) (chunk : Chunk) :
    Except NumeralTooLong Unit × Live σ :=
  if s.engine.isActive then
    match stream with
    | .stdout =>
      let (lines, stdout) := s.engine.stdout.feed chunk
      { s with engine := { s.engine with stdout } }.handleLines l stream lines
    | .stderr =>
      let (lines, stderr) := s.engine.stderr.feed chunk
      { s with engine := { s.engine with stderr } }.handleLines l stream lines
  else (.ok (), s)

/-- Handles what is left in the buffer of a stream as final lines. -/
def flush (l : Listener σ) (s : Live σ) (stream : Stream) : Except NumeralTooLong Unit × Live σ :=
  match stream with
  | .stdout =>
    let (lines, stdout) := s.engine.stdout.flush
    { s with engine := { s.engine with stdout } }.handleLines l stream lines
  | .stderr =>
    let (lines, stderr) := s.engine.stderr.flush
    { s with engine := { s.engine with stderr } }.handleLines l stream lines

/-- The tool has exited. The answer tells whether the run was active; a refused line leaves it
so. -/
def processExited (l : Listener σ) (s : Live σ) (code : Int) :
    Except NumeralTooLong Bool × Live σ :=
  if s.engine.isActive then
    match s.flush l .stdout with
    | (.error e, s) => (.error e, s)
    | (.ok (), s) =>
      match s.flush l .stderr with
      | (.error e, s) => (.error e, s)
      | (.ok (), s) => (.ok true, s.conclude l .completed (some code) (.runComplete code))
  else (.ok false, s)

def spawnFailed (l : Listener σ) (s : Live σ) (reason : Text) : Bool × Live σ :=
  if s.engine.isActive then
    (true, s.conclude l .spawnFailed s.engine.exitCode (.spawnFailed reason))
  else (false, s)

def readinessTimedOut (l : Listener σ) (s : Live σ) (port : Int) (timeout : Number) :
    Bool × Live σ :=
  if s.engine.isActive then
    (true, s.conclude l .readinessTimedOut s.engine.exitCode (.readinessTimedOut port timeout))
  else (false, s)

end Live

end ScriptRun.Status
