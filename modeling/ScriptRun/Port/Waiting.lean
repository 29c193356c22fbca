import ScriptRun.Decimal.Number

/-!
# Waiting for a port

The wait tries to connect again and again, with a pause after each attempt that fails, until the
port accepts, the deadline has passed, or the process that should serve it has exited. Before each
attempt it asks whether the process has exited; after a failed one it looks at the clock. So there is
at least one attempt unless the process is gone, and none after its exit was seen.

The loop is stated for any surroundings and any measure of time. It runs for at most a given number
of rounds, and says so if these did not suffice.
-/

namespace ScriptRun.Port

/-- What the wait sees and does. -/
structure Surroundings (σ τ : Type) where
  hasExited : σ → Bool × σ
  connects : σ → Bool × σ
  now : σ → τ
  pause : σ → σ

inductive Wait where
  | ready
  | exited
  | timedOut
  | unfinished
  deriving DecidableEq, Repr

def Wait.isReady (w : Wait) : Bool := w = .ready

/-- Waits until a deadline, for at most the given number of rounds. -/
def waitUntil {σ τ : Type} [LE τ] [DecidableLE τ] (world : Surroundings σ τ) (deadline : τ) :
    Nat → σ → Wait × σ
  | 0, s => (.unfinished, s)
  | rounds + 1, s =>
    match world.hasExited s with
    | (true, s) => (.exited, s)
    | (false, s) =>
      match world.connects s with
      | (true, s) => (.ready, s)
      | (false, s) =>
        if deadline ≤ world.now s then (.timedOut, s)
        else waitUntil world deadline rounds (world.pause s)

/-- A port that never became connectable. -/
structure NotReady where
  port : Int
  timeout : Number
  /-- Whether the process that should serve it has exited. -/
  exited : Bool := false

def NotReady.message (e : NotReady) : Text :=
  "port ".toList ++ Text.ofInt e.port ++ " never became connectable (".toList ++
    (if e.exited then "process exited".toList
      else "not ready after ".toList ++ e.timeout.generalText ++ ['s']) ++ [')']

/-- Seconds for the whole wait when none are given. -/
def defaultTimeout : Number := .float 60.0

/-- Seconds for one attempt. -/
def connectTimeout : Number := .float 0.5

/-- Seconds between attempts. -/
def backoff : Number := .float 0.25

def localHost : Text := "127.0.0.1".toList

/-- A number of rounds that no wait at this pace reaches within months. -/
def manyRounds : Nat := 100000000

end ScriptRun.Port
