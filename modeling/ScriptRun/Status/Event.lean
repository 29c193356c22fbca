import ScriptRun.Decimal.Number
import ScriptRun.Status.Table

/-!
# Events of a run

What a run tells its observers: lines of output, changes of the status table, the mocked location
going on and off, and the one event that ends the run. An event that carries a table carries it as
it was at that moment.
-/

namespace ScriptRun.Status

inductive Stream where
  | stdout
  | stderr
  deriving DecidableEq, Repr

def Stream.name : Stream → Text
  | .stdout => "stdout".toList
  | .stderr => "stderr".toList

inductive Event where
  | statusChange (table : Table)
  | mockLocationStarted (points : Int)
  | mockLocationStopped
  | runComplete (exitCode : Int)
  | runAborted
  | spawnFailed (reason : Text)
  | readinessTimedOut (port : Int) (timeout : Number)
  | logLine (stream : Text) (text : Text)

namespace Event

def type : Event → Text
  | .statusChange _ => "status_change".toList
  | .mockLocationStarted _ => "mock_location_started".toList
  | .mockLocationStopped => "mock_location_stopped".toList
  | .runComplete _ => "run_complete".toList
  | .runAborted => "run_aborted".toList
  | .spawnFailed _ => "spawn_failed".toList
  | .readinessTimedOut .. => "readiness_timed_out".toList
  | .logLine .. => "log_line".toList

def data : Event → Json
  | .statusChange table => table.toJson
  | .mockLocationStarted points => .record [("point_count", .int points)]
  | .mockLocationStopped => .obj []
  | .runComplete code => .record [("exit_code", .int code)]
  | .runAborted => .obj []
  | .spawnFailed reason => .record [("reason", .str reason)]
  | .readinessTimedOut port timeout =>
    .record [("port", .int port), ("timeout_s", timeout.toJson)]
  | .logLine stream text => .record [("stream", .str stream), ("text", .str text)]

def toJson (e : Event) : Json := .record [("type", .str e.type), ("data", e.data)]

/-- Whether an event ends a run. -/
def isTerminal : Event → Bool
  | .runComplete _ | .runAborted | .spawnFailed _ | .readinessTimedOut .. => true
  | _ => false

end Event

end ScriptRun.Status
