import ScriptRun.Json.Access
import ScriptRun.Status.Event

/-!
# Events from data

An event can be read back from the name of its kind and the data that it carries. A table is built up
from its records in order, so that records which the table does not admit are left out.
-/

namespace ScriptRun.Status

inductive EventDataFault where
  | unknownState (word : Text)
  /-- The number of seconds is an integer beyond all floats. -/
  | tooLarge
  /-- There is no such kind of event. -/
  | unknownKind
  deriving DecidableEq, Repr

def EventDataFault.message : EventDataFault → Text
  | .unknownState word => CommandState.unknownMessage word
  | .tooLarge => "int too large to convert to float".toList
  | .unknownKind => "unknown kind of event".toList

/-- The table after the record that data describe. -/
def Table.applyData (t : Table) (data : Json) : Except EventDataFault Table :=
  let word := data.textAt "state"
  match CommandState.ofWord? word with
  | some state =>
    .ok (t.apply (data.intAt "index") state (data.textAt? "message") (data.intAt? "duration_ms")).2
  | none => .error (.unknownState word)

def Table.ofData (data : Json) : Except EventDataFault Table :=
  (data.itemsAt "commands").foldlM Table.applyData { file := data.textAt "file_path" }

def Event.ofData (type : Text) (data : Json) : Except EventDataFault Event :=
  if type = "status_change".toList then Event.statusChange <$> Table.ofData data
  else if type = "mock_location_started".toList then
    .ok (.mockLocationStarted (data.intAt "point_count"))
  else if type = "mock_location_stopped".toList then .ok .mockLocationStopped
  else if type = "run_complete".toList then .ok (.runComplete (data.intAt "exit_code"))
  else if type = "run_aborted".toList then .ok .runAborted
  else if type = "spawn_failed".toList then .ok (.spawnFailed (data.textAt "reason"))
  else if type = "readiness_timed_out".toList then
    match ((data.numberAt? "timeout_s").getD (.float 0.0)).toFloat? with
    | some seconds => .ok (.readinessTimedOut (data.intAt "port") (.float seconds))
    | none => .error .tooLarge
  else if type = "log_line".toList then .ok (.logLine (data.textAt "stream") (data.textAt "text"))
  else .error .unknownKind

end ScriptRun.Status
