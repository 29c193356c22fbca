import ScriptRun.Port.Waiting
import ScriptRun.Run.Runner
import ScriptRun.Script.Document

/-!
# Failures reported to callers

The failures that a caller of the library may be told of, with what each of them carries.
-/

namespace ScriptRun

inductive Failure where
  /-- A failure with nothing but details, if any. -/
  | general (details : List Json)
  | ambiguousLine (line : Script.AmbiguousLine)
  /-- The test tool could not be located or started. -/
  | notStarted (details : List Json)
  | unexpectedExit (exit : Run.UnexpectedExit)
  | notReady (port : Port.NotReady)

namespace Failure

/-- Details in a message: a single text as it is, several values in parentheses. -/
def detailsText : List Json → Text
  | [] => []
  | [.str t] => t
  | [detail] => (Yaml.Value.ofJson detail).shown
  | details =>
    '(' :: Text.join [',', ' '] (details.map fun d => (Yaml.Value.ofJson d).shown) ++ [')']

/-- The wording of a refusal by the system: its number, the reason, and the path that it is about
if there is one. -/
def systemText : List Json → Text
  | [.int number, .str reason] | [.int number, .str reason, .null] =>
    Run.numberedReason number reason
  | [.int number, .str reason, .str path] =>
    Run.numberedReason number reason ++ ':' :: ' ' :: Text.quoted path
  | details => detailsText details

def message : Failure → Text
  | .general details | .notStarted details => detailsText details
  | .ambiguousLine line => line.message
  | .unexpectedExit exit => exit.message
  | .notReady port => port.message

def data : Failure → Json
  | .general _ | .notStarted _ => .obj []
  | .ambiguousLine line =>
    .record [("line_number", .int line.lineNumber), ("text", .str line.line)]
  | .unexpectedExit exit =>
    .record [("exit_code", .int exit.exitCode),
      ("recent_log", .arr (exit.recentLines.map Json.str))]
  | .notReady port =>
    .record [("port", .int port.port), ("timeout_s", port.timeout.toJson),
      ("exited", .bool port.exited)]

end Failure

end ScriptRun
