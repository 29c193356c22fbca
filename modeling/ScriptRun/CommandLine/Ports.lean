import ScriptRun.CommandLine.World
import ScriptRun.Port.Attempts

/-!
# Commands about ports
-/

namespace ScriptRun.CommandLine

/-- Prints the first free port, from a given one or from the one that is set. -/
def freePort (s : Settings) (json : Bool) (first : Option Int) : Act Int := do
  match first.map Except.ok |>.getD s.firstPort with
  | .error (.outOfRange low high) => refuse 1 (Settings.PortFault.outOfRange low high).message
  | .error .kind => throw (.port .kind)
  | .ok first =>
    match (Port.findFree (← get).ports.isFree first none).1 with
    | .error fault => refuse 1 fault.message
    | .ok port =>
      if json then report (.record [("port", .int port)]) else say (Text.ofInt port)
      return 0

def waitPort (json : Bool) (port : Int) (timeout : Float) : Act Int := do
  let accepts := (← get).ports.accepts
  match (Port.Attempts.wait (fun _ => false) accepts (.float timeout) Port.backoff {}).1 with
  | .error fault => throw (.clock fault)
  | .ok wait =>
    if json then report (.record [("port", .int port), ("ready", .bool wait.isReady)])
    else
      say ("port ".toList ++ Text.ofInt port ++
        (if wait.isReady then " ready" else " not ready").toList)
    return if wait.isReady then 0 else 1

end ScriptRun.CommandLine
