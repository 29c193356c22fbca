import ScriptRun.CommandLine.Location
import ScriptRun.CommandLine.Ports
import ScriptRun.CommandLine.Scripts
import ScriptRun.CommandLine.Targets

/-!
# The program

The program reads its command line, loads the settings, and does what is asked. A wrong command line
ends it before anything else is done, and settings that cannot be used end it with a message.
-/

namespace ScriptRun.CommandLine

inductive Ending where
  | exited (code : Int)
  /-- The command line was not read to its end. -/
  | halted (halt : Halt)
  | broken (breakdown : Breakdown)

def Halt.exitCode : Halt → Int
  | .help => 0
  | .misuse => misused

def Invocation.perform (i : Invocation) (s : Settings) : Act Int :=
  match i.action with
  | .commands file => listCommands i.json file
  | .run request => runScript s i.json request
  | .devices refresh => listDevices i.json refresh
  | .freePort first => freePort s i.json first
  | .waitPort port timeout => waitPort i.json port timeout
  | .inspect request => inspect s i.json request
  | .gps request => controlLocation s i.json request

/-- Whether a message is made of a fault in the settings. -/
def isReported : Settings.LoadFault → Bool
  | .file _ | .document _ (.problem _) | .document _ (.undecodable _)
  | .document _ (.meaningless _) => true
  | .document _ _ => false
  | .settings .unnamedKey => false
  | .settings _ => true

def invoke (i : Invocation) : Act Int := do
  let w ← get
  match Settings.load w.tree w.environment i.config with
  | .ok s => i.perform s
  | .error fault =>
    if isReported fault then refuse misused ("config: ".toList ++ fault.message)
    else throw (.settings fault)

/-- Runs the program on the words of a command line. -/
def program (words : List Text) (w : World) : Ending × World :=
  match Invocation.ofWords words with
  | .error halt => (.halted halt, w)
  | .ok i =>
    match (invoke i).run w with
    | .ok code w => (.exited code, w)
    | .error breakdown w => (.broken breakdown, w)

end ScriptRun.CommandLine
