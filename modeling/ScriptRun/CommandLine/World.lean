import ScriptRun.CommandLine.Invocation
import ScriptRun.Inspect.Inspector
import ScriptRun.Json.Printer
import ScriptRun.Run.Journal
import ScriptRun.Settings.Load
import ScriptRun.Status.EventFile

/-!
# The world of a command

A command of the program finds files, variables, ports and a launcher, and prints. It ends with an
exit code, or it breaks off because of a failure that no message is made of.
-/

namespace ScriptRun.CommandLine

/-- What a command finds and changes. -/
structure World where
  tree : Files.Tree
  environment : Environment
  launcher : Run.Launcher := {}
  ports : Inspect.Ports
  /-- Whether the user interrupts the wait for a run. -/
  interruptsRun : Bool := false
  /-- How many naps the user lets a served inspector take before interrupting it; none for any
  number. -/
  patience : Option Nat := none
  printed : Text := []

/-- A failure that no message is made of. -/
inductive Breakdown where
  | script (fault : Files.Fault)
  | settings (fault : Settings.LoadFault)
  | log (fault : Run.LogFault)
  | events (fault : Status.EventFile.Fault)
  | start (fault : Run.StartFault)
  | port (fault : Settings.PortFault)
  | inspect (fault : Inspect.StartFault)
  | clock (fault : Time.Fault)
  /-- A path that is no text cannot be printed as data. -/
  | unprintable (shown : Text)

def Breakdown.message : Breakdown → Text
  | .script fault => fault.message
  | .settings fault => fault.message
  | .log fault => fault.message
  | .events fault => fault.message
  | .start fault => fault.message
  | .port fault => fault.message
  | .inspect fault => fault.message
  | .clock fault => fault.message
  | .unprintable shown => "no data: ".toList ++ shown

abbrev Act := EStateM Breakdown World

/-- Prints a text and ends the line. -/
def say (t : Text) : Act Unit := modify fun w => { w with printed := w.printed ++ t ++ ['\n'] }

def report (data : Json) : Act Unit := say (data.text .report)

/-- Prints an error as data; the answer is the exit code. -/
def refuse (exitCode : Int) (message : Text) : Act Int := do
  report (.record [("error", .str message)])
  return exitCode

/-- The exit code of a command that was used wrongly. -/
def misused : Int := 2

/-- The exit code when the tool cannot be started. -/
def notStarted : Int := 127

/-- The exit code when the user has interrupted a run. -/
def interrupted : Int := 130

end ScriptRun.CommandLine
