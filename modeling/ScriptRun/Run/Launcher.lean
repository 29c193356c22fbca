import ScriptRun.Child
import ScriptRun.Text.Quoted
import ScriptRun.Yaml.Value

/-!
# Starting processes

A launcher starts a process for a command, or says why not. It keeps account of every command that
it was given and of every process that it has started. Processes are numbered in the order in which
they were started.
-/

namespace ScriptRun.Run

inductive LaunchFault where
  /-- The system refuses to start it. -/
  | refused (reason : Text)
  /-- The command cannot be passed to the system. -/
  | invalid (reason : Text)
  /-- The launcher itself has failed. -/
  | crashed (reason : Text)
  deriving DecidableEq, Repr

def LaunchFault.message : LaunchFault → Text
  | .refused reason | .invalid reason | .crashed reason => reason

/-- A reason with the number that the system gives it. -/
def numberedReason (number : Int) (reason : Text) : Text :=
  "[Errno ".toList ++ Text.ofInt number ++ "] ".toList ++ reason

structure Launch where
  argv : List Text
  /-- The working directory; null for the current one. -/
  cwd : Yaml.Value

structure Launcher where
  /-- What the next commands start; after these, processes that have nothing to say. -/
  upcoming : List Child := []
  /-- Why commands are refused, if they are. -/
  fault : Option LaunchFault := none
  /-- All commands that were given, oldest first. -/
  launches : List Launch := []
  processes : List Child := []

namespace Launcher

/-- Gives the launcher a command; the answer is the number of the process. -/
def launch (w : Launcher) (argv : List Text) (cwd : Yaml.Value) :
    Except LaunchFault Nat × Launcher :=
  let w := { w with launches := w.launches ++ [({ argv, cwd } : Launch)] }
  match w.fault with
  | some fault => (.error fault, w)
  | none =>
    match w.upcoming with
    | [] => (.ok w.processes.length, { w with processes := w.processes ++ [({} : Child)] })
    | p :: rest =>
      (.ok w.processes.length, { w with upcoming := rest, processes := w.processes ++ [p] })

/-- A started process. A number that was not given stands for one that has nothing to say. -/
def process (w : Launcher) (number : Nat) : Child := (w.processes[number]?).getD {}

def withProcess {α : Type} (w : Launcher) (number : Nat) (act : Child → α × Child) :
    α × Launcher :=
  let (answer, p) := act (w.process number)
  (answer, { w with processes := w.processes.set number p })

def finish (w : Launcher) (number : Nat) (code : Option Int) : Launcher :=
  { w with processes := w.processes.modify number (·.finish code) }

end Launcher

end ScriptRun.Run
