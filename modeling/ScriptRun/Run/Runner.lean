import ScriptRun.Run.Arguments
import ScriptRun.Run.Launcher
import ScriptRun.Run.Session
import ScriptRun.Settings.Tool

/-!
# The runner

A runner starts runs of scripts, at most one of which is active: starting another one stops it
first. Its audience hears the events of all runs, and is told when a run begins. A start that fails
ends with an event too, and leaves no active session. A request that the arguments forbid changes
nothing at all.

Sessions are numbered in the order in which they were started. Those that were stopped or replaced
go on reading and pumping until their process has exited.
-/

namespace ScriptRun.Run

open Settings Status

/-- Those who follow the runs of a runner: a listener that is also told when a run begins. It may
fail to prepare for a run. -/
structure Audience (ω : Type) extends Listener ω where
  begin : Text → List Text → ω → Except Files.Fault Unit × ω

inductive StartFault where
  | index (fault : NegativeIndex)
  | missing (fault : ToolMissing)
  /-- The tool was found, but the run could not be begun. -/
  | refused (reason : Text)
  /-- The tool was not found, and the audience failed when it was told. -/
  | audience (fault : Files.Fault)
  | launch (fault : LaunchFault)
  deriving DecidableEq, Repr

def StartFault.message : StartFault → Text
  | .index fault => fault.message
  | .missing fault => fault.message
  | .refused reason => reason
  | .audience fault => fault.message
  | .launch fault => fault.message

/-- The reason for a refused start, from the reason that the system gives. -/
def refusal (argv : List Text) (reason : Text) : Text :=
  "Failed to start ".toList ++ argv.head?.getD [] ++ ':' :: ' ' :: reason

/-- The state of a runner: its sessions, the active one, and what its audience knows. -/
structure Runner (ω : Type) where
  launcher : Launcher := {}
  sessions : List Session := []
  active : Option Nat := none
  heard : ω

namespace Runner

variable {ω : Type}

def withSession (r : Runner ω) (number : Nat) (act : Session → ω → Session × ω) : Runner ω :=
  match r.sessions[number]? with
  | none => r
  | some s =>
    let (s, heard) := act s r.heard
    { r with sessions := r.sessions.set number s, heard }

/-- Stops a session; the answer tells whether its run was active. -/
def stopSession (a : Audience ω) (number : Nat) (r : Runner ω) : Bool × Runner ω :=
  match r.sessions[number]? with
  | none => (false, r)
  | some s =>
    let (_, launcher) := r.launcher.withProcess s.process Child.signalStop
    let (stopped, s, heard) := s.stop a.toListener r.heard
    (stopped, { r with launcher, heard, sessions := r.sessions.set number s })

/-- The session that is active by name; its run may have ended. -/
def activeSession? (r : Runner ω) : Option Session := r.active.bind fun n => r.sessions[n]?

/-- Stops the active run, if there is one that has not ended. -/
def stop (a : Audience ω) (r : Runner ω) : Bool × Runner ω :=
  match r.active, r.activeSession? with
  | some number, some s => if s.isActive then r.stopSession a number else (false, r)
  | _, _ => (false, r)

/-- Ends a run that could not be started. -/
def spawnFailed (a : Audience ω) (engine : Engine) (reason : Text) (r : Runner ω) : Runner ω :=
  { r with
    active := none
    heard := ((⟨engine, r.heard⟩ : Live ω).spawnFailed a.toListener reason).2.heard }

/-- Tells the audience that a run begins and launches its process. -/
def launch (a : Audience ω) (cwd : Yaml.Value) (file : Text) (argv : List Text) (r : Runner ω) :
    Except LaunchFault Nat × Runner ω :=
  match a.begin file argv r.heard with
  | (.error fault, heard) =>
    let failed : LaunchFault :=
      if fault.isRefusal then .refused fault.message else .invalid fault.message
    (.error failed, { r with heard })
  | (.ok (), heard) =>
    let (started, launcher) := r.launcher.launch argv cwd
    (started, { r with launcher, heard })

/-- Makes a new session the active one. -/
def enter (file : Text) (argv : List Text) (engine : Engine) (process : Nat) (r : Runner ω) :
    Nat × Runner ω :=
  let number := r.sessions.length
  let session := Session.begun file argv process (r.launcher.process process) engine
  (number, { r with sessions := r.sessions ++ [session], active := some number })

/-- Starts a run with arguments for the tool; the answer is the number of the session. -/
def startWith (a : Audience ω) (tool : Tool) (file : Text) (arguments : List Text) (r : Runner ω) :
    Except StartFault Nat × Runner ω :=
  let r := (r.stop a).2
  let engine := Engine.new file Text.defaultLineLimit
  match tool.argv arguments with
  | .error fault =>
    match a.begin file (tool.command ++ arguments) r.heard with
    | (.error failed, heard) => (.error (.audience failed), { r with heard })
    | (.ok (), heard) =>
      (.error (.missing fault), { r with heard }.spawnFailed a engine fault.message)
  | .ok argv =>
    match r.launch a tool.cwd file argv with
    | (.ok process, r) =>
      let (number, r) := r.enter file argv engine process
      (.ok number, r)
    | (.error (.refused reason), r) =>
      let reason := refusal argv reason
      (.error (.refused reason), r.spawnFailed a engine reason)
    | (.error fault, r) => (.error (.launch fault), r)

/-- Starts a run of a script, or of one command of it, on a device. -/
def start (a : Audience ω) (tool : Tool) (file : Text) (index : Option Int)
    (device : Option Device) (r : Runner ω) : Except StartFault Nat × Runner ω :=
  match arguments file index device with
  | .error fault => (.error (.index fault), r)
  | .ok arguments => r.startWith a tool file arguments

/-- How the run that was started last has ended; none if there is none, or if it goes on. -/
def outcome? (r : Runner ω) : Option Outcome := r.activeSession?.bind Session.outcome?

/-! ## What readers and pumps do -/

/-- A reader of a session does one step. -/
def read (number : Nat) (stream : Stream) (r : Runner ω) : Runner ω :=
  { r with sessions := r.sessions.modify number (·.read stream) }

/-- The pump of a session takes one item. -/
def pump (a : Audience ω) (number : Nat) (r : Runner ω) : Runner ω :=
  r.withSession number fun s heard => s.pump a.toListener heard

/-- The pump of a session hands over the exit code, if the process has exited. -/
def deliverExit (a : Audience ω) (number : Nat) (r : Runner ω) : Runner ω :=
  r.withSession number fun s heard =>
    match (r.launcher.process s.process).returned with
    | some code => s.deliverExit a.toListener code heard
    | none => (s, heard)

/-- The readers and the pump of a session go as far as they can. -/
def drain (a : Audience ω) (number : Nat) (r : Runner ω) : Runner ω :=
  (r.withSession number fun s heard => s.drain a.toListener heard).deliverExit a number

/-- The pumps of all sessions hand over the exit codes of the processes that have exited. -/
def deliverExits (a : Audience ω) (r : Runner ω) : Runner ω :=
  (List.range r.sessions.length).foldl (fun r number => r.deliverExit a number) r

end Runner

/-- A run has ended with another exit code than zero. -/
structure UnexpectedExit where
  exitCode : Int
  recentLines : List Text
  deriving DecidableEq, Repr

def UnexpectedExit.message (e : UnexpectedExit) : Text :=
  "Test failed with exit code: ".toList ++ Text.ofInt e.exitCode

/-- The bad end of a session, reported together with recent lines of the log. -/
def Session.unexpectedExit? (s : Session) (recentLines : List Text) : Option UnexpectedExit :=
  match s.engine.outcome, s.engine.exitCode with
  | some .completed, some code => if code = 0 then none else some ⟨code, recentLines⟩
  | _, _ => none

end ScriptRun.Run
