import ScriptRun.Port.Search
import ScriptRun.Port.Waiting
import ScriptRun.Run.Runner
import ScriptRun.Settings.Limits
import ScriptRun.Time.Clock

/-!
# The inspector

The test tool can serve an inspector of the user interface on a local port. An inspector looks for a
free port, starts the tool on it, and waits until the port accepts a connection. If the tool exits
first or the time runs out, the process is stopped and the start fails. There is at most one current
inspector; starting another one stops it.

The output of the tool drives an engine, as that of a run does, for as long as the process lives. A
start consists of three phases, between which readers and pumps may take steps of their own.
-/

namespace ScriptRun.Inspect

open Run Settings Status

/-- What is known of the ports: which are free, and how each attempt to connect ends. -/
structure Ports where
  isFree : Int → Bool
  accepts : Nat → Bool

/-- An inspector that is served. -/
structure Serving where
  process : Nat
  port : Int
  platform : Text
  device : Option Text
  /-- The number of the session that takes the output. -/
  output : Nat
  deriving DecidableEq, Repr

def Serving.url (s : Serving) : Text := "http://localhost:".toList ++ Text.ofInt s.port

inductive StartFault where
  | port (fault : PortFault)
  | search (fault : Port.SearchFault)
  | missing (fault : ToolMissing)
  | refused (reason : Text)
  | launch (fault : LaunchFault)
  | timeout (fault : SecondsFault)
  | notReady (fault : Port.NotReady)

def StartFault.message : StartFault → Text
  | .port fault => fault.message
  | .search fault => fault.message
  | .missing fault => fault.message
  | .refused reason => reason
  | .launch fault => fault.message
  | .timeout fault => fault.message
  | .notReady fault => fault.message

structure Inspector (ω : Type) where
  launcher : Launcher := {}
  /-- The sessions that take the output, one for each process. -/
  outputs : List Session := []
  current : Option Serving := none
  clock : Time.Clock := {}
  /-- How many ports were tried. -/
  probes : Nat := 0
  /-- How many connections were tried. -/
  attempts : Nat := 0
  heard : ω

namespace Inspector

variable {ω : Type}

/-- Does something with an output session and the state of the listener. -/
def withOutput (i : Inspector ω) (number : Nat) (act : Session → ω → Session × ω) :
    Inspector ω :=
  match i.outputs[number]? with
  | none => i
  | some s =>
    let (s, heard) := act s i.heard
    { i with outputs := i.outputs.set number s, heard }

def withEngine (i : Inspector ω) (number : Nat) (act : Live ω → Live ω) : Inspector ω :=
  i.withOutput number fun s heard =>
    let live := act ⟨s.engine, heard⟩
    ({ s with engine := live.engine }, live.heard)

def poll (i : Inspector ω) (process : Nat) : Option Int × Inspector ω :=
  let (returned, launcher) := i.launcher.withProcess process Child.poll
  (returned, { i with launcher })

/-- Stops a process; the answer tells whether it is gone. -/
def stopProcess (i : Inspector ω) (process : Nat) : Bool × Inspector ω :=
  let (gone, launcher) := i.launcher.withProcess process (·.stop Child.stopSeconds)
  (gone, { i with launcher })

/-- Stops the current inspector; the answer tells whether there was one and its process is gone. -/
def stop (l : Listener ω) (i : Inspector ω) : Bool × Inspector ω :=
  match i.current with
  | none => (false, i)
  | some serving =>
    let i := { i with current := none }
    (i.withEngine serving.output fun live => (live.stop l).2).stopProcess serving.process

/-! ## The phases of a start -/

/-- Publishes that the tool could not be started. -/
def spawnFailed (l : Listener ω) (engine : Engine) (reason : Text) (i : Inspector ω) :
    Inspector ω :=
  { i with heard := ((⟨engine, i.heard⟩ : Live ω).spawnFailed l reason).2.heard }

/-- The name under which the output of an inspector is reported. -/
def label (platform : Text) : Text := "inspect:".toList ++ platform

def launch (l : Listener ω) (tool : Tool) (platform : Text) (device : Option Text) (port : Int)
    (i : Inspector ω) : Except StartFault Serving × Inspector ω :=
  let engine := Engine.new (label platform) Text.defaultLineLimit
  match tool.argv (inspectArguments platform port device) with
  | .error fault => (.error (.missing fault), i.spawnFailed l engine fault.message)
  | .ok argv =>
    let (launched, launcher) := i.launcher.launch argv tool.cwd
    let i := { i with launcher }
    match launched with
    | .ok process =>
      let output := i.outputs.length
      let session := Session.begun (label platform) argv process (launcher.process process) engine
      (.ok { process, port, platform, device, output },
        { i with outputs := i.outputs ++ [session] })
    | .error (.refused reason) =>
      let reason := refusal argv reason
      (.error (.refused reason), i.spawnFailed l engine reason)
    | .error fault => (.error (.launch fault), i)

/-- The first phase: stops the current inspector, finds a port and launches the tool on it. -/
def prepare (l : Listener ω) (tool : Tool) (first : Except PortFault Int) (ports : Ports)
    (platform : Text) (device : Option Text) (i : Inspector ω) :
    Except StartFault Serving × Inspector ω :=
  let i := (i.stop l).2
  match first with
  | .error fault => (.error (.port fault), i)
  | .ok first =>
    let (found, tried) := Port.findFree ports.isFree first none
    let i := { i with probes := i.probes + tried.length }
    match found with
    | .error fault => (.error (.search fault), i)
    | .ok port => i.launch l tool platform device port

/-- What the wait for the port of a process sees and does. -/
def surroundings (ports : Ports) (process : Nat) : Port.Surroundings (Inspector ω) Float where
  hasExited i := let (returned, i) := i.poll process; (returned.isSome, i)
  connects i := (ports.accepts i.attempts, { i with attempts := i.attempts + 1 })
  now i := i.clock.reading
  pause i := { i with clock := (i.clock.sleep Port.backoff).2 }

/-- The second phase: waits until the port accepts a connection. -/
def awaitPort (ports : Ports) (timeout : Number) (serving : Serving) (i : Inspector ω) :
    Port.Wait × Inspector ω :=
  Port.waitUntil (surroundings ports serving.process) (i.clock.reading + timeout.toFloat)
    Port.manyRounds i

/-- The third phase: the inspector becomes the current one if its port is ready, and its process is
stopped otherwise. -/
def conclude (l : Listener ω) (timeout : Number) (serving : Serving) (wait : Port.Wait)
    (i : Inspector ω) : Except StartFault Serving × Inspector ω :=
  if wait.isReady then (.ok serving, { i with current := some serving })
  else
    let (returned, i) := i.poll serving.process
    let i := i.withEngine serving.output fun live =>
      (live.readinessTimedOut l serving.port timeout).2
    let (_, i) := i.stopProcess serving.process
    (.error (.notReady { port := serving.port, timeout, exited := returned.isSome }), i)

/-! ## What readers and pumps do -/

/-- The pump of an output session hands over the exit code, if the process has exited. -/
def deliverExit (l : Listener ω) (number : Nat) (i : Inspector ω) : Inspector ω :=
  i.withOutput number fun s heard =>
    match (i.launcher.process s.process).returned with
    | some code => s.deliverExit l code heard
    | none => (s, heard)

/-- The readers and the pump of an output session go as far as they can. -/
def drain (l : Listener ω) (number : Nat) (i : Inspector ω) : Inspector ω :=
  (i.withOutput number fun s heard => s.drain l heard).deliverExit l number

/-- The pumps of all output sessions hand over the exit codes of the processes that have exited. -/
def deliverExits (l : Listener ω) (i : Inspector ω) : Inspector ω :=
  (List.range i.outputs.length).foldl (fun i number => i.deliverExit l number) i

/-- Starts an inspector, with the readers and the pump running to the end before the wait. -/
def start (l : Listener ω) (tool : Tool) (s : Settings) (ports : Ports) (platform : Text)
    (device : Option Text) (i : Inspector ω) : Except StartFault Serving × Inspector ω :=
  match i.prepare l tool s.firstPort ports platform device with
  | (.error fault, i) => (.error fault, i)
  | (.ok serving, i) =>
    let i := i.drain l serving.output
    match secondsOf s.readinessTimeout with
    | .error fault => (.error (.timeout fault), i)
    | .ok timeout =>
      let (wait, i) := i.awaitPort ports timeout serving
      i.conclude l timeout serving wait

def isRunning (i : Inspector ω) (serving : Serving) : Bool × Inspector ω :=
  let (returned, i) := i.poll serving.process
  (returned.isNone, i)

end Inspector

end ScriptRun.Inspect
