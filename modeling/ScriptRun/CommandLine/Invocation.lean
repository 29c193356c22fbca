import ScriptRun.CommandLine.GlobalFlags
import ScriptRun.CommandLine.Grammar
import ScriptRun.Decimal.Reading
import ScriptRun.Device.Basic
import ScriptRun.Gps.Control

/-!
# What a command line asks for

The program has seven commands: listing the commands of a script, running one, listing devices,
finding a free port, waiting for a port, serving the inspector, and controlling a mocked location.
-/

namespace ScriptRun.CommandLine

structure RunRequest where
  file : Text := []
  index : Option Int := none
  platform : Option Text := none
  device : Option Text := none
  /-- The file to which events are added. -/
  events : Option Text := none
  deriving DecidableEq, Repr

structure InspectRequest where
  platform : Text := []
  device : Option Text := none
  deriving DecidableEq, Repr

/-- A command to a mocked location, with its value as it was written. -/
inductive GpsRequest where
  | speed (value : Text)
  | mode (value : Text)
  | pause
  | resume
  deriving DecidableEq, Repr

inductive Action where
  | commands (file : Text)
  | run (request : RunRequest)
  | devices (refresh : Bool)
  | freePort (first : Option Int)
  | waitPort (port : Int) (timeout : Float)
  | inspect (request : InspectRequest)
  | gps (request : GpsRequest)

structure Invocation where
  /-- Whether answers are written as data. -/
  json : Bool := false
  /-- The settings file. -/
  config : Option Text := none
  verbose : Bool := false
  action : Action := .devices false

namespace Invocation

/-! ## Values -/

def onRun (change : RunRequest → RunRequest) (i : Invocation) : Invocation :=
  match i.action with
  | .run request => { i with action := .run (change request) }
  | _ => i

def onInspect (change : InspectRequest → InspectRequest) (i : Invocation) : Invocation :=
  match i.action with
  | .inspect request => { i with action := .inspect (change request) }
  | _ => i

def integer? (word : Text) : Option Int := (Decimal.readInt word).toOption

def platform? (word : Text) : Option Text :=
  if Device.platforms.contains word then some word else none

/-! ## Switches -/

def helpSwitch : Switch Invocation := { names := ["-h".toList, "--help".toList], effect := .help }

def valued (name : String) (change : Text → Invocation → Option Invocation)
    (required : Bool) : Switch Invocation :=
  { names := [name.toList], effect := .value change, required }

def programSwitches : List (Switch Invocation) :=
  [helpSwitch,
    { names := ["--json".toList], effect := .flag fun i => { i with json := true } },
    valued "--config" (fun word i => some { i with config := some word }) false,
    { names := ["-v".toList, "--verbose".toList]
      effect := .flag fun i => { i with verbose := true } }]

def runSwitches : List (Switch Invocation) :=
  [helpSwitch,
    valued "--command-index"
      (fun word i => (integer? word).map fun n => i.onRun fun r => { r with index := some n })
      false,
    valued "--platform"
      (fun word i => (platform? word).map fun p => i.onRun fun r => { r with platform := some p })
      false,
    valued "--device" (fun word i => some (i.onRun fun r => { r with device := some word })) false,
    valued "--events" (fun word i => some (i.onRun fun r => { r with events := some word })) false]

def inspectSwitches : List (Switch Invocation) :=
  [helpSwitch,
    valued "--platform"
      (fun word i => (platform? word).map fun p => i.onInspect fun r => { r with platform := p })
      true,
    valued "--device" (fun word i => some (i.onInspect fun r => { r with device := some word }))
      false]

/-! ## Grammars -/

def acting (action : Action) (i : Invocation) : Invocation := { i with action }

def gpsCommands : Commands Invocation :=
  .more "speed".toList id
    (.operand [helpSwitch] fun word i => some (i.acting (.gps (.speed word)))) <|
  .more "mode".toList id
    (.operand [helpSwitch] fun word i =>
      if (Gps.Mode.all.map Gps.Mode.word).contains word then some (i.acting (.gps (.mode word)))
      else none) <|
  .more "pause".toList (acting (.gps .pause)) (.bare [helpSwitch]) <|
  .more "resume".toList (acting (.gps .resume)) (.bare [helpSwitch]) .none

def commands : Commands Invocation :=
  .more "commands".toList id
    (.operand [helpSwitch] fun word i => some (i.acting (.commands word))) <|
  .more "run".toList (acting (.run {}))
    (.operand runSwitches fun word i => some (i.onRun fun r => { r with file := word })) <|
  .more "devices".toList (acting (.devices false))
    (.bare [helpSwitch,
      { names := ["--refresh".toList], effect := .flag (acting (.devices true)) }]) <|
  .more "free-port".toList (acting (.freePort none))
    (.bare [helpSwitch,
      valued "--start"
        (fun word i => (integer? word).map fun n => i.acting (.freePort (some n))) false]) <|
  .more "wait-port".toList (acting (.waitPort 0 60.0))
    (.operand [helpSwitch,
      valued "--timeout"
        (fun word i =>
          match i.action with
          | .waitPort port _ => (Decimal.readFloat? word).map fun t => i.acting (.waitPort port t)
          | _ => none) false]
      fun word i =>
        match i.action with
        | .waitPort _ timeout => (integer? word).map fun port => i.acting (.waitPort port timeout)
        | _ => none) <|
  .more "inspect".toList (acting (.inspect {})) (.bare inspectSwitches) <|
  .more "gps".toList id (.command [helpSwitch] gpsCommands) .none

def grammar : Grammar Invocation := .command programSwitches commands

def ofWords (words : List Text) : Except Halt Invocation :=
  grammar.parse (withFlagsFirst words) {}

end Invocation

end ScriptRun.CommandLine
