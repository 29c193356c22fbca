import ScriptRun.CommandLine.World
import ScriptRun.Device.Catalog

/-!
# Commands about devices and the inspector
-/

namespace ScriptRun.CommandLine

open Inspect

def deviceLine (d : Device) : Text :=
  Text.alignLeft 24 d.id ++ ' ' :: Text.alignLeft 8 d.platform ++ ' ' :: Text.alignLeft 10 d.type ++
    ' ' :: Text.alignLeft 10 d.state ++ ' ' :: d.name

/-- Lists the devices. No sources are connected to the command line, so there is only the
browser. -/
def listDevices (json : Bool) (refresh : Bool) : Act Int := do
  let catalog : Device.Catalog := { sources := [] }
  let (devices, _) := catalog.refresh refresh (({} : Time.Clock).reading)
  if json then report (.record [("devices", .arr (devices.map Device.toJson))])
  else if devices.isEmpty then say "no devices".toList
  else devices.forM fun d => say (deviceLine d)
  return 0

/-- Naps until a served inspector has exited, polling it before each nap. The answer tells whether
it has exited within the given number of polls. -/
def awaitExit (serving : Serving) : Nat → Inspector Unit → Bool × Inspector Unit
  | 0, i => (false, i)
  | polls + 1, i =>
    match i.isRunning serving with
    | (false, i) => (true, i)
    | (true, i) => awaitExit serving polls i

/-- A listener to which nothing matters. -/
def deaf : Status.Listener Unit := .observing fun _ _ => ()

def keepLauncher (i : Inspector Unit) : Act Unit := modify fun w => { w with launcher := i.launcher }

/-- Keeps a served inspector running until it exits or the user interrupts it. -/
def keepServing (serving : Serving) (i : Inspector Unit) : Act Int := do
  let polls := ((← get).patience.map (· + 1)).getD Port.manyRounds
  match awaitExit serving polls i with
  | (false, i) =>
    keepLauncher (i.stop deaf).2
    return 0
  | (true, i) =>
    let (returned, i) := i.poll serving.process
    keepLauncher i
    refuse 1 ("inspector exited with code ".toList ++
      ((returned.map Text.ofInt).getD "None".toList))

def inspect (s : Settings) (json : Bool) (request : InspectRequest) : Act Int := do
  let w ← get
  let tool := s.tool w.tree w.environment
  let device := request.device.filter fun id => !id.isEmpty
  let i : Inspector Unit := { launcher := w.launcher, heard := () }
  match i.start deaf tool s w.ports request.platform device with
  | (.ok serving, i) =>
    keepLauncher i
    if json then
      report (.record [("url", .str serving.url), ("port", .int serving.port),
        ("pid", .int (i.launcher.process serving.process).id)])
    else say ("Inspector running at ".toList ++ serving.url ++ " (Ctrl+C to stop)".toList)
    keepServing serving i
  | (.error fault, i) =>
    keepLauncher i
    match fault with
    | .missing _ | .refused _ => refuse notStarted fault.message
    | .notReady _ | .search (.noneFree ..) => refuse 1 fault.message
    | .port _ | .search _ | .launch _ | .timeout _ => throw (.inspect fault)

end ScriptRun.CommandLine
