import ScriptRun.CommandLine.World
import ScriptRun.Gps.Control

/-!
# Commands to a mocked location
-/

namespace ScriptRun.CommandLine

def GpsRequest.word : GpsRequest → Text
  | .speed _ => "speed".toList
  | .mode _ => "mode".toList
  | .pause => "pause".toList
  | .resume => "resume".toList

def GpsRequest.read : GpsRequest → Except Gps.Fault Gps.Request
  | .speed word =>
    match Decimal.readFloat? word with
    | some kmh => .ok (.speed (.float kmh))
    | none => .error (.noNumeral word)
  | .mode word => .ok (.mode (.str word))
  | .pause => .ok .pause
  | .resume => .ok .resume

/-- The word for the kind of a setting that is no path. -/
def kindName (setting : Yaml.Value) : Text :=
  match setting with
  | .moment _ => "datetime.".toList ++ setting.kind
  | _ => setting.kind

def refuseLocation (path : Text) (fault : Gps.Fault) : Act Int :=
  match fault with
  | .file fault =>
    if fault.isRefusal then
      refuse 1 ("could not write ".toList ++ path ++ ':' :: ' ' :: fault.message)
    else refuse misused fault.message
  | fault => refuse misused fault.message

def sendTo (json : Bool) (request : GpsRequest) (given : Gps.Request) (path : Text) : Act Int := do
  let (sent, tree) := Gps.carryOut path given (← get).tree
  modify fun w => { w with tree }
  match sent with
  | .error fault => refuseLocation path fault
  | .ok c =>
    if json then report (.record [("path", .str path), ("command", c.toJson)])
    else say ("gps ".toList ++ request.word ++ " sent to ".toList ++ path)
    return 0

/-- Moves a draft to a path that is given by its bytes. -/
def moveToBytes (json : Bool) (request : GpsRequest) (draft : Text) (target : List UInt8) :
    Act Int := do
  let shown := Text.quotedBytes target
  if target.contains 0 then refuse misused "replace: embedded null character in dst".toList
  else
    let (moved, tree) :=
      (Files.Store.rename draft (Text.Utf8.decode target) : Files.Action Files.Tree Unit).outcome
        (← get).tree
    modify fun w => { w with tree }
    match moved with
    | .ok () =>
      if json then throw (.unprintable shown)
      else
        say ("gps ".toList ++ request.word ++ " sent to ".toList ++ shown)
        return 0
    | .error (.system cause _ _) =>
      let refusal := (Files.Fault.system cause draft none).message
      refuse 1 ("could not write ".toList ++ shown ++ ':' :: ' ' :: refusal ++ " -> ".toList ++ shown)
    | .error fault => refuseLocation shown (.file fault)

/-- Sends a command although the setting for its file is no text: it is prepared in a file that is
named after the setting. From there it can be moved only if the setting gives the bytes of a path. -/
def sendToValue (json : Bool) (request : GpsRequest) (given : Gps.Request) (setting : Yaml.Value) :
    Act Int := do
  match given.command with
  | .error fault => refuse misused fault.message
  | .ok c =>
    if !setting.isShowable then refuse misused Decimal.unwritableMessage
    else
      let draft := Gps.draftPath setting.name
      let (written, tree) :=
        (Files.Store.write draft c.text : Files.Action Files.Tree Unit).outcome (← get).tree
      modify fun w => { w with tree }
      match written, setting with
      | .error fault, _ => refuseLocation setting.name (.file fault)
      | .ok (), .bytes target => moveToBytes json request draft target
      | .ok (), _ =>
        refuse misused
          ("replace: dst should be string, bytes or os.PathLike, not ".toList ++ kindName setting)

def controlLocation (s : Settings) (json : Bool) (request : GpsRequest) : Act Int :=
  match request.read with
  | .error fault => refuse misused fault.message
  | .ok given =>
    match s.gpsControlPath with
    | .str path => sendTo json request given path
    | setting => sendToValue json request given setting

end ScriptRun.CommandLine
