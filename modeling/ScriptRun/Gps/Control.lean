import ScriptRun.Decimal.Reading
import ScriptRun.Files.Memory
import ScriptRun.Json.Printer
import ScriptRun.Yaml.Value

/-!
# Controlling a mocked location

While a script replays a route, the test tool polls a small file, applies the command that it finds
there, and deletes the file. A command is written to a file beside it first and then moved there, so
that the tool never reads half of one. A request that is refused writes nothing.
-/

namespace ScriptRun.Gps

/-- How the speed varies along a route. -/
inductive Mode where
  | linear
  | noise
  deriving DecidableEq, Repr

namespace Mode

/-- All modes, in the order in which messages list them. -/
def all : List Mode := [.linear, .noise]

def word : Mode → Text
  | .linear => "linear".toList
  | .noise => "noise".toList

end Mode

inductive Command where
  /-- A speed in kilometres per hour. -/
  | speed (kmh : Float)
  | mode (m : Mode)
  | paused (holds : Bool)

/-- A command as data: one named value. -/
def Command.toJson : Command → Json
  | .speed kmh => .record [("speed", .float kmh)]
  | .mode m => .record [("speedMode", .str m.word)]
  | .paused holds => .record [("paused", .bool holds)]

/-- The content of the control file for a command. -/
def Command.text (c : Command) : Text := c.toJson.text .command

/-- What a user asks for, with values as they were given. -/
inductive Request where
  | speed (value : Json)
  | mode (value : Json)
  | pause
  | resume

inductive Fault where
  | noNumeral (speed : Text)
  /-- The speed is an integer beyond all floats. -/
  | tooLarge
  /-- The speed is neither a number nor a text. -/
  | unsuitable
  | notPositive (shown : Text)
  | unknownMode (shown : Text)
  | file (fault : Files.Fault)
  deriving DecidableEq, Repr

def Fault.message : Fault → Text
  | .noNumeral speed => "could not convert string to float: ".toList ++ Text.quoted speed
  | .tooLarge => "int too large to convert to float".toList
  | .unsuitable => "speed must be a number".toList
  | .notPositive shown => "speed must be a positive number of km/h, got ".toList ++ shown
  | .unknownMode shown =>
    "speed mode must be one of ".toList ++ Text.join [',', ' '] (Mode.all.map Mode.word) ++
      ", got ".toList ++ shown
  | .file fault => fault.message

def readSpeed : Json → Except Fault Float
  | .int n =>
    match Decimal.ofInt? n with
    | some x => .ok x
    | none => .error .tooLarge
  | .float x => .ok x
  | .bool b => .ok (if b then 1.0 else 0.0)
  | .str t =>
    match Decimal.readFloat? t with
    | some x => .ok x
    | none => .error (.noNumeral t)
  | .null | .arr _ | .obj _ => .error .unsuitable

/-- The command of a request. A speed must be positive and finite, and a mode one of the modes. -/
def Request.command : Request → Except Fault Command
  | .speed value => do
    let kmh ← readSpeed value
    if kmh.isFinite && 0.0 < kmh then return .speed kmh
    else .error (.notPositive (Yaml.Value.ofJson value).shown)
  | .mode value =>
    let found : Option Mode := match value with
      | .str word => Mode.all.find? fun m => m.word == word
      | _ => none
    match found with
    | some m => .ok (.mode m)
    | none => .error (.unknownMode (Yaml.Value.ofJson value).shown)
  | .pause => .ok (.paused true)
  | .resume => .ok (.paused false)

/-- The path of the file in which a command is prepared. -/
def draftPath (path : Text) : Text := path ++ ".tmp".toList

def send {σ : Type} [Files.Store σ] (path : Text) (c : Command) : Files.Action σ Unit := do
  Files.Store.write (draftPath path) c.text
  Files.Store.rename (draftPath path) path

/-- Carries out a request; the answer is the command that was sent. -/
def carryOut {σ : Type} [Files.Store σ] (path : Text) (request : Request) (s : σ) :
    Except Fault Command × σ :=
  match request.command with
  | .error fault => (.error fault, s)
  | .ok c =>
    match (send path c).outcome s with
    | (.ok (), s) => (.ok c, s)
    | (.error fault, s) => (.error (.file fault), s)

/-- The tool reads the control file and deletes it; the answer is what it has read. -/
def collect (path : Text) (m : Files.Memory) : Option Text × Files.Memory :=
  (m.get? path, m.erase path)

end ScriptRun.Gps
