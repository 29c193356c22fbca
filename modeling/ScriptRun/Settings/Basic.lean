import ScriptRun.Files.Path
import ScriptRun.Settings.Words
import ScriptRun.Yaml.Value

/-!
# Settings

The settings of a session have names and defaults. Only the command of the test tool is checked when
settings are made: it is a text that is cut into words, or a list of texts, and it is not empty. Any
other setting may have any value; what uses it says what it needs.
-/

namespace ScriptRun

open Yaml (Value)

abbrev Environment := List (Text × Text)

def Environment.get? (env : Environment) (name : String) : Option Text :=
  (env.find? fun v => v.1 = name.toList).map (·.2)

/-- The value of a variable that is set and not empty. -/
def Environment.given? (env : Environment) (name : String) : Option Text :=
  (env.get? name).bind fun t => if t.isEmpty then none else some t

structure Settings where
  /-- The words that start the test tool. -/
  toolCommand : List Text
  /-- The directory under which logs are kept. -/
  runDir : Value
  /-- The working directory of the tool; null for the current one. -/
  cwd : Value := .null
  /-- For how many seconds to wait for the port of the inspector. -/
  readinessTimeout : Value := .float 60.0
  /-- The first port tried for the inspector. -/
  inspectorPort : Value := .int 9333
  /-- For how many seconds a device list stays fresh. -/
  deviceListSeconds : Value := .float 10.0
  /-- How many recent lines of a log are kept in memory. -/
  recentLines : Value := .int 500
  /-- The file through which a mocked location is controlled. -/
  gpsControlPath : Value

namespace Settings

inductive Fault where
  | unknownKeys (names : List Text)
  /-- A key that is not a text is not known either. -/
  | unnamedKey
  | commandKind (shown : Text)
  /-- The command is of no suitable kind, and holds an integer that cannot be shown. -/
  | commandUnshowable
  | commandWords (fault : WordFault)
  | commandEmpty
  | notMapping (path : Text)
  deriving DecidableEq, Repr

def Fault.message : Fault → Text
  | .unknownKeys names => "Unknown config keys: ".toList ++ Text.join [',', ' '] names
  | .unnamedKey => "sequence item 0: expected str instance".toList
  | .commandKind shown =>
    "tool_command must be a string or list of strings, got ".toList ++ shown
  | .commandUnshowable => Decimal.unwritableMessage
  | .commandWords fault => fault.message
  | .commandEmpty => "tool_command must not be empty".toList
  | .notMapping path => "Invalid config file (expected mapping): ".toList ++ path

def unsuitable (value : Value) : Fault :=
  if value.isShowable then .commandKind value.shown else .commandUnshowable

def command (value : Value) : Except Fault (List Text) := do
  let argv ← match value with
    | .str t =>
      match words t with
      | .ok argv => .ok argv
      | .error fault => .error (.commandWords fault)
    | .list items =>
      match items.mapM Value.text? with
      | some argv => .ok argv
      | none => .error (unsuitable value)
    | _ => .error (unsuitable value)
  if argv.isEmpty then .error .commandEmpty else return argv

def default (env : Environment) : Settings :=
  { toolCommand := ["lumi-tester".toList]
    runDir := .str ((env.get? "LSE_RUN_DIR").getD "/tmp".toList)
    gpsControlPath := .str "/tmp/lumi-gps-control.json".toList }

def names : List Text :=
  ["tool_command", "run_dir", "cwd", "readiness_timeout_s", "inspector_base_port",
    "device_cache_ttl_s", "recent_log_lines", "gps_control_path"].map String.toList

def set (s : Settings) (name : Text) (value : Value) : Except Fault Settings :=
  if name = "tool_command".toList then do return { s with toolCommand := ← command value }
  else if name = "run_dir".toList then .ok { s with runDir := value }
  else if name = "cwd".toList then .ok { s with cwd := value }
  else if name = "readiness_timeout_s".toList then .ok { s with readinessTimeout := value }
  else if name = "inspector_base_port".toList then .ok { s with inspectorPort := value }
  else if name = "device_cache_ttl_s".toList then .ok { s with deviceListSeconds := value }
  else if name = "recent_log_lines".toList then .ok { s with recentLines := value }
  else if name = "gps_control_path".toList then .ok { s with gpsControlPath := value }
  else .error (.unknownKeys [name])

/-- Whether a name comes before another or is equal to it, by code points. -/
def nameLe (a b : Text) : Bool := !decide (b < a)

/-- The keys that name no setting, if there are any: their names in order, or the fault of a key
that is no text. -/
def unknown? (pairs : List (Value × Value)) : Option Fault :=
  let unknown := (pairs.map (·.1)).filter fun key =>
    match key with
    | .str name => !names.contains name
    | _ => true
  if unknown.isEmpty then none
  else
    match unknown.mapM Value.text? with
    | some found => some (.unknownKeys (found.mergeSort nameLe))
    | none => some .unnamedKey

def ofPairs (env : Environment) (pairs : List (Value × Value)) : Except Fault Settings :=
  match unknown? pairs with
  | some fault => .error fault
  | none =>
    pairs.foldlM (fun s p =>
      match p.1 with
      | .str name => s.set name p.2
      | _ => .error .unnamedKey) (default env)

def toJson (s : Settings) : Json :=
  .record [("tool_command", .arr (s.toolCommand.map Json.str)), ("run_dir", s.runDir.toJson),
    ("cwd", s.cwd.toJson), ("readiness_timeout_s", s.readinessTimeout.toJson),
    ("inspector_base_port", s.inspectorPort.toJson),
    ("device_cache_ttl_s", s.deviceListSeconds.toJson),
    ("recent_log_lines", s.recentLines.toJson), ("gps_control_path", s.gpsControlPath.toJson)]

/-- The directory of a session, if the directory for runs is a path. -/
def sessionDir? (s : Settings) : Option Text :=
  match s.runDir with
  | .str dir => some (Files.Path.join dir "lse-session".toList)
  | _ => none

end Settings

end ScriptRun
