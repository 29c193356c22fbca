import ScriptRun.Device.Basic

/-!
# Arguments of the test tool

The arguments that make the test tool run a script, or serve its inspector on a port.
-/

namespace ScriptRun.Run

/-- A command index below zero. -/
structure NegativeIndex where
  index : Int
  deriving DecidableEq, Repr

def NegativeIndex.message (e : NegativeIndex) : Text :=
  "command index must be >= 0, got ".toList ++ Text.ofInt e.index

def deviceArguments : Option Device → List Text
  | some d => ["--platform".toList, d.platform, "--device".toList, d.id]
  | none => []

/-- The arguments that run a script, or only the command with an index, on a device. -/
def arguments (file : Text) (index : Option Int) (device : Option Device) :
    Except NegativeIndex (List Text) :=
  match index with
  | none => .ok (["run".toList, file] ++ deviceArguments device)
  | some i =>
    if i < 0 then .error ⟨i⟩
    else
      .ok (["run".toList, file, "--command-index".toList, Text.ofInt i] ++ deviceArguments device)

/-- The arguments that serve the inspector. An empty device identifier is not passed on. -/
def inspectArguments (platform : Text) (port : Int) (device : Option Text) : List Text :=
  ["inspect".toList, "--platform".toList, platform, "--port".toList, Text.ofInt port] ++
    match device with
    | some id => if id.isEmpty then [] else ["--device".toList, id]
    | none => []

end ScriptRun.Run
