import ScriptRun.Files.Tree
import ScriptRun.Settings.Basic

/-!
# Finding the test tool

The first word of the tool's command names a program. A file that may be executed is taken as it is;
a bare name is looked up in the directories of `PATH`, in order. An empty `PATH` has no directories,
but an empty entry of it is the working directory.
-/

namespace ScriptRun.Settings

structure ToolMissing where
  program : Text
  deriving DecidableEq, Repr

def ToolMissing.message (e : ToolMissing) : Text :=
  "Could not find ".toList ++ e.program ++ ". Set tool_command in lse.yaml or LSE_TOOL.".toList

/-- The directories that are searched for programs when `PATH` is not set. -/
def standardPath : Text := "/bin:/usr/bin".toList

def program? (tree : Files.Tree) (env : Environment) (name : Text) : Option Text :=
  if tree.isProgram name then some name
  else if !(Files.Path.parent name).isEmpty then none
  else
    let path := (env.get? "PATH").getD standardPath
    if path.isEmpty then none
    else
      ((Text.splitAt ':' path).map fun dir => Files.Path.join dir name).find? tree.isProgram

def resolvedTool (tree : Files.Tree) (env : Environment) (command : List Text) :
    Except ToolMissing (List Text) :=
  match command with
  | [] => .ok []
  | program :: arguments =>
    match program? tree env program with
    | some found => .ok (found :: arguments)
    | none => .error ⟨program⟩

structure Tool where
  /-- Its command as it was set. -/
  command : List Text
  /-- The command with its program found. -/
  resolved : Except ToolMissing (List Text)
  /-- The directory in which it runs; null for the current one. -/
  cwd : Yaml.Value

def tool (s : Settings) (tree : Files.Tree) (env : Environment) : Tool :=
  { command := s.toolCommand
    resolved := resolvedTool tree env s.toolCommand
    cwd := s.cwd }

def Tool.argv (t : Tool) (arguments : List Text) : Except ToolMissing (List Text) :=
  t.resolved.map (· ++ arguments)

end ScriptRun.Settings
