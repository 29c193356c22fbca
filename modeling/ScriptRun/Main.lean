import ScriptRun.CommandLine.Program

/-!
# The outermost layer

The program sees the files that its command line, its variables and the default settings name; what
it changes is written afterwards. No sockets are opened and no processes are launched from here:
every port counts as free and as silent, and every launch is refused.
-/

namespace ScriptRun.CommandLine

/-- The variables that the program looks at. -/
def watched : List String := ["LSE_CONFIG", "LSE_TOOL", "LSE_RUN_DIR", "PATH"]

def environment : IO Environment := do
  let found ← watched.mapM fun name => return (name, ← IO.getEnv name)
  return found.filterMap fun (name, value) => value.map fun v => (name.toList, v.toList)

/-- The paths that words name, each alone or after an equals sign. -/
def namedPaths (words : List Text) : List Text :=
  words ++ words.filterMap fun word => (splitEquals word).2

/-- The file under a path, if it can be read. Only paths from the working directory are tried. -/
def fileAt (path : Text) : IO (Option (Text × Files.Node)) := do
  if path.isEmpty || path.head? = some '/' then return none
  try
    let bytes ← IO.FS.readBinFile (String.ofList path)
    return some (path, .file bytes.toList false)
  catch _ => return none

def keep (entry : Text × Files.Node) : IO Unit :=
  match entry with
  | (path, .directory) => IO.FS.createDirAll (String.ofList path)
  | (path, .file bytes _) => IO.FS.writeBinFile (String.ofList path) ⟨bytes.toArray⟩

def world (words : List Text) : IO World := do
  let found ← environment
  let paths := Settings.defaultFile :: namedPaths words ++ found.map (·.2)
  let files ← paths.filterMapM fileAt
  let refusal := Run.numberedReason 38 "Function not implemented".toList
  return {
    tree := .ofEntries files
    environment := found
    launcher := { fault := some (.refused refusal) }
    ports := { isFree := fun _ => true, accepts := fun _ => false } }

end ScriptRun.CommandLine

open ScriptRun CommandLine in
/-- Carries out a command line; the answer is the exit code. -/
def main (args : List String) : IO UInt32 := do
  let words := args.map String.toList
  let before ← world words
  let (ending, after) := program words before
  (after.tree.changedFrom before.tree).forM keep
  IO.print (String.ofList after.printed)
  match ending with
  | .exited code => return UInt32.ofNat (code % 256).toNat
  | .halted halt => return UInt32.ofNat halt.exitCode.toNat
  | .broken breakdown =>
    IO.eprintln (String.ofList breakdown.message)
    return 1
