import ScriptRun.Files.Reading
import ScriptRun.Files.Tree
import ScriptRun.Settings.Basic
import ScriptRun.Yaml.Load

/-!
# Loading settings

Settings come from defaults, then from a file, then from the environment, each overriding the one
before. The file is the one named by the caller, or by `LSE_CONFIG`, or `lse.yaml` if that exists.
A variable that is empty counts as not set.
-/

namespace ScriptRun.Settings

open Yaml (Value)

inductive LoadFault where
  | file (fault : Files.Fault)
  /-- What is wrong with a document, and the name of its file. -/
  | document (name : Text) (fault : Yaml.Fault)
  | settings (fault : Fault)
  deriving DecidableEq, Repr

def LoadFault.message : LoadFault → Text
  | .file fault => fault.message
  | .document name fault => fault.message name
  | .settings fault => fault.message

/-- The name of the settings file that is read when none is named. -/
def defaultFile : Text := "lse.yaml".toList

/-- How many characters of a settings file are read at a time. -/
def pieceSize : Nat := 4096

def fileValue (tree : Files.Tree) (path : Text) : Except LoadFault Value :=
  match tree.bytes path with
  | .error cause => .error (.file (.system cause path none))
  | .ok bytes =>
    let (pieces, stops) := Files.textPieces pieceSize bytes
    (Yaml.load pieces stops).mapError (.document path)

/-- The pairs of a settings file. A file that holds nothing has none. -/
def filePairs (tree : Files.Tree) (path : Text) : Except LoadFault (List (Value × Value)) := do
  let value ← fileValue tree path
  if !value.truthy then return []
  else
    match value with
    | .map pairs => return pairs
    | _ => .error (.settings (.notMapping path))

def chosenFile (tree : Files.Tree) (env : Environment) (path : Option Text) : Option Text :=
  let named := path.bind fun p => if p.isEmpty then none else some p
  match named.or (env.given? "LSE_CONFIG") with
  | some path => some path
  | none => if tree.isFile defaultFile then some defaultFile else none

def override (env : Environment) (s : Settings) : Except LoadFault Settings := do
  let s ← match env.given? "LSE_TOOL" with
    | some tool =>
      match command (.str tool) with
      | .ok toolCommand => .ok { s with toolCommand }
      | .error fault => .error (.settings fault)
    | none => .ok s
  return match env.given? "LSE_RUN_DIR" with
    | some dir => { s with runDir := .str dir }
    | none => s

def load (tree : Files.Tree) (env : Environment) (path : Option Text) :
    Except LoadFault Settings := do
  let s ← match chosenFile tree env path with
    | some path => do
      let pairs ← filePairs tree path
      match ofPairs env pairs with
      | .ok s => .ok s
      | .error fault => .error (.settings fault)
    | none => .ok (default env)
  override env s

end ScriptRun.Settings
