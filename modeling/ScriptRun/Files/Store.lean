import ScriptRun.Files.Fault

/-!
# File stores

What a program that keeps texts in files needs: reading, writing, appending, asking for a file,
making a directory, and renaming. An operation that fails may have changed the store before it
failed.
-/

namespace ScriptRun.Files

abbrev Action (σ : Type) := EStateM Fault σ

/-- A place that keeps texts under paths. -/
class Store (σ : Type) where
  /-- The content of a file. -/
  read : Text → Action σ Text
  /-- Replaces the content of a file, or makes it. -/
  write : Text → Text → Action σ Unit
  /-- Adds to the end of a file, or makes it. -/
  append : Text → Text → Action σ Unit
  /-- Whether there is something under a path. -/
  contains : σ → Text → Bool
  /-- Makes a directory and those above it, unless it is there. -/
  ensureDirectory : Text → Action σ Unit
  /-- Gives a file another path, replacing what is there. -/
  rename : Text → Text → Action σ Unit

/-- Runs an operation: its outcome and the store afterwards. -/
def Action.outcome {σ α : Type} (action : Action σ α) (s : σ) : Except Fault α × σ :=
  match action.run s with
  | .ok value s => (.ok value, s)
  | .error fault s => (.error fault, s)

end ScriptRun.Files
