import ScriptRun.Text.Basic

/-!
# Paths

A path is a text cut at slashes. Joining puts one slash between a directory and a name, unless the
name is a path from the root.
-/

namespace ScriptRun.Files.Path

/-- The part of a path up to its last slash, and the part after it. -/
def cut (path : Text) : Text × Text :=
  let name := (path.reverse.takeWhile (· ≠ '/')).reverse
  (path.take (path.length - name.length), name)

/-- The path of the directory that holds a path; empty for a bare name. -/
def parent (path : Text) : Text :=
  let head := (cut path).1
  let bare := (head.reverse.dropWhile (· = '/')).reverse
  if bare.isEmpty then head else bare

/-- The last name of a path; empty if the path ends in a slash. -/
def name (path : Text) : Text := (cut path).2

def join (directory path : Text) : Text :=
  if path.head? = some '/' then path
  else if directory.isEmpty ∨ directory.getLast? = some '/' then directory ++ path
  else directory ++ '/' :: path

end ScriptRun.Files.Path
