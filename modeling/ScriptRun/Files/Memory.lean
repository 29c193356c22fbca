import ScriptRun.Files.Store

/-!
# Files in memory

A map from paths to texts. Paths are plain names: no directory needs to exist, and making one only
notes that it was asked for.
-/

namespace ScriptRun.Files

/-- Texts under paths, and the directories that were asked for. -/
structure Memory where
  files : List (Text × Text) := []
  directories : List Text := []
  deriving DecidableEq, Repr

namespace Memory

def lookup (path : Text) : List (Text × Text) → Option Text
  | [] => none
  | (other, content) :: rest => if other = path then some content else lookup path rest

def put (path content : Text) : List (Text × Text) → List (Text × Text)
  | [] => [(path, content)]
  | (other, old) :: rest =>
    if other = path then (path, content) :: rest else (other, old) :: put path content rest

def remove (path : Text) (files : List (Text × Text)) : List (Text × Text) :=
  files.filter fun f => f.1 != path

def get? (m : Memory) (path : Text) : Option Text := lookup path m.files

def set (m : Memory) (path content : Text) : Memory :=
  { m with files := put path content m.files }

def erase (m : Memory) (path : Text) : Memory := { m with files := remove path m.files }

theorem lookup_put_self (path content : Text) (files : List (Text × Text)) :
    lookup path (put path content files) = some content := by
  induction files with
  | nil => simp [put, lookup]
  | cons f rest ih =>
    obtain ⟨other, old⟩ := f
    by_cases h : other = path <;> simp [put, lookup, h, ih]

theorem lookup_put_of_ne {path other : Text} (h : other ≠ path) (content : Text)
    (files : List (Text × Text)) :
    lookup path (put other content files) = lookup path files := by
  induction files with
  | nil => simp [put, lookup, h]
  | cons f rest ih =>
    obtain ⟨p, old⟩ := f
    by_cases h1 : p = other
    · simp [put, lookup, h1, h]
    · simp [put, lookup, h1, ih]

instance : Store Memory where
  read path := do
    match (← get).get? path with
    | some content => return content
    | none => throw (.missing path)
  write path content := modify fun m => m.set path content
  append path content := modify fun m => m.set path ((m.get? path).getD [] ++ content)
  contains m path := (m.get? path).isSome
  ensureDirectory path := modify fun m =>
    if m.directories.contains path then m
    else { m with directories := m.directories ++ [path] }
  rename path target := do
    match (← get).get? path with
    | some content => modify fun m => (m.erase path).set target content
    | none => throw (.missing path)

end Memory

end ScriptRun.Files
