import ScriptRun.Files.Path
import ScriptRun.Files.Store
import ScriptRun.Text.Lines

/-!
# A tree of directories and files

The file system as seen from a working directory. A path is followed name by name: every name but
the last must lead to a directory. Files hold bytes; a text is written as UTF-8 and read back as
UTF-8 with unified line ends. Writing a file makes the directories above it.
-/

namespace ScriptRun.Files

inductive Node where
  | directory
  | file (bytes : List UInt8) (executable : Bool)
  deriving DecidableEq, Repr

/-- The place of a node: the names that lead to it, from the working directory, or from the root if
the first of them is a slash. -/
abbrev Place := List Text

/-- The nodes of a file system. The working directory, the root and what lies above the working
directory are directories without being listed. -/
structure Tree where
  nodes : List (Place × Node) := []
  deriving DecidableEq, Repr

/-- How a path ends: in a name, or in something that can only be a directory. -/
inductive Ending where
  | plain
  | slash
  | dots
  deriving DecidableEq, Repr

/-- Where a path leads: the place, what is there, and how the path ends. -/
structure Target where
  place : Place
  node : Option Node
  ending : Ending

namespace Tree

def root : Text := ['/']

/-- The most bytes that a name may have. -/
def longestName : Nat := 255

/-- Whether a place is a directory that is always there. -/
def isGiven (place : Place) : Bool :=
  place.all fun name => name = root || name = ['.', '.']

def lookup (place : Place) : List (Place × Node) → Option Node
  | [] => none
  | (other, node) :: rest => if other = place then some node else lookup place rest

def at? (t : Tree) (place : Place) : Option Node :=
  if isGiven place then some .directory else lookup place t.nodes

def place (spot : Place) (node : Node) : List (Place × Node) → List (Place × Node)
  | [] => [(spot, node)]
  | (other, old) :: rest =>
    if other = spot then (spot, node) :: rest else (other, old) :: place spot node rest

def put (t : Tree) (p : Place) (node : Node) : Tree := { t with nodes := place p node t.nodes }

def above (p : Place) : Place :=
  match p.getLast? with
  | none => [['.', '.']]
  | some name =>
    if name = root then [root] else if name = ['.', '.'] then p ++ [['.', '.']] else p.dropLast

def isTooLong (name : Text) : Bool := longestName < (Text.Utf8.encode name).length

/-- Follows names from a directory. The last name may lead nowhere, and then it may also be too
long. -/
def follow (t : Tree) (p : Place) : List Text → Except Cause (Place × Option Node)
  | [] => .ok (p, t.at? p)
  | name :: rest =>
    match t.at? p with
    | some .directory =>
      if name = [] ∨ name = ['.'] then t.follow p rest
      else if name = ['.', '.'] then t.follow (above p) rest
      else if !rest.isEmpty && isTooLong name then .error .nameTooLong
      else
        let next := p ++ [name]
        match t.at? next, rest with
        | none, [] => .ok (next, none)
        | none, _ => .error .notFound
        | some _, _ => t.follow next rest
    | some (.file ..) => .error .notDirectory
    | none => .error .notFound

/-- The names of a path without empty ones at its end. -/
def withoutTrailing (names : List Text) : List Text :=
  (names.reverse.dropWhile (·.isEmpty)).reverse

/-- Where a path leads, whether or not its last name can be looked up. -/
def locate (t : Tree) (path : Text) : Except Cause Target := do
  if path.contains '\x00' then .error .embeddedNull
  else if path.isEmpty then .error .notFound
  else
    let names := Text.splitAt '/' path
    let start : Place := if path.head? = some '/' then [root] else []
    let significant := withoutTrailing names
    let (p, node) ← t.follow start significant
    let ending :=
      match significant.getLast? with
      | none => .dots
      | some last =>
        if last = ['.'] ∨ last = ['.', '.'] then .dots
        else if significant.length < names.length then .slash else .plain
    return ⟨p, node, ending⟩

def isUnnameable (found : Target) : Bool := (found.place.getLast?.map Tree.isTooLong).getD false

def resolve (t : Tree) (path : Text) : Except Cause Target := do
  let found ← t.locate path
  if isUnnameable found then .error .nameTooLong else return found

def mount (t : Tree) (path : Text) (node : Node) : Tree :=
  let spot : Place := (Text.splitAt '/' path).filter fun name => !name.isEmpty && name != ['.']
  let t := (List.range spot.length).foldl
    (fun t n => if (t.at? (spot.take n)).isSome then t else t.put (spot.take n) .directory) t
  t.put spot node

def ofEntries (entries : List (Text × Node)) : Tree :=
  entries.foldl (fun t entry => t.mount entry.1 entry.2) {}

/-- The nodes below the working directory, each under its path. -/
def entries (t : Tree) : List (Text × Node) :=
  let inside := t.nodes.filter fun n => !n.1.any fun name => name = root || name = ['.', '.']
  inside.map fun n => (Text.join ['/'] n.1, n.2)

/-- The nodes below the working directory that another tree has not, or not alike. -/
def changedFrom (t before : Tree) : List (Text × Node) :=
  let old := before.entries
  t.entries.filter fun entry => !old.any fun other => decide (other = entry)

def stat (t : Tree) (path : Text) : Except Cause Node := do
  let found ← t.resolve path
  match found.node, found.ending with
  | some .directory, _ => return .directory
  | some node, .plain => return node
  | some _, _ => .error .notDirectory
  | none, _ => .error .notFound

def contains (t : Tree) (path : Text) : Bool := (t.stat path).toBool

def isDirectory (t : Tree) (path : Text) : Bool :=
  match t.stat path with
  | .ok .directory => true
  | _ => false

def isFile (t : Tree) (path : Text) : Bool :=
  match t.stat path with
  | .ok (.file ..) => true
  | _ => false

def isProgram (t : Tree) (path : Text) : Bool :=
  match t.stat path with
  | .ok (.file _ executable) => executable
  | _ => false

def bytes (t : Tree) (path : Text) : Except Cause (List UInt8) := do
  match ← t.stat path with
  | .file bytes _ => return bytes
  | .directory => .error .isDirectory

/-- The tree after a file is given bytes computed from the old ones. -/
def store (t : Tree) (path : Text) (update : List UInt8 → List UInt8) : Except Cause Tree := do
  let found ← t.resolve path
  match found.ending, found.node with
  | .plain, some (.file old executable) => return t.put found.place (.file (update old) executable)
  | .plain, none => return t.put found.place (.file (update []) false)
  | _, _ => .error .isDirectory

def makeDirectory (t : Tree) (path : Text) : Except Cause Tree := do
  let found ← t.resolve path
  match found.node with
  | some _ => .error .alreadyExists
  | none => return t.put found.place .directory

/-- Makes a directory, unless it is there. The path that failed is reported with the cause. -/
def ensureMade (path : Text) (t : Tree) : Except (Cause × Text) Unit × Tree :=
  match t.makeDirectory path with
  | .ok t => (.ok (), t)
  | .error cause => if t.isDirectory path then (.ok (), t) else (.error (cause, path), t)

/-- Makes a directory and those above it, at most `depth` of them. A dot at the end of a path names
what was made for the path before it. -/
def makeDirectories : Nat → Text → Tree → Except (Cause × Text) Unit × Tree
  | 0, _, t => (.ok (), t)
  | depth + 1, path, t =>
    let cut := if (Path.name path).isEmpty then Path.parent path else path
    let above := Path.parent cut
    let name := Path.name cut
    if above.isEmpty || name.isEmpty || t.contains above then ensureMade path t
    else
      match makeDirectories depth above t with
      | (.ok (), t) | (.error (.alreadyExists, _), t) =>
        if name = ['.'] then (.ok (), t) else ensureMade path t
      | failed => failed

/-- Moves a node and everything below it. -/
def moved (t : Tree) (source target : Place) : Tree :=
  let kept := (t.nodes.filter fun n => !target.isPrefixOf n.1)
  { t with
    nodes := kept.map fun n =>
      if source.isPrefixOf n.1 then (target ++ n.1.drop source.length, n.2) else n }

/-- The tree after a node is given another path. A file replaces a file and a directory an empty
directory. -/
def renamed (t : Tree) (path target : Text) : Except Cause Tree := do
  if target.contains '\x00' then .error .embeddedNull
  let source ← t.locate path
  let goal ← t.locate target
  if source.ending = .dots ∨ goal.ending = .dots then .error .busy
  else if isUnnameable source then .error .nameTooLong
  else if source.node.isSome ∧ isUnnameable goal then .error .nameTooLong
  else
    match source.node with
    | none => .error .notFound
    | some (.file ..) =>
      if source.ending = .slash ∨ goal.ending = .slash then .error .notDirectory
      else if source.place = goal.place then return t
      else
        match goal.node with
        | some .directory =>
          .error (if goal.place.isPrefixOf source.place then .notEmpty else .isDirectory)
        | _ => return t.moved source.place goal.place
    | some .directory =>
      if source.place = goal.place then return t
      else if source.place.isPrefixOf goal.place then .error .invalid
      else
        match goal.node with
        | some (.file ..) => .error .notDirectory
        | some .directory =>
          if t.nodes.any fun n => goal.place.isPrefixOf n.1 && n.1 != goal.place then
            .error .notEmpty
          else return t.moved source.place goal.place
        | none => return t.moved source.place goal.place

/-- Turns a change of the tree that names its cause into an operation on a path. -/
def change (path : Text) (target : Option Text) (f : Tree → Except Cause Tree) :
    Action Tree Unit := do
  match f (← get) with
  | .ok t => modify fun _ => t
  | .error cause => throw (.system cause path target)

def readText (path : Text) : Action Tree Text := do
  match (← get).bytes path with
  | .error cause => throw (.system cause path none)
  | .ok bytes =>
    match Text.Utf8.decode? bytes with
    | .ok content => return Text.unifyLineEnds content
    | .error misread => throw (.undecodable misread)

def ensureDirectory (path : Text) : Action Tree Unit := do
  let (made, t) := makeDirectories (path.length + 1) path (← get)
  modify fun _ => t
  match made with
  | .ok () => return ()
  | .error (cause, failed) => throw (.system cause failed none)

/-- Writes a file after making the directories above it. -/
def writeText (path : Text) (update : List UInt8 → List UInt8) : Action Tree Unit := do
  let above := Path.parent path
  let t ← get
  if !above.isEmpty && !t.contains above then ensureDirectory above
  change path none (·.store path update)

instance : Store Tree where
  read := readText
  write path content := writeText path fun _ => Text.Utf8.encode content
  append path content := writeText path fun old => old ++ Text.Utf8.encode content
  contains := contains
  ensureDirectory := ensureDirectory
  rename path target := change path (some target) (·.renamed path target)

end Tree

end ScriptRun.Files
