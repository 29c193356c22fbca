import ScriptRun.Text.Base64
import ScriptRun.Yaml.Document
import ScriptRun.Yaml.Members
import ScriptRun.Yaml.Numeral

/-!
# The values of a document as a graph

Every node has one value, however many aliases stand for it. A scalar gets its value as soon as its
node is met. A collection is empty at first, and collections are filled in the order in which they
were met, so what is wrong with an outer collection is found before what is wrong with one inside.

Before a mapping is filled, it takes over the pairs of the mappings under its merge keys. They are put
in front of its own pairs, so that of pairs with the same key its own comes last, and wins.
-/

namespace ScriptRun.Yaml

open Text

/-! ## Kinds of values -/

inductive ScalarKind where
  | null
  | bool
  | int
  | float
  | str
  | binary
  | timestamp
  deriving DecidableEq, Repr

inductive CollectionKind where
  | list
  | map
  | set
  | orderedMap
  | pairs
  deriving DecidableEq, Repr

def scalarKinds : List (String × ScalarKind) :=
  [("null", .null), ("bool", .bool), ("int", .int), ("float", .float), ("str", .str),
    ("binary", .binary), ("timestamp", .timestamp)]

def collectionKinds : List (String × CollectionKind) :=
  [("seq", .list), ("map", .map), ("set", .set), ("omap", .orderedMap), ("pairs", .pairs)]

def kindOf? {α : Type} (kinds : List (String × α)) (tag : Text) : Option α :=
  (kinds.find? fun k => stdTag k.1 = tag).map (·.2)

/-- The value of a node. The parts of a collection are given by their nodes. -/
inductive Vertex where
  | scalar (value : Value)
  | list (items : List Nat)
  | pairs (items : List (Nat × Nat))
  | map (pairs : List (Nat × Nat))
  | set (members : List Nat)

/-- The values of the nodes of a document, as far as they are known. -/
abbrev Graph := Array (Option Vertex)

/-- A collection of a kind, before it is filled. -/
def CollectionKind.empty : CollectionKind → Vertex
  | .list => .list []
  | .map => .map []
  | .set => .set []
  | .orderedMap | .pairs => .pairs []

/-! ## Problems -/

def problemAt {α : Type} (problem : Text) (mark : Mark) : Except Fault α :=
  .error (.problem (.reading none problem mark))

/-- What is wrong with a node while a collection is filled that begins at `start`. -/
def problemWithin {α : Type} (task : String) (start : Mark) (problem : Text) (mark : Mark) :
    Except Fault α :=
  .error (.problem (.reading (some (task.toList, some start)) problem mark))

def wrongKind {α : Type} (expected : String) (node : Node) : Except Fault α :=
  problemAt ("expected a ".toList ++ expected.toList ++ " node, but found ".toList ++
    node.content.kind) node.start

/-! ## Scalars -/

/-- The positions of the characters of a text that are not in ASCII, as far as they follow the first
of them without a gap, as they stand in a message. -/
def outsideAscii? (t : Text) : Option Text :=
  match t.findIdx? fun c => 0x80 ≤ c.toNat with
  | none => none
  | some first =>
    let run := (t.drop first).takeWhile fun c => 0x80 ≤ c.toNat
    some (match run with
      | [c] =>
        let code := c.toNat
        let shown :=
          match halfOf? c with
          | some half => 'u' :: hex 4 half
          | none =>
            if code < 0x100 then 'x' :: hex 2 code
            else if code < 0x10000 then 'u' :: hex 4 code
            else 'U' :: hex 8 code
        "character '\\".toList ++ shown ++ "' in position ".toList ++ ofNat first
      | _ =>
        "characters in position ".toList ++ ofNat first ++ '-' :: ofNat (first + run.length - 1))

def readBinary (start : Mark) (t : Text) : Except Fault Value :=
  match outsideAscii? t with
  | some place =>
    problemAt ("failed to convert base64 data into ascii: 'ascii' codec can't encode ".toList ++
      place ++ ": ordinal not in range(128)".toList) start
  | none =>
    match Base64.decode t with
    | .ok bytes => .ok (.bytes bytes)
    | .error fault => problemAt ("failed to decode base64 data: ".toList ++ fault.message) start

def ScalarKind.value (kind : ScalarKind) (start : Mark) (t : Text) : Except Fault Value :=
  match kind with
  | .null => .ok .null
  | .bool =>
    match Scalar.truthWords.find? fun w => w.1.toList = lower t with
    | some w => .ok (.bool w.2)
    | none => .error .unknownTruth
  | .int => Value.int <$> readInt t
  | .float => Value.float <$> readFloat t
  | .str => .ok (.str t)
  | .binary => readBinary start t
  | .timestamp =>
    match Timestamp.ofText? (Scalar.withoutLineFeed t) with
    | none => .error .noTimestamp
    | some moment =>
      match moment.fault? with
      | some message => .error (.meaningless message)
      | none => .ok (.moment moment)

/-- The text of a scalar, or of the value that a mapping has under its value key. The first argument
bounds the number of mappings. Only a mapping that is reached again from its own value key uses the
bound up: following it would never end, and the answer that stands for this is that of a node of the
wrong kind. -/
def scalarText (nodes : Array Node) : Nat → Node → Except Fault Text
  | 0, node => wrongKind "scalar" node
  | mappings + 1, node =>
    match node.content with
    | .scalar t => .ok t
    | .sequence _ => wrongKind "scalar" node
    | .mapping pairs =>
      match pairs.find? fun p => (nodeAt nodes p.1).tag = stdTag "value" with
      | some (_, value) => scalarText nodes mappings (nodeAt nodes value)
      | none => wrongKind "scalar" node

def scalarValue (nodes : Array Node) (kind : ScalarKind) (node : Node) : Except Fault Value := do
  let t ← scalarText nodes (nodes.size + 1) node
  match kind, node.content with
  | .timestamp, .mapping _ => throw .timestampMapping
  | _, _ => kind.value node.start t

/-! ## Building -/

structure Builder where
  nodes : Array Node
  /-- The number of pairs of all mappings. -/
  pairCount : Nat
  graph : Graph
  /-- The collections that were met, in order. -/
  met : Array (Nat × CollectionKind) := #[]

def Builder.ofDocument (d : Document) : Builder :=
  let count (node : Node) : Nat :=
    match node.content with
    | .mapping pairs => pairs.length
    | _ => 0
  { nodes := d.nodes
    pairCount := d.nodes.foldl (fun n node => n + count node) 0
    graph := Array.replicate d.nodes.size none }

abbrev Build := EStateM Fault Builder

namespace Build

def ofExcept {α : Type} (e : Except Fault α) : Build α :=
  match e with
  | .ok a => return a
  | .error fault => throw fault

def nodeOf (n : Nat) : Build Node := do return nodeAt (← get).nodes n

def pairsOf (n : Nat) : Build (List (Nat × Nat)) := do
  match (← nodeOf n).content with
  | .mapping pairs => return pairs
  | _ => return []

def change (n : Nat) (f : Node → Node) : Build Unit :=
  modify fun s => { s with nodes := s.nodes.modify n f }

def setPairs (n : Nat) (pairs : List (Nat × Nat)) : Build Unit :=
  change n fun node => { node with content := .mapping pairs }

def scalarOf? (n : Nat) : Build (Option Value) := do
  match (← get).graph.getD n none with
  | some (.scalar value) => return some value
  | _ => return none

def setValue (n : Nat) (value : Vertex) : Build Unit :=
  modify fun s => { s with graph := s.graph.setIfInBounds n (some value) }

def meet (n : Nat) : Build Unit := do
  let s ← get
  if (s.graph.getD n none).isSome then return
  let node := nodeAt s.nodes n
  match kindOf? scalarKinds node.tag, kindOf? collectionKinds node.tag with
  | some kind, _ => setValue n (.scalar (← ofExcept (scalarValue s.nodes kind node)))
  | none, some kind =>
    setValue n kind.empty
    modify fun s => { s with met := s.met.push (n, kind) }
  | none, none =>
    ofExcept (problemAt
      ("could not determine a constructor for the tag ".toList ++ quoted node.tag) node.start)

/-! ### Merging -/

/-- What is wrong with a node under a merge key of a mapping that begins at `start`. -/
def notMergeable {α : Type} (start : Mark) (expected : String) (node : Node) : Build α :=
  ofExcept (problemWithin "while constructing a mapping" start
    ("expected a ".toList ++ expected.toList ++ " for merging, but found ".toList ++
      node.content.kind) node.start)

/-- The pairs that are taken over from the node under a merge key: those of a mapping, or of the
mappings of a sequence, the first of which comes last. `resolve` makes a mapping take over its
own. -/
def takenOver (resolve : Nat → Build Unit) (start : Mark) (n : Nat) : Build (List (Nat × Nat)) := do
  let node ← nodeOf n
  match node.content with
  | .mapping _ =>
    resolve n
    pairsOf n
  | .sequence items =>
    items.foldlM (fun taken item => do
      let part ← nodeOf item
      match part.content with
      | .mapping _ =>
        resolve item
        return (← pairsOf item) ++ taken
      | _ => notMergeable start "mapping" part) []
  | .scalar _ => notMergeable start "mapping or list of mappings" node

/-- Makes a mapping take over the pairs under its merge keys, which it loses. A value key in it
becomes a text. The first argument bounds how deep mappings are under each other's merge keys: on
every way down a merge key is lost. -/
def resolveMerges : Nat → Nat → Build Unit
  | 0, _ => return ()
  | depth + 1, n => do
    let start := (← nodeOf n).start
    let taken ← (← pairsOf n).foldlM (fun taken pair => do
      let tag := (← nodeOf pair.1).tag
      if tag = stdTag "merge" then
        let pairs ← pairsOf n
        if pairs.contains pair then
          setPairs n (pairs.erase pair)
          return taken ++ (← takenOver (resolveMerges depth) start pair.2)
        else return taken
      else
        if tag = stdTag "value" then change pair.1 fun node => { node with tag := stdTag "str" }
        return taken) []
    if !taken.isEmpty then setPairs n (taken ++ (← pairsOf n))

/-! ### Filling -/

/-- Puts a pair of nodes among pairs whose keys are distinct: in the place of the one with the same
key, which stays, or at the end. -/
def put (pair : (Nat × Value) × Nat) :
    List ((Nat × Value) × Nat) → List ((Nat × Value) × Nat)
  | [] => [pair]
  | other :: rest =>
    if other.1.2.isSameKey pair.1.2 then (other.1, pair.2) :: rest else other :: put pair rest

/-- The distinct keys of a mapping with their values, in the order in which the keys first come. A
key must be a scalar. -/
def distinctPairs (n : Nat) : Build (List ((Nat × Value) × Nat)) := do
  let node ← nodeOf n
  match node.content with
  | .mapping _ =>
    resolveMerges ((← get).pairCount + 1) n
    let met ← (← pairsOf n).mapM fun (key, value) => do
      meet key
      match ← scalarOf? key with
      | some name =>
        meet value
        return ((key, name), value)
      | none =>
        ofExcept (problemWithin "while constructing a mapping" node.start
          "found unhashable key".toList (← nodeOf key).start)
    return met.foldl (fun pairs pair => put pair pairs) []
  | _ => ofExcept (wrongKind "mapping" node)

/-- The items of a sequence of mappings with one pair each. -/
def singlePairs (task : String) (n : Nat) : Build (List (Nat × Nat)) := do
  let node ← nodeOf n
  let stop {α : Type} (problem : Text) (mark : Mark) : Build α :=
    ofExcept (problemWithin task node.start problem mark)
  match node.content with
  | .sequence items =>
    items.mapM fun item => do
      let part ← nodeOf item
      match part.content with
      | .mapping [pair] =>
        meet pair.1
        meet pair.2
        return pair
      | .mapping pairs =>
        stop ("expected a single mapping item, but found ".toList ++ ofNat pairs.length ++
          " items".toList) part.start
      | _ =>
        stop ("expected a mapping of length 1, but found ".toList ++ part.content.kind) part.start
  | _ => stop ("expected a sequence, but found ".toList ++ node.content.kind) node.start

def fill (n : Nat) (kind : CollectionKind) : Build Unit := do
  match kind with
  | .list =>
    let node ← nodeOf n
    match node.content with
    | .sequence items =>
      items.forM meet
      setValue n (.list items)
    | _ => ofExcept (wrongKind "sequence" node)
  | .map => setValue n (.map ((← distinctPairs n).map fun p => (p.1.1, p.2)))
  | .set => setValue n (.set ((← distinctPairs n).map fun p => p.1.1))
  | .orderedMap => setValue n (.pairs (← singlePairs "while constructing an ordered map" n))
  | .pairs => setValue n (.pairs (← singlePairs "while constructing pairs" n))

/-- Fills the collections that were met, from one of them on. Every node is met at most once, which
bounds their number. -/
def fillFrom : Nat → Nat → Build Unit
  | 0, _ => return ()
  | count + 1, next => do
    match (← get).met[next]? with
    | none => return ()
    | some (n, kind) =>
      fill n kind
      fillFrom count (next + 1)

end Build

/-- The values of all nodes of a document that were met from its outermost one on. -/
def Document.graph (d : Document) : Except Fault Graph :=
  let build : Build Unit := do
    Build.meet d.root
    Build.fillFrom (d.nodes.size + 1) 0
  match build.run (.ofDocument d) with
  | .ok _ builder => .ok builder.graph
  | .error fault _ => .error fault

end ScriptRun.Yaml
