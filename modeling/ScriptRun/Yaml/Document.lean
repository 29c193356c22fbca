import ScriptRun.Yaml.Lexer
import ScriptRun.Yaml.Scalar

/-!
# From tokens to a document

A document is a graph: its nodes have numbers, and a collection names the nodes in it by theirs. An
alias stands for the node of its anchor, which may be a collection around the alias. A stream holds
at most one document.

Nested nodes are read by recursion on a bound on the number of tokens left: every node and every
entry takes at least one token or is followed by one that it does not take.
-/

namespace ScriptRun.Yaml

open Text

/-- What a node holds. The nodes in a collection are given by their numbers. -/
inductive Content where
  | scalar (text : Text)
  | sequence (items : List Nat)
  | mapping (pairs : List (Nat × Nat))
  deriving DecidableEq, Repr

def Content.kind : Content → Text
  | .scalar _ => "scalar".toList
  | .sequence _ => "sequence".toList
  | .mapping _ => "mapping".toList

structure Node where
  tag : Text
  content : Content
  start : Mark
  deriving DecidableEq, Repr

def Node.empty (mark : Mark) : Node := ⟨stdTag "null", .scalar [], mark⟩

def nodeAt (nodes : Array Node) (n : Nat) : Node := nodes.getD n (.empty {})

/-- The nodes of a document, and the number of its outermost one. -/
structure Document where
  nodes : Array Node
  root : Nat

/-- The state of reading nodes: the lexer, the tag handles, the anchors and the nodes so far. -/
structure Reader where
  lexer : Lexer
  handles : List (Text × Text) := []
  anchors : List (Text × Nat) := []
  nodes : Array Node := #[]

abbrev Read := EStateM Fault Reader

namespace Read

def lex {α : Type} (step : Lex α) : Read α := do
  match step.run (← get).lexer with
  | .ok value lexer =>
    modify fun s => { s with lexer }
    return value
  | .error fault lexer =>
    modify fun s => { s with lexer }
    throw fault

def peek : Read Placed := lex Lex.peekToken

def next : Read Placed := lex Lex.nextToken

def stopWith {α : Type} (context : Option (Text × Option Mark)) (problem : Text) (mark : Mark) :
    Read α :=
  throw (.problem (.reading context problem mark))

/-- Stops when the bound on the number of tokens is used up, which no document reaches. -/
def stopDeep {α : Type} : Read α := do stopWith none "nesting too deep".toList (← peek).start

/-- Adds a node; the answer is its number. -/
def add (node : Node) : Read Nat := do
  let n := (← get).nodes.size
  modify fun s => { s with nodes := s.nodes.push node }
  return n

def addEmpty (mark : Mark) : Read Nat := add (.empty mark)

/-! ## Tags and anchors -/

def defaultHandles : List (Text × Text) := [(['!'], ['!']), (['!', '!'], tagBase)]

def lookup (handle : Text) (handles : List (Text × Text)) : Option Text :=
  (handles.find? fun h => h.1 = handle).map (·.2)

/-- The tag and the anchor before a node, and where the first of them begins. -/
structure Properties where
  tag : Option Text := none
  anchor : Option Text := none
  start : Option Mark := none

/-- A tag with its handle replaced. -/
def fullTag (start mark : Mark) (handle : Option Text) (suffix : Text) : Read Text := do
  match handle with
  | none => return suffix
  | some handle =>
    match lookup handle (← get).handles with
    | some lead => return lead ++ suffix
    | none =>
      stopWith (some ("while parsing a node".toList, some start))
        ("found undefined tag handle ".toList ++ quoted handle) mark

/-- Reads the tag and the anchor before a node, in either order. -/
def properties : Read Properties := do
  let first ← peek
  let start := first.start
  match first.token with
  | .anchor name =>
    discard next
    let second ← peek
    match second.token with
    | .tag handle suffix =>
      discard next
      let tag ← fullTag start second.start handle suffix
      return { tag := some tag, anchor := some name, start := some start }
    | _ => return { anchor := some name, start := some start }
  | .tag handle suffix =>
    discard next
    let second ← peek
    match second.token with
    | .anchor name =>
      discard next
      let tag ← fullTag start start handle suffix
      return { tag := some tag, anchor := some name, start := some start }
    | _ => return { tag := some (← fullTag start start handle suffix), start := some start }
  | _ => return {}

/-- Adds a node with its anchor, which must be new. -/
def addAnchored (p : Properties) (node : Node) : Read Nat := do
  match p.anchor with
  | none => add node
  | some name =>
    let s ← get
    match s.anchors.find? fun a => a.1 = name with
    | some (_, first) =>
      stopWith (some ("found duplicate anchor ".toList ++ quoted name ++ "; first occurrence".toList,
        some (nodeAt s.nodes first).start)) "second occurrence".toList node.start
    | none =>
      let n ← add node
      modify fun s => { s with anchors := (name, n) :: s.anchors }
      return n

/-- The tag of a collection: the one given, unless it is the mark for none. -/
def collectionTag (p : Properties) (standard : String) : Text :=
  match p.tag with
  | some tag => if tag = ['!'] then stdTag standard else tag
  | none => stdTag standard

def scalarTag (p : Properties) (plain : Bool) (content : Text) : Text :=
  match p.tag with
  | some tag => if tag = ['!'] then Scalar.plainTag content else tag
  | none => if plain then Scalar.plainTag content else stdTag "str"

/-- Adds a sequence, of which the items are read after it is added. -/
def addSequence (p : Properties) (start : Mark) (items : Read (List Nat)) : Read Nat := do
  let n ← addAnchored p ⟨collectionTag p "seq", .sequence [], start⟩
  let items ← items
  modify fun s =>
    { s with nodes := s.nodes.modify n fun node => { node with content := .sequence items } }
  return n

/-- Adds a mapping, of which the pairs are read after it is added. -/
def addMapping (p : Properties) (start : Mark) (pairs : Read (List (Nat × Nat))) : Read Nat := do
  let n ← addAnchored p ⟨collectionTag p "map", .mapping [], start⟩
  let pairs ← pairs
  modify fun s =>
    { s with nodes := s.nodes.modify n fun node => { node with content := .mapping pairs } }
  return n

/-! ## Nodes -/

/-- Where a node may stand: whether block collections may begin there, and whether the items of a
sequence may stand at the indentation of the mapping around it. -/
structure Position where
  block : Bool
  indentless : Bool := false

/-- What is read when entries of a collection are expected. -/
inductive Entries where
  /-- Items of a block sequence that began at a place. -/
  | block (start : Mark)
  /-- Items at the indentation of the mapping around them. -/
  | indentless
  /-- Items of a flow sequence; `first` if none has been read. -/
  | flow (start : Mark) (first : Bool)

inductive Pairs where
  | block (start : Mark)
  | flow (start : Mark) (first : Bool)

mutual

def node : Nat → Position → Read Nat
  | 0, _ => stopDeep
  | k + 1, position => do
    let first ← peek
    match first.token with
    | .alias name =>
      discard next
      match (← get).anchors.find? fun a => a.1 = name with
      | some (_, n) => return n
      | none => stopWith none ("found undefined alias ".toList ++ quoted name) first.start
    | _ =>
      let p ← properties
      let token ← peek
      let start := p.start.getD token.start
      match token.token, position.block, position.indentless with
      | .blockEntry, _, true => addSequence p start (entries k .indentless)
      | .scalar content plain, _, _ =>
        discard next
        addAnchored p ⟨scalarTag p plain content, .scalar content, start⟩
      | .flowSequenceStart, _, _ =>
        addSequence p start do
          discard next
          entries k (.flow token.start true)
      | .flowMappingStart, _, _ =>
        addMapping p start do
          discard next
          pairs k (.flow token.start true)
      | .blockSequenceStart, true, _ =>
        addSequence p start do
          discard next
          entries k (.block token.start)
      | .blockMappingStart, true, _ =>
        addMapping p start do
          discard next
          pairs k (.block token.start)
      | other, _, _ =>
        if p.start.isSome then addAnchored p ⟨scalarTag p true [], .scalar [], start⟩
        else
          stopWith
            (some (if position.block then "while parsing a block node".toList
              else "while parsing a flow node".toList, some start))
            ("expected the node content, but found ".toList ++ quoted other.name) token.start

/-- A node after a token, or an empty one where that token ends if none begins. -/
def nodeAfter : Nat → Placed → Position → (Token → Bool) → Read Nat
  | 0, _, _, _ => stopDeep
  | k + 1, before, position, isEnd => do
    if isEnd (← peek).token then addEmpty before.stop else node k position

/-- The items of a sequence up to and with its end. -/
def entries : Nat → Entries → Read (List Nat)
  | 0, _ => stopDeep
  | k + 1, .block start => do
    let token ← next
    match token.token with
    | .blockEntry =>
      let item ← nodeAfter k token { block := true } fun t => t = .blockEntry || t = .blockEnd
      return item :: (← entries k (.block start))
    | .blockEnd => return []
    | other =>
      stopWith (some ("while parsing a block collection".toList, some start))
        ("expected <block end>, but found ".toList ++ quoted other.name) token.start
  | k + 1, .indentless => do
    if (← peek).token = .blockEntry then
      let token ← next
      let item ← nodeAfter k token { block := true } fun t =>
        t = .blockEntry || t = .key || t = .value || t = .blockEnd
      return item :: (← entries k .indentless)
    else return []
  | k + 1, .flow start first => do
    let token ← peek
    if token.token = .flowSequenceEnd then
      discard next
      return []
    else
      if !first then
        if token.token = .flowEntry then discard next
        else
          stopWith (some ("while parsing a flow sequence".toList, some start))
            ("expected ',' or ']', but got ".toList ++ quoted token.token.name) token.start
      let token ← peek
      if token.token = .key then
        let item ← addMapping {} token.start do
          discard next
          let key ← nodeAfter k token { block := false } fun t =>
            t = .value || t = .flowEntry || t = .flowSequenceEnd
          let value ← flowValue k fun t => t = .flowEntry || t = .flowSequenceEnd
          return [(key, value)]
        return item :: (← entries k (.flow start false))
      else if token.token = .flowSequenceEnd then
        discard next
        return []
      else
        let item ← node k { block := false }
        return item :: (← entries k (.flow start false))

/-- The value of a pair in a flow collection; empty without a colon. -/
def flowValue : Nat → (Token → Bool) → Read Nat
  | 0, _ => stopDeep
  | k + 1, isEnd => do
    let token ← peek
    if token.token = .value then
      discard next
      nodeAfter k token { block := false } isEnd
    else addEmpty token.start

/-- The pairs of a mapping up to and with its end. -/
def pairs : Nat → Pairs → Read (List (Nat × Nat))
  | 0, _ => stopDeep
  | k + 1, .block start => do
    let isEnd (t : Token) : Bool := t = .key || t = .value || t = .blockEnd
    let token ← peek
    match token.token with
    | .key =>
      discard next
      let key ← nodeAfter k token { block := true, indentless := true } isEnd
      let after ← peek
      let value ←
        if after.token = .value then
          discard next
          nodeAfter k after { block := true, indentless := true } isEnd
        else addEmpty after.start
      return (key, value) :: (← pairs k (.block start))
    | .blockEnd =>
      discard next
      return []
    | other =>
      stopWith (some ("while parsing a block mapping".toList, some start))
        ("expected <block end>, but found ".toList ++ quoted other.name) token.start
  | k + 1, .flow start first => do
    let token ← peek
    if token.token = .flowMappingEnd then
      discard next
      return []
    else
      if !first then
        if token.token = .flowEntry then discard next
        else
          stopWith (some ("while parsing a flow mapping".toList, some start))
            ("expected ',' or '\x7d', but got ".toList ++ quoted token.token.name) token.start
      let token ← peek
      if token.token = .key then
        discard next
        let key ← nodeAfter k token { block := false } fun t =>
          t = .value || t = .flowEntry || t = .flowMappingEnd
        let value ← flowValue k fun t => t = .flowEntry || t = .flowMappingEnd
        return (key, value) :: (← pairs k (.flow start false))
      else if token.token = .flowMappingEnd then
        discard next
        return []
      else
        let key ← node k { block := false }
        let value ← addEmpty (← peek).start
        return (key, value) :: (← pairs k (.flow start false))

end

/-! ## Documents -/

def directives : Nat → Bool → Read Unit
  | 0, _ => return ()
  | k + 1, versionSeen => do
    let token ← peek
    match token.token with
    | .versionDirective major =>
      discard next
      if versionSeen then stopWith none "found duplicate YAML directive".toList token.start
      if major != 1 then
        stopWith none "found incompatible YAML document (version 1.* is required)".toList token.start
      directives k true
    | .tagDirective handle lead =>
      discard next
      if (lookup handle (← get).handles).isSome then
        stopWith none ("duplicate tag handle ".toList ++ quoted handle) token.start
      modify fun s => { s with handles := s.handles ++ [(handle, lead)] }
      directives k versionSeen
    | .otherDirective =>
      discard next
      directives k versionSeen
    | _ => return ()

def skipEnds : Nat → Read Unit
  | 0 => return ()
  | k + 1 => do
    if (← peek).token = .documentEnd then
      discard next
      skipEnds k

/-- The beginning of a document that is marked, if there is one more; the answer is its place. -/
def markedStart (k : Nat) : Read (Option Mark) := do
  skipEnds k
  let first ← peek
  if first.token = .streamEnd then return none
  else
    modify fun s => { s with handles := [] }
    directives k false
    modify fun s =>
      { s with handles := s.handles ++
          defaultHandles.filter fun h => (lookup h.1 s.handles).isNone }
    let token ← peek
    if token.token != .documentStart then
      stopWith none
        ("expected '<document start>', but found ".toList ++ quoted token.token.name) token.start
    discard next
    return some first.start

def markedContent (k : Nat) : Read Nat := do
  let token ← peek
  match token.token with
  | .versionDirective _ | .tagDirective .. | .otherDirective | .documentStart | .documentEnd
  | .streamEnd => addEmpty token.start
  | _ => node k { block := true }

/-- The only document of a stream, if the stream is not empty. -/
def document (k : Nat) : Read (Option Document) := do
  let first ← peek
  let content ←
    match first.token with
    | .versionDirective _ | .tagDirective .. | .otherDirective | .documentStart | .streamEnd => do
      match ← markedStart k with
      | none => pure none
      | some _ => pure (some (← markedContent k))
    | _ => do
      modify fun s => { s with handles := defaultHandles }
      pure (some (← node k { block := true }))
  match content with
  | none => return none
  | some root =>
    if (← peek).token = .documentEnd then discard next
    let nodes := (← get).nodes
    match ← markedStart k with
    | none => return some { nodes, root }
    | some second =>
      stopWith (some ("expected a single document in the stream".toList,
        some (nodeAt nodes root).start)) "but found another document".toList second

end Read

/-- The document in a text that is given in pieces, if there is one. What stops the reading of the
pieces matters only if it is reached. -/
def Document.ofPieces? (pieces : List Text) (stops : Option Utf8.Misread) :
    Except Fault (Option Document) := do
  let lexer ← Lexer.ofPieces pieces stops
  match (Read.document (8 * lexer.bound)).run { lexer } with
  | .ok document _ => .ok document
  | .error fault _ => .error fault

end ScriptRun.Yaml
