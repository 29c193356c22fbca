import ScriptRun.Yaml.Token

/-!
# The text before the lexer

The lexer sees the text of a document piece by piece. A piece is fetched when a character of it is
looked at, or when the lexer moves up to its end, and only then is it checked for characters that no
document may hold. The first two pieces are fetched together.

The state also keeps what the lexer knows of indentation, of flow collections, and of tokens that
may turn out to be keys.
-/

namespace ScriptRun.Yaml

open Text

/-- A token that may turn out to be a key. -/
structure PossibleKey where
  /-- The number of the token in the document. -/
  number : Nat
  /-- Whether it can be nothing else, because it begins a line of a block mapping. -/
  required : Bool
  index : Nat
  mark : Mark
  deriving DecidableEq, Repr

structure Lexer where
  /-- The fetched text that has not been passed over. -/
  rest : Text
  /-- The pieces that have not been fetched. -/
  later : List Text := []
  /-- What stops the fetching after these pieces; none at the end of the document. -/
  stops : Option Utf8.Misread := none
  /-- More than the number of characters of the document. -/
  bound : Nat
  index : Nat := 0
  mark : Mark := {}
  queue : List Placed := []
  taken : Nat := 0
  finished : Bool := false
  depth : Nat := 0
  /-- The indentation of the innermost block collection; -1 outside all of them. -/
  indent : Int := -1
  indents : List Int := []
  keyAllowed : Bool := true
  /-- The possible key of each depth of flow collections. -/
  keys : List (Nat × PossibleKey) := []

abbrev Lex := EStateM Fault Lexer

def isAllowed (c : Char) : Bool :=
  let n := c.toNat
  n = 9 || n = 10 || n = 13 || (0x20 ≤ n && n ≤ 0x7e) || n = 0x85 || (0xa0 ≤ n && n ≤ 0xd7ff) ||
    (0xe000 ≤ n && n ≤ 0xfffd) || 0x10000 ≤ n

/-- Refuses text at a position that holds a character which no document may hold. -/
def checkAllowed (position : Nat) (t : Text) : Except Fault Unit :=
  match t.findIdx? fun c => !isAllowed c with
  | some n => .error (.problem (.character (t.getD n ' ') (position + n)))
  | none => .ok ()

/-- The lexer at the beginning of a document that is given in pieces. -/
def Lexer.ofPieces (pieces : List Text) (stops : Option Utf8.Misread) : Except Fault Lexer := do
  let bound := pieces.foldl (fun n piece => n + piece.length) 8
  let rest := (pieces.take 2).flatten
  match pieces, stops with
  | [], some misread | [_], some misread => .error (.undecodable misread)
  | _, _ =>
    checkAllowed 0 rest
    return { rest, later := pieces.drop 2, stops, bound }

namespace Lex

/-- The character that stands for the end of the document. -/
def stop : Char := '\x00'

def isBreak (c : Char) : Bool :=
  c = '\r' || c = '\n' || c = '\x85' || c = '\u2028' || c = '\u2029'

def isBreakOrEnd (c : Char) : Bool := isBreak c || c = stop

def isSpaceOrEnd (c : Char) : Bool := isBreakOrEnd c || c = ' '

def isWhiteOrEnd (c : Char) : Bool := isSpaceOrEnd c || c = '\t'

def isSpaceOrTab (c : Char) : Bool := c = ' ' || c = '\t'

/-- The characters of names of anchors, tags and directives. -/
def isNameChar (c : Char) : Bool := c.isAlphanum || c = '-' || c = '_'

/-! ## Fetching -/

/-- Fetches another piece; the answer tells whether there was one. -/
def fetchPiece : Lex Bool := do
  let s ← get
  match s.later, s.stops with
  | piece :: later, _ =>
    match checkAllowed (s.index + s.rest.length) piece with
    | .ok () =>
      set { s with rest := s.rest ++ piece, later }
      return true
    | .error fault => throw fault
  | [], some misread => throw (.undecodable misread)
  | [], none => return false

/-- Fetches pieces until there is a number of characters, or no piece is left. The first argument
bounds the number of pieces. -/
def fetchUpTo : Nat → Nat → Lex Unit
  | 0, _ => return ()
  | pieces + 1, count => do
    if ((← get).rest.drop (count - 1)).isEmpty then
      if ← fetchPiece then fetchUpTo pieces count

/-- Has a number of characters fetched. -/
def need (count : Nat) : Lex Unit := do fetchUpTo ((← get).later.length + 1) count

/-- The character `k` places ahead. -/
def peek (k : Nat := 0) : Lex Char := do
  match (← get).rest[k]? with
  | some c => return c
  | none =>
    need (k + 1)
    return ((← get).rest[k]?).getD stop

def ahead (k : Nat) : Lex Text := do
  need k
  return (← get).rest.take k

/-- What a look at the fetched text finds. The look is taken again with another piece as long as it
leaves too little of the text; the first argument bounds the number of pieces. -/
def look (find : Text → Text) (isTooLittle : Text → Bool) : Nat → Lex Text
  | 0 => return find (← get).rest
  | pieces + 1 => do
    let rest := (← get).rest
    let found := find rest
    if isTooLittle (rest.drop found.length) then
      if ← fetchPiece then look find isTooLittle pieces else return found
    else return found

/-- The characters from `k` places ahead on that satisfy a test. -/
def lookWhile (k : Nat) (p : Char → Bool) : Lex Text := do
  let run ← look (fun t => t.take k ++ (t.drop k).takeWhile p) List.isEmpty
    ((← get).later.length + 1)
  return run.drop k

def here : Lex Mark := do return (← get).mark

/-- The position after a character; `next` is the character after it. -/
def moved (m : Mark) (c next : Char) : Mark :=
  if c = '\n' || c = '\x85' || c = '\u2028' || c = '\u2029' || (c = '\r' && next != '\n') then
    ⟨m.line + 1, 0⟩
  else if c = '\ufeff' then m
  else ⟨m.line, m.column + 1⟩

/-- Passes over `k` characters that are fetched. -/
def pass : Nat → Lex Unit
  | 0 => return ()
  | k + 1 => do
    modify fun s =>
      match s.rest with
      | [] => s
      | c :: rest =>
        { s with rest, index := s.index + 1, mark := moved s.mark c (rest.headD stop) }
    pass k

def forward (k : Nat) : Lex Unit := do
  need (k + 1)
  pass k

/-- Passes over the characters that satisfy a test, and gives them. -/
def skipWhile (p : Char → Bool) : Lex Text := do
  let run ← lookWhile 0 p
  forward run.length
  return run

/-! ## Problems -/

def problem {α : Type} (context : Option (Text × Option Mark)) (what : Text) (mark : Mark) : Lex α :=
  throw (.problem (.reading context what mark))

/-- Stops with a problem here. -/
def fail {α : Type} (context : Option (Text × Option Mark)) (what : Text) : Lex α := do
  problem context what (← here)

def unexpected {α : Type} (what : String) (start : Mark) (expected : String) (c : Char) : Lex α :=
  fail (some (what.toList, some start))
    ("expected ".toList ++ expected.toList ++ ", but found ".toList ++ quoted [c])

/-! ## Lines and documents -/

/-- Passes over one line break, if there is one, and gives the character it counts as. -/
def lineBreak : Lex Text := do
  let c ← peek
  if c = '\u2028' || c = '\u2029' then
    forward 1
    return [c]
  else if isBreak c then
    if (← ahead 2) = ['\r', '\n'] then forward 2 else forward 1
    return ['\n']
  else return []

/-- A bound on the rounds of a loop that passes over characters. -/
def rounds : Lex Nat := do return (← get).bound

/-- Adds a token that ends here. -/
def emit (token : Token) (start : Mark) : Lex Unit :=
  modify fun s => { s with queue := s.queue ++ [⟨token, start, s.mark⟩] }

/-- Adds a token of `k` characters. -/
def emitChars (token : Token) (k : Nat) : Lex Unit := do
  let start ← here
  forward k
  emit token start

/-- Whether a mark for the beginning or end of a document stands here. -/
def atDocumentMark (mark : Text) : Lex Bool := do
  if (← ahead 3) = mark then
    let c ← peek 3
    return isWhiteOrEnd c
  else return false

/-- Whether either mark of a document stands here. -/
def atSeparator : Lex Bool := do
  if ← atDocumentMark ['-', '-', '-'] then return true else atDocumentMark ['.', '.', '.']

/-! ## Possible keys and indentation -/

def missingColon {α : Type} (key : PossibleKey) : Lex α :=
  fail (some ("while scanning a simple key".toList, some key.mark))
    "could not find expected ':'".toList

def dropStaleKeys : Lex Unit := do
  let s ← get
  let stale (k : PossibleKey) : Bool := k.mark.line != s.mark.line || 1024 < s.index - k.index
  match s.keys.find? fun k => stale k.2 && k.2.required with
  | some k => missingColon k.2
  | none => modify fun s => { s with keys := s.keys.filter fun k => !stale k.2 }

def dropKey : Lex Unit := do
  let s ← get
  match s.keys.find? fun k => k.1 = s.depth with
  | some (_, k) =>
    if k.required then missingColon k
    else modify fun s => { s with keys := s.keys.filter fun k => k.1 != s.depth }
  | none => return ()

/-- Remembers that the next token may be a key. -/
def saveKey : Lex Unit := do
  let s ← get
  if s.keyAllowed then
    dropKey
    let key : PossibleKey :=
      { number := s.taken + s.queue.length
        required := s.depth = 0 && s.indent = (s.mark.column : Int)
        index := s.index, mark := s.mark }
    modify fun s => { s with keys := s.keys ++ [(s.depth, key)] }

/-- Closes the block collections that are indented more than a column. -/
def unwind (column : Int) : Lex Unit := do
  let s ← get
  if s.depth = 0 then
    let closed := s.indents.length + 1
    go column closed
where
  go (column : Int) : Nat → Lex Unit
    | 0 => return ()
    | k + 1 => do
      let s ← get
      if column < s.indent then
        emit .blockEnd s.mark
        modify fun s =>
          match s.indents with
          | [] => { s with indent := -1 }
          | indent :: indents => { s with indent, indents }
        go column k

/-- Opens a block collection at a column, if it is indented more than the one around it. -/
def indentTo (column : Nat) : Lex Bool := do
  let s ← get
  if s.indent < (column : Int) then
    modify fun s => { s with indents := s.indent :: s.indents, indent := column }
    return true
  else return false

def allowKey (allowed : Bool) : Lex Unit := modify fun s => { s with keyAllowed := allowed }

end Lex

end ScriptRun.Yaml
