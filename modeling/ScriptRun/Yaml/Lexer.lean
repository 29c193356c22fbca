import ScriptRun.Decimal.Reading
import ScriptRun.Text.Hex
import ScriptRun.Yaml.Input

/-!
# From characters to tokens

The lexer keeps the indentation of the open block collections and the depth of the open flow
collections. A token that may be the key of a mapping is remembered until a colon follows it on the
same line, within 1024 characters, at the same depth; then a key token, and for the first key of a
block mapping its beginning, is put in front of it. A token is handed out only when it is settled
that nothing will be put in front of it.

Every loop is bounded by the number of characters of the document.
-/

namespace ScriptRun.Yaml

open Text

namespace Lex

/-! ## Blank space, directives, anchors and tags -/

def skipComment : Lex Unit := do
  let c ← peek
  if c = '#' then discard <| skipWhile fun c => !isBreakOrEnd c

/-- Passes over blank space, comments and line breaks. -/
def skipBlank : Nat → Lex Unit
  | 0 => return ()
  | k + 1 => do
    if (← get).index = 0 then
      if (← peek) = '\ufeff' then forward 1
    discard <| skipWhile (· = ' ')
    skipComment
    if (← lineBreak).isEmpty then return ()
    else
      if (← get).depth = 0 then allowKey true
      skipBlank k

def versionNumber (start : Mark) : Lex Nat := do
  let c ← peek
  if !c.isDigit then unexpected "while scanning a directive" start "a digit" c
  let digits ← lookWhile 0 Char.isDigit
  if Decimal.digitLimit < digits.length then
    throw (.meaningless (Decimal.tooLongMessage digits.length))
  forward digits.length
  return Decimal.plainValue digits

def tagHandle (what : String) (start : Mark) : Lex Text := do
  let c ← peek
  if c != '!' then unexpected what start "'!'" c
  if (← peek 1) = ' ' then
    forward 1
    return ['!']
  else
    let name ← lookWhile 1 isNameChar
    let after ← peek (1 + name.length)
    if after != '!' then
      forward (1 + name.length)
      unexpected what start "'!'" after
    forward (2 + name.length)
    return '!' :: name ++ ['!']

/-- Characters of a tag that stand for themselves. -/
def isUriChar (c : Char) : Bool :=
  c.isAlphanum || "-;/?:@&=+$,_.!~*'()[]".toList.contains c

/-- Looks at `count` hexadecimal digits from `k` places ahead on; any other character is not what was
expected. -/
def hexDigits (what : String) (start : Mark) (expected : String) (k : Nat) : Nat → Lex Nat
  | 0 => return 0
  | count + 1 => do
    let before ← hexDigits what start expected k count
    let c ← peek (k + count)
    match hexValue? c with
    | some d => return before * 16 + d
    | none => unexpected what start expected c

def uriBytes (what : String) (start : Mark) : Nat → Lex (List UInt8)
  | 0 => return []
  | k + 1 => do
    let c ← peek
    if c = '%' then
      forward 1
      let byte ← hexDigits what start "URI escape sequence of 2 hexadecimal numbers" 0 2
      forward 2
      return UInt8.ofNat byte :: (← uriBytes what start k)
    else return []

def uriChars (what : String) (start : Mark) : Nat → Lex Text
  | 0 => return []
  | k + 1 => do
    let run ← skipWhile isUriChar
    let c ← peek
    if c = '%' then
      let mark ← here
      let bytes ← uriBytes what start (← rounds)
      match Utf8.decode? bytes with
      | .ok decoded => return run ++ decoded ++ (← uriChars what start k)
      | .error misread => problem (some (what.toList, some start)) misread.message mark
    else return run

/-- A tag or the beginning of one. -/
def uri (name : String) (start : Mark) : Lex Text := do
  let c ← peek
  if !(isUriChar c || c = '%') then
    unexpected ("while parsing a " ++ name) start "URI" c
  uriChars ("while scanning a " ++ name) start (← rounds)

def directive : Lex Unit := do
  let what := "while scanning a directive"
  let start ← here
  forward 1
  let name ← skipWhile isNameChar
  let c ← peek
  if name.isEmpty || !isSpaceOrEnd c then
    unexpected what start "alphabetic or numeric character" c
  let token ←
    if name = "YAML".toList then do
      discard <| skipWhile (· = ' ')
      let major ← versionNumber start
      let c ← peek
      if c != '.' then unexpected what start "a digit or '.'" c
      forward 1
      discard <| versionNumber start
      let c ← peek
      if !isSpaceOrEnd c then unexpected what start "a digit or ' '" c
      pure (.versionDirective major)
    else if name = "TAG".toList then do
      discard <| skipWhile (· = ' ')
      let handle ← tagHandle what start
      let c ← peek
      if c != ' ' then unexpected what start "' '" c
      discard <| skipWhile (· = ' ')
      let lead ← uri "directive" start
      let c ← peek
      if !isSpaceOrEnd c then unexpected what start "' '" c
      pure (.tagDirective handle lead)
    else do
      discard <| skipWhile fun c => !isBreakOrEnd c
      pure .otherDirective
  discard <| skipWhile (· = ' ')
  skipComment
  let c ← peek
  if !isBreakOrEnd c then unexpected what start "a comment or a line break" c
  discard lineBreak
  emit token start

def anchorOrAlias (isAlias : Bool) : Lex Unit := do
  let what := if isAlias then "while scanning an alias" else "while scanning an anchor"
  let start ← here
  forward 1
  let name ← skipWhile isNameChar
  let c ← peek
  if name.isEmpty || !(isWhiteOrEnd c || "?:,]\x7d%@\x60".toList.contains c) then
    unexpected what start "alphabetic or numeric character" c
  emit (if isAlias then .alias name else .anchor name) start

def tag : Lex Unit := do
  let start ← here
  let c ← peek 1
  let token ←
    if c = '<' then do
      forward 2
      let suffix ← uri "tag" start
      let c ← peek
      if c != '>' then unexpected "while parsing a tag" start "'>'" c
      forward 1
      pure (.tag none suffix)
    else if isWhiteOrEnd c then do
      forward 1
      pure (.tag none ['!'])
    else do
      let word ← lookWhile 1 fun c => !isSpaceOrEnd c && c != '!'
      let after ← peek (1 + word.length)
      let handle ←
        if after = '!' then tagHandle "while scanning a tag" start
        else do forward 1; pure ['!']
      pure (.tag (some handle) (← uri "tag" start))
  let c ← peek
  if !isSpaceOrEnd c then unexpected "while scanning a tag" start "' '" c
  emit token start

/-! ## Scalars -/

/-- Passes over at most `k` spaces. -/
def skipSpaces : Nat → Lex Unit
  | 0 => return ()
  | k + 1 => do
    let c ← peek
    if c = ' ' then
      forward 1
      skipSpaces k

/-- Blank lines of a block scalar, and the indentation of the line after them up to a column. -/
def blockBreaks (indent : Nat) : Nat → Lex Text
  | 0 => return []
  | k + 1 => do
    skipSpaces (indent - (← here).column)
    let broken ← lineBreak
    if broken.isEmpty then return [] else return broken ++ (← blockBreaks indent k)

/-- Blank lines before the first line of a block scalar, and the largest column among them and the
line after them. -/
def blockIndentation : Nat → Nat → Lex (Text × Nat)
  | 0, widest => return ([], widest)
  | k + 1, widest => do
    discard <| skipWhile (· = ' ')
    let widest := max widest (← here).column
    let broken ← lineBreak
    if broken.isEmpty then return ([], widest)
    else
      let (breaks, widest) ← blockIndentation k widest
      return (broken ++ breaks, widest)

/-- The lines of a block scalar from the current one on: its text, its last line break, and the
blank lines after that. -/
def blockLines (folded : Bool) (indent : Nat) : Nat → Text → Lex (Text × Text × Text)
  | 0, breaks => return ([], [], breaks)
  | k + 1, breaks => do
    let first ← if (← here).column = indent then peek else pure stop
    if first != stop then
      let leads := !isSpaceOrTab first
      let line ← skipWhile fun c => !isBreakOrEnd c
      let broken ← lineBreak
      let after ← blockBreaks indent (← rounds)
      let next ← if (← here).column = indent then peek else pure stop
      if next != stop then
        let joint :=
          if folded && broken = ['\n'] && leads && !isSpaceOrTab next then
            (if after.isEmpty then [' '] else [])
          else broken
        let (content, last, trailing) ← blockLines folded indent k after
        return (breaks ++ line ++ joint ++ content, last, trailing)
      else return (breaks ++ line, broken, after)
    else return ([], [], breaks)

/-- The indentation that a digit of a block scalar's header gives. -/
def increment? (start : Mark) : Lex (Option Nat) := do
  let c ← peek
  if c = '0' then
    fail (some ("while scanning a block scalar".toList, some start))
      "expected indentation indicator in the range 1-9, but found 0".toList
  else if c.isDigit then
    forward 1
    return some (c.toNat - 48)
  else return none

/-- The sign of a block scalar's header: whether line breaks at the end are kept or dropped. -/
def chomping? : Lex (Option Bool) := do
  let c ← peek
  if c = '+' || c = '-' then
    forward 1
    return some (c = '+')
  else return none

def blockScalar (folded : Bool) : Lex Unit := do
  let what := "while scanning a block scalar"
  let start ← here
  forward 1
  let (chomping, increment) ←
    match ← chomping? with
    | some keep => do pure (some keep, ← increment? start)
    | none => do
      match ← increment? start with
      | some n => do pure (← chomping?, some n)
      | none => pure (none, none)
  let c ← peek
  if !isSpaceOrEnd c then unexpected what start "chomping or indentation indicators" c
  discard <| skipWhile (· = ' ')
  skipComment
  let c ← peek
  if !isBreakOrEnd c then unexpected what start "a comment or a line break" c
  discard lineBreak
  let least := (max 1 ((← get).indent + 1)).toNat
  let (breaks, indent) ←
    match increment with
    | none => do
      let (breaks, widest) ← blockIndentation (← rounds) 0
      pure (breaks, max least widest)
    | some n => do
      let indent := least + n - 1
      pure (← blockBreaks indent (← rounds), indent)
  let (content, last, trailing) ← blockLines folded indent (← rounds) breaks
  let content := if chomping = some false then content else content ++ last
  emit (.scalar (if chomping = some true then content ++ trailing else content) false) start

/-- Line breaks inside a quoted scalar, with the blanks around them. -/
def quotedBreaks (start : Mark) : Nat → Lex Text
  | 0 => return []
  | k + 1 => do
    if ← atSeparator then
      fail (some ("while scanning a quoted scalar".toList, some start))
        "found unexpected document separator".toList
    discard <| skipWhile isSpaceOrTab
    let broken ← lineBreak
    if broken.isEmpty then return [] else return broken ++ (← quotedBreaks start k)

/-- Blanks inside a quoted scalar: themselves, or a folded line break. -/
def quotedSpaces (start : Mark) : Lex Text := do
  let blanks ← skipWhile isSpaceOrTab
  let c ← peek
  if c = stop then
    fail (some ("while scanning a quoted scalar".toList, some start))
      "found unexpected end of stream".toList
  let broken ← lineBreak
  if broken.isEmpty then return blanks
  else
    let breaks ← quotedBreaks start (← rounds)
    if broken != ['\n'] then return broken ++ breaks
    else if breaks.isEmpty then return [' ']
    else return breaks

/-- The character that a letter after a backslash stands for. -/
def escaped? (c : Char) : Option Char :=
  match c with
  | '0' => some '\x00'
  | 'a' => some '\x07'
  | 'b' => some '\x08'
  | 't' | '\t' => some '\t'
  | 'n' => some '\n'
  | 'v' => some '\x0b'
  | 'f' => some '\x0c'
  | 'r' => some '\r'
  | 'e' => some '\x1b'
  | ' ' => some ' '
  | '"' => some '"'
  | '\\' => some '\\'
  | '/' => some '/'
  | 'N' => some '\x85'
  | '_' => some '\xa0'
  | 'L' => some '\u2028'
  | 'P' => some '\u2029'
  | _ => none

/-- The number of hexadecimal digits after a letter. -/
def escapeDigits? (c : Char) : Option Nat :=
  match c with
  | 'x' => some 2
  | 'u' => some 4
  | 'U' => some 8
  | _ => none

def codePoint (code : Nat) : Lex Char := do
  if 0x7fffffff < code then
    throw (.tooLarge "Python int too large to convert to C int".toList)
  else if 0x10ffff < code then
    throw (.meaningless "chr() arg not in range(0x110000)".toList)
  else if 0xd800 ≤ code ∧ code ≤ 0xdfff then return halfPair code
  else return Char.ofNat code

/-- An escape in a double-quoted scalar, after its backslash. -/
def escapeSequence (start : Mark) : Lex Text := do
  let what := "while scanning a double-quoted scalar"
  let c ← peek
  match escaped? c, escapeDigits? c with
  | some e, _ => forward 1; return [e]
  | none, some count =>
    forward 1
    let code ← hexDigits what start
      ("escape sequence of " ++ toString count ++ " hexadecimal numbers") 0 count
    let c ← codePoint code
    forward count
    return [c]
  | none, none =>
    if isBreak c then
      discard lineBreak
      quotedBreaks start (← rounds)
    else
      fail (some (what.toList, some start))
        ("found unknown escape character ".toList ++ quoted [c])

/-- The rest of a quoted scalar up to and with its closing quote. -/
def quotedRest (double : Bool) (start : Mark) : Nat → Lex Text
  | 0 => return []
  | k + 1 => do
    let run ← skipWhile fun c => !(isWhiteOrEnd c || c = '\'' || c = '"' || c = '\\')
    let c ← peek
    let next ← if !double && c = '\'' then peek 1 else pure stop
    if next = '\'' then
      forward 2
      return run ++ '\'' :: (← quotedRest double start k)
    else if c = (if double then '"' else '\'') then
      forward 1
      return run
    else if double && c = '\\' then
      forward 1
      let part ← escapeSequence start
      return run ++ part ++ (← quotedRest double start k)
    else if c = '\'' || c = '"' || c = '\\' then
      forward 1
      return run ++ c :: (← quotedRest double start k)
    else
      let part ← quotedSpaces start
      return run ++ part ++ (← quotedRest double start k)

def quotedScalar (double : Bool) : Lex Unit := do
  let start ← here
  forward 1
  let content ← quotedRest double start (← rounds)
  emit (.scalar content false) start

/-- The characters of a plain scalar up to a blank, a comment, or an indicator. -/
def plainRun (inFlow : Bool) : Text → Text
  | [] => []
  | c :: rest =>
    let ends (next : Char) : Bool :=
      isWhiteOrEnd next || (inFlow && ",[]\x7b\x7d".toList.contains next)
    if isWhiteOrEnd c || (c = ':' && ends (rest.headD stop)) ||
        (inFlow && ",?[]\x7b\x7d".toList.contains c) then []
    else c :: plainRun inFlow rest

/-- Line breaks between the lines of a plain scalar; none if a document ends there. -/
def plainBreaks : Nat → Lex (Option Text)
  | 0 => return some []
  | k + 1 => do
    if ← atSeparator then return none
    discard <| skipWhile (· = ' ')
    let broken ← lineBreak
    if broken.isEmpty then return some [] else return (← plainBreaks k).map (broken ++ ·)

/-- Blanks inside a plain scalar: themselves, or a folded line break. -/
def plainSpaces : Lex Text := do
  let blanks ← skipWhile (· = ' ')
  let broken ← lineBreak
  if broken.isEmpty then return blanks
  else
    allowKey true
    match ← plainBreaks (← rounds) with
    | none => return []
    | some breaks =>
      if broken != ['\n'] then return broken ++ breaks
      else if breaks.isEmpty then return [' ']
      else return breaks

/-- Looks at the characters of a plain scalar up to its end. A colon counts only when the character
after it is known. -/
def lookPlain (inFlow : Bool) : Lex Text := do
  look (plainRun inFlow) (fun after => after.isEmpty || after = [':']) ((← get).later.length + 1)

def plainRest (indent : Int) : Nat → Text → Lex Text
  | 0, _ => return []
  | k + 1, blanks => do
    let c ← peek
    if c = '#' then return []
    let run ← lookPlain ((← get).depth != 0)
    if run.isEmpty then return []
    allowKey false
    forward run.length
    let spaces ← plainSpaces
    let next ← if spaces.isEmpty then pure stop else peek
    let s ← get
    if spaces.isEmpty || next = '#' || (s.depth = 0 && (s.mark.column : Int) < indent) then
      return blanks ++ run
    else return blanks ++ run ++ (← plainRest indent k spaces)

def plainScalar : Lex Unit := do
  let start ← here
  let content ← plainRest ((← get).indent + 1) (← rounds) []
  emit (.scalar content true) start

/-! ## Tokens -/

def fetchEnd : Lex Unit := do
  unwind (-1)
  dropKey
  modify fun s => { s with keyAllowed := false, keys := [], finished := true }
  emit .streamEnd (← here)

def fetchDocumentMark (token : Token) : Lex Unit := do
  unwind (-1)
  dropKey
  allowKey false
  emitChars token 3

def fetchFlowStart (token : Token) : Lex Unit := do
  saveKey
  modify fun s => { s with depth := s.depth + 1, keyAllowed := true }
  emitChars token 1

def fetchFlowEnd (token : Token) : Lex Unit := do
  dropKey
  modify fun s => { s with depth := s.depth - 1, keyAllowed := false }
  emitChars token 1

/-- Opens a block collection here if its indentation is new. -/
def openBlock (token : Token) : Lex Unit := do
  let mark ← here
  if ← indentTo mark.column then emit token mark

/-- A dash before an item. -/
def fetchBlockEntry : Lex Unit := do
  let s ← get
  if s.depth = 0 then
    if !s.keyAllowed then fail none "sequence entries are not allowed here".toList
    openBlock .blockSequenceStart
  allowKey true
  dropKey
  emitChars .blockEntry 1

/-- A question mark before a key. -/
def fetchKey : Lex Unit := do
  let s ← get
  if s.depth = 0 then
    if !s.keyAllowed then fail none "mapping keys are not allowed here".toList
    openBlock .blockMappingStart
  allowKey (s.depth = 0)
  dropKey
  emitChars .key 1

/-- Puts tokens in front of the token with a number. -/
def insertAt (number : Nat) (tokens : List Placed) : Lex Unit :=
  modify fun s =>
    let k := number - s.taken
    { s with queue := s.queue.take k ++ tokens ++ s.queue.drop k }

/-- A colon before a value. -/
def fetchValue : Lex Unit := do
  let s ← get
  match s.keys.find? fun k => k.1 = s.depth with
  | some (_, key) =>
    modify fun s => { s with keys := s.keys.filter fun k => k.1 != s.depth }
    let opens ← if s.depth = 0 then indentTo key.mark.column else pure false
    let opening : List Placed := if opens then [⟨.blockMappingStart, key.mark, key.mark⟩] else []
    insertAt key.number (opening ++ [⟨.key, key.mark, key.mark⟩])
    allowKey false
  | none =>
    if s.depth = 0 then
      if !s.keyAllowed then fail none "mapping values are not allowed here".toList
      openBlock .blockMappingStart
    allowKey (s.depth = 0)
    dropKey
  emitChars .value 1

/-- A token that may be a key itself. -/
def fetchSimple (read : Lex Unit) : Lex Unit := do
  saveKey
  allowKey false
  read

def atPlain (c : Char) : Lex Bool := do
  if isWhiteOrEnd c || "-?:,[]\x7b\x7d#&*!|>'\"%@\x60".toList.contains c then
    let next ← peek 1
    let inBlock := (← get).depth = 0
    return !isWhiteOrEnd next && (c = '-' || (inBlock && (c = '?' || c = ':')))
  else return true

/-- Whether a dash, a question mark or a colon is an indicator here: before a blank, and the latter
two anywhere in a flow collection. -/
def atIndicator (c : Char) : Lex Bool := do
  let inBlock := (← get).depth = 0
  if c = '-' || ((c = '?' || c = ':') && inBlock) then
    let next ← peek 1
    return isWhiteOrEnd next
  else return c = '?' || c = ':'

/-- Reads on until there is at least one more token. -/
def fetch : Lex Unit := do
  skipBlank (← rounds)
  dropStaleKeys
  unwind (← here).column
  let c ← peek
  let inBlock := (← get).depth = 0
  let atMargin := (← here).column = 0
  let atMark ← if atMargin && (c = '-' || c = '.') then atDocumentMark [c, c, c] else pure false
  if c = stop then fetchEnd
  else if c = '%' && atMargin then
    unwind (-1)
    dropKey
    allowKey false
    directive
  else if atMark then
    fetchDocumentMark (if c = '-' then .documentStart else .documentEnd)
  else if c = '[' then fetchFlowStart .flowSequenceStart
  else if c = '\x7b' then fetchFlowStart .flowMappingStart
  else if c = ']' then fetchFlowEnd .flowSequenceEnd
  else if c = '\x7d' then fetchFlowEnd .flowMappingEnd
  else if c = ',' then
    allowKey true
    dropKey
    emitChars .flowEntry 1
  else if ← atIndicator c then
    if c = '-' then fetchBlockEntry else if c = '?' then fetchKey else fetchValue
  else if c = '*' then fetchSimple (anchorOrAlias true)
  else if c = '&' then fetchSimple (anchorOrAlias false)
  else if c = '!' then fetchSimple tag
  else if (c = '|' || c = '>') && inBlock then
    allowKey true
    dropKey
    blockScalar (c = '>')
  else if c = '\'' || c = '"' then fetchSimple (quotedScalar (c = '"'))
  else if ← atPlain c then fetchSimple plainScalar
  else
    fail (some ("while scanning for the next token".toList, none))
      ("found character ".toList ++ quoted [c] ++ " that cannot start any token".toList)

def isSettled : Lex Bool := do
  let s ← get
  if s.finished then return true
  else if s.queue.isEmpty then return false
  else
    dropStaleKeys
    return !(← get).keys.any fun k => k.2.number = s.taken

/-- Reads on until the next token is settled. -/
def settle : Nat → Lex Unit
  | 0 => return ()
  | k + 1 => do
    if !(← isSettled) then
      fetch
      settle k

/-- The next token, which stays. After the last one it is the end of the stream. -/
def peekToken : Lex Placed := do
  settle ((← rounds) + 1)
  return ((← get).queue.head?).getD ⟨.streamEnd, ← here, ← here⟩

def nextToken : Lex Placed := do
  let token ← peekToken
  modify fun s => { s with queue := s.queue.drop 1, taken := s.taken + 1 }
  return token

end Lex

end ScriptRun.Yaml
