import ScriptRun.Text.Quoted
import ScriptRun.Text.Utf8

/-!
# Tokens of a settings document

The marks, tokens and problems of YAML 1.1. A problem names what is wrong and where, and may name
what was being read and where that began.
-/

namespace ScriptRun.Yaml

/-- A position in a document, counted from zero. -/
structure Mark where
  line : Nat := 0
  column : Nat := 0
  deriving DecidableEq, Repr

inductive Problem where
  /-- A character that no document may hold, with its position. -/
  | character (c : Char) (position : Nat)
  /-- What was being read, what is wrong, and where. -/
  | reading (context : Option (Text × Option Mark)) (problem : Text) (mark : Mark)
  deriving DecidableEq, Repr

inductive Fault where
  | problem (p : Problem)
  /-- The bytes of the document are no text. -/
  | undecodable (misread : Text.Utf8.Misread)
  /-- A numeral, an escape or a date that means nothing, with the wording. -/
  | meaningless (message : Text)
  /-- A number beyond what can be computed with, with the wording. -/
  | tooLarge (message : Text)
  /-- A scalar that is no word for a truth value. -/
  | unknownTruth
  /-- An empty scalar where a number is asked for. -/
  | emptyNumber
  /-- A scalar that is no timestamp where one is asked for. -/
  | noTimestamp
  /-- A mapping where a timestamp is asked for. -/
  | timestampMapping
  deriving DecidableEq, Repr

/-- Half a surrogate pair, which an escape may give. No text can hold it, so a private character stands
for it. -/
def halfPair (codePoint : Nat) : Char := Char.ofNat (0x100000 + codePoint)

def halfOf? (c : Char) : Option Nat :=
  let n := c.toNat
  if 0x10d800 ≤ n ∧ n ≤ 0x10dfff then some (n - 0x100000) else none

def quoted (t : Text) : Text :=
  let quote := Text.quoteFor t
  let shown (c : Char) : Text :=
    match halfOf? c with
    | some n => '\\' :: 'u' :: Text.hex 4 n
    | none => Text.quotedChar quote c
  quote :: t.flatMap shown ++ [quote]

def Mark.text (name : Text) (m : Mark) : Text :=
  "  in \"".toList ++ name ++ "\", line ".toList ++ Text.ofNat (m.line + 1) ++
    ", column ".toList ++ Text.ofNat (m.column + 1)

/-- The wording of a problem in a named document. The beginning of what was being read is left out
if the problem is there too. -/
def Problem.message (name : Text) : Problem → Text
  | .character c position =>
    "unacceptable character #x".toList ++ Text.hex 4 c.toNat ++
      ": special characters are not allowed\n  in \"".toList ++ name ++ "\", position ".toList ++
      Text.ofNat position
  | .reading context problem mark =>
    let before := match context with
      | none => []
      | some (what, none) => [what]
      | some (what, some start) => if start = mark then [what] else [what, start.text name]
    Text.join ['\n'] (before ++ [problem, mark.text name])

def Fault.message (name : Text) : Fault → Text
  | .problem p => p.message name
  | .undecodable misread => misread.message
  | .meaningless message | .tooLarge message => message
  | .unknownTruth => "unknown truth value".toList
  | .emptyNumber => "string index out of range".toList
  | .noTimestamp => "not a timestamp".toList
  | .timestampMapping => "a timestamp must be a scalar".toList

/-- The tokens. A collection in block style is enclosed in tokens that stand for its
indentation. -/
inductive Token where
  | streamStart
  | streamEnd
  | versionDirective (major : Nat)
  | tagDirective (handle lead : Text)
  | otherDirective
  | documentStart
  | documentEnd
  | blockSequenceStart
  | blockMappingStart
  | blockEnd
  | flowSequenceStart
  | flowMappingStart
  | flowSequenceEnd
  | flowMappingEnd
  | key
  | value
  | blockEntry
  | flowEntry
  | alias (name : Text)
  | anchor (name : Text)
  | tag (handle : Option Text) (suffix : Text)
  | scalar (content : Text) (plain : Bool)
  deriving DecidableEq, Repr

def Token.name : Token → Text
  | .streamStart => "<stream start>".toList
  | .streamEnd => "<stream end>".toList
  | .versionDirective _ | .tagDirective .. | .otherDirective => "<directive>".toList
  | .documentStart => "<document start>".toList
  | .documentEnd => "<document end>".toList
  | .blockSequenceStart => "<block sequence start>".toList
  | .blockMappingStart => "<block mapping start>".toList
  | .blockEnd => "<block end>".toList
  | .flowSequenceStart => ['[']
  | .flowMappingStart => ['\x7b']
  | .flowSequenceEnd => [']']
  | .flowMappingEnd => ['\x7d']
  | .key => ['?']
  | .value => [':']
  | .blockEntry => ['-']
  | .flowEntry => [',']
  | .alias _ => "<alias>".toList
  | .anchor _ => "<anchor>".toList
  | .tag .. => "<tag>".toList
  | .scalar .. => "<scalar>".toList

/-- A token with the places where it begins and where it ends. -/
structure Placed where
  token : Token
  start : Mark
  stop : Mark
  deriving DecidableEq, Repr

end ScriptRun.Yaml
