import ScriptRun.Script.Command
import ScriptRun.Text.Quoted
import ScriptRun.Text.Lines

/-!
# Scripts

A script is an optional header, a line of three dashes, and the command region. Without such a line
the whole text is the command region. Reading never fails: a list item of the command region that
has no command name is reported as ambiguous and otherwise left to the command before it.
-/

namespace ScriptRun.Script

open Text

/-- The content of the line that separates the header from the commands. -/
def separator : Text := ['-', '-', '-']

/-- The number of the first line whose content is the separator. -/
def separatorLine? (lines : List Text) : Option Nat :=
  lines.findIdx? fun line => trim line == separator

/-- Whether a line looks like a list item and yet names no command. -/
def isAmbiguous (line : Text) : Bool :=
  startsWith ['-'] (trim line) && trim line != separator && (commandName? line).isNone

/-- The numbers of the ambiguous lines among lines numbered from `lineNumber`. -/
def ambiguousFrom (lineNumber : Nat) : List Text → List Nat
  | [] => []
  | line :: rest =>
    if isAmbiguous line then lineNumber :: ambiguousFrom (lineNumber + 1) rest
    else ambiguousFrom (lineNumber + 1) rest

structure AmbiguousLine where
  lineNumber : Int
  line : Text
  deriving DecidableEq, Repr

def AmbiguousLine.message (a : AmbiguousLine) : Text :=
  "line ".toList ++ Text.ofInt a.lineNumber ++ ": ambiguous command line ".toList ++ quoted a.line

/-- A script as read from one revision of its text. -/
structure Document where
  lines : List Text
  separatorLine : Option Nat
  commands : List Command
  ambiguous : List Nat
  deriving DecidableEq, Repr

namespace Document

/-- The first line of the command region. -/
def commandStart (d : Document) : Nat :=
  match d.separatorLine with
  | some n => n + 1
  | none => 0

/-- The line that anchors a run of the whole script. -/
def runAllLine (d : Document) : Nat := d.separatorLine.getD 0

def hasSeparator (d : Document) : Bool := d.separatorLine.isSome

def index (d : Document) : List Command := Script.commands d.lines d.commandStart

end Document

def ofLines (lines : List Text) : Document :=
  let separatorLine := separatorLine? lines
  let start := match separatorLine with
    | some n => n + 1
    | none => 0
  { lines, separatorLine
    commands := commands lines start
    ambiguous := ambiguousFrom start (lines.drop start) }

def parse (t : Text) : Document := ofLines (Text.lines t)

def indexText (t : Text) : List Command := (parse t).index

def commandAtLine? (t : Text) (lineNumber : Int) : Option Command :=
  onLine? lineNumber (indexText t)

def commandWithIndex? (t : Text) (index : Int) : Option Command := withIndex? index (indexText t)

end ScriptRun.Script
