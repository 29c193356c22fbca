import ScriptRun.Json.Value
import ScriptRun.Text.CharClass

/-!
# Command lines of a script

A command line is a list item with a name: white space, a dash, white space, and a run of word
characters. The commands of a list of lines are numbered 0, 1, 2, … in the order of their lines,
whatever their indentation, because the test tool counts them the same way.
-/

namespace ScriptRun.Script

open Text

/-- The name of the command on a line, if the line is a command line. -/
def commandName? (line : Text) : Option Text :=
  match trimStart line with
  | '-' :: rest =>
    let name := (trimStart rest).takeWhile isWord
    if name.isEmpty then none else some name
  | _ => none

structure Command where
  index : Nat
  lineNumber : Int
  line : Text
  name : Text
  deriving DecidableEq, Repr

def Command.toJson (c : Command) : Json :=
  .record [("index", .int c.index), ("line_number", .int c.lineNumber), ("raw_text", .str c.line),
    ("name", .str c.name)]

/-- The commands of lines that are numbered from `lineNumber`, counted from `index`. -/
def commandsFrom (index : Nat) (lineNumber : Int) : List Text → List Command
  | [] => []
  | line :: rest =>
    match commandName? line with
    | some name => ⟨index, lineNumber, line, name⟩ :: commandsFrom (index + 1) (lineNumber + 1) rest
    | none => commandsFrom index (lineNumber + 1) rest

def commands (lines : List Text) (start : Nat) : List Command :=
  commandsFrom 0 start (lines.drop start)

/-- The commands on the lines from a number on that may be negative. Negative numbers count from the
end; the lines that they stand for come first and keep these numbers. A number before the first line
stands for nothing. -/
def commandsFromLine? (lines : List Text) (start : Int) : Option (List Command) :=
  if 0 ≤ start then some (commands lines start.toNat)
  else
    let first := (lines.length : Int) + start
    if first < 0 then none else some (commandsFrom 0 start (lines.drop first.toNat ++ lines))

def onLine? (lineNumber : Int) (commands : List Command) : Option Command :=
  commands.find? fun c => c.lineNumber == lineNumber

def withIndex? (index : Int) (commands : List Command) : Option Command :=
  if 0 ≤ index then commands[index.toNat]? else none

end ScriptRun.Script
