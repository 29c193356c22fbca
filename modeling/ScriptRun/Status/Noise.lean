import ScriptRun.Text.CharClass

/-!
# Build chatter

Before the test tool runs, its build prints to the diagnostic stream. Such lines are kept out of the
log: warnings and compiler messages anywhere in a line, the summary lines of the build at the
beginning of one, and the frame that compilers draw around quoted source.
-/

namespace ScriptRun.Status

open Text

/-- Whether a word stands at the beginning of a text and ends there. -/
def beginsWithWord (word t : Text) : Bool :=
  match dropLead? word t with
  | some (c :: _) => !isWord c
  | some [] => true
  | none => false

/-- Whether a text begins with the announcement of a program in back quotes. -/
def beginsWithAnnouncement (t : Text) : Bool :=
  match dropLead? "Running".toList t with
  | some (c :: rest) => isBlank c && startsWith ['\x60'] (trimStart rest)
  | _ => false

/-- Whether a text begins with the margin of quoted source: an optional line number and a bar. -/
def beginsWithMargin (t : Text) : Bool := startsWith ['|'] (trimStart (t.dropWhile isDigit))

/-- Whether a text begins with a note or a help remark below quoted source. -/
def beginsWithRemark (t : Text) : Bool :=
  match t with
  | '=' :: rest =>
    let rest := trimStart rest
    startsWith "note:".toList rest || startsWith "help:".toList rest
  | _ => false

/-- Whether a diagnostic line is build chatter. -/
def isNoise (line : Text) : Bool :=
  let start := trimStart line
  occursIn "warning:".toList line || occursIn "Compiling".toList line ||
    occursIn "Blocking waiting for file lock".toList line ||
    beginsWithWord "Finished".toList start || beginsWithAnnouncement start ||
    startsWith "-->".toList start || beginsWithMargin start || beginsWithRemark start

end ScriptRun.Status
