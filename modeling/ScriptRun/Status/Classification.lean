import ScriptRun.Decimal.Reading
import ScriptRun.Json.Value
import ScriptRun.Text.Escape
import ScriptRun.Text.Search

/-!
# What a line of output says

A line of the test tool's output is read by rules, tried in order; the first that fits decides. A
rule sees the line without terminal escapes and trailing white space.

* running: a bracketed index, a name, and an ellipsis at the end, without a result mark;
* passed: a check mark, a bracketed index, a name, and later a duration in parentheses, the last one
  on that line;
* failed: a cross, a bracketed index and a name;
* location started: a pin and the number of loaded points, in any case;
* location stopped: one of three phrases, in any case.

A number with more digits than the limit on integers is refused, and then the line has no reading.
-/

namespace ScriptRun.Status

open Text

inductive Reading where
  | running (index : Nat) (name : Text)
  | passed (index : Nat) (name : Text) (durationMs : Nat)
  | failed (index : Nat) (name : Text)
  | locationStarted (points : Nat)
  | locationStopped
  | unmatched
  deriving DecidableEq, Repr

inductive LineKind where
  | running
  | passed
  | failed
  | locationStarted
  | locationStopped
  | unmatched
  deriving DecidableEq, Repr

/-- All kinds, in the order in which they are reported. -/
def LineKind.all : List LineKind :=
  [.running, .passed, .failed, .locationStarted, .locationStopped, .unmatched]

def LineKind.word : LineKind → Text
  | .running => "running".toList
  | .passed => "passed".toList
  | .failed => "failed".toList
  | .locationStarted => "location_start".toList
  | .locationStopped => "location_stop".toList
  | .unmatched => "unmatched".toList

namespace Reading

def kind : Reading → LineKind
  | .running .. => .running
  | .passed .. => .passed
  | .failed .. => .failed
  | .locationStarted _ => .locationStarted
  | .locationStopped => .locationStopped
  | .unmatched => .unmatched

def index? : Reading → Option Nat
  | .running index _ | .passed index _ _ | .failed index _ => some index
  | _ => none

def name? : Reading → Option Text
  | .running _ name | .passed _ name _ | .failed _ name => some name
  | _ => none

def durationMs? : Reading → Option Nat
  | .passed _ _ ms => some ms
  | _ => none

def points? : Reading → Option Nat
  | .locationStarted points => some points
  | _ => none

/-- Whether a reading is about the status of a command. -/
def isStatus (r : Reading) : Bool := r.index?.isSome

end Reading

/-- A number in a line has more digits than an integer may have. -/
structure NumeralTooLong where
  digits : Nat
  deriving DecidableEq, Repr

def NumeralTooLong.message (e : NumeralTooLong) : Text := Decimal.tooLongMessage e.digits

def number (digits : Text) : Except NumeralTooLong Nat :=
  match Decimal.readDigits digits with
  | .ok n => .ok n
  | .error count => .error ⟨count⟩

def checkMark : Char := '✓'

def redCross : Char := '❌'

def ballotCross : Char := '✗'

/-- The mark of a loaded route. -/
def pin : Char := '📍'

def blanks? : Text → Option Text
  | c :: rest => if isBlank c then some (trimStart rest) else none
  | [] => none

/-- A run of digits, at least one, with the rest. -/
def digits? (t : Text) : Option (Text × Text) :=
  let digits := t.takeWhile isDigit
  if digits.isEmpty then none else some (digits, t.dropWhile isDigit)

/-- A bracketed index and a name: the digits, the name and the rest. -/
def indexed? (t : Text) : Option (Text × Text × Text) :=
  match t with
  | '[' :: rest => do
    let (digits, rest) ← digits? rest
    match rest with
    | ']' :: rest =>
      let rest ← blanks? rest
      let name := rest.takeWhile isWord
      if name.isEmpty then none else some (digits, name, rest.dropWhile isWord)
    | _ => none
  | _ => none

/-- One of the given marks, white space, and what `indexed?` reads. -/
def marked? (marks : List Char) : Text → Option (Text × Text × Text)
  | c :: rest => if marks.contains c then (blanks? rest).bind indexed? else none
  | [] => none

/-- Whether a text ends in an ellipsis of three points and has no line feed. -/
def endsInEllipsis (t : Text) : Bool := !t.contains '\n' && startsWith ['.', '.', '.'] t.reverse

/-- A bracketed index and a name with an ellipsis at the end of the text. -/
def runningAt? (t : Text) : Option (Text × Text) := do
  let (digits, name, rest) ← indexed? t
  if endsInEllipsis rest then some (digits, name) else none

def durationAt? : Text → Option Text
  | '(' :: rest => do
    let (digits, rest) ← digits? rest
    if startsWith ['m', 's', ')'] rest then some digits else none
  | _ => none

/-- A passed command with the digits of its last duration before a line feed. -/
def passedAt? (t : Text) : Option (Text × Text × Text) := do
  let (digits, name, rest) ← marked? [checkMark] t
  let duration ← rightmost? durationAt? (rest.takeWhile (· ≠ '\n'))
  some (digits, name, duration)

def loadedAt? : Text → Option Text
  | c :: rest =>
    if c = pin then do
      let rest ← dropLeadAnyCase? "Loaded".toList (← blanks? rest)
      let (digits, rest) ← digits? (← blanks? rest)
      let rest ← dropLeadAnyCase? "GPS".toList (← blanks? rest)
      let _ ← dropLeadAnyCase? "points".toList (← blanks? rest)
      some digits
    else none
  | [] => none

def stoppedAt? (t : Text) : Option Unit :=
  if (dropLeadAnyCase? "stopGps".toList t).isSome ||
      (dropLeadAnyCase? "stopMockLocation".toList t).isSome then some ()
  else do
    let rest ← dropLeadAnyCase? "GPS".toList t
    let _ ← dropLeadAnyCase? "stopped".toList (← blanks? rest)
    some ()

inductive Rule where
  | running
  | passed
  | failed
  | locationStarted
  | locationStopped
  deriving DecidableEq, Repr

/-- The rules in the order in which they are tried. -/
def Rule.all : List Rule := [.running, .passed, .failed, .locationStarted, .locationStopped]

def Rule.kind : Rule → LineKind
  | .running => .running
  | .passed => .passed
  | .failed => .failed
  | .locationStarted => .locationStarted
  | .locationStopped => .locationStopped

def Rule.ofWord? (word : Text) : Option Rule := Rule.all.find? fun rule => rule.kind.word == word

def Rule.read (line : Text) : Rule → Except NumeralTooLong (Option Reading)
  | .running =>
    if line.any fun c => c = checkMark || c = redCross || c = ballotCross then .ok none
    else
      match leftmost? runningAt? line with
      | some (digits, name) => do return some (.running (← number digits) name)
      | none => .ok none
  | .passed =>
    match leftmost? passedAt? line with
    | some (digits, name, duration) => do
      let index ← number digits
      return some (.passed index name (← number duration))
    | none => .ok none
  | .failed =>
    match leftmost? (marked? [redCross, ballotCross]) line with
    | some (digits, name, _) => do return some (.failed (← number digits) name)
    | none => .ok none
  | .locationStarted =>
    match leftmost? loadedAt? line with
    | some digits => do return some (.locationStarted (← number digits))
    | none => .ok none
  | .locationStopped => .ok ((leftmost? stoppedAt? line).map fun _ => .locationStopped)

/-- The reading of a line by the first rule that fits. -/
def readBy (line : Text) : List Rule → Except NumeralTooLong Reading
  | [] => .ok .unmatched
  | rule :: rest => do
    match ← rule.read line with
    | some reading => return reading
    | none => readBy line rest

/-- A line as the rules see it. -/
def normalizedLine (line : Text) : Text := trimEnd (stripEscapes line)

structure Classification where
  line : Text
  reading : Reading
  deriving DecidableEq, Repr

def Classification.toJson (c : Classification) : Json :=
  let r := c.reading
  .record [("kind", .str r.kind.word), ("line", .str c.line), ("index", .ofNat? r.index?),
    ("name", .ofText? r.name?), ("duration_ms", .ofNat? r.durationMs?),
    ("point_count", .ofNat? r.points?), ("is_status", .bool r.isStatus)]

def classifyBy (rules : List Rule) (line : Text) : Except NumeralTooLong Classification := do
  let line := normalizedLine line
  return ⟨line, ← readBy line rules⟩

def classify (line : Text) : Except NumeralTooLong Classification := classifyBy Rule.all line

/-- A classifier with its rules, counting the lines of each kind. -/
structure Classifier where
  rules : List Rule := Rule.all
  count : LineKind → Nat := fun _ => 0

namespace Classifier

/-- Classifies a line and counts its kind; a refused line is not counted. -/
def classify (c : Classifier) (line : Text) : Except NumeralTooLong Classification × Classifier :=
  match classifyBy c.rules line with
  | .ok found =>
    let kind := found.reading.kind
    (.ok found, { c with count := fun k => if k = kind then c.count k + 1 else c.count k })
  | .error e => (.error e, c)

def countsJson (c : Classifier) : Json :=
  .obj (LineKind.all.map fun kind => (kind.word, .int (c.count kind)))

def reset (c : Classifier) : Classifier := { c with count := fun _ => 0 }

end Classifier

end ScriptRun.Status
