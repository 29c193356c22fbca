import ScriptRun.Files.Store
import ScriptRun.Status.Event
import ScriptRun.Text.Sanitized
import ScriptRun.Time.Clock

/-!
# The log of a run

A run's log is one file: a header that names the run, one line per line of output with its time, and
a footer that tells how the run ended. Starting a log moves the one before aside. The most recent
lines are kept in memory as well, so that a failure can be reported together with its output.
-/

namespace ScriptRun.Run

open Files Status

structure Log where
  directory : Text
  /-- How many recent lines are kept; none for all. -/
  keep : Option Nat
  runId : Text := []
  started : Option Time.Moment := none
  linesLogged : Nat := 0
  /-- The recent lines, oldest first. -/
  lines : List Text := []
  deriving DecidableEq, Repr

namespace Log

def path (log : Log) : Text := log.directory ++ "/latest.log".toList

def previousPath (log : Log) : Text := log.path ++ ".1".toList

def rule : Text := List.replicate 60 '='

def idOf (now : Time.Moment) : Text := "run_".toList ++ now.nameText

def header (file : Text) (argv : List Text) (now : Time.Moment) : Text :=
  rule ++ "\nRUN: ".toList ++ idOf now ++ "\nFILE: ".toList ++ file ++
    "\nCOMMAND: ".toList ++ Text.join [' '] argv ++ "\nSTARTED: ".toList ++ now.isoText ++
    '\n' :: rule ++ ['\n', '\n']

/-- The lines of a header. An empty line follows the rule at its end. -/
theorem header_eq_join (file : Text) (argv : List Text) (now : Time.Moment) :
    header file argv now = Text.join ['\n'] [rule, "RUN: ".toList ++ idOf now,
      "FILE: ".toList ++ file, "COMMAND: ".toList ++ Text.join [' '] argv,
      "STARTED: ".toList ++ now.isoText, rule, [], []] := by
  simp [header, Text.join]

/-- A header holds the file that is run. -/
theorem file_infix_header (file : Text) (argv : List Text) (now : Time.Moment) :
    file <:+: header file argv now := by
  rw [header_eq_join]
  exact Text.infix_join_of_labelled "FILE: ".toList (by simp)

/-- A header holds every word of the command. -/
theorem word_infix_header {word : Text} {argv : List Text} (h : word ∈ argv) (file : Text)
    (now : Time.Moment) : word <:+: header file argv now := by
  have hcommand : Text.join [' '] argv <:+: header file argv now := by
    rw [header_eq_join]
    exact Text.infix_join_of_labelled "COMMAND: ".toList (by simp)
  exact (Text.infix_join h).trans hcommand

/-- What is kept of the recent lines after another one. -/
def kept (keep : Option Nat) (lines : List Text) : List Text :=
  match keep with
  | some n => lines.drop (lines.length - n)
  | none => lines

/-- The log of a new run before anything is written. -/
def begun (log : Log) (now : Time.Moment) : Log :=
  { log with runId := idOf now, started := some now, linesLogged := 0, lines := [] }

/-- Moves the log before aside and writes a header. -/
def startFile {σ : Type} [Store σ] (log : Log) (file : Text) (argv : List Text)
    (now : Time.Moment) : Action σ Unit := do
  if Store.contains (← get) log.path then Store.rename log.path log.previousPath
  Store.ensureDirectory log.directory
  Store.write log.path (header file argv now)

def start {σ : Type} [Store σ] (log : Log) (file : Text) (argv : List Text) (now : Time.Moment)
    (s : σ) : Except Fault Unit × Log × σ :=
  let log := log.begun now
  let (done, s) := (startFile log file argv now).outcome s
  (done, log, s)

/-- A line of output as it stands in the log, without its time. -/
def shown (stream text : Text) : Text :=
  let line := Text.sanitized Text.defaultLogLimit text
  if stream = Stream.stderr.name then '!' :: ' ' :: line else line

/-- A line with its time and line feed. -/
def stamped (now : Time.Moment) (line : Text) : Text :=
  '[' :: now.clockText ++ ']' :: ' ' :: line ++ ['\n']

/-- Logs a line of output. A line that cannot be written is not counted. -/
def write {σ : Type} [Store σ] (log : Log) (now : Time.Moment) (stream text : Text) (s : σ) :
    Except Fault Unit × Log × σ :=
  let line := shown stream text
  match (Store.append log.path (stamped now line)).outcome s with
  | (.ok (), s) =>
    (.ok (), { log with linesLogged := log.linesLogged + 1
                        lines := kept log.keep (log.lines ++ [line]) }, s)
  | (.error fault, s) => (.error fault, log, s)

/-- The whole seconds, towards zero, of a time span taken as a float number of seconds. -/
def wholeSeconds (micros : Int) : Int :=
  let x := Decimal.ofFraction false micros.natAbs Time.microsPerSecond
  match Decimal.Parts.ofFloat x with
  | .finite _ mantissa exponent =>
    let (num, den) := Decimal.scaleTwo mantissa exponent
    let whole : Int := (num / den : Nat)
    if micros < 0 then -whole else whole
  | _ => 0

def durationText (started : Option Time.Moment) (now : Time.Moment) : Text :=
  match started with
  | some started =>
    let seconds := wholeSeconds ((now.micros : Int) - started.micros)
    Text.ofInt (Int.fdiv seconds 60) ++ "m ".toList ++
      Text.padded 2 (Int.fmod seconds 60).toNat ++ ['s']
  | none => "unknown".toList

def footer (log : Log) (result : Text) (now : Time.Moment) : Text :=
  '\n' :: rule ++ "\nRESULT: ".toList ++ result ++
    "\nDURATION: ".toList ++ durationText log.started now ++
    "\nLINES LOGGED: ".toList ++ Text.ofNat log.linesLogged ++ '\n' :: rule ++ ['\n']

/-- The lines of a footer, which an empty line parts from the lines of output. -/
theorem footer_eq_join (log : Log) (result : Text) (now : Time.Moment) :
    log.footer result now = Text.join ['\n'] [[], rule, "RESULT: ".toList ++ result,
      "DURATION: ".toList ++ durationText log.started now,
      "LINES LOGGED: ".toList ++ Text.ofNat log.linesLogged, rule, []] := by
  simp [footer, Text.join]

/-- A footer holds the result. -/
theorem result_infix_footer (log : Log) (result : Text) (now : Time.Moment) :
    result <:+: log.footer result now := by
  rw [footer_eq_join]
  exact Text.infix_join_of_labelled "RESULT: ".toList (by simp)

/-- A footer holds the number of lines that were logged. -/
theorem count_infix_footer (log : Log) (result : Text) (now : Time.Moment) :
    Text.ofNat log.linesLogged <:+: log.footer result now := by
  rw [footer_eq_join]
  exact Text.infix_join_of_labelled "LINES LOGGED: ".toList (by simp)

def finish {σ : Type} [Store σ] (log : Log) (now : Time.Moment) (result : Text) (s : σ) :
    Except Fault Unit × Log × σ :=
  let (done, s) := (Store.append log.path (log.footer result now)).outcome s
  (done, log, s)

/-- The most recent lines: all that are kept, or those that a cut at `-count` from the end leaves. A
count of zero cuts nothing, and a negative one drops lines from the front. -/
def recent (log : Log) (count : Option Int) : List Text :=
  match count with
  | none => log.lines
  | some n =>
    if (log.lines.length : Int) ≤ n then log.lines
    else if 0 < n then log.lines.drop (log.lines.length - n.toNat)
    else log.lines.drop (-n).toNat

/-- The result that a terminal event puts into the footer. -/
def result? : Event → Option Text
  | .runComplete code =>
    some (if code = 0 then "Test completed successfully!".toList
      else "Test failed with exit code: ".toList ++ Text.ofInt code)
  | .runAborted => some "Test stopped by user".toList
  | .spawnFailed reason => some ("Error: ".toList ++ reason)
  | .readinessTimedOut port timeout =>
    some ("Port ".toList ++ Text.ofInt port ++ " not ready after ".toList ++
      timeout.generalText ++ ['s'])
  | _ => none

/-- Logs a line of output, or ends the log with a footer; other events are not logged. -/
def observe {σ : Type} [Store σ] (log : Log) (now : Time.Moment) (event : Event) (s : σ) :
    Except Fault Unit × Log × σ :=
  match event with
  | .logLine stream text => log.write now stream text s
  | event =>
    match result? event with
    | some result => log.finish now result s
    | none => (.ok (), log, s)

end Log

end ScriptRun.Run
