import ScriptRun.CommandLine.World
import ScriptRun.Run.Runner
import ScriptRun.Script.Document

/-!
# Commands about scripts

One command lists what a script can run, another runs it and reports how each of its commands ended.
The exit code of a run is that of the tool; a signal counts as 128 more than its number.
-/

namespace ScriptRun.CommandLine

open Status

/-- The text of a script. Bytes that are no UTF-8 are replaced. -/
def scriptText (tree : Files.Tree) (path : Text) : Except Files.Fault Text :=
  match tree.bytes path with
  | .ok bytes => .ok (Text.unifyLineEnds (Text.Utf8.decode bytes))
  | .error cause => .error (.system cause path none)

def listedJson (c : Script.Command) : Json :=
  .record [("index", .int c.index), ("line", .int c.lineNumber), ("name", .str c.name)]

/-- A command in the list of a script. Lines count from one here, as editors count them. -/
def listedText (c : Script.Command) : Text :=
  '[' :: Text.ofNat c.index ++ "] line ".toList ++ Text.ofInt (c.lineNumber + 1) ++ ':' :: ' ' ::
    c.name

def listCommands (json : Bool) (file : Text) : Act Int := do
  match scriptText (← get).tree file with
  | .error fault => if fault.isRefusal then refuse 1 fault.message else throw (.script fault)
  | .ok t =>
    let commands := Script.indexText t
    if json then
      report (.record [("file", .str file), ("commands", .arr (commands.map listedJson))])
    else if commands.isEmpty then say "no commands".toList
    else commands.forM fun c => say (listedText c)
    return 0

/-! ## Runs -/

/-- What follows a run: the journal, the event file, and the terminal, to which lines of output are
echoed unless the answer is data. -/
structure Follower where
  journal : Run.Journal Files.Tree
  events : Option EventFile
  echoes : Bool
  printed : Text

namespace Follower

/-- Writes an event to the event file, if there is one. -/
def record (e : Event) (f : Follower) : Follower :=
  match f.events with
  | none => f
  | some file =>
    let (_, file, tree) := file.observe f.journal.clock.now e f.journal.store
    { f with events := some file, journal := { f.journal with store := tree } }

def echo (e : Event) (f : Follower) : Follower :=
  match e, f.echoes with
  | .logLine _ line, true => { f with printed := f.printed ++ line ++ ['\n'] }
  | _, _ => f

/-- The journal hears an event first, then the event file, then the terminal. -/
def audience : Run.Audience Follower :=
  { hear := fun f e => ((({ f with journal := f.journal.observe e }).record e).echo e, false)
    begin := fun file argv f =>
      let (done, journal) := f.journal.begin file argv
      (done, { f with journal }) }

end Follower

def runnerFor (s : Settings) (json : Bool) (events : Option Text) : Act (Run.Runner Follower) := do
  let log ← match Run.Log.ofSettings s with
    | .ok log => pure log
    | .error fault => throw (.log fault)
  let opened ← match events.filter fun path => !path.isEmpty with
    | none => pure none
    | some path => do
      let (opened, tree) := EventFile.openAt path false (← get).tree
      modify fun w => { w with tree }
      match opened with
      | .ok file => pure (some file)
      | .error fault => throw (.events fault)
  let w ← get
  return {
    launcher := w.launcher
    heard :=
      { journal := { log := some log, store := w.tree }, events := opened, echoes := !json
        printed := w.printed } }

/-- Takes over what a runner has changed. -/
def settle (r : Run.Runner Follower) : Act Unit := modify fun w =>
  { w with launcher := r.launcher, tree := r.heard.journal.store, printed := r.heard.printed }

def statusLine (r : Record) : Text :=
  let duration := match r.durationMs with
    | some ms => Text.ofInt ms ++ ['m', 's']
    | none => ['-']
  '[' :: Text.ofNat r.index ++ ']' :: ' ' :: Text.alignLeft 8 r.state.word ++ ' ' ::
    Text.alignRight 8 duration ++ ' ' :: ' ' :: r.message.getD []

def summary (s : Run.Session) (logPath : Text) : Json :=
  .record [("file", .str s.file), ("outcome", .ofText? (s.engine.outcome.map Outcome.word)),
    ("exit_code", .ofInt? s.engine.exitCode), ("counts", s.engine.table.countsJson),
    ("commands", .arr (s.engine.table.records.map Record.toJson)), ("log", .str logPath)]

def verdict (s : Run.Session) : Text :=
  match s.engine.outcome, s.engine.exitCode with
  | some .aborted, _ => "Test stopped by user".toList
  | _, some 0 => "Test completed successfully!".toList
  | _, some code => "Test failed with exit code: ".toList ++ Text.ofInt code
  | _, none => "Test failed with exit code: None".toList

def exitCodeFor (s : Run.Session) : Int :=
  match s.engine.outcome, s.engine.exitCode with
  | some .aborted, _ => interrupted
  | _, none => 1
  | _, some code => if code < 0 then 128 - code else code

def reportRun (json : Bool) (s : Run.Session) (logPath : Text) : Act Unit := do
  if json then report (summary s logPath)
  else
    s.engine.table.records.forM fun r => say (statusLine r)
    say (verdict s)

/-- Runs a script or one command of it. -/
def runScript (s : Settings) (json : Bool) (request : RunRequest) : Act Int := do
  match Device.named request.platform request.device with
  | .error fault => refuse misused fault.message
  | .ok device =>
    let runner ← runnerFor s json request.events
    let w ← get
    let a := Follower.audience
    let tool := s.tool w.tree w.environment
    match runner.start a tool request.file request.index device with
    | (.ok number, runner) =>
      let runner := runner.drain a number
      let runner := if w.interruptsRun then (runner.stop a).2 else runner
      settle runner
      match runner.sessions[number]? with
      | none => return 1
      | some session =>
        reportRun json session ((runner.heard.journal.log.map Run.Log.path).getD [])
        return exitCodeFor session
    | (.error fault, runner) =>
      settle runner
      match fault with
      | .missing _ | .refused _ => refuse notStarted fault.message
      | .index _ | .launch (.invalid _) => refuse misused fault.message
      | .audience failed =>
        if failed.isRefusal then throw (.start fault) else refuse misused fault.message
      | .launch _ => throw (.start fault)

end ScriptRun.CommandLine
