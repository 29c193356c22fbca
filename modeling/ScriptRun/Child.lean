import ScriptRun.Json.Access

/-!
# Child processes

A child process has written what it writes, and has exited or is still running. It exits when it is told
to, unless it ignores that, when it finishes of itself, or when it has been polled a given number of
times. Waiting does not take time: it tells whether the process has exited.
-/

namespace ScriptRun

structure Child where
  id : Int := 4242
  /-- What it writes to its output; none if the output is not connected. -/
  stdout : Option (List UInt8) := some []
  /-- What it writes to its diagnostic output; none if that is not connected. -/
  stderr : Option (List UInt8) := some []
  /-- The exit code if it finishes of itself. -/
  exitCode : Int := 0
  /-- The exit code once it has exited. -/
  returned : Option Int := some 0
  ignoresTerminate : Bool := false
  ignoresKill : Bool := false
  /-- After how many more polls it will have finished of itself. -/
  pollsLeft : Option Nat := none
  terminations : Nat := 0
  kills : Nat := 0
  /-- The seconds for which others have waited for it, in order. -/
  waits : List Number := []

namespace Child

def isRunning (p : Child) : Bool := p.returned.isNone

/-- The process finishes of itself, with the given exit code or the one it would have. -/
def finish (p : Child) (code : Option Int) : Child :=
  let exitCode := code.getD p.exitCode
  { p with exitCode, returned := p.returned.or (some exitCode) }

def poll (p : Child) : Option Int × Child :=
  match p.returned, p.pollsLeft with
  | none, some 0 => let p := p.finish none; (p.returned, p)
  | none, some (n + 1) => (none, { p with pollsLeft := some n })
  | returned, _ => (returned, p)

def terminate (p : Child) : Child :=
  { p with
    terminations := p.terminations + 1
    returned := if p.ignoresTerminate then p.returned else p.returned.or (some (-15)) }

def kill (p : Child) : Child :=
  { p with
    kills := p.kills + 1
    returned := if p.ignoresKill then p.returned else p.returned.or (some (-9)) }

/-- Waits for some seconds; the answer is the exit code, or none if the time has run out. -/
def wait (p : Child) (seconds : Number) : Option Int × Child :=
  (p.returned, { p with waits := p.waits ++ [seconds] })

def isAlive (p : Child) : Bool × Child :=
  let (returned, p) := p.poll
  (returned.isNone, p)

/-- Asks a living process to end, without waiting; the answer tells whether it was alive. -/
def signalStop (p : Child) : Bool × Child :=
  let (alive, p) := p.isAlive
  if alive then (true, p.terminate) else (false, p)

/-- The seconds that a process gets to end when it is asked. -/
def stopSeconds : Number := .float 5.0

/-- The seconds that a process gets to end when it is forced. -/
def killSeconds : Number := .float 2.0

/-- Asks a living process to end, waits, and then ends it by force; the answer tells whether it is
gone. -/
def stop (p : Child) (seconds : Number) : Bool × Child :=
  match p.signalStop with
  | (false, p) => (true, p)
  | (true, p) =>
    match p.wait seconds with
    | (some _, p) => (true, p)
    | (none, p) =>
      let (_, p) := p.kill.wait killSeconds
      let (alive, p) := p.isAlive
      (!alive, p)

def toJson (p : Child) : Json :=
  .record [("returncode", .ofInt? p.returned), ("terminate_calls", .int p.terminations),
    ("kill_calls", .int p.kills), ("waits", .arr (p.waits.map fun w => .float w.toFloat))]

end Child

end ScriptRun
