import ScriptRun.Port.Waiting
import ScriptRun.Time.Clock

/-!
# Counted attempts

A wait with a clock of its own. The answers to its checks and attempts are known by their numbers,
and it counts both. A pause that the clock cannot make ends the wait.

The wait is the same for every clock that can be read and can pause, in whatever it measures time.
-/

namespace ScriptRun.Port

/-- How a wait uses a clock: how it reads it, and how it pauses between two attempts. -/
structure Timepiece (κ τ : Type) where
  reading : κ → τ
  pause : κ → Except Time.Fault Unit × κ

/-- The clock that is moved by hand, with pauses of a number of seconds. -/
def Timepiece.manual (pause : Number) : Timepiece Time.Clock Float :=
  ⟨Time.Clock.reading, fun c => c.sleep pause⟩

instance : Inhabited Time.Clock := ⟨{}⟩

/-- The clock of a wait, and how often it has checked for an exit and tried to connect. -/
structure Attempts (κ : Type) [Inhabited κ] where
  clock : κ := default
  checks : Nat := 0
  connections : Nat := 0
  /-- Why the clock could not be moved, once that has happened. -/
  fault : Option Time.Fault := none

namespace Attempts

variable {κ τ : Type} [Inhabited κ]

/-- Asks whether the process has exited; a wait whose clock has failed gives up here. -/
def check (exited : Nat → Bool) (a : Attempts κ) : Bool × Attempts κ :=
  if a.fault.isSome then (true, a) else (exited a.checks, { a with checks := a.checks + 1 })

def sleep (t : Timepiece κ τ) (a : Attempts κ) : Attempts κ :=
  match t.pause a.clock with
  | (.ok (), clock) => { a with clock }
  | (.error fault, clock) => { a with clock, fault := some fault }

def surroundings (t : Timepiece κ τ) (exited accepts : Nat → Bool) :
    Surroundings (Attempts κ) τ where
  hasExited := check exited
  connects a := (accepts a.connections, { a with connections := a.connections + 1 })
  now a := t.reading a.clock
  pause := sleep t

/-- Waits with the given answers until an amount of time has passed, for at most the given number of
rounds. -/
def waitBy [Add τ] [LE τ] [DecidableLE τ] (t : Timepiece κ τ) (exited accepts : Nat → Bool)
    (timeout : τ) (rounds : Nat) (a : Attempts κ) : Except Time.Fault Wait × Attempts κ :=
  let deadline := t.reading a.clock + timeout
  let (wait, a) := waitUntil (surroundings t exited accepts) deadline rounds a
  match a.fault with
  | some fault => (.error fault, a)
  | none => (.ok wait, a)

/-- Waits with the given answers until a number of seconds has passed. -/
def wait (exited accepts : Nat → Bool) (timeout pause : Number) (a : Attempts Time.Clock) :
    Except Time.Fault Wait × Attempts Time.Clock :=
  waitBy (.manual pause) exited accepts timeout.toFloat manyRounds a

end Attempts

end ScriptRun.Port
