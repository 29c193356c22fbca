import ScriptRun.Run.Log
import ScriptRun.Settings.Basic

/-!
# The journal of a runner

A journal keeps the log of the runs, if one is wanted, in a store, with the times that its clock
shows. What goes wrong with the log while a run goes on does not disturb the run.
-/

namespace ScriptRun.Run

open Files Status

inductive LogFault where
  /-- The directory for runs is no path. -/
  | directory
  /-- The number of recent lines is negative. -/
  | negativeSize
  /-- The number of recent lines is beyond the machine. -/
  | hugeSize
  /-- The number of recent lines is no integer. -/
  | sizeKind
  deriving DecidableEq, Repr

def LogFault.message : LogFault → Text
  | .directory => "the directory for runs must be a text".toList
  | .negativeSize => "maxlen must be non-negative".toList
  | .hugeSize => "Python int too large to convert to C ssize_t".toList
  | .sizeKind => "an integer is required".toList

/-- How many recent lines an integer asks to keep. -/
def Log.keepOf (n : Int) : Except LogFault Nat :=
  if n < -9223372036854775808 ∨ 9223372036854775807 < n then .error .hugeSize
  else if n < 0 then .error .negativeSize
  else .ok n.toNat

def Log.ofSettings (s : Settings) : Except LogFault Log := do
  let some directory := s.sessionDir? | .error .directory
  let keep ← match s.recentLines with
    | .null => pure none
    | .int n => some <$> Log.keepOf n
    | .bool b => pure (some (if b then 1 else 0))
    | _ => .error .sizeKind
  return { directory, keep }

/-- A log with the store that it is kept in and the clock that it reads. -/
structure Journal (σ : Type) where
  log : Option Log
  store : σ
  clock : Time.Clock := {}

namespace Journal

variable {σ : Type} [Store σ]

def begin (file : Text) (argv : List Text) (j : Journal σ) : Except Fault Unit × Journal σ :=
  match j.log with
  | none => (.ok (), j)
  | some log =>
    let (done, log, store) := log.start file argv j.clock.now j.store
    (done, { j with log := some log, store })

def observe (event : Event) (j : Journal σ) : Journal σ :=
  match j.log with
  | none => j
  | some log =>
    let (_, log, store) := log.observe j.clock.now event j.store
    { j with log := some log, store }

def recent (j : Journal σ) (count : Option Int) : Option (List Text) :=
  j.log.map (·.recent count)

end Journal

end ScriptRun.Run
