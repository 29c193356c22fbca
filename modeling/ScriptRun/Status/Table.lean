import ScriptRun.Json.Value
import ScriptRun.Text.Quoted

/-!
# The status table of a run

The table holds what the test tool has reported of each command of one run: at most one record per
index, in the order of the indices. A record whose command has passed or failed may be replaced by
another such record, never by one that says pending or running. The table may hold indices that the
current script does not have, because the tool may run an older revision of it.
-/

namespace ScriptRun.Status

inductive CommandState where
  | pending
  | running
  | passed
  | failed
  deriving DecidableEq, Repr

namespace CommandState

/-- All states, in the order in which they are counted. -/
def all : List CommandState := [.pending, .running, .passed, .failed]

def word : CommandState → Text
  | .pending => "pending".toList
  | .running => "running".toList
  | .passed => "passed".toList
  | .failed => "failed".toList

def ofWord? (word : Text) : Option CommandState := all.find? fun s => s.word == word

def unknownMessage (word : Text) : Text :=
  Text.quoted word ++ " is not a valid CommandState".toList

def isTerminal : CommandState → Bool
  | .passed | .failed => true
  | .pending | .running => false

end CommandState

structure Record where
  index : Nat
  state : CommandState
  message : Option Text := none
  durationMs : Option Int := none
  deriving DecidableEq, Repr

def Record.toJson (r : Record) : Json :=
  .record [("index", .int r.index), ("state", .str r.state.word), ("message", .ofText? r.message),
    ("duration_ms", match r.durationMs with
      | some ms => .int ms
      | none => .null)]

/-- The records of one run, ascending by index. -/
structure Table where
  file : Text := []
  records : List Record := []
  deriving DecidableEq, Repr

namespace Table

/-- The record of an index among ascending records. -/
def find? (index : Nat) : List Record → Option Record
  | [] => none
  | r :: rest => if r.index = index then some r else find? index rest

/-- Puts a record in its place among ascending records, replacing the one of its index. -/
def insert (new : Record) : List Record → List Record
  | [] => [new]
  | r :: rest =>
    if new.index < r.index then new :: r :: rest
    else if new.index = r.index then new :: rest
    else r :: insert new rest

def get? (t : Table) (index : Int) : Option Record :=
  if 0 ≤ index then find? index.toNat t.records else none

def stateOf? (t : Table) (index : Int) : Option CommandState := (t.get? index).map (·.state)

def contains (t : Table) (index : Int) : Bool := (t.get? index).isSome

/-- Whether a state may be recorded for an index: not for a negative one, and not over the record of
a command that has ended unless the new state is terminal too. -/
def admits (t : Table) (index : Int) (state : CommandState) : Bool :=
  decide (0 ≤ index) &&
    match t.stateOf? index with
    | some old => !old.isTerminal || state.isTerminal
    | none => true

/-- Records a state; the answer tells whether it was admitted. -/
def apply (t : Table) (index : Int) (state : CommandState) (message : Option Text)
    (durationMs : Option Int) : Bool × Table :=
  if t.admits index state then
    (true, { t with records := insert ⟨index.toNat, state, message, durationMs⟩ t.records })
  else (false, t)

def size (t : Table) : Nat := t.records.length

def count (t : Table) (state : CommandState) : Nat := t.records.countP fun r => r.state == state

def countsJson (t : Table) : Json :=
  .obj (CommandState.all.map fun s => (s.word, .int (t.count s)))

def toJson (t : Table) : Json :=
  .record [("file_path", .str t.file), ("commands", .arr (t.records.map Record.toJson))]

end Table

end ScriptRun.Status
