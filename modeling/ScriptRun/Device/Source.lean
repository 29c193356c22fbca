import ScriptRun.Device.Basic

/-!
# Sources of devices

A source is asked for its devices again and again; it may fail at one call and answer at another. A
listing command is a source whose answers come from the output of a program.
-/

namespace ScriptRun.Device

inductive SourceFault where
  | crashed (reason : Text)
  /-- A listing command printed no list of devices. -/
  | unreadable
  deriving DecidableEq, Repr

abbrev Answer := Except SourceFault (List Device)

inductive Listing where
  | notInstalled
  | timedOut
  | finished (exitCode : Int) (output : Text)
  deriving DecidableEq, Repr

/-- The answer of a listing command: no devices if it is not installed, takes too long or fails. -/
def Listing.answer : Listing → Answer
  | .notInstalled | .timedOut => .ok []
  | .finished code output =>
    if code = 0 then
      match ofListing? output with
      | some devices => .ok devices
      | none => .error .unreadable
    else .ok []

/-- A source: its answer to each call, and how often it has been called. -/
structure Source where
  answer : Nat → Answer
  calls : Nat := 0

def Source.query (s : Source) : Answer × Source :=
  (s.answer s.calls, { s with calls := s.calls + 1 })

/-- A source with the given answers in order; the last one is repeated. -/
def Source.ofAnswers (answers : List Answer) : Source :=
  { answer := fun n => (answers[min n (answers.length - 1)]?).getD (.ok []) }

end ScriptRun.Device
