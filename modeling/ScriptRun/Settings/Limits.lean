import ScriptRun.Decimal.Number
import ScriptRun.Settings.Basic

/-!
# Settings that are numbers

A setting may have any value, but a search for a port needs an integer to begin with, and a wait
needs a number of seconds.
-/

namespace ScriptRun.Settings

open Yaml (Value)

/-- Why a setting is no port to begin a search with. -/
inductive PortFault where
  /-- It is a number, but the range from it on holds no ports. -/
  | outOfRange (first last : Text)
  | kind
  deriving DecidableEq, Repr

def PortFault.message : PortFault → Text
  | .outOfRange first last => "invalid port range ".toList ++ first ++ '.' :: '.' :: last
  | .kind => "a port must be an integer".toList

/-- The port with which the search for the inspector's port begins. -/
def firstPort (s : Settings) : Except PortFault Int :=
  match s.inspectorPort with
  | .int n => .ok n
  | .bool true => .ok 1
  | .bool false => .error (.outOfRange (Value.shown (.bool false)) "100".toList)
  | .float x =>
    if 0.0 < x && x ≤ 65535.0 then .error .kind
    else .error (.outOfRange (Decimal.exactText x) (Decimal.exactText (x + 100.0)))
  | _ => .error .kind

/-- Why a setting is no number of seconds. -/
inductive SecondsFault where
  | kind
  /-- It is an integer beyond all floats. -/
  | tooLarge
  deriving DecidableEq, Repr

def SecondsFault.message : SecondsFault → Text
  | .kind => "a number of seconds is required".toList
  | .tooLarge => "int too large to convert to float".toList

def secondsOf : Value → Except SecondsFault Number
  | .int n => if (Decimal.ofInt? n).isSome then .ok (.int n) else .error .tooLarge
  | .float x => .ok (.float x)
  | .bool b => .ok (.truth b)
  | _ => .error .kind

end ScriptRun.Settings
