import ScriptRun.Decimal.Layout
import ScriptRun.Json.Value

/-!
# Numbers given from outside

A duration or a limit may be given as an integer, as a float, or as a truth value that counts as one
or zero. It is shown in the form in which it was given and computed with as a float.
-/

namespace ScriptRun

/-- A number in the form in which it was given. -/
inductive Number where
  | int (n : Int)
  | float (x : Float)
  | truth (b : Bool)

namespace Number

/-- The number as a float, unless it is an integer beyond all floats. -/
def toFloat? : Number → Option Float
  | .int n => Decimal.ofInt? n
  | .float x => some x
  | .truth b => some (if b then 1.0 else 0.0)

/-- The number as a float; an integer beyond all floats counts as infinite. -/
def toFloat (n : Number) : Float :=
  match n with
  | .int i => n.toFloat?.getD (Decimal.Parts.infinite (i < 0)).toFloat
  | _ => n.toFloat?.getD 0.0

/-- The number with six significant digits, as durations stand in messages. -/
def generalText (n : Number) : Text := Decimal.generalText n.toFloat

def toJson : Number → Json
  | .int n => .int n
  | .float x => .float x
  | .truth b => .bool b

def ofJson? : Json → Option Number
  | .int n => some (.int n)
  | .float x => some (.float x)
  | .bool b => some (.truth b)
  | _ => none

end Number

end ScriptRun
