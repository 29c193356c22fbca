import ScriptRun.Decimal.Number
import ScriptRun.Time.Moment

/-!
# A clock that is moved by hand

The clock shows a date and a reading for deadlines. The date moves by whole microseconds: a number
of seconds is rounded to the nearest one, a half to the even total. The reading is a float and moves
by float addition. Sleeping moves the clock and is counted.
-/

namespace ScriptRun.Time

inductive Fault where
  | notANumber
  | infinite
  | beyondMachine
  | tooManyDays (days : Int)
  | beyondCalendar
  deriving DecidableEq, Repr

def Fault.message : Fault → Text
  | .notANumber => "cannot convert float NaN to integer".toList
  | .infinite => "cannot convert float infinity to integer".toList
  | .beyondMachine => "Python int too large to convert to C int".toList
  | .tooManyDays days =>
    "days=".toList ++ Text.ofInt days ++ "; must have magnitude <= 999999999".toList
  | .beyondCalendar => "date value out of range".toList

/-- The whole part of a positive float and the float that is left of it. -/
def splitFloat (mantissa : Nat) (exponent : Int) : Nat × Float :=
  let (num, den) := Decimal.scaleTwo mantissa exponent
  (num / den, Decimal.ofFraction false (num % den) den)

/-- The microseconds of a float number of seconds. The fraction of a second is first scaled as a
float; what is then left of it is rounded to the nearest whole number, a half to the even total. -/
def microsOfFloat (x : Float) : Except Fault Int :=
  match Decimal.Parts.ofFloat x with
  | .nan => .error .notANumber
  | .infinite _ => .error .infinite
  | .finite negative mantissa exponent =>
    let (seconds, fraction) := splitFloat mantissa exponent
    match Decimal.Parts.ofFloat (fraction * 1000000.0) with
    | .finite _ m e =>
      let (num, den) := Decimal.scaleTwo m e
      let magnitude := seconds * microsPerSecond + num / den
      let twice := 2 * (num % den)
      let rounded :=
        if den < twice ∨ (twice = den ∧ magnitude % 2 = 1) then magnitude + 1 else magnitude
      .ok (if negative then -(rounded : Int) else rounded)
    | _ => .error .infinite

/-- The microseconds of a number of seconds, if their days are within the calendar's reach. -/
def microsOf (seconds : Number) : Except Fault Int := do
  let micros ← match seconds with
    | .int n => pure (n * microsPerSecond)
    | .truth b => pure (if b then (microsPerSecond : Int) else 0)
    | .float x => microsOfFloat x
  let days := Int.fdiv micros microsPerDay
  if days < -2147483648 ∨ 2147483647 < days then .error .beyondMachine
  else if days < -999999999 ∨ 999999999 < days then .error (.tooManyDays days)
  else return micros

/-- A date and a reading for deadlines, and how often the clock has slept. -/
structure Clock where
  now : Moment := .ofCivil { year := 2025, month := 1, day := 1 }
  reading : Float := 1000.0
  sleeps : Nat := 0

namespace Clock

/-- Moves the clock by a number of seconds; a fault leaves it as it is. -/
def advance (c : Clock) (seconds : Number) : Except Fault Clock := do
  let micros ← microsOf seconds
  match c.now.add? micros with
  | some now => return { c with now, reading := c.reading + seconds.toFloat }
  | none => .error .beyondCalendar

/-- Counts a sleep and moves the clock. -/
def sleep (c : Clock) (seconds : Number) : Except Fault Unit × Clock :=
  let c := { c with sleeps := c.sleeps + 1 }
  match c.advance seconds with
  | .ok moved => (.ok (), moved)
  | .error e => (.error e, c)

/-- Seconds since the beginning of 1970 as a float: the whole seconds, plus the microseconds as a
fraction of a float. -/
def timestamp (c : Clock) : Float :=
  let seconds : Int := (c.now.micros / microsPerSecond : Nat) - (Moment.epoch.micros / microsPerSecond : Nat)
  let micros := c.now.micros % microsPerSecond
  Number.toFloat (.int seconds) + Number.toFloat (.int micros) / 1000000.0

end Clock

end ScriptRun.Time
