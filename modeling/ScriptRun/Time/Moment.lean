import ScriptRun.Text.Basic

/-!
# Moments and dates

A moment is a number of microseconds in the Gregorian calendar extended backwards. Days are counted
from the first of March of the year zero, so that a leap day is the last day of its counted year.
A date runs from the year 1 to the year 9999.
-/

namespace ScriptRun.Time

structure Civil where
  year : Nat
  month : Nat
  day : Nat
  hour : Nat := 0
  minute : Nat := 0
  second : Nat := 0
  micro : Nat := 0
  deriving DecidableEq, Repr

/-- Days since the first of March of the year zero. -/
def dayNumber (year month day : Nat) : Nat :=
  let y := if month ≤ 2 then year - 1 else year
  let ofYear := y % 400
  let monthIndex := if 2 < month then month - 3 else month + 9
  let dayOfYear := (153 * monthIndex + 2) / 5 + (day - 1)
  y / 400 * 146097 + (ofYear * 365 + ofYear / 4 - ofYear / 100 + dayOfYear)

def ofDayNumber (n : Nat) : Nat × Nat × Nat :=
  let era := n / 146097
  let inEra := n % 146097
  let ofYear := (inEra - inEra / 1460 + inEra / 36524 - inEra / 146096) / 365
  let dayOfYear := inEra - (365 * ofYear + ofYear / 4 - ofYear / 100)
  let monthIndex := (5 * dayOfYear + 2) / 153
  let day := dayOfYear - (153 * monthIndex + 2) / 5 + 1
  let month := if monthIndex < 10 then monthIndex + 3 else monthIndex - 9
  (ofYear + era * 400 + (if month ≤ 2 then 1 else 0), month, day)

def microsPerSecond : Nat := 1000000

def microsPerDay : Nat := 86400 * microsPerSecond

/-- A moment, in microseconds since the first of March of the year zero. -/
structure Moment where
  micros : Nat
  deriving DecidableEq, Repr

namespace Moment

def ofCivil (c : Civil) : Moment :=
  ⟨((dayNumber c.year c.month c.day * 86400 + c.hour * 3600 + c.minute * 60 + c.second) *
    microsPerSecond) + c.micro⟩

def civil (m : Moment) : Civil :=
  let (year, month, day) := ofDayNumber (m.micros / microsPerDay)
  let seconds := m.micros / microsPerSecond % 86400
  { year, month, day
    hour := seconds / 3600
    minute := seconds / 60 % 60
    second := seconds % 60
    micro := m.micros % microsPerSecond }

/-- The first moment of the year 1. -/
def first : Moment := ofCivil { year := 1, month := 1, day := 1 }

/-- The last moment of the year 9999. -/
def last : Moment :=
  ofCivil { year := 9999, month := 12, day := 31, hour := 23, minute := 59, second := 59,
            micro := 999999 }

def epoch : Moment := ofCivil { year := 1970, month := 1, day := 1 }

/-- The moment a number of microseconds later, if it has a date. -/
def add? (m : Moment) (micros : Int) : Option Moment :=
  let sum := (m.micros : Int) + micros
  if (first.micros : Int) ≤ sum ∧ sum ≤ (last.micros : Int) then some ⟨sum.toNat⟩ else none

/-- Date and time of day, with microseconds only if there are any. -/
def isoText (m : Moment) : Text :=
  let c := m.civil
  Text.padded 4 c.year ++ '-' :: Text.padded 2 c.month ++ '-' :: Text.padded 2 c.day ++
    'T' :: Text.padded 2 c.hour ++ ':' :: Text.padded 2 c.minute ++ ':' :: Text.padded 2 c.second ++
    if c.micro = 0 then [] else '.' :: Text.padded 6 c.micro

/-- Date and time of day joined by dashes and an underscore, as they name a run. The year is not
padded. -/
def nameText (m : Moment) : Text :=
  let c := m.civil
  Text.ofNat c.year ++ '-' :: Text.padded 2 c.month ++ '-' :: Text.padded 2 c.day ++
    '_' :: Text.padded 2 c.hour ++ '-' :: Text.padded 2 c.minute ++ '-' :: Text.padded 2 c.second

/-- The time of day in milliseconds, cut and not rounded. -/
def clockText (m : Moment) : Text :=
  let c := m.civil
  Text.padded 2 c.hour ++ ':' :: Text.padded 2 c.minute ++ ':' :: Text.padded 2 c.second ++
    '.' :: Text.padded 3 (c.micro / 1000)

def twoDigits? : Text → Option (Nat × Text)
  | a :: b :: rest =>
    if a.isDigit && b.isDigit then some ((a.toNat - 48) * 10 + (b.toNat - 48), rest) else none
  | _ => none

/-- The microseconds of a fraction of a second: its first six digits. -/
def microsOf (fraction : Text) : Nat :=
  (fraction.take 6 ++ List.replicate (6 - fraction.length) '0').foldl
    (fun n c => n * 10 + (c.toNat - 48)) 0

/-- Reads a date, with a time of day if there is one, in the form of `isoText`. -/
def ofIsoText? (t : Text) : Option Moment := do
  let (century, t) ← twoDigits? t
  let (year, t) ← twoDigits? t
  let (month, t) ← twoDigits? (← Text.dropLead? ['-'] t)
  let (day, t) ← twoDigits? (← Text.dropLead? ['-'] t)
  let date : Civil := { year := century * 100 + year, month, day }
  match t with
  | [] => some (ofCivil date)
  | _ :: t =>
    let (hour, t) ← twoDigits? t
    let (minute, t) ← twoDigits? (← Text.dropLead? [':'] t)
    match t with
    | [] => some (ofCivil { date with hour, minute })
    | _ =>
      let (second, t) ← twoDigits? (← Text.dropLead? [':'] t)
      match t with
      | [] => some (ofCivil { date with hour, minute, second })
      | _ :: fraction =>
        some (ofCivil { date with hour, minute, second, micro := microsOf fraction })

end Moment

end ScriptRun.Time
