import ScriptRun.Decimal.Reading
import ScriptRun.Time.Moment

/-!
# Timestamps

A timestamp is a date, or a date with a time of day and perhaps its offset from universal time. Two
timestamps with offsets are the same if they are the same moment.
-/

namespace ScriptRun.Yaml

open Text

structure DayTime where
  hour : Nat
  minute : Nat
  second : Nat
  micro : Nat
  /-- The offset from universal time in minutes, if one is stated. -/
  offset : Option Int
  deriving DecidableEq, Repr

structure Timestamp where
  year : Nat
  month : Nat
  day : Nat
  time : Option DayTime := none
  deriving DecidableEq, Repr

namespace Timestamp

/-! ## Reading -/

/-- The digits of a date or a time: between `least` and `most` of them, and then the rest. -/
def digits? (least most : Nat) (t : Text) : Option (Nat × Text) :=
  let run := (t.take most).takeWhile Char.isDigit
  if run.length < least then none else some (Decimal.plainValue run, t.drop run.length)

/-- The offset at the end of a timestamp; none if nothing is there, and no answer if it is no
offset. -/
def offset? (t : Text) : Option (Option Int) :=
  if t.isEmpty then some none
  else
    match t.dropWhile fun c => c = ' ' || c = '\t' with
    | ['Z'] => some (some 0)
    | sign :: rest =>
      if sign = '+' || sign = '-' then do
        let (hours, rest) ← digits? 1 2 rest
        let minutes ← match rest with
          | [] => some 0
          | ':' :: rest =>
            let (minutes, rest) ← digits? 2 2 rest
            if rest.isEmpty then some minutes else none
          | _ => none
        let total : Int := (hours * 60 + minutes : Nat)
        return some (if sign = '-' then -total else total)
      else none
    | [] => none

/-- The time of day after a date, with what separates it from the date. -/
def dayTime? (t : Text) : Option DayTime := do
  let t ← match t with
    | c :: rest =>
      if c = 'T' || c = 't' then some rest
      else if c = ' ' || c = '\t' then some (rest.dropWhile fun c => c = ' ' || c = '\t')
      else none
    | [] => none
  let (hour, t) ← digits? 1 2 t
  let (minute, t) ← digits? 2 2 (← dropLead? [':'] t)
  let (second, t) ← digits? 2 2 (← dropLead? [':'] t)
  let (fraction, t) := match t with
    | '.' :: rest => (rest.takeWhile Char.isDigit, rest.dropWhile Char.isDigit)
    | _ => ([], t)
  let offset ← offset? t
  return { hour, minute, second, micro := Time.Moment.microsOf fraction, offset }

/-- Reads a timestamp. A month and a day have one digit or two. -/
def ofText? (t : Text) : Option Timestamp := do
  let (year, t) ← digits? 4 4 t
  let (month, t) ← digits? 1 2 (← dropLead? ['-'] t)
  let (day, t) ← digits? 1 2 (← dropLead? ['-'] t)
  if t.isEmpty then return { year, month, day }
  else return { year, month, day, time := some (← dayTime? t) }

/-- Whether a text is taken for a timestamp without being marked as one: a date alone must have two
digits for its month and two for its day. -/
def isPlain (t : Text) : Bool :=
  match ofText? t with
  | some { time := some _, .. } => true
  | some _ => t.length = 10
  | none => false

/-! ## Calendar -/

def daysOf (year month : Nat) : Nat :=
  if month = 2 then (if year % 4 = 0 ∧ (year % 100 ≠ 0 ∨ year % 400 = 0) then 29 else 28)
  else if month = 4 ∨ month = 6 ∨ month = 9 ∨ month = 11 then 30
  else 31

/-- The moment of a timestamp whose offset counts. -/
def instant (t : Timestamp) : Int :=
  match t.time with
  | none => Time.dayNumber t.year t.month t.day * Time.microsPerDay
  | some time =>
    let moment := Time.Moment.ofCivil
      { year := t.year, month := t.month, day := t.day, hour := time.hour, minute := time.minute,
        second := time.second, micro := time.micro }
    (moment.micros : Int) - time.offset.getD 0 * 60 * Time.microsPerSecond

def isSame (a b : Timestamp) : Bool :=
  match a.time.bind (·.offset), b.time.bind (·.offset) with
  | some _, some _ => a.instant = b.instant
  | _, _ => a = b

/-! ## Text -/

def spanText (minutes : Int) : Text :=
  let days := minutes.fdiv 1440
  let seconds := minutes.fmod 1440 * 60
  let counted (name : String) (n : Int) : List Text :=
    if n = 0 then [] else [name.toList ++ '=' :: ofInt n]
  let parts := counted "days" days ++ counted "seconds" seconds
  "datetime.timedelta(".toList ++ (if parts.isEmpty then ['0'] else join [',', ' '] parts) ++ [')']

/-- Why a timestamp is no moment; none if it is one. The offset is looked at first. -/
def fault? (t : Timestamp) : Option Text :=
  let beyond := (t.time.bind (·.offset)).filter fun minutes => 1440 ≤ minutes.natAbs
  match beyond, t.time with
  | some minutes, _ =>
    some ("offset must be a timedelta strictly between ".toList ++
      "-timedelta(hours=24) and timedelta(hours=24), not ".toList ++ spanText minutes ++ ['.'])
  | none, time =>
    let time := time.getD ⟨0, 0, 0, 0, none⟩
    if t.year = 0 then some "year 0 is out of range".toList
    else if t.month = 0 ∨ 12 < t.month then some "month must be in 1..12".toList
    else if t.day = 0 ∨ daysOf t.year t.month < t.day then
      some "day is out of range for month".toList
    else if 23 < time.hour then some "hour must be in 0..23".toList
    else if 59 < time.minute then some "minute must be in 0..59".toList
    else if 59 < time.second then some "second must be in 0..59".toList
    else none

def shown (t : Timestamp) : Text :=
  let commas (numbers : List Nat) : Text := join [',', ' '] (numbers.map ofNat)
  match t.time with
  | none => "datetime.date(".toList ++ commas [t.year, t.month, t.day] ++ [')']
  | some time =>
    let seconds :=
      if time.micro ≠ 0 then [time.second, time.micro]
      else if time.second ≠ 0 then [time.second] else []
    let offset := match time.offset with
      | none => []
      | some 0 => ", tzinfo=datetime.timezone.utc".toList
      | some minutes => ", tzinfo=datetime.timezone(".toList ++ spanText minutes ++ [')']
    "datetime.datetime(".toList ++
      commas ([t.year, t.month, t.day, time.hour, time.minute] ++ seconds) ++ offset ++ [')']

/-- A timestamp as a name: the date, and the time of day after a space. -/
def text (t : Timestamp) : Text :=
  let date := padded 4 t.year ++ '-' :: padded 2 t.month ++ '-' :: padded 2 t.day
  match t.time with
  | none => date
  | some time =>
    let offset := match time.offset with
      | none => []
      | some minutes =>
        (if minutes < 0 then '-' else '+') :: padded 2 (minutes.natAbs / 60) ++
          ':' :: padded 2 (minutes.natAbs % 60)
    date ++ ' ' :: padded 2 time.hour ++ ':' :: padded 2 time.minute ++ ':' :: padded 2 time.second ++
      (if time.micro = 0 then [] else '.' :: padded 6 time.micro) ++ offset

end Timestamp

end ScriptRun.Yaml
