import ScriptRun.Decimal.Binary
import ScriptRun.Text.CharClass

/-!
# Numbers read from text

The numerals accepted where a person or a settings file writes a number: white space around the
numeral, a sign, digits of any numeral system, single underscores between digits, and for a float a
point, an exponent and the words for infinity and not-a-number in any case. A float is the one
nearest to the exact decimal value.
-/

namespace ScriptRun.Decimal

open Text

/-- A numeral in plain form: any decimal digit becomes the ASCII digit of its value, and white space
outside ASCII becomes a space. -/
def plainChar (c : Char) : Char :=
  if c.toNat < 0x7f then c
  else match digitValue? c with
    | some d => Char.ofNat (0x30 + d)
    | none => if isBlank c then ' ' else c

def isPlainDigit (c : Char) : Bool := '0' ≤ c && c ≤ '9'

/-- White space that may stand around a plain numeral. -/
def isAround (c : Char) : Bool := c = ' ' || (9 ≤ c.toNat && c.toNat ≤ 13)

/-- Removes underscores between digits; any other underscore is an error. The first argument tells
whether the character before is a digit. -/
def withoutUnderscores : Bool → Text → Option Text
  | _, [] => some []
  | afterDigit, '_' :: c :: rest =>
    if afterDigit && isPlainDigit c then (withoutUnderscores true rest).map (c :: ·) else none
  | _, c :: rest => if c = '_' then none else (withoutUnderscores (isPlainDigit c) rest).map (c :: ·)

/-- The bare characters of a numeral, if its white space and underscores are in order. -/
def bareNumeral? (t : Text) : Option Text :=
  let plain := t.map plainChar
  let bare := ((plain.dropWhile isAround).reverse.dropWhile isAround).reverse
  withoutUnderscores false bare

/-- Splits off a sign; the answer tells whether it is negative. -/
def splitSign : Text → Bool × Text
  | '-' :: rest => (true, rest)
  | '+' :: rest => (false, rest)
  | t => (false, t)

def plainValue (digits : Text) : Nat := digits.foldl (fun n c => n * 10 + (c.toNat - 0x30)) 0

/-- The float nearest to `digits * 10 ^ exponent`. Beyond the range of floats the exponent alone
decides, whatever its size. -/
def ofScientific (negative : Bool) (digits : Text) (exponent : Int) : Float :=
  let significant := digits.dropWhile (· = '0')
  let magnitude := exponent + significant.length
  if significant.isEmpty then ofFraction negative 0 1
  else if magnitude < -400 then ofFraction negative 0 1
  else if 400 < magnitude then (Parts.infinite negative).toFloat
  else
    let n := plainValue significant
    ofFraction negative (n * Nat.pow 10 exponent.toNat) (Nat.pow 10 (-exponent).toNat)

/-- An unsigned decimal numeral of bare characters: digits with at most one point among them and at
least one digit, and optionally an exponent. -/
def readUnsigned? (negative : Bool) (t : Text) : Option Float :=
  let whole := t.takeWhile isPlainDigit
  let afterWhole := t.dropWhile isPlainDigit
  let (fraction, afterFraction) :=
    match afterWhole with
    | '.' :: rest => (rest.takeWhile isPlainDigit, rest.dropWhile isPlainDigit)
    | rest => ([], rest)
  if whole.isEmpty && fraction.isEmpty then none
  else
    let digits := whole ++ fraction
    let shift : Int := fraction.length
    match afterFraction with
    | [] => some (ofScientific negative digits (-shift))
    | e :: rest =>
      let (negativeExponent, exponent) := splitSign rest
      if (e = 'e' ∨ e = 'E') ∧ exponent ≠ [] ∧ exponent.all isPlainDigit then
        let n : Int := plainValue exponent
        some (ofScientific negative digits ((if negativeExponent then -n else n) - shift))
      else none

def readFloat? (t : Text) : Option Float := do
  let (negative, rest) := splitSign (← bareNumeral? t)
  let word := rest.map lowerAscii
  if word = "inf".toList ∨ word = "infinity".toList then some (Parts.infinite negative).toFloat
  else if word = "nan".toList then some Parts.nan.toFloat
  else readUnsigned? negative rest

inductive IntFault where
  | malformed
  | tooLong (digits : Nat)
  deriving DecidableEq, Repr

/-- The most digits of a numeral that is read as an integer. -/
def digitLimit : Nat := 4300

def tooLongMessage (digits : Nat) : Text :=
  "Exceeds the limit (4300 digits) for integer string conversion: value has ".toList ++
    Text.ofNat digits ++
    " digits; use sys.set_int_max_str_digits() to increase the limit".toList

def isWritable (n : Int) : Bool := n.natAbs < Nat.pow 10 digitLimit

def unwritableMessage : Text :=
  ("Exceeds the limit (4300 digits) for integer string conversion; " ++
    "use sys.set_int_max_str_digits() to increase the limit").toList

/-- The value of digits of any numeral system, unless there are too many. -/
def readDigits (digits : Text) : Except Nat Nat :=
  if digitLimit < digits.length then .error digits.length else .ok (digitsValue digits)

def readInt (t : Text) : Except IntFault Int :=
  match bareNumeral? t with
  | none => .error .malformed
  | some bare =>
    let (negative, digits) := splitSign bare
    if digits.isEmpty || !digits.all isPlainDigit then .error .malformed
    else if digitLimit < digits.length then .error (.tooLong digits.length)
    else
      let n : Int := plainValue digits
      .ok (if negative then -n else n)

end ScriptRun.Decimal
