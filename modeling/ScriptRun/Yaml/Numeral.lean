import ScriptRun.Decimal.Reading
import ScriptRun.Text.Hex
import ScriptRun.Text.Lower
import ScriptRun.Yaml.Token

/-!
# Numerals of a settings document

Underscores do not count anywhere in a numeral. After the sign, `0b` begins a binary numeral, `0x` a
hexadecimal one and any other `0` an octal one, and each of these may have a sign and the prefix of
its base once more. Colons separate digits of base sixty; a float has them too.
-/

namespace ScriptRun.Yaml

open Text

def withoutBasePrefix (base : Nat) (t : Text) : Text :=
  match t with
  | '0' :: c :: digits =>
    let letter := match base with
      | 2 => 'b'
      | 8 => 'o'
      | _ => 'x'
    if lowerAscii c = letter then digits else t
  | _ => t

def notInBase (base : Nat) (t : Text) : Text :=
  "invalid literal for int() with base ".toList ++ ofNat base ++ ": ".toList ++ (quoted t).take 200

/-- A numeral of base two, eight or sixteen: white space, a sign, the prefix of the base, digits and
white space. Only the digits must be there. -/
def readBase (base : Nat) (t : Text) : Except Fault Int :=
  let bare := ((t.map Decimal.plainChar).dropWhile Decimal.isAround).reverse.dropWhile Decimal.isAround
  let (negative, unsigned) := Decimal.splitSign bare.reverse
  let values := (withoutBasePrefix base unsigned).map hexValue?
  if values.isEmpty || values.any fun v => v.all (base ≤ ·) then
    .error (.meaningless (notInBase base t))
  else
    let n : Int := (values.foldl (fun n v => n * base + v.getD 0) 0 : Nat)
    .ok (if negative then -n else n)

def readDecimal (t : Text) : Except Fault Int :=
  match Decimal.readInt t with
  | .ok n => .ok n
  | .error .malformed => .error (.meaningless (notInBase 10 t))
  | .error (.tooLong digits) => .error (.meaningless (Decimal.tooLongMessage digits))

def readInt (content : Text) : Except Fault Int := do
  let (negative, t) := Decimal.splitSign (content.filter (· ≠ '_'))
  let n ← match t with
    | [] => .error .emptyNumber
    | ['0'] => .ok 0
    | '0' :: 'b' :: digits => readBase 2 digits
    | '0' :: 'x' :: digits => readBase 16 digits
    | '0' :: _ => readBase 8 t
    | _ =>
      if t.contains ':' then do
        let parts ← (splitAt ':' t).mapM readDecimal
        .ok (parts.foldl (fun n part => n * 60 + part) 0)
      else readDecimal t
  return if negative then -n else n

def readFloatPart (t : Text) : Except Fault Float :=
  match Decimal.readFloat? t with
  | some x => .ok x
  | none => .error (.meaningless ("could not convert string to float: ".toList ++ quoted t))

/-- The sum of digits of base sixty, the last of them first, in floats. `place` is the power of sixty
of the first. -/
def sixtiethsFrom (place : Nat) (sum : Float) : List Float → Except Fault Float
  | [] => .ok sum
  | digit :: rest =>
    match Decimal.ofInt? (Nat.pow 60 place : Nat) with
    | some weight => sixtiethsFrom (place + 1) (sum + digit * weight) rest
    | none => .error (.tooLarge "int too large to convert to float".toList)

/-- The float of a scalar: infinite, not a number, by sixties, or decimal. -/
def readFloat (content : Text) : Except Fault Float := do
  let t := lower (content.filter (· ≠ '_'))
  if t.isEmpty then throw .emptyNumber
  let (negative, t) := Decimal.splitSign t
  let x ←
    if t = ".inf".toList then .ok (Decimal.Parts.infinite false).toFloat
    else if t = ".nan".toList then .ok Decimal.Parts.nan.toFloat
    else if t.contains ':' then do
      let parts ← (splitAt ':' t).mapM readFloatPart
      sixtiethsFrom 0 0.0 parts.reverse
    else readFloatPart t
  return if negative then -x else x

end ScriptRun.Yaml
