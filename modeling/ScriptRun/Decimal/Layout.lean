import ScriptRun.Decimal.Shortest
import ScriptRun.Text.Basic

/-!
# Numbers as text

How the digits of a number are laid out: positionally within a range of exponents, otherwise with
one digit before the point and an exponent of at least two digits with a sign.
-/

namespace ScriptRun.Decimal

structure Layout where
  /-- The first exponent of the leading digit that is no longer written positionally. -/
  positionalBelow : Int
  /-- Whether a whole number keeps a point and a zero. -/
  keepsPoint : Bool

/-- Numbers in data and messages: positional from `10 ^ -4` to below `10 ^ 16`, and a whole number
shows that it is a float. -/
def Layout.exact : Layout := ⟨16, true⟩

/-- Durations in messages, rounded to six digits: positional below `10 ^ 6`. -/
def Layout.general : Layout := ⟨6, false⟩

def exponentText (e : Int) : Text :=
  'e' :: (if e < 0 then '-' else '+') :: Text.padded 2 e.natAbs

def Layout.digits (l : Layout) (d : Digits) : Text :=
  let ds := Nat.toDigits 10 d.digits
  let leading := d.exponent + (ds.length : Int) - 1
  if leading < -4 ∨ l.positionalBelow ≤ leading then
    let tail := ds.drop 1
    ds.take 1 ++ (if tail.isEmpty then [] else '.' :: tail) ++ exponentText leading
  else if 0 ≤ d.exponent then
    ds ++ List.replicate d.exponent.toNat '0' ++ if l.keepsPoint then ['.', '0'] else []
  else if 0 ≤ leading then
    ds.take (leading.toNat + 1) ++ '.' :: ds.drop (leading.toNat + 1)
  else '0' :: '.' :: List.replicate (-leading - 1).toNat '0' ++ ds

/-- A float as text: its sign, then the digits that `digitsOf` chooses for a positive one. -/
def Layout.float (l : Layout) (digitsOf : Nat → Int → Digits) (x : Float) : Text :=
  match Parts.ofFloat x with
  | .nan => "nan".toList
  | .infinite negative => (if negative then "-inf" else "inf").toList
  | .finite negative mantissa exponent =>
    (if negative then ['-'] else []) ++
      if mantissa = 0 then (if l.keepsPoint then ['0', '.', '0'] else ['0'])
      else l.digits (digitsOf mantissa exponent)

/-- The shortest text of a float that reads back as the same float. -/
def exactText (x : Float) : Text := Layout.exact.float shortest x

/-- The text of a float rounded to six significant digits, without zeros at the end. -/
def generalText (x : Float) : Text :=
  Layout.general.float
    (fun mantissa exponent =>
      let (num, den) := scaleTwo mantissa exponent
      significant 6 num den) x

end ScriptRun.Decimal
