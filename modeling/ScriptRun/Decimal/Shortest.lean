import ScriptRun.Decimal.Binary

/-!
# The digits of a float

`shortest` gives the fewest decimal digits that read back as the same float, and of those the
nearest. It looks at the grids of one, two, and up to seventeen significant digits: on each grid
only the two neighbours of the value can be nearest, and the first grid with a neighbour in the
interval of numbers that round to the float wins. `significant` rounds to a fixed number of digits.
-/

namespace ScriptRun.Decimal

/-- A positive decimal number: `digits * 10 ^ exponent`. -/
structure Digits where
  digits : Nat
  exponent : Int
  deriving DecidableEq, Repr

/-- The exponent of the leading digit of a positive fraction. -/
def leadingExponent (num den : Nat) : Int :=
  let guess : Int := ((Nat.toDigits 10 num).length : Int) - ((Nat.toDigits 10 den).length : Int)
  if den * Nat.pow 10 guess.toNat ≤ num * Nat.pow 10 (-guess).toNat then guess else guess - 1

/-- The fraction `num / den` divided by `10 ^ k`. -/
def overTen (num den : Nat) (k : Int) : Nat × Nat :=
  (num * Nat.pow 10 (-k).toNat, den * Nat.pow 10 k.toNat)

/-- Drops zeros from the end of the digits. -/
def Digits.normal (d : Digits) : Digits :=
  go d.digits d.exponent d.digits
where
  go (n : Nat) (e : Int) : Nat → Digits
    | 0 => ⟨n, e⟩
    | fuel + 1 => if n % 10 = 0 ∧ n ≠ 0 then go (n / 10) (e + 1) fuel else ⟨n, e⟩

/-- Whether the decimal number lies between the ends of the interval of numbers that round to
`mantissa * 2 ^ exponent`. The ends belong to it when the mantissa is even. -/
def roundsTo (mantissa : Nat) (exponent : Int) (d : Digits) : Bool :=
  let below := if mantissa = leastNormal ∧ leastExponent < exponent then 1 else 2
  let tens := d.digits * Nat.pow 10 d.exponent.toNat * 4 * Nat.pow 2 (-exponent).toNat
  let unit := Nat.pow 10 (-d.exponent).toNat * Nat.pow 2 exponent.toNat
  let low := (4 * mantissa - below) * unit
  let high := (4 * mantissa + 2) * unit
  if mantissa % 2 = 0 then low ≤ tens && tens ≤ high else low < tens && tens < high

/-- The nearer of the two neighbours of the value on the grid of multiples of `10 ^ k`, among those
that read back; a tie goes to the even neighbour. -/
def onGrid (mantissa : Nat) (exponent k : Int) : Option Digits :=
  let (num, den) := scaleTwo mantissa exponent
  let (num, den) := overTen num den k
  let floor := num / den
  let low : Digits := ⟨floor, k⟩
  let high : Digits := ⟨floor + 1, k⟩
  match roundsTo mantissa exponent low && floor != 0,
      roundsTo mantissa exponent high with
  | true, true =>
    let twice := 2 * (num % den)
    if twice < den ∨ (twice = den ∧ floor % 2 = 0) then some low else some high
  | true, false => some low
  | false, true => some high
  | false, false => none

/-- The fewest digits that read back as the positive float `mantissa * 2 ^ exponent`. -/
def shortest (mantissa : Nat) (exponent : Int) : Digits :=
  let (num, den) := scaleTwo mantissa exponent
  let leading := leadingExponent num den
  let hit := (List.range 17).findSome? fun (n : Nat) => onGrid mantissa exponent (leading - n)
  (hit.getD ⟨mantissa, exponent⟩).normal

/-- A positive fraction rounded to `count` significant digits, a half to even. -/
def significant (count : Nat) (num den : Nat) : Digits :=
  let k := leadingExponent num den - (count - 1 : Nat)
  let (n, d) := overTen num den k
  (Digits.mk (roundDiv n d) k).normal

end ScriptRun.Decimal
