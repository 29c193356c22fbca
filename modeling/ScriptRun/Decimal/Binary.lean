/-!
# Binary floating-point numbers as exact fractions

A finite 64-bit float is a whole number times a power of two. This module takes a float apart into
that form and finds the float nearest to a fraction, so that reading and printing of decimals can
be said in whole numbers.
-/

namespace ScriptRun.Decimal

/-- The quotient rounded to the nearest whole number, a half to the even neighbour. -/
def roundDiv (num den : Nat) : Nat :=
  let floor := num / den
  let twice := 2 * (num % den)
  if twice < den ∨ (twice = den ∧ floor % 2 = 0) then floor else floor + 1

/-- A float taken apart: a finite one is `mantissa * 2 ^ exponent`. -/
inductive Parts where
  | nan
  | infinite (negative : Bool)
  | finite (negative : Bool) (mantissa : Nat) (exponent : Int)
  deriving DecidableEq, Repr

def leastExponent : Int := -1074

/-- The least mantissa of a float that is not subnormal. -/
def leastNormal : Nat := Nat.pow 2 52

def Parts.ofFloat (x : Float) : Parts :=
  let bits := x.toBits.toNat
  let negative := Nat.pow 2 63 ≤ bits
  let biased : Nat := bits / Nat.pow 2 52 % Nat.pow 2 11
  let fraction : Nat := bits % Nat.pow 2 52
  if biased = 2047 then (if fraction = 0 then .infinite negative else .nan)
  else if biased = 0 then .finite negative fraction leastExponent
  else .finite negative (fraction + leastNormal) ((biased : Int) - 1075)

/-- Puts a float together; a mantissa of `2 ^ 53` is carried, and what is too large becomes
infinite. A mantissa below `leastNormal` must stand with the least exponent. -/
def Parts.toFloat : Parts → Float
  | .nan => Float.ofBits 0x7ff8000000000000
  | .infinite negative =>
    Float.ofBits (if negative then 0xfff0000000000000 else 0x7ff0000000000000)
  | .finite negative mantissa exponent =>
    let bits :=
      if mantissa < leastNormal then mantissa
      else
        let carried := mantissa = 2 * leastNormal
        let biased := (exponent + 1075).toNat + if carried then 1 else 0
        let fraction := if carried then 0 else mantissa - leastNormal
        if 2047 ≤ biased then 2047 * leastNormal else biased * leastNormal + fraction
    Float.ofBits (UInt64.ofNat (bits + if negative then Nat.pow 2 63 else 0))

/-- The numerator and denominator of `n * 2 ^ e`. -/
def scaleTwo (n : Nat) (e : Int) : Nat × Nat := (n * Nat.pow 2 e.toNat, Nat.pow 2 (-e).toNat)

/-- The mantissa and exponent of the float nearest to a positive fraction, a half to the even
mantissa. -/
def nearest (num den : Nat) : Nat × Int :=
  let guess : Int := (num.log2 : Int) - (den.log2 : Int) - 53
  let scaled (q : Int) : Nat × Nat := (num * Nat.pow 2 (-q).toNat, den * Nat.pow 2 q.toNat)
  let low := max guess leastExponent
  let (n, d) := scaled low
  let q := if n / d < 2 * leastNormal then low else low + 1
  let (n, d) := scaled q
  (roundDiv n d, q)

def ofFraction (negative : Bool) (num den : Nat) : Float :=
  if num = 0 then (Parts.finite negative 0 leastExponent).toFloat
  else
    let (mantissa, exponent) := nearest num den
    (Parts.finite negative mantissa exponent).toFloat

/-- The float nearest to an integer, unless none is near enough. -/
def ofInt? (n : Int) : Option Float :=
  let x := ofFraction (n < 0) n.natAbs 1
  if x.isInf then none else some x

end ScriptRun.Decimal
