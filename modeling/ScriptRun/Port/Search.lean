import ScriptRun.Decimal.Reading

/-!
# Finding a free port

The search tries the ports of a range from the lowest on and takes the first that is free. Nothing
holds the port afterwards, so the answer is only a hint. Ports above 65535 are never tried.
-/

namespace ScriptRun.Port

inductive SearchFault where
  | invalidRange (first last : Int)
  | noneFree (first last : Int)
  deriving DecidableEq, Repr

def rangeText (first last : Int) : Text := Text.ofInt first ++ '.' :: '.' :: Text.ofInt last

/-- The wording of a fault. A bound with too many digits cannot be written. -/
def SearchFault.message : SearchFault → Text
  | .invalidRange first last =>
    if Decimal.isWritable first && Decimal.isWritable last then
      "invalid port range ".toList ++ rangeText first last
    else Decimal.unwritableMessage
  | .noneFree first last => "no free port in ".toList ++ rangeText first last

def highest : Int := 65535

/-- How far above the first port the search goes when no last port is given. -/
def span : Int := 100

/-- The first free port among `count` ports from a port on, and the ports that were tried. -/
def scan (isFree : Int → Bool) (port : Int) : Nat → Option Int × List Int
  | 0 => (none, [])
  | count + 1 =>
    if isFree port then (some port, [port])
    else
      let (found, tried) := scan isFree (port + 1) count
      (found, port :: tried)

/-- The first free port of a range, and the ports that were tried. -/
def findFree (isFree : Int → Bool) (first : Int) (last : Option Int) :
    Except SearchFault Int × List Int :=
  let last := last.getD (first + span)
  if first ≤ 0 ∨ highest < first ∨ last < first then (.error (.invalidRange first last), [])
  else
    match scan isFree first (min last highest - first + 1).toNat with
    | (some port, tried) => (.ok port, tried)
    | (none, tried) => (.error (.noneFree first last), tried)

end ScriptRun.Port
