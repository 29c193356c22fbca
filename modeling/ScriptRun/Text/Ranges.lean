/-!
# Sets of code points as ascending ranges

A character class outside ASCII is given by the closed ranges of code points it holds, in
ascending order. Membership stops at the first range that begins above the code point.
-/

namespace ScriptRun.Text

/-- Whether a code point lies in one of the ascending closed ranges. -/
def inRanges (n : Nat) : List (Nat × Nat) → Bool
  | [] => false
  | (lo, hi) :: rest => if n < lo then false else n ≤ hi || inRanges n rest

end ScriptRun.Text
