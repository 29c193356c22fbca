import ScriptRun.Text.Basic

/-!
# Bytes in hexadecimal

Bytes that are no text are shown as two hexadecimal digits each.
-/

namespace ScriptRun.Text

/-- The value of a hexadecimal digit, in lower case or upper case. -/
def hexValue? (c : Char) : Option Nat :=
  if '0' ≤ c ∧ c ≤ '9' then some (c.toNat - 0x30)
  else if 'a' ≤ c ∧ c ≤ 'f' then some (c.toNat - 0x61 + 10)
  else if 'A' ≤ c ∧ c ≤ 'F' then some (c.toNat - 0x41 + 10)
  else none

def ofBytes (bytes : List UInt8) : Text := bytes.flatMap fun b => hex 2 b.toNat

def toBytes? : Text → Option (List UInt8)
  | [] => some []
  | [_] => none
  | a :: b :: rest => do
    let high ← hexValue? a
    let low ← hexValue? b
    return UInt8.ofNat (high * 16 + low) :: (← toBytes? rest)

end ScriptRun.Text
