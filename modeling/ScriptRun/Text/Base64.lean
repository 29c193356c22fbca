import ScriptRun.Text.Basic

/-!
# Base 64

Four digits of base 64 are three bytes. Characters that are no digits are passed over, and reading
ends at the padding of an unfinished group of two or three digits. Padding anywhere else is passed
over too.
-/

namespace ScriptRun.Text.Base64

inductive Fault where
  /-- The last group has a single digit; the number of digits is given. -/
  | loneDigit (digits : Nat)
  | padding
  deriving DecidableEq, Repr

def Fault.message : Fault → Text
  | .loneDigit digits =>
    "Invalid base64-encoded string: number of data characters (".toList ++ ofNat digits ++
      ") cannot be 1 more than a multiple of 4".toList
  | .padding => "Incorrect padding".toList

def digit? (c : Char) : Option Nat :=
  if 'A' ≤ c ∧ c ≤ 'Z' then some (c.toNat - 0x41)
  else if 'a' ≤ c ∧ c ≤ 'z' then some (c.toNat - 0x61 + 26)
  else if '0' ≤ c ∧ c ≤ '9' then some (c.toNat - 0x30 + 52)
  else if c = '+' then some 62
  else if c = '/' then some 63
  else none

/-- The bytes of a text after some digits of a group: `count` of them with the bits in `left` that
have not become bytes, and `pads` paddings since. `made` counts the bytes so far. -/
def decodeFrom (made count left pads : Nat) : Text → Except Fault (List UInt8)
  | [] =>
    if count = 0 then .ok []
    else if count = 1 then .error (.loneDigit (made / 3 * 4 + 1))
    else .error .padding
  | c :: rest =>
    if c = '=' then
      if 2 ≤ count then
        if 4 ≤ count + (pads + 1) then .ok [] else decodeFrom made count left (pads + 1) rest
      else decodeFrom made count left pads rest
    else
      match digit? c with
      | none => decodeFrom made count left pads rest
      | some d =>
        match count with
        | 0 => decodeFrom made 1 d 0 rest
        | 1 => (UInt8.ofNat (left * 4 + d / 16) :: ·) <$> decodeFrom (made + 1) 2 (d % 16) 0 rest
        | 2 => (UInt8.ofNat (left * 16 + d / 4) :: ·) <$> decodeFrom (made + 1) 3 (d % 4) 0 rest
        | _ => (UInt8.ofNat (left * 64 + d) :: ·) <$> decodeFrom (made + 1) 0 0 0 rest

def decode (t : Text) : Except Fault (List UInt8) := decodeFrom 0 0 0 0 t

end ScriptRun.Text.Base64
