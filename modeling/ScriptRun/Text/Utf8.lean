import ScriptRun.Text.Basic

/-!
# UTF-8, one byte at a time

The decoder's state is what it knows of a character whose bytes have not all arrived: how many
bytes it has seen, how many are missing, the value so far, and the range in which the next byte
must lie. That range leaves out overlong forms, surrogates and values above U+10FFFF, so a fault is
found at the first byte that cannot continue a character. A byte that breaks off a character is
looked at again as the first byte of the next one. The first two bytes of a surrogate are the
exception: that they are no character is told only with the byte after them or at the end.

Decoding with replacement writes U+FFFD for each fault, and so gives the same text however the
bytes are cut. Strict decoding stops at the first fault and tells where it is.
-/

namespace ScriptRun.Text.Utf8

inductive Fault where
  | startByte
  | continuation
  | truncated
  deriving DecidableEq, Repr

/-- What is known of an unfinished character. -/
inductive Decoder where
  | start
  | continuing (seen missing value lo hi : Nat)
  /-- Two bytes with which a surrogate would begin. -/
  | surrogate
  deriving DecidableEq, Repr

/-- One decoded character or one fault. -/
abbrev Item := Except Fault Char

/-- The step on a byte that begins a character. -/
def lead (byte : UInt8) : List Item × Decoder :=
  let b := byte.toNat
  if b < 0x80 then ([.ok (Char.ofNat b)], .start)
  else if 0xc2 ≤ b ∧ b ≤ 0xdf then ([], .continuing 1 1 (b - 0xc0) 0x80 0xbf)
  else if b = 0xe0 then ([], .continuing 1 2 0 0xa0 0xbf)
  else if b = 0xed then ([], .continuing 1 2 0xd 0x80 0x9f)
  else if 0xe1 ≤ b ∧ b ≤ 0xef then ([], .continuing 1 2 (b - 0xe0) 0x80 0xbf)
  else if b = 0xf0 then ([], .continuing 1 3 0 0x90 0xbf)
  else if 0xf1 ≤ b ∧ b ≤ 0xf3 then ([], .continuing 1 3 (b - 0xf0) 0x80 0xbf)
  else if b = 0xf4 then ([], .continuing 1 3 4 0x80 0x8f)
  else ([.error .startByte], .start)

def Decoder.step : Decoder → UInt8 → List Item × Decoder
  | .start, byte => lead byte
  | .continuing seen missing value lo hi, byte =>
    let b := byte.toNat
    if lo ≤ b ∧ b ≤ hi then
      let value := value * 64 + (b - 0x80)
      if missing ≤ 1 then ([.ok (Char.ofNat value)], .start)
      else ([], .continuing (seen + 1) (missing - 1) value 0x80 0xbf)
    else if hi = 0x9f ∧ 0xa0 ≤ b ∧ b ≤ 0xbf then ([], .surrogate)
    else
      let next := lead byte
      (.error .continuation :: next.1, next.2)
  | .surrogate, byte =>
    let next := lead byte
    (.error .continuation :: .error .startByte :: next.1, next.2)

def Decoder.run : Decoder → List UInt8 → List Item × Decoder
  | d, [] => ([], d)
  | d, b :: bytes =>
    let first := d.step b
    let rest := first.2.run bytes
    (first.1 ++ rest.1, rest.2)

/-- What an unfinished character counts for when no more bytes come. -/
def Decoder.finish : Decoder → List Item
  | .start => []
  | .continuing .. => [.error .truncated]
  | .surrogate => [.error .continuation, .error .startByte]

/-- A fault is shown by the replacement character. -/
def replaced : Item → Char
  | .ok c => c
  | .error _ => '\ufffd'

/-- The text of finished bytes, with a replacement character for each fault. -/
def decode (bytes : List UInt8) : Text :=
  let (items, d) := Decoder.start.run bytes
  (items ++ d.finish).map replaced

def encode (t : Text) : List UInt8 := t.flatMap String.utf8EncodeChar

/-- A run over bytes in two parts is a run over the first and then over the second. -/
theorem Decoder.run_append (d : Decoder) (xs ys : List UInt8) :
    d.run (xs ++ ys) =
      let first := d.run xs
      let rest := first.2.run ys
      (first.1 ++ rest.1, rest.2) := by
  induction xs generalizing d with
  | nil => simp [Decoder.run]
  | cons b xs ih => simp [Decoder.run, ih]

/-- The first fault of bytes that are no UTF-8: its kind and the bytes it covers. -/
structure Misread where
  fault : Fault
  first : Nat
  past : Nat
  /-- The first byte covered. -/
  byte : UInt8
  deriving DecidableEq, Repr

/-- How many bytes of an unfinished character have been seen. -/
def Decoder.seen : Decoder → Nat
  | .start => 0
  | .continuing seen _ _ _ _ => seen
  | .surrogate => 2

/-- The first byte of a surrogate that begins at a position. -/
def surrogateAt (position : Nat) : Misread := ⟨.continuation, position, position + 1, 0xed⟩

/-- Where strict decoding stands after a block of bytes: what it knows of an unfinished character, and
the last byte. -/
structure Partial where
  decoder : Decoder := .start
  last : UInt8 := 0
  deriving DecidableEq, Repr

/-- Strict decoding from a state at a position; `before` is the byte before that position. -/
def decodeFrom : Decoder → Nat → UInt8 → List UInt8 → Except Misread (Text × Partial)
  | d, _, before, [] => .ok ([], ⟨d, before⟩)
  | .surrogate, position, _, _ :: _ => .error (surrogateAt (position - 2))
  | d, position, before, b :: bytes =>
    match d.step b with
    | (.error .startByte :: _, _) => .error ⟨.startByte, position, position + 1, b⟩
    | (.error fault :: _, _) => .error ⟨fault, position - d.seen, position, before⟩
    | (items, next) => do
      let (t, p) ← decodeFrom next (position + 1) b bytes
      return (items.map replaced ++ t, p)

namespace Partial

/-- The text of another block. Positions count from the beginning of the character that was left
unfinished, if there is one, and of the block otherwise. -/
def decode? (p : Partial) (block : List UInt8) : Except Misread (Text × Partial) :=
  decodeFrom p.decoder p.decoder.seen p.last block

/-- Nothing comes after the bytes so far, which end at a position. -/
def finish? (p : Partial) (position : Nat) : Except Misread Unit :=
  match p.decoder with
  | .start => .ok ()
  | .continuing seen _ _ _ _ => .error ⟨.truncated, position - seen, position, p.last⟩
  | .surrogate => .error (surrogateAt (position - 2))

end Partial

/-- The text of finished bytes that are all UTF-8, or their first fault. -/
def decode? (bytes : List UInt8) : Except Misread Text := do
  let (t, p) ← ({} : Partial).decode? bytes
  p.finish? bytes.length
  return t

def Fault.reason : Fault → Text
  | .startByte => "invalid start byte".toList
  | .continuation => "invalid continuation byte".toList
  | .truncated => "unexpected end of data".toList

def Misread.message (m : Misread) : Text :=
  let place :=
    if m.past = m.first + 1 then
      "byte 0x".toList ++ Text.hex 2 m.byte.toNat ++ " in position ".toList ++ Text.ofNat m.first
    else
      "bytes in position ".toList ++ Text.ofNat m.first ++ '-' :: Text.ofNat (m.past - 1)
  "'utf-8' codec can't decode ".toList ++ place ++ ": ".toList ++ m.fault.reason

end ScriptRun.Text.Utf8
