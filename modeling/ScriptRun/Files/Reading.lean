import ScriptRun.Text.Lines
import ScriptRun.Text.Utf8

/-!
# Text files read piece by piece

A reader asks for a number of characters at a time. Bytes are fetched in blocks, and a block is
larger when the characters of the block before took more than two bytes each. A carriage return at
the end of a block waits for the character after it, because the two may be one line end. So bytes
that are no text are noticed only when their block is fetched, and the pieces before it are good.
-/

namespace ScriptRun.Files

open Text

structure Reading where
  /-- The bytes that have not been fetched. -/
  unread : List UInt8
  decoding : Utf8.Partial := {}
  /-- Whether a carriage return waits. -/
  waits : Bool := false
  /-- Characters that were fetched and not asked for yet. -/
  ready : Text := []
  /-- How many bytes a character of the last block took. -/
  density : Float := 0.0

namespace Reading

/-- The least number of bytes of a block. -/
def blockSize : Nat := 8192

def fetchSize (density : Float) (wanted : Nat) : Nat :=
  let density := if density < 1.0 then 1.0 else density
  max blockSize (density * wanted.toFloat).toUInt64.toNat

/-- The characters of a block, with line ends unified, and whether a carriage return waits. -/
def unified (waits : Bool) (t : Text) : Text × Bool :=
  match t with
  | [] => ([], waits)
  | t =>
    let t := if waits then '\r' :: t else t
    if t.getLast? = some '\r' then (unifyLineEnds t.dropLast, true) else (unifyLineEnds t, false)

/-- Fetches a block; the answer tells whether there was anything left. -/
def fetch (wanted : Nat) (r : Reading) : Except Utf8.Misread (Bool × Reading) := do
  let block := r.unread.take (fetchSize r.density wanted)
  if block.isEmpty then
    r.decoding.finish? r.decoding.decoder.seen
    return (r.waits, { r with waits := false, ready := if r.waits then ['\n'] else [] })
  else
    let (t, decoding) ← r.decoding.decode? block
    let (ready, waits) := unified r.waits t
    let density :=
      if ready.isEmpty then 0.0 else block.length.toFloat / ready.length.toFloat
    return (true, { unread := r.unread.drop block.length, decoding, waits, ready, density })

/-- Reads some characters, or fewer at the end of the file. The first argument bounds the number of
blocks. -/
def read : Nat → Nat → Reading → Except Utf8.Misread (Text × Reading)
  | 0, _, r => .ok ([], r)
  | blocks + 1, wanted, r => do
    let taken := r.ready.take wanted
    let r := { r with ready := r.ready.drop wanted }
    if wanted ≤ taken.length then return (taken, r)
    else
      let (more, r) ← r.fetch (wanted - taken.length)
      if more then
        let (rest, r) ← read blocks (wanted - taken.length) r
        return (taken ++ rest, r)
      else return (taken, r)

/-- The pieces of a size that a file holds, the last one possibly shorter, and what stops the reading
of another one. The first argument bounds their number. -/
def pieces (size : Nat) : Nat → Reading → List Text × Option Utf8.Misread
  | 0, _ => ([], none)
  | count + 1, r =>
    match r.read (r.unread.length + 2) size with
    | .error misread => ([], some misread)
    | .ok ([], _) => ([], none)
    | .ok (piece, r) =>
      let (rest, stops) := pieces size count r
      (piece :: rest, stops)

end Reading

/-- The pieces of a size that bytes hold as text, and what stops the reading of another one. -/
def textPieces (size : Nat) (bytes : List UInt8) : List Text × Option Utf8.Misread :=
  Reading.pieces size (bytes.length + 1) { unread := bytes }

end ScriptRun.Files
