import ScriptRun.Text.Lines
import ScriptRun.Text.Utf8

/-!
# Lines of a stream that arrives in chunks

A line buffer turns chunks of bytes or of characters into lines. A line feed, a carriage return, or
both together end a line. A carriage return at the end of a chunk is held, because the line feed that
belongs to it may be the first character of the next chunk. A line that outgrows the limit leaves the
buffer in pieces of exactly that many characters, counted from where the line began, and what stays
behind is never empty.

`Text.outputLines` says what lines a finished stream has, without any chunks.
-/

namespace ScriptRun

namespace Text

def defaultLineLimit : Nat := 4096

/-- The carriage return at the end of a text that may be half of a line end. -/
def heldReturn (t : Text) : Text := if t.getLast? = some '\r' then ['\r'] else []

/-- The text before a held carriage return. -/
def settled (t : Text) : Text := if t.getLast? = some '\r' then t.dropLast else t

/-- What the parts of an unfinished stream between its line ends give: every part but the last is a
line, and the last one goes on. -/
def handOut (limit : Nat) : List Text → List Text × Text
  | [] => ([], [])
  | [last] => overflow limit last
  | line :: parts =>
    let more := handOut limit parts
    (pieces limit line ++ more.1, more.2)

/-- The lines and pieces that a text completes, and the unfinished line after them. The text begins
where a line or a piece begins. -/
def framed (limit : Nat) (t : Text) : List Text × Text :=
  let handedOut := handOut limit (splitAt '\n' (unifyLineEnds (settled t)))
  (handedOut.1, handedOut.2 ++ heldReturn t)

end Text

/-- A line buffer: the longest line it hands out, an unfinished character and the unfinished line,
with the carriage return that may still belong to a line feed. -/
structure LineBuffer where
  limit : Nat := Text.defaultLineLimit
  decoder : Text.Utf8.Decoder := .start
  pending : Text := []
  deriving DecidableEq

/-- What a pipe delivers: bytes, or characters that are decoded already. -/
inductive Chunk where
  | bytes (bytes : List UInt8)
  | text (text : Text)
  deriving DecidableEq, Repr

namespace LineBuffer

def feedText (b : LineBuffer) (t : Text) : List Text × LineBuffer :=
  let (lines, pending) := Text.framed b.limit (b.pending ++ t)
  (lines, { b with pending })

/-- Adds a chunk; the result is the lines it completes. Characters pass by an unfinished byte
sequence, which stays as it is. -/
def feed (b : LineBuffer) : Chunk → List Text × LineBuffer
  | .bytes bytes =>
    let (items, decoder) := b.decoder.run bytes
    feedText { b with decoder } (items.map Text.Utf8.replaced)
  | .text t => b.feedText t

/-- Hands out what is left as final lines. -/
def flush (b : LineBuffer) : List Text × LineBuffer :=
  let rest := b.decoder.finish.map Text.Utf8.replaced
  (Text.outputLines b.limit (b.pending ++ rest), { limit := b.limit })

def clear (b : LineBuffer) : LineBuffer := { limit := b.limit }

def feedAll (b : LineBuffer) : List Chunk → List Text × LineBuffer
  | [] => ([], b)
  | chunk :: chunks =>
    let (lines, b) := b.feed chunk
    let (more, b) := b.feedAll chunks
    (lines ++ more, b)

end LineBuffer

end ScriptRun
