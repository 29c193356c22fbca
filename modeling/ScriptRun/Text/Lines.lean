import ScriptRun.Text.CharClass

/-!
# Lines of a text

Two notions of a line. The lines of a script end at any line end of Unicode, and an unfinished last
line counts only when it holds something. The lines of streamed output end at a line feed once
every carriage return, alone or before a line feed, has become one.
-/

namespace ScriptRun.Text

/-- The lines of a text without their line ends. A carriage return and the line feed after it are
one line end, and nothing follows a final line end. -/
def lines : Text → List Text
  | [] => []
  | '\r' :: '\n' :: rest => [] :: lines rest
  | c :: rest =>
    if isLineEnd c then [] :: lines rest
    else match lines rest with
      | [] => [[c]]
      | line :: more => (c :: line) :: more

/-- The text with a line feed for each carriage return, together with the line feed after it if
there is one. -/
def unifyLineEnds : Text → Text
  | [] => []
  | '\r' :: '\n' :: rest => '\n' :: unifyLineEnds rest
  | '\r' :: rest => '\n' :: unifyLineEnds rest
  | c :: rest => c :: unifyLineEnds rest

/-- A line cut into consecutive pieces of `size` characters, the last one shorter but not empty. An
empty line is one empty piece, and a size of zero cuts nothing. -/
def pieces (size : Nat) (line : Text) : List Text :=
  if line.length ≤ size ∨ size = 0 then [line]
  else line.take size :: pieces size (line.drop size)
termination_by line.length
decreasing_by simp only [List.length_drop]; omega

/-- Takes whole pieces off a line that goes on, for as long as it is longer than `size`: the pieces,
and what stays of the line. A size of zero takes nothing. -/
def overflow (size : Nat) (line : Text) : List Text × Text :=
  if line.length ≤ size ∨ size = 0 then ([], line)
  else
    let more := overflow size (line.drop size)
    (line.take size :: more.1, more.2)
termination_by line.length
decreasing_by simp only [List.length_drop]; omega

/-- The lines of a finished stream of output: line ends unified, the text split at line feeds, one
final empty part dropped, and each line cut into pieces of at most `size` characters. -/
def outputLines (size : Nat) (t : Text) : List Text :=
  let parts := splitAt '\n' (unifyLineEnds t)
  let finished := if parts.getLast? = some [] then parts.dropLast else parts
  finished.flatMap (pieces size)

end ScriptRun.Text
