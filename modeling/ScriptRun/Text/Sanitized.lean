import ScriptRun.Text.CharClass
import ScriptRun.Text.Escape
import ScriptRun.Text.Quoted

/-!
# Lines made safe for a log

A logged line keeps its leading white space and loses its line end, its NUL characters and its
terminal escape sequences. What is left without a visible form, tabs apart, is written as `\x` and
a hexadecimal code point, and a line longer than its limit is cut and marked.
-/

namespace ScriptRun.Text

def truncationMark : Text := "...[truncated]".toList

def defaultLogLimit : Int := 20000

/-- The text without carriage returns and line feeds at its end. -/
def chompLineEnds (t : Text) : Text :=
  (t.reverse.dropWhile fun c => c = '\r' || c = '\n').reverse

def safeChar (c : Char) : Text :=
  if c = '\t' || isPrintable c then [c] else '\\' :: 'x' :: hex 2 c.toNat

/-- Cuts a text that is longer than a positive limit, and marks the cut. -/
def truncated (limit : Int) (t : Text) : Text :=
  if 0 < limit ∧ limit < t.length then t.take limit.toNat ++ truncationMark else t

/-- A line of output as it is written to a log. A limit that is not positive cuts nothing. -/
def sanitized (limit : Int) (line : Text) : Text :=
  truncated limit ((stripEscapes ((chompLineEnds line).filter (· != '\x00'))).flatMap safeChar)

end ScriptRun.Text
