import ScriptRun.Text.Basic

/-!
# Words of a command

A command written on one line is cut into words at white space. Single quotes keep everything
between them; double quotes keep everything but a backslash before a double quote or a backslash;
outside quotes a backslash keeps the next character. Quotes that hold nothing make an empty word.
-/

namespace ScriptRun.Settings

inductive WordFault where
  | unclosedQuote
  | nothingEscaped
  deriving DecidableEq, Repr

def WordFault.message : WordFault → Text
  | .unclosedQuote => "No closing quotation".toList
  | .nothingEscaped => "No escaped character".toList

/-- Where in a command the next character stands. -/
inductive Place where
  | between
  | word
  | single
  | double
  | escaped
  | escapedInDouble
  deriving DecidableEq, Repr

def isGap (c : Char) : Bool := c = ' ' || c = '\t' || c = '\r' || c = '\n'

/-- The words of a command from a place on. `current` is the word so far, last character first. -/
def wordsFrom : Place → Text → Text → Except WordFault (List Text)
  | .between, _, [] => .ok []
  | .word, current, [] => .ok [current.reverse]
  | .single, _, [] | .double, _, [] => .error .unclosedQuote
  | .escaped, _, [] | .escapedInDouble, _, [] => .error .nothingEscaped
  | .between, _, c :: rest =>
    if isGap c then wordsFrom .between [] rest
    else if c = '\'' then wordsFrom .single [] rest
    else if c = '"' then wordsFrom .double [] rest
    else if c = '\\' then wordsFrom .escaped [] rest
    else wordsFrom .word [c] rest
  | .word, current, c :: rest =>
    if isGap c then (current.reverse :: ·) <$> wordsFrom .between [] rest
    else if c = '\'' then wordsFrom .single current rest
    else if c = '"' then wordsFrom .double current rest
    else if c = '\\' then wordsFrom .escaped current rest
    else wordsFrom .word (c :: current) rest
  | .single, current, c :: rest =>
    if c = '\'' then wordsFrom .word current rest else wordsFrom .single (c :: current) rest
  | .double, current, c :: rest =>
    if c = '"' then wordsFrom .word current rest
    else if c = '\\' then wordsFrom .escapedInDouble current rest
    else wordsFrom .double (c :: current) rest
  | .escaped, current, c :: rest => wordsFrom .word (c :: current) rest
  | .escapedInDouble, current, c :: rest =>
    if c = '"' ∨ c = '\\' then wordsFrom .double (c :: current) rest
    else wordsFrom .double (c :: '\\' :: current) rest

def words (t : Text) : Except WordFault (List Text) := wordsFrom .between [] t

end ScriptRun.Settings
