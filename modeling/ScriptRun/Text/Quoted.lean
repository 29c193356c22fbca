import ScriptRun.Text.CharClass

/-!
# Quoted texts

A text quoted for a message. Single quotes enclose it unless it holds a single quote and no double
quote. A backslash, the enclosing quote, and the tab, line feed and carriage return are written
with a backslash, and every other character without a visible form by its code point in two, four
or eight hexadecimal digits.
-/

namespace ScriptRun.Text

def quoteFor (t : Text) : Char := if t.contains '\'' && !t.contains '"' then '"' else '\''

def quotedChar (quote c : Char) : Text :=
  if c = quote ∨ c = '\\' then ['\\', c]
  else if c = '\t' then ['\\', 't']
  else if c = '\n' then ['\\', 'n']
  else if c = '\r' then ['\\', 'r']
  else if isPrintable c then [c]
  else if c.toNat < 0x100 then '\\' :: 'x' :: hex 2 c.toNat
  else if c.toNat < 0x10000 then '\\' :: 'u' :: hex 4 c.toNat
  else '\\' :: 'U' :: hex 8 c.toNat

/-- The text in quotes, on one line and made of visible characters only. -/
def quoted (t : Text) : Text :=
  let quote := quoteFor t
  quote :: t.flatMap (quotedChar quote) ++ [quote]

/-- Bytes in quotes, each as the character with its number. -/
def quotedBytes (bytes : List UInt8) : Text :=
  let t := bytes.map fun b => Char.ofNat b.toNat
  let quote := quoteFor t
  let shown (c : Char) : Text :=
    if c.toNat < 0x7f then quotedChar quote c else '\\' :: 'x' :: hex 2 c.toNat
  'b' :: quote :: t.flatMap shown ++ [quote]

end ScriptRun.Text
